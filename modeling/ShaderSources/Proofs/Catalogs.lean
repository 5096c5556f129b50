import Mathlib.Logic.Relation
import ShaderSources.Proofs.Sources
import ShaderSources.Provider.Catalog

namespace ShaderSources

open Source

def Catalog.text (catalog : Catalog) (path : String) : Except Fault Text :=
  match catalog.sources.lookup path with
  | some (.text s) => .ok s.toList
  | some value => .error (.notText value.kindName)
  | none => .error (.notFound path)

structure ByPath {Context Fault : Type} (provider : Provider Context Fault)
    (text : String → Except Fault Text) : Prop where
  resolve_eq : ∀ asked path context, provider.resolve asked path context = .ok path
  fetch_eq : ∀ asked path context,
    provider.fetch asked path context = (text path).map fun source => (source, context)

theorem Catalog.byPath {Context : Type} (catalog : Catalog) :
    ByPath (catalog.provider : Provider Context Fault) catalog.text := by
  constructor
  · exact fun asked path context => rfl
  · intro asked path context
    simp only [provider, source, text]
    cases catalog.sources.lookup path with
    | none => rfl
    | some value => cases value <;> rfl

variable {Context Fault : Type} {provider : Provider Context Fault}
  {text : String → Except Fault Text}

theorem ByPath.name_eq (hpath : ByPath provider text) {asked : List (Call Context)}
    {path name : String} {context : Context} (h : provider.resolve asked path context = .ok name) :
    name = path := by
  rw [hpath.resolve_eq] at h
  exact (Except.ok.inj h).symm

-- The earlier calls make no difference.
theorem ByPath.resolve_again (hpath : ByPath provider text) {asked : List (Call Context)}
    {path name : String} {context : Context} (h : provider.resolve asked path context = .ok name)
    (other : List (Call Context)) : provider.resolve other path context = .ok name := by
  rw [hpath.resolve_eq] at h ⊢
  exact h

theorem ByPath.fetch_again (hpath : ByPath provider text) {asked : List (Call Context)}
    {path : String} {context : Context} {answer : Text × Context}
    (h : provider.fetch asked path context = .ok answer) (other : List (Call Context)) :
    provider.fetch other path context = .ok answer := by
  rw [hpath.fetch_eq] at h ⊢
  exact h

theorem ByPath.fetch_of_text (hpath : ByPath provider text) {path : String} {source : Text}
    (h : text path = .ok source) (asked : List (Call Context)) (context : Context) :
    provider.fetch asked path context = .ok (source, context) := by
  rw [hpath.fetch_eq, h]
  rfl

theorem ByPath.text_of_fetch (hpath : ByPath provider text) {asked : List (Call Context)}
    {path : String} {source : Text} {context child : Context}
    (h : provider.fetch asked path context = .ok (source, child)) :
    text path = .ok source ∧ child = context := by
  rw [hpath.fetch_eq] at h
  cases htext : text path with
  | error fault =>
    rw [htext] at h
    cases h
  | ok other =>
    rw [htext] at h
    cases h
    exact ⟨rfl, rfl⟩

theorem ByPath.expandFile_of_error (hpath : ByPath provider text) {options : Options} {path : String}
    {context : Context} {fault : Fault} (h : text path = .error fault) :
    expandFile provider options path context =
      ⟨[⟨[], [], .call (.resolve path context)⟩, ⟨[], [], .call (.fetch path context)⟩],
        .error (.provider path none none [path] (some fault))⟩ := by
  rw [expandFile, hpath.resolve_eq, hpath.fetch_eq, h]
  rfl

def Includes (text : String → Except Fault Text) (name other : String) : Prop :=
  ∃ source d, text name = .ok source ∧ .directive d ∈ passages source ∧ d.path = other

variable {options : Options}

theorem ByPath.crawled (hpath : ByPath provider text) {path : String} {context : Context}
    {root : Root Context} (h : (expandFile provider options path context).result = .ok root) :
    Crawled provider options root ∧ root.name = path ∧ text path = .ok root.source ∧
      root.context = context := by
  refine ⟨.inr ⟨path, context, h⟩, ?_⟩
  obtain ⟨name, source, child, hname, hfetch, hroot⟩ := expandFile_result_eq_ok.mp h
  obtain ⟨tree, after, rfl, htree⟩ := expandBehind_result_eq_ok.mp hroot
  exact ⟨hpath.name_eq hname, hpath.text_of_fetch hfetch⟩

theorem Expands.source_eq (hpath : ByPath provider text) {room : Nat} {site : Site Context}
    {memory after : Memory Context} {ps : List Passage} {tree : Expansion Context}
    (h : Expands provider options room site memory ps tree after) :
    ∀ S ∈ tree.sources, text S.name = .ok S.source ∧ S.context = site.context := by
  induction h with
  | done => simp [Expansion.sources]
  | verbatim hrest ih => exact ih
  | skipped hname hmet hrest ih => exact ih
  | nested hname hnew hcycle hfetch hinner hrest ihinner ihrest =>
    cases hpath.name_eq hname
    obtain ⟨htext, rfl⟩ := hpath.text_of_fetch hfetch
    simp only [Expansion.sources, List.mem_cons, List.mem_append]
    rintro S (rfl | hS | hS)
    · exact ⟨htext, rfl⟩
    · exact ihinner S hS
    · exact ihrest S hS

theorem Expands.reachable (hpath : ByPath provider text) {path : String} {room : Nat}
    {site : Site Context} {memory after : Memory Context} {ps : List Passage} {tree : Expansion Context}
    (h : Expands provider options room site memory ps tree after)
    (hps : ∀ d, .directive d ∈ ps → Relation.ReflTransGen (Includes text) path d.path) :
    ∀ S ∈ tree.sources, Relation.ReflTransGen (Includes text) path S.name := by
  induction h with
  | done => simp [Expansion.sources]
  | verbatim hrest ih => exact ih fun d hd => hps d (List.mem_cons_of_mem _ hd)
  | skipped hname hmet hrest ih => exact ih fun d hd => hps d (List.mem_cons_of_mem _ hd)
  | @nested room site memory middle after d name source child ps inner rest hname hnew hcycle hfetch
      hinner hrest ihinner ihrest =>
    cases hpath.name_eq hname
    obtain ⟨htext, -⟩ := hpath.text_of_fetch hfetch
    have hhere := hps d List.mem_cons_self
    simp only [Expansion.sources, List.mem_cons, List.mem_append]
    rintro S (rfl | hS | hS)
    · exact hhere
    · exact ihinner (fun e he => hhere.tail ⟨source, e, htext, he, rfl⟩) S hS
    · exact ihrest (fun e he => hps e (List.mem_cons_of_mem _ he)) S hS

section

variable {path : String} {context : Context} {root : Root Context}

theorem ByPath.source_eq (hpath : ByPath provider text)
    (h : (expandFile provider options path context).result = .ok root) {S : Root Context}
    (hS : S ∈ root.sources) : text S.name = .ok S.source ∧ S.context = context := by
  obtain ⟨hcrawled, rfl, htext, rfl⟩ := hpath.crawled h
  obtain ⟨asked, after, htree⟩ := hcrawled.expands
  rcases List.mem_cons.mp hS with rfl | hS
  · exact ⟨htext, rfl⟩
  · exact htree.source_eq hpath S hS

-- What is skipped has been met, so its name is among those of the sources as well.
theorem ByPath.exists_source_of_includes (hpath : ByPath provider text)
    (h : (expandFile provider options path context).result = .ok root) {S : Root Context}
    (hS : S ∈ root.sources) {name : String} (hname : Includes text S.name name) :
    ∃ T ∈ root.sources, T.name = name := by
  obtain ⟨source, d, htext, hd, rfl⟩ := hname
  cases (hpath.source_eq h hS).1.symm.trans htext
  have hcrawled := (hpath.crawled h).1
  obtain ⟨room, outer, memory, last, htree⟩ := hcrawled.expands_source hS
  obtain ⟨p, hp, he, hanswer⟩ := htree.exists_directive hd S.name S.context
  cases p with
  | own chunk => cases he
  | skipped e name =>
    cases he
    obtain ⟨asked, hresolved⟩ := hanswer
    obtain ⟨-, T, hT, hname, -⟩ := hcrawled.marked hS hp
    exact ⟨T, hT, hname.trans (hpath.name_eq hresolved)⟩
  | nested e inner =>
    cases he
    obtain ⟨asked, hresolved, -⟩ := hanswer
    exact ⟨inner, Root.mem_sources_of_nested hS hp, hpath.name_eq hresolved⟩

theorem ByPath.exists_source_iff (hpath : ByPath provider text)
    (h : (expandFile provider options path context).result = .ok root) (name : String) :
    (∃ S ∈ root.sources, S.name = name) ↔ Relation.ReflTransGen (Includes text) path name := by
  constructor
  · rintro ⟨S, hS, rfl⟩
    obtain ⟨hcrawled, rfl, htext, -⟩ := hpath.crawled h
    obtain ⟨asked, after, htree⟩ := hcrawled.expands
    rcases List.mem_cons.mp hS with rfl | hS
    · exact .refl
    · exact htree.reachable hpath (fun d hd => .single ⟨_, d, htext, hd, rfl⟩) S hS
  · intro hreach
    induction hreach with
    | refl => exact ⟨root, List.mem_cons_self, (hpath.crawled h).2.1⟩
    | tail hreach hname ih =>
      obtain ⟨S, hS, rfl⟩ := ih
      exact hpath.exists_source_of_includes h hS hname

end

end ShaderSources
