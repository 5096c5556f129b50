import ShaderSources.Proofs.Catalogs
import ShaderSources.Proofs.Stages

namespace ShaderSources

open Source

variable {Context Fault : Type}

namespace IncludeError

inductive Kind
  | malformed
  | provider
  | cycle
  | depth
  deriving DecidableEq

def kind : IncludeError Fault → Kind
  | malformed .. => .malformed
  | provider .. => .provider
  | cycle .. => .cycle
  | depth .. => .depth

end IncludeError

def Raises {α : Type} (result : Except (IncludeError Fault) α) (kind : IncludeError.Kind) : Prop :=
  ∃ error, result = .error error ∧ error.kind = kind

theorem raises_error {α : Type} {error : IncludeError Fault} {kind : IncludeError.Kind} :
    Raises (.error error : Except (IncludeError Fault) α) kind ↔ error.kind = kind := by
  simp [Raises]

theorem not_raises_ok {α : Type} {a : α} {kind : IncludeError.Kind} :
    ¬ Raises (.ok a : Except (IncludeError Fault) α) kind := by
  simp [Raises]

instance {α : Type} (result : Except (IncludeError Fault) α) (kind : IncludeError.Kind) :
    Decidable (Raises result kind) :=
  match result with
  | .error _ => decidable_of_iff _ raises_error.symm
  | .ok _ => .isFalse not_raises_ok

theorem raises_map {α β : Type} {f : α → β} {result : Except (IncludeError Fault) α}
    {kind : IncludeError.Kind} : Raises (result.map f) kind ↔ Raises result kind := by
  cases result <;> simp [Raises, Except.map]

variable {provider : Provider Context Fault} {maxDepth : Int}

theorem Outcome.without_test {pragmaOnce : Bool} {room : Nat} {site : Site Context} {d : Directive}
    {memory : Memory Context} {walk : Walk Context Fault (Followed Context × Memory Context)}
    (h : Outcome provider ⟨maxDepth, true, pragmaOnce⟩ room site d memory walk)
    (hfree : ¬ Raises walk.result .cycle)
    (hinside : ∀ t : Stage Context, t.room < room →
      ¬ Raises (t.walk provider ⟨maxDepth, true, pragmaOnce⟩).result .cycle →
      t.walk provider ⟨maxDepth, false, pragmaOnce⟩ = t.walk provider ⟨maxDepth, true, pragmaOnce⟩) :
    Outcome provider ⟨maxDepth, false, pragmaOnce⟩ room site d memory walk := by
  cases h with
  | refused hrefused =>
    cases hrefused with
    | unresolved hname => exact .refused (.unresolved hname)
    | cycle => exact absurd ⟨_, rfl, rfl⟩ hfree
    | deep hname hnew => exact .refused (.deep hname hnew nofun)
    | unfetched hname hnew _ hfetch => exact .refused (.unfetched hname hnew nofun hfetch)
  | skipped hname hmet => exact .skipped hname hmet
  | @nested room _ _ _ name source child inner hname hnew hcycle hfetch hinner =>
    subst hinner
    exact .nested hname hnew nofun hfetch
      (hinside _ (Nat.lt_succ_self room) fun hraises => hfree (raises_map.mpr hraises))

theorem Stage.walk_without_test {pragmaOnce : Bool} (s : Stage Context)
    (hfree : ¬ Raises (s.walk provider ⟨maxDepth, true, pragmaOnce⟩).result .cycle) :
    s.walk provider ⟨maxDepth, false, pragmaOnce⟩ = s.walk provider ⟨maxDepth, true, pragmaOnce⟩ := by
  induction s using Stage.induction with
  | done room site memory => rfl
  | verbatim room site memory start text ps ih =>
    rw [walk_verbatim] at hfree
    rw [walk_verbatim, walk_verbatim, ih fun hraises => hfree (raises_map.mpr hraises)]
  | malformed room site memory line m ps => rfl
  | directive room site memory d ps ih ihroom =>
    have hd := outcome_follow provider ⟨maxDepth, true, pragmaOnce⟩ room site d memory
    rcases hf : follow provider ⟨maxDepth, true, pragmaOnce⟩ room site d memory with
      ⟨events, error | ⟨followed, after⟩⟩
    · rw [walk_of_error hf] at hfree ⊢
      rw [hf] at hd
      rw [raises_error] at hfree
      exact walk_of_error (hd.without_test (mt raises_error.mp hfree) ihroom).follow_eq
    · rw [walk_of_ok hf] at hfree ⊢
      rw [hf] at hd
      rw [walk_of_ok (hd.without_test not_raises_ok ihroom).follow_eq,
        ih after fun hraises => hfree (raises_map.mpr hraises)]

/-- A passage that ends without the test for a cycle, or exceeds the depth, wherever it stands. -/
def Harmless (provider : Provider Context Fault) (maxDepth : Int) (p : Passage) : Prop :=
  ∀ (room : Nat) (site : Site Context) (memory : Memory Context) (error : IncludeError Fault),
    memory.once = [] →
      (Stage.walk provider ⟨maxDepth, false, false⟩ ⟨room, site, memory, [p]⟩).result = .error error →
        error.kind = .depth

theorem harmless_verbatim (start : Nat) (text : Text) :
    Harmless provider maxDepth (.verbatim start text) := by
  intro room site memory error _ h
  cases h

theorem Harmless.walk_cons {p : Passage} (h : Harmless provider maxDepth p) (room : Nat)
    (site : Site Context) {memory : Memory Context} (hnone : memory.once = []) :
    (∀ ps, Raises (Stage.walk provider ⟨maxDepth, false, false⟩
      ⟨room, site, memory, p :: ps⟩).result .depth) ∨
    ∃ after f, after.once = [] ∧
      ∀ ps, (Stage.walk provider ⟨maxDepth, false, false⟩ ⟨room, site, memory, p :: ps⟩).result =
        (Stage.walk provider ⟨maxDepth, false, false⟩ ⟨room, site, after, ps⟩).result.map f := by
  cases p with
  | verbatim start text =>
    exact .inr ⟨memory, _, hnone, fun ps => congrArg Walk.result Stage.walk_verbatim⟩
  | malformed line m => exact nomatch h room site memory _ hnone rfl
  | directive d =>
    rcases hf : follow provider ⟨maxDepth, false, false⟩ room site d memory with
      ⟨events, error | ⟨followed, after⟩⟩
    · have hdeep := h room site memory error hnone (by rw [Stage.walk_of_error hf])
      refine .inl fun ps => ⟨error, ?_, hdeep⟩
      rw [Stage.walk_of_error hf]
    · have hafter := ((Stage.expands_of_ok hf).once_eq rfl).trans hnone
      exact .inr ⟨after, _, hafter, fun ps => congrArg Walk.result (Stage.walk_of_ok hf)⟩

theorem tooDeep_of_harmless {ps qs : List Passage} (hps : ∀ p ∈ ps, Harmless provider maxDepth p)
    {room : Nat} {site : Site Context}
    (h : ∀ memory : Memory Context, memory.once = [] →
      Raises (Stage.walk provider ⟨maxDepth, false, false⟩ ⟨room, site, memory, qs⟩).result .depth)
    {memory : Memory Context} (hnone : memory.once = []) :
    Raises (Stage.walk provider ⟨maxDepth, false, false⟩ ⟨room, site, memory, ps ++ qs⟩).result
      .depth := by
  induction ps generalizing memory with
  | nil => exact h memory hnone
  | cons p ps ih =>
    rw [List.forall_mem_cons] at hps
    rcases hps.1.walk_cons room site hnone with hdeep | ⟨after, f, hafter, hf⟩
    · exact hdeep (ps ++ qs)
    · rw [List.cons_append, hf, raises_map]
      exact ih hps.2 hafter

theorem kind_of_harmless {ps : List Passage} (hps : ∀ p ∈ ps, Harmless provider maxDepth p)
    {room : Nat} {site : Site Context} {memory : Memory Context} (hnone : memory.once = [])
    {error : IncludeError Fault}
    (h : (Stage.walk provider ⟨maxDepth, false, false⟩ ⟨room, site, memory, ps⟩).result =
      .error error) : error.kind = .depth := by
  induction ps generalizing memory with
  | nil => cases h
  | cons p ps ih =>
    rw [List.forall_mem_cons] at hps
    rcases hps.1.walk_cons room site hnone with hdeep | ⟨after, f, hafter, hf⟩
    · obtain ⟨other, hother, hkind⟩ := hdeep ps
      cases hother.symm.trans h
      exact hkind
    · rw [hf] at h
      exact ih hps.2 hafter (by rw [Walk.eq_of_map_eq_error h])

theorem raises_of_follow {options : Options} {room : Nat} {site : Site Context}
    {memory : Memory Context} {d : Directive} {kind : IncludeError.Kind}
    (h : Raises (follow provider options room site d memory).result kind) (ps : List Passage) :
    Raises (Stage.walk provider options ⟨room, site, memory, .directive d :: ps⟩).result kind := by
  obtain ⟨error, he, hkind⟩ := h
  refine ⟨error, ?_, hkind⟩
  rw [Stage.walk_of_error (congrArg (Walk.mk _) he)]

variable {text : String → Except Fault Text}

theorem ByPath.follow_zero (hpath : ByPath provider text) (maxDepth : Int) (site : Site Context)
    (d : Directive) {memory : Memory Context} (hnone : memory.once = []) :
    Raises (follow provider ⟨maxDepth, false, false⟩ 0 site d memory).result .depth := by
  have hnew : d.path ∉ memory.once := by simp [hnone]
  have hdeep : Refusal provider ⟨maxDepth, false, false⟩ 0 site d memory _ _ :=
    .deep (hpath.resolve_eq memory.asked d.path site.context) hnew nofun
  rw [hdeep.follow_eq]
  exact raises_error.mpr rfl

theorem ByPath.follow_succ (hpath : ByPath provider text) (maxDepth : Int) (room : Nat)
    (site : Site Context) {d : Directive} {source : Text} (htext : text d.path = .ok source)
    {memory : Memory Context} (hnone : memory.once = []) :
    ∃ after, ∃ f : _ → Followed Context × Memory Context, after.once = [] ∧
      (follow provider ⟨maxDepth, false, false⟩ (room + 1) site d memory).result =
        (Stage.walk provider ⟨maxDepth, false, false⟩
          ⟨room, site.inside d.path site.context, after, passages source⟩).result.map f := by
  have hnew : d.path ∉ memory.once := by simp [hnone]
  have hnested : Outcome provider ⟨maxDepth, false, false⟩ (room + 1) site d memory _ :=
    .nested (hpath.resolve_eq memory.asked d.path site.context) hnew nofun
      (hpath.fetch_of_text htext _ site.context) rfl
  refine ⟨_, _, ?_, congrArg Walk.result hnested.follow_eq⟩
  rw [remember_of_off rfl]
  exact hnone

theorem Harmless.of_source (hpath : ByPath provider text) {d : Directive} {source : Text}
    (htext : text d.path = .ok source)
    (hsource : ∀ p ∈ passages source, Harmless provider maxDepth p) :
    Harmless provider maxDepth (.directive d) := by
  intro room site memory error hnone h
  rcases hf : follow provider ⟨maxDepth, false, false⟩ room site d memory with
    ⟨events, failed | ⟨followed, after⟩⟩
  · rw [Stage.walk_of_error hf] at h
    cases h
    cases room with
    | zero =>
      have hdeep := hpath.follow_zero maxDepth site d hnone
      rwa [hf, raises_error] at hdeep
    | succ room =>
      obtain ⟨after, f, hafter, hnested⟩ := hpath.follow_succ maxDepth room site htext hnone
      rw [hf] at hnested
      exact kind_of_harmless hsource hafter (by rw [Walk.eq_of_map_eq_error hnested.symm])
  · rw [Stage.walk_of_ok hf] at h
    cases h

theorem Expands.harmless (hpath : ByPath provider text) {room : Nat} {site : Site Context}
    {memory after : Memory Context} {ps : List Passage} {tree : Expansion Context}
    (h : Expands provider ⟨maxDepth, true, false⟩ room site memory ps tree after)
    (hnone : memory.once = []) : ∀ p ∈ ps, Harmless provider maxDepth p := by
  induction h with
  | done => simp
  | verbatim hrest ih =>
    rw [List.forall_mem_cons]
    exact ⟨harmless_verbatim _ _, ih hnone⟩
  | skipped hname hmet => simp [hnone] at hmet
  | nested hname hnew hcycle hfetch hinner hrest ihinner ihrest =>
    cases hpath.name_eq hname
    obtain ⟨htext, rfl⟩ := hpath.text_of_fetch hfetch
    rw [List.forall_mem_cons]
    exact ⟨.of_source hpath htext (ihinner hnone), ihrest ((hinner.once_eq rfl).trans hnone)⟩

/-- One source includes another, and nothing before that include line ends a crawl, unless the depth
is exceeded there. -/
def Leads (provider : Provider Context Fault) (text : String → Except Fault Text) (maxDepth : Int)
    (name other : String) : Prop :=
  ∃ source front d back, text name = .ok source ∧ passages source = front ++ .directive d :: back ∧
    (∀ p ∈ front, Harmless provider maxDepth p) ∧ d.path = other

theorem tooDeep_of_leads (hpath : ByPath provider text) {names : List String}
    (htrap : ∀ name ∈ names, ∃ other ∈ names, Leads provider text maxDepth name other) {name : String}
    {source : Text} (hname : name ∈ names) (htext : text name = .ok source) (room : Nat)
    (site : Site Context) {memory : Memory Context} (hnone : memory.once = []) :
    Raises (Stage.walk provider ⟨maxDepth, false, false⟩ ⟨room, site, memory, passages source⟩).result
      .depth := by
  -- Every level that is left leads to another name of the trap, with one level less.
  induction room generalizing name source site memory with
  | zero =>
    obtain ⟨other, hother, source', front, d, back, htext', hsplit, hfront, rfl⟩ := htrap name hname
    cases htext.symm.trans htext'
    rw [hsplit]
    refine tooDeep_of_harmless hfront (fun memory hnone => ?_) hnone
    exact raises_of_follow (hpath.follow_zero maxDepth site d hnone) back
  | succ room ih =>
    obtain ⟨other, hother, source', front, d, back, htext', hsplit, hfront, rfl⟩ := htrap name hname
    obtain ⟨-, -, next, -, -, -, hnext, -⟩ := htrap d.path hother
    cases htext.symm.trans htext'
    rw [hsplit]
    refine tooDeep_of_harmless hfront (fun memory hnone => raises_of_follow ?_ back) hnone
    obtain ⟨after, f, hafter, hnested⟩ := hpath.follow_succ maxDepth room site hnext hnone
    rw [hnested, raises_map]
    exact ih hother hnext _ hafter

/-- Where a crawl with the test for a cycle stands: of the source that it is in, what was passed is
harmless, and every source around leads to one on the chain. -/
structure OnTrack (provider : Provider Context Fault) (text : String → Except Fault Text)
    (maxDepth : Int) (root : String) (t : Stage Context) : Prop where
  once : t.memory.once = []
  here : ∃ source front, text t.site.file = .ok source ∧ passages source = front ++ t.rest ∧
    ∀ p ∈ front, Harmless provider maxDepth p
  around : ∀ name ∈ t.site.outer, ∃ other ∈ t.site.chain, Leads provider text maxDepth name other
  root : root ∈ t.site.chain

theorem OnTrack.passed {root : String} {room : Nat} {site : Site Context}
    {memory after : Memory Context} {p : Passage} {ps : List Passage}
    (h : OnTrack provider text maxDepth root ⟨room, site, memory, p :: ps⟩)
    (hp : Harmless provider maxDepth p) (hnone : after.once = []) :
    OnTrack provider text maxDepth root ⟨room, site, after, ps⟩ := by
  obtain ⟨source, front, htext, hsplit, hfront⟩ := h.here
  refine ⟨hnone, ⟨source, front ++ [p], htext, by simpa using hsplit, ?_⟩, h.around, h.root⟩
  simp only [List.mem_append, List.mem_singleton]
  rintro q (hq | rfl)
  · exact hfront q hq
  · exact hp

theorem OnTrack.leads {root : String} {t : Stage Context} {d : Directive} {ps : List Passage}
    (h : OnTrack provider text maxDepth root t) (hrest : t.rest = .directive d :: ps) :
    Leads provider text maxDepth t.site.file d.path := by
  obtain ⟨source, front, htext, hsplit, hfront⟩ := h.here
  exact ⟨source, front, d, ps, htext, hrest ▸ hsplit, hfront, rfl⟩

theorem OnTrack.chain_leads {root : String} {t : Stage Context} {d : Directive} {ps : List Passage}
    (h : OnTrack provider text maxDepth root t) (hrest : t.rest = .directive d :: ps)
    {chain : List String} (hsub : ∀ name ∈ t.site.chain, name ∈ chain) (hnext : d.path ∈ chain) :
    ∀ name ∈ t.site.chain, ∃ other ∈ chain, Leads provider text maxDepth name other := by
  intro name hname
  rcases List.mem_append.mp hname with hname | hname
  · obtain ⟨other, hother, hleads⟩ := h.around name hname
    exact ⟨other, hsub other hother, hleads⟩
  · rw [List.mem_singleton.mp hname]
    exact ⟨d.path, hnext, h.leads hrest⟩

theorem Advances.onTrack (hpath : ByPath provider text) {root : String} {s t : Stage Context}
    {events : List (Event Context)} (h : Advances provider ⟨maxDepth, true, false⟩ s events t)
    (hs : OnTrack provider text maxDepth root s) : OnTrack provider text maxDepth root t := by
  cases h with
  | verbatim => exact hs.passed (harmless_verbatim _ _) hs.once
  | @past room site memory after d ps events followed hd =>
    have hnone : memory.once = [] := hs.once
    have hline := Stage.expands_of_ok hd
    exact hs.passed (hline.harmless hpath hnone _ List.mem_cons_self) ((hline.once_eq rfl).trans hnone)
  | @into room site memory d name source child ps hname hnew hcycle hfetch =>
    cases hpath.name_eq hname
    obtain ⟨htext, rfl⟩ := hpath.text_of_fetch hfetch
    have hsub : ∀ name ∈ site.chain, name ∈ (site.inside d.path site.context).chain :=
      fun name hname => List.mem_append_left _ hname
    refine ⟨hs.once, ⟨source, [], htext, rfl, by simp⟩, ?_, hsub root hs.root⟩
    exact hs.chain_leads rfl hsub (List.mem_append_right _ List.mem_cons_self)

theorem Reaches.onTrack (hpath : ByPath provider text) {root : String} {s t : Stage Context}
    {events : List (Event Context)} (h : Reaches provider ⟨maxDepth, true, false⟩ s events t)
    (hs : OnTrack provider text maxDepth root s) : OnTrack provider text maxDepth root t := by
  induction h with
  | refl => exact hs
  | next hstep h ih => exact ih (hstep.onTrack hpath hs)

theorem Halts.chain_leads (hpath : ByPath provider text) {root : String} {t : Stage Context}
    {last : List (Event Context)} {error : IncludeError Fault}
    (h : Halts provider ⟨maxDepth, true, false⟩ t last error) (hkind : error.kind = .cycle)
    (ht : OnTrack provider text maxDepth root t) :
    ∀ name ∈ t.site.chain, ∃ other ∈ t.site.chain, Leads provider text maxDepth name other := by
  cases h with
  | malformed => cases hkind
  | refused hrefused =>
    cases hrefused with
    | unresolved => cases hkind
    | cycle hname hnew hon hchain =>
      cases hpath.name_eq hname
      exact ht.chain_leads rfl (fun _ h => h) hchain
    | deep => cases hkind
    | unfetched => cases hkind

theorem tooDeep_of_cycle (hpath : ByPath provider text) {asked : List (Call Context)} {name : String}
    {source : Text} {context : Context} (htext : text name = .ok source)
    (h : Raises ((Stage.start ⟨maxDepth, true, false⟩ asked name source context).walk provider
      ⟨maxDepth, true, false⟩).result .cycle) :
    Raises ((Stage.start ⟨maxDepth, false, false⟩ asked name source context).walk provider
      ⟨maxDepth, false, false⟩).result .depth := by
  obtain ⟨error, herror, hkind⟩ := h
  obtain ⟨before, t, last, hreach, hhalt, -⟩ :=
    Stage.exists_halts (congrArg (Walk.mk _) herror)
  have hstart : OnTrack provider text maxDepth name
      (Stage.start ⟨maxDepth, true, false⟩ asked name source context) :=
    ⟨rfl, ⟨source, [], htext, rfl, by simp⟩, by simp [Stage.start], List.mem_cons_self⟩
  have ht := hreach.onTrack hpath hstart
  exact tooDeep_of_leads hpath (hhalt.chain_leads hpath hkind ht) ht.root htext _ _ rfl

theorem detectCycles_catalog (catalog : Catalog) (path : String) (context : Context) (maxDepth : Int) :
    (Raises (expandFile catalog.provider ⟨maxDepth, true, false⟩ path context).result .cycle →
      Raises (expandFile catalog.provider ⟨maxDepth, false, false⟩ path context).result .depth) ∧
    (¬ Raises (expandFile catalog.provider ⟨maxDepth, true, false⟩ path context).result .cycle →
      expandFile catalog.provider ⟨maxDepth, false, false⟩ path context =
        expandFile catalog.provider ⟨maxDepth, true, false⟩ path context) := by
  cases htext : catalog.text path with
  | error fault =>
    simp only [catalog.byPath.expandFile_of_error htext, raises_error]
    exact ⟨nofun, fun _ => trivial⟩
  | ok source =>
    have hopens (options : Options) : Opens catalog.provider options
        (expandFile catalog.provider options path context) _ path source context :=
      .file rfl (catalog.byPath.fetch_of_text htext _ context)
    simp only [(hopens _).walk_eq, raises_map]
    constructor
    · exact tooDeep_of_cycle catalog.byPath htext
    · intro hfree
      have hsame := Stage.walk_without_test _ hfree
      rw [← hsame]
      rfl

def loops : Catalog :=
  ⟨[("a", .text "x\n#include \"b\"\n"), ("b", .text "#include \"c\"\n#include \"a\"\n"),
    ("c", .text "y\n")]⟩

theorem detectCycles_catalog_loops :
    Raises (expandFile loops.provider ⟨3, true, false⟩ "a" Value.null).result .cycle ∧
      Raises (expandFile loops.provider ⟨3, false, false⟩ "a" Value.null).result .depth ∧
      ¬ Raises (expandFile loops.provider ⟨3, true, false⟩ "c" Value.null).result .cycle ∧
      expandFile loops.provider ⟨3, false, false⟩ "c" Value.null =
        expandFile loops.provider ⟨3, true, false⟩ "c" .null := by
  have hcycle : Raises (expandFile loops.provider ⟨3, true, false⟩ "a" Value.null).result .cycle := by
    decide +kernel
  have hfree : ¬ Raises (expandFile loops.provider ⟨3, true, false⟩ "c" Value.null).result .cycle := by
    decide +kernel
  exact ⟨hcycle, (detectCycles_catalog loops "a" Value.null 3).1 hcycle, hfree,
    (detectCycles_catalog loops "c" Value.null 3).2 hfree⟩

end ShaderSources
