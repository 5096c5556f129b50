import ShaderSources.Proofs.Expands
import ShaderSources.Proofs.PassageCuts

namespace ShaderSources

open Source

variable {Context Fault : Type}

def Expansion.sources : Expansion Context → List (Root Context)
  | done => []
  | verbatim _ _ rest => rest.sources
  | skipped _ _ rest => rest.sources
  | nested _ name source child inner rest =>
    ⟨name, source, child, inner⟩ :: (inner.sources ++ rest.sources)

def Expansion.skips : Expansion Context → List String
  | done => []
  | verbatim _ _ rest => rest.skips
  | skipped _ name rest => name :: rest.skips
  | nested _ _ _ _ inner rest => inner.skips ++ rest.skips

def Root.sources (root : Root Context) : List (Root Context) := root :: root.expansion.sources

inductive Part (Context : Type)
  | own (chunk : Chunk Context)
  | skipped (d : Directive) (name : String)
  | nested (d : Directive) (root : Root Context)

namespace Part

def chunks : Part Context → List (Chunk Context)
  | own chunk => [chunk]
  | skipped _ _ => []
  | nested _ root => root.chunks

def chunk? : Part Context → Option (Chunk Context)
  | own chunk => some chunk
  | skipped _ _ => none
  | nested _ _ => none

def directive? : Part Context → Option Directive
  | own _ => none
  | skipped d _ => some d
  | nested d _ => some d

def first : Part Context → Int
  | own chunk => chunk.line
  | skipped d _ => d.line
  | nested d _ => d.line

def next : Part Context → Int
  | own chunk => chunk.line + chunk.lineCount
  | skipped d _ => d.line + 1
  | nested d _ => d.line + 1

def Answered (provider : Provider Context Fault) (context : Context) : Part Context → Prop
  | own _ => True
  | skipped d name => ∃ asked, provider.resolve asked d.path context = .ok name
  | nested d inner => ∃ asked, provider.resolve asked d.path context = .ok inner.name ∧
      provider.fetch (asked ++ [.resolve d.path context]) d.path context =
        .ok (inner.source, inner.context)

theorem mem_filterMap_chunk? {parts : List (Part Context)} {chunk : Chunk Context} :
    chunk ∈ parts.filterMap chunk? ↔ .own chunk ∈ parts := by
  rw [List.mem_filterMap]
  constructor
  · rintro ⟨p, hp, hchunk⟩
    cases p with
    | own other =>
      cases hchunk
      exact hp
    | skipped d name => cases hchunk
    | nested d root => cases hchunk
  · intro hp
    exact ⟨_, hp, rfl⟩

theorem bounds_of_directive {p : Part Context} {d : Directive} (h : p.directive? = some d) :
    p.first = d.line ∧ p.next = d.line + 1 := by
  cases p with
  | own chunk => cases h
  | skipped e name =>
    cases h
    exact ⟨rfl, rfl⟩
  | nested e root =>
    cases h
    exact ⟨rfl, rfl⟩

end Part

def Expansion.parts (file : String) (context : Context) : Expansion Context → List (Part Context)
  | done => []
  | verbatim start text rest => .own ⟨text, file, start, context⟩ :: rest.parts file context
  | skipped d name rest => .skipped d name :: rest.parts file context
  | nested d name source child inner rest =>
    .nested d ⟨name, source, child, inner⟩ :: rest.parts file context

def Root.parts (root : Root Context) : List (Part Context) :=
  root.expansion.parts root.name root.context

def Root.ownChunks (root : Root Context) : List (Chunk Context) := root.parts.filterMap Part.chunk?

def Passage.chunk? (file : String) (context : Context) : Passage → Option (Chunk Context)
  | .verbatim start text => some ⟨text, file, start, context⟩
  | .directive _ => none
  | .malformed _ _ => none

def Marked (options : Options) (roots : List (Root Context)) (name : String) : Prop :=
  options.pragmaOnce = true ∧ ∃ root ∈ roots, root.name = name ∧ hasPragmaOnce root.source = true

def Crawled (provider : Provider Context Fault) (options : Options) (root : Root Context) : Prop :=
  (∃ name source context, (expandSource provider options name source context).result = .ok root) ∨
    ∃ path context, (expandFile provider options path context).result = .ok root

/-- `Laid provider file context before texts parts`: the lines `texts` behind `before` are taken up
by the parts, in order: each run of ordinary lines by a chunk, each live line by what the provider
answers to it. -/
inductive Laid (provider : Provider Context Fault) (file : String) (context : Context) :
    List Text → List Text → List (Part Context) → Prop
  | done {before : List Text} : Laid provider file context before [] []
  | own {before run texts : List Text} {parts : List (Part Context)} (hne : run ≠ [])
      (hrun : OrdinaryRun before run) (hnext : ∀ chunk rest, parts ≠ .own chunk :: rest)
      (hrest : Laid provider file context (before ++ run) texts parts) :
      Laid provider file context before (run ++ texts)
        (.own ⟨run.flatten, file, ((before.length + 1 : Nat) : Int), context⟩ :: parts)
  | included {before texts : List Text} {text : Text} {d : Directive} {p : Part Context}
      {parts : List (Part Context)} (hlive : Live before text d) (hd : p.directive? = some d)
      (hanswer : p.Answered provider context)
      (hrest : Laid provider file context (before ++ [text]) texts parts) :
      Laid provider file context before (text :: texts) (p :: parts)

def Root.Laid (provider : Provider Context Fault) (root : Root Context) : Prop :=
  ShaderSources.Laid provider root.name root.context [] (Text.splitLines root.source) root.parts

theorem Expansion.chunks_eq (file : String) (context : Context) (tree : Expansion Context) :
    tree.chunks file context = (tree.parts file context).flatMap Part.chunks := by
  induction tree with
  | done => rfl
  | verbatim start text rest ih => simp [Expansion.chunks, Expansion.parts, Part.chunks, ih]
  | skipped d name rest ih => simp [Expansion.chunks, Expansion.parts, Part.chunks, ih]
  | nested d name source child inner rest ihinner ihrest =>
    simp [Expansion.chunks, Expansion.parts, Part.chunks, Root.chunks, ihrest]

theorem Root.chunks_eq (root : Root Context) : root.chunks = root.parts.flatMap Part.chunks :=
  Expansion.chunks_eq root.name root.context root.expansion

theorem Expansion.chunks_perm (file : String) (context : Context) (tree : Expansion Context) :
    (tree.chunks file context).Perm ((tree.parts file context).filterMap Part.chunk? ++
      tree.sources.flatMap Root.ownChunks) := by
  induction tree generalizing file context with
  | done => exact .nil
  | verbatim start text rest ih => exact .cons _ (ih file context)
  | skipped d name rest ih => exact ih file context
  | nested d name source child inner rest ihinner ihrest =>
    have hsplit := (ihinner name child).append (ihrest file context)
    refine hsplit.trans ((List.perm_append_comm_assoc _ _ _).trans ?_)
    rw [List.append_assoc, sources, List.flatMap_cons, List.flatMap_append]
    exact .refl _

theorem Root.chunks_perm (root : Root Context) :
    root.chunks.Perm (root.sources.flatMap Root.ownChunks) :=
  Expansion.chunks_perm root.name root.context root.expansion

theorem Root.exists_source_of_mem {root : Root Context} {chunk : Chunk Context}
    (h : chunk ∈ root.chunks) : ∃ S ∈ root.sources, chunk ∈ S.ownChunks :=
  List.mem_flatMap.mp (root.chunks_perm.mem_iff.mp h)

theorem Root.mem_chunks_of_source {root S : Root Context} {chunk : Chunk Context}
    (hS : S ∈ root.sources) (h : chunk ∈ S.ownChunks) : chunk ∈ root.chunks :=
  root.chunks_perm.mem_iff.mpr (List.mem_flatMap.mpr ⟨S, hS, h⟩)

variable {provider : Provider Context Fault} {options : Options}

theorem Expands.parts_ne_own {room : Nat} {site : Site Context} {memory after : Memory Context}
    {ps : List Passage} {tree : Expansion Context} {file : String} {context : Context}
    (h : Expands provider options room site memory ps tree after)
    (hps : ∀ start text rest, ps ≠ .verbatim start text :: rest) (chunk : Chunk Context)
    (rest : List (Part Context)) : tree.parts file context ≠ .own chunk :: rest := by
  cases h with
  | done => simp [Expansion.parts]
  | verbatim => exact absurd rfl (hps _ _ _)
  | skipped => simp [Expansion.parts]
  | nested => simp [Expansion.parts]

theorem Expands.laid {room : Nat} {site : Site Context} {memory after : Memory Context}
    {ps : List Passage} {tree : Expansion Context}
    (h : Expands provider options room site memory ps tree after) {before texts : List Text}
    (hcut : Cut before texts ps) :
    Laid provider site.file site.context before texts (tree.parts site.file site.context) := by
  induction h generalizing before texts with
  | done =>
    cases hcut
    exact .done
  | verbatim hrest ih =>
    cases hcut with
    | verbatim hne hrun hnext hcut => exact .own hne hrun (hrest.parts_ne_own hnext) (ih hcut)
  | skipped hname hmet hrest ih =>
    cases hcut with
    | directive hlive hcut => exact .included hlive rfl ⟨_, hname⟩ (ih hcut)
  | nested hname hnew hcycle hfetch hinner hrest ihinner ihrest =>
    cases hcut with
    | directive hlive hcut => exact .included hlive rfl ⟨_, hname, hfetch⟩ (ihrest hcut)

theorem Expands.expands_source {room : Nat} {site : Site Context} {memory after : Memory Context}
    {ps : List Passage} {tree : Expansion Context}
    (h : Expands provider options room site memory ps tree after) {S : Root Context}
    (hS : S ∈ tree.sources) :
    ∃ room outer memory last, Expands provider options room ⟨outer, S.name, S.context⟩ memory
      (passages S.source) S.expansion last := by
  induction h with
  | done => simp [Expansion.sources] at hS
  | verbatim hrest ih => exact ih hS
  | skipped hname hmet hrest ih => exact ih hS
  | nested hname hnew hcycle hfetch hinner hrest ihinner ihrest =>
    simp only [Expansion.sources, List.mem_cons, List.mem_append] at hS
    rcases hS with rfl | hS | hS
    · exact ⟨_, _, _, _, hinner⟩
    · exact ihinner hS
    · exact ihrest hS

theorem Expands.ownChunks_eq {room : Nat} {site : Site Context} {memory after : Memory Context}
    {ps : List Passage} {tree : Expansion Context}
    (h : Expands provider options room site memory ps tree after) (file : String) (context : Context) :
    (tree.parts file context).filterMap Part.chunk? = ps.filterMap (Passage.chunk? file context) := by
  induction h with
  | done => rfl
  | verbatim hrest ih => exact congrArg (List.cons _) ih
  | skipped hname hmet hrest ih => exact ih
  | nested hname hnew hcycle hfetch hinner hrest ihinner ihrest => exact ihrest

theorem Expands.exists_directive {room : Nat} {site : Site Context} {memory after : Memory Context}
    {ps : List Passage} {tree : Expansion Context}
    (h : Expands provider options room site memory ps tree after) {d : Directive}
    (hd : .directive d ∈ ps) (file : String) (context : Context) :
    ∃ p ∈ tree.parts file context, p.directive? = some d ∧ p.Answered provider site.context := by
  induction h with
  | done => cases hd
  | verbatim hrest ih =>
    obtain ⟨p, hp, he⟩ := ih ((List.mem_cons.mp hd).resolve_left nofun)
    exact ⟨p, List.mem_cons_of_mem _ hp, he⟩
  | skipped hname hmet hrest ih =>
    rcases List.mem_cons.mp hd with hd | hd
    · cases hd
      exact ⟨_, List.mem_cons_self, rfl, _, hname⟩
    · obtain ⟨p, hp, he⟩ := ih hd
      exact ⟨p, List.mem_cons_of_mem _ hp, he⟩
  | nested hname hnew hcycle hfetch hinner hrest ihinner ihrest =>
    rcases List.mem_cons.mp hd with hd | hd
    · cases hd
      exact ⟨_, List.mem_cons_self, rfl, _, hname, hfetch⟩
    · obtain ⟨p, hp, he⟩ := ihrest hd
      exact ⟨p, List.mem_cons_of_mem _ hp, he⟩

theorem Crawled.expands {root : Root Context} (h : Crawled provider options root) :
    ∃ asked after, Expands provider options options.maxDepth.toNat ⟨[], root.name, root.context⟩
      (remember options root.name root.source ⟨[], asked⟩) (passages root.source) root.expansion
      after := by
  have behind {asked name text context} {r : Root Context}
      (hr : (expandBehind provider options asked name text context).result = .ok r) :
      ∃ asked after, Expands provider options options.maxDepth.toNat ⟨[], r.name, r.context⟩
        (remember options r.name r.source ⟨[], asked⟩) (passages r.source) r.expansion after := by
    obtain ⟨tree, after, rfl, htree⟩ := expandBehind_result_eq_ok.mp hr
    exact ⟨asked, after, htree⟩
  rcases h with ⟨name, text, context, h⟩ | ⟨path, context, h⟩
  · exact behind h
  · obtain ⟨name, text, child, -, -, h⟩ := expandFile_result_eq_ok.mp h
    exact behind h

theorem Crawled.expands_source {root S : Root Context} (h : Crawled provider options root)
    (hS : S ∈ root.sources) :
    ∃ room outer memory last, Expands provider options room ⟨outer, S.name, S.context⟩ memory
      (passages S.source) S.expansion last := by
  obtain ⟨asked, after, htree⟩ := h.expands
  rcases List.mem_cons.mp hS with rfl | hS
  · exact ⟨_, _, _, after, htree⟩
  · exact htree.expands_source hS

theorem Crawled.laid {root S : Root Context} (h : Crawled provider options root)
    (hS : S ∈ root.sources) : S.Laid provider := by
  obtain ⟨room, outer, memory, last, htree⟩ := h.expands_source hS
  exact htree.laid (cut_passages S.source)

theorem Crawled.ownChunks_eq {root S : Root Context} (h : Crawled provider options root)
    (hS : S ∈ root.sources) :
    S.ownChunks = (passages S.source).filterMap (Passage.chunk? S.name S.context) := by
  obtain ⟨room, outer, memory, last, htree⟩ := h.expands_source hS
  exact htree.ownChunks_eq S.name S.context

theorem Expansion.mem_sources_of_nested {tree : Expansion Context} {file : String}
    {context : Context} {d : Directive} {inner : Root Context}
    (h : .nested d inner ∈ tree.parts file context) : inner ∈ tree.sources := by
  induction tree with
  | done => simp [Expansion.parts] at h
  | verbatim start text rest ih =>
    rcases List.mem_cons.mp h with h | h
    · cases h
    · exact ih h
  | skipped e name rest ih =>
    rcases List.mem_cons.mp h with h | h
    · cases h
    · exact ih h
  | nested e name source child tree rest ihtree ihrest =>
    rcases List.mem_cons.mp h with h | h
    · cases h
      exact List.mem_cons_self
    · exact List.mem_cons_of_mem _ (List.mem_append_right _ (ihrest h))

theorem Expansion.sources_subset {tree : Expansion Context} {S r : Root Context}
    (hS : S ∈ tree.sources) (hr : r ∈ S.expansion.sources) : r ∈ tree.sources := by
  induction tree with
  | done => simp [Expansion.sources] at hS
  | verbatim start text rest ih => exact ih hS
  | skipped e name rest ih => exact ih hS
  | nested e name source child tree rest ihtree ihrest =>
    simp only [Expansion.sources, List.mem_cons, List.mem_append] at hS ⊢
    rcases hS with rfl | hS | hS
    · exact .inr (.inl hr)
    · exact .inr (.inl (ihtree hS))
    · exact .inr (.inr (ihrest hS))

theorem Expansion.mem_skips_of_part {tree : Expansion Context} {file : String} {context : Context}
    {d : Directive} {name : String} (h : .skipped d name ∈ tree.parts file context) :
    name ∈ tree.skips := by
  induction tree with
  | done => simp [Expansion.parts] at h
  | verbatim start text rest ih =>
    rcases List.mem_cons.mp h with h | h
    · cases h
    · exact ih h
  | skipped e other rest ih =>
    rcases List.mem_cons.mp h with h | h
    · cases h
      exact List.mem_cons_self
    · exact List.mem_cons_of_mem _ (ih h)
  | nested e other source child tree rest ihtree ihrest =>
    rcases List.mem_cons.mp h with h | h
    · cases h
    · exact List.mem_append_right _ (ihrest h)

theorem Expansion.mem_skips_of_source {tree : Expansion Context} {S : Root Context} {name : String}
    (hS : S ∈ tree.sources) (h : name ∈ S.expansion.skips) : name ∈ tree.skips := by
  induction tree with
  | done => simp [Expansion.sources] at hS
  | verbatim start text rest ih => exact ih hS
  | skipped e other rest ih => exact List.mem_cons_of_mem _ (ih hS)
  | nested e other source child tree rest ihtree ihrest =>
    simp only [Expansion.sources, List.mem_cons, List.mem_append] at hS
    rcases hS with rfl | hS | hS
    · exact List.mem_append_left _ h
    · exact List.mem_append_left _ (ihtree hS)
    · exact List.mem_append_right _ (ihrest hS)

theorem Root.mem_sources_of_inside {root S inner : Root Context} (hS : S ∈ root.sources)
    (hinner : inner ∈ S.expansion.sources) : inner ∈ root.sources := by
  rcases List.mem_cons.mp hS with rfl | hS
  · exact List.mem_cons_of_mem _ hinner
  · exact List.mem_cons_of_mem _ (Expansion.sources_subset hS hinner)

theorem Root.mem_sources_of_nested {root S inner : Root Context} {d : Directive}
    (hS : S ∈ root.sources) (h : .nested d inner ∈ S.parts) : inner ∈ root.sources :=
  Root.mem_sources_of_inside hS (Expansion.mem_sources_of_nested h)

theorem Marked.mono {roots more : List (Root Context)} {name : String}
    (h : Marked options roots name) (hsub : ∀ root ∈ roots, root ∈ more) :
    Marked options more name := by
  obtain ⟨hon, root, hroot, hname, honce⟩ := h
  exact ⟨hon, root, hsub root hroot, hname, honce⟩

theorem mem_remember {name met : String} {source : Text} {memory : Memory Context}
    (h : met ∈ (remember options name source memory).once) :
    met ∈ memory.once ∨ options.pragmaOnce = true ∧ name = met ∧ hasPragmaOnce source = true := by
  unfold remember at h
  split at h
  · rename_i hon
    rw [Bool.and_eq_true] at hon
    rcases List.mem_cons.mp h with rfl | h
    · exact .inr ⟨hon.1, rfl, hon.2⟩
    · exact .inl h
  · exact .inl h

theorem Expands.marked {room : Nat} {site : Site Context} {memory after : Memory Context}
    {ps : List Passage} {tree : Expansion Context}
    (h : Expands provider options room site memory ps tree after) {met : String}
    (hmet : met ∈ tree.skips ∨ met ∈ after.once) : met ∈ memory.once ∨ Marked options tree.sources met := by
  induction h with
  | done => exact .inl (by simpa [Expansion.skips] using hmet)
  | verbatim hrest ih => exact ih hmet
  | skipped hname hold hrest ih =>
    rcases hmet with hmet | hmet
    · rcases List.mem_cons.mp hmet with rfl | hmet
      · exact .inl hold
      · exact ih (.inl hmet)
    · exact ih (.inr hmet)
  | @nested room site memory middle after d name source child ps inner rest hname hnew hcycle hfetch
      hinner hrest ihinner ihrest =>
    -- Names met before the rest of the passages are old, or marked here or inside.
    have here : met ∈ inner.skips ∨ met ∈ middle.once →
        met ∈ memory.once ∨ Marked options (Expansion.nested d name source child inner rest).sources met := by
      intro hin
      rcases ihinner hin with hold | hmark
      · rcases mem_remember hold with hold | ⟨hon, hname, honce⟩
        · exact .inl hold
        · exact .inr ⟨hon, _, List.mem_cons_self, hname, honce⟩
      · exact .inr (hmark.mono fun r hr => List.mem_cons_of_mem _ (List.mem_append_left _ hr))
    have later : met ∈ rest.skips ∨ met ∈ after.once →
        met ∈ memory.once ∨ Marked options (Expansion.nested d name source child inner rest).sources met := by
      intro hin
      rcases ihrest hin with hold | hmark
      · exact here (.inr hold)
      · exact .inr (hmark.mono fun r hr => List.mem_cons_of_mem _ (List.mem_append_right _ hr))
    rcases hmet with hmet | hmet
    · rcases List.mem_append.mp hmet with hmet | hmet
      · exact here (.inl hmet)
      · exact later (.inl hmet)
    · exact later (.inr hmet)

theorem Crawled.marked {root S : Root Context} {d : Directive} {name : String}
    (h : Crawled provider options root) (hS : S ∈ root.sources) (hp : .skipped d name ∈ S.parts) :
    Marked options root.sources name := by
  obtain ⟨asked, after, htree⟩ := h.expands
  have hskip : name ∈ root.expansion.skips := by
    rcases List.mem_cons.mp hS with rfl | hS
    · exact Expansion.mem_skips_of_part hp
    · exact Expansion.mem_skips_of_source hS (Expansion.mem_skips_of_part hp)
  rcases htree.marked (.inl hskip) with hold | hmark
  · rcases mem_remember hold with hold | ⟨hon, hname, honce⟩
    · cases hold
    · exact ⟨hon, root, List.mem_cons_self, hname, honce⟩
  · exact hmark.mono fun r hr => List.mem_cons_of_mem _ hr

def Root.Answers (provider : Provider Context Fault) (path : String) (context : Context)
    (S : Root Context) : Prop :=
  ∃ asked, provider.resolve asked path context = .ok S.name ∧
    provider.fetch (asked ++ [.resolve path context]) path context = .ok (S.source, S.context)

theorem Expands.answers {room : Nat} {site : Site Context} {memory after : Memory Context}
    {ps : List Passage} {tree : Expansion Context}
    (h : Expands provider options room site memory ps tree after) :
    ∀ S ∈ tree.sources, ∃ path context, S.Answers provider path context := by
  induction h with
  | done => simp [Expansion.sources]
  | verbatim hrest ih => exact ih
  | skipped hname hmet hrest ih => exact ih
  | nested hname hnew hcycle hfetch hinner hrest ihinner ihrest =>
    simp only [Expansion.sources, List.mem_cons, List.mem_append]
    rintro S (rfl | hS | hS)
    · exact ⟨_, _, _, hname, hfetch⟩
    · exact ihinner S hS
    · exact ihrest S hS

theorem answers_of_expandFile {path : String} {context : Context} {root : Root Context}
    (h : (expandFile provider options path context).result = .ok root) :
    root.Answers provider path context ∧
      ∀ S ∈ root.sources, ∃ path context, S.Answers provider path context := by
  obtain ⟨name, source, child, hname, hfetch, hroot⟩ := expandFile_result_eq_ok.mp h
  obtain ⟨tree, after, rfl, htree⟩ := expandBehind_result_eq_ok.mp hroot
  have hself : Root.Answers provider path context ⟨name, source, child, tree⟩ := ⟨[], hname, hfetch⟩
  refine ⟨hself, fun S hS => ?_⟩
  rcases List.mem_cons.mp hS with rfl | hS
  · exact ⟨path, context, hself⟩
  · exact htree.answers S hS

theorem Expands.name_not_mem_chain (hon : options.detectCycles = true) {room : Nat}
    {site : Site Context} {memory after : Memory Context} {ps : List Passage} {tree : Expansion Context}
    (h : Expands provider options room site memory ps tree after) :
    ∀ S ∈ tree.sources, S.name ∉ site.chain := by
  induction h with
  | done => simp [Expansion.sources]
  | verbatim hrest ih => exact ih
  | skipped hname hmet hrest ih => exact ih
  | nested hname hnew hcycle hfetch hinner hrest ihinner ihrest =>
    simp only [Expansion.sources, List.mem_cons, List.mem_append]
    rintro S (rfl | hS | hS)
    · exact hcycle hon
    · exact fun hmem => ihinner S hS (List.mem_append_left _ hmem)
    · exact ihrest S hS

theorem Crawled.name_ne (hon : options.detectCycles = true) {root S T : Root Context}
    (h : Crawled provider options root) (hS : S ∈ root.sources) (hT : T ∈ S.expansion.sources) :
    T.name ≠ S.name := by
  obtain ⟨room, outer, memory, last, htree⟩ := h.expands_source hS
  intro hname
  apply htree.name_not_mem_chain hon T hT
  rw [hname]
  exact List.mem_append_right _ List.mem_cons_self

end ShaderSources
