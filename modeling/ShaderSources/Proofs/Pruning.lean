import ShaderSources.Proofs.Catalogs
import ShaderSources.Proofs.Placement

namespace ShaderSources

open Source Text

variable {Context Fault : Type} {provider : Provider Context Fault}
  {text : String → Except Fault Text}

theorem Expands.pruned (hpath : ByPath provider text) {maxDepth : Int} {detectCycles : Bool}
    {room : Nat} {site : Site Context} {ps : List Passage} {old after : Memory Context}
    {tree : Expansion Context}
    (h : Expands provider ⟨maxDepth, detectCycles, false⟩ room site old ps tree after)
    (hold : old.once = []) (memory : Memory Context) :
    ∃ pruned last, Expands provider ⟨maxDepth, detectCycles, true⟩ room site memory ps pruned last ∧
      ∀ file context, (pruned.chunks file context).Sublist (tree.chunks file context) := by
  induction h generalizing memory with
  | done => exact ⟨_, _, .done, fun _ _ => .slnil⟩
  | verbatim hrest ih =>
    obtain ⟨pruned, last, hpruned, hsub⟩ := ih hold memory
    exact ⟨_, last, .verbatim hpruned, fun file context => (hsub file context).cons_cons _⟩
  | skipped hname hmet => simp [hold] at hmet
  | @nested room site _ middle after d name source child ps inner rest hname hnew hcycle hfetch hinner
      hrest ihinner ihrest =>
    have hmiddle : middle.once = [] := (hinner.once_eq rfl).trans hold
    have hagain := hpath.resolve_again hname memory.asked
    by_cases hmet : name ∈ memory.once
    -- A source that is met again is left out with all that it includes.
    · obtain ⟨pruned, last, hpruned, hsub⟩ := ihrest hmiddle (memory.resolved d site.context)
      exact ⟨_, last, .skipped hagain hmet hpruned, fun file context =>
        (hsub file context).trans (List.sublist_append_right ..)⟩
    · obtain ⟨pruned, last, hpruned, hsub⟩ :=
        ihinner hold (remember _ name source (memory.fetched d site.context))
      obtain ⟨more, final, hmore, hsub'⟩ := ihrest hmiddle last
      exact ⟨_, final, .nested hagain hmet hcycle (hpath.fetch_again hfetch _) hpruned hmore,
        fun file context => (hsub name child).append (hsub' file context)⟩

theorem exists_pruned (hpath : ByPath provider text) {maxDepth : Int} {detectCycles : Bool}
    {path : String} {context : Context} {root : Root Context}
    (h : (expandFile provider ⟨maxDepth, detectCycles, false⟩ path context).result = .ok root) :
    ∃ pruned, (expandFile provider ⟨maxDepth, detectCycles, true⟩ path context).result = .ok pruned ∧
      pruned.chunks.Sublist root.chunks := by
  obtain ⟨name, source, child, hname, hfetch, hroot⟩ := expandFile_result_eq_ok.mp h
  obtain ⟨tree, after, rfl, htree⟩ := expandBehind_result_eq_ok.mp hroot
  obtain ⟨pruned, last, hpruned, hsub⟩ := htree.pruned hpath rfl
    (remember ⟨maxDepth, detectCycles, true⟩ name source
      ⟨[], [.resolve path context, .fetch path context]⟩)
  refine ⟨⟨name, source, child, pruned⟩, ?_, hsub name child⟩
  exact expandFile_result_eq_ok.mpr ⟨name, source, child, hname, hfetch,
    expandBehind_result_eq_ok.mpr ⟨pruned, last, rfl, hpruned⟩⟩

variable {options : Options}

theorem Expands.name_not_mem {room : Nat} {site : Site Context} {memory after : Memory Context}
    {ps : List Passage} {tree : Expansion Context}
    (h : Expands provider options room site memory ps tree after) :
    ∀ S ∈ tree.sources, S.name ∉ memory.once := by
  induction h with
  | done => simp [Expansion.sources]
  | verbatim hrest ih => exact ih
  | skipped hname hmet hrest ih => exact ih
  | @nested _ _ _ _ _ _ _ source _ _ _ _ hname hnew hcycle hfetch hinner hrest ihinner ihrest =>
    simp only [Expansion.sources, List.mem_cons, List.mem_append]
    rintro S (rfl | hS | hS) hold
    · exact hnew hold
    · exact ihinner S hS (mem_remember_of_mem source hold)
    · exact ihrest S hS (hinner.mem_after (mem_remember_of_mem source hold))

theorem Expands.name_mem_after (hon : options.pragmaOnce = true) {room : Nat} {site : Site Context}
    {memory after : Memory Context} {ps : List Passage} {tree : Expansion Context}
    (h : Expands provider options room site memory ps tree after) :
    ∀ S ∈ tree.sources, hasPragmaOnce S.source = true → S.name ∈ after.once := by
  induction h with
  | done => simp [Expansion.sources]
  | verbatim hrest ih => exact ih
  | skipped hname hmet hrest ih => exact ih
  | nested hname hnew hcycle hfetch hinner hrest ihinner ihrest =>
    simp only [Expansion.sources, List.mem_cons, List.mem_append]
    rintro S (rfl | hS | hS) honce
    · exact hrest.mem_after (hinner.mem_after (mem_remember_self hon honce))
    · exact hrest.mem_after (ihinner S hS honce)
    · exact ihrest S hS honce

theorem Expands.sources_pairwise (hon : options.pragmaOnce = true) {room : Nat} {site : Site Context}
    {memory after : Memory Context} {ps : List Passage} {tree : Expansion Context}
    (h : Expands provider options room site memory ps tree after) :
    tree.sources.Pairwise fun S T => hasPragmaOnce S.source = true → S.name ≠ T.name := by
  induction h with
  | done => exact .nil
  | verbatim hrest ih => exact ih
  | skipped hname hmet hrest ih => exact ih
  | @nested _ site memory _ _ d name source _ _ _ _ _ hnew hcycle hfetch hinner hrest ihinner ihrest =>
    rw [Expansion.sources, List.pairwise_cons, List.pairwise_append]
    refine ⟨?_, ihinner, ihrest, ?_⟩
    · intro T hT honce hname
      have hself : name ∈ (remember options name source (memory.fetched d site.context)).once :=
        mem_remember_self hon honce
      rcases List.mem_append.mp hT with hT | hT
      · exact hinner.name_not_mem T hT (hname ▸ hself)
      · exact hrest.name_not_mem T hT (hname ▸ hinner.mem_after hself)
    · intro S hS T hT honce hname
      exact hrest.name_not_mem T hT (hname ▸ hinner.name_mem_after hon S hS honce)

theorem Crawled.sources_pairwise (hon : options.pragmaOnce = true) {root : Root Context}
    (h : Crawled provider options root) :
    root.sources.Pairwise fun S T => hasPragmaOnce S.source = true → S.name ≠ T.name := by
  obtain ⟨asked, after, htree⟩ := h.expands
  refine .cons (fun T hT honce hname => ?_) (htree.sources_pairwise hon)
  exact htree.name_not_mem T hT (hname ▸ mem_remember_self hon honce)

theorem Crawled.lines_pairwise {root S : Root Context} (h : Crawled provider options root)
    (hS : S ∈ root.sources) : S.ownChunks.Pairwise fun a b => a.line ≠ b.line := by
  refine ((h.laid hS).separated (splitLines_isLines S.source)).imp fun hseparated heq => ?_
  obtain ⟨k, d, hbefore, hafter, -⟩ := hseparated
  omega

theorem Chunk.same_iff {a b : Chunk Context} :
    a.same b = true ↔ a.source = b.source ∧ a.file = b.file ∧ a.line = b.line := by
  simp [same, and_assoc]

variable {path : String} {context : Context} {root : Root Context}

theorem ByPath.chunks_pairwise (hpath : ByPath provider text) (hon : options.pragmaOnce = true)
    (h : (expandFile provider options path context).result = .ok root) :
    (root.sources.flatMap Root.ownChunks).Pairwise fun a b =>
      (text a.file).map hasPragmaOnce = .ok true → a.file ≠ b.file ∨ a.line ≠ b.line := by
  have hcrawled := (hpath.crawled h).1
  rw [List.pairwise_flatMap]
  constructor
  · intro S hS
    exact (hcrawled.lines_pairwise hS).imp fun hlines _ => .inr hlines
  · refine (hcrawled.sources_pairwise hon).imp_of_mem fun {S T} hS hT hnames a ha b hb honce => ?_
    have hafile := (hcrawled.runChunk hS ha).file_eq
    rw [hafile, (hpath.source_eq h hS).1] at honce
    rw [hafile, (hcrawled.runChunk hT hb).file_eq]
    exact .inl (hnames (Except.ok.inj honce))

theorem ByPath.countP_same (hpath : ByPath provider text) (hon : options.pragmaOnce = true)
    (h : (expandFile provider options path context).result = .ok root) {chunk : Chunk Context}
    (hchunk : chunk ∈ root.chunks) (honce : (text chunk.file).map hasPragmaOnce = .ok true) :
    root.chunks.countP chunk.same = 1 := by
  have hpairs := hpath.chunks_pairwise hon h
  rw [root.chunks_perm.countP_eq]
  obtain ⟨front, back, hsplit⟩ := List.append_of_mem (root.chunks_perm.mem_iff.mp hchunk)
  rw [hsplit, List.pairwise_append, List.pairwise_cons] at hpairs
  obtain ⟨-, ⟨hback, -⟩, hfront⟩ := hpairs
  have hnone : front.countP chunk.same = 0 ∧ back.countP chunk.same = 0 := by
    rw [List.countP_eq_zero, List.countP_eq_zero]
    constructor
    · intro other hother hsame
      obtain ⟨-, hfile, hline⟩ := Chunk.same_iff.mp hsame
      have hapart := hfront other hother chunk List.mem_cons_self (hfile ▸ honce)
      exact hapart.elim (fun hne => hne hfile.symm) fun hne => hne hline.symm
    · intro other hother hsame
      obtain ⟨-, hfile, hline⟩ := Chunk.same_iff.mp hsame
      exact (hback other hother honce).elim (fun hne => hne hfile) fun hne => hne hline
  have hself : chunk.same chunk = true := Chunk.same_iff.mpr ⟨rfl, rfl, rfl⟩
  rw [hsplit, List.countP_append, List.countP_cons_of_pos hself, hnone.1, hnone.2]

theorem ByPath.chunks_subset (hpath : ByPath provider text) {other : Options} {more : Root Context}
    (h : (expandFile provider options path context).result = .ok root)
    (h' : (expandFile provider other path context).result = .ok more) {chunk : Chunk Context}
    (hchunk : chunk ∈ root.chunks) : chunk ∈ more.chunks := by
  obtain ⟨S, hS, hown⟩ := Root.exists_source_of_mem hchunk
  have hreach := (hpath.exists_source_iff h S.name).mp ⟨S, hS, rfl⟩
  obtain ⟨T, hT, hname⟩ := (hpath.exists_source_iff h' S.name).mpr hreach
  obtain ⟨hStext, hScontext⟩ := hpath.source_eq h hS
  obtain ⟨hTtext, hTcontext⟩ := hpath.source_eq h' hT
  rw [hname, hStext] at hTtext
  have hsame : T.ownChunks = S.ownChunks := by
    rw [(hpath.crawled h').1.ownChunks_eq hT, (hpath.crawled h).1.ownChunks_eq hS, hname, hTcontext,
      hScontext, Except.ok.inj hTtext]
  exact Root.mem_chunks_of_source hT (hsame ▸ hown)

theorem pragmaOnce_catalog (catalog : Catalog) (path : String) (context : Context) (maxDepth : Int)
    (detectCycles : Bool) {root : Root Context}
    (h : (expandFile catalog.provider ⟨maxDepth, detectCycles, false⟩ path context).result =
      .ok root) :
    ∃ pruned, (expandFile catalog.provider ⟨maxDepth, detectCycles, true⟩ path context).result =
        .ok pruned ∧
      pruned.chunks.Sublist root.chunks ∧ (∀ chunk ∈ root.chunks, chunk ∈ pruned.chunks) ∧
      ∀ chunk ∈ pruned.chunks, (catalog.text chunk.file).map hasPragmaOnce = .ok true →
        pruned.chunks.countP chunk.same = 1 := by
  obtain ⟨pruned, hpruned, hsub⟩ := exists_pruned catalog.byPath h
  refine ⟨pruned, hpruned, hsub, ?_, ?_⟩
  · exact fun chunk hchunk => catalog.byPath.chunks_subset h hpruned hchunk
  · exact fun chunk hchunk honce => catalog.byPath.countP_same rfl hpruned hchunk honce

def repeats : Catalog :=
  ⟨[("main", .text "#include \"once\"\n#include \"plain\"\n#include \"once\"\nz\n"),
    ("once", .text "#pragma once\n#include \"plain\"\n"), ("plain", .text "x\n")]⟩

theorem pragmaOnce_catalog_repeats :
    ∃ root pruned, (expandFile repeats.provider ⟨8, true, false⟩ "main" Value.null).result = .ok root ∧
      root.chunks.map Chunk.file = ["once", "plain", "plain", "once", "plain", "main"] ∧
      (expandFile repeats.provider ⟨8, true, true⟩ "main" Value.null).result = .ok pruned ∧
      pruned.chunks.map Chunk.file = ["once", "plain", "plain", "main"] ∧
      pruned.chunks.Sublist root.chunks ∧ (∀ chunk ∈ root.chunks, chunk ∈ pruned.chunks) ∧
      ∀ chunk ∈ pruned.chunks, (repeats.text chunk.file).map hasPragmaOnce = .ok true →
        pruned.chunks.countP chunk.same = 1 := by
  obtain ⟨root, hroot, hfiles⟩ := @Walk.exists_result_eq_ok _ _ _ _
    (expandFile repeats.provider ⟨8, true, false⟩ "main" Value.null)
    (fun root => root.chunks.map Chunk.file) ["once", "plain", "plain", "once", "plain", "main"]
    (by decide +kernel)
  obtain ⟨other, hother, hleft⟩ := @Walk.exists_result_eq_ok _ _ _ _
    (expandFile repeats.provider ⟨8, true, true⟩ "main" Value.null)
    (fun root => root.chunks.map Chunk.file) ["once", "plain", "plain", "main"] (by decide +kernel)
  obtain ⟨pruned, hpruned, hsub, hkept, honce⟩ := pragmaOnce_catalog repeats "main" Value.null 8 true hroot
  cases hother.symm.trans hpruned
  exact ⟨root, other, hroot, hfiles, hother, hleft, hsub, hkept, honce⟩

end ShaderSources
