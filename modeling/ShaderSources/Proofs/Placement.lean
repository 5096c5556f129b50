import ShaderSources.Proofs.Lines
import ShaderSources.Proofs.Sources

namespace ShaderSources

open Source Text

variable {Context Fault : Type} {provider : Provider Context Fault} {options : Options}

def RunChunk (lines : List Text) (file : String) (context : Context) (chunk : Chunk Context) : Prop :=
  ∃ front run back, lines = front ++ (run ++ back) ∧ run ≠ [] ∧ OrdinaryRun front run ∧
    chunk = ⟨run.flatten, file, ((front.length + 1 : Nat) : Int), context⟩

def Separated (lines : List Text) (a b : Chunk Context) : Prop :=
  ∃ (k : Nat) (d : Directive), a.line + a.lineCount ≤ (k : Int) ∧ (k : Int) < b.line ∧ LiveAt lines k d

theorem lineCount_flatten {front run back : List Text} (h : IsLines (front ++ (run ++ back))) :
    lineCount run.flatten = run.length :=
  h.of_append.2.of_append.1.length_eq.symm

namespace Laid

variable {file : String} {context : Context} {before texts : List Text}
  {parts : List (Part Context)}

theorem mem_own (h : Laid provider file context before texts parts) {chunk : Chunk Context}
    (hc : .own chunk ∈ parts) : RunChunk (before ++ texts) file context chunk := by
  induction h with
  | done => simp at hc
  | @own before run texts parts hne hrun hnext hrest ih =>
    rw [← List.append_assoc]
    rcases List.mem_cons.mp hc with hc | hc
    · cases hc
      exact ⟨before, run, texts, List.append_assoc .., hne, hrun, rfl⟩
    · exact ih hc
  | included hlive hd hanswer hrest ih =>
    rw [List.append_cons]
    rcases List.mem_cons.mp hc with rfl | hc
    · cases hd
    · exact ih hc

theorem mem_included (h : Laid provider file context before texts parts) {p : Part Context}
    {d : Directive} (hp : p ∈ parts) (hd : p.directive? = some d) :
    p.Answered provider context ∧ ∃ k : Nat, d.line = k ∧ LiveAt (before ++ texts) k d := by
  induction h with
  | done => simp at hp
  | own hne hrun hnext hrest ih =>
    rw [← List.append_assoc]
    rcases List.mem_cons.mp hp with rfl | hp
    · cases hd
    · exact ih hp
  | @included before texts text e p' parts hlive he hanswer hrest ih =>
    rcases List.mem_cons.mp hp with rfl | hp
    · cases hd.symm.trans he
      exact ⟨hanswer, before.length + 1, hlive.line_eq, liveAt_iff.mpr hlive⟩
    · rw [List.append_cons]
      exact ih hp

theorem lt_first (h : Laid provider file context before texts parts) {p : Part Context}
    (hp : p ∈ parts) : (before.length : Int) < p.first := by
  induction h with
  | done => simp at hp
  | @own before run texts parts hne hrun hnext hrest ih =>
    rcases List.mem_cons.mp hp with rfl | hp
    · simp only [Part.first]
      omega
    · have hlt := ih hp
      rw [List.length_append] at hlt
      omega
  | @included before texts text d p' parts hlive hd hanswer hrest ih =>
    rcases List.mem_cons.mp hp with rfl | hp
    · rw [(Part.bounds_of_directive hd).1, hlive.line_eq]
      omega
    · have hlt := ih hp
      rw [List.length_append] at hlt
      omega

theorem pairwise (h : Laid provider file context before texts parts)
    (hlines : IsLines (before ++ texts)) : parts.Pairwise fun p q => p.next ≤ q.first := by
  induction h with
  | done => exact .nil
  | @own before run texts parts hne hrun hnext hrest ih =>
    refine .cons (fun q hq => ?_) (ih (by rwa [List.append_assoc]))
    have hlt := hrest.lt_first hq
    simp only [Part.next, Chunk.lineCount, lineCount_flatten hlines]
    rw [List.length_append] at hlt
    omega
  | @included before texts text d p parts hlive hd hanswer hrest ih =>
    refine .cons (fun q hq => ?_) (ih (by rwa [← List.append_cons]))
    have hlt := hrest.lt_first hq
    rw [(Part.bounds_of_directive hd).2, hlive.line_eq]
    rw [List.length_append, List.length_singleton] at hlt
    omega

theorem exists_part (h : Laid provider file context before texts parts)
    (hlines : IsLines (before ++ texts)) {k : Nat} (hk : before.length < k)
    (hk' : k ≤ (before ++ texts).length) : ∃ p ∈ parts, p.first ≤ k ∧ (k : Int) < p.next := by
  induction h with
  | done =>
    rw [List.append_nil] at hk'
    omega
  | @own before run texts parts hne hrun hnext hrest ih =>
    by_cases hin : k ≤ before.length + run.length
    · refine ⟨_, List.mem_cons_self, ?_⟩
      simp only [Part.first, Part.next, Chunk.lineCount, lineCount_flatten hlines]
      omega
    · rw [← List.append_assoc] at hlines hk'
      obtain ⟨p, hp, hin⟩ := ih hlines (by rw [List.length_append]; omega) hk'
      exact ⟨p, List.mem_cons_of_mem _ hp, hin⟩
  | @included before texts text d p parts hlive hd hanswer hrest ih =>
    by_cases hin : k = before.length + 1
    · refine ⟨p, List.mem_cons_self, ?_⟩
      rw [(Part.bounds_of_directive hd).1, (Part.bounds_of_directive hd).2, hlive.line_eq]
      omega
    · rw [List.append_cons] at hlines hk'
      obtain ⟨q, hq, hin⟩ := ih hlines (by rw [List.length_append, List.length_singleton]; omega) hk'
      exact ⟨q, List.mem_cons_of_mem _ hq, hin⟩

theorem separated (h : Laid provider file context before texts parts)
    (hlines : IsLines (before ++ texts)) :
    (parts.filterMap Part.chunk?).Pairwise (Separated (before ++ texts)) := by
  induction h with
  | done => exact .nil
  | @own before run texts parts hne hrun hnext hrest ih =>
    rw [List.filterMap_cons_some (by rfl)]
    have hcount := lineCount_flatten hlines
    rw [← List.append_assoc] at hlines ⊢
    refine .cons (fun b hb => ?_) (ih hlines)
    have hb' := Part.mem_filterMap_chunk?.mp hb
    cases hrest with
    | done => simp at hb'
    | own => exact absurd rfl (hnext _ _)
    | @included _ texts text d p parts hlive hd hanswer hrest =>
      refine ⟨(before ++ run).length + 1, d, ?_, ?_, liveAt_iff.mpr hlive⟩
      · simp only [Chunk.lineCount, hcount, List.length_append]
        omega
      · rcases List.mem_cons.mp hb' with rfl | hb'
        · cases hd
        · have hlt := hrest.lt_first hb'
          rwa [List.length_append, List.length_singleton] at hlt
  | @included before texts text d p parts hlive hd hanswer hrest ih =>
    rw [List.append_cons] at hlines ⊢
    cases p with
    | own chunk => cases hd
    | skipped e name => exact ih hlines
    | nested e inner => exact ih hlines

end Laid

theorem RunChunk.not_liveAt {lines : List Text} {file : String} {context : Context}
    {chunk : Chunk Context} (h : RunChunk lines file context chunk) (hlines : IsLines lines) {k : Nat}
    (hk : chunk.line ≤ k) (hk' : (k : Int) < chunk.line + chunk.lineCount) (d : Directive) :
    ¬ LiveAt lines k d := by
  obtain ⟨front, run, back, rfl, hne, hrun, rfl⟩ := h
  simp only [Chunk.lineCount, lineCount_flatten hlines] at hk hk'
  have hi : k - 1 - front.length < run.length := by omega
  obtain ⟨left, text, right, hsplit, hleft⟩ :
      ∃ left text right, run = left ++ text :: right ∧ left.length = k - 1 - front.length :=
    ⟨run.take (k - 1 - front.length), run[k - 1 - front.length], run.drop (k - 1 - front.length + 1),
      by rw [← List.drop_eq_getElem_cons hi, List.take_append_drop], by rw [List.length_take]; omega⟩
  have hread := hrun left text right hsplit
  intro hlive
  rw [hsplit, List.append_assoc, ← List.append_assoc, List.cons_append,
    show k = (front ++ left).length + 1 by rw [List.length_append]; omega, liveAt_iff, live_iff,
    hread] at hlive
  cases hlive

theorem RunChunk.wholeLines {lines : List Text} {file : String} {context : Context}
    {chunk : Chunk Context} (h : RunChunk lines file context chunk) (hlines : IsLines lines) :
    ∃ start : Nat, chunk.line = start + 1 ∧ start + chunk.lineCount ≤ lines.length ∧
      chunk.source = ((lines.drop start).take chunk.lineCount).flatten := by
  obtain ⟨front, run, back, rfl, hne, hrun, rfl⟩ := h
  refine ⟨front.length, rfl, ?_, ?_⟩
  · simp only [Chunk.lineCount, lineCount_flatten hlines, List.length_append]
    omega
  · simp only [Chunk.lineCount, lineCount_flatten hlines, List.drop_left, List.take_left]

theorem RunChunk.file_eq {lines : List Text} {file : String} {context : Context}
    {chunk : Chunk Context} (h : RunChunk lines file context chunk) : chunk.file = file := by
  obtain ⟨front, run, back, hsplit, hne, hrun, rfl⟩ := h
  rfl

theorem Crawled.runChunk {root S : Root Context} (h : Crawled provider options root)
    (hS : S ∈ root.sources) {chunk : Chunk Context} (hchunk : chunk ∈ S.ownChunks) :
    RunChunk (splitLines S.source) S.name S.context chunk :=
  (h.laid hS).mem_own (Part.mem_filterMap_chunk?.mp hchunk)

theorem Root.Laid.own_or_included {S : Root Context} (h : S.Laid provider) {k : Nat} (hk : 1 ≤ k)
    (hk' : k ≤ (splitLines S.source).length) :
    (∃ chunk : Chunk Context, .own chunk ∈ S.parts ∧ chunk.line ≤ k ∧
        (k : Int) < chunk.line + chunk.lineCount) ∨
      ∃ p ∈ S.parts, ∃ d, p.directive? = some d ∧ LiveAt (splitLines S.source) k d := by
  obtain ⟨p, hp, hfirst, hnext⟩ := h.exists_part (splitLines_isLines S.source) (k := k)
    (by rw [List.length_nil]; omega) hk'
  cases hd : p.directive? with
  | none =>
    cases p with
    | own chunk => exact .inl ⟨chunk, hp, hfirst, hnext⟩
    | skipped e name => cases hd
    | nested e inner => cases hd
  | some d =>
    obtain ⟨-, j, hj, hlive⟩ := h.mem_included hp hd
    rw [(Part.bounds_of_directive hd).1] at hfirst
    rw [(Part.bounds_of_directive hd).2] at hnext
    obtain rfl : j = k := by omega
    exact .inr ⟨p, hp, d, hd, hlive⟩

theorem Root.Laid.exists_part_of_live {S : Root Context} (h : S.Laid provider) {k : Nat}
    {d : Directive} (hlive : LiveAt (splitLines S.source) k d) :
    ∃ p ∈ S.parts, p.directive? = some d := by
  obtain ⟨before, text, after, hsplit, hk, -⟩ := id hlive
  rcases h.own_or_included (k := k) (by omega)
    (by rw [hsplit, List.length_append, List.length_cons]; omega) with
      ⟨chunk, hp, hfirst, hnext⟩ | ⟨p, hp, e, he, hlive'⟩
  · exact absurd hlive ((h.mem_own hp).not_liveAt (splitLines_isLines _) hfirst hnext d)
  · exact ⟨p, hp, hlive.unique hlive' ▸ he⟩

end ShaderSources
