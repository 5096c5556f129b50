import ShaderSources.Proofs.TornLines

namespace ShaderSources

namespace Text

/-- Non-empty texts, each of which has a line feed at its end and nowhere else; the last one may lack
it. -/
structure LineRow (lines : List Text) : Prop where
  ne_nil : ∀ line ∈ lines, line ≠ []
  ended : ∀ line ∈ lines.dropLast, endsWith line '\n' = true
  single : ∀ line ∈ lines, '\n' ∉ line.dropLast

theorem LineRow.tail {line : Text} {rest : List Text} (h : LineRow (line :: rest)) : LineRow rest where
  ne_nil other hother := h.ne_nil other (List.mem_cons_of_mem _ hother)
  ended other hother := by
    apply h.ended
    rw [List.dropLast_cons_of_ne_nil (List.ne_nil_of_mem (List.dropLast_subset _ hother))]
    exact List.mem_cons_of_mem _ hother
  single other hother := h.single other (List.mem_cons_of_mem _ hother)

theorem LineRow.isLines {lines : List Text} (h : LineRow lines) : IsLines lines := by
  induction lines with
  | nil => exact .nil
  | cons line rest ih =>
    have hsingle := h.single line List.mem_cons_self
    by_cases hend : endsWith line '\n' = true
    · rw [endsWith, decide_eq_true_eq] at hend
      obtain ⟨body, rfl⟩ := List.getLast?_eq_some_iff.mp hend
      rw [List.dropLast_concat] at hsingle
      exact .cons hsingle (ih h.tail)
    · -- Only the last of the row lacks its line feed.
      have hrest : rest = [] := by
        by_contra hne
        apply hend
        apply h.ended
        rw [List.dropLast_cons_of_ne_nil hne]
        exact List.mem_cons_self
      subst hrest
      have hne := h.ne_nil line List.mem_cons_self
      refine .last hne fun hmem => ?_
      rw [← List.dropLast_concat_getLast hne, List.mem_append, List.mem_singleton] at hmem
      rcases hmem with hmem | hlast
      · exact hsingle hmem
      · rw [endsWith, decide_eq_true_eq, List.getLast?_eq_some_getLast hne, ← hlast] at hend
        exact hend rfl

theorem IsLines.lineRow {lines : List Text} (h : IsLines lines) : LineRow lines := by
  induction h with
  | nil => exact ⟨by simp, by simp, by simp⟩
  | @last line hne hfree =>
    refine ⟨by simpa using hne, by simp, ?_⟩
    rw [List.forall_mem_singleton]
    exact fun hmem => hfree (List.dropLast_subset _ hmem)
  | @cons body rest hfree hrest ih =>
    refine ⟨List.forall_mem_cons.mpr ⟨by simp, ih.ne_nil⟩, ?_, List.forall_mem_cons.mpr ⟨?_, ih.single⟩⟩
    · intro line hline
      by_cases hne : rest = []
      · rw [hne] at hline
        cases hline
      · rw [List.dropLast_cons_of_ne_nil hne] at hline
        rcases List.mem_cons.mp hline with rfl | hline
        · simp [endsWith]
        · exact ih.ended line hline
    · rw [List.dropLast_concat]
      exact hfree

theorem lineRow_iff {lines : List Text} : LineRow lines ↔ IsLines lines :=
  ⟨LineRow.isLines, IsLines.lineRow⟩

theorem eq_splitLines_iff {lines : List Text} {text : Text} :
    lines = splitLines text ↔ LineRow lines ∧ lines.flatten = text := by
  rw [lineRow_iff]
  constructor
  · rintro rfl
    exact ⟨splitLines_isLines text, flatten_splitLines text⟩
  · rintro ⟨hlines, rfl⟩
    exact (splitLines_flatten hlines).symm

theorem lineCount_eq (text : Text) :
    lineCount text = text.count '\n' + if Closed text then 0 else 1 := by
  by_cases hnil : text = []
  · subst hnil
    rfl
  · simp [lineCount, Closed, hnil]

theorem count_le_lineCount (text : Text) : text.count '\n' ≤ lineCount text := by
  rw [lineCount_eq]
  omega

theorem lineCount_le (text : Text) : lineCount text ≤ text.count '\n' + 1 := by
  rw [lineCount_eq]
  split <;> omega

theorem lineCount_append {rest : Text} (hne : rest ≠ []) (text : Text) :
    lineCount (text ++ rest) = text.count '\n' + lineCount rest := by
  simp only [lineCount_eq, List.count_append, closed_append hne, Nat.add_assoc]

end Text

namespace Chunk

open Text

variable {Context : Type}

theorem foldl_count (chunks : List (Chunk Context)) (line : Nat) :
    chunks.foldl (fun line chunk => line + chunk.source.count '\n') line =
      line + (join chunks).count '\n' := by
  induction chunks generalizing line with
  | nil => rfl
  | cons chunk chunks ih => rw [List.foldl_cons, ih, join_cons, List.count_append, Nat.add_assoc]

theorem totalLines_eq (chunks : List (Chunk Context)) :
    totalLines chunks = chunks.foldl (fun line chunk => line + chunk.source.count '\n') 1 - 1 +
      if Closed (join chunks) then 0 else 1 := by
  rw [foldl_count, Nat.add_sub_cancel_left, totalLines_eq_lineCount]
  exact lineCount_eq (join chunks)

-- By induction on the chunks: the search goes on to the next chunk as long as that one starts on the
-- line or before it.
theorem exists_starting {chunks : List (Chunk Context)} (hne : chunks ≠ []) {line start : Nat}
    (hstart : start ≤ line) :
    ∃ front chunk back, chunks = front ++ chunk :: back ∧
      ((join front).count '\n' + start = line ∧
          (∀ f, f <+: front → f ≠ front → (join f).count '\n' + start < line) ∨
        (join front).count '\n' + start < line ∧
          (back = [] ∨ line < (join (front ++ [chunk])).count '\n' + start)) := by
  induction chunks generalizing start with
  | nil => exact absurd rfl hne
  | cons chunk chunks ih =>
    rcases Nat.eq_or_lt_of_le hstart with rfl | hlt
    · refine ⟨[], chunk, chunks, rfl, .inl ⟨Nat.zero_add _, fun f hf hproper => ?_⟩⟩
      exact absurd (List.prefix_nil.mp hf) hproper
    by_cases hlast : chunks = [] ∨ line < chunk.source.count '\n' + start
    · exact ⟨[], chunk, chunks, rfl, .inr ⟨by simpa using hlt, by simpa using hlast⟩⟩
    · obtain ⟨hchunks, hnext⟩ := not_or.mp hlast
      obtain ⟨front, found, back, rfl, hfound⟩ := ih hchunks (Nat.le_of_not_lt hnext)
      have hcount : ∀ f, (join (chunk :: f)).count '\n' + start =
          (join f).count '\n' + (chunk.source.count '\n' + start) := by
        intro f
        rw [join_cons, List.count_append]
        omega
      refine ⟨chunk :: front, found, back, rfl, ?_⟩
      simp only [List.cons_append, hcount]
      refine hfound.imp_left fun ⟨hhere, hahead⟩ => ⟨hhere, fun f hf hproper => ?_⟩
      cases f with
      | nil => simpa using hlt
      | cons first f =>
        obtain ⟨rfl, hf'⟩ := List.cons_prefix_cons.mp hf
        rw [hcount]
        exact hahead f hf' fun heq => hproper (by rw [heq])

/-- Line `k` of the joined text is one of the lines of the chunk behind `front`, where an empty chunk
stands on one line. -/
structure Touches (chunks : List (Chunk Context)) (k : Int) (front : List (Chunk Context))
    (chunk : Chunk Context) : Prop where
  split : ∃ back, chunks = front ++ chunk :: back
  first : (join front).count '\n' < k
  last : k ≤ (join front).count '\n' + max 1 chunk.lineCount

theorem le_of_last {front : List (Chunk Context)} {chunk : Chunk Context} {k : Nat}
    (hk : k ≤ totalLines (front ++ [chunk])) :
    k ≤ (join front).count '\n' + max 1 chunk.lineCount := by
  rw [totalLines_eq_lineCount, join_append, join_cons, join_nil, List.append_nil] at hk
  rw [lineCount]
  by_cases hempty : chunk.source = []
  · have hfront := lineCount_le (join front)
    rw [hempty, List.append_nil] at hk
    omega
  · rw [lineCount_append hempty] at hk
    omega

theorem exists_touches {chunks : List (Chunk Context)} {k : Nat} (hk : 1 ≤ k)
    (hk' : k ≤ totalLines chunks) :
    ∃ front chunk, Touches chunks k front chunk ∧
      locate chunks k = .ok ⟨chunk.file, chunk.line + (k - 1 - (join front).count '\n' : Int)⟩ := by
  have hne : chunks ≠ [] := by
    rintro rfl
    exact absurd (Nat.le_trans hk hk') (Nat.not_succ_le_zero 0)
  obtain ⟨front, chunk, back, hsplit, ⟨hfirst, hahead⟩ | ⟨hlt, hnext⟩⟩ := exists_starting hne hk
  · refine ⟨front, chunk, ⟨⟨back, hsplit⟩, by omega, by omega⟩, ?_⟩
    rw [locate_of_first hfirst hk' hsplit hahead]
    congr 2
    omega
  · have hlast : k ≤ (join front).count '\n' + max 1 chunk.lineCount := by
      rcases hnext with rfl | hnext
      · exact le_of_last (hsplit ▸ hk')
      · have hcount := count_le_lineCount chunk.source
        simp only [join_append, join_cons, join_nil, List.append_nil, List.count_append] at hnext
        rw [lineCount]
        omega
    refine ⟨front, chunk, ⟨⟨back, hsplit⟩, by omega, by exact_mod_cast hlast⟩, ?_⟩
    rw [locate_of_last hlt hk' hsplit hnext, lineAfter]
    congr 2
    omega

theorem locate_eq_error_iff {chunks : List (Chunk Context)} {k : Int} {fault : Outside} :
    locate chunks k = .error fault ↔
      fault = .line k ∧ (k < 1 ∨ (splitLines (join chunks)).length < k) := by
  rw [length_splitLines, ← totalLines_eq_lineCount]
  by_cases hout : k < 1 ∨ (totalLines chunks : Int) < k
  · rw [locate, if_pos hout, Except.error.injEq]
    exact ⟨fun h => ⟨h.symm, hout⟩, fun h => h.1.symm⟩
  · obtain ⟨n, rfl⟩ : ∃ n : Nat, k = n := ⟨k.toNat, by omega⟩
    obtain ⟨front, chunk, -, hplace⟩ := @exists_touches _ chunks n (by omega) (by omega)
    rw [hplace]
    refine iff_of_false (fun h => ?_) fun h => hout h.2
    cases h

theorem lines_agree (text : Text) (chunks : List (Chunk Context)) :
    (∀ lines, lines = splitLines text ↔ LineRow lines ∧ lines.flatten = text) ∧
      (∀ file line (context : Context),
        (splitLines text).length = lineCount ⟨text, file, line, context⟩) ∧
      (totalLines chunks = (splitLines (join chunks)).length ∧
        totalLines chunks = chunks.foldl (fun line chunk => line + chunk.source.count '\n') 1 - 1 +
          if Closed (join chunks) then 0 else 1) ∧
      ∀ k : Int,
        (∀ fault, locate chunks k = .error fault ↔
          fault = .line k ∧ (k < 1 ∨ (splitLines (join chunks)).length < k)) ∧
        ((∃ front chunk, Touches chunks k front chunk ∧ locate chunks k =
            .ok ⟨chunk.file, chunk.line + (k - 1 - (join front).count '\n' : Int)⟩) ↔
          1 ≤ k ∧ k ≤ (splitLines (join chunks)).length) := by
  refine ⟨fun lines => eq_splitLines_iff, fun _ _ _ => length_splitLines text,
    ⟨(totalLines_eq_lineCount chunks).trans (length_splitLines _).symm, totalLines_eq chunks⟩,
    fun k => ⟨fun fault => locate_eq_error_iff, ?_, ?_⟩⟩
  · rintro ⟨front, chunk, -, hplace⟩
    by_contra hout
    have herror := (@locate_eq_error_iff _ chunks k (.line k)).mpr ⟨rfl, by omega⟩
    cases herror.symm.trans hplace
  · rintro ⟨hk, hk'⟩
    obtain ⟨n, rfl⟩ : ∃ n : Nat, k = n := ⟨k.toNat, by omega⟩
    rw [length_splitLines, ← totalLines_eq_lineCount] at hk'
    exact exists_touches (by omega) (by exact_mod_cast hk')

end Chunk

end ShaderSources
