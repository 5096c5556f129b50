import ShaderSources.Proofs.Bisection
import ShaderSources.Proofs.LineStarts
import ShaderSources.Proofs.Placement

namespace ShaderSources

open Source Text

variable {Context Fault : Type}

namespace Chunk

/-- The chunk behind `front` covers the offset `n` of the joined text, at its offset `inner`. -/
structure Covers (chunks : List (Chunk Context)) (n : Nat) (front : List (Chunk Context))
    (chunk : Chunk Context) (inner : Nat) : Prop where
  split : ∃ back, chunks = front ++ chunk :: back
  offset : n = (join front).length + inner
  inside : inner < chunk.source.length

theorem Covers.cons {chunks front : List (Chunk Context)} {chunk : Chunk Context} {n inner : Nat}
    (h : Covers chunks n front chunk inner) (first : Chunk Context) :
    Covers (first :: chunks) (first.source.length + n) (first :: front) chunk inner := by
  obtain ⟨⟨back, rfl⟩, rfl, hinside⟩ := h
  refine ⟨⟨back, rfl⟩, ?_, hinside⟩
  rw [join_cons, List.length_append, Nat.add_assoc]

theorem exists_covers {chunks : List (Chunk Context)} {n : Nat} (hn : n < (join chunks).length) :
    ∃ front chunk inner, Covers chunks n front chunk inner := by
  induction chunks generalizing n with
  | nil => simp at hn
  | cons chunk chunks ih =>
    by_cases hin : n < chunk.source.length
    · exact ⟨[], chunk, n, ⟨chunks, rfl⟩, by simp, hin⟩
    · obtain ⟨m, rfl⟩ : ∃ m, n = chunk.source.length + m := ⟨n - chunk.source.length, by omega⟩
      rw [join_cons, List.length_append] at hn
      obtain ⟨front, found, inner, hcovers⟩ := @ih m (by omega)
      exact ⟨chunk :: front, found, inner, hcovers.cons chunk⟩

theorem Covers.length_le {chunks front front' : List (Chunk Context)}
    {chunk chunk' : Chunk Context} {n inner inner' : Nat} (h : Covers chunks n front chunk inner)
    (h' : Covers chunks n front' chunk' inner') : front'.length ≤ front.length := by
  obtain ⟨⟨back, rfl⟩, hoffset, hinside⟩ := h
  obtain ⟨⟨back', hsplit⟩, hoffset', -⟩ := h'
  rcases List.append_eq_append_iff.mp hsplit with ⟨more, rfl, hmore⟩ | ⟨more, rfl, -⟩
  · cases more with
    | nil => simp
    | cons first more =>
      cases hmore
      simp only [join_append, join_cons, List.length_append] at hoffset'
      omega
  · simp

theorem Covers.unique {chunks front front' : List (Chunk Context)} {chunk chunk' : Chunk Context}
    {n inner inner' : Nat} (h : Covers chunks n front chunk inner)
    (h' : Covers chunks n front' chunk' inner') :
    front' = front ∧ chunk' = chunk ∧ inner' = inner := by
  have hlength : front.length = front'.length := Nat.le_antisymm (h'.length_le h) (h.length_le h')
  obtain ⟨⟨back, rfl⟩, hoffset, hinside⟩ := h
  obtain ⟨⟨back', hsplit⟩, hoffset', -⟩ := h'
  obtain ⟨rfl, hrest⟩ := List.append_inj hsplit hlength
  cases hrest
  exact ⟨rfl, rfl, by omega⟩

end Chunk

-- The covering chunk is not empty, so the walk over empty chunks stays where the bisection ends.
theorem Chunk.locateOffset_eq {chunks front : List (Chunk Context)} {chunk : Chunk Context}
    {n inner : Nat} (h : Covers chunks n front chunk inner) :
    locateOffset chunks n = .ok ⟨chunk.file, chunk.line + (chunk.source.take inner).count '\n',
      columnAfter (chunk.source.take inner)⟩ := by
  obtain ⟨⟨back, hsplit⟩, hoffset, hin⟩ := h
  have hchunk : chunks[front.length]? = some chunk := by simp [hsplit]
  have hstart : (startRow List.length chunks)[front.length]? = some (join front).length := by
    rw [hsplit, getElem?_startRow]
  have hinside : ¬ ((n : Int) < 0 ∨ (totalLength chunks : Int) ≤ n) := by
    rw [totalLength_eq, hsplit, join_append, join_cons, List.length_append, List.length_append]
    omega
  have hindex : bisectRight (startRow List.length chunks) n = front.length + 1 := by
    refine (cuts_bisectRight (by simp) chunks n).eq_succ hstart (by omega) fun w hw => ?_
    obtain ⟨-, rfl⟩ := startRow_eq_some hw
    rw [hsplit, List.take_length_add_append, join_append, List.length_append]
    simpa [hoffset] using hin
  have hstay : overEmpty chunks front.length = front.length :=
    overEmpty_eq hchunk (List.ne_nil_of_length_pos (Nat.zero_lt_of_lt hin))
  rw [locateOffset, if_neg hinside, starts_eq]
  simp only [Int.toNat_natCast, hindex, Nat.add_sub_cancel, hstay, hchunk, hstart]
  rw [hoffset, Nat.add_sub_cancel_left]

end ShaderSources
