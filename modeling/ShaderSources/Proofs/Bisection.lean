import Mathlib.Data.List.Induction
import ShaderSources.Proofs.Lines
import ShaderSources.Chunk.Position

namespace ShaderSources.Chunk

open Text

variable {Context : Type}

def startRow (measure : Text → Nat) (chunks : List (Chunk Context)) : List Nat :=
  (List.range chunks.length).map fun n => measure (join (chunks.take n))

theorem startRow_concat (measure : Text → Nat) (chunks : List (Chunk Context)) (chunk : Chunk Context) :
    startRow measure (chunks ++ [chunk]) = startRow measure chunks ++ [measure (join chunks)] := by
  have htake : ∀ n ∈ List.range chunks.length, measure (join ((chunks ++ [chunk]).take n)) =
      measure (join (chunks.take n)) := by
    intro n hn
    rw [List.take_append_of_le_length (Nat.le_of_lt (List.mem_range.mp hn))]
  rw [startRow, List.length_append, List.length_singleton, List.range_succ, List.map_append,
    List.map_congr_left htake, List.map_singleton, List.take_left]
  rfl

def lineAfter (text : Text) : Nat := text.count '\n' + 1

theorem lineAfter_le (a b : Text) : lineAfter a ≤ lineAfter (a ++ b) := by
  rw [lineAfter, lineAfter, List.count_append]
  omega

theorem starts_eq (chunks : List (Chunk Context)) :
    starts chunks = ⟨startRow lineAfter chunks, startRow List.length chunks, lineAfter (join chunks),
      (join chunks).length⟩ := by
  induction chunks using List.reverseRecOn with
  | nil => rfl
  | append_singleton chunks chunk ih =>
    have hstep : starts (chunks ++ [chunk]) = (starts chunks).push chunk := by
      rw [starts, List.foldl_append, List.foldl_cons, List.foldl_nil, starts]
    rw [hstep, ih, startRow_concat, startRow_concat, join_append, join_cons, join_nil, List.append_nil,
      List.length_append, Starts.push, lineAfter, lineAfter, List.count_append, Nat.add_right_comm]

theorem totalLines_eq_lineCount (chunks : List (Chunk Context)) :
    totalLines chunks = Text.lineCount (join chunks) := by
  rw [totalLines, starts_eq, lineAfter, Nat.add_sub_cancel, Text.lineCount]
  by_cases hnil : join chunks = []
  · simp [hnil]
  · cases hend : endsWith (join chunks) '\n' <;> simp [hnil]

theorem totalLength_eq (chunks : List (Chunk Context)) : totalLength chunks = (join chunks).length := by
  rw [totalLength, starts_eq]

theorem getElem?_startRow (measure : Text → Nat) (front back : List (Chunk Context))
    (chunk : Chunk Context) :
    (startRow measure (front ++ chunk :: back))[front.length]? = some (measure (join front)) := by
  simp [startRow]

theorem startRow_eq_some {measure : Text → Nat} {chunks : List (Chunk Context)} {n v : Nat}
    (h : (startRow measure chunks)[n]? = some v) : n < chunks.length ∧ measure (join (chunks.take n)) = v := by
  simpa [startRow, List.getElem?_eq_some_iff] using h

theorem startRow_mono {measure : Text → Nat} (hmeasure : ∀ a b, measure a ≤ measure (a ++ b))
    {chunks : List (Chunk Context)} {i j v w : Nat} (hij : i ≤ j)
    (hv : (startRow measure chunks)[i]? = some v) (hw : (startRow measure chunks)[j]? = some w) : v ≤ w := by
  obtain ⟨-, rfl⟩ := startRow_eq_some hv
  obtain ⟨-, rfl⟩ := startRow_eq_some hw
  have hjoin : join (chunks.take j) = join (chunks.take i) ++ join ((chunks.take j).drop i) := by
    have htake : (chunks.take j).take i = chunks.take i := by
      rw [List.take_take, Nat.min_eq_left hij]
    rw [← htake, ← join_append, List.take_append_drop]
  rw [hjoin]
  exact hmeasure _ _

/-- The items ahead of the index are at most `x`, those from the index on are greater. -/
structure Cuts (row : List Nat) (x index : Nat) : Prop where
  bound : index ≤ row.length
  ahead : ∀ j v, j < index → row[j]? = some v → v ≤ x
  behind : ∀ j v, index ≤ j → row[j]? = some v → x < v

theorem Cuts.eq_succ {row : List Nat} {x index n v : Nat} (h : Cuts row x index)
    (hv : row[n]? = some v) (hle : v ≤ x) (hnext : ∀ w, row[n + 1]? = some w → x < w) :
    index = n + 1 := by
  apply Nat.le_antisymm
  · by_contra hnot
    have hbound := h.bound
    have hw := @List.getElem?_eq_getElem _ row (n + 1) (by omega)
    have := h.ahead _ _ (Nat.lt_of_not_le hnot) hw
    have := hnext _ hw
    omega
  · by_contra hnot
    have := h.behind n v (by omega) hv
    omega

theorem cuts_bisectFrom {row : List Nat} {x low high : Nat} {h : high ≤ row.length}
    (hrow : ∀ {i j v w : Nat}, i ≤ j → row[i]? = some v → row[j]? = some w → v ≤ w)
    (hle : low ≤ high) (hlow : ∀ j v, j < low → row[j]? = some v → v ≤ x)
    (hhigh : ∀ j v, high ≤ j → row[j]? = some v → x < v) :
    Cuts row x (bisectFrom row x low high h) := by
  fun_induction bisectFrom row x low high h with
  | case1 low high h hlt hgreater ih =>
    refine ih (by omega) hlow fun j v hj hv => ?_
    exact Nat.lt_of_lt_of_le hgreater (hrow hj (List.getElem?_eq_getElem _) hv)
  | case2 low high h hlt hatmost ih =>
    refine ih (by omega) (fun j v hj hv => ?_) hhigh
    exact Nat.le_trans (hrow (Nat.le_of_lt_succ hj) hv (List.getElem?_eq_getElem _))
      (Nat.le_of_not_lt hatmost)
  | case3 low high h hlt =>
    exact ⟨Nat.le_trans hle h, hlow, fun j v hj => hhigh j v (by omega)⟩

theorem cuts_bisectRight {measure : Text → Nat} (hmeasure : ∀ a b, measure a ≤ measure (a ++ b))
    (chunks : List (Chunk Context)) (x : Nat) :
    Cuts (startRow measure chunks) x (bisectRight (startRow measure chunks) x) := by
  refine cuts_bisectFrom (startRow_mono hmeasure) (Nat.zero_le _) (fun j v hj => ?_) fun j v hj hv => ?_
  · exact absurd hj (Nat.not_lt_zero j)
  · rw [List.getElem?_eq_none hj] at hv
    cases hv

theorem backOver_eq {row : List Nat} {x first index : Nat} (hfirst : first ≤ index)
    (hsame : ∀ j, first ≤ j → j < index → row[j]? = some x)
    (hstop : ∀ j, j + 1 = first → row[j]? ≠ some x) : backOver row x index = first := by
  induction index with
  | zero => exact (Nat.le_zero.mp hfirst).symm
  | succ index ih =>
    rcases Nat.eq_or_lt_of_le hfirst with rfl | hlt
    · rw [backOver, if_neg (hstop index rfl)]
    · have hle := Nat.le_of_lt_succ hlt
      rw [backOver, if_pos (hsame index hle (Nat.lt_succ_self _))]
      exact ih hle fun j hj hj' => hsame j hj (Nat.lt_succ_of_lt hj')

theorem overEmpty_eq {chunks : List (Chunk Context)} {chunk : Chunk Context} {index : Nat}
    (h : chunks[index]? = some chunk) (hne : chunk.source ≠ []) : overEmpty chunks index = index := by
  obtain ⟨hlt, rfl⟩ := List.getElem?_eq_some_iff.mp h
  rw [overEmpty]
  split <;> rfl

section Found

variable {chunks front back : List (Chunk Context)} {chunk : Chunk Context} {k : Nat}

theorem locate_of_index (hk : 1 ≤ k) (hk' : k ≤ totalLines chunks)
    (hsplit : chunks = front ++ chunk :: back)
    (hindex : backOver (startRow lineAfter chunks) k (bisectRight (startRow lineAfter chunks) k - 1) =
      front.length) :
    locate chunks k = .ok ⟨chunk.file, chunk.line + (k - lineAfter (join front))⟩ := by
  have hinside : ¬ ((k : Int) < 1 ∨ (totalLines chunks : Int) < k) := by omega
  have hchunk : chunks[front.length]? = some chunk := by simp [hsplit]
  have hstart : (startRow lineAfter chunks)[front.length]? = some (lineAfter (join front)) := by
    rw [hsplit, getElem?_startRow]
  rw [locate, if_neg hinside, starts_eq]
  simp only [Int.toNat_natCast, hindex, hchunk, hstart]

theorem locate_of_first (hk : lineAfter (join front) = k) (hk' : k ≤ totalLines chunks)
    (hsplit : chunks = front ++ chunk :: back)
    (hahead : ∀ f, f <+: front → f ≠ front → lineAfter (join f) < k) :
    locate chunks k = .ok ⟨chunk.file, chunk.line⟩ := by
  have hcuts := cuts_bisectRight lineAfter_le chunks k
  have hstart : (startRow lineAfter chunks)[front.length]? = some k := by
    rw [hsplit, getElem?_startRow, hk]
  have hbehind : front.length < bisectRight (startRow lineAfter chunks) k := by
    by_contra hnot
    exact absurd (hcuts.behind _ _ (Nat.le_of_not_lt hnot) hstart) (Nat.lt_irrefl k)
  have hindex : backOver (startRow lineAfter chunks) k (bisectRight (startRow lineAfter chunks) k - 1) =
      front.length := by
    apply backOver_eq
    · omega
    · intro j hj hj'
      have hbound := hcuts.bound
      have hv := @List.getElem?_eq_getElem _ (startRow lineAfter chunks) j (by omega)
      rw [hv, Option.some.injEq]
      exact Nat.le_antisymm (hcuts.ahead _ _ (by omega) hv) (startRow_mono lineAfter_le hj hstart hv)
    · intro j hj hv
      obtain ⟨-, hv⟩ := startRow_eq_some hv
      have htake : chunks.take j = front.take j := by
        rw [hsplit, List.take_append_of_le_length (by omega)]
      rw [htake] at hv
      refine absurd hv (Nat.ne_of_lt (hahead _ (List.take_prefix j front) fun heq => ?_))
      have := congrArg List.length heq
      rw [List.length_take] at this
      omega
  rw [locate_of_index (by rw [← hk, lineAfter]; omega) hk' hsplit hindex, hk, Int.sub_self,
    Int.add_zero]

theorem locate_of_last (hk : lineAfter (join front) < k) (hk' : k ≤ totalLines chunks)
    (hsplit : chunks = front ++ chunk :: back)
    (hnext : back = [] ∨ k < lineAfter (join (front ++ [chunk]))) :
    locate chunks k = .ok ⟨chunk.file, chunk.line + (k - lineAfter (join front))⟩ := by
  have hstart : (startRow lineAfter chunks)[front.length]? = some (lineAfter (join front)) := by
    rw [hsplit, getElem?_startRow]
  have hindex : bisectRight (startRow lineAfter chunks) k = front.length + 1 := by
    refine (cuts_bisectRight lineAfter_le chunks k).eq_succ hstart (Nat.le_of_lt hk) fun w hw => ?_
    obtain ⟨hlt, rfl⟩ := startRow_eq_some hw
    rcases hnext with rfl | hnext
    · simp [hsplit] at hlt
    · rwa [hsplit, List.take_length_add_append]
  rw [locate_of_index (Nat.le_of_lt (Nat.lt_of_le_of_lt (Nat.le_add_left _ _) hk)) hk' hsplit]
  rw [hindex, Nat.add_sub_cancel]
  refine backOver_eq (Nat.le_refl _) (fun j hj hj' => absurd hj (Nat.not_le_of_lt hj')) ?_
  intro j hj hv
  have := startRow_mono lineAfter_le (show j ≤ front.length by omega) hv hstart
  omega

end Found

end ShaderSources.Chunk
