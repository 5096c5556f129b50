import Mathlib.Data.List.TakeWhile
import ShaderSources.Chunk.Position
import ShaderSources.Proofs.Lines

namespace ShaderSources.Text

def lineStart (text : Text) (k : Nat) : Nat := ((splitLines text).take (k - 1)).flatten.length

theorem lineStart_append {text : Text} (h : Closed text) (rest : Text) :
    lineStart (text ++ rest) (text.count '\n' + 1) = text.length := by
  rw [lineStart, splitLines_append h, Nat.add_sub_cancel, ← length_splitLines_of_closed h,
    List.take_left, flatten_splitLines]

theorem exists_lineStart {text : Text} {k : Nat} (hk : 1 ≤ k) (hk' : k ≤ lineCount text) :
    ∃ front back, text = front ++ back ∧ Closed front ∧ back ≠ [] ∧ front.count '\n' + 1 = k ∧
      lineStart text k = front.length := by
  rw [← length_splitLines] at hk'
  have hlt : k - 1 < (splitLines text).length := by omega
  have hsplit : splitLines text = (splitLines text).take (k - 1) ++
      (splitLines text)[k - 1] :: (splitLines text).drop k := by
    have hdrop := List.drop_eq_getElem_cons hlt
    rw [show k - 1 + 1 = k by omega] at hdrop
    rw [← hdrop, List.take_append_drop]
  have hlines := splitLines_isLines text
  rw [hsplit] at hlines
  obtain ⟨hcount, hclosed⟩ := hlines.terminated
  refine ⟨((splitLines text).take (k - 1)).flatten,
    ((splitLines text)[k - 1] :: (splitLines text).drop k).flatten, ?_, hclosed, ?_, ?_, rfl⟩
  · rw [← List.flatten_append, ← hsplit, flatten_splitLines]
  · simp only [List.flatten_cons, ne_eq, List.append_eq_nil_iff, not_and]
    exact fun hnil => absurd hnil (ne_nil_of_mem_splitLines (List.getElem_mem hlt))
  · rw [hcount, List.length_take]
    omega

theorem columnAfter_append_newline (front back : Text) :
    Chunk.columnAfter (front ++ '\n' :: back) = Chunk.columnAfter back := by
  have hnew : List.takeWhile (fun c => decide (c ≠ '\n')) ('\n' :: front.reverse) = [] := rfl
  have hrev : (front ++ '\n' :: back).reverse = back.reverse ++ '\n' :: front.reverse := by simp
  rw [Chunk.columnAfter, Chunk.columnAfter, hrev, List.takeWhile_append, hnew, List.append_nil]
  split
  · rename_i h
    rw [h, List.length_reverse]
  · rfl

/-- An offset of a text lies in `line`, which has the lines of `front` before it. -/
structure LiesIn (text : Text) (n : Nat) (front : List Text) (line : Text) : Prop where
  lines : (text.take n).count '\n' = front.length
  offset : front.flatten.length + Chunk.columnAfter (text.take n) = n
  column : Chunk.columnAfter (text.take n) < line.length

theorem LiesIn.cons {body text line : Text} {front : List Text} {n : Nat} (hfree : '\n' ∉ body)
    (h : LiesIn text n front line) :
    LiesIn (body ++ '\n' :: text) (body.length + 1 + n) ((body ++ ['\n']) :: front) line := by
  have htake : (body ++ '\n' :: text).take (body.length + 1 + n) = body ++ '\n' :: text.take n := by
    rw [List.take_append, List.take_of_length_le (by omega),
      show body.length + 1 + n - body.length = n + 1 by omega, List.take_succ_cons]
  constructor
  · rw [htake]
    simp [List.count_eq_zero.mpr hfree, h.lines]
  · rw [htake, columnAfter_append_newline]
    have hoffset := h.offset
    simp only [List.flatten_cons, List.length_append, List.length_singleton]
    omega
  · rw [htake, columnAfter_append_newline]
    exact h.column

end ShaderSources.Text
