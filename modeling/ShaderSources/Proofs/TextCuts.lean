import Mathlib.Data.List.TakeWhile
import ShaderSources.Text.Blank

namespace ShaderSources.Text

theorem span_append {p : Char → Bool} {body rest : Text} (hbody : ∀ c ∈ body, p c = true)
    (hrest : ∀ c, rest.head? = some c → p c = false) :
    (body ++ rest).takeWhile p = body ∧ (body ++ rest).dropWhile p = rest := by
  rw [List.takeWhile_append_of_pos hbody, List.dropWhile_append_of_pos hbody]
  cases rest with
  | nil => simp
  | cons c rest => simp [hrest c rfl]

theorem head?_dropWhile {p : Char → Bool} {text : Text} {c : Char}
    (h : (text.dropWhile p).head? = some c) : p c = false := by
  have := List.head?_dropWhile_not p text
  simpa [h] using this

theorem dropWhile_eq_iff {p : Char → Bool} {text rest : Text}
    (hrest : ∀ c, rest.head? = some c → p c = false) :
    text.dropWhile p = rest ↔ ∃ front, text = front ++ rest ∧ ∀ c ∈ front, p c = true := by
  constructor
  · rintro rfl
    exact ⟨text.takeWhile p, List.takeWhile_append_dropWhile.symm, fun c => List.mem_takeWhile_imp⟩
  · rintro ⟨front, rfl, hfront⟩
    exact (span_append hfront hrest).2

theorem after?_eq_some_iff {lead text rest : Text} : after? lead text = some rest ↔ text = lead ++ rest := by
  constructor
  · exact eq_append_of_after?
  · rintro rfl
    exact after?_append lead rest

theorem after?_eq_none_iff {lead text : Text} : after? lead text = none ↔ ¬ lead <+: text := by
  constructor
  · rintro hnone ⟨rest, rfl⟩
    rw [after?_append] at hnone
    cases hnone
  · intro hlead
    cases h : after? lead text with
    | none => rfl
    | some rest => exact absurd ⟨rest, (eq_append_of_after? h).symm⟩ hlead

theorem cut?_eq_none_iff {mark text : Text} : cut? mark text = none ↔ ¬ mark <:+: text := by
  induction text with
  | nil => rw [cut?, Option.map_eq_none_iff, after?_eq_none_iff, List.prefix_nil, List.infix_nil]
  | cons c text ih =>
    rw [List.infix_cons_iff, not_or, ← after?_eq_none_iff, ← ih, cut?]
    cases after? mark (c :: text) with
    | none => simp
    | some rest => simp

theorem exists_trim (text : Text) : ∃ front back, text = front ++ (trim text ++ back) ∧
    (∀ c ∈ front, isBlank c = true) ∧ ∀ c ∈ back, isBlank c = true := by
  let inner := text.dropWhile isBlank
  refine ⟨text.takeWhile isBlank, (inner.reverse.takeWhile isBlank).reverse, ?_,
    fun c => List.mem_takeWhile_imp, fun c hc => List.mem_takeWhile_imp (List.mem_reverse.mp hc)⟩
  rw [trim, ← List.reverse_append, List.takeWhile_append_dropWhile, List.reverse_reverse,
    List.takeWhile_append_dropWhile]

theorem trim_append {front inner back : Text} (hfront : ∀ c ∈ front, isBlank c = true)
    (hback : ∀ c ∈ back, isBlank c = true) (hhead : ∀ c, inner.head? = some c → isBlank c = false)
    (hlast : ∀ c, inner.getLast? = some c → isBlank c = false) (hne : inner ≠ []) :
    trim (front ++ (inner ++ back)) = inner := by
  have hrest : ∀ c, (inner ++ back).head? = some c → isBlank c = false := by
    obtain ⟨d, ds, rfl⟩ := List.exists_cons_of_ne_nil hne
    exact hhead
  have hreverse : ∀ c ∈ back.reverse, isBlank c = true := fun c hc => hback c (List.mem_reverse.mp hc)
  rw [trim, (span_append hfront hrest).2, List.reverse_append,
    (span_append hreverse (by simpa using hlast)).2, List.reverse_reverse]

end ShaderSources.Text
