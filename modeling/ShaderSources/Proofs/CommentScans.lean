import ShaderSources.Proofs.TextCuts
import ShaderSources.Source.Comment

namespace ShaderSources

namespace Text

theorem not_prefix_of_cut? {mark text : Text} {parts : Text × Text} (h : cut? mark text = some parts)
    {j : Nat} (hj : j < parts.1.length) : ¬ mark <+: text.drop j := by
  induction text generalizing parts j with
  | nil =>
    obtain ⟨rest, -, rfl⟩ := Option.map_eq_some_iff.mp h
    simp at hj
  | cons c text ih =>
    rw [cut?] at h
    split at h
    · cases h
      simp at hj
    · rename_i hnone
      obtain ⟨inner, hinner, rfl⟩ := Option.map_eq_some_iff.mp h
      cases j with
      | zero => exact after?_eq_none_iff.mp hnone
      | succ j => exact ih hinner (Nat.lt_of_succ_lt_succ hj)

variable {mark text : Text} {start k j : Nat}

theorem drop_of_findFrom? (h : findFrom? mark text start = some k) :
    text.drop k = mark ++ text.drop (k + mark.length) := by
  obtain ⟨parts, hparts, rfl⟩ := Option.map_eq_some_iff.mp h
  have htext := eq_append_of_cut? hparts
  rw [← List.drop_drop, ← List.drop_drop, ← List.drop_drop, htext, List.drop_left, List.drop_left]

theorem not_prefix_of_findFrom? (h : findFrom? mark text start = some k) (hstart : start ≤ j)
    (hj : j < k) : ¬ mark <+: text.drop j := by
  obtain ⟨parts, hparts, rfl⟩ := Option.map_eq_some_iff.mp h
  have hnot := not_prefix_of_cut? hparts (j := j - start) (by omega)
  rwa [List.drop_drop, Nat.add_sub_cancel' hstart] at hnot

theorem not_prefix_of_findFrom?_eq_none (h : findFrom? mark text start = none) (hstart : start ≤ j) :
    ¬ mark <+: text.drop j := by
  rw [findFrom?, Option.map_eq_none_iff, cut?_eq_none_iff] at h
  intro hmark
  apply h
  have hsuffix : text.drop j <:+ text.drop start := by
    rw [← Nat.add_sub_cancel' hstart, ← List.drop_drop]
    exact List.drop_suffix _ _
  exact hmark.isInfix.trans hsuffix.isInfix

theorem not_prefix_of_not_before (h : ¬ (findFrom? mark text start).any (· < k)) (hstart : start ≤ j)
    (hj : j < k) : ¬ mark <+: text.drop j := by
  cases hfound : findFrom? mark text start with
  | none => exact not_prefix_of_findFrom?_eq_none hfound hstart
  | some found =>
    rw [hfound] at h
    have hge : k ≤ found := by simpa using h
    exact not_prefix_of_findFrom? hfound hstart (by omega)

end Text

namespace Source

open Text

def inCommentAfter : Bool → Text → Bool
  | inside, [] => inside
  | false, '/' :: '/' :: _ => false
  | false, '/' :: '*' :: text => inCommentAfter true text
  | true, '*' :: '/' :: text => inCommentAfter false text
  | inside, _ :: text => inCommentAfter inside text

def countingMarks (inside : Bool) : List Text :=
  if inside then ["*/".toList] else ["//".toList, "/*".toList]

theorem inCommentAfter_cons {inside : Bool} {c : Char} {text : Text}
    (h : ∀ mark ∈ countingMarks inside, ¬ mark <+: c :: text) :
    inCommentAfter inside (c :: text) = inCommentAfter inside text := by
  rw [inCommentAfter]
  · rintro rest rfl rfl rfl
    exact h "//".toList (by decide) (List.prefix_append "//".toList rest)
  · rintro rest rfl rfl rfl
    exact h "/*".toList (by decide) (List.prefix_append "/*".toList rest)
  · rintro rest rfl rfl rfl
    exact h "*/".toList (by decide) (List.prefix_append "*/".toList rest)

theorem inCommentAfter_drop_succ {inside : Bool} {body : Text} {k : Nat}
    (h : ∀ mark ∈ countingMarks inside, ¬ mark <+: body.drop k) :
    inCommentAfter inside (body.drop k) = inCommentAfter inside (body.drop (k + 1)) := by
  rw [← List.drop_drop]
  cases hrest : body.drop k with
  | nil => rfl
  | cons c rest =>
    rw [hrest] at h
    exact inCommentAfter_cons h

theorem inCommentAfter_drop {inside : Bool} {body : Text} {i k : Nat} (hik : i ≤ k)
    (h : ∀ j, i ≤ j → j < k → ∀ mark ∈ countingMarks inside, ¬ mark <+: body.drop j) :
    inCommentAfter inside (body.drop i) = inCommentAfter inside (body.drop k) := by
  induction k, hik using Nat.le_induction with
  | base => rfl
  | succ k hik ih =>
    rw [ih fun j hij hj => h j hij (by omega)]
    exact inCommentAfter_drop_succ (h k hik (by omega))

theorem inCommentAfter_true_drop {body : Text} {i k : Nat} (hik : i ≤ k)
    (hclosed : ∀ j, i ≤ j → j < k → ¬ "*/".toList <+: body.drop j) :
    inCommentAfter true (body.drop i) = inCommentAfter true (body.drop k) := by
  apply inCommentAfter_drop hik
  intro j hij hj mark hmark
  rw [List.mem_singleton.mp hmark]
  exact hclosed j hij hj

theorem inCommentAfter_false_drop {body : Text} {i k : Nat} (hik : i ≤ k)
    (hline : ∀ j, i ≤ j → j < k → ¬ "//".toList <+: body.drop j)
    (hopened : ∀ j, i ≤ j → j < k → ¬ "/*".toList <+: body.drop j) :
    inCommentAfter false (body.drop i) = inCommentAfter false (body.drop k) := by
  apply inCommentAfter_drop hik
  intro j hij hj mark hmark
  rcases List.mem_cons.mp hmark with rfl | hmark
  · exact hline j hij hj
  · rw [List.mem_singleton.mp hmark]
    exact hopened j hij hj

theorem inCommentAfter_of_line {body : Text} {i line : Nat} (hle : i ≤ line)
    (hline : findFrom? "//".toList body i = some line)
    (hopened : ∀ j, i ≤ j → j < line → ¬ "/*".toList <+: body.drop j) :
    inCommentAfter false (body.drop i) = false := by
  rw [inCommentAfter_false_drop hle (fun j => not_prefix_of_findFrom? hline) hopened,
    drop_of_findFrom? hline]
  rfl

theorem commentOpenFrom_eq (body : Text) (i : Nat) (inside : Bool) :
    commentOpenFrom body i inside = inCommentAfter inside (body.drop i) := by
  fun_induction commentOpenFrom body i inside with
  | case1 i hi hnone =>
    rw [inCommentAfter_true_drop (Nat.le_of_lt hi) fun j hij _ =>
      not_prefix_of_findFrom?_eq_none hnone hij, List.drop_length]
    rfl
  | case2 i hi closed hclosed ih =>
    rw [ih, inCommentAfter_true_drop (bounds_of_findFrom? (by decide) hclosed).1 fun j =>
      not_prefix_of_findFrom? hclosed, drop_of_findFrom? hclosed]
    rfl
  | case3 i inside hi houtside hnone =>
    obtain rfl : inside = false := by simpa using houtside
    have hopened : ∀ j, i ≤ j → ¬ "/*".toList <+: body.drop j := fun j =>
      not_prefix_of_findFrom?_eq_none hnone
    cases hline : findFrom? "//".toList body i with
    | none =>
      rw [inCommentAfter_false_drop (Nat.le_of_lt hi) (fun j hij _ =>
        not_prefix_of_findFrom?_eq_none hline hij) fun j hij _ => hopened j hij, List.drop_length]
      rfl
    | some line =>
      have hle := (bounds_of_findFrom? (by decide) hline).1
      exact (inCommentAfter_of_line hle hline fun j hij _ => hopened j hij).symm
  | case4 i inside hi houtside opened hopened hbefore =>
    obtain rfl : inside = false := by simpa using houtside
    obtain ⟨line, hline, hlt⟩ := (Option.any_eq_true _ _).mp hbefore
    have hlt := of_decide_eq_true hlt
    have hle := (bounds_of_findFrom? (by decide) hline).1
    exact (inCommentAfter_of_line hle hline fun j hij hj =>
      not_prefix_of_findFrom? hopened hij (by omega)).symm
  | case5 i inside hi houtside opened hopened hbefore ih =>
    obtain rfl : inside = false := by simpa using houtside
    have hline : ∀ j, i ≤ j → j < opened → ¬ "//".toList <+: body.drop j := fun j =>
      not_prefix_of_not_before hbefore
    rw [ih, inCommentAfter_false_drop (bounds_of_findFrom? (by decide) hopened).1 hline fun j =>
      not_prefix_of_findFrom? hopened, drop_of_findFrom? hopened]
    rfl
  | case6 i inside hi =>
    rw [List.drop_eq_nil_of_le (by omega)]
    rfl

theorem commentOpenAfter_eq (inside : Bool) (body : Text) :
    commentOpenAfter inside body = inCommentAfter inside body := commentOpenFrom_eq body 0 inside

end Source

end ShaderSources
