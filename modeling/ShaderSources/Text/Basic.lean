namespace ShaderSources

abbrev Text := List Char

namespace Text

def after? : Text → Text → Option Text
  | [], text => some text
  | _ :: _, [] => none
  | a :: lead, c :: text => if a = c then after? lead text else none

def cut? (mark : Text) : Text → Option (Text × Text)
  | [] => (after? mark []).map fun rest => ([], rest)
  | c :: text =>
    match after? mark (c :: text) with
    | some rest => some ([], rest)
    | none => (cut? mark text).map fun parts => (c :: parts.1, parts.2)

def findFrom? (mark text : Text) (start : Nat) : Option Nat :=
  (cut? mark (text.drop start)).map fun parts => start + parts.1.length

def pieces (mark : Char) : Text → List Text
  | [] => [[]]
  | c :: text =>
    if c = mark then [] :: pieces mark text
    else match pieces mark text with
      | [] => [[c]]
      | piece :: rest => (c :: piece) :: rest

def endsWith (text : Text) (c : Char) : Bool := text.getLast? = some c

def dropEnd (c : Char) (text : Text) : Text :=
  if endsWith text c then text.dropLast else text

def inRanges (ranges : List (Nat × Nat)) (c : Char) : Bool :=
  ranges.any fun range => range.1 ≤ c.toNat && c.toNat ≤ range.2

theorem after?_append (lead rest : Text) : after? lead (lead ++ rest) = some rest := by
  induction lead with
  | nil => simp [after?]
  | cons a lead ih => simp [after?, ih]

theorem eq_append_of_after? {lead text rest : Text} (h : after? lead text = some rest) :
    text = lead ++ rest := by
  induction lead generalizing text with
  | nil => simpa [after?] using h
  | cons a lead ih =>
    cases text with
    | nil => simp [after?] at h
    | cons c text =>
      by_cases hc : a = c
      · simp only [after?, hc, if_true] at h
        simp [hc, ih h]
      · simp [after?, hc] at h

theorem eq_append_of_cut? {mark text : Text} {parts : Text × Text}
    (h : cut? mark text = some parts) : text = parts.1 ++ (mark ++ parts.2) := by
  induction text generalizing parts with
  | nil =>
    obtain ⟨rest, hrest, rfl⟩ := Option.map_eq_some_iff.mp h
    have htext := eq_append_of_after? hrest
    exact htext
  | cons c text ih =>
    rw [cut?] at h
    split at h
    · rename_i rest hrest
      cases h
      have htext := eq_append_of_after? hrest
      exact htext
    · obtain ⟨inner, hinner, rfl⟩ := Option.map_eq_some_iff.mp h
      rw [List.cons_append, ← ih hinner]

theorem bounds_of_findFrom? {mark text : Text} {start k : Nat} (hmark : mark ≠ [])
    (h : findFrom? mark text start = some k) : start ≤ k ∧ k + mark.length ≤ text.length := by
  obtain ⟨parts, hparts, rfl⟩ := Option.map_eq_some_iff.mp h
  have hlength := congrArg List.length (eq_append_of_cut? hparts)
  have hpos := List.length_pos_iff.mpr hmark
  simp only [List.length_drop, List.length_append] at hlength
  omega

end Text

end ShaderSources
