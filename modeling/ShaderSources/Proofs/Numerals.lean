import ShaderSources.Number.Numeral

namespace ShaderSources

namespace Text

theorem toNat_of_isDigit {c : Char} (h : c.isDigit = true) :
    '0'.toNat ≤ c.toNat ∧ c.toNat ≤ '9'.toNat := by
  simpa [Char.isDigit, Char.le_def, UInt32.le_iff_toNat_le] using h

theorem digit?_eq_some {c : Char} (h : c.isDigit = true) :
    digit? c = some (c.toNat - '0'.toNat) := by
  have hbounds := toNat_of_isDigit h
  have hascii : c.toNat < 128 := Nat.lt_of_le_of_lt hbounds.2 (by decide)
  rw [digit?, if_pos hascii, if_pos (by simpa using hbounds)]

theorem isDigit_of_ascii {c : Char} (h : c.isDigit = true) : isDigit c = true := by
  rw [isDigit, digit?_eq_some h]
  rfl

theorem exists_zero_of_isDigit {c : Char} (h : isDigit c = true) :
    ∃ z ∈ zeros, z ≤ c.toNat ∧ c.toNat < z + 10 := by
  obtain ⟨d, hd⟩ := Option.isSome_iff_exists.mp h
  unfold digit? at hd
  split at hd
  · split at hd
    · rename_i hascii
      simp only [Bool.and_eq_true, decide_eq_true_eq] at hascii
      exact ⟨'0'.toNat, by decide, hascii.1, Nat.lt_succ_of_le hascii.2⟩
    · cases hd
  · obtain ⟨z, hfind, -⟩ := Option.map_eq_some_iff.mp hd
    have hin := List.find?_some hfind
    simp only [Bool.and_eq_true, decide_eq_true_eq] at hin
    exact ⟨z, List.mem_of_find?_eq_some hfind, hin⟩

theorem isBlank_of_isDigit {c : Char} (h : isDigit c = true) : isBlank c = false := by
  have htable : ∀ range ∈ blanks, ∀ z ∈ zeros, range.2 < z ∨ z + 10 ≤ range.1 := by decide
  obtain ⟨z, hmem, hle, hlt⟩ := exists_zero_of_isDigit h
  rw [isBlank, inRanges, List.any_eq_false]
  intro range hrange
  have := htable range hrange z hmem
  simp only [Bool.and_eq_true, decide_eq_true_eq]
  omega

theorem isDigit_of_isBlank {c : Char} (h : isBlank c = true) : isDigit c = false := by
  cases hdigit : isDigit c with
  | false => rfl
  | true =>
    rw [isBlank_of_isDigit hdigit] at h
    cases h

end Text

namespace Numeral

def Short (n : Nat) : Prop := (writeNat n).length ≤ maxDigits

instance (n : Nat) : Decidable (Short n) :=
  inferInstanceAs (Decidable ((writeNat n).length ≤ maxDigits))

theorem writeNat_ne_nil (n : Nat) : writeNat n ≠ [] := Nat.toDigits_ne_nil

theorem isDigit_of_mem_writeNat {n : Nat} {c : Char} (h : c ∈ writeNat n) : c.isDigit = true :=
  Nat.isDigit_of_mem_toDigits (by decide) (by decide) h

theorem toList_toString (n : Nat) : (toString n).toList = writeNat n := Nat.toList_repr

theorem ofDigits_ascii {digits : Text} (h : ∀ c ∈ digits, c.isDigit = true) (n : Nat) :
    (digits.filterMap Text.digit?).foldl (fun n d => n * 10 + d) n = Nat.ofDigitChars 10 digits n := by
  induction digits generalizing n with
  | nil => rfl
  | cons c digits ih =>
    have hc := Text.digit?_eq_some (h c List.mem_cons_self)
    rw [List.filterMap_cons_some hc, List.foldl_cons, Nat.ofDigitChars_cons, Nat.mul_comm]
    exact ih (fun d hd => h d (List.mem_cons_of_mem _ hd)) _

theorem natOfText_writeNat (n : Nat) : natOfText (writeNat n) = n := by
  rw [natOfText, ofDigits, ofDigits_ascii fun c hc => isDigit_of_mem_writeNat hc]
  exact Nat.ofDigitChars_toDigits (by decide) (by decide)

theorem readNat_writeNat {n : Nat} (h : Short n) : readNat (writeNat n) = .ok n := by
  rw [readNat, if_neg (Nat.not_lt.mpr h), natOfText_writeNat]

theorem length_writeNat_le_iff {n k : Nat} (hk : 0 < k) :
    (writeNat n).length ≤ k ↔ n < Nat.pow 10 k :=
  Nat.length_toDigits_le_iff (by decide) hk

theorem short_iff {n : Nat} : Short n ↔ n < Nat.pow 10 maxDigits :=
  length_writeNat_le_iff (by decide)

theorem toList_toString_int (n : Int) :
    (toString n).toList = if n < 0 then '-' :: writeNat n.natAbs else writeNat n.natAbs := by
  cases n with
  | ofNat n => exact toList_toString n
  | negSucc n =>
    have hminus : (toString (Int.negSucc n)).toList = '-' :: (toString (n + 1)).toList :=
      String.toList_append
    rw [if_pos (Int.negSucc_lt_zero n), hminus, toList_toString]
    rfl

theorem writeInt_of_short {n : Int} (h : Short n.natAbs) :
    writeInt n = .ok (toString n).toList := by
  rw [writeInt, if_neg (Nat.not_le.mpr (short_iff.mp h)), toList_toString_int]

theorem newline_not_mem_writeNat (n : Nat) : '\n' ∉ writeNat n := fun h =>
  absurd (isDigit_of_mem_writeNat h) (by decide)

theorem newline_not_mem_toString (n : Int) : '\n' ∉ (toString n).toList := by
  rw [toList_toString_int]
  split
  · simpa using newline_not_mem_writeNat n.natAbs
  · exact newline_not_mem_writeNat n.natAbs

end Numeral

end ShaderSources
