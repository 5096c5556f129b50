import ShaderSources.Proofs.LogSpellings
import ShaderSources.Proofs.Precedence

namespace ShaderSources

namespace Text

theorem lowerChar_of_isDigit {c : Char} (h : isDigit c = true) : lowerChar c = c := by
  have htable : ∀ run ∈ capitals, ∀ z ∈ zeros, run.2.1 < z ∨ z + 10 ≤ run.1 := by decide +kernel
  obtain ⟨z, hz, hle, hlt⟩ := exists_zero_of_isDigit h
  have hnone : (capitals.find? fun run =>
      run.1 ≤ c.toNat && c.toNat ≤ run.2.1 && (c.toNat - run.1) % run.2.2.1 == 0) = none := by
    rw [List.find?_eq_none]
    intro run hrun
    have := htable run hrun z hz
    simp only [Bool.and_eq_true, decide_eq_true_eq]
    omega
  rw [lowerChar, hnone]

theorem lowerAfter_eq_self {text : Text}
    (h : ∀ c ∈ text, lowerChar c = c ∧ c ≠ capitalSigma ∧ c ≠ dottedCapitalI) (before : Text) :
    lowerAfter before text = text := by
  induction text generalizing before with
  | nil => rfl
  | cons c text ih =>
    rw [List.forall_mem_cons] at h
    obtain ⟨⟨hsmall, hsigma, hdotted⟩, hrest⟩ := h
    rw [lowerAfter, if_neg hsigma, if_neg hdotted, hsmall, ih hrest]
    rfl

end Text

namespace Numeral

open Text Compile

structure Framed (front sign digits back text : Text) : Prop where
  text_eq : text = front ++ (sign ++ (digits ++ back))
  front : ∀ c ∈ front, isBlank c = true
  sign : sign = [] ∨ sign = ['+'] ∨ sign = ['-']
  digits : Digits digits
  back : ∀ c ∈ back, isBlank c = true

def isSeparator (c : Char) : Bool := 0x1C ≤ c.toNat && c.toNat ≤ 0x1F

/-- Looks like an integer, and has too many digits or an information separator in its blanks. -/
def Unreadable (text : Text) : Prop :=
  ∃ front sign digits back, Framed front sign digits back text ∧
    (maxDigits < digits.length ∨ ∃ c ∈ front ++ back, isSeparator c = true)

theorem cutSign_of_not_sign {c : Char} (hplus : c ≠ '+') (hminus : c ≠ '-') (text : Text) :
    cutSign (c :: text) = (false, c :: text) := by
  unfold cutSign
  split
  · rename_i heq
    cases heq
    exact absurd rfl hminus
  · rename_i heq
    cases heq
    exact absurd rfl hplus
  · rfl

theorem exists_cutSign {sign digits : Text} (hsign : sign = [] ∨ sign = ['+'] ∨ sign = ['-'])
    (hdigits : Digits digits) (back : Text) :
    ∃ negative, cutSign (sign ++ (digits ++ back)) = (negative, digits ++ back) := by
  rcases hsign with rfl | rfl | rfl
  · obtain ⟨d, rest, htext, hd⟩ := hdigits.head_append back
    have hplus : d ≠ '+' := ne_of_apply_ne isDigit (by rw [hd]; decide)
    have hminus : d ≠ '-' := ne_of_apply_ne isDigit (by rw [hd]; decide)
    rw [List.nil_append, htext]
    exact ⟨false, cutSign_of_not_sign hplus hminus rest⟩
  · exact ⟨false, rfl⟩
  · exact ⟨true, rfl⟩

theorem isSigned_iff {text : Text} : isSigned text = true ↔ ∃ sign digits,
    text = sign ++ digits ∧ (sign = [] ∨ sign = ['+'] ∨ sign = ['-']) ∧ Digits digits := by
  have hdigits (digits : Text) :
      (!digits.isEmpty && digits.all Text.isDigit) = true ↔ Digits digits := by
    rw [Bool.and_eq_true, Bool.not_eq_true', List.isEmpty_eq_false_iff, List.all_eq_true]
    exact ⟨fun h => ⟨h.1, h.2⟩, fun h => ⟨h.ne_nil, h.all⟩⟩
  rw [isSigned, hdigits]
  constructor
  · intro h
    unfold cutSign at h
    split at h
    · exact ⟨['-'], _, rfl, .inr (.inr rfl), h⟩
    · exact ⟨['+'], _, rfl, .inr (.inl rfl), h⟩
    · exact ⟨[], _, rfl, .inl rfl, h⟩
  · rintro ⟨sign, digits, rfl, hsign, h⟩
    obtain ⟨negative, hcut⟩ := exists_cutSign hsign h []
    rw [List.append_nil] at hcut
    rw [hcut]
    exact h

namespace Framed

variable {front sign digits back text : Text}

theorem number_ne_nil (h : Framed front sign digits back text) : sign ++ digits ≠ [] :=
  List.append_ne_nil_of_right_ne_nil _ h.digits.ne_nil

theorem number_mem (h : Framed front sign digits back text) {c : Char} (hc : c ∈ sign ++ digits) :
    c = '+' ∨ c = '-' ∨ isDigit c = true := by
  rcases List.mem_append.mp hc with hc | hc
  · rcases h.sign with hsign | hsign | hsign
    · rw [hsign] at hc
      cases hc
    · rw [hsign, List.mem_singleton] at hc
      exact .inl hc
    · rw [hsign, List.mem_singleton] at hc
      exact .inr (.inl hc)
  · exact .inr (.inr (h.digits.all c hc))

theorem number_not_blank (h : Framed front sign digits back text) (c : Char)
    (hc : c ∈ sign ++ digits) : isBlank c = false := by
  rcases h.number_mem hc with rfl | rfl | hc
  · decide
  · decide
  · exact isBlank_of_isDigit hc

theorem trim_eq (h : Framed front sign digits back text) : trim text = sign ++ digits := by
  rw [h.text_eq, ← List.append_assoc sign]
  exact trim_append h.front h.back (fun c hc => h.number_not_blank c (List.mem_of_mem_head? hc))
    (fun c hc => h.number_not_blank c (List.mem_of_mem_getLast? hc)) h.number_ne_nil

end Framed

theorem isSigned_trim_iff {text : Text} :
    isSigned (trim text) = true ↔ ∃ front sign digits back, Framed front sign digits back text := by
  rw [isSigned_iff]
  constructor
  · rintro ⟨sign, digits, htrim, hsign, hdigits⟩
    obtain ⟨front, back, htext, hfront, hback⟩ := exists_trim text
    rw [htrim, List.append_assoc] at htext
    exact ⟨front, sign, digits, back, htext, hfront, hsign, hdigits, hback⟩
  · rintro ⟨front, sign, digits, back, h⟩
    exact ⟨sign, digits, h.trim_eq, h.sign, h.digits⟩

theorem isOuterBlank_eq {c : Char} (h : isBlank c = true) : isOuterBlank c = !isSeparator c := by
  rw [isOuterBlank, h, Bool.true_and]
  rfl

theorem isOuterBlank_eq_false {blanks : Text} (h : ∀ c ∈ blanks, isBlank c = true) :
    (∃ c ∈ blanks, isOuterBlank c = false) ↔ ∃ c ∈ blanks, isSeparator c = true := by
  apply exists_congr
  intro c
  apply and_congr_right
  intro hc
  rw [isOuterBlank_eq (h c hc), Bool.not_eq_false']

theorem exists_separator_of_dropWhile {blanks : Text} (h : ∀ c ∈ blanks, isBlank c = true)
    (hmem : ∃ c ∈ blanks, isSeparator c = true) (rest : Text) :
    ∃ c tail, (blanks ++ rest).dropWhile isOuterBlank = c :: tail ∧ c ∈ blanks ∧
      isSeparator c = true := by
  induction blanks with
  | nil =>
    obtain ⟨c, hc, -⟩ := hmem
    cases hc
  | cons b blanks ih =>
    rw [List.forall_mem_cons] at h
    rw [List.cons_append, List.dropWhile_cons, isOuterBlank_eq h.1]
    cases hb : isSeparator b with
    | true => exact ⟨b, _, rfl, List.mem_cons_self, hb⟩
    | false =>
      have hrest : ∃ c ∈ blanks, isSeparator c = true := by simpa [hb] using hmem
      obtain ⟨c, tail, hdrop, hc, hseparator⟩ := ih h.2 hrest
      exact ⟨c, tail, hdrop, List.mem_cons_of_mem _ hc, hseparator⟩

theorem readInt_eq_error_iff {text digits back : Text} {negative : Bool}
    (hcut : cutSign (text.dropWhile isOuterBlank) = (negative, digits ++ back))
    (hdigits : ∀ c ∈ digits, isDigit c = true) (hback : NoDigitAhead back) :
    (∃ fault, readInt text = .error fault) ↔
      maxDigits < digits.length ∨ digits = [] ∨ ∃ c ∈ back, isOuterBlank c = false := by
  have hrow : (digits ++ back).takeWhile isDigit = digits := (span_append hdigits hback).1
  have hbad : (digits.isEmpty || !back.all isOuterBlank) = true ↔
      digits = [] ∨ ∃ c ∈ back, isOuterBlank c = false := by simp
  unfold readInt
  rw [hcut]
  dsimp only
  rw [hrow, List.drop_left, ← hbad, readNat]
  by_cases hlong : maxDigits < digits.length
  · rw [if_pos hlong]
    exact ⟨fun _ => .inl hlong, fun _ => ⟨_, rfl⟩⟩
  · rw [if_neg hlong, or_iff_right hlong]
    by_cases h : (digits.isEmpty || !back.all isOuterBlank) = true
    · simp only [if_pos h]
      exact ⟨fun _ => h, fun _ => ⟨_, rfl⟩⟩
    · simp only [if_neg h]
      refine iff_of_false ?_ h
      rintro ⟨fault, hfault⟩
      cases hfault

theorem Framed.readInt_eq_error_iff {front sign digits back text : Text}
    (h : Framed front sign digits back text) : (∃ fault, readInt text = .error fault) ↔
      maxDigits < digits.length ∨ ∃ c ∈ front ++ back, isSeparator c = true := by
  by_cases hfront : ∃ c ∈ front, isSeparator c = true
  · -- A separator in front is met where the digits should begin.
    obtain ⟨c, tail, hdrop, hc, hseparator⟩ :=
      exists_separator_of_dropWhile h.front hfront (sign ++ (digits ++ back))
    have hplus : c ≠ '+' := ne_of_apply_ne isSeparator (by rw [hseparator]; decide)
    have hminus : c ≠ '-' := ne_of_apply_ne isSeparator (by rw [hseparator]; decide)
    have hcut : cutSign (text.dropWhile isOuterBlank) = (false, [] ++ c :: tail) := by
      rw [h.text_eq, hdrop]
      exact cutSign_of_not_sign hplus hminus tail
    have hahead : NoDigitAhead (c :: tail) := by
      rintro d ⟨⟩
      exact isDigit_of_isBlank (h.front c hc)
    have hread := (Numeral.readInt_eq_error_iff hcut (by simp) hahead).mpr (.inr (.inl rfl))
    exact iff_of_true hread (.inr ⟨c, List.mem_append_left _ hc, hseparator⟩)
  · have houter : ∀ c ∈ front, isOuterBlank c = true := by
      rw [← isOuterBlank_eq_false h.front] at hfront
      simpa using hfront
    obtain ⟨negative, hcut⟩ := exists_cutSign h.sign h.digits back
    have hdrop : text.dropWhile isOuterBlank = sign ++ (digits ++ back) := by
      rw [h.text_eq]
      refine (span_append houter fun c hc => ?_).2
      rw [← List.append_assoc, List.head?_append_of_ne_nil _ h.number_ne_nil] at hc
      rw [isOuterBlank, h.number_not_blank c (List.mem_of_mem_head? hc), Bool.false_and]
    rw [← hdrop] at hcut
    have hback : NoDigitAhead back := fun c hc => isDigit_of_isBlank (h.back c (List.mem_of_mem_head? hc))
    have hblanks : (∃ c ∈ front ++ back, isSeparator c = true) ↔ ∃ c ∈ back, isSeparator c = true := by
      simp only [List.mem_append, or_and_right, exists_or]
      exact or_iff_right hfront
    rw [Numeral.readInt_eq_error_iff hcut h.digits.all hback, or_iff_right h.digits.ne_nil,
      isOuterBlank_eq_false h.back, hblanks]

end Numeral

namespace Config

open Text Numeral

def Malformed (name : String) : Prop :=
  ∃ key, Text.after? environmentMark name.toList = some key ∧ [] ∈ segments key

instance (name : String) : Decidable (Malformed name) :=
  decidable_of_iff (((Text.after? environmentMark name.toList).any fun key =>
    (segments key).contains []) = true) (by simp [Malformed, Option.any_eq_true])

structure FirstMalformed (environment : Environment) (name : String) : Prop where
  mem : ∃ text, (name, text) ∈ environment
  malformed : Malformed name
  least : ∀ other ∈ environment, Malformed other.1 → name ≤ other.1

/-- Overrides are refused for their keys alone. -/
structure FaultsByKey (environment : Environment) (entries : Entries) : Prop where
  refused : (∃ entry ∈ environment, Malformed entry.1) → ∃ name, FirstMalformed environment name ∧
    applyEnvironment environment entries = .error (.config (.malformedKey name))
  applied : (∀ entry ∈ environment, ¬ Malformed entry.1) →
    ∃ result, applyEnvironment environment entries = .ok result

def Readable (mark : String × Text × String) : Prop :=
  ∃ override, readOverride mark.1 mark.2.1 mark.2.2 = .ok override

theorem readBool?_of_framed {front sign digits back text : Text}
    (h : Framed front sign digits back text) : readBool? text = none := by
  have hlower : lower (trim text) = sign ++ digits := by
    rw [h.trim_eq]
    apply lowerAfter_eq_self
    intro c hc
    rcases h.number_mem hc with rfl | rfl | hdigit
    · decide
    · decide
    · have hsigma : c ≠ capitalSigma := ne_of_apply_ne isDigit (by rw [hdigit]; decide)
      have hdotted : c ≠ dottedCapitalI := ne_of_apply_ne isDigit (by rw [hdigit]; decide)
      exact ⟨lowerChar_of_isDigit hdigit, hsigma, hdotted⟩
  have hword (c : Char) (word : Text) (hplus : c ≠ '+') (hminus : c ≠ '-')
      (hdigit : isDigit c = false) : sign ++ digits ≠ c :: word := by
    intro heq
    have hmem := h.number_mem (heq ▸ List.mem_cons_self)
    rw [hdigit] at hmem
    rcases hmem with hmem | hmem | hmem
    · exact hplus hmem
    · exact hminus hmem
    · cases hmem
  have htrue : sign ++ digits ≠ "true".toList := hword 't' _ (by decide) (by decide) (by decide)
  have hfalse : sign ++ digits ≠ "false".toList := hword 'f' _ (by decide) (by decide) (by decide)
  simp only [readBool?, hlower]
  rw [if_neg htrue, if_neg hfalse]

theorem coerce_eq_error_iff {text : Text} :
    (∃ fault, coerce text = .error fault) ↔ Unreadable text := by
  constructor
  · rintro ⟨fault, h⟩
    unfold coerce at h
    split at h
    · cases h
    · split at h
      · obtain ⟨front, sign, digits, back, hframed⟩ := isSigned_trim_iff.mp ‹_›
        rcases Fallible.bind_eq_error.mp h with hread | ⟨n, -, hreturn⟩
        · exact ⟨front, sign, digits, back, hframed, hframed.readInt_eq_error_iff.mp ⟨fault, hread⟩⟩
        · cases hreturn
      · split at h
        · cases h
        · cases h
  · rintro ⟨front, sign, digits, back, hframed, hbad⟩
    obtain ⟨fault, hread⟩ := hframed.readInt_eq_error_iff.mpr hbad
    have hsigned := isSigned_trim_iff.mpr ⟨front, sign, digits, back, hframed⟩
    refine ⟨fault, ?_⟩
    rw [coerce, readBool?_of_framed hframed]
    dsimp only
    rw [if_pos hsigned, hread]
    rfl

theorem readOverride_malformed {name text : String} {key : Text} (h : [] ∈ segments key) :
    readOverride name key text = .error (.config (.malformedKey name)) :=
  if_pos (List.contains_iff_mem.mpr h)

theorem readOverride_eq_error {name text : String} {key : Text} {fault : LoadError}
    (h : readOverride name key text = .error fault) :
    ([] ∈ segments key ∧ fault = .config (.malformedKey name)) ∨
      ([] ∉ segments key ∧ Unreadable text.toList ∧ ∃ number, fault = .numeral number) := by
  by_cases hkey : [] ∈ segments key
  · rw [readOverride_malformed hkey] at h
    cases h
    exact .inl ⟨hkey, rfl⟩
  · unfold readOverride at h
    dsimp only at h
    rw [if_neg (by simpa using hkey)] at h
    cases hvalue : coerce text.toList with
    | error number =>
      rw [hvalue] at h
      cases h
      exact .inr ⟨hkey, coerce_eq_error_iff.mp ⟨number, hvalue⟩, number, rfl⟩
    | ok value =>
      rw [hvalue] at h
      cases h

theorem readable_iff {mark : String × Text × String} :
    Readable mark ↔ [] ∉ segments mark.2.1 ∧ ¬ Unreadable mark.2.2.toList := by
  obtain ⟨name, key, text⟩ := mark
  constructor
  · rintro ⟨override, h⟩
    obtain ⟨value, hvalue, -⟩ := readOverride_eq_ok h
    constructor
    · intro hkey
      cases (readOverride_malformed hkey).symm.trans h
    · intro hunreadable
      obtain ⟨fault, hfault⟩ := coerce_eq_error_iff.mpr hunreadable
      cases hfault.symm.trans hvalue
  · rintro ⟨hkey, hvalue⟩
    cases h : readOverride name key text with
    | ok override => exact ⟨override, h⟩
    | error fault =>
      rcases readOverride_eq_error h with ⟨hmalformed, -⟩ | ⟨-, hunreadable, -⟩
      · exact absurd hmalformed hkey
      · exact absurd hunreadable hvalue

theorem applyMarked_eq_error {marks : List (String × Text × String)} {entries : Entries}
    {fault : LoadError} (h : applyMarked entries marks = .error fault) :
    ∃ front name key text back, marks = front ++ (name, key, text) :: back ∧
      (∀ mark ∈ front, Readable mark) ∧ readOverride name key text = .error fault := by
  induction marks generalizing entries with
  | nil => cases h
  | cons mark marks ih =>
    obtain ⟨name, key, text⟩ := mark
    rcases Fallible.bind_eq_error.mp h with hread | ⟨override, hread, happly⟩
    · exact ⟨[], name, key, text, marks, rfl, by simp, hread⟩
    · obtain ⟨front, later, keys, value, back, rfl, hfront, hfault⟩ := ih happly
      have hfirst : Readable (name, key, text) := ⟨override, hread⟩
      exact ⟨_ :: front, later, keys, value, back, rfl, List.forall_mem_cons.mpr ⟨hfirst, hfront⟩,
        hfault⟩

theorem readable_of_applyMarked {marks : List (String × Text × String)} {entries result : Entries}
    (h : applyMarked entries marks = .ok result) : ∀ mark ∈ marks, Readable mark := by
  induction marks generalizing entries with
  | nil => simp
  | cons mark marks ih =>
    obtain ⟨override, hread, happly⟩ := Fallible.bind_eq_ok.mp h
    exact List.forall_mem_cons.mpr ⟨⟨override, hread⟩, ih happly⟩

theorem exists_applyMarked_eq_ok {marks : List (String × Text × String)}
    (h : ∀ mark ∈ marks, Readable mark) (entries : Entries) :
    ∃ result, applyMarked entries marks = .ok result := by
  cases hmarks : applyMarked entries marks with
  | ok result => exact ⟨result, rfl⟩
  | error fault =>
    obtain ⟨front, name, key, text, back, rfl, -, hfault⟩ := applyMarked_eq_error hmarks
    obtain ⟨override, hread⟩ := h (name, key, text) (by simp)
    cases hfault.symm.trans hread

section Stop

variable {environment : Environment} {entries : Entries} {fault : LoadError} {name text : String}
  {key : Text}

/-- The variable at which applying the overrides stops: no other one that cannot be read is less. -/
structure StopsAt (environment : Environment) (name : String) (key : Text) (text : String) : Prop where
  mem : (name, key, text) ∈ environment.marked
  least : ∀ other ∈ environment.marked, ¬ Readable other → name ≤ other.1

theorem exists_stopsAt (h : applyEnvironment environment entries = .error fault) :
    ∃ name key text, StopsAt environment name key text ∧
      readOverride name key text = .error fault := by
  obtain ⟨front, name, key, text, back, hmarks, hfront, hfault⟩ := applyMarked_eq_error h
  refine ⟨name, key, text, ⟨by simp [hmarks], fun other hother hnot => ?_⟩, hfault⟩
  rw [hmarks, List.mem_append, List.mem_cons] at hother
  rcases hother with hother | rfl | hother
  · exact absurd (hfront other hother) hnot
  · exact String.le_refl _
  · exact (Environment.le_of_split hmarks).2 other hother

theorem malformed_iff (hmark : (name, key, text) ∈ environment.marked) :
    Malformed name ↔ [] ∈ segments key := by
  have hkey := (Environment.mem_marked.mp hmark).2
  constructor
  · rintro ⟨other, hother, hempty⟩
    cases hother.symm.trans hkey
    exact hempty
  · exact fun hempty => ⟨key, hkey, hempty⟩

theorem exists_mark_of_malformed {entry : String × String} (hmem : entry ∈ environment)
    (h : Malformed entry.1) : ∃ key, (entry.1, key, entry.2) ∈ environment.marked ∧
      ¬ Readable (entry.1, key, entry.2) := by
  obtain ⟨key, hkey, hempty⟩ := h
  refine ⟨key, Environment.mem_marked.mpr ⟨hmem, hkey⟩, ?_⟩
  rw [readable_iff]
  exact fun h => h.1 hempty

theorem StopsAt.le_of_malformed (h : StopsAt environment name key text) {entry : String × String}
    (hmem : entry ∈ environment) (hmalformed : Malformed entry.1) : name ≤ entry.1 := by
  obtain ⟨other, hmark, hnot⟩ := exists_mark_of_malformed hmem hmalformed
  exact h.least _ hmark hnot

theorem StopsAt.firstMalformed (h : StopsAt environment name key text) (hempty : [] ∈ segments key) :
    FirstMalformed environment name where
  mem := ⟨text, (Environment.mem_marked.mp h.mem).1⟩
  malformed := (malformed_iff h.mem).mpr hempty
  least := fun _ hmem hmalformed => h.le_of_malformed hmem hmalformed

end Stop

theorem FaultsByKey.of_unreadable {environment : Environment} {entries : Entries}
    (h : FaultsByKey environment entries) {entry : String × String} (hmem : entry ∈ environment)
    (hsets : pathOf? entry.1 ≠ none) (hunreadable : Unreadable entry.2.toList) :
    ∃ other ∈ environment, Malformed other.1 ∧ other.1 ≤ entry.1 := by
  have hkey : Text.after? environmentMark entry.1.toList ≠ none :=
    fun hnone => hsets (Option.map_eq_none_iff.mpr hnone)
  obtain ⟨key, hkey⟩ := Option.ne_none_iff_exists'.mp hkey
  have hmark := Environment.mem_marked.mpr ⟨hmem, hkey⟩
  have hnot : ¬ Readable (entry.1, key, entry.2) := by
    rw [readable_iff]
    exact fun hreads => hreads.2 hunreadable
  by_cases hsome : ∃ other ∈ environment, Malformed other.1
  · obtain ⟨name, hfirst, hrefused⟩ := h.refused hsome
    obtain ⟨stop, keys, text, hstop, hfault⟩ := exists_stopsAt hrefused
    obtain ⟨value, hvalue⟩ := hfirst.mem
    rcases readOverride_eq_error hfault with ⟨-, hname⟩ | ⟨-, -, number, hnumber⟩
    · cases hname
      exact ⟨(name, value), hvalue, hfirst.malformed, hstop.least _ hmark hnot⟩
    · cases hnumber
  · rw [not_exists] at hsome
    obtain ⟨result, hresult⟩ := h.applied fun other hother hmalformed => hsome other ⟨hother, hmalformed⟩
    exact absurd (readable_of_applyMarked hresult _ hmark) hnot

theorem faultsByKey_of_unreadable {environment : Environment} (entries : Entries)
    (h : ∀ entry ∈ environment, pathOf? entry.1 ≠ none → Unreadable entry.2.toList →
      ∃ other ∈ environment, Malformed other.1 ∧ other.1 ≤ entry.1) :
    FaultsByKey environment entries := by
  have hsets {name text : String} {key : Text} (hmark : (name, key, text) ∈ environment.marked) :
      pathOf? name ≠ none := by
    rw [pathOf?_of_mem_marked hmark]
    exact Option.some_ne_none _
  refine ⟨?_, fun hnone => exists_applyMarked_eq_ok ?_ entries⟩
  · rintro ⟨entry, hmem, hmalformed⟩
    obtain ⟨key, hmark, hnot⟩ := exists_mark_of_malformed hmem hmalformed
    cases hresult : applyEnvironment environment entries with
    | ok result => exact absurd (readable_of_applyMarked hresult _ hmark) hnot
    | error fault =>
      obtain ⟨name, keys, text, hstop, hfault⟩ := exists_stopsAt hresult
      rcases readOverride_eq_error hfault with ⟨hempty, rfl⟩ | ⟨hkeys, hunreadable, -⟩
      · exact ⟨name, hstop.firstMalformed hempty, rfl⟩
      · -- A malformed name no greater than this one is this one.
        obtain ⟨other, hother, hworse, hle⟩ :=
          h _ (Environment.mem_marked.mp hstop.mem).1 (hsets hstop.mem) hunreadable
        have heq : other.1 = name := String.le_antisymm hle (hstop.le_of_malformed hother hworse)
        rw [heq, malformed_iff hstop.mem] at hworse
        exact absurd hworse hkeys
  · rintro ⟨name, key, text⟩ hmark
    have hmem := (Environment.mem_marked.mp hmark).1
    rw [readable_iff]
    constructor
    · exact fun hempty => hnone _ hmem ((malformed_iff hmark).mpr hempty)
    · intro hunreadable
      obtain ⟨other, hother, hmalformed, -⟩ := h _ hmem (hsets hmark) hunreadable
      exact hnone other hother hmalformed

theorem faultsByKey_iff (environment : Environment) (entries : Entries) :
    (FaultsByKey environment entries ↔
      ∀ entry ∈ environment, pathOf? entry.1 ≠ none → Unreadable entry.2.toList →
        ∃ other ∈ environment, Malformed other.1 ∧ other.1 ≤ entry.1) ∧
    ∀ fault, applyEnvironment environment entries = .error fault →
      (∃ name, FirstMalformed environment name ∧ fault = .config (.malformedKey name)) ∨
      ∃ entry ∈ environment, Unreadable entry.2.toList ∧ ∃ number, fault = .numeral number := by
  refine ⟨⟨?_, faultsByKey_of_unreadable entries⟩, fun fault hfault => ?_⟩
  · exact fun h entry hmem hsets hunreadable => h.of_unreadable hmem hsets hunreadable
  · obtain ⟨name, key, text, hstop, hread⟩ := exists_stopsAt hfault
    rcases readOverride_eq_error hread with ⟨hempty, heq⟩ | ⟨-, hunreadable, hnumber⟩
    · exact .inl ⟨name, hstop.firstMalformed hempty, heq⟩
    · exact .inr ⟨(name, text), (Environment.mem_marked.mp hstop.mem).1, hunreadable, hnumber⟩

def separated : Environment := [("SHADERCRAWL_A", "\x1c7")]

theorem exists_not_faultsByKey : (∀ entry ∈ separated, ¬ Malformed entry.1) ∧
    applyEnvironment separated [] = .error (.numeral (.illFormed 10 "\x1c7".toList)) ∧
      ¬ FaultsByKey separated [] := by
  have hwell : ∀ entry ∈ separated, ¬ Malformed entry.1 := by decide +kernel
  have hkey : Text.after? environmentMark "SHADERCRAWL_A".toList = some ['A'] := by decide +kernel
  have hfault : applyEnvironment separated [] = .error (.numeral (.illFormed 10 "\x1c7".toList)) := by
    have hmarked : separated.marked = [("SHADERCRAWL_A", ['A'], "\x1c7")] := by
      rw [Environment.marked, separated, List.filterMap_cons_some (by rw [hkey]; rfl)]
      exact List.mergeSort_singleton _
    rw [applyEnvironment, hmarked]
    rfl
  refine ⟨hwell, hfault, fun h => ?_⟩
  obtain ⟨result, hresult⟩ := h.applied hwell
  cases hfault.symm.trans hresult

end Config

end ShaderSources
