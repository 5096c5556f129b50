import ShaderSources.Proofs.Locations
import ShaderSources.Proofs.TextCuts

namespace ShaderSources

namespace Compile

open Text Numeral

variable {Context : Type}

def startsLine (atStart : Bool) : Text → Bool
  | [] => atStart
  | c :: text => startsLine (c = '\n') text

/-- What stands behind each start of a line, as far as anything does. -/
def lineTails : Bool → Text → List Text
  | _, [] => []
  | atStart, c :: text => (if atStart then [c :: text] else []) ++ lineTails (c = '\n') text

structure Digits (text : Text) : Prop where
  ne_nil : text ≠ []
  all : ∀ c ∈ text, isDigit c = true

def NoBlankAhead (text : Text) : Prop := ∀ c, text.head? = some c → isBlank c = false

def labelledText (blanks string line : Text) : Text :=
  "ERROR:".toList ++ (blanks ++ (string ++ ':' :: line))

-- Rewriting by the definition itself would evaluate the word.
theorem labelledText_eq (blanks string line : Text) : labelledText blanks string line =
    "ERROR:".toList ++ (blanks ++ (string ++ ':' :: line)) := rfl

def parenthesisedText (string line blanks : Text) : Text := string ++ '(' :: (line ++ ')' :: blanks)

theorem startsLine_append (atStart : Bool) (front back : Text) :
    startsLine atStart (front ++ back) = startsLine (startsLine atStart front) back := by
  induction front generalizing atStart with
  | nil => rfl
  | cons c front ih => exact ih _

theorem startsLine_concat (atStart : Bool) (front : Text) (c : Char) :
    startsLine atStart (front ++ [c]) = decide (c = '\n') := by
  rw [startsLine_append]
  rfl

theorem startsLine_eq_true {atStart : Bool} {front : Text} (hne : front ≠ [])
    (h : startsLine atStart front = true) : ∃ before, front = before ++ ['\n'] := by
  obtain ⟨before, c, rfl⟩ := List.eq_nil_or_concat front |>.resolve_left hne
  rw [List.concat_eq_append, startsLine_concat, decide_eq_true_iff] at h
  exact ⟨before, by rw [List.concat_eq_append, h]⟩

theorem startsLine_of_newline_not_mem {text : Text} (hne : text ≠ []) (hfree : '\n' ∉ text)
    (atStart : Bool) : startsLine atStart text = false := by
  by_contra h
  obtain ⟨before, rfl⟩ := startsLine_eq_true hne (Bool.not_eq_false _ ▸ h)
  simp at hfree

theorem lineTails_append (atStart : Bool) (front back : Text) :
    lineTails atStart (front ++ back) =
      (lineTails atStart front).map (· ++ back) ++ lineTails (startsLine atStart front) back := by
  induction front generalizing atStart with
  | nil => rfl
  | cons c front ih =>
    rw [List.cons_append, lineTails, ih, lineTails, List.map_append, List.append_assoc, startsLine]
    cases atStart <;> rfl

theorem mem_lineTails_iff {atStart : Bool} {text tail : Text} : tail ∈ lineTails atStart text ↔
    tail ≠ [] ∧ ∃ front, text = front ++ tail ∧ startsLine atStart front = true := by
  constructor
  · intro h
    induction text generalizing atStart with
    | nil => cases h
    | cons c text ih =>
      rcases List.mem_append.mp h with hhere | hrest
      · cases atStart with
        | false => cases hhere
        | true =>
          rw [List.mem_singleton.mp hhere]
          exact ⟨List.cons_ne_nil c text, [], rfl, rfl⟩
      · obtain ⟨hne, front, rfl, hstart⟩ := ih hrest
        exact ⟨hne, c :: front, rfl, hstart⟩
  · rintro ⟨hne, front, rfl, hstart⟩
    obtain ⟨c, tail, rfl⟩ := List.exists_cons_of_ne_nil hne
    rw [lineTails_append, hstart]
    exact List.mem_append_right _ List.mem_cons_self

theorem lineTails_whole {text : Text} (hne : text ≠ []) : text ∈ lineTails true text :=
  mem_lineTails_iff.mpr ⟨hne, [], rfl, rfl⟩

theorem mem_lineTails_append {atStart : Bool} {front back tail : Text}
    (h : tail ∈ lineTails (startsLine atStart front) back) : tail ∈ lineTails atStart (front ++ back) := by
  rw [lineTails_append]
  exact List.mem_append_right _ h

theorem lineTails_inside {line : Text} (h : '\n' ∉ line) (rest : Text) :
    lineTails false (line ++ rest) = lineTails false rest := by
  induction line with
  | nil => rfl
  | cons c line ih =>
    obtain ⟨hc, hline⟩ := newline_not_mem_cons h
    rw [List.cons_append, lineTails, hc, ih hline]
    rfl

theorem lineTails_line {line : Text} (h : '\n' ∉ line) (rest : Text) :
    lineTails true (line ++ '\n' :: rest) = (line ++ '\n' :: rest) :: lineTails true rest := by
  cases line with
  | nil => rfl
  | cons c line =>
    obtain ⟨hc, hline⟩ := newline_not_mem_cons h
    rw [List.cons_append, lineTails, hc, lineTails_inside hline]
    rfl

theorem lineTails_last {line : Text} (hne : line ≠ []) (h : '\n' ∉ line) :
    lineTails true line = [line] := by
  obtain ⟨c, line, rfl⟩ := List.exists_cons_of_ne_nil hne
  obtain ⟨hc, hline⟩ := newline_not_mem_cons h
  have hinside := lineTails_inside hline []
  rw [List.append_nil] at hinside
  rw [lineTails, hc, hinside]
  rfl

theorem Digits.head_append {string : Text} (h : Digits string) (rest : Text) :
    ∃ d tail, string ++ rest = d :: tail ∧ isDigit d = true := by
  obtain ⟨d, ds, rfl⟩ := List.exists_cons_of_ne_nil h.ne_nil
  exact ⟨d, ds ++ rest, rfl, h.all d List.mem_cons_self⟩

theorem Digits.not_mem {string : Text} (h : Digits string) {c : Char} (hc : isDigit c = false) :
    c ∉ string := by
  intro hmem
  have := h.all c hmem
  rw [hc] at this
  cases this

theorem digits_takeWhile {text : Text} (h : (text.takeWhile isDigit).isEmpty = false) :
    Digits (text.takeWhile isDigit) :=
  ⟨by simpa using h, fun _ => List.mem_takeWhile_imp⟩

theorem length_labelledText (blanks string line : Text) :
    (labelledText blanks string line).length =
      6 + blanks.length + string.length + 1 + line.length := by
  have hlabel : "ERROR:".toList.length = 6 := by decide
  rw [labelledText_eq, List.length_append, List.length_append, List.length_append, List.length_cons,
    hlabel]
  omega

theorem length_parenthesisedText (string line blanks : Text) :
    (parenthesisedText string line blanks).length =
      string.length + 1 + line.length + 1 + blanks.length := by
  rw [parenthesisedText, List.length_append, List.length_cons, List.length_append, List.length_cons]
  omega

theorem labelled_eq_some_iff {text : Text} {location : Location} :
    labelled text = some location ↔ ∃ blanks rest,
      text = labelledText blanks location.string location.line ++ rest ∧
        location.length = (labelledText blanks location.string location.line).length ∧
        (∀ c ∈ blanks, isBlank c = true) ∧ Digits location.string ∧ Digits location.line ∧
        NoDigitAhead rest := by
  constructor
  · intro h
    unfold labelled at h
    split at h
    · cases h
    · rename_i behind hlabel
      have hbehind := List.takeWhile_append_dropWhile (p := isBlank) (l := behind)
      have hstring := List.takeWhile_append_dropWhile (p := isDigit) (l := behind.dropWhile isBlank)
      dsimp only at h
      split at h
      · rename_i rest hcolon
        have hline := List.takeWhile_append_dropWhile (p := isDigit) (l := rest)
        split_ifs at h with hempty
        simp only [Bool.or_eq_true, not_or, Bool.not_eq_true] at hempty
        cases h
        refine ⟨behind.takeWhile isBlank, rest.dropWhile isDigit, ?_, ?_, fun c =>
          List.mem_takeWhile_imp, digits_takeWhile hempty.1, digits_takeWhile hempty.2, fun c =>
          head?_dropWhile⟩
        · rw [eq_append_of_after? hlabel, labelledText_eq]
          simp only [List.append_assoc, List.cons_append, hline, ← hcolon, hstring, hbehind]
        · rw [length_labelledText]
      · cases h
  · obtain ⟨string, line, length⟩ := location
    rintro ⟨blanks, rest, rfl, hlength, hblanks, hstring, hline, hrest⟩
    dsimp only at hlength hstring hline ⊢
    have hblank := @span_append isBlank blanks (string ++ ':' :: (line ++ rest)) hblanks fun c hc => by
      obtain ⟨d, tail, heq, hd⟩ := hstring.head_append (':' :: (line ++ rest))
      rw [heq] at hc
      cases hc
      exact isBlank_of_isDigit hd
    have hcolon := @span_append isDigit string (':' :: (line ++ rest)) hstring.all
      (by rintro c ⟨⟩; decide)
    have hdigits := span_append hline.all hrest
    have htext : labelledText blanks string line ++ rest =
        "ERROR:".toList ++ (blanks ++ (string ++ ':' :: (line ++ rest))) := by
      simp [labelledText_eq]
    rw [htext]
    unfold labelled
    simp only [after?_append, hblank.1, hblank.2, hcolon.1, hcolon.2, hdigits.1]
    simp [length_labelledText, hstring.ne_nil, hline.ne_nil, hlength]

theorem parenthesised_eq_some_iff {text : Text} {location : Location} :
    parenthesised text = some location ↔ ∃ blanks rest,
      text = parenthesisedText location.string location.line blanks ++ rest ∧
        location.length = (parenthesisedText location.string location.line blanks).length ∧
        (∀ c ∈ blanks, isBlank c = true) ∧ Digits location.string ∧ Digits location.line ∧
        NoBlankAhead rest := by
  constructor
  · intro h
    have hstring := List.takeWhile_append_dropWhile (p := isDigit) (l := text)
    unfold parenthesised at h
    dsimp only at h
    split at h
    · rename_i behind hopen
      have hline := List.takeWhile_append_dropWhile (p := isDigit) (l := behind)
      split at h
      · rename_i rest hclose
        have hrest := List.takeWhile_append_dropWhile (p := isBlank) (l := rest)
        split_ifs at h with hempty
        simp only [Bool.or_eq_true, not_or, Bool.not_eq_true] at hempty
        cases h
        refine ⟨rest.takeWhile isBlank, rest.dropWhile isBlank, ?_, ?_, fun c =>
          List.mem_takeWhile_imp, digits_takeWhile hempty.1, digits_takeWhile hempty.2, fun c =>
          head?_dropWhile⟩
        · simp only [parenthesisedText, List.append_assoc, List.cons_append, hrest, ← hclose, hline,
            ← hopen, hstring]
        · rw [length_parenthesisedText]
      · cases h
    · cases h
  · obtain ⟨string, line, length⟩ := location
    rintro ⟨blanks, rest, rfl, hlength, hblanks, hstring, hline, hrest⟩
    dsimp only at hlength hstring hline ⊢
    have hopen := @span_append isDigit string ('(' :: (line ++ ')' :: (blanks ++ rest))) hstring.all
      (by rintro c ⟨⟩; decide)
    have hclose := @span_append isDigit line (')' :: (blanks ++ rest)) hline.all
      (by rintro c ⟨⟩; decide)
    have hblank := span_append hblanks hrest
    have htext : parenthesisedText string line blanks ++ rest =
        string ++ '(' :: (line ++ ')' :: (blanks ++ rest)) := by
      simp [parenthesisedText]
    rw [htext]
    unfold parenthesised
    simp only [hopen.1, hopen.2, hclose.1, hclose.2, hblank.1]
    simp [length_parenthesisedText, hstring.ne_nil, hline.ne_nil, hlength]

theorem labelled_eq_none {text : Text} (h : ∀ c, text.head? = some c → c ≠ 'E') :
    labelled text = none := by
  by_contra hne
  obtain ⟨location, hlocation⟩ := Option.ne_none_iff_exists'.mp hne
  obtain ⟨blanks, rest, rfl, -⟩ := labelled_eq_some_iff.mp hlocation
  exact h 'E' rfl rfl

theorem parenthesised_eq_none {text : Text} (h : NoDigitAhead text) : parenthesised text = none := by
  by_contra hne
  obtain ⟨location, hlocation⟩ := Option.ne_none_iff_exists'.mp hne
  obtain ⟨blanks, rest, rfl, -, -, hstring, -⟩ := parenthesised_eq_some_iff.mp hlocation
  obtain ⟨d, tail, htext, hd⟩ := hstring.head_append ('(' :: (location.line ++ ')' :: blanks) ++ rest)
  rw [parenthesisedText, List.append_assoc, htext] at h
  rw [h d rfl] at hd
  cases hd

theorem exists_of_append_eq {pre post front back : Text} {c : Char} (hfree : c ∉ pre)
    (h : pre ++ post = front ++ c :: back) :
    ∃ inner, front = pre ++ inner ∧ post = inner ++ c :: back := by
  rcases List.append_eq_append_iff.mp h with ⟨inner, hfront, hpost⟩ | ⟨inner, hpre, hback⟩
  · exact ⟨inner, hfront, hpost⟩
  · cases inner with
    | nil => exact ⟨[], by simpa using hpre.symm, by simpa using hback.symm⟩
    | cons d inner =>
      cases hback
      exact absurd (by simp [hpre]) hfree

/-- What a spelling finds lies at the front of the text, and no line in it starts with a location. -/
structure Spelling.Sound (spelling : Spelling) : Prop where
  filled : ∀ {text location}, spelling text = some location → 0 < location.length
  fits : ∀ {text location}, spelling text = some location → location.length ≤ text.length
  apart : ∀ {front back location}, spelling (front ++ '\n' :: back) = some location →
    front.length + 1 < location.length → spelling back = none

theorem none_of_blank {blanks : Text} (hne : blanks ≠ []) (hblanks : ∀ c ∈ blanks, isBlank c = true)
    (rest : Text) : labelled (blanks ++ rest) = none ∧ parenthesised (blanks ++ rest) = none := by
  obtain ⟨b, bs, rfl⟩ := List.exists_cons_of_ne_nil hne
  have hb := hblanks b List.mem_cons_self
  constructor
  · apply labelled_eq_none
    rintro c ⟨⟩ rfl
    exact absurd hb (by decide)
  · apply parenthesised_eq_none
    rintro c ⟨⟩
    exact isDigit_of_isBlank hb

theorem none_of_digits {string : Text} (h : Digits string) (rest : Text) :
    labelled (string ++ ':' :: rest) = none ∧ parenthesised (string ++ ':' :: rest) = none := by
  constructor
  · apply labelled_eq_none
    obtain ⟨d, tail, htext, hd⟩ := h.head_append (':' :: rest)
    rw [htext]
    rintro c ⟨⟩ rfl
    exact absurd hd (by decide)
  · have hspan := @span_append isDigit string (':' :: rest) h.all (by rintro c ⟨⟩; decide)
    unfold parenthesised
    simp only [hspan.1, hspan.2]
    rfl

theorem newline_not_mem_digits {string : Text} (h : Digits string) : '\n' ∉ string :=
  h.not_mem (by decide)

theorem newline_not_mem_pair {string line : Text} (hstring : Digits string) (hline : Digits line) :
    '\n' ∉ parenthesisedText string line [] := by
  simp [parenthesisedText, newline_not_mem_digits hstring, newline_not_mem_digits hline]

theorem parenthesisedText_append (string line blanks rest : Text) :
    parenthesisedText string line blanks ++ rest =
      parenthesisedText string line [] ++ (blanks ++ rest) := by
  simp [parenthesisedText]

-- A labelled location has line feeds between the label and the string number only.
theorem exists_blanks_of_labelled {front back : Text} {location : Location}
    (h : labelled (front ++ '\n' :: back) = some location) (hinside : front.length < location.length) :
    ∃ before behind rest, front = "ERROR:".toList ++ before ∧
      back = behind ++ (location.string ++ ':' :: (location.line ++ rest)) ∧
      (∀ c ∈ before, isBlank c = true) ∧ ∀ c ∈ behind, isBlank c = true := by
  obtain ⟨blanks, rest, htext, hlength, hblanks, hstring, hline, -⟩ := labelled_eq_some_iff.mp h
  have hword : '\n' ∉ "ERROR:".toList := by decide
  rw [labelledText_eq, List.append_assoc] at htext
  obtain ⟨inner, rfl, hinner⟩ := exists_of_append_eq hword htext.symm
  rw [List.append_assoc] at hinner
  rcases List.append_eq_append_iff.mp hinner with ⟨more, rfl, hmore⟩ | ⟨more, rfl, hback⟩
  · have hnumbers : '\n' ∉ location.string ++ ':' :: location.line := by
      simp [newline_not_mem_digits hstring, newline_not_mem_digits hline]
    obtain ⟨further, rfl, -⟩ := exists_of_append_eq hnumbers hmore
    rw [length_labelledText] at hlength
    simp at hinside
    omega
  · cases more with
    | nil =>
      obtain ⟨d, tail, heq, hd⟩ := hstring.head_append (':' :: location.line ++ rest)
      rw [List.nil_append, List.append_assoc, heq] at hback
      cases hback
      exact absurd hd (by decide)
    | cons c more =>
      cases hback
      refine ⟨inner, more, rest, rfl, ?_, fun c hc => hblanks c (by simp [hc]), fun c hc =>
        hblanks c (by simp [hc])⟩
      rw [List.append_assoc, List.cons_append]
      rfl

-- A parenthesised location has line feeds behind the parenthesis only.
theorem exists_blanks_of_parenthesised {front back : Text} {location : Location}
    (h : parenthesised (front ++ '\n' :: back) = some location)
    (hinside : front.length < location.length) :
    ∃ before behind rest, front = parenthesisedText location.string location.line before ∧
      back = behind ++ rest ∧ location.length = front.length + 1 + behind.length ∧
      (∀ c ∈ before, isBlank c = true) ∧ (∀ c ∈ behind, isBlank c = true) ∧ NoBlankAhead rest := by
  obtain ⟨blanks, rest, htext, hlength, hblanks, hstring, hline, hrest⟩ :=
    parenthesised_eq_some_iff.mp h
  rw [parenthesisedText_append] at htext
  obtain ⟨inner, rfl, hinner⟩ := exists_of_append_eq (newline_not_mem_pair hstring hline) htext.symm
  rw [length_parenthesisedText] at hlength
  rw [List.length_append, length_parenthesisedText, List.length_nil] at hinside
  rcases List.append_eq_append_iff.mp hinner with ⟨more, rfl, -⟩ | ⟨more, rfl, hback⟩
  · rw [List.length_append] at hinside
    omega
  · cases more with
    | nil =>
      rw [List.append_nil] at hlength
      omega
    | cons c more =>
      cases hback
      refine ⟨inner, more, rest, ?_, rfl, ?_, fun c hc => hblanks c (by simp [hc]), fun c hc =>
        hblanks c (by simp [hc]), hrest⟩
      · simp [parenthesisedText]
      · rw [List.length_append, length_parenthesisedText, List.length_nil]
        rw [List.length_append, List.length_cons] at hlength
        omega

theorem none_inside_labelled {front back : Text} {location : Location}
    (h : labelled (front ++ '\n' :: back) = some location) (hinside : front.length < location.length) :
    labelled back = none ∧ parenthesised back = none := by
  obtain ⟨before, behind, rest, -, rfl, -, hbehind⟩ := exists_blanks_of_labelled h hinside
  obtain ⟨-, -, -, -, -, hstring, -⟩ := labelled_eq_some_iff.mp h
  by_cases hne : behind = []
  · rw [hne]
    exact none_of_digits hstring _
  · exact none_of_blank hne hbehind _

theorem none_inside_parenthesised {front back : Text} {location : Location}
    (h : parenthesised (front ++ '\n' :: back) = some location)
    (hinside : front.length + 1 < location.length) :
    labelled back = none ∧ parenthesised back = none := by
  obtain ⟨before, behind, rest, -, rfl, hlength, -, hbehind, -⟩ :=
    exists_blanks_of_parenthesised h (Nat.lt_of_succ_lt hinside)
  refine none_of_blank ?_ hbehind rest
  rintro rfl
  rw [List.length_nil] at hlength
  omega

theorem labelled_filled {text : Text} {location : Location} (h : labelled text = some location) :
    0 < location.length ∧ location.length ≤ text.length := by
  obtain ⟨blanks, rest, rfl, hlength, -⟩ := labelled_eq_some_iff.mp h
  have := length_labelledText blanks location.string location.line
  rw [List.length_append]
  omega

theorem parenthesised_filled {text : Text} {location : Location}
    (h : parenthesised text = some location) :
    0 < location.length ∧ location.length ≤ text.length := by
  obtain ⟨blanks, rest, rfl, hlength, -⟩ := parenthesised_eq_some_iff.mp h
  have := length_parenthesisedText location.string location.line blanks
  rw [List.length_append]
  omega

def either : Spelling := fun text => (labelled text).or (parenthesised text)

theorem sound_labelled : Spelling.Sound labelled where
  filled h := (labelled_filled h).1
  fits h := (labelled_filled h).2
  apart h hinside := (none_inside_labelled h (Nat.lt_of_succ_lt hinside)).1

theorem sound_parenthesised : Spelling.Sound parenthesised where
  filled h := (parenthesised_filled h).1
  fits h := (parenthesised_filled h).2
  apart h hinside := (none_inside_parenthesised h hinside).2

theorem either_eq_some {text : Text} {location : Location} (h : either text = some location) :
    labelled text = some location ∨ parenthesised text = some location := by
  rcases Option.or_eq_some_iff.mp h with h | ⟨-, h⟩
  · exact .inl h
  · exact .inr h

theorem either_eq_none {text : Text} :
    either text = none ↔ labelled text = none ∧ parenthesised text = none := Option.or_eq_none_iff

theorem sound_either : Spelling.Sound either where
  filled h := (either_eq_some h).elim (fun h => (labelled_filled h).1) fun h =>
    (parenthesised_filled h).1
  fits h := (either_eq_some h).elim (fun h => (labelled_filled h).2) fun h =>
    (parenthesised_filled h).2
  apart h hinside := either_eq_none.mpr <| (either_eq_some h).elim
    (fun h => none_inside_labelled h (Nat.lt_of_succ_lt hinside)) fun h =>
    none_inside_parenthesised h hinside

theorem prefix_of_parenthesised {text : Text} {location : Location}
    (h : parenthesised text = some location) : Digits location.string ∧ Digits location.line ∧
      parenthesisedText location.string location.line [] <+: text := by
  obtain ⟨blanks, rest, rfl, -, -, hstring, hline, -⟩ := parenthesised_eq_some_iff.mp h
  refine ⟨hstring, hline, blanks ++ rest, ?_⟩
  simp [parenthesisedText]

theorem parenthesised_of_prefix {text : Text} {string line : Text} (hstring : Digits string)
    (hline : Digits line) (h : parenthesisedText string line [] <+: text) :
    ∃ location, parenthesised text = some location ∧ location.string = string ∧
      location.line = line := by
  obtain ⟨behind, rfl⟩ := h
  have hbehind := List.takeWhile_append_dropWhile (p := isBlank) (l := behind)
  refine ⟨⟨string, line, (parenthesisedText string line (behind.takeWhile isBlank)).length⟩,
    parenthesised_eq_some_iff.mpr ⟨behind.takeWhile isBlank, behind.dropWhile isBlank, ?_, rfl,
      fun c => List.mem_takeWhile_imp, hstring, hline, fun c => head?_dropWhile⟩, rfl, rfl⟩
  simp [parenthesisedText, hbehind]

theorem labelled_of_either {text : Text} {location : Location} (h : labelled text = some location) :
    either text = some location := by
  rw [either, h, Option.some_or]

theorem labelled_none_of_parenthesised {text : Text} {location : Location}
    (h : parenthesised text = some location) : labelled text = none := by
  obtain ⟨blanks, rest, rfl, -, -, hstring, -⟩ := parenthesised_eq_some_iff.mp h
  obtain ⟨d, tail, htext, hd⟩ := hstring.head_append ('(' :: (location.line ++ ')' :: blanks) ++ rest)
  rw [parenthesisedText, List.append_assoc, htext]
  apply labelled_eq_none
  rintro c ⟨⟩ rfl
  exact absurd hd (by decide)

theorem either_of_parenthesised {text : Text} {location : Location}
    (h : parenthesised text = some location) : either text = some location := by
  rw [either, labelled_none_of_parenthesised h, Option.none_or, h]

theorem labelled_written {written rest : Text} {location : Location}
    (h : labelled (written ++ rest) = some location) (hlength : location.length = written.length) :
    ∃ blanks, written = labelledText blanks location.string location.line ∧
      (∀ c ∈ blanks, isBlank c = true) ∧ Digits location.string ∧ Digits location.line ∧
      NoDigitAhead rest := by
  obtain ⟨blanks, behind, htext, hlength', hblanks, hstring, hline, hbehind⟩ :=
    labelled_eq_some_iff.mp h
  obtain ⟨rfl, rfl⟩ := List.append_inj htext (hlength.symm.trans hlength')
  exact ⟨blanks, rfl, hblanks, hstring, hline, hbehind⟩

theorem labelled_again {written rest other : Text} {location : Location}
    (h : labelled (written ++ rest) = some location) (hlength : location.length = written.length)
    (hother : NoDigitAhead other) : labelled (written ++ other) = some location := by
  obtain ⟨blanks, hwritten, hblanks, hstring, hline, -⟩ := labelled_written h hlength
  exact labelled_eq_some_iff.mpr ⟨blanks, other, by rw [hwritten], by rw [hlength, hwritten], hblanks,
    hstring, hline, hother⟩

theorem parenthesised_written {written rest : Text} {location : Location}
    (h : parenthesised (written ++ rest) = some location)
    (hlength : location.length = written.length) :
    ∃ blanks, written = parenthesisedText location.string location.line blanks ∧
      (∀ c ∈ blanks, isBlank c = true) ∧ Digits location.string ∧ Digits location.line ∧
      NoBlankAhead rest := by
  obtain ⟨blanks, behind, htext, hlength', hblanks, hstring, hline, hbehind⟩ :=
    parenthesised_eq_some_iff.mp h
  obtain ⟨rfl, rfl⟩ := List.append_inj htext (hlength.symm.trans hlength')
  exact ⟨blanks, rfl, hblanks, hstring, hline, hbehind⟩

theorem startsLine_labelled {written rest : Text} {location : Location}
    (h : labelled (written ++ rest) = some location) (hlength : location.length = written.length) :
    startsLine true written = false := by
  obtain ⟨blanks, rfl, -, -, hline, -⟩ := labelled_written h hlength
  have hsplit : labelledText blanks location.string location.line =
      ("ERROR:".toList ++ (blanks ++ (location.string ++ [':']))) ++ location.line := by
    simp [labelledText_eq]
  rw [hsplit, startsLine_append]
  exact startsLine_of_newline_not_mem hline.ne_nil (newline_not_mem_digits hline) _

end Compile

end ShaderSources
