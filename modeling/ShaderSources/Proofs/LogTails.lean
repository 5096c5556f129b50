import ShaderSources.Proofs.LogPasses
import Mathlib.Algebra.Order.BigOperators.Group.List
import Mathlib.Algebra.Order.Ring.Nat

namespace ShaderSources.Compile

open Text Numeral

variable {Context : Type} {chunks : List (Chunk Context)}

def Spelling.Keeps (spelling : Spelling) (behind : Text) : Prop :=
  ∀ text location, spelling text = some location → ∃ found, spelling (text ++ behind) = some found ∧
    found.string = location.string ∧ found.line = location.line ∧ location.length ≤ found.length

/-- A spelling whose locations are read from the left, and go over the end of a line for blanks and
numbers only. -/
structure Spelling.Forward (spelling : Spelling) : Prop extends Spelling.Sound spelling where
  newline : ∀ text, spelling ('\n' :: text) = none
  within : ∀ {front back location}, spelling (front ++ back) = some location →
    location.length ≤ front.length → spelling front = some location
  keeps : ∀ {behind}, NoDigitAhead behind → spelling.Keeps behind
  across : ∀ {front back location}, spelling (front ++ '\n' :: back) = some location →
    front.length + 1 < location.length → ∃ c, back.head? = some c ∧ (isBlank c = true ∨ isDigit c = true)

theorem exists_append_of_length_le {pre rest front back : Text} (h : front ++ back = pre ++ rest)
    (hle : pre.length ≤ front.length) : ∃ more, front = pre ++ more ∧ rest = more ++ back := by
  obtain ⟨more, rfl⟩ := List.prefix_of_prefix_length_le (List.prefix_append pre rest)
    (h ▸ List.prefix_append front back) hle
  rw [List.append_assoc] at h
  exact ⟨more, rfl, (List.append_cancel_left h).symm⟩

theorem labelled_keeps {behind : Text} (hbehind : NoDigitAhead behind) : labelled.Keeps behind := by
  intro text location h
  obtain ⟨blanks, rest, rfl, hlength, hblanks, hstring, hline, hrest⟩ := labelled_eq_some_iff.mp h
  refine ⟨location, labelled_eq_some_iff.mpr ⟨blanks, rest ++ behind, List.append_assoc _ _ _,
    hlength, hblanks, hstring, hline, ?_⟩, rfl, rfl, Nat.le_refl _⟩
  cases rest with
  | nil => exact hbehind
  | cons c rest => exact hrest

theorem parenthesised_keeps (behind : Text) : parenthesised.Keeps behind := by
  intro text location h
  obtain ⟨blanks, rest, rfl, hlength, hblanks, hstring, hline, -⟩ := parenthesised_eq_some_iff.mp h
  have hbehind := List.takeWhile_append_dropWhile (p := isBlank) (l := rest ++ behind)
  refine ⟨⟨location.string, location.line, (parenthesisedText location.string location.line
    (blanks ++ (rest ++ behind).takeWhile isBlank)).length⟩, parenthesised_eq_some_iff.mpr
      ⟨_, (rest ++ behind).dropWhile isBlank, ?_, rfl, ?_, hstring, hline, fun c => head?_dropWhile⟩,
    rfl, rfl, ?_⟩
  · simp [parenthesisedText, hbehind]
  · exact List.forall_mem_append.mpr ⟨hblanks, fun c => List.mem_takeWhile_imp⟩
  · simp only [hlength, length_parenthesisedText, List.length_append]
    omega

theorem labelled_within {front back : Text} {location : Location}
    (h : labelled (front ++ back) = some location) (hle : location.length ≤ front.length) :
    labelled front = some location := by
  obtain ⟨blanks, rest, htext, hlength, hblanks, hstring, hline, hrest⟩ := labelled_eq_some_iff.mp h
  obtain ⟨more, rfl, rfl⟩ := exists_append_of_length_le htext (hlength ▸ hle)
  refine labelled_eq_some_iff.mpr ⟨blanks, more, rfl, hlength, hblanks, hstring, hline, ?_⟩
  rintro c hc
  exact hrest c (by rw [List.head?_append, hc]; rfl)

theorem parenthesised_within {front back : Text} {location : Location}
    (h : parenthesised (front ++ back) = some location) (hle : location.length ≤ front.length) :
    parenthesised front = some location := by
  obtain ⟨blanks, rest, htext, hlength, hblanks, hstring, hline, hrest⟩ :=
    parenthesised_eq_some_iff.mp h
  obtain ⟨more, rfl, rfl⟩ := exists_append_of_length_le htext (hlength ▸ hle)
  refine parenthesised_eq_some_iff.mpr ⟨blanks, more, rfl, hlength, hblanks, hstring, hline, ?_⟩
  rintro c hc
  exact hrest c (by rw [List.head?_append, hc]; rfl)

theorem labelled_across {front back : Text} {location : Location}
    (h : labelled (front ++ '\n' :: back) = some location) (hinside : front.length < location.length) :
    ∃ c, back.head? = some c ∧ (isBlank c = true ∨ isDigit c = true) := by
  obtain ⟨before, behind, rest, -, rfl, -, hbehind⟩ := exists_blanks_of_labelled h hinside
  obtain ⟨-, -, -, -, -, hstring, -⟩ := labelled_eq_some_iff.mp h
  cases behind with
  | nil =>
    obtain ⟨d, tail, htext, hd⟩ := hstring.head_append (':' :: (location.line ++ rest))
    exact ⟨d, by rw [List.nil_append, htext]; rfl, .inr hd⟩
  | cons c behind => exact ⟨c, rfl, .inl (hbehind c List.mem_cons_self)⟩

theorem parenthesised_across {front back : Text} {location : Location}
    (h : parenthesised (front ++ '\n' :: back) = some location)
    (hinside : front.length + 1 < location.length) :
    ∃ c, back.head? = some c ∧ (isBlank c = true ∨ isDigit c = true) := by
  obtain ⟨before, behind, rest, -, rfl, hlength, -, hbehind, -⟩ :=
    exists_blanks_of_parenthesised h (Nat.lt_of_succ_lt hinside)
  cases behind with
  | nil =>
    rw [List.length_nil] at hlength
    omega
  | cons c behind => exact ⟨c, rfl, .inl (hbehind c List.mem_cons_self)⟩

theorem forward_labelled : labelled.Forward where
  toSound := sound_labelled
  newline text := labelled_eq_none (by rintro c ⟨⟩; decide)
  within := labelled_within
  keeps := labelled_keeps
  across h hinside := labelled_across h (Nat.lt_of_succ_lt hinside)

theorem forward_parenthesised : parenthesised.Forward where
  toSound := sound_parenthesised
  newline text := parenthesised_eq_none (by rintro c ⟨⟩; decide)
  within := parenthesised_within
  keeps _ := parenthesised_keeps _
  across := parenthesised_across

variable {spelling : Spelling}

theorem Spelling.Keeps.known {behind : Text} (h : spelling.Keeps behind) :
    (spelling.known chunks).Keeps behind := by
  intro text location hlocation
  obtain ⟨hfound, hknown⟩ := known_eq_some_iff.mp hlocation
  obtain ⟨found, hlonger, hstring, hline, hle⟩ := h text location hfound
  exact ⟨found, known_eq_some_iff.mpr ⟨hlonger, (known_congr hstring hline).mpr hknown⟩, hstring,
    hline, hle⟩

theorem Spelling.Forward.known (h : spelling.Forward) : (spelling.known chunks).Forward where
  toSound := h.toSound.known
  newline text := known_of_none (h.newline text)
  within hfound hle :=
    known_eq_some_iff.mpr ⟨h.within (known_eq_some_iff.mp hfound).1 hle, (known_eq_some_iff.mp hfound).2⟩
  keeps hahead := (h.keeps hahead).known
  across hfound := h.across (known_eq_some_iff.mp hfound).1

/-- The locations of a text are the same when another text stands behind it. -/
def Untouched (spelling : Spelling) (atStart : Bool) (text behind : Text) : Prop :=
  ∀ tail ∈ lineTails atStart text, spelling (tail ++ behind) = spelling tail

theorem Untouched.known {atStart : Bool} {text behind : Text}
    (h : Untouched spelling atStart text behind) :
    Untouched (spelling.known chunks) atStart text behind := by
  intro tail htail
  rw [Spelling.known, Spelling.known, h tail htail]

theorem untouched_append {atStart : Bool} {front back behind : Text} :
    Untouched spelling atStart (front ++ back) behind ↔
      (∀ tail ∈ lineTails atStart front,
        spelling (tail ++ (back ++ behind)) = spelling (tail ++ back)) ∧
      Untouched spelling (startsLine atStart front) back behind := by
  simp only [Untouched, lineTails_append, List.mem_append, or_imp, forall_and, List.forall_mem_map,
    List.append_assoc]

theorem Spelling.Forward.found_of_fits (h : spelling.Forward) {text behind : Text}
    (hahead : NoDigitAhead behind)
    (hfits : ∀ location, spelling (text ++ behind) = some location → location.length ≤ text.length) :
    spelling (text ++ behind) = spelling text := by
  rw [Option.ext_iff]
  intro location
  constructor
  · exact fun hfound => h.within hfound (hfits location hfound)
  · intro hfound
    obtain ⟨found, hlonger, -⟩ := h.keeps hahead text location hfound
    have hsame := h.within hlonger (hfits found hlonger)
    rwa [← hsame.symm.trans hfound]

/-- Some location of a text runs over the end of its last line when another text follows. -/
def RunsOver (spelling : Spelling) (atStart : Bool) (text next : Text) : Prop :=
  ∃ tail ∈ lineTails atStart text, ∃ location, spelling (tail ++ '\n' :: next) = some location ∧
    tail.length < location.length

instance (atStart : Bool) (text next : Text) : Decidable (RunsOver spelling atStart text next) :=
  decidable_of_iff ((lineTails atStart text).any fun tail =>
    (spelling (tail ++ '\n' :: next)).any fun location => tail.length < location.length) <| by
      simp [RunsOver, Option.any_eq_true]

theorem Spelling.Forward.untouched_of_not_runsOver (h : spelling.Forward) {atStart : Bool}
    {text next : Text} (hover : ¬ RunsOver spelling atStart text next) :
    Untouched spelling atStart text ('\n' :: next) := by
  intro tail htail
  apply h.found_of_fits (by rintro c ⟨⟩; decide)
  exact fun location hfound => Nat.le_of_not_lt fun hlt => hover ⟨tail, htail, location, hfound, hlt⟩

-- A word at the start of a line is out of reach for what stands before it.
theorem Spelling.Forward.untouched_of_word (h : spelling.Forward) {atStart : Bool} {front back : Text}
    {c : Char} (hstart : startsLine atStart front = true) (hback : back.head? = some c)
    (hblank : isBlank c = false) (hdigit : isDigit c = false) : Untouched spelling atStart front back := by
  intro tail htail
  obtain ⟨hne, before, rfl, -⟩ := mem_lineTails_iff.mp htail
  rw [startsLine_append] at hstart
  obtain ⟨line, rfl⟩ := startsLine_eq_true hne hstart
  apply h.found_of_fits
  · rw [NoDigitAhead, hback]
    rintro _ ⟨⟩
    exact hdigit
  · intro location hfound
    by_contra hlong
    rw [List.append_assoc] at hfound
    rw [List.length_append, List.length_singleton, Nat.not_le] at hlong
    obtain ⟨d, hd, hrun⟩ := h.across hfound hlong
    obtain rfl : c = d := Option.some.inj (hback.symm.trans hd)
    simp [hblank, hdigit] at hrun

theorem relocateSpelled_append (hs : spelling.Sound) {atStart : Bool} {text behind : Text}
    (h : Untouched spelling atStart text behind) :
    relocateSpelled spelling chunks 0 atStart (text ++ behind) =
      relocateSpelled spelling chunks 0 atStart text >>= fun front =>
        (front ++ ·) <$> relocateSpelled spelling chunks 0 (startsLine atStart text) behind := by
  induction atStart, text using hs.induction with
  | nil atStart => exact (id_map _).symm
  | char atStart c text hnone ih =>
    have hhere : atStart = true → spelling (c :: (text ++ behind)) = none := by
      rintro rfl
      rw [← hnone rfl]
      exact h (c :: text) (lineTails_whole (List.cons_ne_nil c text))
    have ih := ih ((@untouched_append _ _ [c] _ _).mp h).2
    rw [List.cons_append, relocateSpelled_char hhere, relocateSpelled_char hnone, ih]
    cases relocateSpelled spelling chunks 0 (c = '\n') text with
    | error fault => rfl
    | ok front => exact (comp_map _ _ _).symm
  | location written rest location hne hfound hlength ih =>
    have hlonger := h (written ++ rest) (lineTails_whole (List.append_ne_nil_of_left_ne_nil hne rest))
    rw [hfound, List.append_assoc] at hlonger
    have ih := ih (untouched_append.mp h).2
    rw [List.append_assoc, relocateSpelled_location hne hlonger hlength,
      relocateSpelled_location hne hfound hlength, ih, startsLine_append]
    cases replacement? chunks location with
    | error fault => rfl
    | ok new =>
      cases relocateSpelled spelling chunks 0 (startsLine true written) rest with
      | error fault => rfl
      | ok front =>
        cases relocateSpelled spelling chunks 0 (startsLine (startsLine true written) rest) behind with
        | error fault => rfl
        | ok back => exact congrArg Except.ok (List.append_assoc _ _ _).symm

theorem relocateSpelled_lines (h : spelling.Forward) {atStart : Bool} {text next : Text}
    (hover : ¬ RunsOver spelling atStart text next) :
    relocateSpelled spelling chunks 0 atStart (text ++ '\n' :: next) =
      relocateSpelled spelling chunks 0 atStart text >>= fun front =>
        (front ++ '\n' :: ·) <$> relocateSpelled spelling chunks 0 true next := by
  rw [relocateSpelled_append h.toSound (h.untouched_of_not_runsOver hover),
    relocateSpelled_char fun _ => h.newline next]
  simp only [← comp_map]
  rfl

def Spelling.taken (spelling : Spelling) (text : Text) : Nat :=
  (spelling text).elim 0 fun location => (text.take location.length).count '\n'

def Spelling.lost (spelling : Spelling) (atStart : Bool) (text : Text) : Nat :=
  ((lineTails atStart text).map spelling.taken).sum

theorem taken_of_none {text : Text} (h : spelling text = none) : spelling.taken text = 0 := by
  rw [Spelling.taken, h]
  rfl

theorem taken_le_count (text : Text) : spelling.taken text ≤ text.count '\n' := by
  unfold Spelling.taken
  cases spelling text with
  | none => exact Nat.zero_le _
  | some location => exact (List.take_sublist location.length text).count_le '\n'

theorem lost_append (atStart : Bool) (front back : Text) : spelling.lost atStart (front ++ back) =
    ((lineTails atStart front).map fun tail => spelling.taken (tail ++ back)).sum +
      spelling.lost (startsLine atStart front) back := by
  simp only [Spelling.lost, lineTails_append, List.map_append, List.sum_append, List.map_map]
  rfl

theorem Free.lost {atStart : Bool} {text rest : Text} (h : Free spelling atStart text rest) :
    spelling.lost atStart (text ++ rest) = spelling.lost (startsLine atStart text) rest := by
  have hnone : ∀ n ∈ (lineTails atStart text).map fun tail => spelling.taken (tail ++ rest), n = 0 := by
    intro n hn
    obtain ⟨tail, htail, rfl⟩ := List.mem_map.mp hn
    exact taken_of_none (h tail htail)
  rw [lost_append, List.sum_eq_zero hnone, Nat.zero_add]

theorem Spelling.Sound.lost_location (hs : spelling.Sound) {written rest : Text} {location : Location}
    (hne : written ≠ []) (h : spelling (written ++ rest) = some location)
    (hlength : location.length = written.length) : spelling.lost true (written ++ rest) =
      written.count '\n' + spelling.lost (startsLine true written) rest := by
  obtain ⟨c, written, rfl⟩ := List.exists_cons_of_ne_nil hne
  have htaken : spelling.taken (c :: written ++ rest) = (c :: written).count '\n' := by
    rw [Spelling.taken, h, Option.elim_some, hlength, List.take_left]
  have hbehind := (hs.free_behind h hlength fun _ => id).lost
  rw [← htaken, startsLine, ← hbehind]
  rfl

theorem newline_not_mem_of_replacement? (hfiles : ∀ chunk ∈ chunks, '\n' ∉ chunk.file.toList)
    {location : Location} {place : Text} (h : replacement? chunks location = .ok (some place)) :
    '\n' ∉ place := by
  obtain ⟨-, chunk, hmem, n, shown, hshown, rfl⟩ := exists_of_replacement? h
  simp [hfiles chunk hmem, newline_not_mem_of_writeInt hshown]

-- What a pass leaves and what its locations take are all the line feeds of the text.
theorem count_relocateSpelled (hs : spelling.Sound)
    (hfiles : ∀ chunk ∈ chunks, '\n' ∉ chunk.file.toList) {atStart : Bool} {text out : Text}
    (h : relocateSpelled spelling chunks 0 atStart text = .ok out) :
    out.count '\n' + (spelling.known chunks).lost atStart text = text.count '\n' := by
  have hknown : (spelling.known chunks).Sound := hs.known
  rw [← relocateSpelled_known hs] at h
  induction atStart, text using hknown.induction generalizing out with
  | nil atStart =>
    cases h
    rfl
  | char atStart c text hnone ih =>
    rw [relocateSpelled_char hnone] at h
    obtain ⟨rest, hrest, rfl⟩ := Fallible.map_eq_ok.mp h
    have hlost := (free_cons.mpr ⟨hnone, free_nil (c = '\n') text⟩).lost
    have := ih hrest
    rw [List.cons_append, List.nil_append] at hlost
    rw [hlost, List.count_cons, List.count_cons]
    dsimp only [startsLine]
    omega
  | location written rest location hne hfound hlength ih =>
    rw [relocateSpelled_location hne hfound hlength] at h
    obtain ⟨new, hnew, h⟩ := Fallible.bind_eq_ok.mp h
    obtain ⟨behind, hbehind, rfl⟩ := Fallible.map_eq_ok.mp h
    have := ih hbehind
    cases new with
    | none => exact absurd hnew (known_eq_some_iff.mp hfound).2
    | some place =>
      have hplace := List.count_eq_zero.mpr (newline_not_mem_of_replacement? hfiles hnew)
      rw [hknown.lost_location hne hfound hlength, Option.getD_some, List.count_append,
        List.count_append]
      omega

theorem Spelling.Keeps.taken_le {behind : Text} (h : spelling.Keeps behind) (text : Text) :
    spelling.taken text ≤ spelling.taken (text ++ behind) := by
  cases hfound : spelling text with
  | none => simp [taken_of_none hfound]
  | some location =>
    obtain ⟨found, hlonger, -, -, hle⟩ := h text location hfound
    have hshort : text.take location.length <+: (text ++ behind).take location.length := by
      rw [List.take_append]
      exact List.prefix_append _ _
    rw [Spelling.taken, Spelling.taken, hfound, hlonger]
    exact (hshort.trans (List.take_prefix_take_left hle)).sublist.count_le '\n'

theorem Spelling.Keeps.lost_le {behind : Text} (h : spelling.Keeps behind) (atStart : Bool)
    (text : Text) : spelling.lost atStart text + spelling.lost (startsLine atStart text) behind ≤
      spelling.lost atStart (text ++ behind) := by
  rw [lost_append]
  exact Nat.add_le_add_right (List.sum_le_sum fun tail _ => h.taken_le tail) _

theorem Spelling.Forward.lost_newline (h : spelling.Forward) (atStart : Bool) (text : Text) :
    spelling.lost atStart ('\n' :: text) = spelling.lost true text := by
  have hfree : Free spelling atStart ['\n'] text :=
    free_cons.mpr ⟨fun _ => h.newline text, free_nil true text⟩
  exact hfree.lost

theorem RunsOver.lost_lt (h : spelling.Forward) {atStart : Bool} {text next : Text}
    (hover : RunsOver spelling atStart text next) :
    spelling.lost atStart text + spelling.lost true next <
      spelling.lost atStart (text ++ '\n' :: next) := by
  rw [lost_append, h.lost_newline]
  apply Nat.add_lt_add_right
  obtain ⟨tail, htail, location, hfound, hlt⟩ := hover
  apply List.sum_lt_sum
  · exact fun tail _ => (h.keeps (by rintro c ⟨⟩; decide)).taken_le tail
  · refine ⟨tail, htail, ?_⟩
    have hmore : tail ++ ['\n'] <+: (tail ++ '\n' :: next).take location.length := by
      rw [List.prefix_take_iff, List.length_append]
      exact ⟨⟨next, List.append_cons tail '\n' next ▸ rfl⟩, hlt⟩
    have hcount := hmore.sublist.count_le '\n'
    rw [List.count_append] at hcount
    have hall : spelling.taken tail ≤ tail.count '\n' := taken_le_count tail
    have htaken : spelling.taken (tail ++ '\n' :: next) =
        ((tail ++ '\n' :: next).take location.length).count '\n' := by
      rw [Spelling.taken, hfound, Option.elim_some]
    rw [htaken]
    exact Nat.lt_of_le_of_lt hall hcount

theorem Untouched.lost (hs : spelling.Sound) {atStart : Bool} {text behind : Text}
    (h : Untouched spelling atStart text behind) : spelling.lost atStart (text ++ behind) =
      spelling.lost atStart text + spelling.lost (startsLine atStart text) behind := by
  rw [lost_append]
  apply congrArg (· + spelling.lost (startsLine atStart text) behind)
  apply congrArg List.sum
  apply List.map_congr_left
  intro tail htail
  rw [Spelling.taken, Spelling.taken, h tail htail]
  cases hfound : spelling tail with
  | none => rfl
  | some location => rw [Option.elim_some, Option.elim_some, List.take_append_of_le_length (hs.fits hfound)]

def Replaceable (chunks : List (Chunk Context)) (spelling : Spelling) (atStart : Bool) (text : Text) :
    Prop :=
  ∀ tail ∈ lineTails atStart text, ∀ location, spelling tail = some location →
    ∃ new, replacement? chunks location = .ok new

theorem replaceable_append {atStart : Bool} {front back : Text} :
    Replaceable chunks spelling atStart (front ++ back) ↔
      (∀ tail ∈ lineTails atStart front, ∀ location, spelling (tail ++ back) = some location →
        ∃ new, replacement? chunks location = .ok new) ∧
      Replaceable chunks spelling (startsLine atStart front) back := by
  simp only [Replaceable, lineTails_append, List.mem_append, or_imp, forall_and, List.forall_mem_map]

theorem Free.replaceable_iff {atStart : Bool} {text rest : Text} (h : Free spelling atStart text rest) :
    Replaceable chunks spelling atStart (text ++ rest) ↔
      Replaceable chunks spelling (startsLine atStart text) rest := by
  rw [replaceable_append, and_iff_right]
  intro tail htail location hfound
  rw [h tail htail] at hfound
  cases hfound

theorem Untouched.replaceable_iff {atStart : Bool} {text behind : Text}
    (h : Untouched spelling atStart text behind) :
    Replaceable chunks spelling atStart (text ++ behind) ↔
      Replaceable chunks spelling atStart text ∧
        Replaceable chunks spelling (startsLine atStart text) behind := by
  rw [replaceable_append]
  apply and_congr_left'
  refine forall₂_congr fun tail htail => ?_
  rw [h tail htail]

theorem Spelling.Keeps.replaceable {atStart : Bool} {text behind : Text} (hkeeps : spelling.Keeps behind)
    (h : Replaceable chunks spelling atStart (text ++ behind)) :
    Replaceable chunks spelling atStart text := by
  intro tail htail location hlocation
  obtain ⟨found, hlonger, hstring, hline, -⟩ := hkeeps tail location hlocation
  rw [← replacement?_congr hstring hline]
  exact (replaceable_append.mp h).1 tail htail found hlonger

theorem Spelling.Sound.replaceable_location (hs : spelling.Sound) {written rest : Text}
    {location : Location} (hne : written ≠ []) (h : spelling (written ++ rest) = some location)
    (hlength : location.length = written.length) :
    Replaceable chunks spelling true (written ++ rest) ↔
      (∃ new, replacement? chunks location = .ok new) ∧
        Replaceable chunks spelling (startsLine true written) rest := by
  obtain ⟨c, written, rfl⟩ := List.exists_cons_of_ne_nil hne
  have hbehind : Replaceable chunks spelling (c = '\n') (written ++ rest) ↔
      Replaceable chunks spelling (startsLine true (c :: written)) rest :=
    (hs.free_behind h hlength fun _ => id).replaceable_iff
  have hcons : Replaceable chunks spelling true (c :: (written ++ rest)) ↔
      (∀ found, spelling (c :: (written ++ rest)) = some found →
        ∃ new, replacement? chunks found = .ok new) ∧
      Replaceable chunks spelling (c = '\n') (written ++ rest) := by
    simp [Replaceable, lineTails]
  rw [List.cons_append] at h ⊢
  rw [hcons, hbehind, h]
  simp

theorem Spelling.Sound.exists_ok_iff (hs : spelling.Sound) {atStart : Bool} {text : Text} :
    (∃ out, relocateSpelled spelling chunks 0 atStart text = .ok out) ↔
      Replaceable chunks spelling atStart text := by
  induction atStart, text using hs.induction with
  | nil atStart => exact ⟨fun _ => nofun, fun _ => ⟨[], rfl⟩⟩
  | char atStart c text hnone ih =>
    have hfree : Free spelling atStart [c] text := free_cons.mpr ⟨hnone, free_nil (c = '\n') text⟩
    rw [relocateSpelled_char hnone, ← List.singleton_append, hfree.replaceable_iff]
    refine Iff.trans ?_ ih
    simp only [Fallible.map_eq_ok]
    constructor
    · rintro ⟨_, out, hout, -⟩
      exact ⟨out, hout⟩
    · rintro ⟨out, hout⟩
      exact ⟨_, out, hout, rfl⟩
  | location written rest location hne hfound hlength ih =>
    rw [relocateSpelled_location hne hfound hlength, hs.replaceable_location hne hfound hlength, ← ih]
    simp only [Fallible.bind_eq_ok, Fallible.map_eq_ok]
    constructor
    · rintro ⟨_, new, hnew, out, hout, -⟩
      exact ⟨⟨new, hnew⟩, out, hout⟩
    · rintro ⟨⟨new, hnew⟩, out, hout⟩
      exact ⟨_, new, hnew, out, hout, rfl⟩

end ShaderSources.Compile
