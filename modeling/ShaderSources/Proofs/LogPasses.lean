import ShaderSources.Proofs.Fallible
import ShaderSources.Proofs.LogSpellings

namespace ShaderSources.Compile

open Text Numeral

variable {Context : Type} {spelling : Spelling} {chunks : List (Chunk Context)}

def Location.Short (location : Location) : Prop :=
  location.string.length ≤ maxDigits ∧ location.line.length ≤ maxDigits

theorem replacement?_congr {a b : Location} (hstring : a.string = b.string) (hline : a.line = b.line) :
    replacement? chunks a = replacement? chunks b := by
  unfold replacement?
  rw [hstring, hline]

theorem length_of_readNat {digits : Text} {n : Nat} (h : readNat digits = .ok n) :
    digits.length ≤ maxDigits := by
  unfold readNat at h
  split at h
  · cases h
  · exact Nat.le_of_not_lt ‹_›

theorem exists_of_replacement? {location : Location} {place : Text}
    (h : replacement? chunks location = .ok (some place)) : location.Short ∧
      ∃ chunk ∈ chunks, ∃ n shown, writeInt n = .ok shown ∧
        place = chunk.file.toList ++ '(' :: shown ++ [')'] := by
  unfold replacement? at h
  obtain ⟨n, hn, h⟩ := Fallible.bind_eq_ok.mp h
  cases hchunk : chunkOf? chunks n with
  | none =>
    rw [hchunk] at h
    cases h
  | some chunk =>
    rw [hchunk] at h
    obtain ⟨line, hline, h⟩ := Fallible.bind_eq_ok.mp h
    obtain ⟨shown, hshown, h⟩ := Fallible.bind_eq_ok.mp h
    cases h
    exact ⟨⟨length_of_readNat hn, length_of_readNat hline⟩, chunk, List.mem_of_getElem? hchunk, _,
      shown, hshown, rfl⟩

theorem newline_not_mem_of_writeInt {n : Int} {shown : Text} (h : writeInt n = .ok shown) :
    '\n' ∉ shown := by
  unfold writeInt at h
  split at h
  · cases h
  · cases h
    rw [← toList_toString_int]
    exact newline_not_mem_toString n

theorem relocateSpelled_skip (front back : Text) (atStart : Bool) :
    relocateSpelled spelling chunks front.length atStart (front ++ back) =
      relocateSpelled spelling chunks 0 (startsLine atStart front) back := by
  induction front generalizing atStart with
  | nil => rfl
  | cons c front ih => exact ih _

theorem relocateSpelled_char {atStart : Bool} {c : Char} {text : Text}
    (h : atStart = true → spelling (c :: text) = none) :
    relocateSpelled spelling chunks 0 atStart (c :: text) =
      (c :: ·) <$> relocateSpelled spelling chunks 0 (c = '\n') text := by
  have hnone : (if atStart = true then spelling (c :: text) else none) = none := by
    split
    · exact h ‹_›
    · rfl
  rw [relocateSpelled, hnone]
  rfl

theorem relocateSpelled_location {written rest : Text} {location : Location} (hne : written ≠ [])
    (h : spelling (written ++ rest) = some location) (hlength : location.length = written.length) :
    relocateSpelled spelling chunks 0 true (written ++ rest) =
      replacement? chunks location >>= fun new =>
        (new.getD written ++ ·) <$>
          relocateSpelled spelling chunks 0 (startsLine true written) rest := by
  obtain ⟨c, written, rfl⟩ := List.exists_cons_of_ne_nil hne
  have hskip := @relocateSpelled_skip _ spelling chunks written rest (c = '\n')
  have htake : (c :: (written ++ rest)).take (written.length + 1) = c :: written :=
    congrArg (List.cons c) List.take_left
  rw [List.cons_append] at h ⊢
  rw [relocateSpelled, if_pos rfl, h]
  simp only [hlength, List.length_cons, htake, Nat.add_sub_cancel, hskip]
  rfl

theorem relocateSpelled_whole {text place : Text} {location : Location} (hne : text ≠ [])
    (h : spelling text = some location) (hlength : location.length = text.length)
    (hnew : replacement? chunks location = .ok (some place)) :
    relocateSpelled spelling chunks 0 true text = .ok place := by
  rw [← List.append_nil text] at h
  have hpass := @relocateSpelled_location _ spelling chunks _ _ _ hne h hlength
  rw [List.append_nil, hnew] at hpass
  rw [hpass]
  exact congrArg Except.ok (List.append_nil place)

/-- No location starts at the start of a line of `text` when `rest` stands behind it. -/
def Free (spelling : Spelling) (atStart : Bool) (text rest : Text) : Prop :=
  ∀ tail ∈ lineTails atStart text, spelling (tail ++ rest) = none

theorem free_nil (atStart : Bool) (rest : Text) : Free spelling atStart [] rest :=
  fun _ => nofun

theorem free_cons {atStart : Bool} {c : Char} {text rest : Text} :
    Free spelling atStart (c :: text) rest ↔
      (atStart = true → spelling (c :: (text ++ rest)) = none) ∧ Free spelling (c = '\n') text rest := by
  cases atStart <;> simp [Free, lineTails]

theorem Free.copy {atStart : Bool} {text rest : Text} (h : Free spelling atStart text rest) :
    relocateSpelled spelling chunks 0 atStart (text ++ rest) =
      (text ++ ·) <$> relocateSpelled spelling chunks 0 (startsLine atStart text) rest := by
  induction text generalizing atStart with
  | nil => exact (id_map _).symm
  | cons c text ih =>
    obtain ⟨hhere, hrest⟩ := free_cons.mp h
    rw [List.cons_append, relocateSpelled_char hhere, ih hrest, ← comp_map]
    rfl

theorem Spelling.Sound.exists_written (hs : spelling.Sound) {text : Text} {location : Location}
    (h : spelling text = some location) : ∃ written rest, text = written ++ rest ∧ written ≠ [] ∧
      location.length = written.length := by
  have hfilled := hs.filled h
  have hlength := (List.length_take_of_le (hs.fits h)).symm
  refine ⟨text.take location.length, text.drop location.length,
    (List.take_append_drop _ _).symm, ?_, hlength⟩
  rw [← List.length_pos_iff, ← hlength]
  exact hfilled

theorem Spelling.Sound.induction (hs : spelling.Sound) {motive : Bool → Text → Prop}
    (nil : ∀ atStart, motive atStart [])
    (char : ∀ atStart c text, (atStart = true → spelling (c :: text) = none) →
      motive (c = '\n') text → motive atStart (c :: text))
    (location : ∀ written rest location, written ≠ [] → spelling (written ++ rest) = some location →
      location.length = written.length → motive (startsLine true written) rest →
      motive true (written ++ rest))
    (atStart : Bool) (text : Text) : motive atStart text := by
  induction hn : text.length using Nat.strong_induction_on generalizing atStart text with
  | _ n ih =>
    subst hn
    cases text with
    | nil => exact nil atStart
    | cons c text =>
      have hchar := char atStart c text
      have hrest := ih text.length (by simp) (c = '\n') text rfl
      cases atStart with
      | false => exact hchar nofun hrest
      | true =>
        cases hfound : spelling (c :: text) with
        | none => exact hchar (fun _ => hfound) hrest
        | some found =>
          obtain ⟨written, rest, hsplit, hne, hlength⟩ := hs.exists_written hfound
          rw [hsplit] at hfound ⊢
          apply location written rest found hne hfound hlength
          refine ih _ ?_ _ _ rfl
          have := List.length_pos_iff.mpr hne
          rw [hsplit, List.length_append]
          omega

/-- A location that is not left as it is: its string is known, or its number cannot be read. -/
def Known (chunks : List (Chunk Context)) (location : Location) : Prop :=
  replacement? chunks location ≠ .ok none

instance (location : Location) : Decidable (Known chunks location) :=
  inferInstanceAs (Decidable (replacement? chunks location ≠ .ok none))

def Spelling.known (spelling : Spelling) (chunks : List (Chunk Context)) : Spelling := fun text =>
  (spelling text).filter fun location => Known chunks location

theorem known_eq_some_iff {text : Text} {location : Location} :
    spelling.known chunks text = some location ↔
      spelling text = some location ∧ Known chunks location := by
  rw [Spelling.known, Option.filter_eq_some_iff, decide_eq_true_iff]

theorem known_eq_none_iff {text : Text} : spelling.known chunks text = none ↔
    ∀ location, spelling text = some location → ¬ Known chunks location := by
  simp [Spelling.known, Option.filter_eq_none_iff]

theorem known_of_none {text : Text} (h : spelling text = none) :
    spelling.known chunks text = none :=
  known_eq_none_iff.mpr fun location hlocation => by rw [h] at hlocation; cases hlocation

theorem known_congr {a b : Location} (hstring : a.string = b.string) (hline : a.line = b.line) :
    Known chunks a ↔ Known chunks b := by
  rw [Known, replacement?_congr hstring hline, Known]

theorem Spelling.Sound.known (hs : spelling.Sound) : (spelling.known chunks).Sound where
  filled h := hs.filled (known_eq_some_iff.mp h).1
  fits h := hs.fits (known_eq_some_iff.mp h).1
  apart h hinside := known_of_none (hs.apart (known_eq_some_iff.mp h).1 hinside)

theorem Spelling.Sound.free_behind (hs : spelling.Sound) {c : Char} {written rest : Text}
    {location : Location} (h : spelling (c :: (written ++ rest)) = some location)
    (hlength : location.length = written.length + 1) {other : Spelling}
    (hinside : ∀ text, spelling text = none → other text = none) : Free other (c = '\n') written rest := by
  intro back hback
  obtain ⟨hne, front, rfl, hstart⟩ := mem_lineTails_iff.mp hback
  obtain ⟨before, hbefore⟩ := startsLine_eq_true (List.cons_ne_nil c front)
    (show startsLine true (c :: front) = true from hstart)
  have hsplit : c :: (front ++ back ++ rest) = before ++ '\n' :: (back ++ rest) := by
    rw [List.append_assoc, ← List.cons_append, hbefore, List.append_assoc]
    rfl
  rw [hsplit] at h
  apply hinside _ (hs.apart h _)
  have hfront := congrArg List.length hbefore
  have hpos := List.length_pos_iff.mpr hne
  simp only [List.length_cons, List.length_append, List.length_nil] at hlength hfront
  omega

-- A location is free of others, the one at its start apart.
theorem Spelling.Sound.free (hs : spelling.Sound) {written rest : Text} {location : Location}
    (h : spelling (written ++ rest) = some location) (hlength : location.length = written.length)
    {other : Spelling} (hhere : other (written ++ rest) = none)
    (hinside : ∀ text, spelling text = none → other text = none) : Free other true written rest := by
  cases written with
  | nil => exact free_nil true rest
  | cons c written => exact free_cons.mpr ⟨fun _ => hhere, hs.free_behind h hlength hinside⟩

theorem Free.mono {other : Spelling} {atStart : Bool} {text rest : Text}
    (h : Free spelling atStart text rest) (hnone : ∀ text, spelling text = none → other text = none) :
    Free other atStart text rest :=
  fun tail htail => hnone _ (h tail htail)

theorem Free.of_either {atStart : Bool} {text rest : Text} (h : Free either atStart text rest) :
    Free labelled atStart text rest ∧ Free parenthesised atStart text rest :=
  ⟨h.mono fun _ hnone => (either_eq_none.mp hnone).1, h.mono fun _ hnone => (either_eq_none.mp hnone).2⟩

theorem relocateSpelled_known (hs : spelling.Sound) (atStart : Bool) (text : Text) :
    relocateSpelled (spelling.known chunks) chunks 0 atStart text =
      relocateSpelled spelling chunks 0 atStart text := by
  induction atStart, text using hs.induction with
  | nil atStart => rfl
  | char atStart c text hnone ih =>
    rw [relocateSpelled_char hnone, relocateSpelled_char fun h => known_of_none (hnone h), ih]
  | location written rest location hne hfound hlength ih =>
    rw [relocateSpelled_location hne hfound hlength]
    by_cases hknown : Known chunks location
    · rw [relocateSpelled_location hne (known_eq_some_iff.mpr ⟨hfound, hknown⟩) hlength, ih]
    · have hhere : spelling.known chunks (written ++ rest) = none := by
        rw [known_eq_none_iff, hfound]
        rintro _ ⟨⟩
        exact hknown
      rw [(hs.free hfound hlength hhere fun _ => known_of_none).copy, ih, not_not.mp hknown]
      rfl

theorem relocateSpelled_char_of_known (hs : spelling.Sound) {atStart : Bool} {c : Char} {text : Text}
    (h : atStart = true → spelling.known chunks (c :: text) = none) :
    relocateSpelled spelling chunks 0 atStart (c :: text) =
      (c :: ·) <$> relocateSpelled spelling chunks 0 (c = '\n') text := by
  rw [← relocateSpelled_known hs, relocateSpelled_char h, relocateSpelled_known hs]

theorem Free.copy_of_known (hs : spelling.Sound) {atStart : Bool} {text rest : Text}
    (h : Free (spelling.known chunks) atStart text rest) :
    relocateSpelled spelling chunks 0 atStart (text ++ rest) =
      (text ++ ·) <$> relocateSpelled spelling chunks 0 (startsLine atStart text) rest := by
  rw [← relocateSpelled_known hs, h.copy, relocateSpelled_known hs]

theorem Free.of_append {atStart : Bool} {front back rest : Text}
    (h : Free spelling atStart (front ++ back) rest) :
    Free spelling (startsLine atStart front) back rest :=
  fun tail htail => h tail (mem_lineTails_append htail)

theorem exists_first {atStart : Bool} {text : Text} (h : ¬ Free spelling atStart text []) :
    ∃ front back location, text = front ++ back ∧ startsLine atStart front = true ∧
      spelling back = some location ∧ Free spelling atStart front back := by
  induction text generalizing atStart with
  | nil => exact absurd (free_nil atStart []) h
  | cons c text ih =>
    by_cases hhere : atStart = true → spelling (c :: text) = none
    · have hrest : ¬ Free spelling (c = '\n') text [] := fun hrest =>
        h (free_cons.mpr ⟨by rwa [List.append_nil], hrest⟩)
      obtain ⟨front, back, location, rfl, hstart, hfound, hfree⟩ := ih hrest
      exact ⟨c :: front, back, location, rfl, hstart, hfound, free_cons.mpr ⟨hhere, hfree⟩⟩
    · obtain ⟨hstart, hfound⟩ := Classical.not_imp.mp hhere
      obtain ⟨location, hlocation⟩ := Option.ne_none_iff_exists'.mp hfound
      exact ⟨[], c :: text, location, rfl, hstart, hlocation, free_nil atStart (c :: text)⟩

-- Up to the next line feed the text of a line stays as it is.
theorem prefix_relocateSpelled_iff {text out : Text}
    (h : relocateSpelled spelling chunks 0 false text = .ok out) {x : Text} (hfree : '\n' ∉ x) :
    x <+: out ↔ x <+: text := by
  induction text generalizing out x with
  | nil =>
    cases h
    rfl
  | cons c text ih =>
    rw [relocateSpelled_char fun hstart => absurd hstart Bool.false_ne_true] at h
    obtain ⟨rest, hrest, rfl⟩ := Fallible.map_eq_ok.mp h
    cases x with
    | nil => simp
    | cons d x =>
      simp only [List.mem_cons, not_or] at hfree
      rw [List.cons_prefix_cons, List.cons_prefix_cons]
      apply and_congr_right
      rintro rfl
      rw [decide_eq_false (Ne.symm hfree.1)] at hrest
      exact ih hrest hfree.2

theorem prefix_cons_relocateSpelled_iff {c : Char} {text out : Text}
    (h : relocateSpelled spelling chunks 0 (c = '\n') text = .ok out) {x : Text} (hfree : '\n' ∉ x) :
    x <+: c :: out ↔ x <+: c :: text := by
  cases x with
  | nil => simp
  | cons d x =>
    simp only [List.mem_cons, not_or] at hfree
    rw [List.cons_prefix_cons, List.cons_prefix_cons]
    apply and_congr_right
    rintro rfl
    rw [decide_eq_false (Ne.symm hfree.1)] at h
    exact prefix_relocateSpelled_iff h hfree.2

theorem noDigitAhead_of_pass {text out : Text}
    (h : relocateSpelled labelled chunks 0 false text = .ok out) (htext : NoDigitAhead text) :
    NoDigitAhead out := by
  intro c hc
  by_contra hdigit
  have hnewline : '\n' ∉ [c] := by
    rw [List.mem_singleton]
    rintro rfl
    exact hdigit (by decide)
  have hstarts : [c] <+: out := by
    obtain ⟨rest, rfl⟩ := List.head?_eq_some_iff.mp hc
    exact ⟨rest, rfl⟩
  obtain ⟨rest, rfl⟩ := (prefix_relocateSpelled_iff h hnewline).mp hstarts
  exact hdigit (htext c rfl)

end ShaderSources.Compile
