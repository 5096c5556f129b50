import ShaderSources.Compile.Strings
import ShaderSources.Proofs.Lines
import ShaderSources.Proofs.Numerals

namespace ShaderSources.Compile

open Text

variable {Context : Type}

def lineTexts (text : Text) : List Text := (splitLines text).map (dropEnd '\n')

structure Place where
  string : Nat
  line : Nat
  deriving DecidableEq, Repr

def tagNumber? (line : Text) : Option Nat :=
  match after? "#line 0 ".toList line with
  | none => none
  | some digits =>
    if digits.isEmpty || !digits.all Char.isDigit then none else some (Numeral.natOfText digits)

def Place.next (place : Place) (line : Text) : Place :=
  match tagNumber? line with
  | none => ⟨place.string, place.line + 1⟩
  | some n => ⟨n, 1⟩

def placesFrom (place : Place) : List Text → List (Option Place)
  | [] => []
  | line :: lines =>
    (if (tagNumber? line).isSome then none else some place) :: placesFrom (place.next line) lines

/-- The places of the lines of a text, read from line 1 of string 1 on; a tag has none itself. -/
def places (text : Text) : List (Option Place) := placesFrom ⟨1, 1⟩ (lineTexts text)

def Untagged (chunks : List (Chunk Context)) : Prop :=
  ∀ chunk ∈ chunks, ∀ line ∈ lineTexts chunk.source, tagNumber? line = none

instance (chunks : List (Chunk Context)) : Decidable (Untagged chunks) :=
  inferInstanceAs (Decidable (∀ chunk ∈ chunks, ∀ line ∈ lineTexts chunk.source, tagNumber? line = none))

def tagLine (n : Nat) : Text := "#line 0 ".toList ++ Numeral.writeNat n

def taggedLines (n : Nat) : List (Chunk Context) → List Text
  | [] => []
  | chunk :: chunks => tagLine n :: (lineTexts chunk.source ++ taggedLines (n + 1) chunks)

theorem length_lineTexts (text : Text) : (lineTexts text).length = lineCount text := by
  rw [lineTexts, List.length_map, length_splitLines]

theorem lineTexts_append {text : Text} (h : Closed text) (rest : Text) :
    lineTexts (text ++ rest) = lineTexts text ++ lineTexts rest := by
  rw [lineTexts, splitLines_append h, List.map_append]
  rfl

theorem lineTexts_line {body : Text} (hfree : '\n' ∉ body) (rest : Text) :
    lineTexts (body ++ '\n' :: rest) = body :: lineTexts rest := by
  rw [lineTexts, splitLines_body_append hfree, List.map_cons, dropEnd_concat]
  rfl

theorem separator_append {rest : Text} (hne : rest ≠ []) (text : Text) :
    separator (text ++ rest) = separator rest := by
  have happ : text ++ rest ≠ [] := List.append_ne_nil_of_right_ne_nil text hne
  simp only [separator, happ, hne, false_or, endsWith_append hne]

theorem separator_of_closed {text : Text} (h : Closed text) : separator text = [] := if_pos h

theorem separator_of_not_closed {text : Text} (h : ¬ Closed text) : separator text = ['\n'] :=
  if_neg h

theorem closed_separator (text : Text) : Closed (text ++ separator text) := by
  by_cases h : Closed text
  · rwa [separator_of_closed h, List.append_nil]
  · rw [separator_of_not_closed h]
    exact (closed_append (by simp)).mpr (.inr rfl)

-- A line feed that is put behind a text ends its last line and starts no new one.
theorem lineTexts_separator (text : Text) : lineTexts (text ++ separator text) = lineTexts text := by
  have h := splitLines_isLines text
  rw [← flatten_splitLines text]
  generalize splitLines text = lines at h
  induction h with
  | nil => rfl
  | @last line hne hfree =>
    rw [List.flatten_singleton]
    have hopen : ¬ Closed line := fun hclosed => hfree (hclosed.newline_mem hne)
    rw [separator_of_not_closed hopen, lineTexts_line hfree, lineTexts, lineTexts,
      splitLines_of_not_mem hne hfree, List.map_singleton, dropEnd_of_not_mem hfree]
    rfl
  | @cons body rest hfree hrest ih =>
    have hsplit (more : Text) : lineTexts (body ++ ['\n'] ++ more) = body :: lineTexts more := by
      rw [List.append_assoc, List.singleton_append, lineTexts_line hfree]
    rw [List.flatten_cons]
    by_cases hnil : rest.flatten = []
    · have hclosed : Closed (body ++ ['\n'] ++ rest.flatten) := by
        rw [hnil, List.append_nil]
        exact (closed_append (by simp)).mpr (.inr rfl)
      rw [separator_of_closed hclosed, List.append_nil]
    · rw [separator_append hnil, List.append_assoc, hsplit, ih, hsplit]

theorem newline_not_mem_tagLine (n : Nat) : '\n' ∉ tagLine n := by
  intro h
  rcases List.mem_append.mp h with h | h
  · exact absurd h (by decide)
  · exact Numeral.newline_not_mem_writeNat n h

theorem tagNumber?_tagLine (n : Nat) : tagNumber? (tagLine n) = some n := by
  have hdigits : (Numeral.writeNat n).all Char.isDigit = true :=
    List.all_eq_true.mpr fun c hc => Numeral.isDigit_of_mem_writeNat hc
  unfold tagNumber? tagLine
  rw [after?_append]
  simp [Numeral.writeNat_ne_nil, hdigits, Numeral.natOfText_writeNat]

theorem tag_eq (n : Nat) : tag n = tagLine n ++ ['\n'] := by
  unfold tag tagLine
  rfl

theorem lineTexts_tag (n : Nat) (rest : Text) :
    lineTexts (tag n ++ rest) = tagLine n :: lineTexts rest := by
  rw [tag_eq, List.append_assoc, List.singleton_append, lineTexts_line (newline_not_mem_tagLine n)]

theorem stringsAfter_congr {a b : Text} (h : separator a = separator b) (n : Nat)
    (chunks : List (Chunk Context)) : stringsAfter n a chunks = stringsAfter n b chunks := by
  cases chunks with
  | nil => rfl
  | cons chunk chunks => rw [stringsAfter, stringsAfter, h]

def nextString (n : Nat) (text : Text) (chunk : Chunk Context) : Text :=
  separator text ++ tag n ++ chunk.source

theorem nextString_ne_nil (n : Nat) (text : Text) (chunk : Chunk Context) :
    nextString n text chunk ≠ [] := by
  rw [nextString, tag_eq]
  simp

-- A string looks back no further than to the last character before it.
theorem stringsAfter_cons (n : Nat) (text : Text) (chunk : Chunk Context)
    (chunks : List (Chunk Context)) :
    stringsAfter n text (chunk :: chunks) =
      nextString n text chunk :: stringsAfter (n + 1) (text ++ nextString n text chunk) chunks := by
  have hseparator := separator_append (nextString_ne_nil n text chunk) text
  rw [stringsAfter]
  exact congrArg _ (stringsAfter_congr hseparator.symm _ _)

theorem stringsAfter_append (n : Nat) (text : Text) (front back : List (Chunk Context)) :
    stringsAfter n text (front ++ back) = stringsAfter n text front ++
      stringsAfter (n + front.length) (text ++ (stringsAfter n text front).flatten) back := by
  induction front generalizing n text with
  | nil => simp [stringsAfter]
  | cons chunk front ih =>
    rw [List.cons_append, stringsAfter_cons, stringsAfter_cons, ih, List.length_cons,
      List.flatten_cons, List.append_assoc, Nat.add_assoc n, Nat.add_comm 1, List.cons_append]

theorem lineTexts_stringsAfter (n : Nat) (text : Text) (chunks : List (Chunk Context)) :
    lineTexts (text ++ (stringsAfter n text chunks).flatten) =
      lineTexts text ++ taggedLines n chunks := by
  induction chunks generalizing n text with
  | nil => simp [stringsAfter, taggedLines]
  | cons chunk chunks ih =>
    have hnext : lineTexts (text ++ nextString n text chunk) =
        lineTexts text ++ tagLine n :: lineTexts chunk.source := by
      rw [nextString, List.append_assoc, ← List.append_assoc, lineTexts_append (closed_separator text),
        lineTexts_separator, lineTexts_tag]
    rw [stringsAfter_cons, List.flatten_cons, ← List.append_assoc, ih, hnext, taggedLines,
      List.append_assoc, List.cons_append]

def opening (front : List (Chunk Context)) : Text :=
  if front = [] then [] else separator (strings front).flatten ++ tag (front.length + 1)

def leading (front : List (Chunk Context)) : Text := (strings front).flatten ++ opening front

theorem strings_split (front : List (Chunk Context)) (chunk : Chunk Context)
    (back : List (Chunk Context)) :
    strings (front ++ chunk :: back) = strings front ++ (opening front ++ chunk.source) ::
      stringsAfter (front.length + 2) (leading front ++ chunk.source) back := by
  cases front with
  | nil => rfl
  | cons first front =>
    have hlength : 2 + front.length = front.length + 1 + 1 := by omega
    rw [List.cons_append, strings, strings, stringsAfter_append, stringsAfter_cons, nextString, leading,
      opening, if_neg (List.cons_ne_nil _ _), strings, List.flatten_cons, List.length_cons, hlength,
      List.cons_append, List.append_assoc (first.source ++ _)]

theorem length_stringsAfter (n : Nat) (text : Text) (chunks : List (Chunk Context)) :
    (stringsAfter n text chunks).length = chunks.length := by
  induction chunks generalizing n text with
  | nil => rfl
  | cons chunk chunks ih => rw [stringsAfter_cons, List.length_cons, ih, List.length_cons]

theorem length_strings (chunks : List (Chunk Context)) : (strings chunks).length = chunks.length := by
  cases chunks with
  | nil => rfl
  | cons chunk chunks => rw [strings, List.length_cons, length_stringsAfter, List.length_cons]

theorem getElem?_strings (front : List (Chunk Context)) (chunk : Chunk Context)
    (back : List (Chunk Context)) :
    (strings (front ++ chunk :: back))[front.length]? = some (opening front ++ chunk.source) := by
  rw [strings_split, ← length_strings front, List.getElem?_append_right (Nat.le_refl _), Nat.sub_self]
  rfl

theorem take_strings (front : List (Chunk Context)) (chunk : Chunk Context)
    (back : List (Chunk Context)) :
    (strings (front ++ chunk :: back)).take front.length = strings front := by
  rw [strings_split]
  exact List.take_left' (length_strings front)

theorem closed_leading (front : List (Chunk Context)) : Closed (leading front) := by
  cases front with
  | nil => exact .inl rfl
  | cons first front =>
    rw [leading, opening, if_neg (List.cons_ne_nil _ _), tag_eq, ← List.append_assoc,
      ← List.append_assoc]
    exact (closed_append (by simp)).mpr (.inr rfl)

-- The first string has no tag, but is read as if it had one.
theorem lineTexts_leading (front : List (Chunk Context)) :
    tagLine 1 :: lineTexts (leading front) = taggedLines 1 front ++ [tagLine (front.length + 1)] := by
  cases front with
  | nil => rfl
  | cons first front =>
    have htag := lineTexts_tag (front.length + 1 + 1) []
    rw [List.append_nil] at htag
    rw [leading, opening, if_neg (List.cons_ne_nil _ _), ← List.append_assoc,
      lineTexts_append (closed_separator _), lineTexts_separator, List.length_cons, htag, strings,
      List.flatten_cons, lineTexts_stringsAfter, taggedLines]
    rfl

theorem lineTexts_strings (front : List (Chunk Context)) (chunk : Chunk Context)
    (back : List (Chunk Context)) :
    lineTexts (strings (front ++ chunk :: back)).flatten = lineTexts (leading front) ++
      (lineTexts chunk.source ++ taggedLines (front.length + 2) back) := by
  rw [strings_split, List.flatten_append, List.flatten_cons, ← List.append_assoc, ← List.append_assoc,
    ← leading, lineTexts_stringsAfter, lineTexts_append (closed_leading front), List.append_assoc]

theorem length_placesFrom (place : Place) (lines : List Text) :
    (placesFrom place lines).length = lines.length := by
  induction lines generalizing place with
  | nil => rfl
  | cons line lines ih => rw [placesFrom, List.length_cons, ih, List.length_cons]

theorem placesFrom_append (place : Place) (front back : List Text) :
    placesFrom place (front ++ back) =
      placesFrom place front ++ placesFrom (front.foldl Place.next place) back := by
  induction front generalizing place with
  | nil => rfl
  | cons line front ih => rw [List.cons_append, placesFrom, ih, placesFrom, List.foldl_cons,
      List.cons_append]

theorem next_tagLine (place : Place) (n : Nat) : place.next (tagLine n) = ⟨n, 1⟩ := by
  rw [Place.next, tagNumber?_tagLine]

theorem placesFrom_tagLine (place : Place) (n : Nat) (lines : List Text) :
    placesFrom place (tagLine n :: lines) = none :: placesFrom ⟨n, 1⟩ lines := by
  rw [placesFrom, next_tagLine, tagNumber?_tagLine]
  rfl

theorem placesFrom_of_untagged {lines : List Text} (h : ∀ line ∈ lines, tagNumber? line = none)
    (place : Place) :
    placesFrom place lines =
      (List.range' place.line lines.length).map fun k => some ⟨place.string, k⟩ := by
  induction lines generalizing place with
  | nil => rfl
  | cons line lines ih =>
    have hline := h line List.mem_cons_self
    rw [placesFrom, Place.next, hline, ih fun l hl => h l (List.mem_cons_of_mem _ hl)]
    rfl

theorem string_of_mem_places {chunks : List (Chunk Context)} (h : Untagged chunks) {n : Nat}
    {start place : Place} (hplace : some place ∈ placesFrom start (taggedLines n chunks)) :
    n ≤ place.string ∧ place.string < n + chunks.length := by
  induction chunks generalizing n start with
  | nil => cases hplace
  | cons chunk chunks ih =>
    have hsource := h chunk List.mem_cons_self
    rw [taggedLines, placesFrom_tagLine, placesFrom_append, placesFrom_of_untagged hsource,
      List.mem_cons, List.mem_append] at hplace
    rw [List.length_cons]
    rcases hplace with hplace | hplace | hplace
    · cases hplace
    · obtain ⟨k, -, he⟩ := List.mem_map.mp hplace
      cases he
      exact ⟨Nat.le_refl n, by dsimp only; omega⟩
    · have hrest := ih (fun c hc => h c (List.mem_cons_of_mem _ hc)) hplace
      omega

theorem placeAfter_leading (front : List (Chunk Context)) :
    (lineTexts (leading front)).foldl Place.next ⟨1, 1⟩ = ⟨front.length + 1, 1⟩ := by
  calc (lineTexts (leading front)).foldl Place.next ⟨1, 1⟩
      = (tagLine 1 :: lineTexts (leading front)).foldl Place.next ⟨1, 1⟩ := by
        rw [List.foldl_cons, next_tagLine]
    _ = ⟨front.length + 1, 1⟩ := by
        rw [lineTexts_leading, List.foldl_append, List.foldl_cons, next_tagLine, List.foldl_nil]

theorem string_of_mem_leading {front : List (Chunk Context)} (h : Untagged front) {place : Place}
    (hplace : some place ∈ placesFrom ⟨1, 1⟩ (lineTexts (leading front))) :
    place.string < front.length + 1 := by
  have hmem := List.mem_cons_of_mem none hplace
  rw [← placesFrom_tagLine ⟨1, 1⟩, lineTexts_leading, placesFrom_append, placesFrom_tagLine,
    List.mem_append] at hmem
  rcases hmem with hmem | hmem
  · have hstring := (string_of_mem_places h hmem).2
    omega
  · simp [placesFrom] at hmem

theorem places_strings {front back : List (Chunk Context)} {chunk : Chunk Context}
    (h : Untagged (front ++ chunk :: back)) :
    ∃ before after, places (strings (front ++ chunk :: back)).flatten = before ++
        ((List.range' 1 chunk.lineCount).map (fun k => some ⟨front.length + 1, k⟩) ++ after) ∧
      before.length = lineCount (leading front) ∧
      (∀ place, some place ∈ before → place.string ≠ front.length + 1) ∧
      ∀ place, some place ∈ after → place.string ≠ front.length + 1 := by
  have hfront : Untagged front := fun c hc => h c (List.mem_append_left _ hc)
  have hback : Untagged back := fun c hc =>
    h c (List.mem_append_right _ (List.mem_cons_of_mem _ hc))
  have hchunk := h chunk (List.mem_append_right _ List.mem_cons_self)
  refine ⟨placesFrom ⟨1, 1⟩ (lineTexts (leading front)),
    placesFrom ((lineTexts chunk.source).foldl Place.next ⟨front.length + 1, 1⟩)
      (taggedLines (front.length + 2) back), ?_, ?_, ?_, ?_⟩
  · rw [places, lineTexts_strings, placesFrom_append, placeAfter_leading, placesFrom_append,
      placesFrom_of_untagged hchunk, length_lineTexts]
    rfl
  · rw [length_placesFrom, length_lineTexts]
  · intro place hplace
    have hstring := string_of_mem_leading hfront hplace
    omega
  · intro place hplace
    have hstring := (string_of_mem_places hback hplace).1
    omega

theorem getElem?_places_iff {front back : List (Chunk Context)} {chunk : Chunk Context}
    (h : Untagged (front ++ chunk :: back)) {j k : Nat} (hj : 1 ≤ j) (hj' : j ≤ chunk.lineCount) :
    (places (strings (front ++ chunk :: back)).flatten)[k]? = some (some ⟨front.length + 1, j⟩) ↔
      k = lineCount (leading front) + (j - 1) := by
  obtain ⟨before, after, hplaces, hlength, hbefore, hafter⟩ := places_strings h
  rw [hplaces, ← hlength]
  constructor
  · intro hk
    by_cases hleft : k < before.length
    · rw [List.getElem?_append_left hleft] at hk
      exact absurd rfl (hbefore _ (List.mem_of_getElem? hk))
    rw [List.getElem?_append_right (by omega)] at hk
    by_cases hmid : k - before.length < chunk.lineCount
    · rw [List.getElem?_append_left (by simpa using hmid), List.getElem?_map,
        List.getElem?_range' hmid] at hk
      simp only [Option.map_some, Option.some.injEq, Place.mk.injEq, true_and] at hk
      omega
    · rw [List.getElem?_append_right (by simpa using hmid)] at hk
      exact absurd rfl (hafter _ (List.mem_of_getElem? hk))
  · rintro rfl
    have hmid : j - 1 < chunk.lineCount := by omega
    have hline : 1 + 1 * (j - 1) = j := by omega
    rw [List.getElem?_append_right (by omega), Nat.add_sub_cancel_left,
      List.getElem?_append_left (by simpa using hmid), List.getElem?_map, List.getElem?_range' hmid,
      Option.map_some, hline]

theorem getElem?_lineTexts_strings {front back : List (Chunk Context)} {chunk : Chunk Context}
    {k : Nat} (hk : k < chunk.lineCount) :
    (lineTexts (strings (front ++ chunk :: back)).flatten)[lineCount (leading front) + k]? =
      (lineTexts chunk.source)[k]? := by
  rw [lineTexts_strings, ← length_lineTexts, List.getElem?_append_right (by omega),
    Nat.add_sub_cancel_left, List.getElem?_append_left]
  rwa [length_lineTexts]

-- The tag itself, as it stands in the text.
theorem splitLines_tag {front : List (Chunk Context)} (hne : front ≠ []) (chunk : Chunk Context)
    (back : List (Chunk Context)) :
    ∃ gap before after, opening front = gap ++ tag (front.length + 1) ∧
      splitLines (strings (front ++ chunk :: back)).flatten =
        before ++ tag (front.length + 1) :: after ∧
      before.flatten = (strings front).flatten ++ gap := by
  have hopening : opening front = separator (strings front).flatten ++ tag (front.length + 1) :=
    if_neg hne
  refine ⟨separator (strings front).flatten,
    splitLines ((strings front).flatten ++ separator (strings front).flatten),
    splitLines (chunk.source ++
      (stringsAfter (front.length + 2) (leading front ++ chunk.source) back).flatten),
    hopening, ?_, flatten_splitLines _⟩
  rw [strings_split, List.flatten_append, List.flatten_cons, hopening, List.append_assoc,
    List.append_assoc, ← List.append_assoc, splitLines_append (closed_separator _), tag_eq,
    List.append_assoc, List.singleton_append, splitLines_body_append (newline_not_mem_tagLine _)]

end ShaderSources.Compile
