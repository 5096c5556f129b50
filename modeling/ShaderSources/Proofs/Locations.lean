import ShaderSources.Compile.Log
import ShaderSources.Proofs.StringLines

namespace ShaderSources.Compile

open Text Numeral

variable {Context : Type}

def NoDigitAhead (text : Text) : Prop := ∀ c, text.head? = some c → isDigit c = false

def labelledPlace (string line : Nat) : Text :=
  "ERROR: ".toList ++ writeNat string ++ ':' :: writeNat line

def parenthesisedPlace (string line : Nat) : Text :=
  writeNat string ++ '(' :: writeNat line ++ [')', ' ']

def filePlace (file : String) (line : Int) : Text :=
  file.toList ++ '(' :: (toString line).toList ++ [')']

theorem labelledPlace_ne_nil (string line : Nat) : labelledPlace string line ≠ [] := by
  unfold labelledPlace
  simp

theorem parenthesisedPlace_ne_nil (string line : Nat) : parenthesisedPlace string line ≠ [] := by
  simp [parenthesisedPlace]

theorem newline_not_mem_labelledPlace (string line : Nat) : '\n' ∉ labelledPlace string line := by
  unfold labelledPlace
  simp [newline_not_mem_writeNat]

theorem newline_not_mem_parenthesisedPlace (string line : Nat) :
    '\n' ∉ parenthesisedPlace string line := by
  simp [parenthesisedPlace, newline_not_mem_writeNat]

theorem newline_not_mem_filePlace {file : String} (h : '\n' ∉ file.toList) (line : Int) :
    '\n' ∉ filePlace file line := by
  simp only [filePlace, List.append_assoc, List.cons_append, List.mem_append, List.mem_cons, not_or]
  exact ⟨h, by decide, newline_not_mem_toString line, by decide, List.not_mem_nil⟩

theorem newline_not_mem_cons {c : Char} {text : Text} (h : '\n' ∉ c :: text) :
    decide (c = '\n') = false ∧ '\n' ∉ text := by
  simp only [List.mem_cons, not_or] at h
  exact ⟨decide_eq_false (Ne.symm h.1), h.2⟩

section

variable {spelling : Spelling} {chunks : List (Chunk Context)} {text : Text}

-- Behind the first character of a line nothing is replaced any more.
theorem relocateSpelled_behind (hfree : '\n' ∉ text) (skip : Nat) :
    relocateSpelled spelling chunks skip false text = .ok (text.drop skip) := by
  induction text generalizing skip with
  | nil => simp [relocateSpelled]
  | cons c text ih =>
    obtain ⟨hc, hrest⟩ := newline_not_mem_cons hfree
    cases skip with
    | zero =>
      simp only [relocateSpelled, hc, ih hrest]
      rfl
    | succ skip => rw [relocateSpelled, hc, ih hrest, List.drop_succ_cons]

theorem relocateSpelled_of_none (hfree : '\n' ∉ text) (h : spelling text = none) :
    relocateSpelled spelling chunks 0 true text = .ok text := by
  cases text with
  | nil => rfl
  | cons c text =>
    obtain ⟨hc, hrest⟩ := newline_not_mem_cons hfree
    simp only [relocateSpelled, if_true, h, hc, relocateSpelled_behind hrest]
    rfl

theorem relocateSpelled_of_some {written : Text} {location : Location} {new : Text}
    (hne : written ≠ []) (hfree : '\n' ∉ written ++ text)
    (h : spelling (written ++ text) = some location) (hlength : location.length = written.length)
    (hnew : replacement? chunks location = .ok (some new)) :
    relocateSpelled spelling chunks 0 true (written ++ text) = .ok (new ++ text) := by
  cases written with
  | nil => exact absurd rfl hne
  | cons c written =>
    rw [List.cons_append] at h hfree
    obtain ⟨hc, hrest⟩ := newline_not_mem_cons hfree
    have hdrop : (written ++ text).drop (location.length - 1) = text := by
      rw [hlength, List.length_cons, Nat.add_sub_cancel, List.drop_left]
    simp only [List.cons_append, relocateSpelled, if_true, h, hc, hnew,
      relocateSpelled_behind hrest, hdrop]
    rfl

end

section

variable (n : Nat) {c : Char}

theorem takeWhile_writeNat (hc : isDigit c = false) (rest : Text) :
    (writeNat n ++ c :: rest).takeWhile isDigit = writeNat n := by
  rw [List.takeWhile_append_of_pos fun d hd => isDigit_of_ascii (isDigit_of_mem_writeNat hd),
    List.takeWhile_cons_of_neg (by simp [hc]), List.append_nil]

theorem dropWhile_writeNat (hc : isDigit c = false) (rest : Text) :
    (writeNat n ++ c :: rest).dropWhile isDigit = c :: rest := by
  rw [List.dropWhile_append_of_pos fun d hd => isDigit_of_ascii (isDigit_of_mem_writeNat hd),
    List.dropWhile_cons_of_neg (by simp [hc])]

end

theorem exists_writeNat_eq_cons (n : Nat) : ∃ d ds, writeNat n = d :: ds ∧ d.isDigit = true := by
  obtain ⟨d, ds, h⟩ := List.exists_cons_of_ne_nil (writeNat_ne_nil n)
  exact ⟨d, ds, h, isDigit_of_mem_writeNat (h ▸ List.mem_cons_self)⟩

theorem span_blank_writeNat (n : Nat) (rest : Text) :
    (' ' :: (writeNat n ++ rest)).takeWhile isBlank = [' '] ∧
      (' ' :: (writeNat n ++ rest)).dropWhile isBlank = writeNat n ++ rest := by
  obtain ⟨d, ds, h, hd⟩ := exists_writeNat_eq_cons n
  have hblank : isBlank ' ' = true := by decide
  have hstop := isBlank_of_isDigit (isDigit_of_ascii hd)
  simp [h, hblank, hstop]

theorem labelled_labelledPlace (string line : Nat) (rest : Text) :
    labelled (labelledPlace string line ++ ':' :: rest) =
      some ⟨writeNat string, writeNat line, (labelledPlace string line).length⟩ := by
  have hcolon : isDigit ':' = false := by decide
  have hplace : labelledPlace string line ++ ':' :: rest =
      "ERROR:".toList ++ ' ' :: (writeNat string ++ ':' :: (writeNat line ++ ':' :: rest)) := by
    unfold labelledPlace
    simp
  have hlength : (labelledPlace string line).length =
      6 + 1 + (writeNat string).length + 1 + (writeNat line).length := by
    unfold labelledPlace
    simp
    omega
  obtain ⟨hblank, hbehind⟩ := span_blank_writeNat string (':' :: (writeNat line ++ ':' :: rest))
  rw [hplace, hlength]
  unfold labelled
  simp only [after?_append, hblank, hbehind, takeWhile_writeNat _ hcolon, dropWhile_writeNat _ hcolon]
  simp [writeNat_ne_nil]

theorem parenthesised_parenthesisedPlace (string line : Nat) (rest : Text) :
    parenthesised (parenthesisedPlace string line ++ ':' :: rest) =
      some ⟨writeNat string, writeNat line, (parenthesisedPlace string line).length⟩ := by
  have hopen : isDigit '(' = false := by decide
  have hclose : isDigit ')' = false := by decide
  have hblank : isBlank ' ' = true := by decide
  have hcolon : isBlank ':' = false := by decide
  have hplace : parenthesisedPlace string line ++ ':' :: rest =
      writeNat string ++ '(' :: (writeNat line ++ ')' :: ' ' :: ':' :: rest) := by
    simp [parenthesisedPlace]
  have hlength : (parenthesisedPlace string line).length =
      (writeNat string).length + 1 + (writeNat line).length + 1 + 1 := by
    simp [parenthesisedPlace]
    omega
  rw [hplace, hlength]
  unfold parenthesised
  simp only [takeWhile_writeNat _ hopen, dropWhile_writeNat _ hopen, takeWhile_writeNat _ hclose,
    dropWhile_writeNat _ hclose]
  simp [writeNat_ne_nil, hblank, hcolon]

theorem labelled_parenthesisedPlace (string line : Nat) (rest : Text) :
    labelled (parenthesisedPlace string line ++ rest) = none := by
  obtain ⟨d, ds, h, hd⟩ := exists_writeNat_eq_cons string
  have hlead : "ERROR:".toList = ['E', 'R', 'R', 'O', 'R', ':'] := by decide
  have hne : ¬ 'E' = d := by
    rintro rfl
    exact absurd hd (by decide)
  unfold labelled
  rw [hlead, parenthesisedPlace, h, List.cons_append, List.cons_append, List.cons_append, after?,
    if_neg hne]

theorem parenthesised_filePlace {file : String} (h : NoDigitAhead file.toList) (line : Int)
    (rest : Text) : parenthesised (filePlace file line ++ rest) = none := by
  have hopen : isDigit '(' = false := by decide
  have hstring : (filePlace file line ++ rest).takeWhile isDigit = [] := by
    unfold filePlace
    cases hfile : file.toList with
    | nil => exact List.takeWhile_cons_of_neg (by simp [hopen])
    | cons c file =>
      have hc := h c (by rw [hfile]; rfl)
      exact List.takeWhile_cons_of_neg (by simp [hc])
  simp only [parenthesised, hstring, List.isEmpty_nil, Bool.true_or, if_true]
  split
  · split
    · rfl
    · rfl
  · rfl

theorem toString_eq_self (s : String) : toString s = s := rfl

theorem toList_labelled (string line : Nat) (m : String) :
    s!"ERROR: {string}:{line}: {m}".toList =
      labelledPlace string line ++ ':' :: ' ' :: m.toList := by
  unfold labelledPlace
  simp only [String.toList_append, toList_toString, toString_eq_self, List.append_assoc]
  rfl

theorem toList_parenthesised (string line : Nat) (m : String) :
    s!"{string}({line}) : {m}".toList =
      parenthesisedPlace string line ++ ':' :: ' ' :: m.toList := by
  unfold parenthesisedPlace
  simp only [String.toList_append, toList_toString, toString_eq_self, List.append_assoc]
  rfl

theorem toList_filePlace (file : String) (line : Int) (m : String) :
    s!"{file}({line}): {m}".toList = filePlace file line ++ ':' :: ' ' :: m.toList := by
  unfold filePlace
  simp only [String.toList_append, toString_eq_self, List.append_assoc]
  rfl

section

variable {chunks : List (Chunk Context)} {chunk : Chunk Context} {i j : Nat} {text : Text}

theorem replacement?_eq (h : chunks[i]? = some chunk) (hi : Short (i + 1)) (hj : Short j)
    (hline : Short (chunk.line + j - 1).natAbs) (length : Nat) :
    replacement? chunks ⟨writeNat (i + 1), writeNat j, length⟩ =
      .ok (some (filePlace chunk.file (chunk.line + j - 1))) := by
  have hchunk : chunkOf? chunks (i + 1) = some chunk := by
    rw [chunkOf?, Nat.max_eq_left (by omega), Nat.add_sub_cancel, h]
  have hshown : (j : Int) + chunk.lineOffset = chunk.line + j - 1 := by
    rw [Chunk.lineOffset]
    omega
  unfold replacement?
  simp only [bind, Except.bind, readNat_writeNat hi, hchunk, readNat_writeNat hj, hshown,
    writeInt_of_short hline]
  rfl

theorem relocate_labelledPlace (h : chunks[i]? = some chunk) (hi : Short (i + 1)) (hj : Short j)
    (hline : Short (chunk.line + j - 1).natAbs) (hfree : '\n' ∉ text)
    (hfile : '\n' ∉ chunk.file.toList) (hahead : NoDigitAhead chunk.file.toList) :
    relocate (labelledPlace (i + 1) j ++ ':' :: text) chunks =
      .ok (filePlace chunk.file (chunk.line + j - 1) ++ ':' :: text) := by
  have hlog : '\n' ∉ labelledPlace (i + 1) j ++ ':' :: text := by
    simp [newline_not_mem_labelledPlace, hfree]
  have htold : '\n' ∉ filePlace chunk.file (chunk.line + j - 1) ++ ':' :: text := by
    simp [newline_not_mem_filePlace hfile, hfree]
  have hfirst : relocateSpelled labelled chunks 0 true (labelledPlace (i + 1) j ++ ':' :: text) =
      .ok (filePlace chunk.file (chunk.line + j - 1) ++ ':' :: text) :=
    relocateSpelled_of_some (labelledPlace_ne_nil _ _) hlog (labelled_labelledPlace (i + 1) j text) rfl
      (replacement?_eq h hi hj hline _)
  unfold relocate
  rw [hfirst]
  exact relocateSpelled_of_none htold (parenthesised_filePlace hahead _ _)

theorem relocate_parenthesisedPlace (h : chunks[i]? = some chunk) (hi : Short (i + 1)) (hj : Short j)
    (hline : Short (chunk.line + j - 1).natAbs) (hfree : '\n' ∉ text) :
    relocate (parenthesisedPlace (i + 1) j ++ ':' :: text) chunks =
      .ok (filePlace chunk.file (chunk.line + j - 1) ++ ':' :: text) := by
  have hlog : '\n' ∉ parenthesisedPlace (i + 1) j ++ ':' :: text := by
    simp [newline_not_mem_parenthesisedPlace, hfree]
  have hfirst : relocateSpelled labelled chunks 0 true (parenthesisedPlace (i + 1) j ++ ':' :: text) =
      .ok (parenthesisedPlace (i + 1) j ++ ':' :: text) :=
    relocateSpelled_of_none hlog (labelled_parenthesisedPlace (i + 1) j _)
  unfold relocate
  rw [hfirst]
  exact relocateSpelled_of_some (parenthesisedPlace_ne_nil _ _) hlog
    (parenthesised_parenthesisedPlace (i + 1) j text) rfl (replacement?_eq h hi hj hline _)

end

/-- Places are numbered alike in the strings of the chunks and in a log: each tag is a line, a line of a
chunk is the only one at its place, and its place is told as its file and line. -/
structure NumberedAlike (chunks : List (Chunk Context)) : Prop where
  tagged : ∀ i chunk, chunks[i + 1]? = some chunk → ∃ gap before after,
    (strings chunks)[i + 1]? = some (gap ++ tag (i + 2) ++ chunk.source) ∧
      splitLines (strings chunks).flatten = before ++ tag (i + 2) :: after ∧
      before.flatten = ((strings chunks).take (i + 1)).flatten ++ gap
  stands : ∀ i chunk j, chunks[i]? = some chunk → 1 ≤ j → j ≤ chunk.lineCount →
    ∃ opening line k, (strings chunks)[i]? = some (opening ++ chunk.source) ∧
      k = lineCount (((strings chunks).take i).flatten ++ opening) + (j - 1) ∧
      (lineTexts chunk.source)[j - 1]? = some line ∧
      (lineTexts (strings chunks).flatten)[k]? = some line ∧
      ∀ k', (places (strings chunks).flatten)[k']? = some (some ⟨i + 1, j⟩) ↔ k' = k
  labelled : ∀ i chunk (j : Nat) (m : String), chunks[i]? = some chunk → Short (i + 1) → Short j →
    Short (chunk.line + j - 1).natAbs → '\n' ∉ m.toList → '\n' ∉ chunk.file.toList →
    NoDigitAhead chunk.file.toList →
    relocate s!"ERROR: {i + 1}:{j}: {m}".toList chunks =
      .ok s!"{chunk.file}({chunk.line + j - 1}): {m}".toList
  parenthesised : ∀ i chunk (j : Nat) (m : String), chunks[i]? = some chunk → Short (i + 1) →
    Short j → Short (chunk.line + j - 1).natAbs → '\n' ∉ m.toList →
    relocate s!"{i + 1}({j}) : {m}".toList chunks =
      .ok s!"{chunk.file}({chunk.line + j - 1}): {m}".toList

theorem numberedAlike_of_untagged {chunks : List (Chunk Context)} (h : Untagged chunks) :
    NumberedAlike chunks := by
  have split {i : Nat} {chunk : Chunk Context} (hchunk : chunks[i]? = some chunk) :
      ∃ front back, chunks = front ++ chunk :: back ∧ front.length = i := by
    obtain ⟨hi, rfl⟩ := List.getElem?_eq_some_iff.mp hchunk
    refine ⟨chunks.take i, chunks.drop (i + 1), ?_, List.length_take_of_le (Nat.le_of_lt hi)⟩
    rw [← List.drop_eq_getElem_cons hi, List.take_append_drop]
  constructor
  case tagged =>
    intro i chunk hchunk
    obtain ⟨front, back, rfl, hlength⟩ := split hchunk
    have hne : front ≠ [] := List.ne_nil_of_length_eq_add_one hlength
    obtain ⟨gap, before, after, hopening, hlines, hbefore⟩ := splitLines_tag hne chunk back
    refine ⟨gap, before, after, ?_, ?_, ?_⟩
    · rw [← hlength, getElem?_strings, hopening, hlength]
    · rw [hlines, hlength]
    · rw [← hlength, take_strings, hbefore]
  case stands =>
    intro i chunk j hchunk hj hj'
    obtain ⟨front, back, rfl, rfl⟩ := split hchunk
    have hlt : j - 1 < (lineTexts chunk.source).length := by
      rw [length_lineTexts]
      exact Nat.lt_of_lt_of_le (Nat.sub_one_lt_of_lt hj) hj'
    refine ⟨opening front, (lineTexts chunk.source)[j - 1], lineCount (leading front) + (j - 1),
      getElem?_strings front chunk back, ?_, List.getElem?_eq_getElem hlt, ?_, fun k =>
        getElem?_places_iff h hj hj'⟩
    · rw [take_strings, leading]
    · rw [getElem?_lineTexts_strings (by rwa [length_lineTexts] at hlt), List.getElem?_eq_getElem hlt]
  case labelled =>
    intro i chunk j m hchunk hi hshort hline hm hfile hahead
    rw [toList_labelled, toList_filePlace]
    exact relocate_labelledPlace hchunk hi hshort hline (by simpa using hm) hfile hahead
  case parenthesised =>
    intro i chunk j m hchunk hi hshort hline hm
    rw [toList_parenthesised, toList_filePlace]
    exact relocate_parenthesisedPlace hchunk hi hshort hline (by simpa using hm)

def brokenChunks : List (Chunk Unit) :=
  [⟨"a\nb".toList, "main", 1, ()⟩, ⟨[], "none", 1, ()⟩, ⟨"c\n\nd".toList, "other", 7, ()⟩]

theorem numberedAlike_of_untagged_brokenChunks :
    Untagged brokenChunks ∧ NumberedAlike brokenChunks ∧
      (lineTexts (strings brokenChunks).flatten)[6]? = some "d".toList ∧
      (∀ k, (places (strings brokenChunks).flatten)[k]? = some (some ⟨3, 3⟩) ↔ k = 6) ∧
      relocate "ERROR: 3:3: undeclared".toList brokenChunks = .ok "other(9): undeclared".toList ∧
      relocate "3(3) : undeclared".toList brokenChunks = .ok "other(9): undeclared".toList := by
  have huntagged : Untagged brokenChunks := by decide +kernel
  have hnumbered := numberedAlike_of_untagged huntagged
  have hthird : brokenChunks[2]? = some ⟨"c\n\nd".toList, "other", 7, ()⟩ := rfl
  have hshort : ∀ n ≤ 9, Short n := by decide
  obtain ⟨opening, line, k, -, -, -, -, hplaces⟩ :=
    hnumbered.stands 2 _ 3 hthird (by decide) (by decide)
  have hk : 6 = k := (hplaces 6).mp (by decide +kernel)
  refine ⟨huntagged, hnumbered, by decide +kernel, ?_, ?_, ?_⟩
  · rwa [← hk] at hplaces
  · exact hnumbered.labelled 2 _ 3 "undeclared" hthird (hshort 3 (by decide)) (hshort 3 (by decide))
      (hshort 9 (by decide)) (by decide) (by decide) (by rintro c ⟨⟩; decide)
  · exact hnumbered.parenthesised 2 _ 3 "undeclared" hthird (hshort 3 (by decide))
      (hshort 3 (by decide)) (hshort 9 (by decide)) (by decide)

end ShaderSources.Compile
