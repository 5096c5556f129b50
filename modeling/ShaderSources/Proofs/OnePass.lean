import ShaderSources.Proofs.LogPasses

namespace ShaderSources.Compile

open Text Numeral

variable {Context : Type} {chunks : List (Chunk Context)}

def relocateOnce (log : Text) (chunks : List (Chunk Context)) : Except Fault Text :=
  relocateSpelled either chunks 0 true log

/-- Every location in a log can be read. -/
def Legible (atStart : Bool) (log : Text) : Prop :=
  ∀ tail ∈ lineTails atStart log, ∀ location, either tail = some location → location.Short

def Told (chunks : List (Chunk Context)) (place : Text) : Prop :=
  ∃ location : Location, location.Short ∧ Digits location.string ∧ Digits location.line ∧
    replacement? chunks location = .ok (some place)

/-- A place that the second pass leaves alone. -/
structure Settled (chunks : List (Chunk Context)) (place : Text) : Prop where
  noBlank : NoBlankAhead place
  noKnown : Free (parenthesised.known chunks) true place []

theorem readNat_of_length {digits : Text} (h : digits.length ≤ maxDigits) :
    readNat digits = .ok (natOfText digits) := if_neg (Nat.not_lt.mpr h)

theorem eq_of_writeInt_error {n : Int} {fault : Fault} (h : writeInt n = .error fault) :
    fault = .tooLongToWrite := by
  unfold writeInt at h
  split at h
  · cases h
    rfl
  · cases h

theorem eq_of_replacement?_error {location : Location} (hshort : location.Short) {fault : Fault}
    (h : replacement? chunks location = .error fault) : fault = .tooLongToWrite := by
  unfold replacement? at h
  simp only [readNat_of_length hshort.1, readNat_of_length hshort.2, bind, Except.bind] at h
  split at h
  · cases h
  · split at h
    · rename_i hshown
      cases h
      exact eq_of_writeInt_error hshown
    · cases h

theorem Legible.of_append {atStart : Bool} {front back : Text} (h : Legible atStart (front ++ back)) :
    Legible (startsLine atStart front) back :=
  fun tail htail => h tail (mem_lineTails_append htail)

-- A text that ends in a closing parenthesis holds all of a number pair that it starts with.
theorem prefix_of_close {string line back rest : Text} (hstring : Digits string) (hline : Digits line)
    (hclose : ')' ∈ back) (h : parenthesisedText string line [] <+: back ++ rest) :
    parenthesisedText string line [] <+: back := by
  rcases List.prefix_or_prefix_of_prefix h (List.prefix_append back rest) with h | h
  · exact h
  · have hsplit : parenthesisedText string line [] = (string ++ '(' :: line) ++ [')'] := by
      simp [parenthesisedText]
    rw [hsplit] at h
    rcases List.prefix_concat_iff.mp h with heq | hbefore
    · exact (hsplit.trans heq.symm) ▸ List.prefix_rfl
    · have hmem := hbefore.subset hclose
      simp [hstring.not_mem (show isDigit ')' = false by decide),
        hline.not_mem (show isDigit ')' = false by decide)] at hmem

theorem known_none_of_prefix {text other : Text} (h : parenthesised.known chunks text = none)
    (hstarts : ∀ string line, Digits string → Digits line →
      parenthesisedText string line [] <+: other → parenthesisedText string line [] <+: text) :
    parenthesised.known chunks other = none := by
  rw [known_eq_none_iff] at h ⊢
  intro location hfound hknown
  obtain ⟨hstring, hline, hother⟩ := prefix_of_parenthesised hfound
  obtain ⟨found, hsame, heq, heq'⟩ :=
    parenthesised_of_prefix hstring hline (hstarts _ _ hstring hline hother)
  exact h found hsame ((known_congr heq heq').mpr hknown)

theorem close_mem_of_suffix {place front back : Text} (hplace : ∃ text, place = text ++ [')'])
    (hsplit : place = front ++ back) (hne : back ≠ []) : ')' ∈ back := by
  obtain ⟨text, rfl⟩ := hplace
  obtain ⟨before, c, rfl⟩ := List.eq_nil_or_concat back |>.resolve_left hne
  rw [List.concat_eq_append, ← List.append_assoc] at hsplit
  have hc := (List.append_inj' hsplit rfl).2
  cases hc
  simp

theorem Settled.free {place : Text} (h : Settled chunks place)
    (hplace : ∃ text, place = text ++ [')']) (rest : Text) :
    Free (parenthesised.known chunks) true place rest := by
  intro back hback
  have hhere := h.noKnown back hback
  obtain ⟨hne, front, hsplit, -⟩ := mem_lineTails_iff.mp hback
  rw [List.append_nil] at hhere
  apply known_none_of_prefix hhere
  intro string line hstring hline hstarts
  exact prefix_of_close hstring hline (close_mem_of_suffix hplace hsplit hne) hstarts

theorem Legible.eq_tooLongToWrite {atStart : Bool} {log : Text} (hlegible : Legible atStart log)
    {fault : Fault} (h : relocateSpelled labelled chunks 0 atStart log = .error fault) :
    fault = .tooLongToWrite := by
  induction atStart, log using sound_labelled.induction with
  | nil atStart => cases h
  | char atStart c text hnone ih =>
    rw [relocateSpelled_char hnone] at h
    cases hrest : relocateSpelled labelled chunks 0 (c = '\n') text with
    | error other =>
      rw [hrest] at h
      cases h
      exact ih (@Legible.of_append _ [c] _ hlegible) hrest
    | ok out =>
      rw [hrest] at h
      cases h
  | location written rest location hne hfound hlength ih =>
    have hshort := hlegible _ (lineTails_whole (List.append_ne_nil_of_left_ne_nil hne rest)) location
      (labelled_of_either hfound)
    rw [relocateSpelled_location hne hfound hlength] at h
    cases hnew : replacement? chunks location with
    | error other =>
      rw [hnew] at h
      cases h
      exact eq_of_replacement?_error hshort hnew
    | ok new =>
      rw [hnew] at h
      cases hrest : relocateSpelled labelled chunks 0 (startsLine true written) rest with
      | error other =>
        simp only [hrest] at h
        cases h
        exact ih hlegible.of_append hrest
      | ok out =>
        simp only [hrest] at h
        cases h

theorem noBlankAhead_of_pass (hsettled : ∀ place, Told chunks place → Settled chunks place)
    {atStart : Bool} {text out : Text} (hlegible : Legible atStart text)
    (h : relocateSpelled labelled chunks 0 atStart text = .ok out) (htext : NoBlankAhead text) :
    NoBlankAhead out := by
  induction atStart, text using sound_labelled.induction with
  | nil atStart =>
    cases h
    exact htext
  | char atStart c text hnone _ =>
    rw [relocateSpelled_char hnone] at h
    obtain ⟨rest, -, rfl⟩ := Fallible.map_eq_ok.mp h
    rintro d ⟨⟩
    exact htext c rfl
  | location written rest location hne hfound hlength _ =>
    rw [relocateSpelled_location hne hfound hlength] at h
    obtain ⟨new, hnew, h⟩ := Fallible.bind_eq_ok.mp h
    obtain ⟨out, -, rfl⟩ := Fallible.map_eq_ok.mp h
    obtain ⟨blanks, rfl, -, hstring, hline, -⟩ := labelled_written hfound hlength
    cases new with
    | none =>
      rintro d ⟨⟩
      decide
    | some place =>
      have htold : Told chunks place :=
        ⟨location, (exists_of_replacement? hnew).1, hstring, hline, hnew⟩
      obtain ⟨-, chunk, -, n, shown, -, hplace⟩ := exists_of_replacement? hnew
      obtain ⟨c, tail, hcons⟩ := List.exists_cons_of_ne_nil (show place ≠ [] by simp [hplace])
      rintro d hd
      rw [Option.getD_some, hcons] at hd
      cases hd
      exact (hsettled place htold).noBlank c (by rw [hcons]; rfl)

-- What a labelled location is replaced by, or left as, is passed over by the second pass.
theorem second_pass_of_labelled (hsettled : ∀ place, Told chunks place → Settled chunks place)
    {written rest out : Text} {location : Location} {new : Option Text}
    (hfound : labelled (written ++ rest) = some location) (hlength : location.length = written.length)
    (hnew : replacement? chunks location = .ok new)
    (hout : relocateSpelled labelled chunks 0 false rest = .ok out) :
    relocateSpelled parenthesised chunks 0 true (new.getD written ++ out) =
      (new.getD written ++ ·) <$> relocateSpelled parenthesised chunks 0 false out := by
  obtain ⟨blanks, hwritten, hblanks, hstring, hline, hahead⟩ := labelled_written hfound hlength
  cases new with
  | none =>
    have hagain := labelled_again hfound hlength (noDigitAhead_of_pass hout hahead)
    have hnone : parenthesised (written ++ out) = none := by
      apply parenthesised_eq_none
      rw [hwritten]
      rintro c ⟨⟩
      decide
    have hfree : Free parenthesised true written out :=
      sound_either.free (labelled_of_either hagain) hlength hnone fun text h =>
        (either_eq_none.mp h).2
    rw [Option.getD_none, hfree.copy, startsLine_labelled hfound hlength]
  | some place =>
    obtain ⟨hshort, chunk, -, n, shown, -, hplace⟩ := exists_of_replacement? hnew
    have hfree := (hsettled place ⟨location, hshort, hstring, hline, hnew⟩).free ⟨_, hplace⟩ out
    have hbehind : startsLine true place = false := by
      rw [hplace, startsLine_concat]
      decide
    rw [Option.getD_some, hfree.copy_of_known sound_parenthesised, hbehind]

theorem relocate_eq_relocateOnce (hsettled : ∀ place, Told chunks place → Settled chunks place)
    {atStart : Bool} {log : Text} (hlegible : Legible atStart log) :
    relocateSpelled labelled chunks 0 atStart log >>=
        relocateSpelled parenthesised chunks 0 atStart =
      relocateSpelled either chunks 0 atStart log := by
  induction atStart, log using sound_either.induction with
  | nil atStart => rfl
  | char atStart c text hnone ih =>
    have ih := ih (@Legible.of_append _ [c] _ hlegible)
    rw [relocateSpelled_char hnone, relocateSpelled_char fun h => (either_eq_none.mp (hnone h)).1, ← ih]
    cases hout : relocateSpelled labelled chunks 0 (c = '\n') text with
    | error fault => rfl
    | ok out =>
      apply relocateSpelled_char_of_known sound_parenthesised
      rintro rfl
      -- A number pair would have to stand in the log already, before its next line feed.
      apply known_none_of_prefix (known_of_none (either_eq_none.mp (hnone rfl)).2)
      intro string line hstring hline
      exact (prefix_cons_relocateSpelled_iff hout (newline_not_mem_pair hstring hline)).mp
  | location written rest location hne hfound hlength ih =>
    have ih := ih hlegible.of_append
    have hshort := hlegible _ (lineTails_whole (List.append_ne_nil_of_left_ne_nil hne rest)) location
      hfound
    rw [relocateSpelled_location hne hfound hlength, ← ih]
    rcases either_eq_some hfound with hlabelled | hnumbers
    · have hbehind := startsLine_labelled hlabelled hlength
      rw [relocateSpelled_location hne hlabelled hlength, hbehind]
      cases hnew : replacement? chunks location with
      | error fault => rfl
      | ok new =>
        cases hout : relocateSpelled labelled chunks 0 false rest with
        | error fault => rfl
        | ok out => exact second_pass_of_labelled hsettled hlabelled hlength hnew hout
    · obtain ⟨blanks, hwritten, hblanks, hstring, hline, hahead⟩ :=
        parenthesised_written hnumbers hlength
      have hfree : Free labelled true written rest :=
        sound_either.free hfound hlength (labelled_none_of_parenthesised hnumbers) fun text h =>
          (either_eq_none.mp h).1
      rw [hfree.copy]
      cases hout : relocateSpelled labelled chunks 0 (startsLine true written) rest with
      | error fault =>
        cases hnew : replacement? chunks location with
        | error other =>
          rw [hlegible.of_append.eq_tooLongToWrite hout, eq_of_replacement?_error hshort hnew]
          rfl
        | ok new => rfl
      | ok out =>
        have hbehind := noBlankAhead_of_pass hsettled hlegible.of_append hout hahead
        have hagain : parenthesised (written ++ out) = some location :=
          parenthesised_eq_some_iff.mpr ⟨blanks, out, by rw [hwritten], by rw [hlength, hwritten],
            hblanks, hstring, hline, hbehind⟩
        exact relocateSpelled_location hne hagain hlength

theorem relocateSpelled_ne_nil {spelling : Spelling} (hs : spelling.Sound) {atStart : Bool}
    {text : Text} (hne : text ≠ []) : relocateSpelled spelling chunks 0 atStart text ≠ .ok [] := by
  intro h
  induction atStart, text using hs.induction with
  | nil atStart => exact hne rfl
  | char atStart c text hnone _ =>
    rw [relocateSpelled_char hnone] at h
    obtain ⟨rest, -, hcons⟩ := Fallible.map_eq_ok.mp h
    cases hcons
  | location written rest location hwritten hfound hlength _ =>
    rw [relocateSpelled_location hwritten hfound hlength] at h
    obtain ⟨new, hnew, h⟩ := Fallible.bind_eq_ok.mp h
    obtain ⟨out, -, hnil⟩ := Fallible.map_eq_ok.mp h
    have hnone := (List.append_eq_nil_iff.mp hnil).1
    cases new with
    | none => exact hwritten hnone
    | some place =>
      obtain ⟨-, chunk, -, n, shown, -, hplace⟩ := exists_of_replacement? hnew
      rw [Option.getD_some, hplace] at hnone
      simp at hnone

def twice (string line : Text) : Text :=
  parenthesisedText string line ['\n'] ++ labelledText [] string line

section

variable {string line : Text}

theorem startsLine_parenthesisedText (string line blanks : Text) :
    startsLine true (parenthesisedText string line ('\n' :: blanks)) = startsLine true blanks := by
  have hsplit : parenthesisedText string line ('\n' :: blanks) =
      (string ++ '(' :: (line ++ [')'])) ++ '\n' :: blanks := by
    simp [parenthesisedText]
  rw [hsplit, startsLine_append]
  rfl

theorem parenthesisedText_ne_nil (string line blanks : Text) :
    parenthesisedText string line blanks ≠ [] := by
  simp [parenthesisedText]

theorem labelledText_ne_nil (blanks string line : Text) : labelledText blanks string line ≠ [] := by
  simp [labelledText_eq]

variable (hstring : Digits string) (hline : Digits line)
include hstring hline

theorem newline_not_mem_label : '\n' ∉ labelledText [] string line := by
  simp [labelledText_eq, newline_not_mem_digits hstring, newline_not_mem_digits hline]

theorem labelled_label : labelled (labelledText [] string line) =
    some ⟨string, line, (labelledText [] string line).length⟩ :=
  labelled_eq_some_iff.mpr ⟨[], [], (List.append_nil _).symm, rfl, by simp, hstring, hline,
    by rintro c ⟨⟩⟩

theorem parenthesised_pair {blanks rest : Text} (hblanks : ∀ c ∈ blanks, isBlank c = true)
    (hrest : NoBlankAhead rest) :
    parenthesised (parenthesisedText string line ('\n' :: blanks) ++ rest) =
      some ⟨string, line, (parenthesisedText string line ('\n' :: blanks)).length⟩ := by
  refine parenthesised_eq_some_iff.mpr ⟨'\n' :: blanks, rest, rfl, rfl, ?_, hstring, hline, hrest⟩
  exact List.forall_mem_cons.mpr ⟨by decide, hblanks⟩

theorem parenthesised_twice : parenthesised (twice string line) =
    some ⟨string, line, (parenthesisedText string line ['\n']).length⟩ :=
  parenthesised_pair hstring hline (by simp) (by rintro c ⟨⟩; decide)

theorem legible_twice (hshort : Location.Short ⟨string, line, 0⟩) :
    Legible true (twice string line) := by
  have hpair : twice string line =
      parenthesisedText string line [] ++ '\n' :: labelledText [] string line := by
    simp [twice, parenthesisedText]
  have htails : lineTails true (twice string line) =
      [twice string line, labelledText [] string line] := by
    rw [hpair, lineTails_line (newline_not_mem_pair hstring hline),
      lineTails_last (labelledText_ne_nil _ _ _) (newline_not_mem_label hstring hline)]
  rw [Legible, htails]
  refine List.forall_mem_cons.mpr ⟨?_, List.forall_mem_cons.mpr ⟨?_, List.forall_mem_nil _⟩⟩
  · rintro location hfound
    rw [either_of_parenthesised (parenthesised_twice hstring hline)] at hfound
    cases hfound
    exact hshort
  · rintro location hfound
    rw [labelled_of_either (labelled_label hstring hline)] at hfound
    cases hfound
    exact hshort

variable {place : Text} (hnew : ∀ n, replacement? chunks ⟨string, line, n⟩ = .ok (some place))
include hnew

theorem relocateOnce_twice : relocateOnce (twice string line) chunks = .ok (place ++ place) := by
  have hfound := either_of_parenthesised (parenthesised_twice hstring hline)
  have hrest := relocateSpelled_whole (labelledText_ne_nil _ _ _)
    (labelled_of_either (labelled_label hstring hline)) rfl (hnew _)
  rw [relocateOnce, twice, relocateSpelled_location (parenthesisedText_ne_nil _ _ _) hfound rfl, hnew,
    startsLine_parenthesisedText]
  exact Fallible.map_eq_ok.mpr ⟨place, hrest, rfl⟩

theorem first_pass_twice : relocateSpelled labelled chunks 0 true (twice string line) =
    .ok (parenthesisedText string line ['\n'] ++ place) := by
  have hpair := parenthesised_twice hstring hline
  have hfree : Free labelled true (parenthesisedText string line ['\n'])
      (labelledText [] string line) :=
    sound_either.free (either_of_parenthesised hpair) rfl (labelled_none_of_parenthesised hpair)
      fun text h => (either_eq_none.mp h).1
  have hrest := relocateSpelled_whole (labelledText_ne_nil _ _ _) (labelled_label hstring hline) rfl
    (hnew _)
  rw [twice, hfree.copy, startsLine_parenthesisedText]
  exact Fallible.map_eq_ok.mpr ⟨place, hrest, rfl⟩

-- The blanks that the place starts with go with the line feed in front of them.
theorem second_pass_twice (hfree : Free (parenthesised.known chunks) true place []) :
    relocateSpelled parenthesised chunks 0 true (parenthesisedText string line ['\n'] ++ place) =
      .ok (place ++ place.dropWhile isBlank) := by
  have hplace := List.takeWhile_append_dropWhile (p := isBlank) (l := place)
  have hfound := @parenthesised_pair _ _ hstring hline (place.takeWhile isBlank)
    (place.dropWhile isBlank) (fun c => List.mem_takeWhile_imp) (fun c => head?_dropWhile)
  have hsplit : parenthesisedText string line ['\n'] ++ place =
      parenthesisedText string line ('\n' :: place.takeWhile isBlank) ++ place.dropWhile isBlank := by
    simp [parenthesisedText, hplace]
  rw [← hplace] at hfree
  have hrest := hfree.of_append.copy_of_known sound_parenthesised
  rw [List.append_nil] at hrest
  rw [hsplit, relocateSpelled_location (parenthesisedText_ne_nil _ _ _) hfound rfl, hnew,
    startsLine_parenthesisedText]
  exact Fallible.map_eq_ok.mpr ⟨place.dropWhile isBlank, hrest.trans
    (congrArg Except.ok (List.append_nil _)), rfl⟩

end

section

variable (hsame : ∀ log, Legible true log → relocate log chunks = relocateOnce log chunks)
include hsame

theorem Told.pass_again {place tail : Text} (h : Told chunks place) (hfree : '\n' ∉ tail)
    (hahead : NoDigitAhead tail) :
    relocateSpelled parenthesised chunks 0 true (place ++ tail) = .ok (place ++ tail) := by
  obtain ⟨location, hshort, hstring, hline, hnew⟩ := h
  have hfound : labelled (labelledText [] location.string location.line ++ tail) =
      some ⟨location.string, location.line, (labelledText [] location.string location.line).length⟩ :=
    labelled_eq_some_iff.mpr ⟨[], tail, rfl, rfl, by simp, hstring, hline, hahead⟩
  have hlog : '\n' ∉ labelledText [] location.string location.line ++ tail := by
    simp [labelledText_eq, newline_not_mem_digits hstring, newline_not_mem_digits hline, hfree]
  have hne := labelledText_ne_nil [] location.string location.line
  have hlegible : Legible true (labelledText [] location.string location.line ++ tail) := by
    rw [Legible, lineTails_last (List.append_ne_nil_of_left_ne_nil hne tail) hlog]
    refine List.forall_mem_cons.mpr ⟨fun found hback => ?_, List.forall_mem_nil _⟩
    rw [labelled_of_either hfound] at hback
    cases hback
    exact hshort
  have hfirst : relocateSpelled labelled chunks 0 true
      (labelledText [] location.string location.line ++ tail) = .ok (place ++ tail) :=
    relocateSpelled_of_some hne hlog hfound rfl hnew
  have honce : relocateOnce (labelledText [] location.string location.line ++ tail) chunks =
      .ok (place ++ tail) :=
    relocateSpelled_of_some hne hlog (labelled_of_either hfound) rfl hnew
  have h := hsame _ hlegible
  rw [honce, relocate, hfirst] at h
  exact h

-- A place that is a number pair of the string it is told for would take the blank behind it.
theorem Told.not_of_own {place : Text} (h : Told chunks place) {location : Location}
    (hnew : replacement? chunks location = .ok (some place)) :
    parenthesised place ≠ some location := by
  intro hfound
  obtain ⟨written, rest, rfl, hne, hlength⟩ := sound_parenthesised.exists_written hfound
  have hagain := h.pass_again hsame List.not_mem_nil (by rintro c ⟨⟩)
  rw [List.append_nil, relocateSpelled_location hne hfound hlength, hnew] at hagain
  obtain ⟨out, hout, heq⟩ := Fallible.map_eq_ok.mp hagain
  have hrest : rest = [] := by
    by_contra hrest
    rw [List.append_right_eq_self.mp heq] at hout
    exact relocateSpelled_ne_nil sound_parenthesised hrest hout
  rw [hrest, List.append_nil] at h hnew hfound
  obtain ⟨blanks, hwritten, hblanks, hstring, hline, -⟩ :=
    parenthesised_written (by rwa [List.append_nil]) hlength
  have hblank : parenthesised (written ++ [' ']) =
      some ⟨location.string, location.line, (written ++ [' ']).length⟩ := by
    refine parenthesised_eq_some_iff.mpr ⟨blanks ++ [' '], [], ?_, ?_, ?_, hstring, hline, ?_⟩
    · simp [hwritten, parenthesisedText]
    · simp [hwritten, parenthesisedText]
    · intro c hc
      rcases List.mem_append.mp hc with hc | hc
      · exact hblanks c hc
      · rw [List.mem_singleton.mp hc]
        decide
    · rintro c ⟨⟩
  have htaken : relocateSpelled parenthesised chunks 0 true (written ++ [' ']) = .ok written :=
    relocateSpelled_whole (by simp) hblank rfl ((replacement?_congr rfl rfl).trans hnew)
  have hkept := h.pass_again hsame (show '\n' ∉ [' '] by decide) (by rintro c ⟨⟩; decide)
  rw [htaken, Except.ok.injEq] at hkept
  simp at hkept

theorem Told.noKnown {place : Text} (h : Told chunks place) :
    Free (parenthesised.known chunks) true place [] := by
  by_contra hnot
  obtain ⟨front, back, location, rfl, hstart, hfound, hfree⟩ := exists_first hnot
  obtain ⟨hfound, hknown⟩ := known_eq_some_iff.mp hfound
  have hagain := h.pass_again hsame List.not_mem_nil (by rintro c ⟨⟩)
  rw [List.append_nil, hfree.copy_of_known sound_parenthesised, hstart] at hagain
  obtain ⟨out, hout, heq⟩ := Fallible.map_eq_ok.mp hagain
  rw [List.append_cancel_left heq] at hout
  obtain ⟨written, rest, rfl, hne, hlength⟩ := sound_parenthesised.exists_written hfound
  rw [relocateSpelled_location hne hfound hlength] at hout
  obtain ⟨new, hnew, hout⟩ := Fallible.bind_eq_ok.mp hout
  obtain ⟨behind, -, hback⟩ := Fallible.map_eq_ok.mp hout
  cases new with
  | none => exact hknown hnew
  | some place =>
    obtain ⟨hstring, hline, hstarts⟩ := prefix_of_parenthesised hfound
    obtain ⟨hshort, chunk, -, n, shown, -, hplace⟩ := exists_of_replacement? hnew
    rw [← hback, Option.getD_some] at hstarts
    have hown := prefix_of_close hstring hline (by simp [hplace]) hstarts
    obtain ⟨own, hown, hstring', hline'⟩ := parenthesised_of_prefix hstring hline hown
    have htold : Told chunks place := ⟨location, hshort, hstring, hline, hnew⟩
    exact htold.not_of_own hsame ((replacement?_congr hstring' hline').trans hnew) hown

theorem Told.noBlank {place : Text} (h : Told chunks place) : NoBlankAhead place := by
  have hnoKnown := h.noKnown hsame
  obtain ⟨location, hshort, hstring, hline, hnew⟩ := h
  have hreplaced (n : Nat) : replacement? chunks ⟨location.string, location.line, n⟩ =
      .ok (some place) := (replacement?_congr rfl rfl).trans hnew
  have hboth := hsame _ (legible_twice hstring hline hshort)
  rw [relocateOnce_twice hstring hline hreplaced, relocate,
    first_pass_twice hstring hline hreplaced] at hboth
  have hsecond := second_pass_twice hstring hline hreplaced hnoKnown
  have hplace := List.append_cancel_left (Except.ok.inj (hsecond.symm.trans hboth))
  rw [← hplace]
  exact fun c => head?_dropWhile

end

theorem relocate_eq_relocateOnce_iff :
    (∀ log, Legible true log → relocate log chunks = relocateOnce log chunks) ↔
      ∀ place, Told chunks place → Settled chunks place := by
  constructor
  · intro hsame place hplace
    exact ⟨hplace.noBlank hsame, hplace.noKnown hsame⟩
  · intro hsettled log hlegible
    exact relocate_eq_relocateOnce hsettled hlegible

theorem Legible.of_length {atStart : Bool} {log : Text} (h : log.length ≤ maxDigits) :
    Legible atStart log := by
  intro back hback location hfound
  obtain ⟨-, front, rfl, -⟩ := mem_lineTails_iff.mp hback
  rw [List.length_append] at h
  rcases either_eq_some hfound with hlabelled | hnumbers
  · obtain ⟨blanks, rest, rfl, -⟩ := labelled_eq_some_iff.mp hlabelled
    rw [List.length_append, length_labelledText] at h
    constructor <;> omega
  · obtain ⟨blanks, rest, rfl, -⟩ := parenthesised_eq_some_iff.mp hnumbers
    rw [List.length_append, length_parenthesisedText] at h
    constructor <;> omega

def numberedFile : List (Chunk Unit) := [⟨"x\n".toList, "1", 10, ()⟩]

theorem exists_relocate_ne_relocateOnce :
    Legible true "ERROR: 1:5: undeclared".toList ∧
      relocate "ERROR: 1:5: undeclared".toList numberedFile = .ok "1(23): undeclared".toList ∧
      relocateOnce "ERROR: 1:5: undeclared".toList numberedFile = .ok "1(14): undeclared".toList :=
  ⟨Legible.of_length (by decide), by decide +kernel, by decide +kernel⟩

structure PlainName (file : Text) : Prop where
  noBlank : NoBlankAhead file
  noDigit : ∀ tail ∈ lineTails true file, NoDigitAhead tail

theorem PlainName.free {file shown : Text} (h : PlainName file) (hshown : '\n' ∉ shown) :
    Free parenthesised true (file ++ '(' :: shown) [] := by
  intro tail htail
  rw [List.append_nil]
  apply parenthesised_eq_none
  rw [lineTails_append] at htail
  rcases List.mem_append.mp htail with hname | hline
  · obtain ⟨rest, hrest, rfl⟩ := List.mem_map.mp hname
    obtain ⟨c, rest, rfl⟩ := List.exists_cons_of_ne_nil (mem_lineTails_iff.mp hrest).1
    rintro d ⟨⟩
    exact h.noDigit _ hrest c rfl
  · have hinside := lineTails_inside hshown []
    rw [List.append_nil] at hinside
    rw [lineTails, decide_eq_false (by decide), hinside, lineTails, List.append_nil] at hline
    split at hline
    · rw [List.mem_singleton.mp hline]
      rintro c ⟨⟩
      decide
    · cases hline

-- Ordinary file names meet the condition: no part of what is written for a location is read again.
theorem PlainName.settled {place : Text} (h : ∀ chunk ∈ chunks, PlainName chunk.file.toList)
    (hplace : Told chunks place) : Settled chunks place := by
  obtain ⟨location, -, -, -, hnew⟩ := hplace
  obtain ⟨-, chunk, hmem, n, shown, hshown, rfl⟩ := exists_of_replacement? hnew
  have hplain := h chunk hmem
  have hshown' : '\n' ∉ shown ++ [')'] := by simp [newline_not_mem_of_writeInt hshown]
  constructor
  · rintro c hc
    cases hfile : chunk.file.toList with
    | nil =>
      rw [hfile] at hc
      cases hc
      decide
    | cons d file =>
      rw [hfile] at hc
      cases hc
      exact hplain.noBlank c (by rw [hfile]; rfl)
  · rw [List.append_assoc, List.cons_append]
    exact (hplain.free hshown').mono fun _ => known_of_none

end ShaderSources.Compile
