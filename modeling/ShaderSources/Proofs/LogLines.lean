import ShaderSources.Proofs.LogTails

namespace ShaderSources.Compile

open Text Numeral

variable {Context : Type} {chunks : List (Chunk Context)} {spelling : Spelling}

theorem free_of_noDigit {text : Text} (h : ∀ c ∈ text, isDigit c = false) (atStart : Bool) :
    Free either atStart text [] := by
  intro back hback
  obtain ⟨-, front, rfl, -⟩ := mem_lineTails_iff.mp hback
  rw [List.append_nil, either_eq_none]
  constructor
  · rw [Option.eq_none_iff_forall_ne_some]
    intro location hfound
    obtain ⟨blanks, rest, rfl, -, -, hstring, -⟩ := labelled_eq_some_iff.mp hfound
    obtain ⟨d, hd⟩ := List.exists_mem_of_ne_nil _ hstring.ne_nil
    have hdigit := h d (by simp [labelledText_eq, hd])
    rw [hstring.all d hd] at hdigit
    cases hdigit
  · apply parenthesised_eq_none
    intro c hc
    exact h c (List.mem_append_right _ (List.mem_of_mem_head? hc))

/-- Two texts with a labelled location across the line feed between them, as the first pass leaves them:
the label of the location ends the first text, its numbers start the second, and a place stands for
both where the two texts are one. -/
structure Bridge where
  before : Text
  label : Text
  numbers : Text
  behind : Text
  place : Text
  before_ends : startsLine true before = true
  label_head : label.head? = some 'E'
  label_noDigit : ∀ c ∈ label, isDigit c = false
  numbers_free : Free parenthesised true numbers behind
  numbers_ends : startsLine true numbers = false
  place_noNewline : '\n' ∉ place
  place_ne_nil : place ≠ []

namespace Bridge

variable (bridge : Bridge)

def left : Text := bridge.before ++ bridge.label

def right : Text := bridge.numbers ++ bridge.behind

def joined : Text := bridge.before ++ (bridge.place ++ bridge.behind)

theorem label_free : Free parenthesised true bridge.label [] :=
  (free_of_noDigit bridge.label_noDigit true).of_either.2

theorem before_untouched : Untouched parenthesised true bridge.before bridge.label :=
  forward_parenthesised.untouched_of_word bridge.before_ends bridge.label_head (by decide) (by decide)

theorem replaceable (h : Replaceable chunks parenthesised true bridge.joined) :
    Replaceable chunks parenthesised true bridge.left ∧
      Replaceable chunks parenthesised true bridge.right := by
  have hbefore := (parenthesised_keeps _).replaceable h
  have hbehind := (replaceable_append.mp (replaceable_append.mp h).2).2
  constructor
  · rw [left, bridge.before_untouched.replaceable_iff, bridge.before_ends, ← List.append_nil bridge.label,
      bridge.label_free.replaceable_iff]
    exact ⟨hbefore, nofun⟩
  · rw [right, bridge.numbers_free.replaceable_iff, bridge.numbers_ends]
    rwa [bridge.before_ends, startsLine_of_newline_not_mem bridge.place_ne_nil bridge.place_noNewline]
      at hbehind

section

variable (chunks)

theorem lost_left : (parenthesised.known chunks).lost true bridge.left =
    (parenthesised.known chunks).lost true bridge.before := by
  have hlabel := (bridge.label_free.mono fun _ => @known_of_none _ _ chunks _).lost
  rw [List.append_nil] at hlabel
  rw [left, bridge.before_untouched.known.lost sound_parenthesised.known, bridge.before_ends, hlabel]
  rfl

theorem lost_right : (parenthesised.known chunks).lost true bridge.right =
    (parenthesised.known chunks).lost false bridge.behind := by
  rw [right, (bridge.numbers_free.mono fun _ => known_of_none).lost, bridge.numbers_ends]

theorem lost_joined_ge : (parenthesised.known chunks).lost true bridge.before +
    (parenthesised.known chunks).lost false bridge.behind ≤
      (parenthesised.known chunks).lost true bridge.joined := by
  have hkeeps : (parenthesised.known chunks).Keeps (bridge.place ++ bridge.behind) :=
    (parenthesised_keeps _).known
  have hbefore := hkeeps.lost_le true bridge.before
  have hplace := @lost_append (parenthesised.known chunks) true bridge.place bridge.behind
  rw [startsLine_of_newline_not_mem bridge.place_ne_nil bridge.place_noNewline] at hplace
  rw [bridge.before_ends, hplace] at hbefore
  rw [joined]
  omega

end

theorem count_le (hfiles : ∀ chunk ∈ chunks, '\n' ∉ chunk.file.toList) {first second out : Text}
    (hfirst : relocateSpelled parenthesised chunks 0 true bridge.left = .ok first)
    (hsecond : relocateSpelled parenthesised chunks 0 true bridge.right = .ok second)
    (hout : relocateSpelled parenthesised chunks 0 true bridge.joined = .ok out) :
    out.count '\n' ≤ first.count '\n' + second.count '\n' := by
  have hfirst := count_relocateSpelled sound_parenthesised hfiles hfirst
  have hsecond := count_relocateSpelled sound_parenthesised hfiles hsecond
  have hout := count_relocateSpelled sound_parenthesised hfiles hout
  have hlost := bridge.lost_joined_ge chunks
  have hplace := List.count_eq_zero.mpr bridge.place_noNewline
  rw [bridge.lost_left, left, List.count_append] at hfirst
  rw [bridge.lost_right, right, List.count_append] at hsecond
  rw [joined] at hout hlost
  rw [List.count_append, List.count_append] at hout
  omega

end Bridge

theorem place_ne_nil_of_replacement? {location : Location} {place : Text}
    (h : replacement? chunks location = .ok (some place)) : place ≠ [] := by
  obtain ⟨-, chunk, -, n, shown, -, rfl⟩ := exists_of_replacement? h
  simp

-- A labelled location ends within a line, and so does a place.
theorem startsLine_of_first_pass (hfiles : ∀ chunk ∈ chunks, '\n' ∉ chunk.file.toList)
    {atStart : Bool} {text out : Text}
    (h : relocateSpelled labelled chunks 0 atStart text = .ok out) :
    startsLine atStart out = startsLine atStart text := by
  induction atStart, text using sound_labelled.induction generalizing out with
  | nil atStart =>
    cases h
    rfl
  | char atStart c text hnone ih =>
    rw [relocateSpelled_char hnone] at h
    obtain ⟨rest, hrest, rfl⟩ := Fallible.map_eq_ok.mp h
    exact ih hrest
  | location written rest location hne hfound hlength ih =>
    rw [relocateSpelled_location hne hfound hlength] at h
    obtain ⟨new, hnew, h⟩ := Fallible.bind_eq_ok.mp h
    obtain ⟨behind, hbehind, rfl⟩ := Fallible.map_eq_ok.mp h
    rw [startsLine_append, startsLine_append, ← ih hbehind]
    cases new with
    | none => rfl
    | some place =>
      rw [startsLine_labelled hfound hlength, Option.getD_some,
        startsLine_of_newline_not_mem (place_ne_nil_of_replacement? hnew)
          (newline_not_mem_of_replacement? hfiles hnew)]

structure Across (label numbers rest : Text) (location : Location) : Prop where
  found : labelled ((label ++ '\n' :: numbers) ++ rest) = some location
  length_eq : location.length = (label ++ '\n' :: numbers).length

theorem exists_across {label next : Text} {location : Location}
    (h : labelled (label ++ '\n' :: next) = some location) (hlt : label.length < location.length) :
    ∃ numbers rest, next = numbers ++ rest ∧ Across label numbers rest location := by
  obtain ⟨written, rest, hsplit, -, hlength⟩ := sound_labelled.exists_written h
  obtain ⟨more, rfl, hmore⟩ := exists_append_of_length_le hsplit.symm (by omega)
  cases more with
  | nil =>
    rw [List.append_nil] at hlength
    omega
  | cons c more =>
    cases hmore
    exact ⟨more, rest, rfl, hsplit ▸ h, hlength⟩

namespace Across

variable {label numbers rest : Text} {location : Location} (h : Across label numbers rest location)
include h

theorem exists_blanks : ∃ blanks, label = "ERROR:".toList ++ blanks ∧ ∀ c ∈ blanks, isBlank c = true := by
  have hfound := h.found
  have hlength := h.length_eq
  rw [List.append_assoc, List.cons_append] at hfound
  rw [List.length_append, List.length_cons] at hlength
  obtain ⟨blanks, -, -, hlabel, -, hblanks, -⟩ := exists_blanks_of_labelled hfound (by omega)
  exact ⟨blanks, hlabel, hblanks⟩

theorem label_head : label.head? = some 'E' := by
  obtain ⟨blanks, rfl, -⟩ := h.exists_blanks
  rfl

theorem label_noDigit : ∀ c ∈ label, isDigit c = false := by
  obtain ⟨blanks, rfl, hblanks⟩ := h.exists_blanks
  have hword : ("ERROR:".toList.all fun c => !isDigit c) = true := by decide
  exact List.forall_mem_append.mpr
    ⟨by simpa using hword, fun c hc => isDigit_of_isBlank (hblanks c hc)⟩

theorem numbers_ends : startsLine true numbers = false := by
  have hends := startsLine_labelled h.found h.length_eq
  rwa [startsLine_append] at hends

theorem numbers_free : Free either true numbers rest := by
  obtain ⟨blanks, rfl, -⟩ := h.exists_blanks
  have hfound := labelled_of_either h.found
  have hlength := h.length_eq
  have hsplit : "ERROR:".toList ++ blanks ++ '\n' :: numbers =
      'E' :: (("RROR:".toList ++ blanks ++ ['\n']) ++ numbers) := by simp
  rw [hsplit] at hfound hlength
  have hfree : Free either _ (("RROR:".toList ++ blanks ++ ['\n']) ++ numbers) rest :=
    sound_either.free_behind hfound hlength fun _ => id
  have hstart := startsLine_concat ('E' = '\n') ("RROR:".toList ++ blanks) '\n'
  have hbehind := hfree.of_append
  rwa [hstart] at hbehind

theorem again {other : Text} (hother : NoDigitAhead other) : Across label numbers other location :=
  ⟨labelled_again h.found h.length_eq hother, h.length_eq⟩

theorem rest_noDigit : NoDigitAhead rest := by
  obtain ⟨-, -, -, -, -, hrest⟩ := labelled_written h.found h.length_eq
  exact hrest

end Across

-- The first pass over two texts with such a location between them, as one and one by one.
theorem exists_bridge (hfiles : ∀ chunk ∈ chunks, '\n' ∉ chunk.file.toList) {a b out : Text}
    (hover : RunsOver (labelled.known chunks) true a b)
    (h : relocateSpelled labelled chunks 0 true (a ++ '\n' :: b) = .ok out) :
    ∃ bridge : Bridge, relocateSpelled labelled chunks 0 true a = .ok bridge.left ∧
      relocateSpelled labelled chunks 0 true b = .ok bridge.right ∧ out = bridge.joined := by
  obtain ⟨label, hlabel, location, hreplaced, hlt⟩ := hover
  obtain ⟨-, front, rfl, hstart⟩ := mem_lineTails_iff.mp hlabel
  obtain ⟨hfound, hknown⟩ := known_eq_some_iff.mp hreplaced
  obtain ⟨numbers, rest, rfl, hacross⟩ := exists_across hfound hlt
  have hbefore {behind : Text} (hbehind : behind.head? = some 'E') :=
    @relocateSpelled_append _ chunks labelled sound_labelled true front behind
      (forward_labelled.untouched_of_word hstart hbehind (by decide) (by decide))
  have hsplit : front ++ label ++ '\n' :: (numbers ++ rest) =
      front ++ (label ++ '\n' :: numbers ++ rest) := by simp
  rw [hsplit, hbefore (by simp [hacross.label_head]), hstart,
    relocateSpelled_location (by simp) hacross.found hacross.length_eq,
    startsLine_labelled hacross.found hacross.length_eq] at h
  obtain ⟨before, hfront, h⟩ := Fallible.bind_eq_ok.mp h
  obtain ⟨there, hthere, rfl⟩ := Fallible.map_eq_ok.mp h
  obtain ⟨new, hnew, hthere⟩ := Fallible.bind_eq_ok.mp hthere
  obtain ⟨behind, hbehind, rfl⟩ := Fallible.map_eq_ok.mp hthere
  cases new with
  | none => exact absurd hnew hknown
  | some place =>
    have hagain := hacross.again (noDigitAhead_of_pass hbehind hacross.rest_noDigit)
    let bridge : Bridge := {
      before := before
      label := label
      numbers := numbers
      behind := behind
      place := place
      before_ends := startsLine_of_first_pass hfiles hfront ▸ hstart
      label_head := hacross.label_head
      label_noDigit := hacross.label_noDigit
      numbers_free := hagain.numbers_free.of_either.2
      numbers_ends := hacross.numbers_ends
      place_noNewline := newline_not_mem_of_replacement? hfiles hnew
      place_ne_nil := place_ne_nil_of_replacement? hnew }
    refine ⟨bridge, ?_, ?_, rfl⟩
    · have hcopy := @Free.copy _ _ chunks _ _ _
        (free_of_noDigit hacross.label_noDigit true).of_either.1
      rw [List.append_nil] at hcopy
      rw [hbefore hacross.label_head, hstart, hfront, hcopy, relocateSpelled]
      exact congrArg (fun text => Except.ok (before ++ text)) (List.append_nil label)
    · rw [hacross.numbers_free.of_either.1.copy, hacross.numbers_ends, hbehind]
      rfl

structure Rewritten (chunks : List (Chunk Context)) (log between out : Text) : Prop where
  first : relocateSpelled labelled chunks 0 true log = .ok between
  second : relocateSpelled parenthesised chunks 0 true between = .ok out

theorem relocate_eq_ok_iff {log out : Text} :
    relocate log chunks = .ok out ↔ ∃ between, Rewritten chunks log between out := by
  rw [relocate, Fallible.bind_eq_ok]
  exact exists_congr fun between => ⟨fun h => ⟨h.1, h.2⟩, fun h => ⟨h.first, h.second⟩⟩

def LineByLine (chunks : List (Chunk Context)) (a b : Text) : Prop :=
  ∀ out, relocate (a ++ '\n' :: b) chunks = .ok out ↔ ∃ outA outB,
    relocate a chunks = .ok outA ∧ relocate b chunks = .ok outB ∧ out = outA ++ '\n' :: outB

/-- Two logs can be rewritten, but in one of the passes a location that is replaced runs over the line feed
between them. -/
def Straddles (chunks : List (Chunk Context)) (a b : Text) : Prop :=
  ∃ betweenA outA betweenB outB, Rewritten chunks a betweenA outA ∧ Rewritten chunks b betweenB outB ∧
    (RunsOver (labelled.known chunks) true a b ∨
      RunsOver (parenthesised.known chunks) true betweenA betweenB)

variable {a b betweenA betweenB outA outB : Text}

theorem pass_lines (h : spelling.Forward) (hover : ¬ RunsOver (spelling.known chunks) true a b)
    (ha : relocateSpelled spelling chunks 0 true a = .ok outA)
    (hb : relocateSpelled spelling chunks 0 true b = .ok outB) :
    relocateSpelled spelling chunks 0 true (a ++ '\n' :: b) = .ok (outA ++ '\n' :: outB) := by
  rw [← relocateSpelled_known h.toSound] at ha hb ⊢
  rw [relocateSpelled_lines h.known hover, ha, hb]
  rfl

theorem Rewritten.lines (ha : Rewritten chunks a betweenA outA) (hb : Rewritten chunks b betweenB outB)
    (hfirst : ¬ RunsOver (labelled.known chunks) true a b)
    (hsecond : ¬ RunsOver (parenthesised.known chunks) true betweenA betweenB) :
    Rewritten chunks (a ++ '\n' :: b) (betweenA ++ '\n' :: betweenB) (outA ++ '\n' :: outB) where
  first := pass_lines forward_labelled hfirst ha.first hb.first
  second := pass_lines forward_parenthesised hsecond ha.second hb.second

theorem Replaceable.lines (h : spelling.Forward)
    (hboth : Replaceable chunks spelling true (a ++ '\n' :: b)) :
    Replaceable chunks spelling true a ∧ Replaceable chunks spelling true b := by
  have hkeeps : spelling.Keeps ('\n' :: b) := h.keeps (by rintro c ⟨⟩; decide)
  refine ⟨hkeeps.replaceable hboth, ?_⟩
  have hbehind := (replaceable_append.mp hboth).2
  exact (@replaceable_append _ _ _ _ ['\n'] _).mp hbehind |>.2

-- The lines of a log stay as many exactly when no pass takes a line feed away.
theorem Rewritten.count_eq_iff (hfiles : ∀ chunk ∈ chunks, '\n' ∉ chunk.file.toList)
    {log between out : Text} (h : Rewritten chunks log between out) :
    out.count '\n' = log.count '\n' ↔ (labelled.known chunks).lost true log = 0 ∧
      (parenthesised.known chunks).lost true between = 0 := by
  have hfirst := count_relocateSpelled sound_labelled hfiles h.first
  have hsecond := count_relocateSpelled sound_parenthesised hfiles h.second
  omega

-- Where the two logs can be rewritten as one they can be rewritten one by one.
theorem Rewritten.parts (hfiles : ∀ chunk ∈ chunks, '\n' ∉ chunk.file.toList) {between out : Text}
    (h : Rewritten chunks (a ++ '\n' :: b) between out) : ∃ betweenA outA betweenB outB,
      Rewritten chunks a betweenA outA ∧ Rewritten chunks b betweenB outB := by
  have hsecond := sound_parenthesised.exists_ok_iff.mp ⟨out, h.second⟩
  by_cases hover : RunsOver (labelled.known chunks) true a b
  · obtain ⟨bridge, ha, hb, rfl⟩ := exists_bridge hfiles hover h.first
    obtain ⟨hleft, hright⟩ := bridge.replaceable hsecond
    obtain ⟨outA, houtA⟩ := sound_parenthesised.exists_ok_iff.mpr hleft
    obtain ⟨outB, houtB⟩ := sound_parenthesised.exists_ok_iff.mpr hright
    exact ⟨_, outA, _, outB, ⟨ha, houtA⟩, hb, houtB⟩
  · obtain ⟨hfirstA, hfirstB⟩ :=
      (sound_labelled.exists_ok_iff.mp ⟨between, h.first⟩).lines forward_labelled
    obtain ⟨betweenA, ha⟩ := sound_labelled.exists_ok_iff.mpr hfirstA
    obtain ⟨betweenB, hb⟩ := sound_labelled.exists_ok_iff.mpr hfirstB
    obtain rfl := Except.ok.inj (h.first.symm.trans (pass_lines forward_labelled hover ha hb))
    obtain ⟨hsecondA, hsecondB⟩ := hsecond.lines forward_parenthesised
    obtain ⟨outA, houtA⟩ := sound_parenthesised.exists_ok_iff.mpr hsecondA
    obtain ⟨outB, houtB⟩ := sound_parenthesised.exists_ok_iff.mpr hsecondB
    exact ⟨betweenA, outA, betweenB, outB, ⟨ha, houtA⟩, hb, houtB⟩

-- A location across the line feed takes it away for good.
theorem Rewritten.count_le (hfiles : ∀ chunk ∈ chunks, '\n' ∉ chunk.file.toList)
    (ha : Rewritten chunks a betweenA outA) (hb : Rewritten chunks b betweenB outB)
    (hover : RunsOver (labelled.known chunks) true a b ∨
      RunsOver (parenthesised.known chunks) true betweenA betweenB) {between out : Text}
    (h : Rewritten chunks (a ++ '\n' :: b) between out) :
    out.count '\n' ≤ outA.count '\n' + outB.count '\n' := by
  by_cases hfirst : RunsOver (labelled.known chunks) true a b
  · obtain ⟨bridge, hleft, hright, rfl⟩ := exists_bridge hfiles hfirst h.first
    obtain rfl := Except.ok.inj (hleft.symm.trans ha.first)
    obtain rfl := Except.ok.inj (hright.symm.trans hb.first)
    exact bridge.count_le hfiles ha.second hb.second h.second
  · obtain rfl := Except.ok.inj (h.first.symm.trans (pass_lines forward_labelled hfirst ha.first hb.first))
    have hlost := (hover.resolve_left hfirst).lost_lt forward_parenthesised.known
    have hA := count_relocateSpelled sound_parenthesised hfiles ha.second
    have hB := count_relocateSpelled sound_parenthesised hfiles hb.second
    have hboth := count_relocateSpelled sound_parenthesised hfiles h.second
    rw [List.count_append, List.count_cons_self] at hboth
    omega

theorem lineByLine_iff_not_straddles (hfiles : ∀ chunk ∈ chunks, '\n' ∉ chunk.file.toList) :
    LineByLine chunks a b ↔ ¬ Straddles chunks a b := by
  constructor
  · rintro hlines ⟨betweenA, outA, betweenB, outB, ha, hb, hover⟩
    have hboth := (hlines (outA ++ '\n' :: outB)).mpr ⟨outA, outB, relocate_eq_ok_iff.mpr ⟨_, ha⟩,
      relocate_eq_ok_iff.mpr ⟨_, hb⟩, rfl⟩
    obtain ⟨between, hboth⟩ := relocate_eq_ok_iff.mp hboth
    have hcount := Rewritten.count_le hfiles ha hb hover hboth
    rw [List.count_append, List.count_cons_self] at hcount
    omega
  · intro hnot out
    have hlines {betweenA outA betweenB outB : Text} (ha : Rewritten chunks a betweenA outA)
        (hb : Rewritten chunks b betweenB outB) :
        relocate (a ++ '\n' :: b) chunks = .ok (outA ++ '\n' :: outB) :=
      relocate_eq_ok_iff.mpr ⟨_, ha.lines hb (fun h => hnot ⟨_, _, _, _, ha, hb, .inl h⟩)
        fun h => hnot ⟨_, _, _, _, ha, hb, .inr h⟩⟩
    constructor
    · intro h
      obtain ⟨between, hboth⟩ := relocate_eq_ok_iff.mp h
      obtain ⟨betweenA, outA, betweenB, outB, ha, hb⟩ := hboth.parts hfiles
      exact ⟨outA, outB, relocate_eq_ok_iff.mpr ⟨_, ha⟩, relocate_eq_ok_iff.mpr ⟨_, hb⟩,
        Except.ok.inj (h.symm.trans (hlines ha hb))⟩
    · rintro ⟨outA, outB, ha, hb, rfl⟩
      obtain ⟨betweenA, ha⟩ := relocate_eq_ok_iff.mp ha
      obtain ⟨betweenB, hb⟩ := relocate_eq_ok_iff.mp hb
      exact hlines ha hb

theorem lineByLine_iff (hfiles : ∀ chunk ∈ chunks, '\n' ∉ chunk.file.toList) :
    (∀ a b, LineByLine chunks a b ↔ ¬ Straddles chunks a b) ∧
      ∀ log between out, Rewritten chunks log between out →
        (out.count '\n' = log.count '\n' ↔ (labelled.known chunks).lost true log = 0 ∧
          (parenthesised.known chunks).lost true between = 0) :=
  ⟨fun _ _ => lineByLine_iff_not_straddles hfiles, fun _ _ _ h => h.count_eq_iff hfiles⟩

def namedFile : List (Chunk Unit) := [⟨"x\n".toList, "main.frag", 1, ()⟩]

theorem lineByLine_namedFile : (∀ chunk ∈ namedFile, '\n' ∉ chunk.file.toList) ∧
    LineByLine namedFile "ERROR: 1:5: bad".toList "1(6): worse".toList := by
  refine ⟨by decide, ((lineByLine_iff (by decide)).1 _ _).mpr ?_⟩
  rintro ⟨betweenA, outA, betweenB, outB, ha, hb, hover | hover⟩
  · exact absurd hover (by decide +kernel)
  · have hfirstA : relocateSpelled labelled namedFile 0 true "ERROR: 1:5: bad".toList =
        .ok "main.frag(5): bad".toList := by decide +kernel
    have hfirstB : relocateSpelled labelled namedFile 0 true "1(6): worse".toList =
        .ok "1(6): worse".toList := by decide +kernel
    obtain rfl := Except.ok.inj (ha.first.symm.trans hfirstA)
    obtain rfl := Except.ok.inj (hb.first.symm.trans hfirstB)
    exact absurd hover (by decide +kernel)

theorem exists_not_lineByLine :
    relocate "1(5)\nnote".toList namedFile = .ok "main.frag(5)note".toList ∧
      relocate "1(5)".toList namedFile = .ok "main.frag(5)".toList ∧
      relocate "note".toList namedFile = .ok "note".toList ∧
      ¬ LineByLine namedFile "1(5)".toList "note".toList := by
  have hboth : relocate "1(5)\nnote".toList namedFile = .ok "main.frag(5)note".toList := by
    decide +kernel
  have hfirst : relocate "1(5)".toList namedFile = .ok "main.frag(5)".toList := by decide +kernel
  have hsecond : relocate "note".toList namedFile = .ok "note".toList := by decide +kernel
  refine ⟨hboth, hfirst, hsecond, fun hlines => ?_⟩
  have hapart := (hlines _).mpr ⟨_, _, hfirst, hsecond, rfl⟩
  have hsame := hboth.symm.trans hapart
  revert hsame
  decide

end ShaderSources.Compile
