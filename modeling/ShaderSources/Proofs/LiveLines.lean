import Mathlib.Tactic.SplitIfs
import ShaderSources.Source.Passage

namespace ShaderSources.Source

def carryFrom (carry : Carry) (number : Nat) : List Text → Carry
  | [] => carry
  | text :: texts =>
    carryFrom (carry.next (Text.lineBody text) (readBody carry number (Text.lineBody text)))
      (number + 1) texts

def carryAfter (before : List Text) : Carry := carryFrom .start 1 before

def readingAfter (before : List Text) (text : Text) : Reading :=
  readBody (carryAfter before) (before.length + 1) (Text.lineBody text)

/-- An include line that is followed: it starts outside a block comment, does not continue a line
that ends in a backslash, does not end in one, and reads as an include line. -/
structure Live (before : List Text) (text : Text) (d : Directive) : Prop where
  outside : (carryAfter before).inComment = false
  fresh : ∀ last, before.getLast? = some last → Text.endsWith (Text.lineBody last) '\\' = false
  whole : Text.endsWith (Text.lineBody text) '\\' = false
  reads : Reading.ofBody (before.length + 1) (Text.lineBody text) = .directive d

def LiveAt (lines : List Text) (k : Nat) (d : Directive) : Prop :=
  ∃ before text after, lines = before ++ text :: after ∧ k = before.length + 1 ∧ Live before text d

structure Broken (before : List Text) (text : Text) (m : Malformed) : Prop where
  outside : (carryAfter before).inComment = false
  fresh : ∀ last, before.getLast? = some last → Text.endsWith (Text.lineBody last) '\\' = false
  whole : Text.endsWith (Text.lineBody text) '\\' = false
  reads : Reading.ofBody (before.length + 1) (Text.lineBody text) = .malformed m

def BrokenAt (lines : List Text) (k : Nat) (m : Malformed) : Prop :=
  ∃ before text after, lines = before ++ text :: after ∧ k = before.length + 1 ∧ Broken before text m

theorem carryFrom_append (carry : Carry) (number : Nat) (front back : List Text) :
    carryFrom carry number (front ++ back) =
      carryFrom (carryFrom carry number front) (number + front.length) back := by
  induction front generalizing carry number with
  | nil => rfl
  | cons text front ih => simp [carryFrom, ih, Nat.add_assoc, Nat.add_comm 1]

theorem carryAfter_append (before : List Text) (text : Text) :
    carryAfter (before ++ [text]) =
      (carryAfter before).next (Text.lineBody text) (readingAfter before text) := by
  rw [carryAfter, carryFrom_append, Nat.add_comm 1]
  rfl

theorem readBody_eq_iff {carry : Carry} {number : Nat} {body : Text} {r : Reading}
    (hr : r ≠ .ordinary) :
    readBody carry number body = r ↔
      carry.inComment = false ∧ carry.continued = false ∧ Text.endsWith body '\\' = false ∧
        Reading.ofBody number body = r := by
  unfold readBody
  split
  · rename_i h
    simp only [Bool.or_eq_true] at h
    constructor
    · intro hd
      exact absurd hd.symm hr
    · rintro ⟨hc, hk, he, -⟩
      simp [hc, hk, he] at h
  · rename_i h
    simp only [Bool.or_eq_true, not_or, Bool.not_eq_true] at h
    simp [h]

theorem continued_carryAfter (before : List Text) :
    (carryAfter before).continued = true ↔
      ∃ last, before.getLast? = some last ∧ Text.endsWith (Text.lineBody last) '\\' = true := by
  rcases List.eq_nil_or_concat before with rfl | ⟨front, last, rfl⟩
  · simp [carryAfter, carryFrom, Carry.start]
  · rw [List.concat_eq_append, carryAfter_append]
    simp only [List.getLast?_concat, Option.some.injEq, exists_eq_left']
    cases h : readingAfter front last with
    | ordinary => rfl
    | malformed m => rfl
    | directive d =>
      have hwhole := ((readBody_eq_iff (r := .directive d) nofun).mp h).2.2.1
      simp [Carry.next, hwhole]

theorem not_continued_carryAfter (before : List Text) :
    (carryAfter before).continued = false ↔
      ∀ last, before.getLast? = some last → Text.endsWith (Text.lineBody last) '\\' = false := by
  rw [← Bool.not_eq_true, continued_carryAfter]
  simp only [not_exists, not_and, Bool.not_eq_true]

theorem readingAfter_eq_iff {before : List Text} {text : Text} {r : Reading} (hr : r ≠ .ordinary) :
    readingAfter before text = r ↔
      (carryAfter before).inComment = false ∧
        (∀ last, before.getLast? = some last → Text.endsWith (Text.lineBody last) '\\' = false) ∧
        Text.endsWith (Text.lineBody text) '\\' = false ∧
        Reading.ofBody (before.length + 1) (Text.lineBody text) = r := by
  rw [readingAfter, readBody_eq_iff hr, not_continued_carryAfter, Int.natCast_succ]

theorem live_iff {before : List Text} {text : Text} {d : Directive} :
    Live before text d ↔ readingAfter before text = .directive d := by
  rw [readingAfter_eq_iff (r := .directive d) nofun]
  constructor
  · intro h
    exact ⟨h.outside, h.fresh, h.whole, h.reads⟩
  · rintro ⟨hout, hfresh, hwhole, hreads⟩
    exact ⟨hout, hfresh, hwhole, hreads⟩

theorem broken_iff {before : List Text} {text : Text} {m : Malformed} :
    Broken before text m ↔ readingAfter before text = .malformed m := by
  rw [readingAfter_eq_iff (r := .malformed m) nofun]
  constructor
  · intro h
    exact ⟨h.outside, h.fresh, h.whole, h.reads⟩
  · rintro ⟨hout, hfresh, hwhole, hreads⟩
    exact ⟨hout, hfresh, hwhole, hreads⟩

theorem Live.unique {before : List Text} {text : Text} {d e : Directive}
    (hd : Live before text d) (he : Live before text e) : d = e := by
  have h := hd.reads.symm.trans he.reads
  cases h
  rfl

theorem readPath_line {number : Int} {delimiter : Delimiter} {text : Text} {d : Directive}
    (h : readPath number delimiter text = .directive d) : d.line = number := by
  unfold readPath at h
  split at h
  · cases h
  · split_ifs at h
    cases h
    rfl

theorem ofBody_line {number : Int} {body : Text} {d : Directive}
    (h : Reading.ofBody number body = .directive d) : d.line = number := by
  unfold Reading.ofBody at h
  split at h
  · cases h
  · split at h
    · cases h
    · split at h
      · cases h
      · exact readPath_line h

theorem Live.line_eq {before : List Text} {text : Text} {d : Directive} (h : Live before text d) :
    d.line = before.length + 1 :=
  ofBody_line h.reads

theorem liveAt_iff {before after : List Text} {text : Text} {d : Directive} :
    LiveAt (before ++ text :: after) (before.length + 1) d ↔ Live before text d := by
  constructor
  · rintro ⟨front, t, back, he, hk, hlive⟩
    obtain ⟨rfl, hrest⟩ := List.append_inj he (by omega)
    cases hrest
    exact hlive
  · intro hlive
    exact ⟨before, text, after, rfl, rfl, hlive⟩

theorem LiveAt.unique {lines : List Text} {k : Nat} {d e : Directive} (hd : LiveAt lines k d)
    (he : LiveAt lines k e) : d = e := by
  obtain ⟨before, text, after, rfl, rfl, hlive⟩ := hd
  exact hlive.unique (liveAt_iff.mp he)

theorem LiveAt.line_eq {lines : List Text} {k : Nat} {d : Directive} (h : LiveAt lines k d) :
    d.line = k := by
  obtain ⟨before, text, after, rfl, rfl, hlive⟩ := h
  rw [hlive.line_eq]
  rfl

end ShaderSources.Source
