import ShaderSources.Proofs.Trailers

namespace ShaderSources.Source

open Text

structure IncludeLine where
  lead : Text
  mid : Text
  gap : Text
  delimiter : Delimiter
  path : Text
  trailer : Text
  lead_blank : ∀ c ∈ lead, isLeadingBlank c = true
  mid_blank : ∀ c ∈ mid, isSpaceOrTab c = true
  gap_blank : ∀ c ∈ gap, isSpaceOrTab c = true
  closing_not_mem : delimiter.closing ∉ path

namespace IncludeLine

def literal (line : IncludeLine) : Text :=
  line.gap ++ line.delimiter.opening :: (line.path ++ line.delimiter.closing :: line.trailer)

def text (line : IncludeLine) : Text :=
  line.lead ++ '#' :: (line.mid ++ ("include".toList ++ line.literal))

end IncludeLine

def Commented (text : Text) : Prop := ∀ c ∈ outsideComments false text, isSpaceOrTab c = true

instance (text : Text) : Decidable (Commented text) :=
  decidable_of_iff ((outsideComments false text).all isSpaceOrTab = true) List.all_eq_true

theorem ofOpening?_eq_some_iff {c : Char} {delimiter : Delimiter} :
    Delimiter.ofOpening? c = some delimiter ↔ c = delimiter.opening := by
  unfold Delimiter.ofOpening?
  cases delimiter with
  | quotes => split_ifs <;> simp_all [Delimiter.opening]
  | angles => split_ifs <;> simp_all [Delimiter.opening]

theorem cutPath?_append {closing : Char} {path : Text} (h : closing ∉ path) (trailer : Text) :
    cutPath? closing (path ++ closing :: trailer) = some (path, trailer) := by
  induction path with
  | nil => exact if_pos rfl
  | cons c path ih =>
    simp only [List.mem_cons, not_or] at h
    rw [List.cons_append, cutPath?, if_neg (Ne.symm h.1), ih h.2]
    rfl

theorem eq_append_of_cutPath? {closing : Char} {text path trailer : Text}
    (h : cutPath? closing text = some (path, trailer)) :
    closing ∉ path ∧ text = path ++ closing :: trailer := by
  induction text generalizing path with
  | nil => cases h
  | cons c text ih =>
    rw [cutPath?] at h
    split at h
    · rename_i hc
      cases h
      exact ⟨List.not_mem_nil, by rw [hc, List.nil_append]⟩
    · rename_i hc
      obtain ⟨parts, hparts, heq⟩ := Option.map_eq_some_iff.mp h
      cases heq
      obtain ⟨hfree, htext⟩ := ih hparts
      exact ⟨by simp [Ne.symm hc, hfree], by rw [htext, List.cons_append]⟩

theorem opening_not_word (delimiter : Delimiter) :
    (isAsciiAlphanumeric delimiter.opening || decide (delimiter.opening = '_')) = false ∧
      isSpaceOrTab delimiter.opening = false := by
  cases delimiter with
  | quotes => decide
  | angles => decide

theorem blank_not_word {c : Char} (h : isSpaceOrTab c = true) :
    (isAsciiAlphanumeric c || decide (c = '_')) = false := by
  simp only [isSpaceOrTab, Bool.or_eq_true, decide_eq_true_eq] at h
  rcases h with rfl | rfl
  · decide
  · decide

namespace IncludeLine

theorem afterKeyword?_text (line : IncludeLine) : afterKeyword? line.text = some line.literal := by
  have hhash : line.text.dropWhile isLeadingBlank =
      '#' :: (line.mid ++ ("include".toList ++ line.literal)) := by
    rw [text, List.dropWhile_append_of_pos line.lead_blank]
    exact List.dropWhile_cons_of_neg (by decide)
  have hword : (line.mid ++ ("include".toList ++ line.literal)).dropWhile isSpaceOrTab =
      "include".toList ++ line.literal := by
    rw [List.dropWhile_append_of_pos line.mid_blank]
    exact List.dropWhile_cons_of_neg (by decide)
  obtain ⟨c, rest, hliteral, hc⟩ : ∃ c rest, line.literal = c :: rest ∧
      (isAsciiAlphanumeric c || decide (c = '_')) = false := by
    unfold literal
    cases hgap : line.gap with
    | nil => exact ⟨_, _, rfl, (opening_not_word line.delimiter).1⟩
    | cons c gap => exact ⟨c, _, rfl, blank_not_word (line.gap_blank c (by simp [hgap]))⟩
  unfold afterKeyword?
  simp only [hhash, hword, after?_append]
  rw [hliteral]
  simp only [hc]
  rfl

theorem dropWhile_literal (line : IncludeLine) : line.literal.dropWhile isSpaceOrTab =
    line.delimiter.opening :: (line.path ++ line.delimiter.closing :: line.trailer) := by
  rw [literal, List.dropWhile_append_of_pos line.gap_blank]
  exact List.dropWhile_cons_of_neg (by simp [opening_not_word])

theorem ofBody_text_eq (line : IncludeLine) (number : Int) : Reading.ofBody number line.text =
    if line.path.all isBlank then .malformed .emptyPath
    else if !isTrailer line.trailer then .malformed .trailingText
    else .directive ⟨String.ofList line.path, line.delimiter, number,
      commentOpenAfter false line.trailer⟩ := by
  have hopening : Delimiter.ofOpening? line.delimiter.opening = some line.delimiter :=
    ofOpening?_eq_some_iff.mpr rfl
  unfold Reading.ofBody
  simp only [afterKeyword?_text, dropWhile_literal, hopening]
  rw [readPath, cutPath?_append line.closing_not_mem]

theorem path_all_blank {line : IncludeLine} (h : ∃ c ∈ line.path, isBlank c = false) :
    ¬ line.path.all isBlank = true := by
  obtain ⟨c, hc, hblank⟩ := h
  intro hall
  have := List.all_eq_true.mp hall c hc
  rw [hblank] at this
  cases this

end IncludeLine

theorem exists_of_afterKeyword? {body text : Text} (h : afterKeyword? body = some text) :
    ∃ lead mid, body = lead ++ '#' :: (mid ++ ("include".toList ++ text)) ∧
      (∀ c ∈ lead, isLeadingBlank c = true) ∧ ∀ c ∈ mid, isSpaceOrTab c = true := by
  unfold afterKeyword? at h
  split at h
  · rename_i rest hhash
    have hbody := List.takeWhile_append_dropWhile (p := isLeadingBlank) (l := body)
    have hrest := List.takeWhile_append_dropWhile (p := isSpaceOrTab) (l := rest)
    refine ⟨body.takeWhile isLeadingBlank, rest.takeWhile isSpaceOrTab, ?_, fun c =>
      List.mem_takeWhile_imp, fun c => List.mem_takeWhile_imp⟩
    split at h
    · rename_i hword
      cases h
      rw [← eq_append_of_after? hword, hrest, ← hhash, hbody]
    · rename_i c behind hword
      split at h
      · cases h
      · cases h
        rw [← eq_append_of_after? hword, hrest, ← hhash, hbody]
    · cases h
  · cases h

theorem exists_line_of_ofBody {number : Int} {body : Text} {d : Directive}
    (h : Reading.ofBody number body = .directive d) : ∃ line : IncludeLine, line.text = body ∧
      (∃ c ∈ line.path, isBlank c = false) ∧ isTrailer line.trailer = true := by
  unfold Reading.ofBody at h
  split at h
  · cases h
  · rename_i text hword
    obtain ⟨lead, mid, hbody, hlead, hmid⟩ := exists_of_afterKeyword? hword
    have htext := List.takeWhile_append_dropWhile (p := isSpaceOrTab) (l := text)
    split at h
    · cases h
    · rename_i c rest hgap
      split at h
      · cases h
      · rename_i delimiter hopening
        unfold readPath at h
        split at h
        · cases h
        · rename_i path trailer hcut
          obtain ⟨hfree, hrest⟩ := eq_append_of_cutPath? hcut
          split_ifs at h with hblank htrailer
          refine ⟨⟨lead, mid, text.takeWhile isSpaceOrTab, delimiter, path, trailer, hlead, hmid,
            fun c => List.mem_takeWhile_imp, hfree⟩, ?_, ?_, ?_⟩
          · rw [IncludeLine.text, IncludeLine.literal, ← ofOpening?_eq_some_iff.mp hopening, ← hrest,
              ← hgap, htext, hbody]
          · simpa using hblank
          · simpa using htrailer

theorem ofBody_text_of_trailer {line : IncludeLine} {opens : Bool}
    (hpath : ∃ c ∈ line.path, isBlank c = false) (htrailer : Trailer line.trailer opens)
    (number : Int) : Reading.ofBody number line.text =
      .directive ⟨String.ofList line.path, line.delimiter, number, opens⟩ := by
  rw [line.ofBody_text_eq, if_neg (IncludeLine.path_all_blank hpath), htrailer.isTrailer_eq,
    commentOpenAfter_eq, htrailer.inCommentAfter_eq]
  rfl

def starredLine : IncludeLine where
  lead := ['\x0c', ' ', '\x0b']
  mid := ['\t']
  gap := []
  delimiter := .angles
  path := "a//b/*c*/\"#".toList
  trailer := " /***/\t/**//*/ // */ /*/".toList
  lead_blank := List.all_eq_true.mp (by decide)
  mid_blank := List.all_eq_true.mp (by decide)
  gap_blank := List.all_eq_true.mp (by decide)
  closing_not_mem := by decide

theorem ofBody_text_of_trailer_starredLine :
    (∃ c ∈ starredLine.path, isBlank c = false) ∧ Trailer starredLine.trailer true ∧
      Reading.ofBody 3 starredLine.text = .directive ⟨"a//b/*c*/\"#", .angles, 3, true⟩ := by
  have hpath : ∃ c ∈ starredLine.path, isBlank c = false := ⟨'a', by decide, by decide⟩
  have hopen : Trailer " /*/".toList true := .blank rfl (.unclosed (by decide) (by decide))
  have hthird : Trailer ('/' :: '*' :: ("/ // ".toList ++ '*' :: '/' :: " /*/".toList)) true :=
    .comment (by decide) (by decide) hopen
  have hsecond : Trailer ('/' :: '*' :: ([] ++ '*' :: '/' :: _)) true :=
    .comment (by decide) (by decide) hthird
  have hfirst : Trailer ('/' :: '*' :: (['*'] ++ '*' :: '/' :: '\t' :: _)) true :=
    .comment (by decide) (by decide) (.blank rfl hsecond)
  have htrailer : Trailer starredLine.trailer true := .blank rfl hfirst
  exact ⟨hpath, htrailer, ofBody_text_of_trailer hpath htrailer 3⟩

/-- Text behind the path of an include line makes it malformed, unless it is blanks and comments. -/
structure RefusesText (number : Int) (body : Text) : Prop where
  commented : ∀ d, Reading.ofBody number body = .directive d →
    ∃ line : IncludeLine, line.text = body ∧ Commented line.trailer
  refused : ∀ line : IncludeLine, line.text = body → ¬ Commented line.trailer →
    ∃ m, Reading.ofBody number body = .malformed m

theorem refusesText_iff {number : Int} {body : Text} : RefusesText number body ↔
    ¬ ∃ line : IncludeLine, line.text = body ∧ (∃ c ∈ line.path, isBlank c = false) ∧
      Stretched line.trailer ∧ ¬ Commented line.trailer := by
  constructor
  · rintro h ⟨line, htext, hpath, hstretched, htrailer⟩
    obtain ⟨m, hm⟩ := h.refused line htext htrailer
    rw [← htext, line.ofBody_text_eq, if_neg (IncludeLine.path_all_blank hpath),
      isTrailer_iff.mpr (.inr hstretched)] at hm
    cases hm
  · intro h
    have hcommented {line : IncludeLine} (htext : line.text = body)
        (hpath : ∃ c ∈ line.path, isBlank c = false) (htrailer : isTrailer line.trailer = true) :
        Commented line.trailer := by
      rcases isTrailer_iff.mp htrailer with htrailer | hstretched
      · exact (exists_trailer_iff.mp htrailer).2
      · by_contra hnot
        exact h ⟨line, htext, hpath, hstretched, hnot⟩
    constructor
    · intro d hd
      obtain ⟨line, htext, hpath, htrailer⟩ := exists_line_of_ofBody hd
      exact ⟨line, htext, hcommented htext hpath htrailer⟩
    · intro line htext hnot
      rw [← htext, line.ofBody_text_eq]
      split_ifs with hblank htrailer
      · exact ⟨_, rfl⟩
      · exact ⟨_, rfl⟩
      · exact absurd (hcommented htext (by simpa using hblank) (by simpa using htrailer)) hnot

def bridgedLine : IncludeLine where
  lead := []
  mid := []
  gap := [' ']
  delimiter := .angles
  path := ['a']
  trailer := " /* ok */ junk /* b */".toList
  lead_blank := List.all_eq_true.mp (by decide)
  mid_blank := List.all_eq_true.mp (by decide)
  gap_blank := List.all_eq_true.mp (by decide)
  closing_not_mem := by decide

theorem exists_not_refusesText :
    bridgedLine.text = "#include <a> /* ok */ junk /* b */".toList ∧
      Reading.ofBody 1 bridgedLine.text = .directive ⟨"a", .angles, 1, false⟩ ∧
      ¬ RefusesText 1 bridgedLine.text := by
  have hreads : Reading.ofBody 1 bridgedLine.text = .directive ⟨"a", .angles, 1, false⟩ := by
    decide +kernel
  refine ⟨by decide, hreads, ?_⟩
  intro h
  obtain ⟨m, hm⟩ := h.refused bridgedLine rfl (by decide)
  rw [hreads] at hm
  cases hm

end ShaderSources.Source
