import ShaderSources.Proofs.IncludeLines
import ShaderSources.Proofs.Lines
import ShaderSources.Proofs.LiveLines

namespace ShaderSources.Source

open Text

inductive Mode
  | code
  | slash
  | lineComment
  | blockComment
  | star
  deriving DecidableEq

namespace Mode

def next : Mode → Char → Mode
  | code, c => if c = '/' then slash else code
  | slash, c => if c = '/' then lineComment else if c = '*' then blockComment else code
  | lineComment, c => if c = '\n' then code else lineComment
  | blockComment, c => if c = '*' then star else blockComment
  | star, c => if c = '/' then code else if c = '*' then star else blockComment

def after (mode : Mode) (text : Text) : Mode := text.foldl next mode

def ofFlag (inside : Bool) : Mode := if inside then blockComment else code

def inBlock : Mode → Bool
  | blockComment | star => true
  | _ => false

theorem after_append (mode : Mode) (front back : Text) :
    mode.after (front ++ back) = (mode.after front).after back := List.foldl_append

theorem after_cons (mode : Mode) (c : Char) (text : Text) :
    mode.after (c :: text) = (mode.next c).after text := rfl

@[simp] theorem inBlock_ofFlag (inside : Bool) : (ofFlag inside).inBlock = inside := by
  cases inside <;> rfl

theorem after_lineComment {text : Text} (h : '\n' ∉ text) :
    lineComment.after text = lineComment := by
  induction text with
  | nil => rfl
  | cons c text ih =>
    simp only [List.mem_cons, not_or] at h
    rw [after_cons, next, if_neg (Ne.symm h.1)]
    exact ih h.2

-- A slash before a text that goes on otherwise is as good as forgotten.
theorem inBlock_after_slash {text : Text} (hline : ¬ ['/'] <+: text) (hblock : ¬ ['*'] <+: text) :
    (slash.after text).inBlock = (code.after text).inBlock := by
  cases text with
  | nil => rfl
  | cons c text =>
    have hslash : c ≠ '/' := by
      rintro rfl
      exact hline (List.prefix_append ['/'] text)
    have hstar : c ≠ '*' := by
      rintro rfl
      exact hblock (List.prefix_append ['*'] text)
    rw [after_cons, after_cons, next, next, if_neg hslash, if_neg hslash, if_neg hstar]

theorem inBlock_after_star {text : Text} (h : ¬ ['/'] <+: text) :
    (star.after text).inBlock = (blockComment.after text).inBlock := by
  cases text with
  | nil => rfl
  | cons c text =>
    have hslash : c ≠ '/' := by
      rintro rfl
      exact h (List.prefix_append ['/'] text)
    rw [after_cons, after_cons, next, next, if_neg hslash]

theorem after_ending {ending : Text} (h : IsEnding ending) (mode : Mode) :
    mode.after ending = ofFlag mode.inBlock := by
  rcases h with rfl | rfl
  · cases mode <;> rfl
  · cases mode <;> rfl

end Mode

open Mode

theorem inCommentAfter_eq {body : Text} (h : '\n' ∉ body) (inside : Bool) :
    inCommentAfter inside body = ((ofFlag inside).after body).inBlock := by
  fun_induction inCommentAfter inside body with
  | case1 inside => exact (inBlock_ofFlag inside).symm
  | case2 text =>
    have hrest : '\n' ∉ text := by simpa using h
    have hafter : code.after ('/' :: '/' :: text) = lineComment.after text := rfl
    rw [ofFlag, if_neg (by simp), hafter, after_lineComment hrest]
    rfl
  | case3 text ih => exact ih (by simpa using h)
  | case4 text ih => exact ih (by simpa using h)
  | case5 inside c text hline hopen hclose ih =>
    simp only [List.mem_cons, not_or] at h
    rw [ih h.2, after_cons]
    cases inside with
    | false =>
      by_cases hc : c = '/'
      · subst hc
        refine (inBlock_after_slash ?_ ?_).symm
        · rintro ⟨rest, rfl⟩
          exact hline rest rfl rfl rfl
        · rintro ⟨rest, rfl⟩
          exact hopen rest rfl rfl rfl
      · have hnext : (ofFlag false).next c = code := if_neg hc
        rw [hnext]
        rfl
    | true =>
      by_cases hc : c = '*'
      · subst hc
        refine (inBlock_after_star ?_).symm
        rintro ⟨rest, rfl⟩
        exact hclose rest rfl rfl rfl
      · have hnext : (ofFlag true).next c = blockComment := if_neg hc
        rw [hnext]
        rfl

theorem commentOpenAfter_eq_inBlock {body : Text} (h : '\n' ∉ body) (inside : Bool) :
    commentOpenAfter inside body = ((ofFlag inside).after body).inBlock :=
  (commentOpenAfter_eq inside body).trans (inCommentAfter_eq h inside)

theorem after_body {body ending : Text} (h : '\n' ∉ body) (hending : IsEnding ending) (inside : Bool) :
    (ofFlag inside).after (body ++ ending) = ofFlag (commentOpenAfter inside body) := by
  rw [after_append, after_ending hending, commentOpenAfter_eq_inBlock h]

theorem commentStates_eq {bodies : List Text} (h : ∀ body ∈ bodies, '\n' ∉ body) (inside : Bool) :
    commentStates inside bodies = (List.range bodies.length).map fun k =>
      ((ofFlag inside).after (['\n'].intercalate (bodies.take (k + 1)))).inBlock := by
  induction bodies generalizing inside with
  | nil => rfl
  | cons body bodies ih =>
    rw [List.forall_mem_cons] at h
    rw [commentStates, List.length_cons, List.range_succ_eq_map, List.map_cons, List.map_map, ih h.2,
      commentOpenAfter_eq_inBlock h.1]
    congr 1
    · simp [List.intercalate]
    · apply List.map_congr_left
      intro k hk
      rw [List.mem_range] at hk
      have hne : bodies.take (k + 1) ≠ [] := by
        rw [← List.length_pos_iff, List.length_take]
        omega
      rw [Function.comp_apply, List.take_succ_cons, List.intercalate_cons_of_ne_nil hne, after_append,
        after_body h.1 (.inl rfl), commentOpenAfter_eq_inBlock h.1]

def behind (c : Char) (text : Text) : Text := (text.dropWhile (· ≠ c)).drop 1

/-- What a reader of comments is shown of a line: of an include line that is followed, only what stands
behind the closing delimiter of its path. -/
def shown (text : Text) : Reading → Text
  | .directive d => behind d.delimiter.closing (behind d.delimiter.opening text)
  | _ => text

theorem behind_append {c : Char} {front : Text} (h : c ∉ front) (back : Text) :
    behind c (front ++ c :: back) = back := by
  have hfront : ∀ b ∈ front, decide (b ≠ c) = true := by
    intro b hb
    rw [decide_eq_true_eq]
    rintro rfl
    exact h hb
  rw [behind, List.dropWhile_append_of_pos hfront, List.dropWhile_cons_of_neg (by simp)]
  rfl

theorem opening_not_blank (delimiter : Delimiter) : isLeadingBlank delimiter.opening = false ∧
    delimiter.opening ∉ '#' :: "include".toList := by
  cases delimiter <;> decide

theorem IncludeLine.behind_path (line : IncludeLine) (ending : Text) :
    behind line.delimiter.closing (behind line.delimiter.opening (line.text ++ ending)) =
      line.trailer ++ ending := by
  obtain ⟨hblank, hword⟩ := opening_not_blank line.delimiter
  have hspace := (opening_not_word line.delimiter).2
  have hlead : line.delimiter.opening ∉ line.lead := fun hmem => by
    rw [line.lead_blank _ hmem] at hblank
    cases hblank
  have hmid : line.delimiter.opening ∉ line.mid := fun hmem => by
    rw [line.mid_blank _ hmem] at hspace
    cases hspace
  have hgap : line.delimiter.opening ∉ line.gap := fun hmem => by
    rw [line.gap_blank _ hmem] at hspace
    cases hspace
  have hfront : line.delimiter.opening ∉
      line.lead ++ '#' :: (line.mid ++ ("include".toList ++ line.gap)) := by
    simp only [List.mem_cons, not_or] at hword
    simp only [List.mem_append, List.mem_cons, not_or]
    exact ⟨hlead, hword.1, hmid, hword.2, hgap⟩
  have htext : line.text ++ ending =
      (line.lead ++ '#' :: (line.mid ++ ("include".toList ++ line.gap))) ++
        line.delimiter.opening :: (line.path ++ line.delimiter.closing :: (line.trailer ++ ending)) := by
    simp [IncludeLine.text, IncludeLine.literal]
  rw [htext, behind_append hfront, behind_append line.closing_not_mem]

theorem shown_directive {number : Int} {body : Text} {d : Directive}
    (h : Reading.ofBody number body = .directive d) (hfree : '\n' ∉ body) (ending : Text) :
    ∃ trailer, behind d.delimiter.closing (behind d.delimiter.opening (body ++ ending)) =
      trailer ++ ending ∧ '\n' ∉ trailer ∧ d.opensComment = commentOpenAfter false trailer := by
  obtain ⟨line, rfl, hpath, htrailer⟩ := exists_line_of_ofBody h
  have hread := line.ofBody_text_eq number
  rw [h, if_neg (IncludeLine.path_all_blank hpath), htrailer] at hread
  cases hread
  refine ⟨line.trailer, line.behind_path ending, fun hmem => hfree ?_, rfl⟩
  simp [IncludeLine.text, IncludeLine.literal, hmem]

theorem after_shown {body ending : Text} (hfree : '\n' ∉ body) (hending : IsEnding ending)
    (carry : Carry) (number : Nat) :
    (ofFlag carry.inComment).after (shown (body ++ ending) (readBody carry number body)) =
      ofFlag (carry.next body (readBody carry number body)).inComment := by
  cases hread : readBody carry number body with
  | directive d =>
    obtain ⟨houtside, -, -, hbody⟩ := (readBody_eq_iff (r := .directive d) nofun).mp hread
    obtain ⟨trailer, hshown, htrailer, hopens⟩ := shown_directive hbody hfree ending
    rw [houtside, shown, hshown, after_body htrailer hending, Carry.next, hopens]
  | ordinary => exact after_body hfree hending _
  | malformed m => exact after_body hfree hending _

theorem after_readLines {texts : List Text} (h : ∀ text ∈ texts, ∃ ending,
      IsEnding ending ∧ text = lineBody text ++ ending ∧ '\n' ∉ lineBody text)
    (carry : Carry) (number : Nat) : (ofFlag carry.inComment).after
        ((readLines carry number texts).map fun line => shown line.text line.reading).flatten =
      ofFlag (carryFrom carry number texts).inComment := by
  induction texts generalizing carry number with
  | nil => rfl
  | cons text texts ih =>
    rw [List.forall_mem_cons] at h
    obtain ⟨⟨ending, hending, htext, hfree⟩, hrest⟩ := h
    have hstep := after_shown hfree hending carry number
    rw [← htext] at hstep
    rw [readLines, List.map_cons, List.flatten_cons, after_append, hstep, ih hrest]
    rfl

theorem readLines_append (carry : Carry) (number : Nat) (front back : List Text) :
    readLines carry number (front ++ back) = readLines carry number front ++
      readLines (carryFrom carry number front) (number + front.length) back := by
  induction front generalizing carry number with
  | nil => rfl
  | cons text front ih => simp [readLines, carryFrom, ih, Nat.add_assoc, Nat.add_comm 1]

/-- A line is read with what the lines before it carry on, and that tells a comment as open where a
reader of single characters is inside one. -/
structure ReadInMode (source : Text) (before : List Text) (text : Text) : Prop where
  read : (lines source)[before.length]? = some ⟨before.length + 1, text,
    readBody (carryAfter before) (before.length + 1) (lineBody text)⟩
  mode : code.after (((lines source).take before.length).map fun line =>
    shown line.text line.reading).flatten = ofFlag (carryAfter before).inComment

theorem readInMode_of_splitLines {source text : Text} {before after : List Text}
    (h : splitLines source = before ++ text :: after) : ReadInMode source before text := by
  have hlines : lines source = readLines .start 1 before ++
      readLines (carryAfter before) (1 + before.length) (text :: after) := by
    rw [lines, h, readLines_append]
    rfl
  have hlength : (readLines .start 1 before).length = before.length := by
    rw [← List.length_map Line.text, map_text_readLines]
  constructor
  · rw [hlines, List.getElem?_append_right (by omega), hlength, Nat.sub_self, Nat.add_comm]
    rfl
  · rw [hlines, List.take_append_of_le_length (by omega), List.take_of_length_le (by omega)]
    have hrow := splitLines_isLines source
    rw [h] at hrow
    exact after_readLines hrow.exists_ending .start 1

theorem comments_tracked {inside : Bool} {bodies : List Text} (hbodies : ∀ body ∈ bodies, '\n' ∉ body) :
    (commentStates inside bodies = (List.range bodies.length).map fun k =>
      ((ofFlag inside).after (['\n'].intercalate (bodies.take (k + 1)))).inBlock) ∧
    ∀ source before text after, splitLines source = before ++ text :: after →
      ReadInMode source before text :=
  ⟨commentStates_eq hbodies inside, fun _ _ _ _ => readInMode_of_splitLines⟩

def reopened : Text :=
  "/*/\n#include <no>\n*/*/ // /*\n#include \"/*\" /*/\r\n#include <no>\n".toList

theorem comments_tracked_reopened :
    ((∀ body ∈ ["/*/".toList, "*".toList, "/ /".toList, "/**/*".toList], '\n' ∉ body) ∧
      splitLines reopened = (splitLines reopened).take 4 ++ ["#include <no>\n".toList]) ∧
    commentStates true ["/*/".toList, "*".toList, "/ /".toList, "/**/*".toList] =
      [false, false, false, false] ∧
    ReadInMode reopened ((splitLines reopened).take 4) "#include <no>\n".toList ∧
    (carryAfter ((splitLines reopened).take 4)).inComment = true := by
  have hbodies : ∀ body ∈ ["/*/".toList, "*".toList, "/ /".toList, "/**/*".toList], '\n' ∉ body := by
    decide
  have hlines : splitLines reopened = (splitLines reopened).take 4 ++ ["#include <no>\n".toList] := by
    decide
  obtain ⟨hstates, hread⟩ := @comments_tracked true _ hbodies
  exact ⟨⟨hbodies, hlines⟩, hstates.trans (by decide), hread _ _ _ _ hlines, by decide +kernel⟩

end ShaderSources.Source
