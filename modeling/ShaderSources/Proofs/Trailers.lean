import ShaderSources.Source.Directive
import ShaderSources.Proofs.CommentScans

namespace ShaderSources

namespace Source

open Text

def outsideComments : Bool → Text → Text
  | _, [] => []
  | false, '/' :: '/' :: _ => []
  | false, '/' :: '*' :: text => outsideComments true text
  | true, '*' :: '/' :: text => outsideComments false text
  | true, _ :: text => outsideComments true text
  | false, c :: text => c :: outsideComments false text

/-- Blanks and comments, on one line. The flag tells that the last comment is left open. -/
inductive Trailer : Text → Bool → Prop
  | nil : Trailer [] false
  | hidden {text : Text} (hline : '\n' ∉ text) : Trailer ('/' :: '/' :: text) false
  | unclosed {text : Text} (hline : '\n' ∉ text) (hopen : ¬ ['*', '/'] <:+: text) :
      Trailer ('/' :: '*' :: text) true
  | blank {c : Char} {text : Text} {opens : Bool} (hc : isSpaceOrTab c = true)
      (hrest : Trailer text opens) : Trailer (c :: text) opens
  | comment {body text : Text} {opens : Bool} (hline : '\n' ∉ body) (hopen : ¬ ['*', '/'] <:+: body)
      (hrest : Trailer text opens) : Trailer ('/' :: '*' :: (body ++ '*' :: '/' :: text)) opens

/-- A trailer behind a stretch that begins with a comment and ends in `*/`, whatever is between. -/
def Stretched (text : Text) : Prop :=
  ∃ blanks middle back opens, text = blanks ++ '/' :: '*' :: (middle ++ '*' :: '/' :: back) ∧
    (∀ c ∈ blanks, isSpaceOrTab c = true) ∧ '\n' ∉ middle ∧ Trailer back opens

theorem prefix_of_prefix_append {body text : Text} {c : Char}
    (h : ['*', '/'] <+: c :: (body ++ '*' :: '/' :: text)) : ['*', '/'] <+: c :: body := by
  obtain ⟨rfl, hrest⟩ := List.cons_prefix_cons.mp h
  cases body with
  | nil => simp at hrest
  | cons d body => simpa using hrest

section

variable {c : Char} {body text : Text}

theorem inCommentAfter_inside (h : ¬ ['*', '/'] <+: c :: text) :
    inCommentAfter true (c :: text) = inCommentAfter true text := by
  apply inCommentAfter_cons
  intro mark hmark
  rw [List.mem_singleton.mp hmark]
  exact h

theorem outsideComments_inside (h : ¬ ['*', '/'] <+: c :: text) :
    outsideComments true (c :: text) = outsideComments true text := by
  rw [outsideComments]
  rintro rest rfl rfl
  simp at h

theorem outside_unclosed (h : ¬ ['*', '/'] <:+: text) :
    inCommentAfter true text = true ∧ outsideComments true text = [] := by
  induction text with
  | nil => exact ⟨rfl, rfl⟩
  | cons c text ih =>
    obtain ⟨hhere, hrest⟩ := not_or.mp (List.infix_cons_iff.not.mp h)
    rw [inCommentAfter_inside hhere, outsideComments_inside hhere]
    exact ih hrest

theorem outside_closed (h : ¬ ['*', '/'] <:+: body) (text : Text) :
    inCommentAfter true (body ++ '*' :: '/' :: text) = inCommentAfter false text ∧
      outsideComments true (body ++ '*' :: '/' :: text) = outsideComments false text := by
  induction body with
  | nil => exact ⟨rfl, rfl⟩
  | cons c body ih =>
    obtain ⟨hhere, hrest⟩ := not_or.mp (List.infix_cons_iff.not.mp h)
    have hnot : ¬ ['*', '/'] <+: c :: (body ++ '*' :: '/' :: text) := mt prefix_of_prefix_append hhere
    rw [List.cons_append, inCommentAfter_inside hnot, outsideComments_inside hnot]
    exact ih hrest

theorem outside_blank (hc : isSpaceOrTab c = true) (text : Text) :
    inCommentAfter false (c :: text) = inCommentAfter false text ∧
      outsideComments false (c :: text) = c :: outsideComments false text := by
  have hslash : c ≠ '/' := by
    rintro rfl
    cases hc
  constructor
  · rw [inCommentAfter] <;> simp [hslash]
  · rw [outsideComments] <;> simp [hslash]

end

theorem Trailer.inCommentAfter_eq {text : Text} {opens : Bool} (h : Trailer text opens) :
    inCommentAfter false text = opens := by
  induction h with
  | nil => rfl
  | hidden hline => rfl
  | unclosed hline hopen => exact (outside_unclosed hopen).1
  | blank hc hrest ih => rw [(outside_blank hc _).1, ih]
  | comment hline hopen hrest ih => exact (outside_closed hopen _).1.trans ih

theorem Trailer.outsideComments_blank {text : Text} {opens : Bool} (h : Trailer text opens) :
    ∀ c ∈ outsideComments false text, isSpaceOrTab c = true := by
  induction h with
  | nil => simp [outsideComments]
  | hidden hline => simp [outsideComments]
  | unclosed hline hopen => simp [outsideComments, (outside_unclosed hopen).2]
  | blank hc hrest ih =>
    rw [(outside_blank hc _).2]
    exact List.forall_mem_cons.mpr ⟨hc, ih⟩
  | comment hline hopen hrest ih =>
    rw [outsideComments, (outside_closed hopen _).2]
    exact ih

theorem Trailer.newline_not_mem {text : Text} {opens : Bool} (h : Trailer text opens) :
    '\n' ∉ text := by
  induction h with
  | nil => simp
  | hidden hline => simp [hline]
  | unclosed hline hopen => simp [hline]
  | blank hc hrest ih =>
    simp only [List.mem_cons, not_or]
    refine ⟨?_, ih⟩
    rintro rfl
    cases hc
  | comment hline hopen hrest ih => simp [hline, ih]

theorem Trailer.inside_cons {c : Char} {text : Text} {opens : Bool}
    (h : Trailer ('/' :: '*' :: text) opens) (hc : c ≠ '\n') (hopen : ¬ ['*', '/'] <+: c :: text) :
    Trailer ('/' :: '*' :: c :: text) opens := by
  cases h with
  | unclosed hline hrest =>
    exact .unclosed (by simp [hc.symm, hline]) (List.infix_cons_iff.not.mpr (not_or.mpr ⟨hopen, hrest⟩))
  | blank hc' => cases hc'
  | @comment body rest _ hline hbody hrest =>
    have hnot : ¬ ['*', '/'] <+: c :: body := fun hlead =>
      hopen (hlead.trans (List.prefix_append (c :: body) _))
    exact @Trailer.comment (c :: body) _ _ (by simp [hc.symm, hline])
      (List.infix_cons_iff.not.mpr (not_or.mpr ⟨hnot, hbody⟩)) hrest

theorem exists_trailer {inside : Bool} {text : Text}
    (hclean : ∀ c ∈ outsideComments inside text, isSpaceOrTab c = true) (hline : '\n' ∉ text) :
    ∃ opens, Trailer (if inside then '/' :: '*' :: text else text) opens := by
  fun_induction outsideComments inside text with
  | case1 inside =>
    cases inside with
    | false => exact ⟨false, .nil⟩
    | true => exact ⟨true, .unclosed (by simp) (by simp)⟩
  | case2 text => exact ⟨false, .hidden (by simpa using hline)⟩
  | case3 text ih => exact ih hclean (by simpa using hline)
  | case4 text ih =>
    obtain ⟨opens, h⟩ := ih hclean (by simpa using hline)
    exact ⟨opens, @Trailer.comment [] _ _ (by simp) (by simp) h⟩
  | case5 c text hopen ih =>
    simp only [List.mem_cons, not_or] at hline
    obtain ⟨opens, h⟩ := ih hclean hline.2
    refine ⟨opens, h.inside_cons (Ne.symm hline.1) ?_⟩
    rintro ⟨rest, hrest⟩
    simp only [List.cons_append, List.cons.injEq, List.nil_append] at hrest
    exact hopen rest hrest.1.symm hrest.2.symm
  | case6 c text _ _ ih =>
    simp only [List.mem_cons, not_or] at hline
    obtain ⟨hc, hrest⟩ := List.forall_mem_cons.mp hclean
    obtain ⟨opens, h⟩ := ih hrest hline.2
    exact ⟨opens, .blank hc h⟩

theorem exists_trailer_iff {text : Text} : (∃ opens, Trailer text opens) ↔
    '\n' ∉ text ∧ ∀ c ∈ outsideComments false text, isSpaceOrTab c = true := by
  constructor
  · rintro ⟨opens, h⟩
    exact ⟨h.newline_not_mem, h.outsideComments_blank⟩
  · rintro ⟨hline, hclean⟩
    exact exists_trailer hclean hline

theorem Trailer.blanks_append {blanks text : Text} {opens : Bool}
    (hblanks : ∀ c ∈ blanks, isSpaceOrTab c = true) (h : Trailer text opens) :
    Trailer (blanks ++ text) opens := by
  induction blanks with
  | nil => exact h
  | cons c blanks ih =>
    obtain ⟨hc, hrest⟩ := List.forall_mem_cons.mp hblanks
    exact .blank hc (ih hrest)

theorem exists_trailer_of_isLastComment {text : Text} (h : isLastComment text = true) :
    ∃ opens, Trailer text opens := by
  unfold isLastComment at h
  split at h
  · exact ⟨false, .nil⟩
  · exact ⟨false, .hidden (by simpa [onOneLine] using h)⟩
  · simp only [onOneLine, Bool.and_eq_true, Bool.not_eq_true', List.contains_eq_mem,
      decide_eq_false_iff_not, Option.isNone_iff_eq_none, cut?_eq_none_iff] at h
    exact ⟨true, .unclosed h.1 h.2⟩
  · cases h

theorem exists_trailer_of_dropWhile {text : Text}
    (h : isLastComment (text.dropWhile isSpaceOrTab) = true) : ∃ opens, Trailer text opens := by
  obtain ⟨opens, hlast⟩ := exists_trailer_of_isLastComment h
  have hblanks : ∀ c ∈ text.takeWhile isSpaceOrTab, isSpaceOrTab c = true := fun c =>
    List.mem_takeWhile_imp
  have hall := hlast.blanks_append hblanks
  rw [List.takeWhile_append_dropWhile] at hall
  exact ⟨opens, hall⟩

theorem closesBeforeLastComment_append {front text : Text} (hline : '\n' ∉ front)
    (h : closesBeforeLastComment text = true) : closesBeforeLastComment (front ++ text) = true := by
  induction front with
  | nil => exact h
  | cons c front ih =>
    simp only [List.mem_cons, not_or] at hline
    rw [List.cons_append]
    unfold closesBeforeLastComment
    split
    · rename_i heq
      cases heq
    · rename_i heq
      rw [(List.cons.inj heq).2.symm, ih hline.2, Bool.or_true]
    · rename_i heq
      rw [← (List.cons.inj heq).1, ← (List.cons.inj heq).2, ih hline.2]
      simpa using Ne.symm hline.1

theorem exists_cut_of_closesBeforeLastComment {text : Text} (h : closesBeforeLastComment text = true) :
    ∃ middle back, text = middle ++ '*' :: '/' :: back ∧ '\n' ∉ middle ∧
      isLastComment (back.dropWhile isSpaceOrTab) = true := by
  fun_induction closesBeforeLastComment text with
  | case1 => cases h
  | case2 text ih =>
    rcases Bool.or_eq_true _ _ ▸ h with hlast | hrest
    · exact ⟨[], text, rfl, by simp, hlast⟩
    · obtain ⟨middle, back, htext, hline, hlast⟩ := ih hrest
      exact ⟨'*' :: middle, back, by rw [htext, List.cons_append], by simpa using hline, hlast⟩
  | case3 c text _ ih =>
    simp only [Bool.and_eq_true, decide_eq_true_eq] at h
    obtain ⟨middle, back, htext, hline, hlast⟩ := ih h.2
    refine ⟨c :: middle, back, by rw [htext, List.cons_append], ?_, hlast⟩
    simpa [Ne.symm h.1] using hline

theorem isTrailer_iff_or {text : Text} : isTrailer text = true ↔
    isLastComment (text.dropWhile isSpaceOrTab) = true ∨
      ∃ rest, text.dropWhile isSpaceOrTab = '/' :: '*' :: rest ∧ closesBeforeLastComment rest = true := by
  unfold isTrailer
  split
  · rename_i rest heq
    simp [heq]
  · rename_i heq
    constructor
    · exact .inl
    · rintro (hlast | ⟨rest, hrest, -⟩)
      · exact hlast
      · exact absurd hrest (heq rest)

theorem isTrailer_blanks_append {blanks : Text} (hblanks : ∀ c ∈ blanks, isSpaceOrTab c = true)
    (text : Text) : isTrailer (blanks ++ text) = isTrailer text := by
  rw [isTrailer, isTrailer, List.dropWhile_append_of_pos hblanks]

theorem newline_not_mem_of_blank {blanks : Text} (h : ∀ c ∈ blanks, isSpaceOrTab c = true) :
    '\n' ∉ blanks := fun hmem => absurd (h _ hmem) (by decide)

theorem closesBeforeLastComment_of_isTrailer {middle text : Text} (hline : '\n' ∉ middle)
    (h : isTrailer text = true) : closesBeforeLastComment (middle ++ '*' :: '/' :: text) = true := by
  apply closesBeforeLastComment_append hline
  rcases isTrailer_iff_or.mp h with hlast | ⟨rest, hrest, hcloses⟩
  · rw [closesBeforeLastComment, hlast, Bool.true_or]
  · have hblanks : '\n' ∉ text.takeWhile isSpaceOrTab :=
      newline_not_mem_of_blank fun c => List.mem_takeWhile_imp
    have hfront : '\n' ∉ '*' :: '/' :: (text.takeWhile isSpaceOrTab ++ ['/', '*']) := by
      simp [hblanks]
    have hcut := closesBeforeLastComment_append hfront hcloses
    rwa [List.cons_append, List.cons_append, List.append_assoc, List.cons_append, List.cons_append,
      List.nil_append, ← hrest, List.takeWhile_append_dropWhile] at hcut

theorem Trailer.isTrailer_eq {text : Text} {opens : Bool} (h : Trailer text opens) :
    isTrailer text = true := by
  induction h with
  | nil => rfl
  | hidden hline => simpa [isTrailer, isSpaceOrTab, isLastComment, onOneLine] using hline
  | @unclosed text hline hopen =>
    have hnone : cut? ['*', '/'] text = none := cut?_eq_none_iff.mpr hopen
    simp [isTrailer, isSpaceOrTab, isLastComment, onOneLine, hline, hnone]
  | @blank c _ _ hc hrest ih =>
    have hblank : ∀ d ∈ [c], isSpaceOrTab d = true := by simpa using hc
    exact (isTrailer_blanks_append hblank _).trans ih
  | comment hline hopen hrest ih =>
    exact isTrailer_iff_or.mpr (.inr ⟨_, rfl, closesBeforeLastComment_of_isTrailer hline ih⟩)

theorem isTrailer_iff {text : Text} :
    isTrailer text = true ↔ (∃ opens, Trailer text opens) ∨ Stretched text := by
  constructor
  · intro h
    rcases isTrailer_iff_or.mp h with hlast | ⟨rest, hrest, hcloses⟩
    · exact .inl (exists_trailer_of_dropWhile hlast)
    · obtain ⟨middle, back, rfl, hline, hlast⟩ := exists_cut_of_closesBeforeLastComment hcloses
      obtain ⟨opens, hback⟩ := exists_trailer_of_dropWhile hlast
      refine .inr ⟨text.takeWhile isSpaceOrTab, middle, back, opens, ?_, ?_, hline, hback⟩
      · rw [← hrest, List.takeWhile_append_dropWhile]
      · exact fun c => List.mem_takeWhile_imp
  · rintro (⟨opens, h⟩ | ⟨blanks, middle, back, opens, rfl, hblanks, hline, hback⟩)
    · exact h.isTrailer_eq
    · rw [isTrailer_blanks_append hblanks]
      exact isTrailer_iff_or.mpr
        (.inr ⟨_, rfl, closesBeforeLastComment_of_isTrailer hline hback.isTrailer_eq⟩)

end Source

end ShaderSources
