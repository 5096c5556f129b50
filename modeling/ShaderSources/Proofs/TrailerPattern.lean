import Mathlib.Computability.Language
import ShaderSources.Proofs.Trailers

namespace ShaderSources.Source

open Text
open scoped Computability

def blanks : Language Char := {text | ∀ c ∈ text, isSpaceOrTab c = true}

def sameLine : Language Char := {text | '\n' ∉ text}

def spelled (mark : Text) : Language Char := {mark}

/-- A block comment up to some `*/`, not only up to the first one. -/
def closedComment : Language Char := spelled ['/', '*'] * sameLine * spelled ['*', '/']

def hiddenLine : Language Char := spelled ['/', '/'] * sameLine

def guarded : Language Char :=
  {text | '\n' ∉ text ∧ ∀ back, back <:+ text → ¬ ['*', '/'] <+: back}

def openComment : Language Char := spelled ['/', '*'] * guarded

/-- The texts that match `[ \t]*(?:/\*.*?\*/[ \t]*)*(?://.*|/\*(?:(?!\*/).)*)?` as a whole. -/
def trailers : Language Char :=
  blanks * (closedComment * blanks)∗ * (hiddenLine + openComment + 1)

theorem mem_spelled_mul {mark text : Text} {l : Language Char} :
    text ∈ spelled mark * l ↔ ∃ rest ∈ l, mark ++ rest = text := by
  rw [Language.mem_mul]
  constructor
  · rintro ⟨front, rfl, rest, hrest, rfl⟩
    exact ⟨rest, hrest, rfl⟩
  · rintro ⟨rest, hrest, rfl⟩
    exact ⟨mark, rfl, rest, hrest, rfl⟩

theorem mem_closedComment {text : Text} :
    text ∈ closedComment ↔ ∃ middle, '\n' ∉ middle ∧ text = '/' :: '*' :: (middle ++ ['*', '/']) := by
  rw [closedComment, mul_assoc, mem_spelled_mul]
  constructor
  · rintro ⟨_, ⟨middle, hline, _, rfl, rfl⟩, rfl⟩
    exact ⟨middle, hline, rfl⟩
  · rintro ⟨middle, hline, rfl⟩
    exact ⟨_, ⟨middle, hline, _, rfl, rfl⟩, rfl⟩

theorem mem_guarded {text : Text} : text ∈ guarded ↔ '\n' ∉ text ∧ cut? ['*', '/'] text = none := by
  rw [cut?_eq_none_iff, List.infix_iff_prefix_suffix, not_exists]
  refine and_congr_right fun _ => forall_congr' fun back => ?_
  rw [not_and, imp_not_comm]

theorem isLastComment_iff {text : Text} :
    isLastComment text = true ↔ text ∈ hiddenLine + openComment + 1 := by
  rw [Language.mem_add, Language.mem_add, Language.mem_one, hiddenLine, openComment, mem_spelled_mul,
    mem_spelled_mul]
  constructor
  · intro h
    unfold isLastComment at h
    split at h
    · exact .inr rfl
    · exact .inl (.inl ⟨_, show '\n' ∉ _ by simpa [onOneLine] using h, rfl⟩)
    · exact .inl (.inr ⟨_, mem_guarded.mpr (by simpa [onOneLine] using h), rfl⟩)
    · cases h
  · rintro ((⟨rest, hline, rfl⟩ | ⟨rest, hguarded, rfl⟩) | rfl)
    · have hline' : '\n' ∉ rest := hline
      simp [isLastComment, onOneLine, hline']
    · obtain ⟨hline, hnone⟩ := mem_guarded.mp hguarded
      simp [isLastComment, onOneLine, hline, hnone]
    · rfl

theorem isTrailer_of_isLastComment {text : Text} (h : isLastComment text = true) :
    isTrailer text = true := by
  obtain ⟨opens, htrailer⟩ := exists_trailer_of_isLastComment h
  exact htrailer.isTrailer_eq

-- By induction on the repetitions of the group: what stands behind one of them is a trailer.
theorem isTrailer_of_groups {groups : List Text} {last : Text}
    (hgroups : ∀ group ∈ groups, group ∈ closedComment * blanks) (hlast : isLastComment last = true) :
    isTrailer (groups.flatten ++ last) = true := by
  induction groups with
  | nil => exact isTrailer_of_isLastComment hlast
  | cons group groups ih =>
    obtain ⟨hgroup, hrest⟩ := List.forall_mem_cons.mp hgroups
    obtain ⟨_, hclosed, after, hafter, rfl⟩ := Language.mem_mul.mp hgroup
    obtain ⟨middle, hline, rfl⟩ := mem_closedComment.mp hclosed
    have hback : isTrailer (after ++ (groups.flatten ++ last)) = true :=
      (isTrailer_blanks_append hafter _).trans (ih hrest)
    have hcloses := closesBeforeLastComment_of_isTrailer hline hback
    refine isTrailer_iff_or.mpr (.inr ⟨_, ?_, hcloses⟩)
    simp [isSpaceOrTab]

theorem isTrailer_iff_mem {text : Text} : isTrailer text = true ↔ text ∈ trailers := by
  have hlead : text.takeWhile isSpaceOrTab ∈ blanks := fun c => List.mem_takeWhile_imp
  rw [trailers, mul_assoc, Language.mem_mul]
  constructor
  · intro h
    rcases isTrailer_iff_or.mp h with hlast | ⟨rest, hrest, hcloses⟩
    · refine ⟨_, hlead, _, ?_, List.takeWhile_append_dropWhile⟩
      exact Language.mem_mul.mpr ⟨[], Language.nil_mem_kstar _, _, isLastComment_iff.mp hlast, rfl⟩
    · -- The whole stretch up to the last `*/` that counts is one repetition of the group.
      obtain ⟨middle, back, rfl, hline, hlast⟩ := exists_cut_of_closesBeforeLastComment hcloses
      have hgroup : '/' :: '*' :: (middle ++ ['*', '/']) ++ back.takeWhile isSpaceOrTab ∈
          closedComment * blanks :=
        Language.append_mem_mul (mem_closedComment.mpr ⟨middle, hline, rfl⟩)
          fun c => List.mem_takeWhile_imp
      have hgroups := @Language.join_mem_kstar _ _ [_] (List.forall_mem_singleton.mpr hgroup)
      refine ⟨_, hlead, _,
        Language.append_mem_mul hgroups (isLastComment_iff.mp hlast), ?_⟩
      have hback : back.takeWhile isSpaceOrTab ++ back.dropWhile isSpaceOrTab = back :=
        List.takeWhile_append_dropWhile
      calc text.takeWhile isSpaceOrTab ++ ([_].flatten ++ back.dropWhile isSpaceOrTab)
          = text.takeWhile isSpaceOrTab ++ '/' :: '*' :: (middle ++ '*' :: '/' ::
              (back.takeWhile isSpaceOrTab ++ back.dropWhile isSpaceOrTab)) := by simp
        _ = text := by rw [hback, ← hrest, List.takeWhile_append_dropWhile]
  · rintro ⟨lead, hblank, _, hrest, rfl⟩
    obtain ⟨_, hgroups, last, hlast, rfl⟩ := Language.mem_mul.mp hrest
    obtain ⟨groups, rfl, hall⟩ := Language.mem_kstar.mp hgroups
    rw [isTrailer_blanks_append hblank]
    exact isTrailer_of_groups hall (isLastComment_iff.mpr hlast)

end ShaderSources.Source
