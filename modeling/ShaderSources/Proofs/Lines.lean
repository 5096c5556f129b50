import ShaderSources.Text.Lines

namespace ShaderSources.Text

inductive IsLines : List Text → Prop
  | nil : IsLines []
  | last {line : Text} (hne : line ≠ []) (hfree : '\n' ∉ line) : IsLines [line]
  | cons {body : Text} {rest : List Text} (hfree : '\n' ∉ body) (hrest : IsLines rest) :
      IsLines ((body ++ ['\n']) :: rest)

def Closed (text : Text) : Prop := text = [] ∨ endsWith text '\n' = true

instance (text : Text) : Decidable (Closed text) :=
  inferInstanceAs (Decidable (text = [] ∨ endsWith text '\n' = true))

theorem endsWith_append {rest : Text} (hne : rest ≠ []) (text : Text) (c : Char) :
    endsWith (text ++ rest) c = endsWith rest c := by
  cases h : rest.getLast? with
  | none => exact absurd (List.getLast?_eq_none_iff.mp h) hne
  | some d => simp [endsWith, List.getLast?_append, h]

theorem closed_append {text rest : Text} (hne : rest ≠ []) : Closed (text ++ rest) ↔ Closed rest := by
  have happ : text ++ rest ≠ [] := by simp [hne]
  simp only [Closed, happ, hne, false_or, endsWith_append hne]

theorem Closed.append {a b : Text} (ha : Closed a) (hb : Closed b) : Closed (a ++ b) := by
  by_cases hne : b = []
  · rwa [hne, List.append_nil]
  · exact (closed_append hne).mpr hb

theorem mem_of_endsWith {text : Text} {c : Char} (h : endsWith text c = true) : c ∈ text := by
  rw [endsWith, decide_eq_true_eq] at h
  exact List.mem_of_getLast? h

theorem Closed.newline_mem {text : Text} (h : Closed text) (hne : text ≠ []) : '\n' ∈ text :=
  mem_of_endsWith (h.resolve_left hne)

theorem dropEnd_of_not_mem {text : Text} {c : Char} (h : c ∉ text) : dropEnd c text = text := by
  have hend : ¬ endsWith text c = true := fun hend => h (mem_of_endsWith hend)
  rw [dropEnd, if_neg hend]

theorem dropEnd_concat (text : Text) (c : Char) : dropEnd c (text ++ [c]) = text := by
  simp [dropEnd, endsWith]

theorem count_take_of_not_mem_drop {text : Text} {c : Char} {n : Nat} (hfree : c ∉ text.drop n) :
    (text.take n).count c = text.count c := by
  calc (text.take n).count c = (text.take n).count c + (text.drop n).count c := by
        rw [List.count_eq_zero.mpr hfree, Nat.add_zero]
    _ = text.count c := by rw [← List.count_append, List.take_append_drop]

theorem splitLines_isLines (text : Text) : IsLines (splitLines text) := by
  induction text with
  | nil => exact .nil
  | cons c text ih =>
    simp only [splitLines]
    by_cases hc : c = '\n'
    · rw [if_pos hc]
      exact @IsLines.cons [] _ (by simp) ih
    · rw [if_neg hc]
      have hc' : '\n' ∉ [c] := by simpa using Ne.symm hc
      cases hs : splitLines text with
      | nil => exact .last (by simp) hc'
      | cons line rest =>
        rw [hs] at ih
        cases ih with
        | last hne hfree => exact .last (by simp) (by simp [Ne.symm hc, hfree])
        | @cons body rest hfree hrest =>
          exact @IsLines.cons (c :: body) rest (by simp [Ne.symm hc, hfree]) hrest

theorem splitLines_of_not_mem {line : Text} (hne : line ≠ []) (hfree : '\n' ∉ line) :
    splitLines line = [line] := by
  induction line with
  | nil => exact absurd rfl hne
  | cons c line ih =>
    simp only [List.mem_cons, not_or] at hfree
    simp only [splitLines, Ne.symm hfree.1, if_false]
    by_cases hl : line = []
    · simp [hl, splitLines]
    · simp [ih hl hfree.2]

theorem splitLines_body_append {body : Text} (hfree : '\n' ∉ body) (text : Text) :
    splitLines (body ++ '\n' :: text) = (body ++ ['\n']) :: splitLines text := by
  induction body with
  | nil => simp [splitLines]
  | cons c body ih =>
    simp only [List.mem_cons, not_or] at hfree
    simp [splitLines, Ne.symm hfree.1, ih hfree.2]

theorem splitLines_flatten {lines : List Text} (h : IsLines lines) :
    splitLines lines.flatten = lines := by
  induction h with
  | nil => rfl
  | last hne hfree => simpa using splitLines_of_not_mem hne hfree
  | cons hfree hrest ih => simp [splitLines_body_append hfree, ih]

theorem IsLines.of_append {front back : List Text} (h : IsLines (front ++ back)) :
    IsLines front ∧ IsLines back := by
  induction front with
  | nil => exact ⟨.nil, h⟩
  | cons line front ih =>
    generalize he : line :: front ++ back = lines at h
    cases h with
    | nil => simp at he
    | last hne hfree =>
      simp only [List.cons_append, List.cons.injEq, List.append_eq_nil_iff] at he
      obtain ⟨rfl, rfl, rfl⟩ := he
      exact ⟨.last hne hfree, .nil⟩
    | cons hfree hrest =>
      simp only [List.cons_append, List.cons.injEq] at he
      obtain ⟨rfl, rfl⟩ := he
      exact ⟨.cons hfree (ih hrest).1, (ih hrest).2⟩

theorem IsLines.terminated {front back : List Text} {line : Text} (h : IsLines (front ++ line :: back)) :
    front.flatten.count '\n' = front.length ∧ Closed front.flatten := by
  induction front with
  | nil => simp [Closed]
  | cons first front ih =>
    generalize he : first :: front ++ line :: back = lines at h
    cases h with
    | nil => simp at he
    | last hne hfree => simp at he
    | @cons body rest hfree hrest =>
      simp only [List.cons_append, List.cons.injEq] at he
      obtain ⟨rfl, rfl⟩ := he
      obtain ⟨hcount, hclosed⟩ := ih hrest
      have hbody : body.count '\n' = 0 := List.count_eq_zero.mpr hfree
      refine ⟨by simp [hcount, hbody], ?_⟩
      by_cases hf : front.flatten = []
      · exact Or.inr (by simp [hf, endsWith])
      · simpa [List.flatten_cons] using (@closed_append (body ++ ['\n']) _ hf).mpr hclosed

theorem IsLines.length_eq {lines : List Text} (h : IsLines lines) :
    lines.length = lineCount lines.flatten := by
  induction h with
  | nil => rfl
  | @last line hne hfree =>
    have hend : endsWith line '\n' = false := by
      simpa [endsWith] using fun hl => hfree (List.mem_of_getLast? hl)
    simp [lineCount, hne, hend, List.count_eq_zero.mpr hfree]
  | @cons body rest hfree hrest ih =>
    have hbody : body.count '\n' = 0 := List.count_eq_zero.mpr hfree
    by_cases hr : rest.flatten = []
    · have hlen : rest.length = 0 := by rw [ih, hr]; rfl
      simp [lineCount, hr, hbody, hlen, endsWith]
    · have hend : endsWith (body ++ '\n' :: rest.flatten) '\n' = endsWith rest.flatten '\n' := by
        rw [List.append_cons, endsWith_append hr]
      simp only [lineCount, hr, if_false] at ih
      simp [lineCount, hbody, hend, ih]; omega

theorem length_splitLines (text : Text) : (splitLines text).length = lineCount text := by
  have h := (splitLines_isLines text).length_eq
  rwa [flatten_splitLines] at h

theorem IsLines.splitLines_append {lines : List Text} (h : IsLines lines)
    (hclosed : Closed lines.flatten) (rest : Text) :
    splitLines (lines.flatten ++ rest) = lines ++ splitLines rest := by
  induction h with
  | nil => rfl
  | @last line hne hfree =>
    rcases hclosed with h | h
    · simp [hne] at h
    · simp only [endsWith, List.flatten_cons, List.flatten_nil, List.append_nil, decide_eq_true_eq] at h
      exact absurd (List.mem_of_getLast? h) hfree
  | @cons body lines hfree hlines ih =>
    have hrest : Closed lines.flatten := by
      by_cases hl : lines.flatten = []
      · exact Or.inl hl
      · exact (closed_append hl).mp (by simpa only [List.flatten_cons] using hclosed)
    rw [List.flatten_cons, List.append_assoc, List.append_assoc, List.singleton_append,
      splitLines_body_append hfree, ih hrest, List.cons_append]

theorem IsLines.splitLines_front {front back : List Text} (h : IsLines (front ++ back)) {rest : Text}
    (hrest : back = [] → rest = []) : splitLines (front.flatten ++ rest) = front ++ splitLines rest := by
  cases back with
  | nil =>
    rw [hrest rfl, List.append_nil, splitLines_flatten h.of_append.1]
    exact (List.append_nil front).symm
  | cons line back => exact h.of_append.1.splitLines_append h.terminated.2 rest

theorem splitLines_append {text : Text} (h : Closed text) (rest : Text) :
    splitLines (text ++ rest) = splitLines text ++ splitLines rest := by
  have happ hclosed := (splitLines_isLines text).splitLines_append hclosed rest
  rw [flatten_splitLines] at happ
  exact happ h

theorem length_splitLines_of_closed {text : Text} (h : Closed text) :
    (splitLines text).length = text.count '\n' := by
  rw [length_splitLines]
  rcases h with rfl | h
  · rfl
  · have hne : text ≠ [] := by rintro rfl; simp [endsWith] at h
    simp [lineCount, hne, h]

theorem splitLines_ne_nil {text : Text} (hne : text ≠ []) : splitLines text ≠ [] := by
  intro hnil
  have hflat := flatten_splitLines text
  rw [hnil] at hflat
  exact hne hflat.symm

theorem closed_flatten {texts : List Text} (h : ∀ text ∈ texts, Closed text) :
    Closed texts.flatten := by
  induction texts with
  | nil => exact .inl rfl
  | cons text texts ih =>
    have hrest := ih fun t ht => h t (List.mem_cons_of_mem _ ht)
    exact (h text List.mem_cons_self).append hrest

def IsEnding (text : Text) : Prop := text = ['\n'] ∨ text = ['\r', '\n']

theorem IsLines.exists_ending {front back : List Text} {line : Text}
    (h : IsLines (front ++ line :: back)) : ∀ text ∈ front, ∃ ending,
      IsEnding ending ∧ text = lineBody text ++ ending ∧ '\n' ∉ lineBody text := by
  induction front with
  | nil => simp
  | cons first front ih =>
    generalize he : first :: front ++ line :: back = lines at h
    cases h with
    | nil => simp at he
    | last hne hfree => simp at he
    | @cons body rest hfree hrest =>
      simp only [List.cons_append, List.cons.injEq] at he
      obtain ⟨rfl, rfl⟩ := he
      refine List.forall_mem_cons.mpr ⟨?_, ih hrest⟩
      rw [lineBody, dropEnd_concat]
      by_cases hreturn : endsWith body '\r' = true
      · rw [endsWith, decide_eq_true_eq] at hreturn
        obtain ⟨before, rfl⟩ := List.getLast?_eq_some_iff.mp hreturn
        rw [dropEnd_concat]
        simp only [List.mem_append, not_or] at hfree
        exact ⟨['\r', '\n'], .inr rfl, List.append_assoc _ _ _, hfree.1⟩
      · rw [dropEnd, if_neg hreturn]
        exact ⟨['\n'], .inl rfl, rfl, hfree⟩

end ShaderSources.Text
