import ShaderSources.Proofs.LiveLines

namespace ShaderSources.Source

namespace Passage

def consRun (start : Nat) (text : Text) : List Passage → List Passage
  | verbatim _ more :: rest => verbatim start (text ++ more) :: rest
  | rest => verbatim start text :: rest

theorem consRun_consRun (start number : Nat) (text line : Text) (ps : List Passage) :
    consRun start text (consRun number line ps) = consRun start (text ++ line) ps := by
  cases ps with
  | nil => rfl
  | cons p ps =>
    cases p with
    | verbatim first more => simp only [consRun, List.append_assoc]
    | directive d => rfl
    | malformed n m => rfl

def ofLines : List Line → List Passage
  | [] => []
  | line :: rest =>
    match line.reading with
    | .ordinary => consRun line.number line.text (ofLines rest)
    | .directive d => directive d :: ofLines rest
    | .malformed m => malformed line.number m :: ofLines rest

end Passage

def Pending.before (pending : Pending) (ps : List Passage) : List Passage :=
  if pending.texts = [] then ps else Passage.consRun pending.start pending.texts.flatten ps

theorem Pending.before_clear (pending : Pending) (ps : List Passage) : pending.clear.before ps = ps :=
  if_pos rfl

theorem Pending.before_add (pending : Pending) (line : Line) (ps : List Passage) :
    (pending.add line).before ps = pending.before (Passage.consRun line.number line.text ps) := by
  have hne : pending.texts ++ [line.text] ≠ [] := by simp
  rw [before, before, add, if_neg hne, List.flatten_append, List.flatten_singleton]
  by_cases hempty : pending.texts = []
  · rw [if_pos hempty, if_pos hempty, hempty]
    rfl
  · rw [if_neg hempty, if_neg hempty, Passage.consRun_consRun]

-- By induction on the lines, the pending ones generalised: an ordinary line is added to them, and
-- every other one flushes them.
theorem Passage.collect_eq (pending : Pending) (lines : List Line) :
    collect pending lines = pending.before (ofLines lines) := by
  induction lines generalizing pending with
  | nil => rfl
  | cons line lines ih =>
    rw [collect, ofLines]
    cases line.reading with
    | ordinary => simp only [ih, Pending.before_add]
    | directive d =>
      simp only [ih, Pending.before_clear]
      rw [Pending.flush, Pending.before]
      split <;> rfl
    | malformed m =>
      simp only [ih, Pending.before_clear]
      rw [Pending.flush, Pending.before]
      split <;> rfl

theorem passages_eq (source : Text) : passages source = Passage.ofLines (lines source) := by
  rw [passages, Passage.collect_eq]
  exact if_pos rfl

def OrdinaryRun (before run : List Text) : Prop :=
  ∀ front text back, run = front ++ text :: back → readingAfter (before ++ front) text = .ordinary

/-- `Cut before texts passages`: the passages that the lines `texts` behind `before` are cut into. -/
inductive Cut : List Text → List Text → List Passage → Prop
  | done (before : List Text) : Cut before [] []
  | verbatim {before run texts : List Text} {ps : List Passage} (hne : run ≠ [])
      (hrun : OrdinaryRun before run) (hnext : ∀ start text rest, ps ≠ .verbatim start text :: rest)
      (hrest : Cut (before ++ run) texts ps) :
      Cut before (run ++ texts) (.verbatim (before.length + 1) run.flatten :: ps)
  | directive {before texts : List Text} {text : Text} {d : Directive} {ps : List Passage}
      (hlive : Live before text d) (hrest : Cut (before ++ [text]) texts ps) :
      Cut before (text :: texts) (.directive d :: ps)
  | malformed {before texts : List Text} {text : Text} {m : Malformed} {ps : List Passage}
      (hread : readingAfter before text = .malformed m) (hrest : Cut (before ++ [text]) texts ps) :
      Cut before (text :: texts) (.malformed (before.length + 1) m :: ps)

theorem OrdinaryRun.singleton {before : List Text} {text : Text}
    (h : readingAfter before text = .ordinary) : OrdinaryRun before [text] := by
  intro front t back he
  cases front with
  | nil =>
    cases he
    simpa using h
  | cons a front => simp at he

theorem OrdinaryRun.cons {before run : List Text} {text : Text}
    (h : readingAfter before text = .ordinary) (hrun : OrdinaryRun (before ++ [text]) run) :
    OrdinaryRun before (text :: run) := by
  intro front t back he
  cases front with
  | nil =>
    cases he
    simpa using h
  | cons a front =>
    simp only [List.cons_append, List.cons.injEq] at he
    obtain ⟨rfl, rfl⟩ := he
    simpa using hrun front t back rfl

theorem OrdinaryRun.of_cons {before run : List Text} {text : Text}
    (h : OrdinaryRun before (text :: run)) :
    readingAfter before text = .ordinary ∧ OrdinaryRun (before ++ [text]) run := by
  constructor
  · simpa using h [] text run rfl
  · intro front t back he
    simpa using h (text :: front) t back (by rw [he]; rfl)

theorem OrdinaryRun.not_liveAt {lines : List Text} (h : OrdinaryRun [] lines) (k : Nat)
    (d : Directive) : ¬ LiveAt lines k d := by
  rintro ⟨before, text, after, rfl, rfl, hlive⟩
  have hread := h before text after rfl
  rw [List.nil_append, live_iff.mp hlive] at hread
  cases hread

theorem OrdinaryRun.not_brokenAt {lines : List Text} (h : OrdinaryRun [] lines) (k : Nat)
    (m : Malformed) : ¬ BrokenAt lines k m := by
  rintro ⟨before, text, after, rfl, rfl, hbroken⟩
  have hread := h before text after rfl
  rw [List.nil_append, broken_iff.mp hbroken] at hread
  cases hread

theorem Cut.consRun {before texts : List Text} {text : Text} {ps : List Passage}
    (h : readingAfter before text = .ordinary) (hcut : Cut (before ++ [text]) texts ps) :
    Cut before (text :: texts) (Passage.consRun (before.length + 1) text ps) := by
  have alone (hnext : ∀ start t rest, ps ≠ .verbatim start t :: rest) :
      Cut before (text :: texts) (.verbatim (before.length + 1) text :: ps) := by
    have := Cut.verbatim (List.cons_ne_nil text []) (.singleton h) hnext hcut
    simpa only [List.flatten_cons, List.flatten_nil, List.append_nil, List.singleton_append] using this
  cases hcut with
  | done => exact alone (by simp)
  | @verbatim _ run texts ps hne hrun hnext hrest =>
    refine Cut.verbatim (List.cons_ne_nil text run) (.cons h hrun) hnext ?_
    rwa [List.append_assoc] at hrest
  | directive hlive hrest => exact alone (by simp)
  | malformed hread hrest => exact alone (by simp)

theorem Cut.exists_liveAt {before texts : List Text} {ps : List Passage} (h : Cut before texts ps)
    {d : Directive} (hd : .directive d ∈ ps) : ∃ k, LiveAt (before ++ texts) k d := by
  induction h with
  | done => cases hd
  | verbatim hne hrun hnext hrest ih =>
    rw [← List.append_assoc]
    exact ih ((List.mem_cons.mp hd).resolve_left nofun)
  | @directive before texts text e ps hlive hrest ih =>
    rcases List.mem_cons.mp hd with he | hd
    · cases he
      exact ⟨_, liveAt_iff.mpr hlive⟩
    · rw [List.append_cons]
      exact ih hd
  | malformed hread hrest ih =>
    rw [List.append_cons]
    exact ih ((List.mem_cons.mp hd).resolve_left nofun)

theorem Cut.brokenAt {before texts : List Text} {ps : List Passage} (h : Cut before texts ps)
    {line : Nat} {m : Malformed} (hm : .malformed line m ∈ ps) :
    BrokenAt (before ++ texts) line m := by
  induction h with
  | done => cases hm
  | verbatim hne hrun hnext hrest ih =>
    rw [← List.append_assoc]
    exact ih ((List.mem_cons.mp hm).resolve_left nofun)
  | directive hlive hrest ih =>
    rw [List.append_cons]
    exact ih ((List.mem_cons.mp hm).resolve_left nofun)
  | @malformed before texts text m' ps hread hrest ih =>
    rcases List.mem_cons.mp hm with he | hm
    · cases he
      exact ⟨before, text, texts, rfl, rfl, broken_iff.mpr hread⟩
    · rw [List.append_cons]
      exact ih hm

theorem readLines_cons (before texts : List Text) (text : Text) :
    readLines (carryAfter before) (before.length + 1) (text :: texts) =
      ⟨before.length + 1, text, readingAfter before text⟩ ::
        readLines (carryAfter (before ++ [text])) ((before ++ [text]).length + 1) texts := by
  rw [carryAfter_append, List.length_append, List.length_singleton]
  rfl

theorem cut_ofLines (before texts : List Text) :
    Cut before texts (Passage.ofLines (readLines (carryAfter before) (before.length + 1) texts)) := by
  induction texts generalizing before with
  | nil => exact .done before
  | cons text texts ih =>
    have hrest := ih (before ++ [text])
    rw [readLines_cons]
    cases h : readingAfter before text with
    | ordinary => exact hrest.consRun h
    | directive d => exact .directive (live_iff.mpr h) hrest
    | malformed m => exact .malformed h hrest

theorem cut_passages (source : Text) : Cut [] (Text.splitLines source) (passages source) := by
  rw [passages_eq]
  exact cut_ofLines [] (Text.splitLines source)

theorem exists_liveAt {source : Text} {d : Directive} (h : .directive d ∈ passages source) :
    ∃ k, LiveAt (Text.splitLines source) k d :=
  (cut_passages source).exists_liveAt h

theorem brokenAt_of_mem {source : Text} {line : Nat} {m : Malformed}
    (h : .malformed line m ∈ passages source) : BrokenAt (Text.splitLines source) line m :=
  (cut_passages source).brokenAt h

end ShaderSources.Source
