import ShaderSources.Proofs.LineOrigins

namespace ShaderSources

open Text

namespace Source

/-- Read from `carry` on, wherever they stand, all the lines are ordinary, and `after` is carried on
from them. -/
inductive Plain : Carry → List Text → Carry → Prop
  | nil {carry : Carry} : Plain carry [] carry
  | cons {carry after : Carry} {text : Text} {texts : List Text}
      (hread : ∀ number, readBody carry number (lineBody text) = .ordinary)
      (hrest : Plain (carry.next (lineBody text) .ordinary) texts after) :
      Plain carry (text :: texts) after

structure Settled (source : Text) : Prop where
  closed : Closed source
  outside : (carryAfter (splitLines source)).inComment = false
  whole : ∀ last, (splitLines source).getLast? = some last → endsWith (lineBody last) '\\' = false

theorem readPath_ne_ordinary (number : Int) (delimiter : Delimiter) (text : Text) :
    readPath number delimiter text ≠ .ordinary := by
  unfold readPath
  split
  · nofun
  · split
    · nofun
    · split
      · nofun
      · nofun

theorem ofBody_ordinary_iff {number : Int} {body : Text} :
    Reading.ofBody number body = .ordinary ↔ afterKeyword? body = none := by
  unfold Reading.ofBody
  split
  · rename_i h
    simp [h]
  · rename_i text h
    simp only [h, reduceCtorEq, iff_false]
    split
    · nofun
    · split
      · nofun
      · exact readPath_ne_ordinary _ _ _

-- A line's number shows only in an include line, so a line is ordinary wherever it stands.
theorem readBody_ordinary {carry : Carry} {number : Nat} {body : Text}
    (h : readBody carry number body = .ordinary) (other : Nat) :
    readBody carry other body = .ordinary := by
  unfold readBody at h ⊢
  split
  · rfl
  · rename_i hread
    rw [if_neg hread, ofBody_ordinary_iff] at h
    exact ofBody_ordinary_iff.mpr h

theorem Plain.append {carry middle after : Carry} {front back : List Text}
    (h : Plain carry front middle) (hback : Plain middle back after) :
    Plain carry (front ++ back) after := by
  induction h with
  | nil => exact hback
  | cons hread hrest ih => exact .cons hread (ih hback)

theorem Plain.of_ordinaryRun {before run : List Text} (h : OrdinaryRun before run) :
    Plain (carryAfter before) run (carryAfter (before ++ run)) := by
  induction run generalizing before with
  | nil =>
    rw [List.append_nil]
    exact .nil
  | cons text run ih =>
    obtain ⟨hread, htail⟩ := h.of_cons
    have hrest := ih htail
    rw [carryAfter_append, hread, ← List.append_cons] at hrest
    exact .cons (readBody_ordinary hread) hrest

theorem Plain.ordinaryRun {before run : List Text} {after : Carry}
    (h : Plain (carryAfter before) run after) : OrdinaryRun before run := by
  induction run generalizing before with
  | nil =>
    intro front text back he
    simp at he
  | cons text run ih =>
    cases h with
    | cons hread hrest =>
      have hhere : readingAfter before text = .ordinary := hread _
      apply OrdinaryRun.cons hhere
      apply ih
      rw [carryAfter_append, hhere]
      exact hrest

theorem Plain.ofLines_eq {carry after : Carry} {text : Text} {texts : List Text}
    (h : Plain carry (text :: texts) after) (number : Nat) :
    Passage.ofLines (readLines carry number (text :: texts)) =
      [.verbatim number (text :: texts).flatten] := by
  induction texts generalizing carry text number with
  | nil =>
    cases h with
    | cons hread hrest => simp [readLines, Passage.ofLines, Passage.consRun, hread]
  | cons next texts ih =>
    cases h with
    | cons hread hrest =>
      have htail := ih hrest (number + 1)
      rw [readLines]
      simp only [hread, Passage.ofLines, htail, Passage.consRun]
      rfl

theorem Carry.eq_start {carry : Carry} (hout : carry.inComment = false)
    (hfresh : carry.continued = false) : carry = .start := by
  cases carry
  cases hout
  cases hfresh
  rfl

theorem Live.carry_eq {before : List Text} {text : Text} {d : Directive} (h : Live before text d) :
    carryAfter before = .start := by
  have hfresh := (not_continued_carryAfter before).mpr h.fresh
  exact Carry.eq_start h.outside hfresh

theorem Live.carry_next {before : List Text} {text : Text} {d : Directive} (h : Live before text d)
    (hopens : d.opensComment = false) : carryAfter (before ++ [text]) = .start := by
  rw [carryAfter_append, live_iff.mp h, Carry.next, hopens]
  rfl

theorem settled_iff {source : Text} :
    Settled source ↔ Closed source ∧ carryAfter (splitLines source) = .start := by
  constructor
  · intro h
    have hfresh := (not_continued_carryAfter _).mpr h.whole
    exact ⟨h.closed, Carry.eq_start h.outside hfresh⟩
  · rintro ⟨hclosed, hcarry⟩
    refine ⟨hclosed, ?_, (not_continued_carryAfter _).mp ?_⟩
    · rw [hcarry]
      rfl
    · rw [hcarry]
      rfl

instance (source : Text) : Decidable (Settled source) := decidable_of_iff _ settled_iff.symm

end Source

open Source

variable {Context Fault : Type} {provider : Provider Context Fault} {options : Options}

structure Root.Seamless (S : Root Context) : Prop where
  settled : Settled S.source
  closed : Closed (Chunk.join S.chunks)
  opens : ∀ d, .directive d ∈ passages S.source → d.opensComment = false

theorem Crawled.closed_join {root S : Root Context} (h : Crawled provider options root)
    (hclosed : ∀ S ∈ root.expansion.sources, Closed S.source) (hS : S ∈ root.expansion.sources) :
    Closed (Chunk.join S.chunks) := by
  apply closed_flatten
  intro text htext
  obtain ⟨chunk, hchunk, rfl⟩ := List.mem_map.mp htext
  exact h.closed_of_mem_chunks hclosed hS hchunk

theorem Expands.plain {room : Nat} {site : Site Context} {memory after : Memory Context}
    {ps : List Passage} {tree : Expansion Context}
    (h : Expands provider options room site memory ps tree after) {before texts : List Text}
    (hcut : Cut before texts ps) (hlines : IsLines texts)
    (hopens : ∀ d, .directive d ∈ ps → d.opensComment = false)
    (hinside : ∀ S ∈ tree.sources, S.Seamless) :
    Plain (carryAfter before) (splitLines (Chunk.join (tree.chunks site.file site.context)))
      (carryAfter (before ++ texts)) := by
  induction h generalizing before texts with
  | done =>
    cases hcut
    rw [List.append_nil]
    exact .nil
  | @verbatim _ site _ _ _ _ _ rest hrest ih =>
    cases hcut with
    | @verbatim _ run texts ps hne hrun hnext hcut =>
      have hback := ih hcut hlines.of_append.2 (fun d hd => hopens d (List.mem_cons_of_mem _ hd))
        hinside
      have hend : texts = [] → Chunk.join (rest.chunks site.file site.context) = [] := by
        intro htexts
        have hparts := not_imp_not.mp (hrest.laid hcut).ne_nil htexts
        rw [Expansion.chunks_eq, hparts]
        rfl
      rw [Expansion.chunks, Chunk.join_cons, hlines.splitLines_front hend, ← List.append_assoc]
      exact (Plain.of_ordinaryRun hrun).append hback
  | skipped hname hmet hrest ih =>
    cases hcut with
    | @directive _ texts text d ps hlive hcut =>
      have hback := ih hcut (@IsLines.of_append [text] texts hlines).2
        (fun d hd => hopens d (List.mem_cons_of_mem _ hd)) hinside
      rw [hlive.carry_next (hopens _ List.mem_cons_self), ← hlive.carry_eq, ← List.append_cons] at hback
      exact hback
  | @nested _ site _ _ _ d name source context _ inner rest hname hnew hcycle hfetch hinner hrest
      ihinner ihrest =>
    cases hcut with
    | @directive _ texts text _ ps hlive hcut =>
      have hback := ihrest hcut (@IsLines.of_append [text] texts hlines).2
        (fun d hd => hopens d (List.mem_cons_of_mem _ hd)) fun S hS => hinside S <|
          List.mem_cons_of_mem _ (List.mem_append_right _ hS)
      have hseam := hinside ⟨name, source, context, inner⟩ List.mem_cons_self
      have hfront := ihinner (cut_passages source) (splitLines_isLines source) hseam.opens
        fun S hS => hinside S (List.mem_cons_of_mem _ (List.mem_append_left _ hS))
      -- The include line starts and leaves a clean slate, and so does what stands in its place.
      rw [hlive.carry_next (hopens _ List.mem_cons_self), ← List.append_cons] at hback
      rw [List.nil_append, (settled_iff.mp hseam.settled).2] at hfront
      have hsplit := splitLines_append hseam.closed (Chunk.join (rest.chunks site.file site.context))
      rw [Expansion.chunks, Chunk.join_append, hlive.carry_eq]
      exact hsplit ▸ hfront.append hback

theorem Crawled.plain {root : Root Context} (h : Crawled provider options root)
    (hsettled : ∀ S ∈ root.expansion.sources, Settled S.source)
    (hopens : ∀ S ∈ root.sources, ∀ k d, LiveAt (splitLines S.source) k d → d.opensComment = false) :
    ∃ after, Plain .start (splitLines (Chunk.join root.chunks)) after := by
  have hfree : ∀ S ∈ root.sources, ∀ d, .directive d ∈ passages S.source → d.opensComment = false := by
    intro S hS d hd
    obtain ⟨k, hlive⟩ := exists_liveAt hd
    exact hopens S hS k d hlive
  obtain ⟨asked, after, htree⟩ := h.expands
  refine ⟨_, htree.plain (cut_passages root.source) (splitLines_isLines root.source)
    (hfree root List.mem_cons_self) fun S hS => ?_⟩
  constructor
  · exact hsettled S hS
  · exact h.closed_join (fun R hR => (hsettled R hR).closed) hS
  · exact hfree S (List.mem_cons_of_mem _ hS)

theorem passages_of_plain {text : Text} {after : Carry} (h : Plain .start (splitLines text) after) :
    passages text = if text = [] then [] else [.verbatim 1 text] := by
  rw [passages_eq, lines]
  by_cases hnil : text = []
  · rw [if_pos hnil, hnil]
    rfl
  · obtain ⟨line, rest, hlines⟩ := List.exists_cons_of_ne_nil (splitLines_ne_nil hnil)
    rw [hlines] at h
    rw [if_neg hnil, hlines, h.ofLines_eq, ← hlines, flatten_splitLines]

theorem expandSource_of_plain {text : Text} {after : Carry}
    (h : Plain .start (splitLines text) after) (provider : Provider Context Fault) (options : Options)
    (name : String) (context : Context) :
    expandSource provider options name text context =
      ⟨[], .ok ⟨name, text, context, if text = [] then .done else .verbatim 1 text .done⟩⟩ := by
  rw [expandSource, expandBehind, passages_of_plain h]
  by_cases hnil : text = []
  · rw [if_pos hnil, if_pos hnil]
    rfl
  · rw [if_neg hnil, if_neg hnil]
    rfl

/-- A text that stands for itself: whatever it is expanded under, it comes back as one chunk, and
the provider is not asked for anything. -/
structure Inert (text : Text) : Prop where
  whole : ∀ (Context Fault : Type) (provider : Provider Context Fault) (options : Options)
    (name : String) (context : Context), ∃ root,
      (expandSource provider options name text context).result = .ok root ∧
        root.chunks = if text = [] then [] else [⟨text, name, 1, context⟩]
  silent : ∀ (Context Fault : Type) (provider : Provider Context Fault) (options : Options)
    (name : String) (context : Context), (expandSource provider options name text context).calls = []
  noneLive : ∀ k d, ¬ LiveAt (splitLines text) k d
  noneBroken : ∀ k m, ¬ BrokenAt (splitLines text) k m

theorem inert_of_plain {text : Text} {after : Carry} (h : Plain .start (splitLines text) after) :
    Inert text := by
  have hrun := @Plain.ordinaryRun [] _ _ h
  constructor
  case whole =>
    intro Context Fault provider options name context
    rw [expandSource_of_plain h]
    refine ⟨_, rfl, ?_⟩
    by_cases hnil : text = []
    · rw [if_pos hnil, Root.chunks, if_pos hnil]
      rfl
    · rw [if_neg hnil, Root.chunks, if_neg hnil]
      rfl
  case silent =>
    intro Context Fault provider options name context
    rw [expandSource_of_plain h]
    rfl
  case noneLive => exact hrun.not_liveAt
  case noneBroken => exact hrun.not_brokenAt

theorem inert_join {root : Root Context} (h : Crawled provider options root)
    (hsettled : ∀ S ∈ root.expansion.sources, Settled S.source)
    (hopens : ∀ S ∈ root.sources, ∀ k d, LiveAt (splitLines S.source) k d → d.opensComment = false) :
    Inert (Chunk.join root.chunks) := by
  obtain ⟨after, hplain⟩ := h.plain hsettled hopens
  exact inert_of_plain hplain

def guardedHeaders : Provider Unit String where
  resolve _ path _ := .ok path
  fetch _ path _ :=
    match path with
    | "main" => .ok
      ("A /*\n#include \"gone\"\n*/\n#include \"both\" // B\nC \\\n#include \"gone\"\nD /*".toList, ())
    | "both" => .ok ("/* both */\n#include \"some\" /* x */\n#include <none>\n#includes\n".toList, ())
    | "some" => .ok ("x // /*\n/* y\n*/ z \\\n\n".toList, ())
    | "none" => .ok ([], ())
    | _ => .error "no such header"

theorem inert_join_guardedHeaders :
    ∃ root, Crawled guardedHeaders ⟨8, true, false⟩ root ∧
      (∀ S ∈ root.expansion.sources, Settled S.source) ∧
      (∀ S ∈ root.sources, ∀ k d, LiveAt (splitLines S.source) k d → d.opensComment = false) ∧
      Inert (Chunk.join root.chunks) := by
  obtain ⟨root, hroot, hfound⟩ := @Walk.exists_result_eq_ok _ _ _ _
    (expandFile guardedHeaders ⟨8, true, false⟩ "main" ())
    (fun root => (root.expansion.sources.all fun S => Settled S.source,
      root.sources.all fun S => (S.parts.filterMap Part.directive?).all fun d => !d.opensComment))
    (true, true) (by decide +kernel)
  obtain ⟨hends, hdirectives⟩ := Prod.mk.inj hfound
  have hcrawled : Crawled guardedHeaders ⟨8, true, false⟩ root := .inr ⟨_, _, hroot⟩
  have hsettled : ∀ S ∈ root.expansion.sources, Settled S.source := by
    intro S hS
    exact of_decide_eq_true (List.all_eq_true.mp hends S hS)
  have hopens : ∀ S ∈ root.sources, ∀ k d, LiveAt (splitLines S.source) k d →
      d.opensComment = false := by
    intro S hS k d hlive
    obtain ⟨p, hp, hd⟩ := (hcrawled.laid hS).exists_part_of_live hlive
    have hall := List.all_eq_true.mp (List.all_eq_true.mp hdirectives S hS) d
    have hnot := hall (List.mem_filterMap.mpr ⟨p, hp, hd⟩)
    rwa [Bool.not_eq_true'] at hnot
  exact ⟨root, hcrawled, hsettled, hopens, inert_join hcrawled hsettled hopens⟩

end ShaderSources
