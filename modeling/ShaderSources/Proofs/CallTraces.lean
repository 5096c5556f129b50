import ShaderSources.Proofs.Sources
import ShaderSources.Proofs.Stages

namespace ShaderSources

open Source Text

variable {Context Fault : Type} (provider : Provider Context Fault) (options : Options)

/-- `Traced provider options room site memory before texts calls ending`: with `room` levels left, the
lines `texts` at `site` that stand behind `before` put the questions `calls`, and come to an error or to
what the crawl then knows of itself. -/
inductive Traced : Nat → Site Context → Memory Context → List Text → List Text → List (Call Context) →
    Except (IncludeError Fault) (Memory Context) → Prop
  | done {room : Nat} {site : Site Context} {memory : Memory Context} {before : List Text} :
      Traced room site memory before [] [] (.ok memory)
  | ordinary {room : Nat} {site : Site Context} {memory : Memory Context} {before texts : List Text}
      {text : Text} {calls : List (Call Context)} {ending : Except (IncludeError Fault) (Memory Context)}
      (hread : readingAfter before text = .ordinary)
      (hrest : Traced room site memory (before ++ [text]) texts calls ending) :
      Traced room site memory before (text :: texts) calls ending
  | malformed {room : Nat} {site : Site Context} {memory : Memory Context} {before texts : List Text}
      {text : Text} {m : Malformed} (hbroken : Broken before text m) :
      Traced room site memory before (text :: texts) []
        (.error (.malformed site.file (before.length + 1 : Nat) m.reason))
  | refused {room : Nat} {site : Site Context} {memory : Memory Context} {before texts : List Text}
      {text : Text} {d : Directive} {events : List (Event Context)} {error : IncludeError Fault}
      (hlive : Live before text d) (h : Refusal provider options room site d memory events error) :
      Traced room site memory before (text :: texts) (events.filterMap Event.call?) (.error error)
  | skipped {room : Nat} {site : Site Context} {memory : Memory Context} {before texts : List Text}
      {text : Text} {d : Directive} {name : String} {calls : List (Call Context)}
      {ending : Except (IncludeError Fault) (Memory Context)} (hlive : Live before text d)
      (hname : provider.resolve memory.asked d.path site.context = .ok name)
      (hmet : name ∈ memory.once)
      (hrest : Traced room site (memory.resolved d site.context) (before ++ [text]) texts calls ending) :
      Traced room site memory before (text :: texts) (.resolve d.path site.context :: calls) ending
  | failed {room : Nat} {site : Site Context} {memory : Memory Context} {before texts : List Text}
      {text source : Text} {d : Directive} {name : String} {child : Context}
      {inner : List (Call Context)} {error : IncludeError Fault} (hlive : Live before text d)
      (hname : provider.resolve memory.asked d.path site.context = .ok name)
      (hnew : name ∉ memory.once)
      (hcycle : options.detectCycles = true → name ∉ site.chain)
      (hfetch : provider.fetch (memory.resolved d site.context).asked d.path site.context =
        .ok (source, child))
      (hinner : Traced room (site.inside name child)
        (remember options name source (memory.fetched d site.context)) []
        (splitLines source) inner (.error error)) :
      Traced (room + 1) site memory before (text :: texts)
        (.resolve d.path site.context :: .fetch d.path site.context :: inner) (.error error)
  | nested {room : Nat} {site : Site Context} {memory middle : Memory Context} {before texts : List Text}
      {text source : Text} {d : Directive} {name : String} {child : Context}
      {inner calls : List (Call Context)} {ending : Except (IncludeError Fault) (Memory Context)}
      (hlive : Live before text d)
      (hname : provider.resolve memory.asked d.path site.context = .ok name)
      (hnew : name ∉ memory.once)
      (hcycle : options.detectCycles = true → name ∉ site.chain)
      (hfetch : provider.fetch (memory.resolved d site.context).asked d.path site.context =
        .ok (source, child))
      (hinner : Traced room (site.inside name child)
        (remember options name source (memory.fetched d site.context)) []
        (splitLines source) inner (.ok middle))
      (hrest : Traced (room + 1) site middle (before ++ [text]) texts calls ending) :
      Traced (room + 1) site memory before (text :: texts)
        (.resolve d.path site.context :: .fetch d.path site.context :: (inner ++ calls)) ending

def RootTraced (asked : List (Call Context)) (name : String) (source : Text) (context : Context)
    (calls : List (Call Context)) (ending : Except (IncludeError Fault) (Memory Context)) : Prop :=
  Traced provider options options.maxDepth.toNat ⟨[], name, context⟩
    (remember options name source ⟨[], asked⟩) [] (splitLines source) calls ending

namespace Stage

def behind (room : Nat) (site : Site Context) (memory : Memory Context) (before texts : List Text) :
    Stage Context :=
  ⟨room, site, memory, Passage.ofLines (readLines (carryAfter before) (before.length + 1) texts)⟩

theorem start_eq_behind (options : Options) (asked : List (Call Context)) (name : String)
    (source : Text) (context : Context) :
    start options asked name source context =
      behind options.maxDepth.toNat ⟨[], name, context⟩ (remember options name source ⟨[], asked⟩) []
        (splitLines source) := by
  rw [start, passages_eq]
  rfl

theorem inside_eq_behind (options : Options) (room : Nat) (site : Site Context)
    (memory : Memory Context) (d : Directive) (name : String) (source : Text) (child : Context) :
    inside options room site memory d name source child =
      behind room (site.inside name child)
        (remember options name source (memory.fetched d site.context)) [] (splitLines source) := by
  rw [inside, passages_eq]
  rfl

def trace (s : Stage Context) : List (Call Context) × Except (IncludeError Fault) (Memory Context) :=
  ((s.walk provider options).calls, (s.walk provider options).result.map Prod.snd)

variable {provider options}
variable {room : Nat} {site : Site Context} {memory : Memory Context}

theorem trace_verbatim {start : Nat} {text : Text} {ps : List Passage} :
    trace provider options ⟨room, site, memory, .verbatim start text :: ps⟩ =
      trace provider options ⟨room, site, memory, ps⟩ := by
  rw [trace, walk_verbatim, trace]
  rcases walk provider options ⟨room, site, memory, ps⟩ with ⟨events, error | a⟩
  · rfl
  · rfl

theorem trace_consRun (start : Nat) (text : Text) (ps : List Passage) :
    trace provider options ⟨room, site, memory, Passage.consRun start text ps⟩ =
      trace provider options ⟨room, site, memory, ps⟩ := by
  cases ps with
  | nil => exact trace_verbatim
  | cons p ps =>
    cases p with
    | verbatim start text => exact trace_verbatim.trans trace_verbatim.symm
    | directive d => exact trace_verbatim
    | malformed line m => exact trace_verbatim

theorem trace_of_error {d : Directive} {ps : List Passage} {events : List (Event Context)}
    {error : IncludeError Fault}
    (hd : follow provider options room site d memory = ⟨events, .error error⟩) :
    trace provider options ⟨room, site, memory, .directive d :: ps⟩ =
      (events.filterMap Event.call?, .error error) := by
  rw [trace, walk_of_error hd]
  rfl

theorem trace_of_ok {d : Directive} {ps : List Passage} {events : List (Event Context)}
    {followed : Followed Context} {after : Memory Context}
    (hd : follow provider options room site d memory = ⟨events, .ok (followed, after)⟩) :
    trace provider options ⟨room, site, memory, .directive d :: ps⟩ =
      (events.filterMap Event.call? ++ (trace provider options ⟨room, site, after, ps⟩).1,
        (trace provider options ⟨room, site, after, ps⟩).2) := by
  rw [trace, walk_of_ok hd, trace, Walk.calls, List.filterMap_append]
  rcases walk provider options ⟨room, site, after, ps⟩ with ⟨more, error | a⟩
  · rfl
  · rfl

variable {before texts : List Text} {text : Text}

theorem trace_ordinary (h : readingAfter before text = .ordinary) :
    trace provider options (behind room site memory before (text :: texts)) =
      trace provider options (behind room site memory (before ++ [text]) texts) := by
  rw [behind, readLines_cons, h]
  exact trace_consRun _ _ _

theorem behind_directive {d : Directive} (h : Live before text d) :
    behind room site memory before (text :: texts) =
      ⟨room, site, memory, .directive d :: (behind room site memory (before ++ [text]) texts).rest⟩ := by
  rw [behind, readLines_cons, live_iff.mp h]
  rfl

theorem trace_malformed {m : Malformed} (h : Broken before text m) :
    trace provider options (behind room site memory before (text :: texts)) =
      ([], .error (.malformed site.file (before.length + 1 : Nat) m.reason)) := by
  rw [behind, readLines_cons, broken_iff.mp h]
  rfl

theorem trace_refused {d : Directive} {events : List (Event Context)} {error : IncludeError Fault}
    (hlive : Live before text d) (h : Refusal provider options room site d memory events error) :
    trace provider options (behind room site memory before (text :: texts)) =
      (events.filterMap Event.call?, .error error) := by
  rw [behind_directive hlive]
  exact trace_of_error h.follow_eq

theorem trace_skipped {d : Directive} {name : String} (hlive : Live before text d)
    (hname : provider.resolve memory.asked d.path site.context = .ok name)
    (hmet : name ∈ memory.once) :
    trace provider options (behind room site memory before (text :: texts)) =
      (.resolve d.path site.context ::
          (trace provider options
            (behind room site (memory.resolved d site.context) (before ++ [text]) texts)).1,
        (trace provider options
          (behind room site (memory.resolved d site.context) (before ++ [text]) texts)).2) := by
  rw [behind_directive hlive]
  exact trace_of_ok (Outcome.skipped hname hmet).follow_eq

section

variable {d : Directive} {name : String} {source : Text} {child : Context}
  {inner : List (Call Context)}

theorem trace_failed {error : IncludeError Fault} (hlive : Live before text d)
    (hname : provider.resolve memory.asked d.path site.context = .ok name)
    (hnew : name ∉ memory.once)
    (hcycle : options.detectCycles = true → name ∉ site.chain)
    (hfetch : provider.fetch (memory.resolved d site.context).asked d.path site.context =
      .ok (source, child))
    (hinner : trace provider options (inside options room site memory d name source child) =
      (inner, .error error)) :
    trace provider options (behind (room + 1) site memory before (text :: texts)) =
      (.resolve d.path site.context :: .fetch d.path site.context :: inner, .error error) := by
  obtain ⟨rfl, hresult⟩ := Prod.mk.inj hinner
  have hwalk := Walk.eq_of_map_eq_error hresult
  have hd := (Outcome.nested hname hnew hcycle hfetch hwalk).follow_eq
  rw [behind_directive hlive]
  exact trace_of_error hd

theorem trace_nested {middle : Memory Context} (hlive : Live before text d)
    (hname : provider.resolve memory.asked d.path site.context = .ok name)
    (hnew : name ∉ memory.once)
    (hcycle : options.detectCycles = true → name ∉ site.chain)
    (hfetch : provider.fetch (memory.resolved d site.context).asked d.path site.context =
      .ok (source, child))
    (hinner : trace provider options (inside options room site memory d name source child) =
      (inner, .ok middle)) :
    trace provider options (behind (room + 1) site memory before (text :: texts)) =
      (.resolve d.path site.context :: .fetch d.path site.context ::
          (inner ++ (trace provider options (behind (room + 1) site middle (before ++ [text]) texts)).1),
        (trace provider options (behind (room + 1) site middle (before ++ [text]) texts)).2) := by
  obtain ⟨rfl, hresult⟩ := Prod.mk.inj hinner
  obtain ⟨⟨tree, after⟩, hwalk, rfl⟩ := Walk.eq_of_map_eq_ok hresult
  have hd := (Outcome.nested hname hnew hcycle hfetch hwalk).follow_eq
  rw [behind_directive hlive]
  exact trace_of_ok hd

end

end Stage

variable {provider options}

theorem Traced.trace_eq {room : Nat} {site : Site Context} {memory : Memory Context}
    {before texts : List Text} {calls : List (Call Context)}
    {ending : Except (IncludeError Fault) (Memory Context)}
    (h : Traced provider options room site memory before texts calls ending) :
    (Stage.behind room site memory before texts).trace provider options = (calls, ending) := by
  induction h with
  | done => rfl
  | ordinary hread hrest ih => exact (Stage.trace_ordinary hread).trans ih
  | malformed hbroken => exact Stage.trace_malformed hbroken
  | refused hlive h => exact Stage.trace_refused hlive h
  | skipped hlive hname hmet hrest ih => rw [Stage.trace_skipped hlive hname hmet, ih]
  | failed hlive hname hnew hcycle hfetch hinner ih =>
    rw [← Stage.inside_eq_behind] at ih
    exact Stage.trace_failed hlive hname hnew hcycle hfetch ih
  | nested hlive hname hnew hcycle hfetch hinner hrest ihinner ihrest =>
    rw [← Stage.inside_eq_behind] at ihinner
    rw [Stage.trace_nested hlive hname hnew hcycle hfetch ihinner, ihrest]

theorem Stage.traced (room : Nat) (site : Site Context) (memory : Memory Context)
    (before texts : List Text) :
    Traced provider options room site memory before texts
      ((behind room site memory before texts).trace provider options).1
      ((behind room site memory before texts).trace provider options).2 := by
  -- What an include line opens has less room, and the lines behind it have the same.
  induction room using Nat.strongRecOn generalizing site memory before texts with
  | ind room ihroom =>
    induction texts generalizing memory before with
    | nil => exact .done
    | cons text texts ih =>
      cases hread : readingAfter before text with
      | ordinary =>
        rw [trace_ordinary hread]
        exact .ordinary hread (ih memory (before ++ [text]))
      | malformed m =>
        rw [trace_malformed (broken_iff.mpr hread)]
        exact .malformed (broken_iff.mpr hread)
      | directive d =>
        have hlive := live_iff.mpr hread
        obtain ⟨walk, hd⟩ := exists_outcome provider options room site d memory
        cases hd with
        | refused h =>
          rw [trace_refused hlive h]
          exact .refused hlive h
        | skipped hname hmet =>
          rw [trace_skipped hlive hname hmet]
          exact .skipped hlive hname hmet (ih _ (before ++ [text]))
        | @nested less _ _ _ name source child inner hname hnew hcycle hfetch hinner =>
          have hinside := ihroom less (Nat.lt_succ_self less) (site.inside name child)
            (remember options name source (memory.fetched d site.context)) [] (splitLines source)
          rw [← inside_eq_behind] at hinside
          rcases h : trace provider options (.inside options less site memory d name source child) with
            ⟨calls, error | middle⟩
          · rw [h] at hinside
            rw [trace_failed hlive hname hnew hcycle hfetch h]
            exact .failed hlive hname hnew hcycle hfetch hinside
          · rw [h] at hinside
            rw [trace_nested hlive hname hnew hcycle hfetch h]
            exact .nested hlive hname hnew hcycle hfetch hinside (ih middle (before ++ [text]))

theorem rootTraced_iff {asked : List (Call Context)} {name : String} {source : Text}
    {context : Context} {calls : List (Call Context)}
    {ending : Except (IncludeError Fault) (Memory Context)} :
    RootTraced provider options asked name source context calls ending ↔
      (Stage.start options asked name source context).trace provider options = (calls, ending) := by
  rw [Stage.start_eq_behind]
  constructor
  · exact Traced.trace_eq
  · intro h
    have htraced := @Stage.traced _ _ provider options options.maxDepth.toNat ⟨[], name, context⟩
      (remember options name source ⟨[], asked⟩) [] (splitLines source)
    rwa [h] at htraced

def Call.isFetch : Call Context → Bool
  | resolve _ _ => false
  | fetch _ _ => true

def fetchCount (events : List (Event Context)) : Nat :=
  (events.filterMap Event.call?).countP Call.isFetch

theorem fetchCount_append (events more : List (Event Context)) :
    fetchCount (events ++ more) = fetchCount events + fetchCount more := by
  rw [fetchCount, List.filterMap_append, List.countP_append]
  rfl

theorem Stage.fetchCount_eq {s : Stage Context} {events : List (Event Context)}
    {tree : Expansion Context} {after : Memory Context}
    (h : s.walk provider options = ⟨events, .ok (tree, after)⟩) :
    fetchCount events = tree.sources.length := by
  refine Stage.ok_induction
    (motive := fun _ events tree _ => fetchCount events = tree.sources.length)
    ?done ?verbatim ?skipped ?nested h
  case done => exact fun _ => rfl
  case verbatim =>
    intro memory after start text events rest hrest
    exact hrest
  case skipped =>
    intro site memory after d name events rest hname hrest
    exact hrest
  case nested =>
    intro site memory middle after d name source child inner tree events rest hname hfetch hinner hrest
    have hline : fetchCount [site.resolves memory d, site.fetches memory d,
      site.event (remember options name source (memory.fetched d site.context))
        (.enter name d.line)] = 1 := rfl
    rw [fetchCount_append, fetchCount_append, hline, hinner, hrest, Expansion.sources,
      List.length_cons, List.length_append]
    omega

/-- Where the questions of a crawl stop that an error ends: at the question that the provider does not
answer, at the name that makes a cycle or is too deep, or before a malformed line that is next. -/
inductive Stops (provider : Provider Context Fault) (options : Options) (s : Stage Context) :
    IncludeError Fault → List (Call Context) → Prop
  | malformed {before : List (Event Context)} {t : Stage Context} {line : Nat} {m : Malformed}
      {ps : List Passage} (hreach : Reaches provider options s before t)
      (hnext : t.rest = .malformed line m :: ps) :
      Stops provider options s (.malformed t.site.file line m.reason) (before.filterMap Event.call?)
  | unresolved {front : List (Call Context)} {path : String} {context : Context} {fault : Fault}
      {file : Option String} {line : Option Int} {chain : List String}
      (h : provider.resolve (s.memory.asked ++ front) path context = .error fault) :
      Stops provider options s (.provider path file line chain (some fault))
        (front ++ [.resolve path context])
  | unfetched {front : List (Call Context)} {path : String} {context : Context} {fault : Fault}
      {file : Option String} {line : Option Int} {chain : List String}
      (h : provider.fetch (s.memory.asked ++ front) path context = .error fault) :
      Stops provider options s (.provider path file line chain (some fault))
        (front ++ [.fetch path context])
  | cycle {front : List (Call Context)} {path : String} {context : Context} {name file : String}
      {line : Int} {chain : List String}
      (h : provider.resolve (s.memory.asked ++ front) path context = .ok name) :
      Stops provider options s (.cycle name file line chain) (front ++ [.resolve path context])
  | depth {front : List (Call Context)} {path : String} {context : Context} {name : String}
      {chain : List String}
      (h : provider.resolve (s.memory.asked ++ front) path context = .ok name) :
      Stops provider options s (.depth name options.maxDepth chain)
        (front ++ [.resolve path context])

theorem Halts.stops {s t : Stage Context} {before last : List (Event Context)}
    {error : IncludeError Fault} (h : Halts provider options t last error)
    (hreach : Reaches provider options s before t) :
    Stops provider options s error ((before ++ last).filterMap Event.call?) := by
  have hasked := hreach.asked_eq
  rw [List.filterMap_append]
  cases h with
  | malformed =>
    rw [List.filterMap_nil, List.append_nil]
    exact .malformed hreach rfl
  | @refused room site memory d ps events error h =>
    dsimp only at hasked
    cases h with
    | unresolved hname => exact .unresolved (hasked ▸ hname)
    | cycle hname => exact .cycle (hasked ▸ hname)
    | deep hname => exact .depth (hasked ▸ hname)
    | unfetched hname hnew hcycle hfetch =>
      have hcalls : [site.resolves memory d, site.fetches memory d].filterMap Event.call? =
        [.resolve d.path site.context] ++ [.fetch d.path site.context] := rfl
      have hpast : (memory.resolved d site.context).asked = s.memory.asked ++
          (before.filterMap Event.call? ++ [.resolve d.path site.context]) := by
        rw [← List.append_assoc, ← hasked]
        rfl
      rw [hcalls, ← List.append_assoc]
      exact .unfetched (hpast ▸ hfetch)

structure DepthFirst (provider : Provider Context Fault) (options : Options) (name : String)
    (source : Text) (context : Context) (opening : List (Call Context))
    (walk : Walk Context Fault (Root Context)) : Prop where
  completes : ∀ calls, (∃ after,
      RootTraced provider options opening name source context calls (.ok after)) ↔ ∃ root, 
    walk.result = .ok root ∧ walk.calls = opening ++ calls
  fails : ∀ calls error, RootTraced provider options opening name source context calls
      (.error error) ↔ walk.result = .error error ∧ walk.calls = opening ++ calls
  fetches : ∀ root, walk.result = .ok root →
    walk.calls.countP Call.isFetch = opening.countP Call.isFetch + root.expansion.sources.length
  stops : ∀ error, walk.result = .error error → ∃ calls, walk.calls = opening ++ calls ∧
    Stops provider options (.start options opening name source context) error calls

theorem Opens.calls_eq {walk : Walk Context Fault (Root Context)} {opening : List (Event Context)}
    {name : String} {source : Text} {context : Context}
    (h : Opens provider options walk opening name source context) :
    walk.calls = opening.filterMap Event.call? ++
      ((Stage.opened options opening name source context).walk provider options).calls := by
  rw [h.walk_eq, Walk.calls, List.filterMap_append]
  rfl

theorem Opens.depthFirst {walk : Walk Context Fault (Root Context)} {opening : List (Event Context)}
    {name : String} {source : Text} {context : Context}
    (h : Opens provider options walk opening name source context) :
    DepthFirst provider options name source context (opening.filterMap Event.call?) walk := by
  have hcalls := h.calls_eq
  have hresult := congrArg Walk.result h.walk_eq
  dsimp only [Stage.opened] at hcalls hresult
  constructor
  · intro calls
    rw [hcalls, hresult, List.append_cancel_left_eq]
    simp only [rootTraced_iff, Stage.trace, Prod.mk.injEq]
    cases ((Stage.start options (opening.filterMap Event.call?) name source context).walk provider
      options).result with
    | error error => simp [Except.map]
    | ok parts => simp [Except.map]
  · intro calls error
    rw [hcalls, hresult, List.append_cancel_left_eq, rootTraced_iff, Stage.trace, Prod.mk.injEq]
    cases ((Stage.start options (opening.filterMap Event.call?) name source context).walk provider
      options).result with
    | error other => simp [Except.map, and_comm]
    | ok parts => simp [Except.map]
  · intro root hroot
    rw [hresult] at hroot
    obtain ⟨⟨tree, after⟩, hwalk, rfl⟩ := Walk.eq_of_map_eq_ok hroot
    have hcount := Stage.fetchCount_eq hwalk
    rw [hcalls, List.countP_append]
    exact congrArg _ hcount
  · intro error herror
    rw [hresult] at herror
    obtain ⟨before, t, last, hreach, hhalt, hevents⟩ :=
      Stage.exists_halts (Walk.eq_of_map_eq_error herror)
    refine ⟨_, hcalls, ?_⟩
    rw [Walk.calls, hevents]
    exact hhalt.stops hreach

theorem calls_depthFirst (provider : Provider Context Fault) (options : Options) :
    (∀ name source context, DepthFirst provider options name source context []
      (expandSource provider options name source context)) ∧
    ∀ path context,
      (∀ fault, provider.resolve [] path context = .error fault →
        (expandFile provider options path context).calls = [.resolve path context] ∧
        (expandFile provider options path context).result =
          .error (.provider path none none [path] (some fault))) ∧
      ∀ name, provider.resolve [] path context = .ok name →
        (∀ fault, provider.fetch [.resolve path context] path context = .error fault →
          (expandFile provider options path context).calls =
            [.resolve path context, .fetch path context] ∧
          (expandFile provider options path context).result =
            .error (.provider path none none [path] (some fault))) ∧
        ∀ source child, provider.fetch [.resolve path context] path context = .ok (source, child) →
          DepthFirst provider options name source child [.resolve path context, .fetch path context]
            (expandFile provider options path context) := by
  constructor
  · intro name source context
    exact Opens.source.depthFirst
  · intro path context
    constructor
    · intro fault hname
      rw [expandFile, hname]
      exact ⟨rfl, rfl⟩
    · intro name hname
      constructor
      · intro fault hfetch
        rw [expandFile, hname, hfetch]
        exact ⟨rfl, rfl⟩
      · intro source child hfetch
        exact (Opens.file hname hfetch).depthFirst

theorem calls_depthFirst_headers :
    headers.resolve [] "main" () = .ok "main" ∧
      headers.fetch [.resolve "main" ()] "main" () =
        .ok ("A\n#include \"once\"\n#include <twice>\nZ".toList, ()) ∧
      (expandFile headers ⟨8, true, true⟩ "main" ()).calls =
        [.resolve "main" (), .fetch "main" (), .resolve "once" (), .fetch "once" (),
          .resolve "twice" (), .fetch "twice" (), .resolve "once" ()] ∧
      DepthFirst headers ⟨8, true, true⟩ "main" "A\n#include \"once\"\n#include <twice>\nZ".toList ()
        [.resolve "main" (), .fetch "main" ()] (expandFile headers ⟨8, true, true⟩ "main" ()) ∧
      headers.resolve [] "none" () = .ok "none" ∧
      headers.fetch [.resolve "none" ()] "none" () = .error "no such header" ∧
      (expandFile headers ⟨8, true, true⟩ "none" ()).calls =
        [.resolve "none" (), .fetch "none" ()] := by
  have hname : headers.resolve [] "main" () = .ok "main" := rfl
  have hfetch : headers.fetch [.resolve "main" ()] "main" () =
    .ok ("A\n#include \"once\"\n#include <twice>\nZ".toList, ()) := rfl
  have hnone : headers.resolve [] "none" () = .ok "none" := rfl
  have hfault : headers.fetch [.resolve "none" ()] "none" () = .error "no such header" := rfl
  refine ⟨hname, hfetch, by decide +kernel, ?_, hnone, hfault, ?_⟩
  · exact (((calls_depthFirst headers _).2 "main" ()).2 _ hname).2 _ _ hfetch
  · exact ((((calls_depthFirst headers _).2 "none" ()).2 _ hnone).1 _ hfault).1

end ShaderSources
