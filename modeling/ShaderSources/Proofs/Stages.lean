import ShaderSources.Proofs.Expands

namespace ShaderSources

open Source

variable {Context Fault : Type}

structure Stage (Context : Type) where
  room : Nat
  site : Site Context
  memory : Memory Context
  rest : List Passage

namespace Stage

def start (options : Options) (asked : List (Call Context)) (name : String) (source : Text)
    (context : Context) : Stage Context :=
  ⟨options.maxDepth.toNat, ⟨[], name, context⟩, remember options name source ⟨[], asked⟩,
    passages source⟩

/-- The stage at which the source begins that is included by the line `d`. -/
def inside (options : Options) (room : Nat) (site : Site Context) (memory : Memory Context)
    (d : Directive) (name : String) (source : Text) (context : Context) : Stage Context :=
  ⟨room, site.inside name context, remember options name source (memory.fetched d site.context),
    passages source⟩

def walk (provider : Provider Context Fault) (options : Options) (s : Stage Context) :
    Walk Context Fault (Expansion Context × Memory Context) :=
  expandPassages (follow provider options s.room s.site) s.site.file s.rest s.memory

-- A crawl gets on by the passages of one source, or with less room in another.
theorem induction {motive : Stage Context → Prop}
    (done : ∀ room site memory, motive ⟨room, site, memory, []⟩)
    (verbatim : ∀ room site memory start text ps, motive ⟨room, site, memory, ps⟩ →
      motive ⟨room, site, memory, .verbatim start text :: ps⟩)
    (malformed : ∀ room site memory line m ps, motive ⟨room, site, memory, .malformed line m :: ps⟩)
    (directive : ∀ room site memory d ps, (∀ after, motive ⟨room, site, after, ps⟩) →
      (∀ t : Stage Context, t.room < room → motive t) →
      motive ⟨room, site, memory, .directive d :: ps⟩) (s : Stage Context) : motive s := by
  obtain ⟨room, site, memory, ps⟩ := s
  induction room using Nat.strongRecOn generalizing site memory ps with
  | ind room ihroom =>
    induction ps generalizing memory with
    | nil => exact done room site memory
    | cons p ps ih =>
      cases p with
      | verbatim start text => exact verbatim room site memory start text ps (ih memory)
      | malformed line m => exact malformed room site memory line m ps
      | directive d =>
        exact directive room site memory d ps ih fun t ht => ihroom t.room ht t.site t.memory t.rest

end Stage

namespace Site

def resolves (site : Site Context) (memory : Memory Context) (d : Directive) : Event Context :=
  site.event memory (.call (.resolve d.path site.context))

def fetches (site : Site Context) (memory : Memory Context) (d : Directive) : Event Context :=
  site.event memory (.call (.fetch d.path site.context))

def unanswered (site : Site Context) (d : Directive) (fault : Fault) : IncludeError Fault :=
  .provider d.path (some site.file) (some d.line) (site.chain ++ [d.path]) (some fault)

end Site

variable (provider : Provider Context Fault) (options : Options)

inductive Refusal : Nat → Site Context → Directive → Memory Context → List (Event Context) →
    IncludeError Fault → Prop
  | unresolved {room : Nat} {site : Site Context} {d : Directive} {memory : Memory Context} {fault : Fault}
      (hname : provider.resolve memory.asked d.path site.context = .error fault) :
      Refusal room site d memory [site.resolves memory d] (site.unanswered d fault)
  | cycle {room : Nat} {site : Site Context} {d : Directive} {memory : Memory Context} {name : String}
      (hname : provider.resolve memory.asked d.path site.context = .ok name)
      (hnew : name ∉ memory.once)
      (hon : options.detectCycles = true) (hchain : name ∈ site.chain) :
      Refusal room site d memory [site.resolves memory d]
        (.cycle name site.file d.line (site.chain ++ [name]))
  | deep {site : Site Context} {d : Directive} {memory : Memory Context} {name : String}
      (hname : provider.resolve memory.asked d.path site.context = .ok name)
      (hnew : name ∉ memory.once)
      (hcycle : options.detectCycles = true → name ∉ site.chain) :
      Refusal 0 site d memory [site.resolves memory d]
        (.depth name options.maxDepth (site.chain ++ [name]))
  | unfetched {room : Nat} {site : Site Context} {d : Directive} {memory : Memory Context} {name : String}
      {fault : Fault} (hname : provider.resolve memory.asked d.path site.context = .ok name)
      (hnew : name ∉ memory.once)
      (hcycle : options.detectCycles = true → name ∉ site.chain)
      (hfetch : provider.fetch (memory.resolved d site.context).asked d.path site.context =
        .error fault) :
      Refusal (room + 1) site d memory [site.resolves memory d, site.fetches memory d]
        (site.unanswered d fault)

inductive Outcome : Nat → Site Context → Directive → Memory Context →
    Walk Context Fault (Followed Context × Memory Context) → Prop
  | refused {room : Nat} {site : Site Context} {d : Directive} {memory : Memory Context}
      {events : List (Event Context)} {error : IncludeError Fault}
      (h : Refusal provider options room site d memory events error) :
      Outcome room site d memory ⟨events, .error error⟩
  | skipped {room : Nat} {site : Site Context} {d : Directive} {memory : Memory Context} {name : String}
      (hname : provider.resolve memory.asked d.path site.context = .ok name)
      (hmet : name ∈ memory.once) :
      Outcome room site d memory
        ⟨[site.resolves memory d, site.event memory (.skip name d.line)],
          .ok (.skipped name, memory.resolved d site.context)⟩
  | nested {room : Nat} {site : Site Context} {d : Directive} {memory : Memory Context} {name : String}
      {source : Text} {child : Context} {inner : Walk Context Fault (Expansion Context × Memory Context)}
      (hname : provider.resolve memory.asked d.path site.context = .ok name)
      (hnew : name ∉ memory.once)
      (hcycle : options.detectCycles = true → name ∉ site.chain)
      (hfetch : provider.fetch (memory.resolved d site.context).asked d.path site.context =
        .ok (source, child))
      (hinner : (Stage.inside options room site memory d name source child).walk provider options = inner) :
      Outcome (room + 1) site d memory
        ⟨[site.resolves memory d, site.fetches memory d,
            site.event (remember options name source (memory.fetched d site.context))
              (.enter name d.line)] ++ inner.events,
          inner.result.map fun (tree, after) => (.nested name source child tree, after)⟩

/-- One step of a crawl, with what happens on it: past an ordinary passage, past an include line with
all that it stands for, or into the source that stands behind one. -/
inductive Advances : Stage Context → List (Event Context) → Stage Context → Prop
  | verbatim {room : Nat} {site : Site Context} {memory : Memory Context} {start : Nat} {text : Text}
      {ps : List Passage} :
      Advances ⟨room, site, memory, .verbatim start text :: ps⟩ [] ⟨room, site, memory, ps⟩
  | past {room : Nat} {site : Site Context} {memory after : Memory Context} {d : Directive}
      {ps : List Passage} {events : List (Event Context)} {followed : Followed Context}
      (hd : follow provider options room site d memory = ⟨events, .ok (followed, after)⟩) :
      Advances ⟨room, site, memory, .directive d :: ps⟩ events ⟨room, site, after, ps⟩
  | into {room : Nat} {site : Site Context} {memory : Memory Context} {d : Directive} {name : String}
      {source : Text} {child : Context} {ps : List Passage}
      (hname : provider.resolve memory.asked d.path site.context = .ok name)
      (hnew : name ∉ memory.once)
      (hcycle : options.detectCycles = true → name ∉ site.chain)
      (hfetch : provider.fetch (memory.resolved d site.context).asked d.path site.context =
        .ok (source, child)) :
      Advances ⟨room + 1, site, memory, .directive d :: ps⟩
        [site.resolves memory d, site.fetches memory d,
          site.event (remember options name source (memory.fetched d site.context))
            (.enter name d.line)]
        (.inside options room site memory d name source child)

inductive Reaches : Stage Context → List (Event Context) → Stage Context → Prop
  | refl (s : Stage Context) : Reaches s [] s
  | next {s t u : Stage Context} {events more : List (Event Context)}
      (hstep : Advances provider options s events t) (h : Reaches t more u) :
      Reaches s (events ++ more) u

inductive Halts : Stage Context → List (Event Context) → IncludeError Fault → Prop
  | malformed {room : Nat} {site : Site Context} {memory : Memory Context} {line : Nat} {m : Malformed}
      {ps : List Passage} :
      Halts ⟨room, site, memory, .malformed line m :: ps⟩ [] (.malformed site.file line m.reason)
  | refused {room : Nat} {site : Site Context} {memory : Memory Context} {d : Directive}
      {ps : List Passage} {events : List (Event Context)} {error : IncludeError Fault}
      (h : Refusal provider options room site d memory events error) :
      Halts ⟨room, site, memory, .directive d :: ps⟩ events error

namespace Walk

variable {α β : Type}

theorem ok_bind {events : List (Event Context)} {a : α} {next : α → Walk Context Fault β} :
    (⟨events, .ok a⟩ : Walk Context Fault α) >>= next =
      ⟨events ++ (next a).events, (next a).result⟩ := rfl

theorem error_bind {events : List (Event Context)} {error : IncludeError Fault}
    {next : α → Walk Context Fault β} :
    (⟨events, .error error⟩ : Walk Context Fault α) >>= next = ⟨events, .error error⟩ := rfl

theorem eq_of_map_eq_error {f : α → β} {walk : Walk Context Fault α} {error : IncludeError Fault}
    (h : walk.result.map f = .error error) : walk = ⟨walk.events, .error error⟩ := by
  rcases walk with ⟨events, other | a⟩
  · cases h
    rfl
  · cases h

theorem eq_of_map_eq_ok {f : α → β} {walk : Walk Context Fault α} {b : β}
    (h : walk.result.map f = .ok b) : ∃ a, walk = ⟨walk.events, .ok a⟩ ∧ f a = b := by
  rcases walk with ⟨events, error | a⟩
  · cases h
  · cases h
    exact ⟨a, rfl, rfl⟩

theorem bind_pure_eq_map (f : α → β) (walk : Walk Context Fault α) :
    (walk >>= fun a => Pure.pure (f a)) = walk.map f := (map_eq_bind f walk).symm

end Walk

variable {provider options}

theorem ask_eq_ok {α : Type} {chain once : List String} {line : Option Int} {path : String}
    {call : Call Context} {answer : Except Fault α} {a : α} (h : answer = .ok a) :
    ask chain once line path call answer = ⟨[⟨chain, once, .call call⟩], .ok a⟩ := by
  rw [h]
  rfl

theorem ask_eq_error {α : Type} {site : Site Context} {memory : Memory Context} {d : Directive}
    {call : Call Context} {answer : Except Fault α} {fault : Fault} (h : answer = .error fault) :
    ask site.chain memory.once (some d.line) d.path call answer =
      ⟨[site.event memory (.call call)], .error (site.unanswered d fault)⟩ := by
  have hlast : site.chain.getLast? = some site.file := by simp [Site.chain]
  rw [h, ask, hlast]
  rfl

theorem Refusal.follow_eq {room : Nat} {site : Site Context} {d : Directive} {memory : Memory Context}
    {events : List (Event Context)} {error : IncludeError Fault}
    (h : Refusal provider options room site d memory events error) :
    follow provider options room site d memory = ⟨events, .error error⟩ := by
  cases h with
  | unresolved hname =>
    rw [follow.eq_def, ask_eq_error hname, Walk.error_bind]
    rfl
  | @cycle _ _ _ _ name hname hnew hon hchain =>
    have hfound : (options.detectCycles && site.chain.contains name) = true := by
      simpa using And.intro hon hchain
    rw [follow.eq_def, ask_eq_ok hname, Walk.ok_bind, if_neg hnew, if_pos hfound]
    rfl
  | @deep _ _ _ name hname hnew hcycle =>
    have hfree : ¬ (options.detectCycles && site.chain.contains name) = true := by simpa using hcycle
    rw [follow.eq_def, ask_eq_ok hname, Walk.ok_bind, if_neg hnew, if_neg hfree]
    rfl
  | @unfetched _ _ _ _ name _ hname hnew hcycle hfetch =>
    have hfree : ¬ (options.detectCycles && site.chain.contains name) = true := by simpa using hcycle
    rw [follow.eq_def, ask_eq_ok hname, Walk.ok_bind, if_neg hnew, if_neg hfree]
    simp only [ask_eq_error hfetch, Walk.error_bind]
    rfl

theorem Outcome.follow_eq {room : Nat} {site : Site Context} {d : Directive} {memory : Memory Context}
    {walk : Walk Context Fault (Followed Context × Memory Context)}
    (h : Outcome provider options room site d memory walk) :
    follow provider options room site d memory = walk := by
  cases h with
  | refused h => exact h.follow_eq
  | skipped hname hmet =>
    rw [follow.eq_def, ask_eq_ok hname, Walk.ok_bind, if_pos hmet]
    rfl
  | @nested _ _ _ _ name source child inner hname hnew hcycle hfetch hinner =>
    have hfree : ¬ (options.detectCycles && site.chain.contains name) = true := by simpa using hcycle
    rw [follow.eq_def, ask_eq_ok hname, Walk.ok_bind, if_neg hnew, if_neg hfree]
    subst hinner
    simp only [ask_eq_ok hfetch, Walk.ok_bind, Walk.note, Walk.bind_pure_eq_map]
    rfl

theorem exists_outcome (provider : Provider Context Fault) (options : Options) (room : Nat)
    (site : Site Context) (d : Directive) (memory : Memory Context) :
    ∃ walk, Outcome provider options room site d memory walk := by
  cases hname : provider.resolve memory.asked d.path site.context with
  | error fault => exact ⟨_, .refused (.unresolved hname)⟩
  | ok name =>
    by_cases hmet : name ∈ memory.once
    · exact ⟨_, .skipped hname hmet⟩
    by_cases hcycle : options.detectCycles = true ∧ name ∈ site.chain
    · exact ⟨_, .refused (.cycle hname hmet hcycle.1 hcycle.2)⟩
    rw [not_and] at hcycle
    cases room with
    | zero => exact ⟨_, .refused (.deep hname hmet hcycle)⟩
    | succ room =>
      cases hfetch : provider.fetch (memory.resolved d site.context).asked d.path site.context with
      | error fault => exact ⟨_, .refused (.unfetched hname hmet hcycle hfetch)⟩
      | ok parts => exact ⟨_, .nested hname hmet hcycle hfetch rfl⟩

theorem outcome_follow (provider : Provider Context Fault) (options : Options) (room : Nat)
    (site : Site Context) (d : Directive) (memory : Memory Context) :
    Outcome provider options room site d memory (follow provider options room site d memory) := by
  obtain ⟨walk, h⟩ := exists_outcome provider options room site d memory
  rw [h.follow_eq]
  exact h

namespace Stage

variable {room : Nat} {site : Site Context} {memory : Memory Context} {d : Directive} {ps : List Passage}

theorem walk_verbatim {start : Nat} {text : Text} :
    walk provider options ⟨room, site, memory, .verbatim start text :: ps⟩ =
      (walk provider options ⟨room, site, memory, ps⟩).map fun (rest, after) =>
        (.verbatim start text rest, after) := rfl

theorem walk_of_error {events : List (Event Context)} {error : IncludeError Fault}
    (hd : follow provider options room site d memory = ⟨events, .error error⟩) :
    walk provider options ⟨room, site, memory, .directive d :: ps⟩ = ⟨events, .error error⟩ := by
  rw [walk, expandPassages, hd, Walk.error_bind]

theorem walk_of_ok {events : List (Event Context)} {followed : Followed Context}
    {after : Memory Context}
    (hd : follow provider options room site d memory = ⟨events, .ok (followed, after)⟩) :
    walk provider options ⟨room, site, memory, .directive d :: ps⟩ =
      ⟨events ++ (walk provider options ⟨room, site, after, ps⟩).events,
        (walk provider options ⟨room, site, after, ps⟩).result.map fun (rest, last) =>
          (followed.cons d rest, last)⟩ := by
  rw [walk, expandPassages, hd, Walk.ok_bind]
  rfl

theorem expands_of_ok {events : List (Event Context)} {followed : Followed Context}
    {after : Memory Context}
    (hd : follow provider options room site d memory = ⟨events, .ok (followed, after)⟩) :
    Expands provider options room site memory [.directive d] (followed.cons d .done) after := by
  apply expands_iff.mp
  change (walk provider options ⟨room, site, memory, [.directive d]⟩).result = _
  rw [walk_of_ok hd]
  rfl

end Stage

theorem Stage.ok_induction
    {motive : Memory Context → List (Event Context) → Expansion Context → Memory Context → Prop}
    (done : ∀ memory, motive memory [] .done memory)
    (verbatim : ∀ memory after start text events rest, motive memory events rest after →
      motive memory events (.verbatim start text rest) after)
    (skipped : ∀ (site : Site Context) memory after d name events rest,
      provider.resolve memory.asked d.path site.context = .ok name →
      motive (memory.resolved d site.context) events rest after →
      motive memory ([site.resolves memory d, site.event memory (.skip name d.line)] ++ events)
        (.skipped d name rest) after)
    (nested : ∀ (site : Site Context) memory middle after d name source child inner tree events rest,
      provider.resolve memory.asked d.path site.context = .ok name →
      provider.fetch (memory.resolved d site.context).asked d.path site.context =
        .ok (source, child) →
      motive (remember options name source (memory.fetched d site.context)) inner tree middle →
      motive middle events rest after →
      motive memory ([site.resolves memory d, site.fetches memory d,
          site.event (remember options name source (memory.fetched d site.context))
            (.enter name d.line)] ++ inner ++ events)
        (.nested d name source child tree rest) after)
    {s : Stage Context} {events : List (Event Context)} {tree : Expansion Context}
    {after : Memory Context} (h : s.walk provider options = ⟨events, .ok (tree, after)⟩) :
    motive s.memory events tree after := by
  induction s using Stage.induction generalizing events tree after with
  | done room site memory =>
    cases h
    exact done memory
  | verbatim room site memory start text ps ih =>
    rw [walk_verbatim, Walk.map, Walk.mk.injEq] at h
    obtain ⟨rfl, hrest⟩ := h
    obtain ⟨⟨rest, last⟩, hwalk, he⟩ := Walk.eq_of_map_eq_ok hrest
    cases he
    exact verbatim memory after start text _ rest (ih hwalk)
  | malformed room site memory line m ps => cases h
  | directive room site memory d ps ih ihroom =>
    have hd := outcome_follow provider options room site d memory
    rcases hf : follow provider options room site d memory with ⟨line, error | ⟨followed, middle⟩⟩
    · rw [walk_of_error hf] at h
      cases h
    rw [walk_of_ok hf, Walk.mk.injEq] at h
    obtain ⟨rfl, hrest⟩ := h
    obtain ⟨⟨rest, last⟩, hwalk, he⟩ := Walk.eq_of_map_eq_ok hrest
    cases he
    generalize hline : (⟨line, .ok (followed, middle)⟩ : Walk _ _ _) = walk at hf
    rw [hf] at hd
    cases hd with
    | refused => cases hline
    | skipped hname =>
      cases hline
      exact skipped site memory after d _ _ rest hname (ih _ hwalk)
    | @nested room _ _ _ name source child inner hname hnew hcycle hfetch hinner =>
      rcases inner with ⟨inner, error | ⟨tree, last⟩⟩
      · cases hline
      · cases hline
        exact nested site memory middle after d name source child inner tree _ rest hname hfetch
          (ihroom _ (Nat.lt_succ_self room) hinner) (ih middle hwalk)

/-- Among the calls, a name was asked for and then the source was handed out under it. -/
def Fetched (provider : Provider Context Fault) (calls : List (Call Context)) (name : String)
    (source : Text) : Prop :=
  ∃ past path context child, past ++ [.resolve path context, .fetch path context] <+: calls ∧
    provider.resolve past path context = .ok name ∧
    provider.fetch (past ++ [.resolve path context]) path context = .ok (source, child)

theorem not_fetched_nil {name : String} {source : Text} : ¬ Fetched provider [] name source := by
  rintro ⟨past, path, context, child, hcalls, -⟩
  simp at hcalls

theorem Fetched.mono {calls more : List (Call Context)} {name : String} {source : Text}
    (h : Fetched provider calls name source) (hmore : calls <+: more) :
    Fetched provider more name source := by
  obtain ⟨past, path, context, child, hcalls, hanswers⟩ := h
  exact ⟨past, path, context, child, hcalls.trans hmore, hanswers⟩

theorem fetched_concat_resolve {calls : List (Call Context)} {path name : String} {context : Context}
    {source : Text} : Fetched provider (calls ++ [.resolve path context]) name source ↔
      Fetched provider calls name source := by
  refine ⟨?_, fun h => h.mono (List.prefix_append _ _)⟩
  rintro ⟨past, other, asked, child, hcalls, hanswers⟩
  rcases List.prefix_concat_iff.mp hcalls with hlast | hcalls
  · rw [List.append_cons] at hlast
    cases (List.append_inj' hlast rfl).2
  · exact ⟨past, other, asked, child, hcalls, hanswers⟩

theorem fetched_concat_fetch {calls : List (Call Context)} {path name other : String}
    {context child : Context} {source text : Text}
    (hname : provider.resolve calls path context = .ok name)
    (hfetch : provider.fetch (calls ++ [.resolve path context]) path context = .ok (source, child)) :
    Fetched provider (calls ++ [.resolve path context] ++ [.fetch path context]) other text ↔
      Fetched provider calls other text ∨ other = name ∧ text = source := by
  constructor
  · rintro ⟨past, path', asked, next, hcalls, hother, htext⟩
    rcases List.prefix_concat_iff.mp hcalls with hlast | hcalls
    · rw [List.append_cons] at hlast
      obtain ⟨hpast, hcall⟩ := List.append_inj' hlast rfl
      obtain ⟨rfl, -⟩ := List.append_inj' hpast rfl
      cases hcall
      cases hname.symm.trans hother
      cases hfetch.symm.trans htext
      exact .inr ⟨rfl, rfl⟩
    · exact .inl (fetched_concat_resolve.mp ⟨past, path', asked, next, hcalls, hother, htext⟩)
  · rintro (h | ⟨rfl, rfl⟩)
    · rw [List.append_assoc]
      exact h.mono (List.prefix_append _ _)
    · exact ⟨calls, path, context, child, by simp, hname, hfetch⟩

-- What a crawl knows of its calls is what has happened.
theorem Stage.asked_eq {s : Stage Context} {events : List (Event Context)} {tree : Expansion Context}
    {after : Memory Context} (h : s.walk provider options = ⟨events, .ok (tree, after)⟩) :
    after.asked = s.memory.asked ++ events.filterMap Event.call? := by
  refine Stage.ok_induction
    (motive := fun memory events _ after =>
      after.asked = memory.asked ++ events.filterMap Event.call?)
    ?done ?verbatim ?skipped ?nested h
  case done => exact fun memory => (List.append_nil memory.asked).symm
  case verbatim =>
    intro memory after start text events rest hrest
    exact hrest
  case skipped =>
    intro site memory after d name events rest hname hrest
    rw [hrest, List.filterMap_append, ← List.append_assoc]
    rfl
  case nested =>
    intro site memory middle after d name source child inner tree events rest hname hfetch hinner hrest
    rw [hrest, hinner, asked_remember, List.filterMap_append, List.filterMap_append]
    simp [Memory.fetched, Memory.resolved, Memory.ask, Site.resolves, Site.fetches, Site.event,
      Event.call?]

theorem Advances.asked_eq {s t : Stage Context} {events : List (Event Context)}
    (h : Advances provider options s events t) :
    t.memory.asked = s.memory.asked ++ events.filterMap Event.call? := by
  cases h with
  | verbatim => exact (List.append_nil _).symm
  | @past room site memory after d ps events followed hd =>
    have hline := @Stage.asked_eq _ _ provider options ⟨room, site, memory, [.directive d]⟩
    rw [Stage.walk_of_ok hd] at hline
    simpa [Stage.walk, expandPassages, Pure.pure, Walk.pure] using hline rfl
  | into hname hnew hcycle hfetch =>
    simp [Stage.inside, Memory.fetched, Memory.resolved, Memory.ask, Site.resolves, Site.fetches,
      Site.event, Event.call?]

theorem Reaches.asked_eq {s t : Stage Context} {events : List (Event Context)}
    (h : Reaches provider options s events t) :
    t.memory.asked = s.memory.asked ++ events.filterMap Event.call? := by
  induction h with
  | refl s => exact (List.append_nil _).symm
  | next hstep h ih => rw [ih, hstep.asked_eq, List.filterMap_append, List.append_assoc]

inductive Opens (provider : Provider Context Fault) (options : Options) :
    Walk Context Fault (Root Context) → List (Event Context) → String → Text → Context → Prop
  | source {name : String} {source : Text} {context : Context} :
      Opens provider options (expandSource provider options name source context) [] name source context
  | file {path name : String} {source : Text} {context child : Context}
      (hname : provider.resolve [] path context = .ok name)
      (hfetch : provider.fetch [.resolve path context] path context = .ok (source, child)) :
      Opens provider options (expandFile provider options path context)
        [⟨[], [], .call (.resolve path context)⟩, ⟨[], [], .call (.fetch path context)⟩] name source
        child

theorem expandBehind_eq (provider : Provider Context Fault) (options : Options)
    (asked : List (Call Context)) (name : String) (source : Text) (context : Context) :
    expandBehind provider options asked name source context =
      ((Stage.start options asked name source context).walk provider options).map fun (tree, _) =>
        ⟨name, source, context, tree⟩ :=
  Walk.bind_pure_eq_map _ _

/-- The stage at which a crawl begins that opens with some calls. -/
def Stage.opened (options : Options) (opening : List (Event Context)) (name : String) (source : Text)
    (context : Context) : Stage Context :=
  .start options (opening.filterMap Event.call?) name source context

theorem Stage.asked_opened (options : Options) (opening : List (Event Context)) (name : String)
    (source : Text) (context : Context) :
    (opened options opening name source context).memory.asked = opening.filterMap Event.call? :=
  asked_remember ..

theorem Opens.walk_eq {walk : Walk Context Fault (Root Context)} {opening : List (Event Context)}
    {name : String} {source : Text} {context : Context}
    (h : Opens provider options walk opening name source context) :
    walk = ⟨opening ++ ((Stage.opened options opening name source context).walk provider options).events,
      ((Stage.opened options opening name source context).walk provider options).result.map
        fun (tree, _) => ⟨name, source, context, tree⟩⟩ := by
  cases h with
  | source =>
    rw [expandSource, expandBehind_eq]
    rfl
  | file hname hfetch =>
    rw [expandFile, ask_eq_ok hname, Walk.ok_bind]
    simp only [ask_eq_ok hfetch, Walk.ok_bind, expandBehind_eq]
    rfl

theorem Stage.exists_halts {s : Stage Context} {events : List (Event Context)}
    {error : IncludeError Fault} (h : s.walk provider options = ⟨events, .error error⟩) :
    ∃ before t last, Reaches provider options s before t ∧ Halts provider options t last error ∧
      events = before ++ last := by
  induction s using Stage.induction generalizing events with
  | done room site memory => cases h
  | verbatim room site memory start text ps ih =>
    rw [walk_verbatim, Walk.map, Walk.mk.injEq] at h
    obtain ⟨rfl, hrest⟩ := h
    obtain ⟨before, t, last, hreach, hhalt, he⟩ := ih (Walk.eq_of_map_eq_error hrest)
    exact ⟨before, t, last, .next .verbatim hreach, hhalt, he⟩
  | malformed room site memory line m ps =>
    cases h
    exact ⟨[], _, [], .refl _, .malformed, rfl⟩
  | directive room site memory d ps ih ihroom =>
    -- The error may come from behind an include line that was followed.
    have later {opening : List (Event Context)} {followed : Followed Context} {after : Memory Context}
        (hf : follow provider options room site d memory = ⟨opening, .ok (followed, after)⟩) :
        ∃ before t last, Reaches provider options ⟨room, site, memory, .directive d :: ps⟩ before t ∧
          Halts provider options t last error ∧ events = before ++ last := by
      rw [walk_of_ok hf, Walk.mk.injEq] at h
      obtain ⟨rfl, hrest⟩ := h
      obtain ⟨before, t, last, hreach, hhalt, he⟩ := ih after (Walk.eq_of_map_eq_error hrest)
      exact ⟨opening ++ before, t, last, .next (.past hf) hreach, hhalt, by
        rw [he, List.append_assoc]⟩
    have hd := outcome_follow provider options room site d memory
    generalize hf : follow provider options room site d memory = walk at hd
    cases hd with
    | refused hrefused =>
      rw [walk_of_error hf] at h
      cases h
      exact ⟨[], _, _, .refl _, .refused hrefused, rfl⟩
    | skipped hname hmet => exact later hf
    | @nested room _ _ _ name source child inner hname hnew hcycle hfetch hinner =>
      rcases inner with ⟨inner, failed | ⟨tree, after⟩⟩
      · rw [walk_of_error hf] at h
        cases h
        obtain ⟨before, t, last, hreach, hhalt, rfl⟩ := ihroom _ (Nat.lt_succ_self room) hinner
        exact ⟨_, t, last, .next (.into hname hnew hcycle hfetch) hreach, hhalt, by
          rw [List.append_assoc]⟩
      · exact later hf

theorem split_append {α : Type} {xs ys before after : List α} {a : α}
    (h : xs ++ ys = before ++ a :: after) :
    (∃ more, xs = before ++ a :: more ∧ after = more ++ ys) ∨
      ∃ more, before = xs ++ more ∧ ys = more ++ a :: after := by
  rcases List.append_eq_append_iff.mp h with ⟨more, rfl, hys⟩ | ⟨more, rfl, hafter⟩
  · exact .inr ⟨more, rfl, hys⟩
  · cases more with
    | nil => exact .inr ⟨[], by simp, by simpa using hafter.symm⟩
    | cons b more =>
      cases hafter
      exact .inl ⟨more, rfl, rfl⟩

inductive Happens (provider : Provider Context Fault) (site : Site Context) (memory : Memory Context)
    (d : Directive) : List (Event Context) → Event Context → Prop
  | resolves : Happens provider site memory d [] (site.resolves memory d)
  | fetches {name : String} (hname : provider.resolve memory.asked d.path site.context = .ok name)
      (hnew : name ∉ memory.once) :
      Happens provider site memory d [site.resolves memory d] (site.fetches memory d)
  | notes {own : List (Event Context)} {event : Event Context} (hnote : event.call? = none) :
      Happens provider site memory d own event

theorem Happens.of_cons {site : Site Context} {memory : Memory Context} {d : Directive}
    {tail own more : List (Event Context)} {event : Event Context}
    (h : site.resolves memory d :: tail = own ++ event :: more)
    (htail : ∀ front, tail = front ++ event :: more →
      Happens provider site memory d (site.resolves memory d :: front) event) :
    Happens provider site memory d own event := by
  cases own with
  | nil =>
    cases h
    exact .resolves
  | cons first own =>
    obtain ⟨rfl, hrest⟩ := List.cons.inj h
    exact htail own hrest

theorem Happens.of_notes {site : Site Context} {memory : Memory Context} {d : Directive}
    {notes own front more : List (Event Context)} {event : Event Context}
    (hnotes : ∀ note ∈ notes, note.call? = none) (h : notes = front ++ event :: more) :
    Happens provider site memory d own event := by
  apply Happens.notes
  apply hnotes
  rw [h]
  exact List.mem_append_right _ List.mem_cons_self

theorem Happens.of_fetches {site : Site Context} {memory : Memory Context} {d : Directive} {name : String}
    {notes front more : List (Event Context)} {event : Event Context}
    (hname : provider.resolve memory.asked d.path site.context = .ok name)
    (hnew : name ∉ memory.once)
    (hnotes : ∀ note ∈ notes, note.call? = none)
    (h : site.fetches memory d :: notes = front ++ event :: more) :
    Happens provider site memory d (site.resolves memory d :: front) event := by
  cases front with
  | nil =>
    cases h
    exact .fetches hname hnew
  | cons first front =>
    obtain ⟨rfl, hrest⟩ := List.cons.inj h
    exact .of_notes hnotes hrest

theorem Refusal.happens {room : Nat} {site : Site Context} {memory : Memory Context} {d : Directive}
    {own more : List (Event Context)} {event : Event Context} {error : IncludeError Fault}
    (h : Refusal provider options room site d memory (own ++ event :: more) error) :
    Happens provider site memory d own event := by
  generalize he : own ++ event :: more = events at h
  cases h with
  | unresolved => exact .of_cons he.symm (by simp)
  | cycle => exact .of_cons he.symm (by simp)
  | deep => exact .of_cons he.symm (by simp)
  | unfetched hname hnew =>
    exact .of_cons he.symm fun front h => .of_fetches hname hnew (by simp) h

/-- The event between `before` and `after` happens at an include line that is reached from `s`. -/
structure Arises (provider : Provider Context Fault) (options : Options) (s : Stage Context)
    (before : List (Event Context)) (event : Event Context) (after : List (Event Context))
    (t : Stage Context) (d : Directive) : Prop where
  line : ∃ ps, t.rest = .directive d :: ps
  reached : ∃ events own more, Reaches provider options s events t ∧ before = events ++ own ∧
    Happens provider t.site t.memory d own event ∧
    own ++ event :: after = (follow provider options t.room t.site d t.memory).events ++ more

theorem Arises.here {s : Stage Context} {before after line more : List (Event Context)}
    {event : Event Context} {d : Directive} {ps : List Passage}
    {result : Except (IncludeError Fault) (Followed Context × Memory Context)}
    (hs : s.rest = .directive d :: ps)
    (hf : follow provider options s.room s.site d s.memory = ⟨line, result⟩)
    (hline : line ++ more = before ++ event :: after)
    (h : Happens provider s.site s.memory d before event) :
    Arises provider options s before event after s d := by
  refine ⟨⟨ps, hs⟩, [], before, more, .refl s, rfl, h, ?_⟩
  rw [hf, hline]

theorem Arises.next {s s' t : Stage Context} {events before after : List (Event Context)}
    {event : Event Context} {d : Directive} (hstep : Advances provider options s events s')
    (h : Arises provider options s' before event after t d) :
    Arises provider options s (events ++ before) event after t d := by
  obtain ⟨hline, reached, own, more, hreach, rfl, hevent, hmore⟩ := h
  exact ⟨hline, events ++ reached, own, more, .next hstep hreach, (List.append_assoc ..).symm, hevent,
    hmore⟩

theorem Arises.append {s t : Stage Context} {before after : List (Event Context)}
    {event : Event Context} {d : Directive} (h : Arises provider options s before event after t d)
    (rest : List (Event Context)) : Arises provider options s before event (after ++ rest) t d := by
  obtain ⟨hline, events, own, more, hreach, hsplit, hevent, hmore⟩ := h
  refine ⟨hline, events, own, more ++ rest, hreach, hsplit, hevent, ?_⟩
  rw [← List.append_assoc, ← hmore, List.append_assoc, List.cons_append]

theorem Outcome.exists_arises {room : Nat} {site : Site Context} {d : Directive} {memory : Memory Context}
    {ps : List Passage} {walk : Walk Context Fault (Followed Context × Memory Context)}
    {before after : List (Event Context)} {event : Event Context}
    (h : Outcome provider options room site d memory walk)
    (hinside : ∀ t : Stage Context, t.room < room → ∀ {before after : List (Event Context)},
      (t.walk provider options).events = before ++ event :: after →
        ∃ u e, Arises provider options t before event after u e)
    (hevents : walk.events = before ++ event :: after) :
    ∃ t e, Arises provider options ⟨room, site, memory, .directive d :: ps⟩ before event after t e := by
  have hf := h.follow_eq
  cases h with
  | @refused _ _ _ _ events error h =>
    obtain rfl : events = _ := hevents
    exact ⟨_, d, .here rfl hf (List.append_nil _) h.happens⟩
  | skipped hname hmet =>
    refine ⟨_, d, .here rfl hf ((List.append_nil _).trans hevents) ?_⟩
    exact .of_cons hevents fun _ hrest => .of_notes (by simp [Site.event, Event.call?]) hrest
  | @nested room _ _ _ name source child inner hname hnew hcycle hfetch hinner =>
    rcases split_append hevents with ⟨more, hline, rfl⟩ | ⟨front, rfl, hin⟩
    · refine ⟨_, d, .here rfl hf ((List.append_nil _).trans hevents) ?_⟩
      exact .of_cons hline fun _ hrest =>
        .of_fetches hname hnew (by simp [Site.event, Event.call?]) hrest
    · obtain ⟨t, e, harises⟩ := hinside _ (Nat.lt_succ_self room) (hinner ▸ hin)
      exact ⟨t, e, harises.next (.into hname hnew hcycle hfetch)⟩

theorem Stage.exists_arises {s : Stage Context} {before after : List (Event Context)}
    {event : Event Context} (h : (s.walk provider options).events = before ++ event :: after) :
    ∃ t d, Arises provider options s before event after t d := by
  induction s using Stage.induction generalizing before after with
  | done room site memory => simp [walk, expandPassages, Pure.pure, Walk.pure] at h
  | verbatim room site memory start text ps ih =>
    obtain ⟨t, d, harises⟩ := ih h
    exact ⟨t, d, harises.next .verbatim⟩
  | malformed room site memory line m ps => simp [walk, expandPassages, Walk.fail] at h
  | directive room site memory d ps ih ihroom =>
    have hd := outcome_follow provider options room site d memory
    rcases hf : follow provider options room site d memory with ⟨line, error | ⟨followed, last⟩⟩
    · rw [walk_of_error hf] at h
      exact hd.exists_arises (fun t ht _ _ => ihroom t ht) (by rw [hf]; exact h)
    · rw [walk_of_ok hf] at h
      rcases split_append h with ⟨more, hline, rfl⟩ | ⟨front, rfl, hrest⟩
      · obtain ⟨t, e, harises⟩ :=
          hd.exists_arises (fun t ht _ _ => ihroom t ht) (by rw [hf]; exact hline)
        exact ⟨t, e, harises.append _⟩
      · obtain ⟨t, e, harises⟩ := ih last hrest
        exact ⟨t, e, harises.next (.past hf)⟩

end ShaderSources
