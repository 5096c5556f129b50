import Mathlib.Data.List.Nodup
import ShaderSources.Proofs.Stages

namespace ShaderSources

open Source

variable {Context Fault : Type}

structure Activation (Context : Type) where
  name : String
  context : Context
  depth : Nat
  rest : List Passage

namespace Activation

def site (a : Activation Context) (below : List (Activation Context)) : Site Context :=
  ⟨(below.map name).reverse, a.name, a.context⟩

theorem chain_site (a : Activation Context) (below : List (Activation Context)) :
    (a.site below).chain = (below.map name).reverse ++ [a.name] := rfl

def room (options : Options) (a : Activation Context) : Nat := options.maxDepth.toNat - a.depth

def before (a : Activation Context) (rest : List Passage) : Activation Context :=
  { a with rest := rest }

def inner (a : Activation Context) (name : String) (source : Text) (child : Context) :
    Activation Context :=
  ⟨name, child, a.depth + 1, passages source⟩

end Activation

/-- The stack has the innermost source first. Once there is an error nothing more is read. -/
structure Moment (Context Fault : Type) where
  stack : List (Activation Context)
  memory : Memory Context
  chunks : List (Chunk Context)
  error : Option (IncludeError Fault)

namespace Moment

def chain (m : Moment Context Fault) : List String := (m.stack.map Activation.name).reverse

theorem length_chain (m : Moment Context Fault) : m.chain.length = m.stack.length := by
  rw [chain, List.length_reverse, List.length_map]

theorem chain_cons (a : Activation Context) (below : List (Activation Context))
    (memory : Memory Context) (chunks : List (Chunk Context)) (error : Option (IncludeError Fault)) :
    (Moment.mk (a :: below) memory chunks error).chain = (below.map Activation.name).reverse ++ [a.name] := by
  rw [chain, List.map_cons, List.reverse_cons]

def start (options : Options) (asked : List (Call Context)) (name : String) (source : Text)
    (context : Context) : Moment Context Fault :=
  ⟨[⟨name, context, 0, passages source⟩], remember options name source ⟨[], asked⟩, [], none⟩

/-- The moment at which a crawl begins that opens with some calls. -/
def opened (options : Options) (opening : List (Event Context)) (name : String) (source : Text)
    (context : Context) : Moment Context Fault :=
  .start options (opening.filterMap Event.call?) name source context

end Moment

def Counted : List (Activation Context) → Prop
  | [] => True
  | a :: below => a.depth = below.length ∧ Counted below

structure Moment.Kept (options : Options) (m : Moment Context Fault) : Prop where
  counted : Counted m.stack
  bounded : m.chain.length ≤ options.maxDepth.toNat + 1
  nodup : options.detectCycles = true → m.chain.Nodup

variable (provider : Provider Context Fault) (options : Options)

/-- What happens from one moment to the next. -/
inductive Turns : Moment Context Fault → List (Event Context) → Moment Context Fault → Prop
  | verbatim {a : Activation Context} {below : List (Activation Context)} {memory : Memory Context}
      {chunks : List (Chunk Context)} {start : Nat} {text : Text} {ps : List Passage}
      (hrest : a.rest = .verbatim start text :: ps) :
      Turns ⟨a :: below, memory, chunks, none⟩ []
        ⟨a.before ps :: below, memory, chunks ++ [⟨text, a.name, start, a.context⟩], none⟩
  | malformed {a : Activation Context} {below : List (Activation Context)} {memory : Memory Context}
      {chunks : List (Chunk Context)} {line : Nat} {m : Malformed} {ps : List Passage}
      (hrest : a.rest = .malformed line m :: ps) :
      Turns ⟨a :: below, memory, chunks, none⟩ []
        ⟨a.before ps :: below, memory, chunks, some (.malformed a.name line m.reason)⟩
  | refused {a : Activation Context} {below : List (Activation Context)} {memory : Memory Context}
      {chunks : List (Chunk Context)} {d : Directive} {ps : List Passage}
      {events : List (Event Context)} {error : IncludeError Fault}
      (hrest : a.rest = .directive d :: ps)
      (h : Refusal provider options (a.room options) (a.site below) d memory events error) :
      Turns ⟨a :: below, memory, chunks, none⟩ events ⟨a.before ps :: below, memory, chunks, some error⟩
  | skipped {a : Activation Context} {below : List (Activation Context)} {memory : Memory Context}
      {chunks : List (Chunk Context)} {d : Directive} {ps : List Passage} {name : String}
      (hrest : a.rest = .directive d :: ps)
      (hname : provider.resolve memory.asked d.path a.context = .ok name)
      (hmet : name ∈ memory.once) :
      Turns ⟨a :: below, memory, chunks, none⟩
        [(a.site below).resolves memory d, (a.site below).event memory (.skip name d.line)]
        ⟨a.before ps :: below, memory.resolved d a.context, chunks, none⟩
  | entered {a : Activation Context} {below : List (Activation Context)} {memory : Memory Context}
      {chunks : List (Chunk Context)} {d : Directive} {ps : List Passage} {name : String}
      {source : Text} {child : Context} (hrest : a.rest = .directive d :: ps)
      (hname : provider.resolve memory.asked d.path a.context = .ok name)
      (hnew : name ∉ memory.once)
      (hcycle : options.detectCycles = true → name ∉ (a.site below).chain)
      (hroom : 0 < a.room options)
      (hfetch : provider.fetch (memory.resolved d a.context).asked d.path a.context =
        .ok (source, child)) :
      Turns ⟨a :: below, memory, chunks, none⟩
        [(a.site below).resolves memory d, (a.site below).fetches memory d,
          (a.site below).event (remember options name source (memory.fetched d a.context))
            (.enter name d.line)]
        ⟨a.inner name source child :: a.before ps :: below,
          remember options name source (memory.fetched d a.context), chunks, none⟩
  | left {a : Activation Context} {below : List (Activation Context)} {memory : Memory Context}
      {chunks : List (Chunk Context)} {error : Option (IncludeError Fault)}
      (hend : error = none → a.rest = []) :
      Turns ⟨a :: below, memory, chunks, error⟩ [] ⟨below, memory, chunks, error⟩

inductive Runs (floor : Nat) :
    Moment Context Fault → List (Event Context) → Moment Context Fault → Prop
  | refl {m : Moment Context Fault} (hfloor : floor ≤ m.stack.length) : Runs floor m [] m
  | next {m m' m'' : Moment Context Fault} {events more : List (Event Context)}
      (hfloor : floor ≤ m.stack.length) (hturn : Turns provider options m events m')
      (h : Runs floor m' more m'') : Runs floor m (events ++ more) m''

def Walk.error? {α : Type} (walk : Walk Context Fault α) : Option (IncludeError Fault) :=
  match walk.result with
  | .error error => some error
  | .ok _ => none

def Followed.chunks : Followed Context → List (Chunk Context)
  | skipped _ => []
  | nested name _ child tree => tree.chunks name child

/-- A run that does what the walk does, and ends with the same sources on the stack; of the innermost
one `rest` is still to come. -/
def Accounts {α : Type} (chunksOf : α → List (Chunk Context)) (a : Activation Context)
    (below : List (Activation Context)) (memory : Memory Context) (chunks : List (Chunk Context))
    (rest : List Passage) (walk : Walk Context Fault (α × Memory Context)) : Prop :=
  ∃ after more, Runs provider options (below.length + 1) ⟨a :: below, memory, chunks, none⟩ walk.events
      ⟨a.before rest :: below, after, more, walk.error?⟩ ∧
    ∀ x last, walk.result = .ok (x, last) → after = last ∧ more = chunks ++ chunksOf x

def Stage.Simulated (s : Stage Context) : Prop :=
  ∀ (a : Activation Context) (below : List (Activation Context)) (chunks : List (Chunk Context)),
    a.room options = s.room → a.site below = s.site → a.rest = s.rest →
    ∃ rest, ((s.walk provider options).error? = none → rest = []) ∧
      Accounts provider options (Expansion.chunks a.name a.context) a below s.memory chunks rest
        (s.walk provider options)

variable {provider options}

namespace Walk

variable {α β : Type}

theorem error?_map (walk : Walk Context Fault α) (f : α → β) : (walk.map f).error? = walk.error? := by
  rcases walk with ⟨events, error | a⟩
  · rfl
  · rfl

end Walk

namespace Runs

variable {floor : Nat} {m m' m'' : Moment Context Fault} {events more : List (Event Context)}

theorem trans (h : Runs provider options floor m events m')
    (h' : Runs provider options floor m' more m'') :
    Runs provider options floor m (events ++ more) m'' := by
  induction h with
  | refl => exact h'
  | next hfloor hturn h ih =>
    rw [List.append_assoc]
    exact .next hfloor hturn (ih h')

theorem mono {low : Nat} (hlow : low ≤ floor) (h : Runs provider options floor m events m') :
    Runs provider options low m events m' := by
  induction h with
  | refl hfloor => exact .refl (Nat.le_trans hlow hfloor)
  | next hfloor hturn h ih => exact .next (Nat.le_trans hlow hfloor) hturn ih

theorem single (hfloor : floor ≤ m.stack.length) (hfloor' : floor ≤ m'.stack.length)
    (h : Turns provider options m events m') : Runs provider options floor m events m' := by
  have hrun := Runs.next hfloor h (.refl hfloor')
  rwa [List.append_nil] at hrun

theorem onTop {a b : Activation Context} {below : List (Activation Context)}
    {memory after : Memory Context} {chunks more : List (Chunk Context)}
    {error error' : Option (IncludeError Fault)}
    (h : Turns provider options ⟨a :: below, memory, chunks, error⟩ events
      ⟨b :: below, after, more, error'⟩) :
    Runs provider options (below.length + 1) ⟨a :: below, memory, chunks, error⟩ events
      ⟨b :: below, after, more, error'⟩ :=
  single (Nat.le_refl _) (Nat.le_refl _) h

end Runs

theorem Accounts.behind {α β : Type} {chunksOf : α → List (Chunk Context)}
    {chunksOf' : β → List (Chunk Context)} {a : Activation Context}
    {below : List (Activation Context)} {memory middle : Memory Context} {chunks mid : List (Chunk Context)}
    {ps rest : List Passage} {line : List (Event Context)}
    {walk : Walk Context Fault (α × Memory Context)}
    (hline : Runs provider options (below.length + 1) ⟨a :: below, memory, chunks, none⟩ line
      ⟨a.before ps :: below, middle, mid, none⟩)
    (h : Accounts provider options chunksOf (a.before ps) below middle mid rest walk) (f : α → β)
    (hf : ∀ x, mid ++ chunksOf x = chunks ++ chunksOf' (f x)) :
    Accounts provider options chunksOf' a below memory chunks rest
      ⟨line ++ walk.events, walk.result.map fun (x, last) => (f x, last)⟩ := by
  obtain ⟨after, more, hrun, hok⟩ := h
  have herror := Walk.error?_map walk fun (x, last) => (f x, last)
  refine ⟨after, more, herror ▸ hline.trans hrun, ?_⟩
  intro y last hlast
  obtain ⟨⟨x, middle⟩, hwalk, he⟩ := Walk.eq_of_map_eq_ok hlast
  cases he
  obtain ⟨hafter, hmore⟩ := hok x last (congrArg Walk.result hwalk)
  exact ⟨hafter, hmore.trans (hf x)⟩

theorem Followed.chunks_cons (followed : Followed Context) (d : Directive)
    (chunks : List (Chunk Context)) (tree : Expansion Context) (file : String) (context : Context) :
    chunks ++ followed.chunks ++ tree.chunks file context =
      chunks ++ (followed.cons d tree).chunks file context := by
  rw [List.append_assoc]
  cases followed with
  | skipped name => rfl
  | nested name source child inner => rfl

theorem Outcome.accounts {room : Nat} {site : Site Context} {d : Directive} {memory : Memory Context}
    {walk : Walk Context Fault (Followed Context × Memory Context)}
    (h : Outcome provider options room site d memory walk)
    (hinside : ∀ t : Stage Context, t.room < room → t.Simulated provider options)
    {a : Activation Context} {below : List (Activation Context)} {ps : List Passage}
    (hroom : a.room options = room) (hsite : a.site below = site) (hrest : a.rest = .directive d :: ps)
    (chunks : List (Chunk Context)) :
    Accounts provider options Followed.chunks a below memory chunks ps walk := by
  subst hsite
  cases h with
  | refused h =>
    rw [← hroom] at h
    exact ⟨memory, chunks, .onTop (.refused hrest h), nofun⟩
  | skipped hname hmet =>
    refine ⟨memory.resolved d a.context, chunks, .onTop (.skipped hrest hname hmet), ?_⟩
    intro x last hok
    cases hok
    exact ⟨rfl, (List.append_nil chunks).symm⟩
  | @nested less _ _ _ name source child inner hname hnew hcycle hfetch hinner =>
    have hpos : 0 < a.room options := by omega
    have hless : (a.inner name source child).room options = less := by
      have hdepth : a.room options = options.maxDepth.toNat - a.depth := rfl
      change options.maxDepth.toNat - (a.depth + 1) = less
      omega
    have hbelow : (a.inner name source child).site (a.before ps :: below) =
        (a.site below).inside name child := by
      simp [Activation.site, Activation.inner, Activation.before, Site.inside, Site.chain]
    obtain ⟨rest, hend, after, more, hrun, hok⟩ :=
      hinside (.inside options less (a.site below) memory d name source child) (Nat.lt_succ_self less)
        (a.inner name source child) (a.before ps :: below) chunks hless hbelow rfl
    rw [hinner] at hend hrun hok
    have hleft : Turns provider options
        ⟨(a.inner name source child).before rest :: a.before ps :: below, after, more, inner.error?⟩ []
        ⟨a.before ps :: below, after, more, inner.error?⟩ := .left hend
    have hback := (hrun.mono (Nat.le_succ _)).trans (.single (Nat.le_succ _) (Nat.le_refl _) hleft)
    refine ⟨after, more, ?_, ?_⟩
    · rw [List.append_nil] at hback
      have henter := Runs.next (Nat.le_refl _) (.entered hrest hname hnew hcycle hpos hfetch) hback
      have hmap := Walk.error?_map inner fun pair =>
        (Followed.nested name source child pair.1, pair.2)
      rw [← hmap] at henter
      exact henter
    · intro x last hlast
      obtain ⟨⟨tree, _⟩, hwalk, he⟩ := Walk.eq_of_map_eq_ok hlast
      cases he
      exact hok tree last (congrArg Walk.result hwalk)

theorem Stage.simulated (s : Stage Context) : s.Simulated provider options := by
  induction s using Stage.induction with
  | done room site memory =>
    intro a below chunks hroom hsite hrest
    have hrest : a.rest = [] := hrest
    have hhere : a.before [] = a := by rw [← hrest, Activation.before]
    refine ⟨[], fun _ => rfl, memory, chunks, ?_, ?_⟩
    · rw [hhere]
      exact .refl (Nat.le_refl _)
    · intro x last hok
      cases hok
      exact ⟨rfl, (List.append_nil chunks).symm⟩
  | verbatim room site memory start text ps ih =>
    intro a below chunks hroom hsite hrest
    obtain ⟨rest, hend, hdone⟩ :=
      ih (a.before ps) below (chunks ++ [⟨text, a.name, start, a.context⟩]) hroom hsite rfl
    have hline := Runs.onTop
      (@Turns.verbatim _ _ provider options a below memory chunks start text ps hrest)
    rw [walk_verbatim]
    refine ⟨rest, fun hok => hend (Walk.error?_map _ _ ▸ hok), ?_⟩
    exact hdone.behind hline _ fun tree => List.append_assoc ..
  | malformed room site memory line m ps =>
    intro a below chunks hroom hsite hrest
    have hfile : a.name = site.file := congrArg Site.file hsite
    have hline := Runs.onTop
      (@Turns.malformed _ _ provider options a below memory chunks line m ps hrest)
    rw [hfile] at hline
    exact ⟨ps, nofun, memory, chunks, hline, nofun⟩
  | directive room site memory d ps ih ihroom =>
    intro a below chunks hroom hsite hrest
    have hd := (outcome_follow provider options room site d memory).accounts
      (fun t ht => ihroom t ht) hroom hsite hrest chunks
    rcases hf : follow provider options room site d memory with ⟨line, error | ⟨followed, middle⟩⟩
    · rw [hf] at hd
      obtain ⟨after, more, hrun, -⟩ := hd
      rw [walk_of_error hf]
      exact ⟨ps, nofun, after, more, hrun, nofun⟩
    · rw [hf] at hd
      obtain ⟨after, more, hrun, hok⟩ := hd
      obtain ⟨rfl, rfl⟩ := hok followed middle rfl
      obtain ⟨rest, hend, hdone⟩ :=
        ih after (a.before ps) below (chunks ++ followed.chunks) hroom hsite rfl
      rw [walk_of_ok hf]
      refine ⟨rest, fun hok => hend (Walk.error?_map _ _ ▸ hok), ?_⟩
      exact hdone.behind hrun (fun tree => followed.cons d tree) fun tree =>
        followed.chunks_cons d chunks tree a.name a.context

theorem Refusal.room_of_fetch {room : Nat} {site : Site Context} {d : Directive} {memory : Memory Context}
    {events : List (Event Context)} {error : IncludeError Fault} {event : Event Context} {path : String}
    {context : Context} (h : Refusal provider options room site d memory events error)
    (hevent : event ∈ events) (hact : event.act = .call (.fetch path context)) :
    0 < room ∧ event.chain = site.chain := by
  have hresolves : event ≠ site.resolves memory d := by
    rintro rfl
    cases hact
  cases h with
  | unresolved hname => exact absurd (List.mem_singleton.mp hevent) hresolves
  | cycle hname hnew hon hchain => exact absurd (List.mem_singleton.mp hevent) hresolves
  | deep hname hnew hcycle => exact absurd (List.mem_singleton.mp hevent) hresolves
  | @unfetched room _ _ _ _ _ hname hnew hcycle hfetch =>
    rcases List.mem_cons.mp hevent with hevent | hevent
    · exact absurd hevent hresolves
    · rw [List.mem_singleton.mp hevent]
      exact ⟨Nat.succ_pos room, rfl⟩

namespace Turns

variable {m m' : Moment Context Fault} {events : List (Event Context)}

theorem kept (h : Turns provider options m events m') (hm : m.Kept options) : m'.Kept options := by
  obtain ⟨hcounted, hbounded, hnodup⟩ := hm
  cases h with
  | verbatim hrest => exact ⟨hcounted, hbounded, hnodup⟩
  | malformed hrest => exact ⟨hcounted, hbounded, hnodup⟩
  | refused hrest h => exact ⟨hcounted, hbounded, hnodup⟩
  | skipped hrest hname hmet => exact ⟨hcounted, hbounded, hnodup⟩
  | @entered a below memory chunks d ps name source child hrest hname hnew hcycle hroom hfetch =>
    have hdepth : a.depth = below.length := hcounted.1
    refine ⟨⟨congrArg Nat.succ hdepth, hcounted⟩, ?_, ?_⟩
    · rw [Activation.room] at hroom
      rw [Moment.length_chain, List.length_cons, List.length_cons]
      omega
    · intro hon
      rw [Moment.chain_cons, List.nodup_append_comm, List.singleton_append, List.nodup_cons]
      have hbelow := hnodup hon
      have hfree := hcycle hon
      rw [Moment.chain_cons] at hbelow
      simp only [List.map_cons, List.reverse_cons]
      exact ⟨hfree, hbelow⟩
  | @left a below memory chunks error hend =>
    rw [Moment.chain_cons] at hbounded hnodup
    rw [List.length_append, List.length_singleton] at hbounded
    refine ⟨hcounted.2, ?_, fun hon => ?_⟩
    · rw [Moment.chain]
      exact Nat.le_of_succ_le hbounded
    · exact (List.nodup_append.mp (hnodup hon)).1

theorem fetch_bounds (h : Turns provider options m events m') (hm : m.Kept options)
    {event : Event Context} (hevent : event ∈ events) {path : String} {context : Context}
    (hact : event.act = .call (.fetch path context)) :
    event.chain = m.chain ∧ 1 ≤ event.chain.length ∧ (event.chain.length : Int) ≤ options.maxDepth := by
  -- Only a line for which there is room left asks for a source.
  have here {a : Activation Context} {below : List (Activation Context)} {memory : Memory Context}
      {chunks : List (Chunk Context)} {error : Option (IncludeError Fault)}
      (hcounted : Counted (a :: below)) (hroom : 0 < a.room options)
      (hchain : event.chain = (a.site below).chain) :
      event.chain = (Moment.mk (a :: below) memory chunks error).chain ∧ 1 ≤ event.chain.length ∧
        (event.chain.length : Int) ≤ options.maxDepth := by
    have hdepth : a.depth = below.length := hcounted.1
    have hlength : event.chain.length = below.length + 1 := by
      rw [hchain, Activation.chain_site, List.length_append, List.length_reverse, List.length_map]
      rfl
    rw [Activation.room] at hroom
    refine ⟨?_, by omega, by omega⟩
    rw [hchain, Moment.chain_cons, Activation.chain_site]
  cases h with
  | verbatim hrest => cases hevent
  | malformed hrest => cases hevent
  | refused hrest h =>
    obtain ⟨hroom, hchain⟩ := h.room_of_fetch hevent hact
    exact here hm.counted hroom hchain
  | skipped hrest hname hmet =>
    simp only [List.mem_cons, List.not_mem_nil, or_false] at hevent
    rcases hevent with rfl | rfl
    · cases hact
    · cases hact
  | entered hrest hname hnew hcycle hroom hfetch =>
    simp only [List.mem_cons, List.not_mem_nil, or_false] at hevent
    rcases hevent with rfl | rfl | rfl
    · cases hact
    · exact here hm.counted hroom rfl
    · cases hact
  | left hend => cases hevent

theorem once_suffix (h : Turns provider options m events m') : m.memory.once <:+ m'.memory.once := by
  cases h with
  | verbatim hrest => exact List.suffix_rfl
  | malformed hrest => exact List.suffix_rfl
  | refused hrest h => exact List.suffix_rfl
  | skipped hrest hname hmet => exact List.suffix_rfl
  | entered hrest hname hnew hcycle hroom hfetch =>
    unfold remember
    split
    · exact List.suffix_cons _ _
    · exact List.suffix_rfl
  | left hend => exact List.suffix_rfl

theorem take_chain {n : Nat} (h : Turns provider options m events m') (hn : n ≤ m.stack.length)
    (hn' : n ≤ m'.stack.length) : m'.chain.take n = m.chain.take n := by
  rw [← Moment.length_chain] at hn hn'
  cases h with
  | verbatim hrest => rfl
  | malformed hrest => rfl
  | refused hrest h => rfl
  | skipped hrest hname hmet => rfl
  | entered hrest hname hnew hcycle hroom hfetch =>
    rw [Moment.chain_cons]
    exact List.take_append_of_le_length hn
  | left hend =>
    rw [Moment.chain_cons]
    exact (List.take_append_of_le_length hn').symm

end Turns

namespace Runs

variable {floor : Nat} {m m' : Moment Context Fault} {events : List (Event Context)}

theorem kept (h : Runs provider options floor m events m') (hm : m.Kept options) :
    m'.Kept options := by
  induction h with
  | refl hfloor => exact hm
  | next hfloor hturn h ih => exact ih (hturn.kept hm)

theorem fetch_bounds (h : Runs provider options floor m events m') (hm : m.Kept options)
    {event : Event Context} (hevent : event ∈ events) {path : String} {context : Context}
    (hact : event.act = .call (.fetch path context)) :
    1 ≤ event.chain.length ∧ (event.chain.length : Int) ≤ options.maxDepth := by
  induction h with
  | refl hfloor => cases hevent
  | next hfloor hturn h ih =>
    rcases List.mem_append.mp hevent with hevent | hevent
    · exact (hturn.fetch_bounds hm hevent hact).2
    · exact ih (hturn.kept hm) hevent

theorem once_suffix (h : Runs provider options floor m events m') : m.memory.once <:+ m'.memory.once := by
  induction h with
  | refl hfloor => exact List.suffix_rfl
  | next hfloor hturn h ih => exact hturn.once_suffix.trans ih

theorem le_length (h : Runs provider options floor m events m') : floor ≤ m.stack.length := by
  cases h with
  | refl hfloor => exact hfloor
  | next hfloor hturn h => exact hfloor

theorem take_chain (h : Runs provider options floor m events m') :
    m'.chain.take floor = m.chain.take floor := by
  induction h with
  | refl hfloor => rfl
  | next hfloor hturn h ih => rw [ih, hturn.take_chain hfloor h.le_length]

-- As many sources as before, and never fewer in between: they are the same ones.
theorem chain_eq (h : Runs provider options m.stack.length m events m')
    (hlength : m'.stack.length = m.stack.length) : m'.chain = m.chain := by
  have hbefore := m.length_chain
  have hafter := m'.length_chain
  have htake := h.take_chain
  rwa [List.take_of_length_le (by omega), List.take_of_length_le (by omega)] at htake

end Runs

/-- What holds of the chain, and of the names to be expanded only once, at every moment of a crawl. -/
structure KeepsChain (provider : Provider Context Fault) (options : Options) (name : String)
    (source : Text) (context : Context) (opening : List (Event Context))
    (walk : Walk Context Fault (Root Context)) : Prop where
  run : ∃ events last, Runs provider options 0 (.opened options opening name source context) events last ∧
    walk.events = opening ++ events ∧ last.stack = [] ∧ last.error = walk.error? ∧
    ∀ root, walk.result = .ok root → last.chunks = root.chunks
  kept : ∀ events m, Runs provider options 0 (.opened options opening name source context) events m →
    m.Kept options
  fetches : ∀ events m, Runs provider options 0 (.opened options opening name source context) events m →
    ∀ event ∈ events, ∀ path asked, event.act = .call (.fetch path asked) →
      1 ≤ event.chain.length ∧ (event.chain.length : Int) ≤ options.maxDepth
  restored : ∀ events m, Runs provider options 0 (.opened options opening name source context) events m →
    m.error = none → ∀ a below d ps, m.stack = a :: below → a.rest = .directive d :: ps →
      ∃ m', Runs provider options m.stack.length m
          (follow provider options (a.room options) (a.site below) d m.memory).events m' ∧
        m'.chain = m.chain ∧ m'.stack = a.before ps :: below ∧
        m'.error = (follow provider options (a.room options) (a.site below) d m.memory).error?
  same : ∀ (m m' : Moment Context Fault) events, Runs provider options m.stack.length m events m' →
    m'.stack.length = m.stack.length → m'.chain = m.chain
  grows : ∀ (m m' : Moment Context Fault) events, Runs provider options 0 m events m' →
    m.memory.once <:+ m'.memory.once

theorem Moment.kept_start (options : Options) (asked : List (Call Context)) (name : String)
    (source : Text) (context : Context) :
    (Moment.start options asked name source context : Moment Context Fault).Kept options := by
  constructor
  · exact ⟨rfl, trivial⟩
  · exact Nat.le_add_left 1 options.maxDepth.toNat
  · exact fun _ => List.nodup_singleton name

theorem exists_restored {m : Moment Context Fault} {a : Activation Context}
    {below : List (Activation Context)} {d : Directive} {ps : List Passage} (herror : m.error = none)
    (hstack : m.stack = a :: below) (hrest : a.rest = .directive d :: ps) :
    ∃ m', Runs provider options m.stack.length m
        (follow provider options (a.room options) (a.site below) d m.memory).events m' ∧
      m'.chain = m.chain ∧ m'.stack = a.before ps :: below ∧
      m'.error = (follow provider options (a.room options) (a.site below) d m.memory).error? := by
  obtain ⟨stack, memory, chunks, error⟩ := m
  obtain rfl : stack = a :: below := hstack
  obtain rfl : error = none := herror
  obtain ⟨after, more, hrun, -⟩ :=
    (outcome_follow provider options (a.room options) (a.site below) d memory).accounts
      (fun t _ => t.simulated) rfl rfl hrest chunks
  exact ⟨_, hrun, hrun.chain_eq rfl, rfl, rfl⟩

theorem Opens.keepsChain {walk : Walk Context Fault (Root Context)} {opening : List (Event Context)}
    {name : String} {source : Text} {context : Context}
    (h : Opens provider options walk opening name source context) :
    KeepsChain provider options name source context opening walk := by
  have hstart :=
    @Moment.kept_start _ Fault options (opening.filterMap Event.call?) name source context
  constructor
  case run =>
    let a : Activation Context := ⟨name, context, 0, passages source⟩
    have hsimulated : Stage.Simulated provider options (.opened options opening name source context) :=
      Stage.simulated _
    obtain ⟨rest, hend, after, more, hrun, hok⟩ := hsimulated a [] [] rfl rfl rfl
    have hleft : Turns provider options
        ⟨[a.before rest], after, more,
          ((Stage.opened options opening name source context).walk provider options).error?⟩ []
        ⟨[], after, more,
          ((Stage.opened options opening name source context).walk provider options).error?⟩ :=
      .left hend
    have hwhole := (hrun.mono (Nat.zero_le 1)).trans (.single (Nat.zero_le _) (Nat.zero_le _) hleft)
    rw [List.append_nil] at hwhole
    have hwalk := h.walk_eq
    refine ⟨_, _, hwhole, congrArg Walk.events hwalk, rfl, ?_, ?_⟩
    · rw [hwalk]
      exact (Walk.error?_map _ _).symm
    · intro root hroot
      rw [hwalk] at hroot
      obtain ⟨⟨tree, last⟩, htree, rfl⟩ := Walk.eq_of_map_eq_ok hroot
      exact (hok tree last (congrArg Walk.result htree)).2
  case kept => exact fun events m hrun => hrun.kept hstart
  case fetches =>
    intro events m hrun event hevent path asked hact
    exact hrun.fetch_bounds hstart hevent hact
  case restored =>
    intro events m hrun herror a below d ps hstack hrest
    exact exists_restored herror hstack hrest
  case same => exact fun m m' events hrun hlength => hrun.chain_eq hlength
  case grows => exact fun m m' events hrun => hrun.once_suffix

theorem keepsChain_of_crawl (provider : Provider Context Fault) (options : Options) :
    (∀ name source context, KeepsChain provider options name source context []
      (expandSource provider options name source context)) ∧
    ∀ path context,
      (∃ fault, (expandFile provider options path context).result =
          .error (.provider path none none [path] (some fault)) ∧
        ∀ event ∈ (expandFile provider options path context).events,
          event.chain = [] ∧ event.once = []) ∨
      ∃ name source child, provider.resolve [] path context = .ok name ∧
        provider.fetch [.resolve path context] path context = .ok (source, child) ∧
        KeepsChain provider options name source child
          [⟨[], [], .call (.resolve path context)⟩, ⟨[], [], .call (.fetch path context)⟩]
          (expandFile provider options path context) := by
  constructor
  · exact fun name source context => Opens.source.keepsChain
  · intro path context
    cases hname : provider.resolve [] path context with
    | error fault =>
      rw [expandFile, hname]
      exact .inl ⟨fault, rfl, by simp [ask, Except.mapError, Bind.bind, Walk.bind]⟩
    | ok name =>
      cases hfetch : provider.fetch [.resolve path context] path context with
      | error fault =>
        rw [expandFile, hname, hfetch]
        exact .inl ⟨fault, rfl, by simp [ask, Except.mapError, Bind.bind, Walk.bind]⟩
      | ok parts =>
        obtain ⟨source, child⟩ := parts
        exact .inr ⟨name, source, child, rfl, rfl, (Opens.file hname hfetch).keepsChain⟩

-- The limit is exceeded inside the header; its source and the root are both left.
theorem keepsChain_of_crawl_headers :
    (expandFile headers ⟨1, true, true⟩ "twice" ()).error? = none ∧
      (expandSource headers ⟨1, true, true⟩ "root" "#include <twice>\n".toList ()).error? =
        some (.depth "once" 1 ["root", "twice", "once"]) ∧
      ∃ events last, Runs headers ⟨1, true, true⟩ 0
          (.start ⟨1, true, true⟩ [] "root" "#include <twice>\n".toList ()) events last ∧
        last.stack = [] ∧ last.error = some (.depth "once" 1 ["root", "twice", "once"]) ∧
        ∀ event ∈ events, ∀ path asked, event.act = .call (.fetch path asked) →
          event.chain.length = 1 := by
  have hfile : (expandFile headers ⟨1, true, true⟩ "twice" ()).error? = none := by decide +kernel
  have hdeep : (expandSource headers ⟨1, true, true⟩ "root" "#include <twice>\n".toList ()).error? =
      some (.depth "once" 1 ["root", "twice", "once"]) := by decide +kernel
  have hkeeps := (keepsChain_of_crawl headers ⟨1, true, true⟩).1 "root" "#include <twice>\n".toList ()
  obtain ⟨events, last, hrun, -, hstack, herror, -⟩ := hkeeps.run
  refine ⟨hfile, hdeep, events, last, hrun, hstack, herror.trans hdeep, ?_⟩
  intro event hevent path asked hact
  obtain ⟨hleast, hmost⟩ := hkeeps.fetches events last hrun event hevent path asked hact
  change (event.chain.length : Int) ≤ 1 at hmost
  omega

end ShaderSources
