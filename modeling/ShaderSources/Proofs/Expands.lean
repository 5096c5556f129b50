import ShaderSources.Expansion.Expand

namespace ShaderSources

open Source

variable {Context Fault : Type}

namespace Walk

variable {α β : Type}

theorem bind_result_eq_ok {walk : Walk Context Fault α} {next : α → Walk Context Fault β} {b : β} :
    (walk >>= next).result = .ok b ↔ ∃ a, walk.result = .ok a ∧ (next a).result = .ok b := by
  rcases walk with ⟨events, error | a⟩
  · simp [Bind.bind, Walk.bind]
  · simp [Bind.bind, Walk.bind]

theorem pure_result_eq_ok {a b : α} :
    (Pure.pure a : Walk Context Fault α).result = .ok b ↔ a = b := by
  simp [Pure.pure, Walk.pure]

theorem map_result_eq_ok {f : α → β} {walk : Walk Context Fault α} {b : β} :
    (walk.map f).result = .ok b ↔ ∃ a, walk.result = .ok a ∧ f a = b := by
  rcases walk with ⟨events, error | a⟩
  · simp [Walk.map, Except.map]
  · simp [Walk.map, Except.map]

theorem fail_result_ne_ok (error : IncludeError Fault) (a : α) :
    (fail error : Walk Context Fault α).result ≠ .ok a := by
  simp [fail]

theorem ask_result_eq_ok {chain once : List String} {line : Option Int} {path : String}
    {call : Call Context} {answer : Except Fault α} {a : α} :
    (ask chain once line path call answer).result = .ok a ↔ answer = .ok a := by
  constructor
  · intro h
    cases answer with
    | error fault => cases h
    | ok b =>
      cases h
      rfl
  · rintro rfl
    rfl

theorem exists_result_eq_ok {walk : Walk Context Fault α} {f : α → β} {b : β}
    (h : walk.result.toOption.map f = some b) : ∃ a, walk.result = .ok a ∧ f a = b := by
  obtain ⟨a, ha, rfl⟩ := Option.map_eq_some_iff.mp h
  cases hwalk : walk.result with
  | error error => simp [hwalk, Except.toOption] at ha
  | ok a' =>
    have he : a' = a := by simpa [hwalk, Except.toOption] using ha
    exact ⟨a, congrArg _ he, rfl⟩

end Walk

variable (provider : Provider Context Fault) (options : Options)

/-- `Expands provider options room site memory passages tree after`: with `room` levels left, what
follows at `site` from the passages, and the memory before and after. -/
inductive Expands : Nat → Site Context → Memory Context → List Passage → Expansion Context →
    Memory Context → Prop
  | done {room : Nat} {site : Site Context} {memory : Memory Context} :
      Expands room site memory [] .done memory
  | verbatim {room : Nat} {site : Site Context} {memory after : Memory Context} {start : Nat} {text : Text}
      {ps : List Passage} {rest : Expansion Context} (hrest : Expands room site memory ps rest after) :
      Expands room site memory (.verbatim start text :: ps) (.verbatim start text rest) after
  | skipped {room : Nat} {site : Site Context} {memory after : Memory Context} {d : Directive}
      {name : String} {ps : List Passage} {rest : Expansion Context}
      (hname : provider.resolve memory.asked d.path site.context = .ok name)
      (hmet : name ∈ memory.once)
      (hrest : Expands room site (memory.resolved d site.context) ps rest after) :
      Expands room site memory (.directive d :: ps) (.skipped d name rest) after
  | nested {room : Nat} {site : Site Context} {memory middle after : Memory Context} {d : Directive}
      {name : String} {source : Text} {context : Context} {ps : List Passage}
      {inner rest : Expansion Context}
      (hname : provider.resolve memory.asked d.path site.context = .ok name)
      (hnew : name ∉ memory.once)
      (hcycle : options.detectCycles = true → name ∉ site.chain)
      (hfetch : provider.fetch (memory.resolved d site.context).asked d.path site.context =
        .ok (source, context))
      (hinner : Expands room (site.inside name context)
        (remember options name source (memory.fetched d site.context)) (passages source) inner middle)
      (hrest : Expands (room + 1) site middle ps rest after) :
      Expands (room + 1) site memory (.directive d :: ps) (.nested d name source context inner rest)
        after

variable {provider options}

theorem follow_result_eq_ok {room : Nat} {site : Site Context} {d : Directive}
    {memory after : Memory Context} {followed : Followed Context} :
    (follow provider options room site d memory).result = .ok (followed, after) ↔
      ∃ name, provider.resolve memory.asked d.path site.context = .ok name ∧
        ((name ∈ memory.once ∧ followed = .skipped name ∧
            after = memory.resolved d site.context) ∨
          (name ∉ memory.once ∧ (options.detectCycles = true → name ∉ site.chain) ∧
            ∃ less source context inner, room = less + 1 ∧
              provider.fetch (memory.resolved d site.context).asked d.path site.context =
                .ok (source, context) ∧
              followed = .nested name source context inner ∧
              (expandPassages (follow provider options less (site.inside name context)) name
                (passages source) (remember options name source (memory.fetched d site.context))).result =
                  .ok (inner, after))) := by
  unfold follow
  simp only [Walk.bind_result_eq_ok, Walk.ask_result_eq_ok]
  refine exists_congr fun name => and_congr_right fun _ => ?_
  by_cases hmet : name ∈ memory.once
  · simp only [hmet, if_true, Walk.bind_result_eq_ok, Walk.pure_result_eq_ok, true_and,
      not_true_eq_false, false_and, or_false, Prod.mk.injEq]
    constructor
    · rintro ⟨_, _, rfl, rfl⟩
      exact ⟨rfl, rfl⟩
    · rintro ⟨rfl, rfl⟩
      exact ⟨(), rfl, rfl, rfl⟩
  · by_cases hcycle : (options.detectCycles && site.chain.contains name) = true
    · have hchain : options.detectCycles = true ∧ name ∈ site.chain := by simpa using hcycle
      simp only [hmet, if_false, hcycle, if_true, Walk.fail_result_ne_ok, false_and, false_or,
        not_false_eq_true, true_and, false_iff, not_and]
      intro hfree
      exact absurd hchain.2 (hfree hchain.1)
    · have hfree : options.detectCycles = true → name ∉ site.chain := by simpa using hcycle
      simp only [hmet, if_false, hcycle, Bool.false_eq_true, false_and, false_or, not_false_eq_true,
        true_and]
      cases room with
      | zero => simp [Walk.fail_result_ne_ok]
      | succ less =>
        simp only [Walk.bind_result_eq_ok, Walk.ask_result_eq_ok, Walk.pure_result_eq_ok]
        constructor
        · rintro ⟨⟨source, context⟩, hfetch, _, _, ⟨inner, middle⟩, hinner, he⟩
          cases he
          exact ⟨hfree, less, source, context, inner, rfl, hfetch, rfl, hinner⟩
        · rintro ⟨-, _, source, context, inner, hroom, hfetch, rfl, hinner⟩
          cases hroom
          exact ⟨(source, context), hfetch, (), rfl, (inner, after), hinner, rfl⟩

theorem expands_iff {room : Nat} {site : Site Context} {memory after : Memory Context}
    {ps : List Passage} {tree : Expansion Context} :
    (expandPassages (follow provider options room site) site.file ps memory).result =
        .ok (tree, after) ↔
      Expands provider options room site memory ps tree after := by
  constructor
  · intro h
    -- Only an include line takes from the room, so the passages of one source are a second induction.
    induction room using Nat.strongRecOn generalizing site memory after ps tree with
    | ind room ihroom =>
      induction ps generalizing memory tree with
      | nil =>
        simp only [expandPassages, Walk.pure_result_eq_ok] at h
        cases h
        exact .done
      | cons p ps ih =>
        cases p with
        | verbatim start text =>
          simp only [expandPassages, Walk.map_result_eq_ok] at h
          obtain ⟨⟨rest, middle⟩, hrest, he⟩ := h
          cases he
          exact .verbatim (ih hrest)
        | malformed line m => exact absurd h (Walk.fail_result_ne_ok _ _)
        | directive d =>
          simp only [expandPassages, Walk.bind_result_eq_ok, Walk.map_result_eq_ok] at h
          obtain ⟨⟨followed, middle⟩, hfollow, ⟨rest, last⟩, hrest, he⟩ := h
          cases he
          obtain ⟨name, hname, hskip | hnest⟩ := follow_result_eq_ok.mp hfollow
          · obtain ⟨hmet, rfl, rfl⟩ := hskip
            exact .skipped hname hmet (ih hrest)
          · obtain ⟨hnew, hcycle, less, source, context, inner, rfl, hfetch, rfl, hinner⟩ := hnest
            exact .nested hname hnew hcycle hfetch (ihroom less (by omega) hinner) (ih hrest)
  · intro h
    induction h with
    | done => rfl
    | verbatim hrest ih =>
      simp only [expandPassages, Walk.map_result_eq_ok]
      exact ⟨_, ih, rfl⟩
    | skipped hname hmet hrest ih =>
      simp only [expandPassages, Walk.bind_result_eq_ok, Walk.map_result_eq_ok]
      exact ⟨_, follow_result_eq_ok.mpr ⟨_, hname, .inl ⟨hmet, rfl, rfl⟩⟩, _, ih, rfl⟩
    | nested hname hnew hcycle hfetch hinner hrest ihinner ihrest =>
      simp only [expandPassages, Walk.bind_result_eq_ok, Walk.map_result_eq_ok]
      exact ⟨_, follow_result_eq_ok.mpr ⟨_, hname, .inr ⟨hnew, hcycle, _, _, _, _, rfl, hfetch, rfl,
        ihinner⟩⟩, _, ihrest, rfl⟩

@[simp] theorem Memory.once_resolved (memory : Memory Context) (d : Directive) (context : Context) :
    (memory.resolved d context).once = memory.once := rfl

@[simp] theorem Memory.once_fetched (memory : Memory Context) (d : Directive) (context : Context) :
    (memory.fetched d context).once = memory.once := rfl

@[simp] theorem asked_remember (name : String) (source : Text) (memory : Memory Context) :
    (remember options name source memory).asked = memory.asked := by
  unfold remember
  split <;> rfl

theorem remember_of_off (hoff : options.pragmaOnce = false) (name : String) (source : Text)
    (memory : Memory Context) : remember options name source memory = memory := by
  rw [remember, hoff]
  rfl

theorem mem_remember_of_mem {memory : Memory Context} {name other : String} (source : Text)
    (h : other ∈ memory.once) : other ∈ (remember options name source memory).once := by
  unfold remember
  split
  · exact List.mem_cons_of_mem _ h
  · exact h

theorem mem_remember_self {memory : Memory Context} {name : String} {source : Text}
    (hon : options.pragmaOnce = true) (honce : hasPragmaOnce source = true) :
    name ∈ (remember options name source memory).once := by
  rw [remember, hon, honce]
  exact List.mem_cons_self

theorem Expands.once_eq (hoff : options.pragmaOnce = false) {room : Nat} {site : Site Context}
    {memory after : Memory Context} {ps : List Passage} {tree : Expansion Context}
    (h : Expands provider options room site memory ps tree after) : after.once = memory.once := by
  induction h with
  | done => rfl
  | verbatim hrest ih => exact ih
  | skipped hname hmet hrest ih => exact ih
  | nested hname hnew hcycle hfetch hinner hrest ihinner ihrest =>
    rw [ihrest, ihinner, remember_of_off hoff, Memory.once_fetched]

theorem Expands.mem_after {room : Nat} {site : Site Context} {memory after : Memory Context}
    {ps : List Passage} {tree : Expansion Context}
    (h : Expands provider options room site memory ps tree after) {name : String}
    (hname : name ∈ memory.once) : name ∈ after.once := by
  induction h with
  | done => exact hname
  | verbatim hrest ih => exact ih hname
  | skipped _ hmet hrest ih => exact ih hname
  | @nested _ _ _ _ _ _ _ source _ _ _ _ _ hnew hcycle hfetch hinner hrest ihinner ihrest =>
    exact ihrest (ihinner (mem_remember_of_mem source hname))

theorem expandBehind_result_eq_ok {asked : List (Call Context)} {name : String} {source : Text}
    {context : Context} {root : Root Context} :
    (expandBehind provider options asked name source context).result = .ok root ↔
      ∃ tree after, root = ⟨name, source, context, tree⟩ ∧
        Expands provider options options.maxDepth.toNat ⟨[], name, context⟩
          (remember options name source ⟨[], asked⟩) (passages source) tree after := by
  simp only [expandBehind, Walk.bind_result_eq_ok, Walk.pure_result_eq_ok]
  constructor
  · rintro ⟨⟨tree, after⟩, htree, rfl⟩
    exact ⟨tree, after, rfl, expands_iff.mp htree⟩
  · rintro ⟨tree, after, rfl, htree⟩
    exact ⟨(tree, after), expands_iff.mpr htree, rfl⟩

theorem expandFile_result_eq_ok {path : String} {context : Context} {root : Root Context} :
    (expandFile provider options path context).result = .ok root ↔
      ∃ name source child, provider.resolve [] path context = .ok name ∧
        provider.fetch [.resolve path context] path context = .ok (source, child) ∧
        (expandBehind provider options [.resolve path context, .fetch path context] name source
          child).result = .ok root := by
  simp only [expandFile, Walk.bind_result_eq_ok, Walk.ask_result_eq_ok]
  constructor
  · rintro ⟨name, hname, ⟨source, child⟩, hfetch, hroot⟩
    exact ⟨name, source, child, hname, hfetch, hroot⟩
  · rintro ⟨name, source, child, hname, hfetch, hroot⟩
    exact ⟨name, hname, (source, child), hfetch, hroot⟩

def headers : Provider Unit String where
  resolve _ path _ := .ok path
  fetch _ path _ :=
    match path with
    | "main" => .ok ("A\n#include \"once\"\n#include <twice>\nZ".toList, ())
    | "once" => .ok ("#pragma once\nB\n".toList, ())
    | "twice" => .ok ("x\n#include \"once\"\ny".toList, ())
    | _ => .error "no such header"

end ShaderSources
