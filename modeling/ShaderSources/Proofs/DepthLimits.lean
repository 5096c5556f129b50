import ShaderSources.Proofs.Cycles

namespace ShaderSources

open Source

variable {Context Fault : Type}

namespace Walk

variable {α β : Type}

theorem events_prefix_bind (walk : Walk Context Fault α) (next : α → Walk Context Fault β) :
    walk.events <+: (walk >>= next).events := by
  rcases walk with ⟨events, error | a⟩
  · exact List.prefix_rfl
  · exact List.prefix_append events (next a).events

/-- The second walk is the first one, or it begins with all that happens until the first one exceeds
the depth. -/
def Extends (walk more : Walk Context Fault α) : Prop :=
  more = walk ∨ (Raises walk.result .depth ∧ walk.events <+: more.events)

theorem Extends.refl (walk : Walk Context Fault α) : Extends walk walk := .inl rfl

theorem Extends.bind {walk more : Walk Context Fault α} {next next' : α → Walk Context Fault β}
    (h : Extends walk more) (hnext : ∀ a, Extends (next a) (next' a)) :
    Extends (walk >>= next) (more >>= next') := by
  rcases h with rfl | ⟨hdeep, hbegun⟩
  · rcases more with ⟨events, error | a⟩
    · exact .refl _
    · rw [ok_bind, ok_bind]
      rcases hnext a with hsame | ⟨hdeep, hbegun⟩
      · rw [hsame]
        exact .refl _
      · exact .inr ⟨hdeep, (List.prefix_append_right_inj events).mpr hbegun⟩
  · obtain ⟨error, herror, hkind⟩ := hdeep
    have hwalk : walk = ⟨walk.events, .error error⟩ := congrArg (Walk.mk _) herror
    rw [hwalk, error_bind]
    exact .inr ⟨⟨error, rfl, hkind⟩, hbegun.trans (events_prefix_bind more next')⟩

theorem Extends.map {walk more : Walk Context Fault α} (h : Extends walk more) (f : α → β) :
    Extends (walk.map f) (more.map f) := by
  rw [map_eq_bind, map_eq_bind]
  exact h.bind fun a => .refl _

end Walk

open Walk (Extends)

variable {provider : Provider Context Fault} {detectCycles pragmaOnce : Bool} {low high : Int}

theorem extends_expandPassages
    {into into' : Directive → Memory Context → Walk Context Fault (Followed Context × Memory Context)}
    (h : ∀ d memory, Extends (into d memory) (into' d memory)) (file : String) (ps : List Passage)
    (memory : Memory Context) :
    Extends (expandPassages into file ps memory) (expandPassages into' file ps memory) := by
  induction ps generalizing memory with
  | nil => exact .refl _
  | cons p ps ih =>
    cases p with
    | verbatim start text => exact (ih memory).map _
    | malformed line m => exact .refl _
    | directive d =>
      apply (h d memory).bind
      rintro ⟨followed, after⟩
      exact (ih after).map _

theorem extends_follow {room room' : Nat} (h : room ≤ room') (site : Site Context) (d : Directive)
    (memory : Memory Context) :
    Extends (follow provider ⟨low, detectCycles, pragmaOnce⟩ room site d memory)
      (follow provider ⟨high, detectCycles, pragmaOnce⟩ room' site d memory) := by
  induction room using Nat.strongRecOn generalizing room' site d memory with
  | ind room ih =>
    rw [follow.eq_def, follow.eq_def]
    apply (Extends.refl _).bind
    intro name
    by_cases hmet : name ∈ memory.once
    · rw [if_pos hmet, if_pos hmet]
      exact .refl _
    rw [if_neg hmet, if_neg hmet]
    by_cases hcycle : (detectCycles && site.chain.contains name) = true
    · rw [if_pos hcycle, if_pos hcycle]
      exact .refl _
    rw [if_neg hcycle, if_neg hcycle]
    cases room with
    | zero =>
      -- The lower limit is exceeded here; what the higher one lets happen comes after.
      exact .inr ⟨⟨_, rfl, rfl⟩, List.nil_prefix⟩
    | succ less =>
      obtain ⟨less', rfl⟩ : ∃ n, room' = n + 1 := ⟨room' - 1, by omega⟩
      apply (Extends.refl _).bind
      rintro ⟨source, child⟩
      apply (Extends.refl _).bind
      intro _
      have hinside := ih less (Nat.lt_succ_self less) (Nat.le_of_succ_le_succ h)
        (site.inside name child)
      apply (extends_expandPassages hinside name _ _).bind
      rintro ⟨inner, after⟩
      exact .refl _

theorem extends_expandBehind (h : low ≤ high) (asked : List (Call Context)) (name : String)
    (source : Text) (context : Context) :
    Extends (expandBehind provider ⟨low, detectCycles, pragmaOnce⟩ asked name source context)
      (expandBehind provider ⟨high, detectCycles, pragmaOnce⟩ asked name source context) := by
  have hroom : low.toNat ≤ high.toNat := Int.toNat_le_toNat h
  apply (extends_expandPassages (extends_follow hroom ⟨[], name, context⟩) name _ _).bind
  rintro ⟨tree, after⟩
  exact .refl _

theorem extends_expandFile (h : low ≤ high) (path : String) (context : Context) :
    Extends (expandFile provider ⟨low, detectCycles, pragmaOnce⟩ path context)
      (expandFile provider ⟨high, detectCycles, pragmaOnce⟩ path context) := by
  apply (Extends.refl _).bind
  intro name
  apply (Extends.refl _).bind
  rintro ⟨source, child⟩
  exact extends_expandBehind h _ name source child

structure Deepened {α : Type} (walk more : Walk Context Fault α) : Prop where
  same : ¬ Raises walk.result .depth → more.result = walk.result ∧ more.calls = walk.calls
  begun : Raises walk.result .depth → walk.calls <+: more.calls

theorem Walk.Extends.deepened {α : Type} {walk more : Walk Context Fault α} (h : Extends walk more) :
    Deepened walk more := by
  rcases h with rfl | ⟨hdeep, hbegun⟩
  · exact ⟨fun _ => ⟨rfl, rfl⟩, fun _ => List.prefix_rfl⟩
  · exact ⟨fun hfree => absurd hdeep hfree, fun _ => hbegun.filterMap Event.call?⟩

theorem deepened_of_le (provider : Provider Context Fault) (detectCycles pragmaOnce : Bool)
    {low high : Int} (h : low ≤ high) :
    (∀ name source context,
      Deepened (expandSource provider ⟨low, detectCycles, pragmaOnce⟩ name source context)
        (expandSource provider ⟨high, detectCycles, pragmaOnce⟩ name source context)) ∧
    ∀ path context,
      Deepened (expandFile provider ⟨low, detectCycles, pragmaOnce⟩ path context)
        (expandFile provider ⟨high, detectCycles, pragmaOnce⟩ path context) := by
  constructor
  · intro name source context
    exact (extends_expandBehind h [] name source context).deepened
  · intro path context
    exact (extends_expandFile h path context).deepened

theorem deepened_of_le_headers :
    (1 : Int) ≤ 2 ∧ (2 : Int) ≤ 9 ∧
      Raises (expandFile headers ⟨1, true, false⟩ "main" ()).result .depth ∧
      (expandFile headers ⟨1, true, false⟩ "main" ()).calls <+:
        (expandFile headers ⟨2, true, false⟩ "main" ()).calls ∧
      ¬ Raises (expandFile headers ⟨2, true, false⟩ "main" ()).result .depth ∧
      (expandFile headers ⟨9, true, false⟩ "main" ()).result =
        (expandFile headers ⟨2, true, false⟩ "main" ()).result ∧
      (expandFile headers ⟨9, true, false⟩ "main" ()).calls =
        (expandFile headers ⟨2, true, false⟩ "main" ()).calls := by
  have hlow : (1 : Int) ≤ 2 := by decide
  have hhigh : (2 : Int) ≤ 9 := by decide
  have hdeep : Raises (expandFile headers ⟨1, true, false⟩ "main" ()).result .depth := by
    decide +kernel
  have hfree : ¬ Raises (expandFile headers ⟨2, true, false⟩ "main" ()).result .depth := by
    decide +kernel
  have hbegun := ((deepened_of_le headers true false hlow).2 "main" ()).begun hdeep
  have hsame := ((deepened_of_le headers true false hhigh).2 "main" ()).same hfree
  exact ⟨hlow, hhigh, hdeep, hbegun, hfree, hsame⟩

end ShaderSources
