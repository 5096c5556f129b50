import Mathlib.Data.List.Forall2
import ShaderSources.Proofs.Expands

namespace ShaderSources

open Source

/-- Which contexts and which texts of one crawl are like those of another. -/
structure Likeness (Context Other : Type) where
  contexts : Context → Other → Prop
  texts : Text → Text → Prop

inductive Alike {Fault α β : Type} (rel : α → β → Prop) : Except Fault α → Except Fault β → Prop
  | error (fault : Fault) : Alike rel (.error fault) (.error fault)
  | ok {a : α} {b : β} (h : rel a b) : Alike rel (.ok a) (.ok b)

variable {Context Other Fault : Type}

inductive Call.Like (rel : Context → Other → Prop) : Call Context → Call Other → Prop
  | resolve {path : String} {c : Context} {d : Other} (h : rel c d) :
      Like rel (.resolve path c) (.resolve path d)
  | fetch {path : String} {c : Context} {d : Other} (h : rel c d) :
      Like rel (.fetch path c) (.fetch path d)

structure Memory.Like (rel : Context → Other → Prop) (memory : Memory Context)
    (other : Memory Other) : Prop where
  once : memory.once = other.once
  asked : List.Forall₂ (Call.Like rel) memory.asked other.asked

structure Chunk.Like (like : Likeness Context Other) (a : Chunk Context) (b : Chunk Other) :
    Prop where
  source : like.texts a.source b.source
  file : a.file = b.file
  line : a.line = b.line
  context : like.contexts a.context b.context

inductive PassageLike (rel : Text → Text → Prop) : Passage → Passage → Prop
  | verbatim {start : Nat} {s t : Text} (h : rel s t) :
      PassageLike rel (.verbatim start s) (.verbatim start t)
  | directive {d : Directive} : PassageLike rel (.directive d) (.directive d)
  | malformed {line : Nat} {m : Malformed} : PassageLike rel (.malformed line m) (.malformed line m)

/-- Sources that are related are cut into the same passages, and ask alike to be expanded only
once. -/
structure ReadAlike (rel : Text → Text → Prop) : Prop where
  passages : ∀ s t, rel s t → List.Forall₂ (PassageLike rel) (passages s) (passages t)
  once : ∀ s t, rel s t → hasPragmaOnce s = hasPragmaOnce t

structure Provider.Like (like : Likeness Context Other) (provider : Provider Context Fault)
    (other : Provider Other Fault) : Prop where
  resolve : ∀ asked asked' path c d, List.Forall₂ (Call.Like like.contexts) asked asked' →
    like.contexts c d → provider.resolve asked path c = other.resolve asked' path d
  fetch : ∀ asked asked' path c d, List.Forall₂ (Call.Like like.contexts) asked asked' →
    like.contexts c d →
      Alike (fun a b => like.texts a.1 b.1 ∧ like.contexts a.2 b.2) (provider.fetch asked path c)
        (other.fetch asked' path d)

namespace Walk

variable {α β γ δ : Type}

structure Like (like : Likeness Context Other) (rel : α → β → Prop) (walk : Walk Context Fault α)
    (other : Walk Other Fault β) : Prop where
  calls : List.Forall₂ (Call.Like like.contexts) walk.calls other.calls
  result : Alike rel walk.result other.result

variable {like : Likeness Context Other} {rel : α → β → Prop} {rel' : γ → δ → Prop}

theorem Like.exists_ok {walk : Walk Context Fault α} {other : Walk Other Fault β}
    (h : Like like rel walk other) {a : α} (ha : walk.result = .ok a) :
    ∃ b, other.result = .ok b ∧ rel a b := by
  have hresult := h.result
  rw [ha] at hresult
  generalize other.result = result at hresult ⊢
  cases hresult with
  | ok h => exact ⟨_, rfl, h⟩

theorem Like.ok {a : α} {b : β} (h : rel a b) :
    Like like rel (Pure.pure a : Walk Context Fault α) (Pure.pure b) :=
  ⟨.nil, .ok h⟩

theorem Like.fail (error : IncludeError Fault) :
    Like like rel (Walk.fail error) (Walk.fail error) :=
  ⟨.nil, .error error⟩

theorem calls_note {event : Event Context} (h : event.call? = none) :
    (note event : Walk Context Fault Unit).calls = [] := by
  simp [calls, note, h]

theorem Like.note {event : Event Context} {event' : Event Other} (h : event.call? = none)
    (h' : event'.call? = none) :
    Like like Eq (Walk.note event : Walk Context Fault Unit) (Walk.note event') := by
  refine ⟨?_, .ok rfl⟩
  rw [calls_note h, calls_note h']
  exact .nil

theorem Like.ask {chain once : List String} {line : Option Int} {path : String}
    {call : Call Context} {call' : Call Other} {answer : Except Fault α} {answer' : Except Fault β}
    (hcall : Call.Like like.contexts call call') (h : Alike rel answer answer') :
    Like like rel (ask chain once line path call answer) (ask chain once line path call' answer') := by
  refine ⟨.cons hcall .nil, ?_⟩
  cases h with
  | error fault => exact .error _
  | ok h => exact .ok h

theorem calls_bind_ok {events : List (Event Context)} {a : α} {next : α → Walk Context Fault γ} :
    ((⟨events, .ok a⟩ : Walk Context Fault α) >>= next).calls =
      events.filterMap Event.call? ++ (next a).calls :=
  List.filterMap_append

theorem Like.bind {walk : Walk Context Fault α} {other : Walk Other Fault β}
    {next : α → Walk Context Fault γ} {next' : β → Walk Other Fault δ} (h : Like like rel walk other)
    (hnext : ∀ a b, rel a b → Like like rel' (next a) (next' b)) :
    Like like rel' (walk >>= next) (other >>= next') := by
  obtain ⟨hcalls, hresult⟩ := h
  rcases walk with ⟨events, result⟩
  rcases other with ⟨events', result'⟩
  cases hresult with
  | error error => exact ⟨hcalls, .error error⟩
  | ok hab =>
    obtain ⟨hafter, hend⟩ := hnext _ _ hab
    refine ⟨?_, hend⟩
    rw [calls_bind_ok, calls_bind_ok]
    exact List.rel_append hcalls hafter

theorem Like.map {walk : Walk Context Fault α} {other : Walk Other Fault β} {f : α → γ} {g : β → δ}
    (h : Like like rel walk other) (hrel : ∀ a b, rel a b → rel' (f a) (g b)) :
    Like like rel' (walk.map f) (other.map g) := by
  rw [map_eq_bind, map_eq_bind]
  exact h.bind fun a b hab => .ok (hrel a b hab)

end Walk

def Expansion.Like (like : Likeness Context Other) (tree : Expansion Context)
    (other : Expansion Other) : Prop :=
  ∀ file c d, like.contexts c d →
    List.Forall₂ (Chunk.Like like) (tree.chunks file c) (other.chunks file d)

inductive Followed.Like (like : Likeness Context Other) : Followed Context → Followed Other → Prop
  | skipped (name : String) : Like like (.skipped name) (.skipped name)
  | nested {name : String} {s t : Text} {c : Context} {d : Other} {inner : Expansion Context}
      {inner' : Expansion Other} (hc : like.contexts c d) (hinner : inner.Like like inner') :
      Like like (.nested name s c inner) (.nested name t d inner')

variable {like : Likeness Context Other}

theorem Followed.Like.cons {followed : Followed Context} {other : Followed Other}
    {rest : Expansion Context} {rest' : Expansion Other} (h : followed.Like like other)
    (hrest : rest.Like like rest') (d : Directive) :
    (followed.cons d rest).Like like (other.cons d rest') := by
  intro file c c' hc
  cases h with
  | skipped name => exact hrest file c c' hc
  | nested hchild hinner => exact List.rel_append (hinner _ _ _ hchild) (hrest file c c' hc)

structure Site.Like (like : Likeness Context Other) (site : Site Context) (other : Site Other) :
    Prop where
  outer : site.outer = other.outer
  file : site.file = other.file
  context : like.contexts site.context other.context

theorem Site.Like.chain_eq {site : Site Context} {other : Site Other} (h : site.Like like other) :
    site.chain = other.chain := by
  rw [chain, chain, h.outer, h.file]

theorem Site.Like.inside {site : Site Context} {other : Site Other} (h : site.Like like other)
    (name : String) {c : Context} {d : Other} (hc : like.contexts c d) :
    (site.inside name c).Like like (other.inside name d) :=
  ⟨h.chain_eq, rfl, hc⟩

def Root.Like (like : Likeness Context Other) (root : Root Context) (other : Root Other) : Prop :=
  List.Forall₂ (Chunk.Like like) root.chunks other.chunks

theorem Memory.Like.ask {memory : Memory Context} {memory' : Memory Other}
    (h : memory.Like like.contexts memory') {call : Call Context} {call' : Call Other}
    (hcall : Call.Like like.contexts call call') :
    (memory.ask call).Like like.contexts (memory'.ask call') :=
  ⟨h.once, List.rel_append h.asked (.cons hcall .nil)⟩

theorem like_expandPassages
    {into : Directive → Memory Context → Walk Context Fault (Followed Context × Memory Context)}
    {into' : Directive → Memory Other → Walk Other Fault (Followed Other × Memory Other)}
    (hinto : ∀ d memory memory', memory.Like like.contexts memory' →
      Walk.Like like (fun a b => a.1.Like like b.1 ∧ a.2.Like like.contexts b.2) (into d memory)
        (into' d memory')) (file : String) {ps qs : List Passage}
    (h : List.Forall₂ (PassageLike like.texts) ps qs) {memory : Memory Context}
    {memory' : Memory Other} (hmemory : memory.Like like.contexts memory') :
    Walk.Like like (fun a b => a.1.Like like b.1 ∧ a.2.Like like.contexts b.2)
      (expandPassages into file ps memory) (expandPassages into' file qs memory') := by
  induction h generalizing memory memory' with
  | nil =>
    have hdone : Expansion.Like like .done .done := fun _ _ _ _ => .nil
    exact .ok ⟨hdone, hmemory⟩
  | cons hp hrest ih =>
    cases hp with
    | verbatim htext =>
      apply (ih hmemory).map
      rintro ⟨rest, after⟩ ⟨rest', after'⟩ ⟨hlike, hafter⟩
      refine ⟨fun name c d hc => ?_, hafter⟩
      exact .cons ⟨htext, rfl, rfl, hc⟩ (hlike name c d hc)
    | malformed => exact .fail _
    | directive =>
      apply (hinto _ _ _ hmemory).bind
      rintro ⟨followed, middle⟩ ⟨followed', middle'⟩ ⟨hfollowed, hmiddle⟩
      apply (ih hmiddle).map
      rintro ⟨rest, after⟩ ⟨rest', after'⟩ ⟨hlike, hafter⟩
      exact ⟨hfollowed.cons hlike _, hafter⟩

variable {provider : Provider Context Fault} {other : Provider Other Fault}

theorem Provider.Like.alike_resolve (h : provider.Like like other) {asked : List (Call Context)}
    {asked' : List (Call Other)} (hasked : List.Forall₂ (Call.Like like.contexts) asked asked')
    (path : String) {c : Context} {d : Other} (hc : like.contexts c d) :
    Alike Eq (provider.resolve asked path c) (other.resolve asked' path d) := by
  rw [h.resolve asked asked' path c d hasked hc]
  cases other.resolve asked' path d with
  | error fault => exact .error fault
  | ok name => exact .ok rfl

variable (options : Options)

theorem ReadAlike.like_remember (h : ReadAlike like.texts) (name : String) {s t : Text}
    (hst : like.texts s t) {memory : Memory Context} {memory' : Memory Other}
    (hmemory : memory.Like like.contexts memory') :
    (remember options name s memory).Like like.contexts (remember options name t memory') := by
  rw [remember, remember, h.once s t hst]
  split
  · exact ⟨congrArg (List.cons name) hmemory.once, hmemory.asked⟩
  · exact hmemory

theorem like_follow (hprovider : provider.Like like other) (hread : ReadAlike like.texts)
    (room : Nat) {site : Site Context} {site' : Site Other} (hsite : site.Like like site')
    (d : Directive) {memory : Memory Context} {memory' : Memory Other}
    (hmemory : memory.Like like.contexts memory') :
    Walk.Like like (fun a b => a.1.Like like b.1 ∧ a.2.Like like.contexts b.2)
      (follow provider options room site d memory) (follow other options room site' d memory') := by
  induction room using Nat.strongRecOn generalizing site site' d memory memory' with
  | ind room ih =>
    rw [follow.eq_def, follow.eq_def, hsite.chain_eq, hsite.file, hmemory.once]
    have hname := hprovider.alike_resolve hmemory.asked d.path hsite.context
    have hresolved : (memory.resolved d site.context).Like like.contexts
        (memory'.resolved d site'.context) := hmemory.ask (.resolve hsite.context)
    apply (Walk.Like.ask (.resolve hsite.context) hname).bind
    rintro name _ rfl
    by_cases hmet : name ∈ memory'.once
    · rw [if_pos hmet, if_pos hmet]
      apply (Walk.Like.note rfl rfl).bind
      rintro _ _ -
      exact .ok ⟨.skipped name, hresolved⟩
    rw [if_neg hmet, if_neg hmet]
    by_cases hcycle : (options.detectCycles && site'.chain.contains name) = true
    · rw [if_pos hcycle, if_pos hcycle]
      exact .fail _
    rw [if_neg hcycle, if_neg hcycle]
    cases room with
    | zero => exact .fail _
    | succ less =>
      have hfetch := hprovider.fetch _ _ d.path _ _ hresolved.asked hsite.context
      apply (Walk.Like.ask (.fetch hsite.context) hfetch).bind
      rintro ⟨source, child⟩ ⟨source', child'⟩ ⟨hsource, hchild⟩
      have hfetched : (memory.fetched d site.context).Like like.contexts
          (memory'.fetched d site'.context) := hresolved.ask (.fetch hsite.context)
      have hentered := hread.like_remember options name hsource hfetched
      apply (Walk.Like.note rfl rfl).bind
      rintro _ _ -
      have hinside := hsite.inside name hchild
      apply (like_expandPassages (fun e _ _ h => ih less (Nat.lt_succ_self less) hinside e h) name
        (hread.passages _ _ hsource) hentered).bind
      rintro ⟨inner, after⟩ ⟨inner', after'⟩ ⟨hinner, hafter⟩
      exact .ok ⟨.nested hchild hinner, hafter⟩

theorem like_expandBehind (hprovider : provider.Like like other) (hread : ReadAlike like.texts)
    {asked : List (Call Context)} {asked' : List (Call Other)}
    (hasked : List.Forall₂ (Call.Like like.contexts) asked asked') (name : String) {s t : Text}
    (hst : like.texts s t) {c : Context} {d : Other} (hc : like.contexts c d) :
    Walk.Like like (Root.Like like) (expandBehind provider options asked name s c)
      (expandBehind other options asked' name t d) := by
  have hsite : Site.Like like ⟨[], name, c⟩ ⟨[], name, d⟩ := ⟨rfl, rfl, hc⟩
  have hmemory : Memory.Like like.contexts ⟨[], asked⟩ ⟨[], asked'⟩ := ⟨rfl, hasked⟩
  have hstart := hread.like_remember options name hst hmemory
  apply (like_expandPassages (fun e _ _ h => like_follow options hprovider hread _ hsite e h) name
    (hread.passages _ _ hst) hstart).bind
  rintro ⟨tree, after⟩ ⟨tree', after'⟩ ⟨htree, -⟩
  exact .ok (htree name c d hc)

theorem like_expandFile (hprovider : provider.Like like other) (hread : ReadAlike like.texts)
    (path : String) {c : Context} {d : Other} (hc : like.contexts c d) :
    Walk.Like like (Root.Like like) (expandFile provider options path c)
      (expandFile other options path d) := by
  have hresolve : Call.Like like.contexts (.resolve path c) (.resolve path d) := .resolve hc
  have hfetch : Call.Like like.contexts (.fetch path c) (.fetch path d) := .fetch hc
  apply (Walk.Like.ask hresolve (hprovider.alike_resolve .nil path hc)).bind
  rintro name _ rfl
  apply (Walk.Like.ask hfetch (hprovider.fetch _ _ path c d (.cons hresolve .nil) hc)).bind
  rintro ⟨source, child⟩ ⟨source', child'⟩ ⟨hsource, hchild⟩
  exact like_expandBehind options hprovider hread (.cons hresolve (.cons hfetch .nil)) name hsource
    hchild

theorem PassageLike.refl (p : Passage) : PassageLike Eq p p := by
  cases p with
  | verbatim start text => exact .verbatim rfl
  | directive d => exact .directive
  | malformed line m => exact .malformed

theorem readAlike_eq : ReadAlike Eq := by
  constructor
  · rintro s _ rfl
    exact List.forall₂_same.mpr fun p _ => .refl p
  · rintro s _ rfl
    rfl

/-- Crawls under contexts that a provider cannot tell apart: `rel` relates contexts under which names
and sources are the same and the contexts of those sources are related again. -/
theorem like_of_contexts {rel : Context → Other → Prop} (hprovider : provider.Like ⟨rel, Eq⟩ other)
    {c : Context} {d : Other} (hc : rel c d) :
    (∀ name source, Walk.Like ⟨rel, Eq⟩ (Root.Like ⟨rel, Eq⟩)
      (expandSource provider options name source c) (expandSource other options name source d)) ∧
    ∀ path, Walk.Like ⟨rel, Eq⟩ (Root.Like ⟨rel, Eq⟩) (expandFile provider options path c)
      (expandFile other options path d) := by
  constructor
  · intro name source
    exact like_expandBehind options hprovider readAlike_eq .nil name rfl hc
  · intro path
    exact like_expandFile options hprovider readAlike_eq path hc

def leveled {Context : Type} (level : Context → Nat) (deeper : String → Context → Context) :
    Provider Context String where
  resolve _ path c := .ok (if level c = 0 then "root" else path)
  fetch _ path c :=
    match path with
    | "main" => .ok ("A\n#include <part>\n#include <part>\nZ".toList, deeper path c)
    | "part" =>
      if level c = 1 then .ok ("#pragma once\n#include \"deep\"\ny\n".toList, deeper path c)
      else .error "part is not here"
    | "deep" => .ok ("#include \"part\"\nx\n".toList, deeper path c)
    | _ => .error "no such header"

theorem like_of_contexts_leveled :
    Provider.Like ⟨fun names n => names.length = n, Eq⟩ (leveled List.length List.cons)
        (leveled id fun _ n => n + 1) ∧
      ([] : List String).length = 0 ∧
      ∃ root other, (expandFile (leveled List.length List.cons) ⟨8, true, true⟩ "main" []).result =
          .ok root ∧
        (expandFile (leveled id fun _ n => n + 1) ⟨8, true, true⟩ "main" 0).result = .ok other ∧
        root.chunks.map Chunk.context =
          [["main"], ["part", "main"], ["deep", "part", "main"], ["part", "main"], ["main"]] ∧
        Root.Like ⟨fun names n => names.length = n, Eq⟩ root other := by
  have hstart : ([] : List String).length = 0 := rfl
  have hprovider : Provider.Like ⟨fun names n => names.length = n, Eq⟩
      (leveled List.length List.cons) (leveled id fun _ n => n + 1) := by
    constructor
    · rintro asked asked' path names _ - rfl
      rfl
    · rintro asked asked' path names _ - rfl
      simp only [leveled, id]
      split
      · exact .ok ⟨rfl, rfl⟩
      · split
        · exact .ok ⟨rfl, rfl⟩
        · exact .error _
      · exact .ok ⟨rfl, rfl⟩
      · exact .error _
  have hlike := (like_of_contexts ⟨8, true, true⟩ hprovider hstart).2 "main"
  obtain ⟨root, hroot, hcontexts⟩ := @Walk.exists_result_eq_ok _ _ _ _
    (expandFile (leveled List.length List.cons) ⟨8, true, true⟩ "main" [])
    (fun root => root.chunks.map Chunk.context)
    [["main"], ["part", "main"], ["deep", "part", "main"], ["part", "main"], ["main"]]
    (by decide +kernel)
  obtain ⟨other, hother, h⟩ := hlike.exists_ok hroot
  exact ⟨hprovider, hstart, root, other, hroot, hother, hcontexts, h⟩

end ShaderSources
