import Mathlib.Data.List.Chain
import Mathlib.Data.List.Nodup
import ShaderSources.Proofs.PassageCuts
import ShaderSources.Proofs.Stages

namespace ShaderSources

open Source Text

variable {Context Fault : Type}

structure Frame (Context : Type) where
  name : String
  source : Text
  context : Context

namespace Frame

/-- A live line of the one source was answered with the other, early in the calls so far. -/
def Leads (provider : Provider Context Fault) (calls : List (Call Context))
    (outer inner : Frame Context) : Prop :=
  ∃ asked k d, LiveAt (splitLines outer.source) k d ∧
    asked ++ [.resolve d.path outer.context, .fetch d.path outer.context] <+: calls ∧
    provider.resolve asked d.path outer.context = .ok inner.name ∧
    provider.fetch (asked ++ [.resolve d.path outer.context]) d.path outer.context =
      .ok (inner.source, inner.context)

theorem Leads.mono {provider : Provider Context Fault} {calls more : List (Call Context)}
    {outer inner : Frame Context} (h : Leads provider calls outer inner) (hmore : calls <+: more) :
    Leads provider more outer inner := by
  obtain ⟨asked, k, d, hlive, hcalls, hanswers⟩ := h
  exact ⟨asked, k, d, hlive, hcalls.trans hmore, hanswers⟩

def start (options : Options) (asked : List (Call Context)) (root : Frame Context) : Stage Context :=
  .start options asked root.name root.source root.context

end Frame

structure Expanding (provider : Provider Context Fault) (options : Options) (root : Frame Context)
    (outer : List (Frame Context)) (S : Frame Context) (t : Stage Context) : Prop where
  site : t.site = ⟨outer.map Frame.name, S.name, S.context⟩
  rest : t.rest <:+ passages S.source
  first : (outer ++ [S]).head? = some root
  links : (outer ++ [S]).IsChain (Frame.Leads provider t.memory.asked)
  nodup : options.detectCycles = true → ((outer ++ [S]).map Frame.name).Nodup
  room : t.room + outer.length = options.maxDepth.toNat

/-- What an error tells that ends a crawl while `outer` and, inside them, `S` are being expanded, behind
the calls `asked`. -/
inductive Locates (provider : Provider Context Fault) (options : Options) (asked : List (Call Context))
    (outer : List (Frame Context)) (S : Frame Context) : IncludeError Fault → Prop
  | malformed {k : Nat} {m : Malformed} (hline : BrokenAt (splitLines S.source) k m) :
      Locates provider options asked outer S (.malformed S.name k m.reason)
  | provider {k : Nat} {d : Directive} {fault : Fault} (hline : LiveAt (splitLines S.source) k d)
      (hfault : provider.resolve asked d.path S.context = .error fault ∨
        provider.fetch (asked ++ [.resolve d.path S.context]) d.path S.context = .error fault) :
      Locates provider options asked outer S (.provider d.path (some S.name) (some k)
        ((outer ++ [S]).map Frame.name ++ [d.path]) (some fault))
  | cycle {k : Nat} {d : Directive} {name : String} (hline : LiveAt (splitLines S.source) k d)
      (hname : provider.resolve asked d.path S.context = .ok name)
      (honce : ((outer ++ [S]).map Frame.name).count name = 1) :
      Locates provider options asked outer S (.cycle name S.name k
        ((outer ++ [S]).map Frame.name ++ [name]))
  | depth {k : Nat} {d : Directive} {name : String} (hline : LiveAt (splitLines S.source) k d)
      (hname : provider.resolve asked d.path S.context = .ok name)
      (hlength : (outer ++ [S]).length = options.maxDepth.toNat + 1) :
      Locates provider options asked outer S (.depth name options.maxDepth
        ((outer ++ [S]).map Frame.name ++ [name]))

def Located (provider : Provider Context Fault) (options : Options) (asked : List (Call Context))
    (root : Frame Context) (error : IncludeError Fault) : Prop :=
  ∃ before t last outer S, Reaches provider options (root.start options asked) before t ∧
    Halts provider options t last error ∧ Expanding provider options root outer S t ∧
    Locates provider options t.memory.asked outer S error

variable {provider : Provider Context Fault} {options : Options} {root : Frame Context}

namespace Expanding

variable {outer : List (Frame Context)} {S : Frame Context} {t : Stage Context}

theorem start (provider : Provider Context Fault) (options : Options) (asked : List (Call Context))
    (root : Frame Context) : Expanding provider options root [] root (root.start options asked) where
  site := rfl
  rest := List.suffix_rfl
  first := rfl
  links := List.isChain_singleton root
  nodup _ := List.nodup_singleton root.name
  room := rfl

theorem chain_eq (h : Expanding provider options root outer S t) :
    t.site.chain = (outer ++ [S]).map Frame.name := by
  rw [h.site, Site.chain, List.map_append, List.map_singleton]

theorem mem_passages (h : Expanding provider options root outer S t) {p : Passage}
    {ps : List Passage} (hrest : t.rest = p :: ps) : p ∈ passages S.source := by
  apply h.rest.subset
  rw [hrest]
  exact List.mem_cons_self

theorem exists_liveAt (h : Expanding provider options root outer S t) {d : Directive}
    {ps : List Passage} (hrest : t.rest = .directive d :: ps) :
    ∃ k : Nat, d.line = k ∧ LiveAt (splitLines S.source) k d := by
  obtain ⟨k, hlive⟩ := Source.exists_liveAt (h.mem_passages hrest)
  exact ⟨k, hlive.line_eq, hlive⟩

theorem passed {room : Nat} {site : Site Context} {memory after : Memory Context} {p : Passage}
    {ps : List Passage} (h : Expanding provider options root outer S ⟨room, site, memory, p :: ps⟩)
    (hasked : memory.asked <+: after.asked) :
    Expanding provider options root outer S ⟨room, site, after, ps⟩ where
  site := h.site
  rest := (List.suffix_cons p ps).trans h.rest
  first := h.first
  links := h.links.imp fun _ _ hleads => hleads.mono hasked
  nodup := h.nodup
  room := h.room

theorem inside {room : Nat} {site : Site Context} {memory : Memory Context} {d : Directive}
    {ps : List Passage} {name : String} {source : Text} {child : Context}
    (h : Expanding provider options root outer S ⟨room + 1, site, memory, .directive d :: ps⟩)
    (hname : provider.resolve memory.asked d.path site.context = .ok name)
    (hcycle : options.detectCycles = true → name ∉ site.chain)
    (hfetch : provider.fetch (memory.resolved d site.context).asked d.path site.context =
      .ok (source, child)) :
    Expanding provider options root (outer ++ [S]) ⟨name, source, child⟩
      (.inside options room site memory d name source child) where
  site := by
    have hchain : site.chain = (outer ++ [S]).map Frame.name := h.chain_eq
    rw [Stage.inside, Site.inside, hchain]
  rest := List.suffix_rfl
  first := by
    rw [List.head?_append, h.first]
    rfl
  links := by
    have hasked : (Stage.inside options room site memory d name source child).memory.asked =
        memory.asked ++ [.resolve d.path site.context, .fetch d.path site.context] := by
      rw [Stage.inside, asked_remember, List.append_cons]
      rfl
    have hcontext : site.context = S.context := congrArg Site.context h.site
    have hlinks := h.links.imp fun _ _ hleads => hleads.mono (List.prefix_append memory.asked
      [.resolve d.path site.context, .fetch d.path site.context])
    rw [hasked, hcontext]
    rw [hcontext] at hlinks hname hfetch
    apply hlinks.append (List.isChain_singleton _)
    obtain ⟨k, -, hlive⟩ := h.exists_liveAt rfl
    intro x hx y hy
    rw [List.getLast?_concat, Option.mem_some] at hx
    rw [List.head?_singleton, Option.mem_some] at hy
    rw [← hx, ← hy]
    exact ⟨memory.asked, k, d, hlive, List.prefix_rfl, hname, hfetch⟩
  nodup hon := by
    have hchain : site.chain = (outer ++ [S]).map Frame.name := h.chain_eq
    rw [List.map_append, List.map_singleton, List.nodup_append_comm, List.singleton_append,
      List.nodup_cons, ← hchain]
    exact ⟨hcycle hon, hchain ▸ h.nodup hon⟩
  room := by
    have hroom := h.room
    simp only [Stage.inside, List.length_append, List.length_singleton] at hroom ⊢
    omega

theorem advances {s : Stage Context} {events : List (Event Context)}
    (hs : Expanding provider options root outer S s) (h : Advances provider options s events t) :
    ∃ outer' S', Expanding provider options root outer' S' t := by
  have hasked : s.memory.asked <+: t.memory.asked := by
    rw [h.asked_eq]
    exact List.prefix_append _ _
  cases h with
  | verbatim => exact ⟨outer, S, hs.passed hasked⟩
  | past hd => exact ⟨outer, S, hs.passed hasked⟩
  | into hname hnew hcycle hfetch => exact ⟨_, _, hs.inside hname hcycle hfetch⟩

theorem locates {last : List (Event Context)} {error : IncludeError Fault}
    (ht : Expanding provider options root outer S t) (h : Halts provider options t last error) :
    Locates provider options t.memory.asked outer S error := by
  cases h with
  | malformed =>
    have hfile := congrArg Site.file ht.site
    have hbroken := brokenAt_of_mem (ht.mem_passages rfl)
    rw [hfile]
    exact .malformed hbroken
  | @refused room site memory d ps events error h =>
    obtain ⟨k, hk, hlive⟩ := ht.exists_liveAt rfl
    have hchain : site.chain = (outer ++ [S]).map Frame.name := ht.chain_eq
    have hfile : site.file = S.name := congrArg Site.file ht.site
    have hcontext : site.context = S.context := congrArg Site.context ht.site
    cases h with
    | unresolved hname =>
      rw [Site.unanswered, hchain, hfile, hk]
      rw [hcontext] at hname
      exact .provider hlive (.inl hname)
    | cycle hname hnew hon hmem =>
      rw [hchain] at hmem
      rw [hcontext] at hname
      rw [hchain, hfile, hk]
      exact .cycle hlive hname (List.count_eq_one_of_mem (ht.nodup hon) hmem)
    | deep hname hnew hcycle =>
      have hroom : 0 + outer.length = options.maxDepth.toNat := ht.room
      rw [hcontext] at hname
      rw [hchain]
      apply Locates.depth hlive hname
      rw [List.length_append, List.length_singleton]
      omega
    | unfetched hname hnew hcycle hfetch =>
      rw [Site.unanswered, hchain, hfile, hk]
      rw [hcontext] at hfetch
      exact .provider hlive (.inr hfetch)

end Expanding

theorem Reaches.exists_expanding {s t : Stage Context} {events : List (Event Context)}
    (h : Reaches provider options s events t) {outer : List (Frame Context)} {S : Frame Context}
    (hs : Expanding provider options root outer S s) :
    ∃ outer' S', Expanding provider options root outer' S' t := by
  induction h generalizing outer S with
  | refl => exact ⟨outer, S, hs⟩
  | next hstep h ih =>
    obtain ⟨outer', S', ht⟩ := hs.advances hstep
    exact ih ht

theorem located_of_walk {asked : List (Call Context)} {error : IncludeError Fault}
    (h : ((root.start options asked).walk provider options).result = .error error) :
    Located provider options asked root error := by
  obtain ⟨before, t, last, hreach, hhalt, -⟩ := Stage.exists_halts (congrArg (Walk.mk _) h)
  obtain ⟨outer, S, ht⟩ := hreach.exists_expanding (.start provider options asked root)
  exact ⟨before, t, last, outer, S, hreach, hhalt, ht, ht.locates hhalt⟩

theorem located_of_expandSource {name : String} {source : Text} {context : Context}
    {error : IncludeError Fault}
    (h : (expandSource provider options name source context).result = .error error) :
    Located provider options [] ⟨name, source, context⟩ error := by
  apply located_of_walk
  rw [expandSource, expandBehind_eq] at h
  exact congrArg Walk.result (Walk.eq_of_map_eq_error h)

theorem located_of_error (provider : Provider Context Fault) (options : Options) :
    (∀ name source context error,
      (expandSource provider options name source context).result = .error error →
        Located provider options [] ⟨name, source, context⟩ error) ∧
    ∀ path context error, (expandFile provider options path context).result = .error error →
      (∃ fault, error = .provider path none none [path] (some fault) ∧
        (provider.resolve [] path context = .error fault ∨
          (∃ name, provider.resolve [] path context = .ok name) ∧
            provider.fetch [.resolve path context] path context = .error fault)) ∨
      ∃ name source child, provider.resolve [] path context = .ok name ∧
        provider.fetch [.resolve path context] path context = .ok (source, child) ∧
        Located provider options [.resolve path context, .fetch path context] ⟨name, source, child⟩
          error := by
  constructor
  · intro name source context error h
    exact located_of_expandSource h
  · intro path context error h
    cases hname : provider.resolve [] path context with
    | error fault =>
      rw [expandFile, hname] at h
      cases h
      exact .inl ⟨fault, rfl, .inl rfl⟩
    | ok name =>
      cases hfetch : provider.fetch [.resolve path context] path context with
      | error fault =>
        rw [expandFile, hname, hfetch] at h
        cases h
        exact .inl ⟨fault, rfl, .inr ⟨⟨name, rfl⟩, rfl⟩⟩
      | ok parts =>
        obtain ⟨source, child⟩ := parts
        have hopens : Opens provider options (expandFile provider options path context) _ name source
          child := .file hname hfetch
        rw [hopens.walk_eq] at h
        refine .inr ⟨name, source, child, rfl, rfl, located_of_walk ?_⟩
        exact congrArg Walk.result (Walk.eq_of_map_eq_error h)

def tangled : Provider Unit String where
  resolve _ path _ := .ok path
  fetch _ path _ :=
    match path with
    | "main" => .ok ("A\n#include \"back\"\n".toList, ())
    | "back" => .ok ("x\ny\n#include <main>\n".toList, ())
    | "torn" => .ok ("B\n#include <ma\n".toList, ())
    | _ => .error "no such header"

theorem located_of_error_tangled :
    (expandSource tangled ⟨8, true, false⟩ "root" "#include \"torn\"\n".toList ()).result =
        .error (.malformed "torn" 2 "unterminated include path") ∧
      Located tangled ⟨8, true, false⟩ [] ⟨"root", "#include \"torn\"\n".toList, ()⟩
        (.malformed "torn" 2 "unterminated include path") ∧
      (expandFile tangled ⟨8, true, false⟩ "main" ()).result =
        .error (.cycle "main" "back" 3 ["main", "back", "main"]) ∧
      ∃ name source child, tangled.resolve [] "main" () = .ok name ∧
        tangled.fetch [.resolve "main" ()] "main" () = .ok (source, child) ∧
        Located tangled ⟨8, true, false⟩ [.resolve "main" (), .fetch "main" ()] ⟨name, source, child⟩
          (.cycle "main" "back" 3 ["main", "back", "main"]) := by
  have htorn : (expandSource tangled ⟨8, true, false⟩ "root" "#include \"torn\"\n".toList ()).result =
      .error (.malformed "torn" 2 "unterminated include path") := by
    apply congrArg Walk.result (Walk.eq_of_map_eq_error (f := fun _ => ()) _)
    decide +kernel
  have hback : (expandFile tangled ⟨8, true, false⟩ "main" ()).result =
      .error (.cycle "main" "back" 3 ["main", "back", "main"]) := by
    apply congrArg Walk.result (Walk.eq_of_map_eq_error (f := fun _ => ()) _)
    decide +kernel
  refine ⟨htorn, (located_of_error tangled _).1 _ _ _ _ htorn, hback, ?_⟩
  rcases (located_of_error tangled _).2 _ _ _ hback with ⟨fault, he, -⟩ | hlocated
  · cases he
  · exact hlocated

end ShaderSources
