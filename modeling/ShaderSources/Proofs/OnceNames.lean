import ShaderSources.Proofs.Stages

namespace ShaderSources

open Source

variable {Context Fault : Type}

def Obtained (provider : Provider Context Fault) (calls : List (Call Context)) (name : String) :
    Prop :=
  ∃ source, Fetched provider calls name source ∧ hasPragmaOnce source = true

def Remembers (provider : Provider Context Fault) (memory : Memory Context) : Prop :=
  ∀ name, Obtained provider memory.asked name → name ∈ memory.once

structure Keeps (provider : Provider Context Fault) (memory after : Memory Context) : Prop where
  old : ∀ name ∈ memory.once, name ∈ after.once
  new : Remembers provider memory → Remembers provider after

variable {provider : Provider Context Fault} {options : Options}

theorem Obtained.mono {calls more : List (Call Context)} {name : String}
    (h : Obtained provider calls name) (hmore : calls <+: more) : Obtained provider more name := by
  obtain ⟨source, hfetched, honce⟩ := h
  exact ⟨source, hfetched.mono hmore, honce⟩

theorem not_obtained_nil {name : String} : ¬ Obtained provider [] name := by
  rintro ⟨source, hfetched, -⟩
  exact not_fetched_nil hfetched

theorem Obtained.of_resolved {calls : List (Call Context)} {path name : String} {context : Context}
    (h : Obtained provider (calls ++ [.resolve path context]) name) :
    Obtained provider calls name := by
  obtain ⟨source, hfetched, honce⟩ := h
  exact ⟨source, fetched_concat_resolve.mp hfetched, honce⟩

theorem Obtained.of_fetched {calls : List (Call Context)} {path met name : String}
    {context child : Context} {source : Text} (hname : provider.resolve calls path context = .ok name)
    (hfetch : provider.fetch (calls ++ [.resolve path context]) path context = .ok (source, child))
    (h : Obtained provider (calls ++ [.resolve path context] ++ [.fetch path context]) met) :
    Obtained provider calls met ∨ met = name ∧ hasPragmaOnce source = true := by
  obtain ⟨text, hfetched, honce⟩ := h
  rcases (fetched_concat_fetch hname hfetch).mp hfetched with hfetched | ⟨rfl, rfl⟩
  · exact .inl ⟨text, hfetched, honce⟩
  · exact .inr ⟨rfl, honce⟩

namespace Keeps

variable {memory middle after : Memory Context}

theorem refl (memory : Memory Context) : Keeps provider memory memory :=
  ⟨fun _ h => h, fun h => h⟩

theorem trans (h : Keeps provider memory middle) (h' : Keeps provider middle after) :
    Keeps provider memory after :=
  ⟨fun name hname => h'.old name (h.old name hname), fun hall => h'.new (h.new hall)⟩

theorem resolved (d : Directive) (context : Context) :
    Keeps provider memory (memory.resolved d context) :=
  ⟨fun _ h => h, fun hall name hname => hall name hname.of_resolved⟩

theorem enters {d : Directive} {name : String} {source : Text} {context child : Context}
    (hon : options.pragmaOnce = true)
    (hname : provider.resolve memory.asked d.path context = .ok name)
    (hfetch : provider.fetch (memory.resolved d context).asked d.path context =
      .ok (source, child)) :
    Keeps provider memory (remember options name source (memory.fetched d context)) := by
  refine ⟨fun _ h => mem_remember_of_mem source h, fun hall met hmet => ?_⟩
  rw [asked_remember] at hmet
  rcases Obtained.of_fetched hname hfetch hmet with hmet | ⟨rfl, honce⟩
  · exact mem_remember_of_mem source (hall met hmet)
  · exact mem_remember_self hon honce

end Keeps

theorem Stage.keeps (hon : options.pragmaOnce = true) {s : Stage Context}
    {events : List (Event Context)} {tree : Expansion Context} {after : Memory Context}
    (h : s.walk provider options = ⟨events, .ok (tree, after)⟩) : Keeps provider s.memory after := by
  refine Stage.ok_induction (motive := fun memory _ _ after => Keeps provider memory after)
    ?done ?verbatim ?skipped ?nested h
  case done => exact .refl
  case verbatim =>
    intro memory after start text events rest hrest
    exact hrest
  case skipped =>
    intro site memory after d name events rest hname hrest
    exact (Keeps.resolved d site.context).trans hrest
  case nested =>
    intro site memory middle after d name source child inner tree events rest hname hfetch hinner hrest
    exact ((Keeps.enters hon hname hfetch).trans hinner).trans hrest

theorem Advances.keeps (hon : options.pragmaOnce = true) {s t : Stage Context}
    {events : List (Event Context)} (h : Advances provider options s events t) :
    Keeps provider s.memory t.memory := by
  cases h with
  | verbatim => exact .refl _
  | @past room site memory after d _ events followed hd =>
    have hline : Stage.walk provider options ⟨room, site, memory, [.directive d]⟩ =
        ⟨events ++ [], .ok (followed.cons d .done, after)⟩ := Stage.walk_of_ok hd
    have hkeeps : Keeps provider memory after := Stage.keeps hon hline
    exact hkeeps
  | into hname hnew hcycle hfetch => exact .enters hon hname hfetch

theorem Reaches.keeps (hon : options.pragmaOnce = true) {s t : Stage Context}
    {events : List (Event Context)} (h : Reaches provider options s events t) :
    Keeps provider s.memory t.memory := by
  induction h with
  | refl s => exact .refl s.memory
  | next hstep h ih => exact (hstep.keeps hon).trans ih

/-- A name under which the root asks to be expanded only once, or a source that was handed out. -/
def Met (provider : Provider Context Fault) (name : String) (source : Text)
    (calls : List (Call Context)) (met : String) : Prop :=
  name = met ∧ hasPragmaOnce source = true ∨ Obtained provider calls met

theorem Met.mono {name met : String} {source : Text} {calls more : List (Call Context)}
    (h : Met provider name source calls met) (hmore : calls <+: more) :
    Met provider name source more met :=
  h.imp_right fun hobtained => hobtained.mono hmore

theorem Met.of_resolved {name met path : String} {source : Text} {calls : List (Call Context)}
    {context : Context} (h : Met provider name source (calls ++ [.resolve path context]) met) :
    Met provider name source calls met :=
  h.imp_right Obtained.of_resolved

theorem Opens.remembers (hon : options.pragmaOnce = true) {walk : Walk Context Fault (Root Context)}
    {opening : List (Event Context)} {name : String} {source : Text} {context : Context}
    (h : Opens provider options walk opening name source context) :
    Remembers provider (Stage.opened options opening name source context).memory := by
  intro met hmet
  rw [Stage.asked_opened] at hmet
  cases h with
  | source => exact absurd hmet not_obtained_nil
  | file hname hfetch =>
    rcases Obtained.of_fetched hname hfetch hmet with hmet | ⟨rfl, honce⟩
    · exact absurd hmet not_obtained_nil
    · exact mem_remember_self hon honce

theorem Reaches.asked_opened {opening events : List (Event Context)} {name : String} {source : Text}
    {context : Context} {t : Stage Context}
    (h : Reaches provider options (.opened options opening name source context) events t) :
    t.memory.asked = (opening ++ events).filterMap Event.call? := by
  rw [h.asked_eq, List.filterMap_append, Stage.asked_opened]

theorem Met.mem_once (hon : options.pragmaOnce = true) {walk : Walk Context Fault (Root Context)}
    {opening events : List (Event Context)} {name met : String} {source : Text} {context : Context}
    {t : Stage Context} (hopens : Opens provider options walk opening name source context)
    (hreach : Reaches provider options (.opened options opening name source context) events t)
    (h : Met provider name source t.memory.asked met) : met ∈ t.memory.once := by
  rcases h with ⟨rfl, honce⟩ | hobtained
  · exact (hreach.keeps hon).old _ (mem_remember_self hon honce)
  · exact (hreach.keeps hon).new (hopens.remembers hon) met hobtained

/-- The include line `d` of a stage is passed over: the provider is asked for the name, and that is
all; no source is requested, nothing of it is in the result, and the crawl goes on. -/
structure PassedOver (provider : Provider Context Fault) (options : Options) (t : Stage Context)
    (d : Directive) (name : String) : Prop where
  walk : follow provider options t.room t.site d t.memory =
    ⟨[t.site.resolves t.memory d, t.site.event t.memory (.skip name d.line)],
      .ok (.skipped name, t.memory.resolved d t.site.context)⟩
  chunks : ∀ rest : Expansion Context, ((Followed.skipped name).cons d rest).chunks t.site.file
    t.site.context = rest.chunks t.site.file t.site.context

theorem PassedOver.of_mem {t : Stage Context} {d : Directive} {name : String}
    (hname : provider.resolve t.memory.asked d.path t.site.context = .ok name)
    (hmet : name ∈ t.memory.once) : PassedOver provider options t d name :=
  ⟨(Outcome.skipped hname hmet).follow_eq, fun _ => rfl⟩

theorem Arises.of_resolve {s t : Stage Context} {before after : List (Event Context)}
    {event : Event Context} {d : Directive} {path : String} {context : Context}
    (h : Arises provider options s before event after t d)
    (hact : event.act = .call (.resolve path context)) :
    event = t.site.resolves t.memory d ∧ d.path = path ∧ t.site.context = context ∧
      Reaches provider options s before t ∧
      ∃ more, event :: after = (follow provider options t.room t.site d t.memory).events ++ more := by
  obtain ⟨-, events, own, more, hreach, rfl, hevent, hmore⟩ := h
  cases hevent with
  | resolves =>
    cases hact
    rw [List.append_nil]
    exact ⟨rfl, rfl, rfl, hreach, more, hmore⟩
  | fetches => cases hact
  | notes hnote => simp [Event.call?, hact] at hnote

theorem Arises.of_fetch {s t : Stage Context} {before after : List (Event Context)}
    {event : Event Context} {d : Directive} {path : String} {context : Context}
    (h : Arises provider options s before event after t d)
    (hact : event.act = .call (.fetch path context)) :
    ∃ events name, before = events ++ [t.site.resolves t.memory d] ∧ d.path = path ∧
      t.site.context = context ∧ Reaches provider options s events t ∧
      provider.resolve t.memory.asked path context = .ok name ∧ name ∉ t.memory.once := by
  obtain ⟨-, events, own, more, hreach, rfl, hevent, hmore⟩ := h
  cases hevent with
  | resolves => cases hact
  | fetches hname hnew =>
    cases hact
    exact ⟨events, _, rfl, rfl, rfl, hreach, hname, hnew⟩
  | notes hnote => simp [Event.call?, hact] at hnote

theorem passedOver_of_met {walk : Walk Context Fault (Root Context)}
    {opening before rest : List (Event Context)} {name met : String} {source : Text}
    {context : Context} (hon : options.pragmaOnce = true)
    (hopens : Opens provider options walk opening name source context)
    (hevents : walk.events = opening ++ (before ++ rest))
    (hmet : Met provider name source ((opening ++ before).filterMap Event.call?) met) :
    (∀ front event after path asked, rest = front ++ event :: after →
      event.act = .call (.fetch path asked) →
      ∃ past other, (opening ++ (before ++ front)).filterMap Event.call? =
          past ++ [.resolve path asked] ∧
        provider.resolve past path asked = .ok other ∧ other ≠ met) ∧
    ∀ front event after path asked, rest = front ++ event :: after →
      event.act = .call (.resolve path asked) →
      provider.resolve ((opening ++ (before ++ front)).filterMap Event.call?) path asked = .ok met →
      ∃ t d ps more,
        Reaches provider options (.opened options opening name source context) (before ++ front) t ∧
        t.rest = .directive d :: ps ∧ d.path = path ∧ t.site.context = asked ∧
        PassedOver provider options t d met ∧
        event :: after = (follow provider options t.room t.site d t.memory).events ++ more := by
  have hcrawl : ((Stage.opened options opening name source context).walk provider options).events =
      before ++ rest := by
    rw [hopens.walk_eq] at hevents
    exact List.append_cancel_left hevents
  -- What has been met before `rest` has been met at every stage from there on.
  have hlater (front : List (Event Context)) :
      Met provider name source ((opening ++ (before ++ front)).filterMap Event.call?) met := by
    apply hmet.mono
    rw [← List.append_assoc, List.filterMap_append (l := opening ++ before)]
    exact List.prefix_append _ _
  constructor
  · rintro front event after path asked rfl hact
    rw [← List.append_assoc] at hcrawl
    obtain ⟨t, d, harises⟩ := Stage.exists_arises hcrawl
    obtain ⟨events, other, hsplit, rfl, rfl, hreach, hother, hnew⟩ := harises.of_fetch hact
    have hcalls : (opening ++ (before ++ front)).filterMap Event.call? =
        t.memory.asked ++ [.resolve d.path t.site.context] := by
      rw [hsplit, ← List.append_assoc, List.filterMap_append, hreach.asked_opened]
      rfl
    refine ⟨t.memory.asked, other, hcalls, hother, ?_⟩
    rintro rfl
    have hearlier := hlater front
    rw [hcalls] at hearlier
    exact hnew (hearlier.of_resolved.mem_once hon hopens hreach)
  · rintro front event after path asked rfl hact hname
    rw [← List.append_assoc] at hcrawl
    obtain ⟨t, d, harises⟩ := Stage.exists_arises hcrawl
    obtain ⟨-, rfl, rfl, hreach, more, hmore⟩ := harises.of_resolve hact
    obtain ⟨ps, hline⟩ := harises.line
    have hearlier := hlater front
    rw [← hreach.asked_opened] at hearlier hname
    have hmem := hearlier.mem_once hon hopens hreach
    exact ⟨t, d, ps, more, hreach, hline, rfl, rfl, .of_mem hname hmem, hmore⟩

def guarded : Provider Unit String where
  resolve _ path _ := .ok path
  fetch _ path _ :=
    match path with
    | "main" => .ok ("#include \"guard\"\n".toList, ())
    | "guard" => .ok ("#pragma once\n#include \"inner\"\n".toList, ())
    | "inner" => .ok ("#include \"guard\"\nx\n".toList, ())
    | _ => .error "no such header"

-- The guard is met again inside itself, with no room left below.
theorem passedOver_of_met_guarded :
    ∃ opening before rest, Opens guarded ⟨2, true, true⟩
        (expandFile guarded ⟨2, true, true⟩ "main" ()) opening "main" "#include \"guard\"\n".toList () ∧
      (expandFile guarded ⟨2, true, true⟩ "main" ()).events = opening ++ (before ++ rest) ∧
      Met guarded "main" "#include \"guard\"\n".toList ((opening ++ before).filterMap Event.call?)
        "guard" ∧
      (∀ front event after path asked, rest = front ++ event :: after →
        event.act = .call (.fetch path asked) →
        ∃ past other, (opening ++ (before ++ front)).filterMap Event.call? =
            past ++ [.resolve path asked] ∧
          guarded.resolve past path asked = .ok other ∧ other ≠ "guard") ∧
      ∃ t d, t.site.chain = ["main", "guard", "inner"] ∧ d.path = "guard" ∧
        PassedOver guarded ⟨2, true, true⟩ t d "guard" := by
  let opening : List (Event Unit) :=
    [⟨[], [], .call (.resolve "main" ())⟩, ⟨[], [], .call (.fetch "main" ())⟩]
  let before : List (Event Unit) :=
    [⟨["main"], [], .call (.resolve "guard" ())⟩, ⟨["main"], [], .call (.fetch "guard" ())⟩]
  let front : List (Event Unit) :=
    [⟨["main"], ["guard"], .enter "guard" 1⟩,
      ⟨["main", "guard"], ["guard"], .call (.resolve "inner" ())⟩,
      ⟨["main", "guard"], ["guard"], .call (.fetch "inner" ())⟩,
      ⟨["main", "guard"], ["guard"], .enter "inner" 2⟩]
  let again : Event Unit := ⟨["main", "guard", "inner"], ["guard"], .call (.resolve "guard" ())⟩
  let skip : Event Unit := ⟨["main", "guard", "inner"], ["guard"], .skip "guard" 1⟩
  have hopens : Opens guarded ⟨2, true, true⟩ (expandFile guarded ⟨2, true, true⟩ "main" ()) opening
      "main" "#include \"guard\"\n".toList () := .file rfl rfl
  have hevents : (expandFile guarded ⟨2, true, true⟩ "main" ()).events =
      opening ++ (before ++ (front ++ again :: [skip])) := by decide +kernel
  have hmet : Met guarded "main" "#include \"guard\"\n".toList
      ((opening ++ before).filterMap Event.call?) "guard" :=
    .inr ⟨"#pragma once\n#include \"inner\"\n".toList,
      ⟨[.resolve "main" (), .fetch "main" ()], "guard", (), (), List.prefix_rfl, rfl, rfl⟩,
      by decide +kernel⟩
  obtain ⟨hfetch, hline⟩ := passedOver_of_met rfl hopens hevents hmet
  obtain ⟨t, d, ps, more, -, -, hpath, -, hpassed, hmore⟩ :=
    hline front again [skip] "guard" () rfl rfl rfl
  rw [hpassed.walk] at hmore
  have hchain : again.chain = t.site.chain := congrArg Event.chain (List.cons.inj hmore).1
  exact ⟨opening, before, front ++ again :: [skip], hopens, hevents, hmet, hfetch, t, d, hchain.symm,
    hpath, hpassed⟩

end ShaderSources
