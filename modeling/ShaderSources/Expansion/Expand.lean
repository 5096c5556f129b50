import ShaderSources.Expansion.Basic
import ShaderSources.Expansion.Provider
import ShaderSources.Expansion.Walk
import ShaderSources.Source.Passage
import ShaderSources.Source.PragmaOnce

namespace ShaderSources

/-- What a crawl knows of itself: the names to be expanded only once, and the calls so far. -/
structure Memory (Context : Type) where
  once : List String
  asked : List (Call Context)

namespace Memory

variable {Context : Type}

def ask (memory : Memory Context) (call : Call Context) : Memory Context :=
  { memory with asked := memory.asked ++ [call] }

def resolved (memory : Memory Context) (d : Source.Directive) (context : Context) :
    Memory Context :=
  memory.ask (.resolve d.path context)

def fetched (memory : Memory Context) (d : Source.Directive) (context : Context) :
    Memory Context :=
  (memory.resolved d context).ask (.fetch d.path context)

end Memory

structure Site (Context : Type) where
  outer : List String
  file : String
  context : Context

namespace Site

variable {Context : Type}

def chain (site : Site Context) : List String := site.outer ++ [site.file]

def inside (site : Site Context) (name : String) (context : Context) : Site Context :=
  ⟨site.chain, name, context⟩

def event (site : Site Context) (memory : Memory Context) (act : Act Context) : Event Context :=
  ⟨site.chain, memory.once, act⟩

end Site

inductive Followed (Context : Type)
  | skipped (name : String)
  | nested (name : String) (source : Text) (context : Context) (inner : Expansion Context)

def Followed.cons {Context : Type} (d : Source.Directive) (rest : Expansion Context) :
    Followed Context → Expansion Context
  | skipped name => .skipped d name rest
  | nested name source context inner => .nested d name source context inner rest

section

variable {Context Fault : Type}

def ask {α : Type} (chain once : List String) (line : Option Int) (path : String)
    (call : Call Context) (answer : Except Fault α) : Walk Context Fault α :=
  ⟨[⟨chain, once, .call call⟩], answer.mapError fun cause =>
    .provider path chain.getLast? line (chain ++ [path]) (some cause)⟩

def remember (options : Options) (name : String) (source : Text) (memory : Memory Context) :
    Memory Context :=
  if options.pragmaOnce && Source.hasPragmaOnce source then
    { memory with once := name :: memory.once }
  else memory

def expandPassages (into : Source.Directive → Memory Context →
      Walk Context Fault (Followed Context × Memory Context)) (file : String) :
    List Source.Passage → Memory Context → Walk Context Fault (Expansion Context × Memory Context)
  | [], memory => return (.done, memory)
  | .verbatim start text :: rest, memory =>
    (expandPassages into file rest memory).map fun (rest, after) => (.verbatim start text rest, after)
  | .directive d :: rest, memory => do
    let (followed, memory) ← into d memory
    (expandPassages into file rest memory).map fun (rest, after) => (followed.cons d rest, after)
  | .malformed line m :: _, _ => Walk.fail (.malformed file line m.reason)

variable (provider : Provider Context Fault) (options : Options)

/-- Follows an include line; `room` tells how many levels deeper an expansion may go. A name that is to
be expanded only once is skipped when it is met again; after that come the test for a cycle and the
test for the depth, and only then is the source fetched. -/
def follow (room : Nat) (site : Site Context) (d : Source.Directive) (memory : Memory Context) :
    Walk Context Fault (Followed Context × Memory Context) := do
  let name ← ask site.chain memory.once d.line d.path (.resolve d.path site.context)
    (provider.resolve memory.asked d.path site.context)
  if name ∈ memory.once then
    Walk.note (site.event memory (.skip name d.line))
    return (.skipped name, memory.resolved d site.context)
  else if options.detectCycles && site.chain.contains name then
    Walk.fail (.cycle name site.file d.line (site.chain ++ [name]))
  else
    match room with
    | 0 => Walk.fail (.depth name options.maxDepth (site.chain ++ [name]))
    | room + 1 =>
      let (source, context) ← ask site.chain memory.once d.line d.path (.fetch d.path site.context)
        (provider.fetch (memory.resolved d site.context).asked d.path site.context)
      let memory := remember options name source (memory.fetched d site.context)
      Walk.note (site.event memory (.enter name d.line))
      let (inner, memory) ← expandPassages (follow room (site.inside name context)) name
        (Source.passages source) memory
      return (.nested name source context inner, memory)

/-- Expands a source under a name, which counts as met, behind the calls that led to it. -/
def expandBehind (asked : List (Call Context)) (name : String) (source : Text) (context : Context) :
    Walk Context Fault (Root Context) := do
  let site : Site Context := ⟨[], name, context⟩
  let (expansion, _) ← expandPassages (follow provider options options.maxDepth.toNat site) name
    (Source.passages source) (remember options name source ⟨[], asked⟩)
  return ⟨name, source, context, expansion⟩

def expandSource (name : String) (source : Text) (context : Context) :
    Walk Context Fault (Root Context) :=
  expandBehind provider options [] name source context

def expandFile (path : String) (context : Context) : Walk Context Fault (Root Context) := do
  let name ← ask [] [] none path (.resolve path context) (provider.resolve [] path context)
  let (source, child) ← ask [] [] none path (.fetch path context)
    (provider.fetch [.resolve path context] path context)
  expandBehind provider options [.resolve path context, .fetch path context] name source child

end

end ShaderSources
