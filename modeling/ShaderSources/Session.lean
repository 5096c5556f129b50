import ShaderSources.Compile.Shader
import ShaderSources.Expansion.Expand
import ShaderSources.Supply

namespace ShaderSources

structure Session where
  surroundings : Surroundings
  supply : Supply
  options : Options
  chunks : List (Chunk Value)
  calls : List (Call Value)
  notes : List Note

structure SourceEntry where
  value : Value
  scripted : ScriptedSource

inductive Step
  | file (path : String) (context : Value)
  | source (source : Text) (name : String) (context : Value)
  | crawler (plan : OptionsPlan)
  | options
  | provider (plan : SupplyPlan)
  | set (path : String) (entry : SourceEntry)
  | remove (path : String)
  | write (path : Path) (bytes : List UInt8)
  | delete (path : Path)
  | environment (changes : List (String × Option String))
  | settings (root : Option Path)
  | resolve (path : String) (context : Value)
  | fetch (path : String) (context : Value)
  | join
  | files
  | locate (line : Int)
  | locateOffset (offset : Int)
  | locateAll
  | compile (output : Compile.Output Value) (fault : Option Fault)

inductive Answer
  | chunks (chunks : List (Chunk Value))
  | options (options : Options)
  | settings (settings : Config.Settings)
  | search (includeDirs : List Path) (encoding : String)
  | done
  | removed (wasThere : Bool)
  | name (name : String)
  | reply (source context : Value)
  | text (text : Text)
  | files (files : List String)
  | line (place : FileLine)
  | lines (places : List FileLine)
  | point (place : FilePoint)
  | compiled (strings : List Text) (output : Compile.Output Value)

namespace Session

def setEntry {α : Type} (key : String) (value : α) : List (String × α) → List (String × α)
  | [] => [(key, value)]
  | entry :: rest =>
    if entry.1 = key then (key, value) :: rest else entry :: setEntry key value rest

def eraseEntry {α : Type} (key : String) (table : List (String × α)) : List (String × α) :=
  table.filter fun entry => entry.1 != key

def setSource (path : String) (entry : SourceEntry) : Supply → Supply
  | .catalog c => .catalog ⟨setEntry path entry.value c.sources⟩
  | .script s => .script { s with sources := setEntry path entry.scripted s.sources }
  | .sourcesOnly s => .sourcesOnly { s with sources := setEntry path entry.scripted s.sources }
  | supply => supply

def removeSource (path : String) : Supply → Bool × Supply
  | .catalog c =>
    ((c.sources.lookup path).isSome, .catalog ⟨eraseEntry path c.sources⟩)
  | .script s =>
    ((s.sources.lookup path).isSome, .script { s with sources := eraseEntry path s.sources })
  | .sourcesOnly s =>
    ((s.sources.lookup path).isSome, .sourcesOnly { s with sources := eraseEntry path s.sources })
  | supply => (false, supply)

def changeEnvironment (changes : List (String × Option String)) (environment : Config.Environment) :
    Config.Environment :=
  changes.foldl (fun environment change => match change.2 with
    | some text => setEntry change.1 text environment
    | none => eraseEntry change.1 environment) environment

def tree (session : Session) : FileTree := session.surroundings.tree

def provider (session : Session) : Provider Value Fault := session.supply.provider session.surroundings

def note (session : Session) (notes : List Note) : Session :=
  { session with notes := session.notes ++ notes }

def record (session : Session) (events : List (Event Value)) : Session :=
  { session with
    calls := session.calls ++ session.supply.calls events
    notes := session.notes ++ session.supply.notes session.surroundings events }

def recordCall (session : Session) (call : Call Value) : Session :=
  { session with calls := session.calls ++ session.supply.recorded call }

def take (session : Session) (walk : Walk Value Fault (Root Value)) :
    Except Problem Answer × Session :=
  let session := session.record walk.events
  match walk.result with
  | .ok root => (.ok (.chunks root.chunks), { session with chunks := root.chunks })
  | .error error => (.error (.includeFailed error), session)

def located {α : Type} (found : Except Outside α) (answer : α → Answer) : Except Problem Answer :=
  match found with
  | .ok place => .ok (answer place)
  | .error position => .error (.outside position)

def supplyAnswer : Supply → Answer
  | .files includeDirs encoding => .search includeDirs encoding
  | _ => .done

def compileChunks (chunks : List (Chunk Value)) (output : Compile.Output Value)
    (fault : Option Fault) : Except Problem Answer × List Note :=
  match fault with
  | some f => (.error (.fault f), [])
  | none =>
    let notes := if output.log.isSome then [Note.relocating chunks.length] else []
    match Compile.located chunks output with
    | .ok output => (.ok (.compiled (Compile.strings chunks) output), notes)
    | .error f => (.error (.numeral f), notes)

def replaceOptions (session : Session) (plan : OptionsPlan) : Except Problem Answer × Session :=
  let session := session.note (plan.notes session.surroundings)
  match plan.setUp session.surroundings with
  | .ok options => (.ok (.options options), { session with options := options })
  | .error problem => (.error problem, session)

def replaceSupply (session : Session) (plan : SupplyPlan) : Except Problem Answer × Session :=
  let session := session.note (plan.notes session.surroundings)
  match plan.setUp session.surroundings with
  | .ok supply => (.ok (supplyAnswer supply), { session with supply := supply, calls := [] })
  | .error problem => (.error problem, session)

def showSettings (session : Session) (root : Option Path) : Except Problem Answer × Session :=
  let session := session.note (session.surroundings.loadNotes root)
  (session.surroundings.settings root |>.map .settings, session)

def askName (session : Session) (path : String) (context : Value) :
    Except Problem Answer × Session :=
  ((session.provider.resolve [] path context).map Answer.name |>.mapError .fault,
    session.recordCall (.resolve path context))

def askSource (session : Session) (path : String) (context : Value) :
    Except Problem Answer × Session :=
  let answer := session.supply.reply session.surroundings path context >>= Reply.parts
  let session := (session.recordCall (.fetch path context)).note
    (session.supply.fetchNotes session.surroundings path context)
  (answer.map (fun parts => .reply parts.1 parts.2) |>.mapError .fault, session)

def withTree (session : Session) (tree : FileTree) : Session :=
  { session with surroundings := { session.surroundings with tree := tree } }

def perform (session : Session) : Step → Except Problem Answer × Session
  | .file path context =>
    session.take (expandFile session.provider session.options path context)
  | .source source name context =>
    session.take (expandSource session.provider session.options name source context)
  | .crawler plan => session.replaceOptions plan
  | .options => (.ok (.options session.options), session)
  | .provider plan => session.replaceSupply plan
  | .set path entry => (.ok .done, { session with supply := setSource path entry session.supply })
  | .remove path =>
    let (wasThere, supply) := removeSource path session.supply
    (.ok (.removed wasThere), { session with supply := supply })
  | .write path bytes => (.ok .done, session.withTree (session.tree.addFile path bytes))
  | .delete path => (.ok .done, session.withTree (session.tree.remove path))
  | .environment changes =>
    let environment := changeEnvironment changes session.surroundings.environment
    (.ok .done,
      { session with surroundings := { session.surroundings with environment := environment } })
  | .settings root => session.showSettings root
  | .resolve path context => session.askName path context
  | .fetch path context => session.askSource path context
  | .join => (.ok (.text (Chunk.join session.chunks)), session)
  | .files => (.ok (.files (Chunk.files session.chunks)), session)
  | .locate line => (located (Chunk.locate session.chunks line) .line, session)
  | .locateOffset offset => (located (Chunk.locateOffset session.chunks offset) .point, session)
  | .locateAll => (located (Chunk.locateAll session.chunks) .lines, session)
  | .compile output fault =>
    let (answer, notes) := compileChunks session.chunks output fault
    (answer, session.note notes)

def performAll (session : Session) : List Step → List (Except Problem Answer) × Session
  | [] => ([], session)
  | step :: steps =>
    let (answer, session) := session.perform step
    let (answers, session) := session.performAll steps
    (answer :: answers, session)

def start (surroundings : Surroundings) (supply : Supply) (notes : List Note)
    (plan : OptionsPlan) : Except Problem Session := do
  let options ← plan.setUp surroundings
  return ⟨surroundings, supply, options, [], [], notes ++ plan.notes surroundings⟩

end Session

end ShaderSources
