import ShaderSources.Config.Settings
import ShaderSources.Note
import ShaderSources.Problem
import ShaderSources.Provider.Catalog
import ShaderSources.Provider.Script

namespace ShaderSources

structure Surroundings where
  tree : FileTree
  environment : Config.Environment
  reader : Config.Reader
  decoders : String → Decoder

namespace Surroundings

def loadNotes (s : Surroundings) (root : Option Path) : List Note :=
  match Config.overlayFile? s.tree root with
  | .ok (some (path, _)) => [.overlay path]
  | _ => []

def settings (s : Surroundings) (root : Option Path) : Except Problem Config.Settings :=
  (Config.settings s.reader s.tree s.environment root).mapError .ofLoad

def search (s : Surroundings) (includeDirs : List Path) (encoding : String) : FileSearch :=
  ⟨s.tree, includeDirs, s.decoders encoding⟩

end Surroundings

inductive Supply
  | catalog (catalog : Catalog)
  | script (script : Script)
  | sourcesOnly (script : Script)
  | files (includeDirs : List Path) (encoding : String)

inductive SupplyPlan
  | ready (supply : Supply)
  | files (includeDirs : Option (List Path)) (encoding : Option String) (root : Option Path)

namespace Supply

def provider (s : Surroundings) : Supply → Provider Value Fault
  | catalog c => c.provider
  | script table => table.provider
  | sourcesOnly table => table.sourcesOnly
  | files includeDirs encoding => (s.search includeDirs encoding).provider

def reply (s : Surroundings) (path : String) (context : Value) : Supply → Except Fault Reply
  | catalog c => c.reply path context
  | script table => table.reply path context
  | sourcesOnly table => table.reply path context
  | files includeDirs encoding => do
    let (source, child) ← (s.search includeDirs encoding).fetch path context
    return .pair (.text (String.ofList source)) child

def fetchNotes (s : Surroundings) (path : String) (context : Value) : Supply → List Note
  | files includeDirs encoding => Note.ofSearch (s.search includeDirs encoding) path context
  | _ => []

def isRecorded : Supply → Bool
  | script _ => true
  | sourcesOnly _ => true
  | _ => false

def recorded (call : Call Value) : Supply → List (Call Value)
  | script _ => [call]
  | sourcesOnly _ => match call with
    | .fetch .. => [call]
    | .resolve .. => []
  | _ => []

def calls (supply : Supply) (events : List (Event Value)) : List (Call Value) :=
  (events.filterMap Event.call?).flatMap fun call => supply.recorded call

def notes (s : Surroundings) (supply : Supply) (events : List (Event Value)) : List Note :=
  events.flatMap (Note.ofEvent fun path context => supply.fetchNotes s path context)

end Supply

namespace SupplyPlan

def needsSettings : SupplyPlan → Bool
  | files none _ _ => true
  | files _ none _ => true
  | _ => false

def root : SupplyPlan → Option Path
  | files _ _ root => root
  | _ => none

def notes (plan : SupplyPlan) (s : Surroundings) : List Note :=
  if plan.needsSettings then s.loadNotes plan.root else []

def setUp (plan : SupplyPlan) (s : Surroundings) : Except Problem Supply :=
  match plan with
  | ready supply => .ok supply
  | files (some includeDirs) (some encoding) _ => .ok (.files includeDirs encoding)
  | files includeDirs encoding root => do
    let settings ← s.settings root
    return .files (includeDirs.getD settings.includeDirs) (encoding.getD settings.encoding)

end SupplyPlan

/-- The options that are asked for; what is left open comes from the configuration. A configuration
of its own, with or without a root, is always loaded. -/
structure OptionsPlan where
  maxDepth : Option Int
  detectCycles : Option Bool
  pragmaOnce : Option Bool
  ownRoot : Option (Option Path)

namespace OptionsPlan

def needsSettings (plan : OptionsPlan) : Bool :=
  plan.ownRoot.isSome || plan.maxDepth.isNone || plan.detectCycles.isNone ||
    plan.pragmaOnce.isNone

def notes (plan : OptionsPlan) (s : Surroundings) : List Note :=
  if plan.needsSettings then s.loadNotes (plan.ownRoot.getD none) else []

def setUp (plan : OptionsPlan) (s : Surroundings) : Except Problem Options :=
  match plan with
  | ⟨some maxDepth, some detectCycles, some pragmaOnce, none⟩ =>
    .ok ⟨maxDepth, detectCycles, pragmaOnce⟩
  | ⟨maxDepth, detectCycles, pragmaOnce, ownRoot⟩ => do
    let settings ← s.settings (ownRoot.getD none)
    return ⟨maxDepth.getD settings.maxDepth, detectCycles.getD settings.detectCycles,
      pragmaOnce.getD settings.pragmaOnce⟩

end OptionsPlan

end ShaderSources
