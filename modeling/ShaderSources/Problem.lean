import ShaderSources.Chunk.Position
import ShaderSources.Config.Error
import ShaderSources.Expansion.Error
import ShaderSources.Provider.Fault

namespace ShaderSources

inductive Problem
  | stated (message : String) (facts : Entries)
  | includeFailed (error : IncludeError Fault)
  | config (error : ConfigError)
  | fault (fault : Fault)
  | numeral (fault : Numeral.Fault)
  | outside (position : Outside)
  deriving Repr

namespace Problem

def ofLoad : LoadError → Problem
  | .config error => .config error
  | .numeral f => .numeral f
  | .fault f => .fault f

def numeralKind (fault : Numeral.Fault) : FaultKind :=
  if fault.isOverflow then .overflow else .value

def label : Problem → String
  | stated _ _ => FaultKind.library.label
  | includeFailed (.malformed ..) => "IncludeParseError"
  | includeFailed (.provider ..) => "IncludeProviderError"
  | includeFailed (.cycle ..) => "RecursiveIncludeError"
  | includeFailed (.depth ..) => "IncludeDepthError"
  | config _ => FaultKind.configuration.label
  | fault f => f.kind.label
  | numeral f => (numeralKind f).label
  | outside _ => FaultKind.index.label

def message : Problem → String
  | stated message _ => message
  | includeFailed error => error.message Fault.causeText
  | config error => error.message
  | fault f => f.message
  | numeral f => f.message
  | outside position => position.message

def facts? : Problem → Option Entries
  | stated _ facts => some facts
  | includeFailed error => some (error.facts Fault.causeText)
  | config error => some error.facts
  | fault f => if f.kind = .library ∨ f.kind = .configuration then some [] else none
  | numeral _ => none
  | outside _ => none

def cause? : Problem → Option String
  | includeFailed (.provider _ _ _ _ (some cause)) => some cause.kind.label
  | config (.unreadableOverlay _) => some "YAMLError"
  | config (.invalid _ _) => some "ValidationError"
  | _ => none

def written (problem : Problem) : String := s!"{problem.label}({quotedString problem.message})"

def isValueProblem : Problem → Bool
  | config _ => true
  | numeral f => !f.isOverflow
  | fault f => f.kind = .value || f.kind = .configuration || f.kind = .unicode ||
      f.kind = .decoding
  | _ => false

def isLibraryProblem (problem : Problem) : Bool := problem.facts?.isSome

end Problem

end ShaderSources
