import ShaderSources.Expansion.Provider
import ShaderSources.Provider.Fault

namespace ShaderSources

inductive Reply
  | pair (source context : Value)
  | whole (value : Value)
  deriving Repr

namespace Reply

def twoParts : List Value → Except Fault (Value × Value)
  | [a, b] => .ok (a, b)
  | [] => .error (.tooFewParts 0)
  | [_] => .error (.tooFewParts 1)
  | _ => .error .tooManyParts

def parts : Reply → Except Fault (Value × Value)
  | pair source context => .ok (source, context)
  | whole (.list items) => twoParts items
  | whole (.text s) => twoParts (s.toList.map fun c => .text (String.singleton c))
  | whole (.mapping entries) => twoParts (entries.map fun entry => entry.1.toValue)
  | whole value => .error (.noParts value.kindName)

def accept (reply : Reply) : Except Fault (Text × Value) := do
  match ← reply.parts with
  | (.text s, context) => return (s.toList, context)
  | (source, _) => throw (.notText source.kindName)

end Reply

end ShaderSources
