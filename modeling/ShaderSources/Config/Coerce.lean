import ShaderSources.Text.Lowercase
import ShaderSources.Value.Json

namespace ShaderSources.Config

def readBool? (text : Text) : Option Bool :=
  let low := Text.lower (Text.trim text)
  if low = "true".toList then some true else if low = "false".toList then some false else none

def isBracketed (text : Text) : Bool :=
  (text.head? = some '\x7b' && Text.endsWith text '\x7d') ||
    (text.head? = some '[' && Text.endsWith text ']')

def readBracketed? (text : Text) : Option Value :=
  let inner := Text.trim text
  if isBracketed inner then Json.read? inner else none

def coerce (text : Text) : Except Numeral.Fault Value :=
  match readBool? text with
  | some b => .ok (.bool b)
  | none =>
    if Numeral.isSigned (Text.trim text) then do
      let n ← Numeral.readInt text
      return .int n
    else match readBracketed? text with
      | some value => .ok value
      | none => .ok (.text (String.ofList (Text.trim text)))

end ShaderSources.Config
