import ShaderSources.Chunk.Basic
import ShaderSources.Number.Numeral

namespace ShaderSources.Compile

variable {Context : Type}

def tag (n : Nat) : Text := "#line 0 ".toList ++ Numeral.writeNat n ++ ['\n']

def separator (previous : Text) : Text :=
  if previous = [] ∨ Text.endsWith previous '\n' then [] else ['\n']

def stringsAfter (n : Nat) (previous : Text) : List (Chunk Context) → List Text
  | [] => []
  | chunk :: chunks =>
    let current := separator previous ++ tag n ++ chunk.source
    current :: stringsAfter (n + 1) current chunks

def strings : List (Chunk Context) → List Text
  | [] => []
  | chunk :: chunks => chunk.source :: stringsAfter 2 chunk.source chunks

end ShaderSources.Compile
