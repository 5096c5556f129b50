import ShaderSources.Compile.Log
import ShaderSources.Compile.Strings

namespace ShaderSources.Compile

variable {Context Artifact : Type}

structure Output (Artifact : Type) where
  artifact : Artifact
  log : Option Text
  deriving Repr

def located (chunks : List (Chunk Context)) (output : Output Artifact) :
    Except Numeral.Fault (Output Artifact) :=
  match output.log with
  | none => .ok output
  | some log => do return { output with log := some (← relocate log chunks) }

end ShaderSources.Compile
