import ShaderSources.Text.Basic

namespace ShaderSources

inductive Call (Context : Type)
  | resolve (path : String) (context : Context)
  | fetch (path : String) (context : Context)
  deriving DecidableEq, Repr

/-- The answers may depend on the calls before them, oldest first. -/
structure Provider (Context Fault : Type) where
  resolve : List (Call Context) → String → Context → Except Fault String
  fetch : List (Call Context) → String → Context → Except Fault (Text × Context)

structure Options where
  maxDepth : Int
  detectCycles : Bool
  pragmaOnce : Bool
  deriving DecidableEq, Repr

end ShaderSources
