import ShaderSources.Chunk.Basic
import ShaderSources.Source.Directive

namespace ShaderSources

/-- What became of the passages of one source, from some passage on. -/
inductive Expansion (Context : Type)
  | done
  | verbatim (start : Nat) (text : Text) (rest : Expansion Context)
  | skipped (d : Source.Directive) (name : String) (rest : Expansion Context)
  | nested (d : Source.Directive) (name : String) (source : Text) (context : Context)
      (inner rest : Expansion Context)
  deriving Repr

structure Root (Context : Type) where
  name : String
  source : Text
  context : Context
  expansion : Expansion Context
  deriving Repr

variable {Context : Type}

def Expansion.chunks (file : String) (context : Context) :
    Expansion Context → List (Chunk Context)
  | done => []
  | verbatim start text rest => ⟨text, file, start, context⟩ :: rest.chunks file context
  | skipped _ _ rest => rest.chunks file context
  | nested _ name _ child inner rest => inner.chunks name child ++ rest.chunks file context

def Root.chunks (root : Root Context) : List (Chunk Context) :=
  root.expansion.chunks root.name root.context

end ShaderSources
