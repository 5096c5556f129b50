import ShaderSources.Text.Lines
import ShaderSources.Text.Quoted

namespace ShaderSources

structure Chunk (Context : Type) where
  source : Text
  file : String
  line : Int
  context : Context
  deriving DecidableEq, Repr

namespace Chunk

variable {Context : Type}

def lineOffset (chunk : Chunk Context) : Int := chunk.line - 1

def lineCount (chunk : Chunk Context) : Nat := Text.lineCount chunk.source

def ofFile (file : String) (source : Text) (context : Context) : Chunk Context :=
  ⟨source, file, 1, context⟩

/-- Equality of what a chunk says; the context says nothing about its text. -/
def same (a b : Chunk Context) : Bool :=
  a.source == b.source && a.file == b.file && a.line == b.line

def join (chunks : List (Chunk Context)) : Text := (chunks.map source).flatten

def written (chunk : Chunk Context) : String :=
  s!"SourceChunk(source={String.ofList (Text.quoted chunk.source)}, " ++
    s!"file={quotedString chunk.file}, line={chunk.line})"

@[simp] theorem join_nil : join ([] : List (Chunk Context)) = [] := rfl

@[simp] theorem join_cons (chunk : Chunk Context) (chunks : List (Chunk Context)) :
    join (chunk :: chunks) = chunk.source ++ join chunks := rfl

@[simp] theorem join_append (as bs : List (Chunk Context)) :
    join (as ++ bs) = join as ++ join bs := by
  simp [join]

end Chunk

end ShaderSources
