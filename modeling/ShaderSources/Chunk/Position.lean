import ShaderSources.Chunk.Basic

namespace ShaderSources

structure FileLine where
  file : String
  line : Int
  deriving DecidableEq, Repr

structure FilePoint where
  file : String
  line : Int
  column : Nat
  deriving DecidableEq, Repr

inductive Outside
  | line (n : Int)
  | offset (n : Int)
  deriving DecidableEq, Repr

def Outside.message : Outside → String
  | line n => s!"line {n} is outside the mapped source"
  | offset n => s!"offset {n} is outside the mapped source"

namespace Chunk

variable {Context : Type}

def files (chunks : List (Chunk Context)) : List String :=
  chunks.foldl (fun seen chunk => if chunk.file ∈ seen then seen else seen ++ [chunk.file]) []

/-- The line and the offset at which each chunk starts in the joined text, and those behind the last
chunk. -/
structure Starts where
  lines : List Nat
  offsets : List Nat
  line : Nat
  offset : Nat

def Starts.push (starts : Starts) (chunk : Chunk Context) : Starts :=
  ⟨starts.lines ++ [starts.line], starts.offsets ++ [starts.offset],
    starts.line + chunk.source.count '\n', starts.offset + chunk.source.length⟩

def starts (chunks : List (Chunk Context)) : Starts := chunks.foldl Starts.push ⟨[], [], 1, 0⟩

def totalLines (chunks : List (Chunk Context)) : Nat :=
  let text := join chunks
  (starts chunks).line - 1 + if text ≠ [] ∧ ¬ Text.endsWith text '\n' then 1 else 0

def totalLength (chunks : List (Chunk Context)) : Nat := (starts chunks).offset

def bisectFrom (row : List Nat) (x low high : Nat) (h : high ≤ row.length) : Nat :=
  if hlow : low < high then
    if x < row[(low + high) / 2] then bisectFrom row x low ((low + high) / 2) (by omega)
    else bisectFrom row x ((low + high) / 2 + 1) high h
  else low
termination_by high - low

def bisectRight (row : List Nat) (x : Nat) : Nat := bisectFrom row x 0 row.length (Nat.le_refl _)

def backOver (row : List Nat) (x : Nat) : Nat → Nat
  | 0 => 0
  | index + 1 => if row[index]? = some x then backOver row x index else index + 1

def overEmpty (chunks : List (Chunk Context)) (index : Nat) : Nat :=
  if h : index + 1 < chunks.length then
    if chunks[index].source = [] then overEmpty chunks (index + 1) else index
  else index
termination_by chunks.length - index

def locate (chunks : List (Chunk Context)) (line : Int) : Except Outside FileLine :=
  if line < 1 ∨ totalLines chunks < line then .error (.line line)
  else
    let row := (starts chunks).lines
    let index := backOver row line.toNat (bisectRight row line.toNat - 1)
    match chunks[index]?, row[index]? with
    | some chunk, some start => .ok ⟨chunk.file, chunk.line + (line - start)⟩
    | _, _ => .error (.line line)

def columnAfter (text : Text) : Nat := (text.reverse.takeWhile (· ≠ '\n')).length

def locateOffset (chunks : List (Chunk Context)) (offset : Int) : Except Outside FilePoint :=
  if offset < 0 ∨ totalLength chunks ≤ offset then .error (.offset offset)
  else
    let row := (starts chunks).offsets
    let index := overEmpty chunks (bisectRight row offset.toNat - 1)
    match chunks[index]?, row[index]? with
    | some chunk, some start =>
      let before := chunk.source.take (offset.toNat - start)
      .ok ⟨chunk.file, chunk.line + before.count '\n', columnAfter before⟩
    | _, _ => .error (.offset offset)

def locateAll (chunks : List (Chunk Context)) : Except Outside (List FileLine) :=
  (List.range (totalLines chunks)).mapM fun (k : Nat) => locate chunks (k + 1)

end Chunk

end ShaderSources
