import ShaderSources.Chunk.Basic
import ShaderSources.Number.Numeral

namespace ShaderSources.Compile

variable {Context : Type}

structure Location where
  string : Text
  line : Text
  length : Nat
  deriving DecidableEq, Repr

abbrev Spelling := Text → Option Location

def labelled : Spelling := fun text =>
  match Text.after? "ERROR:".toList text with
  | none => none
  | some rest =>
    let blanks := rest.takeWhile Text.isBlank
    let rest := rest.dropWhile Text.isBlank
    let string := rest.takeWhile Text.isDigit
    match rest.dropWhile Text.isDigit with
    | ':' :: rest =>
      let line := rest.takeWhile Text.isDigit
      if string.isEmpty || line.isEmpty then none
      else some ⟨string, line, 6 + blanks.length + string.length + 1 + line.length⟩
    | _ => none

def parenthesised : Spelling := fun text =>
  let string := text.takeWhile Text.isDigit
  match text.dropWhile Text.isDigit with
  | '(' :: rest =>
    let line := rest.takeWhile Text.isDigit
    match rest.dropWhile Text.isDigit with
    | ')' :: rest =>
      let blanks := rest.takeWhile Text.isBlank
      if string.isEmpty || line.isEmpty then none
      else some ⟨string, line, string.length + 1 + line.length + 1 + blanks.length⟩
    | _ => none
  | _ => none

/-- The chunk that a string number stands for: the strings 0 and 1 both are the first. -/
def chunkOf? (chunks : List (Chunk Context)) (n : Nat) : Option (Chunk Context) :=
  chunks[max n 1 - 1]?

def replacement? (chunks : List (Chunk Context)) (location : Location) :
    Except Numeral.Fault (Option Text) := do
  let n ← Numeral.readNat location.string
  match chunkOf? chunks n with
  | none => return none
  | some chunk =>
    let line ← Numeral.readNat location.line
    let shown ← Numeral.writeInt (line + chunk.lineOffset)
    return some (chunk.file.toList ++ '(' :: shown ++ [')'])

/-- Replaces the locations of one spelling. `skip` counts the characters of a replaced location
that are still to be passed over, `atStart` tells whether the text starts a line. -/
def relocateSpelled (spelling : Spelling) (chunks : List (Chunk Context)) :
    (skip : Nat) → (atStart : Bool) → Text → Except Numeral.Fault Text
  | _, _, [] => .ok []
  | skip + 1, _, c :: text => relocateSpelled spelling chunks skip (c = '\n') text
  | 0, atStart, c :: text =>
    match (if atStart then spelling (c :: text) else none) with
    | none => do
      let rest ← relocateSpelled spelling chunks 0 (c = '\n') text
      return c :: rest
    | some location => do
      let new ← replacement? chunks location
      let rest ← relocateSpelled spelling chunks (location.length - 1) (c = '\n') text
      return new.getD ((c :: text).take location.length) ++ rest

def relocate (log : Text) (chunks : List (Chunk Context)) : Except Numeral.Fault Text := do
  let log ← relocateSpelled labelled chunks 0 true log
  relocateSpelled parenthesised chunks 0 true log

end ShaderSources.Compile
