import ShaderSources.Text.Basic

namespace ShaderSources.Yaml

structure Cursor where
  rest : Text
  index : Nat
  line : Nat
  column : Nat

def lineSeparator : Char := Char.ofNat 0x2028
def paragraphSeparator : Char := Char.ofNat 0x2029
def nextLine : Char := Char.ofNat 0x85
def byteOrderMark : Char := Char.ofNat 0xFEFF

def isBreak (c : Char) : Bool :=
  c = '\n' || c = '\r' || c = nextLine || c = lineSeparator || c = paragraphSeparator

def isGap (c : Char) : Bool := c = '\x00' || c = ' ' || c = '\t' || isBreak c

namespace Cursor

def start (text : Text) : Cursor := ⟨text, 0, 0, 0⟩

def peek (cursor : Cursor) (n : Nat) : Char := cursor.rest.getD n '\x00'

def atEnd (cursor : Cursor) : Bool := cursor.rest.isEmpty

def step (cursor : Cursor) : Cursor :=
  match cursor.rest with
  | [] => cursor
  | c :: rest =>
    if isBreak c && !(c = '\r' && rest.head? = some '\n') then
      ⟨rest, cursor.index + 1, cursor.line + 1, 0⟩
    else
      ⟨rest, cursor.index + 1, cursor.line,
        if c = byteOrderMark then cursor.column else cursor.column + 1⟩

def advance (cursor : Cursor) : Nat → Cursor
  | 0 => cursor
  | n + 1 => cursor.step.advance n

def span (p : Char → Bool) (cursor : Cursor) : Text × Cursor :=
  let run := cursor.rest.takeWhile p
  (run, cursor.advance run.length)

def lineBreak? (cursor : Cursor) : Option (Char × Cursor) :=
  match cursor.rest with
  | '\r' :: '\n' :: _ => some ('\n', cursor.advance 2)
  | c :: _ =>
    if c = lineSeparator || c = paragraphSeparator then some (c, cursor.step)
    else if isBreak c then some ('\n', cursor.step)
    else none
  | [] => none

def atMarker (mark : Char) (cursor : Cursor) : Bool :=
  cursor.peek 0 = mark && cursor.peek 1 = mark && cursor.peek 2 = mark && isGap (cursor.peek 3)

def atDocumentMarker (cursor : Cursor) : Bool := cursor.atMarker '-' || cursor.atMarker '.'

end Cursor

end ShaderSources.Yaml
