import ShaderSources.Yaml.Cursor
import ShaderSources.Yaml.Fault

namespace ShaderSources.Yaml

inductive Token
  | documentStart
  | documentEnd
  | blockSequenceStart
  | blockMappingStart
  | blockEnd
  | flowSequenceStart
  | flowSequenceEnd
  | flowMappingStart
  | flowMappingEnd
  | blockEntry
  | flowEntry
  | key
  | value
  | reference (name : String)
  | anchor (name : String)
  | scalar (text : Text) (plain : Bool)
  deriving DecidableEq, Repr

structure Tokens where
  list : List Token
  fault : Option Fault
  deriving DecidableEq, Repr

/-- A token that turns out to be a key if a colon follows. -/
structure PossibleKey where
  position : Nat
  required : Bool
  index : Nat
  line : Nat
  column : Nat

structure Lexer where
  cursor : Cursor
  tokens : List Token
  flowLevel : Nat
  indent : Int
  indents : List Int
  keyAllowed : Bool
  keys : List (Nat × PossibleKey)

def maxKeyLength : Nat := 1024

namespace Lexer

def start (text : Text) : Lexer := ⟨.start text, [], 0, -1, [], true, []⟩

def inFlow (lexer : Lexer) : Bool := lexer.flowLevel != 0

def emit (lexer : Lexer) (token : Token) : Lexer := { lexer with tokens := lexer.tokens ++ [token] }

def insertAt (lexer : Lexer) (position : Nat) (token : Token) : Lexer :=
  { lexer with tokens := lexer.tokens.take position ++ token :: lexer.tokens.drop position }

def advance (lexer : Lexer) (n : Nat) : Lexer := { lexer with cursor := lexer.cursor.advance n }

def column (lexer : Lexer) : Int := lexer.cursor.column

def skipToToken : Nat → Lexer → Lexer
  | 0, lexer => lexer
  | fuel + 1, lexer =>
    let cursor := (lexer.cursor.span (· = ' ')).2
    let cursor := if cursor.peek 0 = '#' then (cursor.span fun c => !isBreak c).2 else cursor
    match cursor.lineBreak? with
    | none => { lexer with cursor := cursor }
    | some (_, cursor) =>
      skipToToken fuel
        { lexer with cursor := cursor, keyAllowed := lexer.keyAllowed || !lexer.inFlow }

def isStale (lexer : Lexer) (key : PossibleKey) : Bool :=
  key.line != lexer.cursor.line || key.index + maxKeyLength < lexer.cursor.index

def dropStaleKeys (lexer : Lexer) : Except Fault Lexer :=
  if lexer.keys.any fun key => lexer.isStale key.2 && key.2.required then .error .illFormed
  else .ok { lexer with keys := lexer.keys.filter fun key => !lexer.isStale key.2 }

def keyHere? (lexer : Lexer) : Option PossibleKey := lexer.keys.lookup lexer.flowLevel

def withoutKeyHere (lexer : Lexer) : Lexer :=
  { lexer with keys := lexer.keys.filter fun key => key.1 != lexer.flowLevel }

def dropKeyHere (lexer : Lexer) : Except Fault Lexer :=
  match lexer.keyHere? with
  | some key => if key.required then .error .illFormed else .ok lexer.withoutKeyHere
  | none => .ok lexer

def saveKey (lexer : Lexer) : Except Fault Lexer :=
  if lexer.keyAllowed then do
    let lexer ← lexer.dropKeyHere
    let required := !lexer.inFlow && lexer.indent == lexer.column
    let key : PossibleKey :=
      ⟨lexer.tokens.length, required, lexer.cursor.index, lexer.cursor.line, lexer.cursor.column⟩
    return { lexer with keys := (lexer.flowLevel, key) :: lexer.keys }
  else .ok lexer

def unwindAll (column : Int) : List Int → Lexer → Lexer
  | [], lexer => lexer
  | outer :: rest, lexer =>
    if column < lexer.indent then
      unwindAll column rest { lexer.emit .blockEnd with indent := outer, indents := rest }
    else lexer

def unwind (lexer : Lexer) (column : Int) : Lexer :=
  if lexer.inFlow then lexer else unwindAll column lexer.indents lexer

def addIndent (lexer : Lexer) (column : Int) : Bool × Lexer :=
  if lexer.indent < column then
    (true, { lexer with indent := column, indents := lexer.indent :: lexer.indents })
  else (false, lexer)

def fetchMarker (lexer : Lexer) (token : Token) : Except Fault Lexer := do
  let lexer ← (lexer.unwind (-1)).dropKeyHere
  return ({ lexer with keyAllowed := false }.advance 3).emit token

def fetchFlowStart (lexer : Lexer) (token : Token) : Except Fault Lexer := do
  let lexer ← lexer.saveKey
  return ({ lexer with flowLevel := lexer.flowLevel + 1, keyAllowed := true }.advance 1).emit token

def fetchFlowEnd (lexer : Lexer) (token : Token) : Except Fault Lexer := do
  if !lexer.inFlow then throw .illFormed
  let lexer ← lexer.dropKeyHere
  return ({ lexer with flowLevel := lexer.flowLevel - 1, keyAllowed := false }.advance 1).emit token

def fetchFlowEntry (lexer : Lexer) : Except Fault Lexer := do
  let lexer ← { lexer with keyAllowed := true }.dropKeyHere
  return (lexer.advance 1).emit .flowEntry

def openBlock (lexer : Lexer) (token : Token) : Except Fault Lexer :=
  if lexer.inFlow then .ok lexer
  else if !lexer.keyAllowed then .error .illFormed
  else match lexer.addIndent lexer.column with
    | (true, lexer) => .ok (lexer.emit token)
    | (false, lexer) => .ok lexer

def fetchBlockEntry (lexer : Lexer) : Except Fault Lexer := do
  let lexer ← lexer.openBlock .blockSequenceStart
  let lexer ← { lexer with keyAllowed := true }.dropKeyHere
  return (lexer.advance 1).emit .blockEntry

def fetchKey (lexer : Lexer) : Except Fault Lexer := do
  let lexer ← lexer.openBlock .blockMappingStart
  let lexer ← { lexer with keyAllowed := !lexer.inFlow }.dropKeyHere
  return (lexer.advance 1).emit .key

def insertKey (lexer : Lexer) (key : PossibleKey) : Lexer :=
  let lexer := lexer.withoutKeyHere.insertAt key.position .key
  let lexer := { lexer with keyAllowed := false }
  if lexer.inFlow then lexer
  else match lexer.addIndent key.column with
    | (true, lexer) => lexer.insertAt key.position .blockMappingStart
    | (false, lexer) => lexer

def fetchValue (lexer : Lexer) : Except Fault Lexer :=
  match lexer.keyHere? with
  | some key => .ok (((lexer.insertKey key).advance 1).emit .value)
  | none => do
    let lexer ← lexer.openBlock .blockMappingStart
    let lexer ← { lexer with keyAllowed := !lexer.inFlow }.dropKeyHere
    return (lexer.advance 1).emit .value

def isNameChar (c : Char) : Bool :=
  ('0' ≤ c && c ≤ '9') || ('A' ≤ c && c ≤ 'Z') || ('a' ≤ c && c ≤ 'z') || c = '-' || c = '_'

def endsName (c : Char) : Bool := isGap c || "?:,]\x7d%@\x60".toList.contains c

def fetchName (lexer : Lexer) (token : String → Token) : Except Fault Lexer := do
  let lexer ← lexer.saveKey
  let (name, cursor) := lexer.cursor.step.span isNameChar
  if name.isEmpty || !endsName (cursor.peek 0) then throw .illFormed
  return { lexer with cursor := cursor, keyAllowed := false }.emit (token (String.ofList name))

def plainBreaks : Nat → Cursor → Option Text × Cursor
  | 0, cursor => (none, cursor)
  | fuel + 1, cursor =>
    if cursor.peek 0 = ' ' then plainBreaks fuel cursor.step
    else match cursor.lineBreak? with
      | none => (some [], cursor)
      | some (c, cursor) =>
        if cursor.atDocumentMarker then (none, cursor)
        else
          let (breaks, cursor) := plainBreaks fuel cursor
          (breaks.map (c :: ·), cursor)

def folded (c : Char) (breaks : Text) : Text :=
  if c != '\n' then c :: breaks else if breaks.isEmpty then [' '] else breaks

def plainSpaces (cursor : Cursor) : Text × Cursor × Bool :=
  let (spaces, cursor) := cursor.span (· = ' ')
  match cursor.lineBreak? with
  | none => (spaces, cursor, false)
  | some (c, cursor) =>
    if cursor.atDocumentMarker then ([], cursor, true)
    else match plainBreaks (cursor.rest.length + 1) cursor with
      | (none, cursor) => ([], cursor, true)
      | (some breaks, cursor) => (folded c breaks, cursor, true)

def plainWord (flow : Bool) : Text → Text
  | [] => []
  | c :: rest =>
    let next := rest.headD '\x00'
    if isGap c || (c = ':' && (isGap next || (flow && ",[]\x7b\x7d".toList.contains next))) ||
        (flow && ",?[]\x7b\x7d".toList.contains c) then []
    else c :: plainWord flow rest

def plainText (flow : Bool) (indent : Int) : Nat → Cursor → Text → Text × Cursor × Bool
  | 0, cursor, _ => ([], cursor, false)
  | fuel + 1, cursor, spaces =>
    let word := plainWord flow cursor.rest
    if cursor.peek 0 = '#' || word.isEmpty then ([], cursor, false)
    else
      let (gap, cursor, broken) := plainSpaces (cursor.advance word.length)
      if gap.isEmpty || cursor.peek 0 = '#' || (!flow && (cursor.column : Int) < indent) then
        (spaces ++ word, cursor, broken)
      else
        let (more, cursor, again) := plainText flow indent fuel cursor gap
        (spaces ++ word ++ more, cursor, if more.isEmpty then broken else again)

def fetchPlain (lexer : Lexer) : Except Fault Lexer := do
  let lexer ← lexer.saveKey
  let (text, cursor, broken) := plainText lexer.inFlow (lexer.indent + 1)
    (lexer.cursor.rest.length + 1) lexer.cursor []
  return { lexer with cursor := cursor, keyAllowed := broken }.emit (.scalar text true)

def isQuotedStop (c : Char) : Bool := c = '\'' || c = '"' || c = '\\' || isGap c

def simpleEscapes : List (Char × Char) :=
  [('0', '\x00'), ('a', '\x07'), ('b', '\x08'), ('t', '\t'), ('\t', '\t'), ('n', '\n'),
   ('v', '\x0b'), ('f', '\x0c'), ('r', '\r'), ('e', '\x1b'), (' ', ' '), ('"', '"'),
   ('\\', '\\'), ('/', '/'), ('N', nextLine), ('_', Char.ofNat 0xA0), ('L', lineSeparator),
   ('P', paragraphSeparator)]

def hexEscapes : List (Char × Nat) := [('x', 2), ('u', 4), ('U', 8)]

def hexDigit? (c : Char) : Option Nat :=
  if '0' ≤ c && c ≤ '9' then some (c.toNat - '0'.toNat)
  else if 'a' ≤ c && c ≤ 'f' then some (c.toNat - 'a'.toNat + 10)
  else if 'A' ≤ c && c ≤ 'F' then some (c.toNat - 'A'.toNat + 10)
  else none

def quotedBreaks : Nat → Cursor → Except Fault (Text × Cursor)
  | 0, _ => .error .illFormed
  | fuel + 1, cursor =>
    if cursor.atDocumentMarker then .error .illFormed
    else
      let cursor := (cursor.span fun c => c = ' ' || c = '\t').2
      match cursor.lineBreak? with
      | none => .ok ([], cursor)
      | some (c, cursor) => do
        let (breaks, cursor) ← quotedBreaks fuel cursor
        return (c :: breaks, cursor)

def readEscape (cursor : Cursor) : Except Fault (Text × Cursor) :=
  let c := cursor.peek 0
  if cursor.atEnd then .error .illFormed
  else match simpleEscapes.lookup c with
    | some meant => .ok ([meant], cursor.step)
    | none => match hexEscapes.lookup c with
      | some size => do
        let digits := (cursor.step.rest.take size).filterMap hexDigit?
        if digits.length != size then throw .illFormed
        let meant ← (Numeral.readCodePoint (Numeral.ofDigits 16 digits)).mapError .numeral
        return ([meant], cursor.step.advance size)
      | none => match cursor.lineBreak? with
        | some (_, cursor) => quotedBreaks (cursor.rest.length + 1) cursor
        | none => .error .illFormed

def quotedSpaces (cursor : Cursor) : Except Fault (Text × Cursor) :=
  let (spaces, cursor) := cursor.span fun c => c = ' ' || c = '\t'
  match cursor.lineBreak? with
  | none => .ok (spaces, cursor)
  | some (c, cursor) => do
    let (breaks, cursor) ← quotedBreaks (cursor.rest.length + 1) cursor
    return (folded c breaks, cursor)

def quotedText (double : Bool) : Nat → Cursor → Except Fault (Text × Cursor)
  | 0, _ => .error .illFormed
  | fuel + 1, cursor =>
    let (word, cursor) := cursor.span fun c => !isQuotedStop c
    let c := cursor.peek 0
    if cursor.atEnd then .error .illFormed
    else if !double && c = '\'' && cursor.peek 1 = '\'' then do
      let (more, cursor) ← quotedText double fuel (cursor.advance 2)
      return (word ++ '\'' :: more, cursor)
    else if c = (if double then '"' else '\'') then .ok (word, cursor.step)
    else if c = '\'' || c = '"' || (!double && c = '\\') then do
      let (more, cursor) ← quotedText double fuel cursor.step
      return (word ++ c :: more, cursor)
    else do
      let (part, cursor) ← if c = '\\' then readEscape cursor.step else quotedSpaces cursor
      let (more, cursor) ← quotedText double fuel cursor
      return (word ++ part ++ more, cursor)

def fetchQuoted (lexer : Lexer) (double : Bool) : Except Fault Lexer := do
  let lexer ← lexer.saveKey
  let (text, cursor) ← quotedText double (lexer.cursor.rest.length + 1) lexer.cursor.step
  return { lexer with cursor := cursor, keyAllowed := false }.emit (.scalar text false)

def indicators : Text := "-?:,[]\x7b\x7d#&*!|>'\"%@\x60".toList

def startsPlain (lexer : Lexer) : Bool :=
  let c := lexer.cursor.peek 0
  !(isGap c || indicators.contains c) ||
    (!isGap (lexer.cursor.peek 1) && (c = '-' || (!lexer.inFlow && (c = '?' || c = ':'))))

def fetch (lexer : Lexer) : Except Fault Lexer :=
  let c := lexer.cursor.peek 0
  let open? := lexer.inFlow || isGap (lexer.cursor.peek 1)
  if lexer.cursor.column = 0 && lexer.cursor.atMarker '-' then lexer.fetchMarker .documentStart
  else if lexer.cursor.column = 0 && lexer.cursor.atMarker '.' then lexer.fetchMarker .documentEnd
  else if c = '[' then lexer.fetchFlowStart .flowSequenceStart
  else if c = '\x7b' then lexer.fetchFlowStart .flowMappingStart
  else if c = ']' then lexer.fetchFlowEnd .flowSequenceEnd
  else if c = '\x7d' then lexer.fetchFlowEnd .flowMappingEnd
  else if c = ',' then lexer.fetchFlowEntry
  else if c = '-' && isGap (lexer.cursor.peek 1) then lexer.fetchBlockEntry
  else if c = '?' && open? then lexer.fetchKey
  else if c = ':' && open? then lexer.fetchValue
  else if c = '*' then lexer.fetchName .reference
  else if c = '&' then lexer.fetchName .anchor
  else if c = '\'' then lexer.fetchQuoted false
  else if c = '"' then lexer.fetchQuoted true
  else if lexer.startsPlain then lexer.fetchPlain
  else .error .illFormed

def next (lexer : Lexer) : Except Fault (Lexer × Bool) := do
  let lexer ← (skipToToken (lexer.cursor.rest.length + 1) lexer).dropStaleKeys
  let lexer := lexer.unwind lexer.column
  if lexer.cursor.atEnd then return (← (lexer.unwind (-1)).dropKeyHere, true)
  else return (← lexer.fetch, false)

def settled (lexer : Lexer) : List Token :=
  let open? := lexer.keys.filter fun key => !lexer.isStale key.2
  lexer.tokens.take (open?.foldl (fun n key => min n key.2.position) lexer.tokens.length)

def run : Nat → Lexer → Tokens
  | 0, lexer => ⟨lexer.settled, some .illFormed⟩
  | fuel + 1, lexer =>
    match lexer.next with
    | .error fault => ⟨lexer.settled, some fault⟩
    | .ok (lexer, true) => ⟨lexer.tokens, none⟩
    | .ok (lexer, false) => run fuel lexer

end Lexer

def isAllowed (c : Char) : Bool :=
  c = '\t' || c = '\n' || c = '\r' || c = nextLine || (' ' ≤ c && c ≤ '~') ||
    (0xA0 ≤ c.toNat && c.toNat < 0xD800) || (0xE000 ≤ c.toNat && c.toNat ≤ 0xFFFD) ||
    0x10000 ≤ c.toNat

def Tokens.ofText (text : Text) : Tokens :=
  if text.all isAllowed then
    let lexer := Lexer.start text
    let lexer := if text.head? = some byteOrderMark then lexer.advance 1 else lexer
    Lexer.run (text.length + 2) lexer
  else ⟨[], some .illFormed⟩

end ShaderSources.Yaml
