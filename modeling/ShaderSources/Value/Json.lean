import ShaderSources.Number.Numeral
import ShaderSources.Value.Basic

namespace ShaderSources.Json

def isSpace (c : Char) : Bool := c = ' ' || c = '\t' || c = '\n' || c = '\r'

def skipSpace (text : Text) : Text := text.dropWhile isSpace

def hexValue? (c : Char) : Option Nat :=
  if '0' ≤ c && c ≤ '9' then some (c.toNat - '0'.toNat)
  else if 'a' ≤ c && c ≤ 'f' then some (c.toNat - 'a'.toNat + 10)
  else if 'A' ≤ c && c ≤ 'F' then some (c.toNat - 'A'.toNat + 10)
  else none

def unit? : Text → Option (Nat × Text)
  | a :: b :: c :: d :: rest => do
    let a ← hexValue? a
    let b ← hexValue? b
    let c ← hexValue? c
    let d ← hexValue? d
    return (((a * 16 + b) * 16 + c) * 16 + d, rest)
  | _ => none

def lowSurrogate? : Text → Option (Nat × Text)
  | '\\' :: 'u' :: rest => do
    let (n, rest) ← unit? rest
    if 0xDC00 ≤ n ∧ n < 0xE000 then some (n, rest) else none
  | _ => none

/-- The character of an escape, read behind the backslash. A surrogate without its other half is no
character: it becomes U+FFFD, and different lone surrogates are no longer told apart. -/
def readEscape : Text → Option (Char × Text)
  | '"' :: rest => some ('"', rest)
  | '\\' :: rest => some ('\\', rest)
  | '/' :: rest => some ('/', rest)
  | 'b' :: rest => some ('\x08', rest)
  | 'f' :: rest => some ('\x0c', rest)
  | 'n' :: rest => some ('\n', rest)
  | 'r' :: rest => some ('\r', rest)
  | 't' :: rest => some ('\t', rest)
  | 'u' :: rest => do
    let (n, rest) ← unit? rest
    if 0xD800 ≤ n ∧ n < 0xDC00 then
      match lowSurrogate? rest with
      | some (low, rest) =>
        return (Char.ofNat (0x10000 + (n - 0xD800) * 0x400 + (low - 0xDC00)), rest)
      | none => return (Char.ofNat 0xFFFD, rest)
    else if 0xDC00 ≤ n ∧ n < 0xE000 then return (Char.ofNat 0xFFFD, rest)
    else return (Char.ofNat n, rest)
  | _ => none

def readString : Nat → Text → Option (Text × Text)
  | 0, _ => none
  | fuel + 1, text =>
    match text with
    | [] => none
    | '"' :: rest => some ([], rest)
    | '\\' :: rest => do
      let (c, rest) ← readEscape rest
      let (inner, rest) ← readString fuel rest
      return (c :: inner, rest)
    | c :: rest =>
      if c.toNat < 0x20 then none
      else do
        let (inner, rest) ← readString fuel rest
        return (c :: inner, rest)

def isAsciiDigit (c : Char) : Bool := '0' ≤ c && c ≤ '9'

def readWhole? : Text → Option (Text × Text)
  | '0' :: rest => some (['0'], rest)
  | text =>
    let digits := text.takeWhile isAsciiDigit
    if digits.isEmpty then none else some (digits, text.dropWhile isAsciiDigit)

def readFraction : Text → Text × Text
  | '.' :: rest =>
    let digits := rest.takeWhile isAsciiDigit
    if digits.isEmpty then ([], '.' :: rest) else ('.' :: digits, rest.dropWhile isAsciiDigit)
  | text => ([], text)

def readExponent (text : Text) : Text × Text :=
  match text with
  | c :: rest =>
    if c = 'e' || c = 'E' then
      let (sign, rest) := match rest with
        | '-' :: rest => (['-'], rest)
        | '+' :: rest => ([], rest)
        | rest => ([], rest)
      let digits := rest.takeWhile isAsciiDigit
      if digits.isEmpty then ([], text) else ('e' :: sign ++ digits, rest.dropWhile isAsciiDigit)
    else ([], text)
  | [] => ([], [])

def readNumber (negative : Bool) (text : Text) : Option (Value × Text) := do
  let (whole, rest) ← readWhole? text
  let (fraction, rest) := readFraction rest
  let (exponent, rest) := readExponent rest
  if fraction.isEmpty && exponent.isEmpty then
    let n ← (Numeral.readNat whole).toOption
    return (.int (if negative then -(n : Int) else n), rest)
  else
    let x ← Binary64.readDecimal? negative (whole ++ fraction ++ exponent)
    return (.float x, rest)

def words : List (Text × Value) :=
  [("null".toList, .null), ("true".toList, .bool true), ("false".toList, .bool false),
   ("NaN".toList, .float .nan), ("Infinity".toList, .float (.infinity false)),
   ("-Infinity".toList, .float (.infinity true))]

def readWord? (text : Text) : Option (Value × Text) :=
  words.findSome? fun word => (Text.after? word.1 text).map fun rest => (word.2, rest)

mutual

def readValue : Nat → Text → Option (Value × Text)
  | 0, _ => none
  | fuel + 1, text =>
    match text with
    | '"' :: rest => do
      let (s, rest) ← readString (rest.length + 1) rest
      return (.text (String.ofList s), rest)
    | '[' :: rest =>
      match skipSpace rest with
      | ']' :: rest => some (.list [], rest)
      | rest => do
        let (items, rest) ← readItems fuel rest
        return (.list items, rest)
    | '\x7b' :: rest =>
      match skipSpace rest with
      | '\x7d' :: rest => some (.mapping [], rest)
      | rest => do
        let (entries, rest) ← readEntries fuel rest
        return (.mapping (Entries.ofList entries), rest)
    | text =>
      match readWord? text with
      | some found => some found
      | none =>
        match text with
        | '-' :: rest => readNumber true rest
        | text => readNumber false text

def readItems : Nat → Text → Option (List Value × Text)
  | 0, _ => none
  | fuel + 1, text => do
    let (item, rest) ← readValue fuel text
    match skipSpace rest with
    | ']' :: rest => return ([item], rest)
    | ',' :: rest =>
      let (items, rest) ← readItems fuel (skipSpace rest)
      return (item :: items, rest)
    | _ => none

def readEntries : Nat → Text → Option (Entries × Text)
  | 0, _ => none
  | fuel + 1, text =>
    match text with
    | '"' :: rest => do
      let (key, rest) ← readString (rest.length + 1) rest
      match skipSpace rest with
      | ':' :: rest =>
        let (value, rest) ← readValue fuel (skipSpace rest)
        let entry : Key × Value := (.text (String.ofList key), value)
        match skipSpace rest with
        | '\x7d' :: rest => return ([entry], rest)
        | ',' :: rest =>
          let (entries, rest) ← readEntries fuel (skipSpace rest)
          return (entry :: entries, rest)
        | _ => none
      | _ => none
    | _ => none

end

def read? (text : Text) : Option Value :=
  match readValue (2 * text.length + 2) (skipSpace text) with
  | some (value, rest) => if (skipSpace rest).isEmpty then some value else none
  | none => none

end ShaderSources.Json
