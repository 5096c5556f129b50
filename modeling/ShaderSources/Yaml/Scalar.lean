import ShaderSources.Number.Numeral
import ShaderSources.Value.Basic

namespace ShaderSources.Yaml

def nulls : List String := ["", "~", "null", "Null", "NULL"]
def trues : List String := ["yes", "Yes", "YES", "true", "True", "TRUE", "on", "On", "ON"]
def falses : List String := ["no", "No", "NO", "false", "False", "FALSE", "off", "Off", "OFF"]
def infinities : List String := [".inf", ".Inf", ".INF"]
def nans : List String := [".nan", ".NaN", ".NAN"]

def isAsciiDigit (c : Char) : Bool := '0' ≤ c && c ≤ '9'
def isDigitOrGap (c : Char) : Bool := isAsciiDigit c || c = '_'
def isBinaryOrGap (c : Char) : Bool := c = '0' || c = '1' || c = '_'
def isOctalOrGap (c : Char) : Bool := ('0' ≤ c && c ≤ '7') || c = '_'
def isHexOrGap (c : Char) : Bool :=
  isDigitOrGap c || ('a' ≤ c && c ≤ 'f') || ('A' ≤ c && c ≤ 'F')

def withoutGaps (text : Text) : Text := text.filter (· != '_')

def digitValue (c : Char) : Nat :=
  if isAsciiDigit c then c.toNat - '0'.toNat
  else if 'a' ≤ c then c.toNat - 'a'.toNat + 10
  else c.toNat - 'A'.toNat + 10

def readBase (base : Nat) (digits : Text) : Except Numeral.Fault Nat :=
  if digits.isEmpty then .error (.illFormed base digits)
  else .ok (Numeral.ofDigits base (digits.map digitValue))

def isSixtieth : Text → Bool
  | [a] => isAsciiDigit a
  | [a, b] => '0' ≤ a && a ≤ '5' && isAsciiDigit b
  | _ => false

def isWhole : Text → Bool
  | c :: rest => '1' ≤ c && c ≤ '9' && rest.all isDigitOrGap
  | [] => false

def readSixties (parts : List Text) : Except Numeral.Fault Nat := do
  let digits ← parts.mapM Numeral.readNat
  return Numeral.ofDigits 60 digits

def readNat? (text : Text) : Option (Except Numeral.Fault Nat) :=
  match text with
  | ['0'] => some (.ok 0)
  | '0' :: 'b' :: digits =>
    if !digits.isEmpty && digits.all isBinaryOrGap then some (readBase 2 (withoutGaps digits))
    else none
  | '0' :: 'x' :: digits =>
    if !digits.isEmpty && digits.all isHexOrGap then some (readBase 16 (withoutGaps digits))
    else none
  | '0' :: digits =>
    if digits.all isOctalOrGap then some (readBase 8 ('0' :: withoutGaps digits)) else none
  | _ =>
    match Text.pieces ':' text with
    | [whole] => if isWhole whole then some (Numeral.readNat (withoutGaps whole)) else none
    | whole :: sixties =>
      if isWhole whole && sixties.all isSixtieth then
        some (readSixties (withoutGaps whole :: sixties))
      else none
    | [] => none

def isExponent : Text → Bool
  | [] => true
  | e :: sign :: digits =>
    (e = 'e' || e = 'E') && (sign = '-' || sign = '+') && !digits.isEmpty &&
      digits.all isAsciiDigit
  | _ => false

def isFraction (text : Text) : Bool := isExponent (text.dropWhile isDigitOrGap)

def startsWithDigit : Text → Bool
  | c :: _ => isAsciiDigit c
  | [] => false

/-- Adds up places in base 60, the last place first; each product and each sum is a float. The
weight of a place must be one too. -/
def addSixties : (weight : Nat) → (sum : Binary64) → List Binary64 →
    Except Numeral.Fault Binary64
  | _, sum, [] => .ok sum
  | weight, sum, place :: places =>
    match Binary64.ofNat? weight with
    | none => .error .beyondFloats
    | some factor => addSixties (weight * 60) (sum + place * factor) places

def isSixtiethFraction (text : Text) : Bool :=
  isSixtieth (text.takeWhile isAsciiDigit) &&
    match text.dropWhile isAsciiDigit with
    | '.' :: fraction => fraction.all isDigitOrGap
    | _ => false

def readSixtiesFloat? (text : Text) : Option (Except Numeral.Fault Binary64) :=
  match Text.pieces ':' text with
  | whole :: place :: places =>
    let isFloat := startsWithDigit whole && whole.all isDigitOrGap &&
      (place :: places).dropLast.all isSixtieth &&
      (place :: places).getLast?.any isSixtiethFraction
    if isFloat then
      let digits := (whole :: place :: places).filterMap fun part =>
        Binary64.readDecimal? false (withoutGaps part)
      some (addSixties 1 (.zero false) digits.reverse)
    else none
  | _ => none

def readFloat? (signed : Bool) (text : Text) : Option (Except Numeral.Fault Binary64) :=
  if infinities.contains (String.ofList text) then some (.ok (.infinity false))
  else if !signed && nans.contains (String.ofList text) then some (.ok .nan)
  else match Text.cut? ['.'] text with
    | none => none
    | some (whole, fraction) =>
      let plain :=
        if whole.isEmpty then !signed && startsWithDigit fraction && isFraction fraction
        else startsWithDigit whole && whole.all isDigitOrGap && isFraction fraction
      if plain then (Binary64.readDecimal? false (withoutGaps text)).map .ok
      else readSixtiesFloat? text

def resolve (text : Text) : Except Numeral.Fault Value :=
  let s := String.ofList text
  if nulls.contains s then .ok .null
  else if trues.contains s then .ok (.bool true)
  else if falses.contains s then .ok (.bool false)
  else
    let signed := text.head? = some '-' || text.head? = some '+'
    let (negative, rest) := Numeral.cutSign text
    match readFloat? signed rest with
    | some x => x.map fun x => .float (if negative then -x else x)
    | none => match readNat? rest with
      | some n => n.map fun n => .int (if negative then -(n : Int) else n)
      | none => .ok (.text s)

end ShaderSources.Yaml
