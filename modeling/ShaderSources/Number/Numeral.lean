import ShaderSources.Text.Blank
import ShaderSources.Text.Digit
import ShaderSources.Text.Quoted

namespace ShaderSources.Numeral

def maxDigits : Nat := 4300

def maxShown : Nat := 200

def codePointBound : Nat := 0x110000

def wordBound : Nat := 0x80000000

inductive Fault
  | tooLong (digits : Nat)
  | tooLongToWrite
  | illFormed (base : Nat) (text : Text)
  | beyondFloats
  | noCodePoint (n : Nat)
  deriving DecidableEq, Repr

def Fault.isOverflow : Fault → Bool
  | beyondFloats => true
  | noCodePoint n => wordBound ≤ n
  | _ => false

def Fault.message : Fault → String
  | tooLong digits =>
    s!"Exceeds the limit ({maxDigits} digits) for integer string conversion: " ++
      s!"value has {digits} digits; use sys.set_int_max_str_digits() to increase the limit"
  | tooLongToWrite =>
    s!"Exceeds the limit ({maxDigits} digits) for integer string conversion; " ++
      "use sys.set_int_max_str_digits() to increase the limit"
  | illFormed base text =>
    let shown := String.ofList ((Text.quoted text).take maxShown)
    s!"invalid literal for int() with base {base}: {shown}"
  | beyondFloats => "int too large to convert to float"
  | noCodePoint n =>
    if n < wordBound then "chr() arg not in range(0x110000)"
    else "Python int too large to convert to C int"

def ofDigits (base : Nat) (digits : List Nat) : Nat := digits.foldl (fun n d => n * base + d) 0

def natOfText (digits : Text) : Nat := ofDigits 10 (digits.filterMap Text.digit?)

def readNat (digits : Text) : Except Fault Nat :=
  if maxDigits < digits.length then .error (.tooLong digits.length) else .ok (natOfText digits)

/-- The blanks that may stand around a number: the information separators do not count. -/
def isOuterBlank (c : Char) : Bool :=
  Text.isBlank c && !(0x1C ≤ c.toNat && c.toNat ≤ 0x1F)

def cutSign : Text → Bool × Text
  | '-' :: text => (true, text)
  | '+' :: text => (false, text)
  | text => (false, text)

def isSigned (text : Text) : Bool :=
  let digits := (cutSign text).2
  !digits.isEmpty && digits.all Text.isDigit

def readInt (text : Text) : Except Fault Int := do
  let (negative, unsigned) := cutSign (text.dropWhile isOuterBlank)
  let digits := unsigned.takeWhile Text.isDigit
  let n ← readNat digits
  if digits.isEmpty || !(unsigned.drop digits.length).all isOuterBlank then
    throw (.illFormed 10 text)
  return if negative then -(n : Int) else n

def readGrouped (text : Text) : Except Fault Int := do
  let (negative, unsigned) := cutSign (text.dropWhile isOuterBlank)
  let row := unsigned.takeWhile fun c => Text.isDigit c || c = '_'
  if (Text.pieces '_' row).any List.isEmpty then throw (.illFormed 10 text)
  let n ← readNat (row.filter Text.isDigit)
  if !(unsigned.drop row.length).all isOuterBlank then throw (.illFormed 10 text)
  return if negative then -(n : Int) else n

def readCodePoint (n : Nat) : Except Fault Char :=
  if n < codePointBound then .ok (Char.ofNat n) else .error (.noCodePoint n)

def writeNat (n : Nat) : Text := Nat.toDigits 10 n

def writeInt (n : Int) : Except Fault Text :=
  if Nat.pow 10 maxDigits ≤ n.natAbs then .error .tooLongToWrite
  else .ok (if n < 0 then '-' :: writeNat n.natAbs else writeNat n.natAbs)

end ShaderSources.Numeral
