import ShaderSources.Number.Shortest
import ShaderSources.Text.Digit

namespace ShaderSources

structure FloatLayout where
  positionalFrom : Int
  positionalBelow : Int
  wholePart : Text
  exponentMark : Char
  exponentDigits : Nat
  infinity : Text
  nan : Text

def floatLayout : FloatLayout where
  positionalFrom := -4
  positionalBelow := 16
  wholePart := ['.', '0']
  exponentMark := 'e'
  exponentDigits := 2
  infinity := "inf".toList
  nan := "nan".toList

namespace FloatLayout

def padded (width : Nat) (digits : Text) : Text :=
  List.replicate (width - digits.length) '0' ++ digits

def exponentText (layout : FloatLayout) (exponent : Int) : Text :=
  layout.exponentMark :: (if exponent < 0 then '-' else '+') ::
    padded layout.exponentDigits (toString exponent.natAbs).toList

def pointed (layout : FloatLayout) (digits : Text) (place : Int) : Text :=
  if place ≤ 0 then '0' :: '.' :: List.replicate (-place).toNat '0' ++ digits
  else if (digits.length : Int) ≤ place then
    digits ++ List.replicate (place.toNat - digits.length) '0' ++ layout.wholePart
  else digits.take place.toNat ++ '.' :: digits.drop place.toNat

def positive (layout : FloatLayout) (d : Decimal) : Text :=
  let all := (toString d.digits).toList
  let digits := (all.reverse.dropWhile (· = '0')).reverse
  let leading : Int := d.exponent + all.length - 1
  if layout.positionalFrom ≤ leading ∧ leading < layout.positionalBelow then
    layout.pointed digits (leading + 1)
  else match digits with
    | [] => []
    | [first] => first :: layout.exponentText leading
    | first :: rest => first :: '.' :: rest ++ layout.exponentText leading

def write (layout : FloatLayout) : Binary64 → Text
  | .nan => layout.nan
  | .infinity negative => (if negative then ['-'] else []) ++ layout.infinity
  | .finite negative mantissa exponent =>
    (if negative then ['-'] else []) ++
      if mantissa = 0 then '0' :: layout.wholePart
      else layout.positive (Shortest.decimal mantissa exponent)

end FloatLayout

namespace Binary64

def written (x : Binary64) : Text := floatLayout.write x

def cutMinus : Text → Bool × Text
  | '-' :: text => (true, text)
  | '+' :: text => (false, text)
  | text => (false, text)

def isAsciiDigit (c : Char) : Bool := '0' ≤ c && c ≤ '9'

def natOfDigits (digits : Text) : Nat :=
  digits.foldl (fun n c => n * 10 + (c.toNat - '0'.toNat)) 0

def readExponent? (text : Text) : Option Int :=
  let (negative, digits) := cutMinus text
  if digits.isEmpty || !digits.all isAsciiDigit then none
  else some (if negative then -(natOfDigits digits : Int) else natOfDigits digits)

def readDecimal? (negative : Bool) (text : Text) : Option Binary64 :=
  let whole := text.takeWhile isAsciiDigit
  let rest := text.dropWhile isAsciiDigit
  let (fraction, rest) := match rest with
    | '.' :: rest => (rest.takeWhile isAsciiDigit, rest.dropWhile isAsciiDigit)
    | rest => ([], rest)
  if whole.isEmpty && fraction.isEmpty then none
  else
    let digits := natOfDigits (whole ++ fraction)
    match rest with
    | [] => some (ofDecimal negative digits (-fraction.length))
    | c :: rest =>
      if c = 'e' || c = 'E' then
        (readExponent? rest).map fun e => ofDecimal negative digits (e - fraction.length)
      else none

def read? (text : Text) : Option Binary64 :=
  let (negative, rest) := cutMinus text
  if rest = floatLayout.nan then some .nan
  else if rest = floatLayout.infinity then some (.infinity negative)
  else readDecimal? negative rest

end Binary64

end ShaderSources
