namespace ShaderSources

inductive Binary64
  | nan
  | infinity (negative : Bool)
  | finite (negative : Bool) (mantissa : Nat) (exponent : Int)
  deriving DecidableEq, Repr

namespace Binary64

def minExponent : Int := -1074
def maxExponent : Int := 971
def twoTo (n : Nat) : Nat := Nat.pow 2 n
def tenTo (n : Nat) : Nat := Nat.pow 10 n

def mantissaBound : Nat := twoTo 53

def zero (negative : Bool) : Binary64 := finite negative 0 minExponent

def roundedQuotient (n d : Nat) : Nat :=
  let q := n / d
  let twice := 2 * (n % d)
  if twice < d then q else if d < twice then q + 1 else if q % 2 = 0 then q else q + 1

def scaled (n d : Nat) (exponent : Int) : Nat × Nat :=
  if 0 ≤ exponent then (n, d * twoTo exponent.toNat) else (n * twoTo (-exponent).toNat, d)

def exponentOf (n d : Nat) : Int :=
  let low : Int := (Nat.log2 n : Int) - Nat.log2 d - 53
  let (a, b) := scaled n d low
  max minExponent (if a / b < mantissaBound then low else low + 1)

def ofRatio (negative : Bool) (n d : Nat) : Binary64 :=
  if n = 0 then zero negative
  else
    let exponent := exponentOf n d
    let (a, b) := scaled n d exponent
    let mantissa := roundedQuotient a b
    let (mantissa, exponent) :=
      if mantissa = mantissaBound then (mantissaBound / 2, exponent + 1) else (mantissa, exponent)
    if maxExponent < exponent then infinity negative else finite negative mantissa exponent

/-- The number nearest to `digits` times a power of ten. Beyond the powers -400 and 400 the result
no longer depends on the digits. -/
def ofDecimal (negative : Bool) (digits : Nat) (exponent : Int) : Binary64 :=
  let size : Int := (toString digits).length + exponent
  if digits = 0 ∨ size < -400 then zero negative
  else if 400 < size then infinity negative
  else if 0 ≤ exponent then ofRatio negative (digits * tenTo exponent.toNat) 1
  else ofRatio negative digits (tenTo (-exponent).toNat)

def value? : Binary64 → Option Rat
  | finite negative mantissa exponent =>
    let size : Int := if negative then -(mantissa : Int) else mantissa
    some (mkRat (size * twoTo exponent.toNat) (twoTo (-exponent).toNat))
  | _ => none

def ofNat? (n : Nat) : Option Binary64 :=
  match ofRatio false n 1 with
  | infinity _ => none
  | x => some x

def isNegative : Binary64 → Bool
  | nan => false
  | infinity negative => negative
  | finite negative _ _ => negative

def isZero : Binary64 → Bool
  | finite _ mantissa _ => mantissa == 0
  | _ => false

def neg : Binary64 → Binary64
  | nan => nan
  | infinity negative => infinity (!negative)
  | finite negative mantissa exponent => finite (!negative) mantissa exponent

def ofRat (negativeZero : Bool) (q : Rat) : Binary64 :=
  ofRatio (if q = 0 then negativeZero else q < 0) q.num.natAbs q.den

def add (x y : Binary64) : Binary64 :=
  match x, y, x.value?, y.value? with
  | _, _, some a, some b => ofRat (x.isNegative && y.isNegative) (a + b)
  | nan, _, _, _ => nan
  | _, nan, _, _ => nan
  | infinity a, infinity b, _, _ => if a = b then infinity a else nan
  | infinity a, _, _, _ => infinity a
  | _, _, _, _ => y

def mul (x y : Binary64) : Binary64 :=
  let negative := x.isNegative != y.isNegative
  match x.value?, y.value? with
  | some a, some b => ofRat negative (a * b)
  | _, _ => if x = nan ∨ y = nan ∨ x.isZero ∨ y.isZero then nan else infinity negative

instance : Neg Binary64 := ⟨neg⟩
instance : Add Binary64 := ⟨add⟩
instance : Mul Binary64 := ⟨mul⟩

def isIntegral (x : Binary64) : Bool := x.value?.any Rat.isInt

def truncate? (x : Binary64) : Option Int := x.value?.map fun q => q.num.tdiv q.den

def isBelow (x : Binary64) (bound : Int) : Bool :=
  match x, x.value? with
  | _, some q => q.num < bound * q.den
  | infinity negative, none => negative
  | _, none => false

end Binary64

end ShaderSources
