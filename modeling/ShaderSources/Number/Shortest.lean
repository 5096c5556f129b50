import ShaderSources.Number.Binary64

namespace ShaderSources

structure Decimal where
  digits : Nat
  exponent : Int
  deriving DecidableEq, Repr

namespace Shortest

structure Interval where
  low : Nat
  value : Nat
  high : Nat
  ends : Bool
  unit : Int

def intervalOf (mantissa : Nat) (exponent : Int) : Interval where
  low := 4 * mantissa -
    if mantissa = Binary64.mantissaBound / 2 ∧ Binary64.minExponent < exponent then 1 else 2
  value := 4 * mantissa
  high := 4 * mantissa + 2
  ends := mantissa % 2 = 0
  unit := exponent - 2

def power (base : Nat) (exponent : Int) : Nat × Nat :=
  if 0 ≤ exponent then (Nat.pow base exponent.toNat, 1) else (1, Nat.pow base (-exponent).toNat)

def leadingExponent (n d : Nat) : Int :=
  if d ≤ n then ((toString (n / d)).length : Int) - 1
  else
    let places := (toString (d / n)).length
    if d ≤ n * Binary64.tenTo (places - 1) then -((places : Int) - 1) else -(places : Int)

/-- The decimal on one grid that lies in the interval, the nearer one of two, the even one of two
equally near. -/
def onGrid? (i : Interval) (exponent : Int) : Option Decimal :=
  let (a, b) := power 10 exponent
  let (s, t) := power 2 i.unit
  let scale := a * t
  let side := s * b
  let inside (c : Nat) : Bool :=
    if i.ends then i.low * side ≤ c * scale && c * scale ≤ i.high * side
    else i.low * side < c * scale && c * scale < i.high * side
  let c := i.value * side / scale
  let below := i.value * side - c * scale
  let above := (c + 1) * scale - i.value * side
  match inside c, inside (c + 1) with
  | false, false => none
  | true, false => some ⟨c, exponent⟩
  | false, true => some ⟨c + 1, exponent⟩
  | true, true =>
    some ⟨if below < above ∨ (below = above ∧ c % 2 = 0) then c else c + 1, exponent⟩

def decimal (mantissa : Nat) (exponent : Int) : Decimal :=
  let i := intervalOf mantissa exponent
  let (s, t) := power 2 exponent
  let leading := leadingExponent (mantissa * s) t
  match (List.range 17).findSome? fun (count : Nat) => onGrid? i (leading - count) with
  | some d => d
  | none => ⟨0, 0⟩

end Shortest

end ShaderSources
