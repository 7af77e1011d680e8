import EndpointProfile.Text.Basic

/-! The fewest decimal digits that tell a floating-point number from its neighbours. -/
namespace EndpointProfile

/-- The number `digits * 10 ^ exponent`. -/
structure Decimal where
  digits : Nat
  exponent : Int
  deriving DecidableEq, Repr

namespace Decimal

/-- A finite positive number as `mantissa * 2 ^ exponent`, and whether the number below it is only
half as far away as the one above. -/
structure Binary where
  mantissa : Nat
  exponent : Int
  narrow : Bool

/-- The parts of a number given by its bits, without its sign. -/
def Binary.ofBits (bits : Nat) : Binary :=
  let hidden := Nat.pow 2 52
  let fraction := bits % hidden
  let power := bits / hidden % Nat.pow 2 11
  if power = 0 then ⟨fraction, -1074, false⟩
  else ⟨hidden + fraction, Int.ofNat power - 1075, fraction = 0 && 1 < power⟩

/-- A positive number and the ends of the interval that is rounded to it, as fractions with one
denominator. -/
structure Interval where
  low : Nat
  value : Nat
  high : Nat
  denominator : Nat
  closed : Bool

def Binary.interval (b : Binary) : Interval :=
  let quarter := b.exponent - 2
  let factor := Nat.pow 2 quarter.toNat
  { low := (4 * b.mantissa - if b.narrow then 1 else 2) * factor
    value := 4 * b.mantissa * factor
    high := (4 * b.mantissa + 2) * factor
    denominator := Nat.pow 2 (-quarter).toNat
    closed := b.mantissa % 2 = 0 }

/-- The power of ten of the first digit. -/
def Interval.magnitude (i : Interval) : Int :=
  Int.ofNat (Nat.toDigits 10 (i.value * Nat.pow 10 400 / i.denominator)).length - 401

/-- The point of a decimal grid that is nearest to the value, if the interval holds any. -/
def Interval.nearest? (i : Interval) (exponent : Int) : Option Nat :=
  let unit := Nat.pow 10 exponent.toNat * i.denominator
  let scale := Nat.pow 10 (-exponent).toNat
  let below := i.value * scale / unit
  let holds (n : Nat) : Bool :=
    if i.closed then i.low * scale ≤ n * unit && n * unit ≤ i.high * scale
    else i.low * scale < n * unit && n * unit < i.high * scale
  let twice := 2 * (i.value * scale % unit)
  match holds below, holds (below + 1) with
  | true, false => some below
  | false, true => some (below + 1)
  | true, true =>
    some (if twice < unit ∨ (twice = unit ∧ below % 2 = 0) then below else below + 1)
  | false, false => none

/-- The first grid with a point in the interval, from one digit on. That point may be the next
power of ten, which has only one digit too. -/
def Interval.shortest (i : Interval) : Decimal :=
  let found := (List.range 17).findSome? fun n =>
    let exponent := i.magnitude - Int.ofNat n
    (i.nearest? exponent).map fun digits =>
      if digits % 10 = 0 then (⟨digits / 10, exponent + 1⟩ : Decimal) else ⟨digits, exponent⟩
  found.getD ⟨0, 0⟩

/-- The shortest decimal form of a finite number, without its sign. -/
def shortest (x : Float) : Decimal :=
  let b := Binary.ofBits x.toBits.toNat
  if b.mantissa = 0 then ⟨0, 0⟩ else b.interval.shortest

def isNegative (x : Float) : Bool :=
  x.toBits.toNat / Nat.pow 2 63 = 1

/-- The digits with a point where it belongs, and zeros up to it. -/
def positional (d : Decimal) : Text :=
  let digits := Text.ofNat d.digits
  if 0 ≤ d.exponent then digits ++ List.replicate d.exponent.toNat '0'
  else
    let places := (-d.exponent).toNat
    let padded := List.replicate (places + 1 - digits.length) '0' ++ digits
    padded.take (padded.length - places) ++ '.' :: padded.drop (padded.length - places)

def scientificExponent (d : Decimal) : Int :=
  d.exponent + Int.ofNat (Text.ofNat d.digits).length - 1

end Decimal
end EndpointProfile
