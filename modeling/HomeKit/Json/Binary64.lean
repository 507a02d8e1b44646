/-!
# Binary floating-point numbers

The finite numbers of IEEE 754 binary64, as sign, mantissa and exponent, so that they can be
compared and computed with exactly. `nearest` rounds a fraction to the nearest of them, ties to the
even mantissa, and multiplication and division round the exact result. `shortest` finds the decimal
with the fewest digits that rounds back to a number.
-/

namespace HomeKit

/-- The number ±mantissa · 2^exponent. Mantissas are below 2^53; exponents run from -1074 to 971,
and a mantissa below 2^52 has the lowest one. -/
structure Binary64 where
  negative : Bool
  mantissa : Nat
  exponent : Int
  deriving DecidableEq, Repr

namespace Binary64

def minExponent : Int := -1074

def maxExponent : Int := 971

/-- The number is zero of either sign. -/
def isZero (x : Binary64) : Bool :=
  x.mantissa == 0

def neg (x : Binary64) : Binary64 :=
  { x with negative := !x.negative }

/-- The positive power of two with exponent `e`, and its reciprocal's denominator. -/
def twoPow (e : Int) : Nat × Nat :=
  if 0 ≤ e then (Nat.pow 2 e.toNat, 1) else (1, Nat.pow 2 (-e).toNat)

/-- The whole number nearest to a fraction, the even one of two. -/
def roundHalfEven (num den : Nat) : Nat :=
  let q := num / den
  let r := num % den
  if den < 2 * r ∨ (den = 2 * r ∧ q % 2 = 1) then q + 1 else q

/-- The number nearest to a fraction, or nothing where the range ends. -/
def nearest (num den : Nat) : Option Binary64 :=
  if num = 0 then
    some ⟨false, 0, minExponent⟩
  else
    -- the fraction lies between 2^(low + 52) and 2^(low + 54)
    let low := max (Int.ofNat num.log2 - Int.ofNat den.log2 - 53) minExponent
    let (up, down) := twoPow (low + 53)
    let exponent := if num * down < den * up then low else low + 1
    let (up, down) := twoPow exponent
    let mantissa := roundHalfEven (num * down) (den * up)
    let (mantissa, exponent) :=
      if mantissa = Nat.pow 2 53 then (Nat.pow 2 52, exponent + 1) else (mantissa, exponent)
    if maxExponent < exponent then none else some ⟨false, mantissa, exponent⟩

def ofNat? (n : Nat) : Option Binary64 :=
  nearest n 1

def mul? (x y : Binary64) : Option Binary64 :=
  let (up, down) := twoPow (x.exponent + y.exponent)
  nearest (x.mantissa * y.mantissa * up) down

/-- The rounded quotient of two magnitudes, the second of which is not zero. -/
def div? (x y : Binary64) : Option Binary64 :=
  let (up, down) := twoPow (x.exponent - y.exponent)
  nearest (x.mantissa * up) (y.mantissa * down)

def tenPow? (e : Nat) : Option Binary64 :=
  ofNat? (Nat.pow 10 e)

/-! ## Shortest decimals -/

/-- The number `digits` · 10^`power`. -/
structure Decimal where
  digits : Nat
  power : Int
  deriving DecidableEq, Repr

/-- The point nearest to a magnitude on the grid of multiples of 10^`power`, the even one of two,
among those that round back to it. -/
def onGrid? (x : Binary64) (power : Int) : Option Nat :=
  let (up, down) := twoPow (x.exponent - 2)
  -- the magnitude is 4 · mantissa · b / a steps of the grid
  let a := if 0 ≤ power then Nat.pow 10 power.toNat * down else down
  let b := if 0 ≤ power then up else Nat.pow 10 (-power).toNat * up
  let below := if x.mantissa = Nat.pow 2 52 ∧ minExponent < x.exponent then 1 else 2
  let low := (4 * x.mantissa - below) * b
  let high := (4 * x.mantissa + 2) * b
  let fits (c : Nat) : Bool :=
    if x.mantissa % 2 = 0 then low ≤ c * a && c * a ≤ high else low < c * a && c * a < high
  let floor := 4 * x.mantissa * b / a
  let nearer := roundHalfEven (4 * x.mantissa * b) a
  if fits nearer then some nearer
  else if fits floor then some floor
  else if fits (floor + 1) then some (floor + 1)
  else none

/-- The coarsest of the next grids with a point that rounds back. -/
def searchGrid (x : Binary64) : (grids : Nat) → (power : Int) → Decimal
  | 0, power => ⟨0, power⟩
  | grids + 1, power =>
    match onGrid? x power with
    | some digits => ⟨digits, power⟩
    | none => searchGrid x grids (power - 1)

/-- The decimal with the fewest digits that rounds back to a magnitude other than zero. -/
def shortest (x : Binary64) : Decimal :=
  let top := (x.exponent + x.mantissa.log2 + 1) * 30103 / 100000 + 1
  searchGrid x 24 top

end Binary64

end HomeKit
