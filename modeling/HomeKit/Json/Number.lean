import HomeKit.Bytes
import HomeKit.Json.Binary64

/-!
# JSON numbers

A number's literal (`Literal`) is kept digit by digit until its value is asked for. Literals without
a fraction or an exponent are whole numbers if they fit 64 bits, signed ones below zero; all others
are binary floating-point numbers. Of those, as many digits count as fit 64 bits, and the result is
scaled by a power of ten with one rounding each; numbers beyond the range have no value.

Whole numbers are printed in decimal, the others by their shortest decimal with at least one digit
after the point, and with an exponent where there would be many zeros (`Number.print`).
-/

namespace HomeKit.Json

inductive Number where
  | natural (n : UInt64)
  | negative (n : Int64)
  | float (x : Binary64)
  deriving DecidableEq, Repr

namespace Number

def natural? : Number → Option UInt64
  | .natural n => some n
  | _ => none

/-- Is it a whole number that fits 64 bits with a sign? -/
def isInt64 : Number → Bool
  | .natural n => n.toNat < Nat.pow 2 63
  | .negative _ => true
  | .float _ => false

/-- Is it a number of another kind than the floating-point ones, and not below zero? -/
def isNatural (n : Number) : Bool :=
  n.natural?.isSome

end Number

/-! ## Reading -/

/-- A number as it is written; digits have values below ten. -/
structure Literal where
  negative : Bool
  whole : List Nat
  fraction : Option (List Nat)
  /-- The exponent is negative, and its digits. -/
  exponent : Option (Bool × List Nat)
  deriving DecidableEq, Repr

namespace Literal

/-- Appends digits to a number while it stays within a limit, and counts them. -/
def absorb (limit : Nat) (n count : Nat) : List Nat → Nat × Nat
  | [] => (n, count)
  | d :: rest =>
    if limit < 10 * n + d then (n, count) else absorb limit (10 * n + d) (count + 1) rest

/-- Numbers that are taken exactly are at most this. -/
def exactLimit : Nat := UInt64.size - 1

/-- Exponents count up to this. -/
def exponentLimit : Nat := Nat.pow 2 31 - 1

def scale? (x : Binary64) (e : Int) : Option Binary64 :=
  if e.natAbs ≤ 308 then
    (Binary64.tenPow? e.natAbs).bind fun p => if 0 ≤ e then x.mul? p else x.div? p
  else if x.isZero then some x
  else if 0 ≤ e then none
  else ((Binary64.tenPow? 308).bind x.div?).bind fun x => scale? x (e + 308)
termination_by e.natAbs

/-- The floating-point number of a literal whose digits, as far as they count, are `n`, to be
scaled by the power `e` of ten and by the literal's exponent. -/
def toFloat? (literal : Literal) (n : Nat) (e : Int) : Option Binary64 :=
  let magnitude? : Option Binary64 :=
    match literal.exponent with
    | none => (Binary64.ofNat? n).bind (scale? · e)
    | some (negative, digits) =>
      let (exponent, count) := absorb exponentLimit 0 0 digits
      if count < digits.length then
        if n ≠ 0 ∧ !negative then none else Binary64.ofNat? 0
      else
        (Binary64.ofNat? n).bind (scale? · (if negative then e - exponent else e + exponent))
  magnitude?.map fun x => if literal.negative then x.neg else x

def value? (literal : Literal) : Option Number :=
  let (n, count) := absorb exactLimit 0 0 literal.whole
  let dropped := literal.whole.length - count
  match literal.fraction, literal.exponent with
  | none, none =>
    if dropped = 0 then
      if !literal.negative then some (.natural (UInt64.ofNat n))
      else if 0 < n ∧ n ≤ Nat.pow 2 63 then some (.negative (Int64.ofInt (-Int.ofNat n)))
      else (literal.toFloat? n 0).map .float
    else (literal.toFloat? n dropped).map .float
  | none, some _ => (literal.toFloat? n dropped).map .float
  | some digits, _ =>
    let (n, places) := absorb exactLimit n 0 digits
    (literal.toFloat? n (Int.ofNat dropped - places)).map .float

end Literal

/-! ## Printing -/

def decimalDigits (n : Nat) : Bytes :=
  utf8 (toString n)

/-- A decimal with a point and at least one digit after it, or with an exponent: positional from
10^-5 up to 10^16. -/
def printDecimal (d : Binary64.Decimal) : Bytes :=
  let digits := decimalDigits d.digits
  let length : Int := digits.length
  let point := length + d.power
  let zeros (n : Int) : Bytes := List.replicate n.toNat 0x30
  if 0 ≤ d.power ∧ point ≤ 16 then
    digits ++ zeros d.power ++ [0x2e, 0x30]
  else if 0 < point ∧ point ≤ 16 then
    digits.take point.toNat ++ 0x2e :: digits.drop point.toNat
  else if -5 < point ∧ point ≤ 0 then
    [0x30, 0x2e] ++ zeros (-point) ++ digits
  else
    let fraction := if length = 1 then [] else 0x2e :: digits.drop 1
    digits.take 1 ++ fraction ++ 0x65 :: utf8 (toString (point - 1))

def printFloat (x : Binary64) : Bytes :=
  let sign := if x.negative then [0x2d] else []
  sign ++ (if x.isZero then [0x30, 0x2e, 0x30] else printDecimal x.shortest)

def Number.print : Number → Bytes
  | .natural n => decimalDigits n.toNat
  | .negative n => 0x2d :: decimalDigits n.toInt.natAbs
  | .float x => printFloat x

end HomeKit.Json
