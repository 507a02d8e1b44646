import HomeKit.Crypto.Curve25519
import HomeKit.Crypto.Sha512

/-!
# Ed25519

Signatures on the Edwards form of the curve (RFC 8032). Points are in extended coordinates, for
which one addition formula covers all cases. A signature is accepted when its scalar is below the
group order and its first half is, byte for byte, the point recomputed from the rest; keys of
small order and keys written with a number of p or more are taken as they are.
-/

namespace HomeKit.Ed25519

open Curve25519

/-- The order of the base point. -/
def order : Nat := Nat.pow 2 252 + 27742317777372353535851937790883648493

/-- The curve's constant -121665/121666. -/
def d : Nat := 37095705934669439343138083508754565189542113879843219016388785533085940283555

def sqrtMinusOne : Nat :=
  19681161376707505956807079304988542015446066515923890162744021073123829784752

/-- A point (x/z, y/z), with t = x·y/z. -/
structure Point where
  x : Nat
  y : Nat
  z : Nat
  t : Nat

namespace Point

def zero : Point := ⟨0, 1, 1, 0⟩

def ofAffine (x y : Nat) : Point := ⟨x, y, 1, mul x y⟩

def base : Point :=
  ofAffine 15112221349535400772501151409588531511454012693041857206046113283949847762202
    46316835694926478169428394003475163141307993866256225615783033603165251855960

def add (p q : Point) : Point :=
  let a := mul (sub p.y p.x) (sub q.y q.x)
  let b := mul (Curve25519.add p.y p.x) (Curve25519.add q.y q.x)
  let c := mul (mul p.t (mul 2 d)) q.t
  let m := mul (Curve25519.add p.z p.z) q.z
  let e := sub b a
  let f := sub m c
  let g := Curve25519.add m c
  let h := Curve25519.add b a
  ⟨mul e f, mul g h, mul f g, mul e h⟩

def neg (p : Point) : Point :=
  ⟨sub 0 p.x, p.y, p.z, sub 0 p.t⟩

def scale (k : Nat) (p : Point) : Point :=
  (bits 256 k).foldl (fun acc bit => let two := acc.add acc; if bit then two.add p else two) zero

/-- The byte form: y, and the lowest bit of x as the top bit. -/
def compress (p : Point) : Octets 32 :=
  let zi := inv p.z
  let x := mul p.x zi
  let y := mul p.y zi
  encode (y + x % 2 * Nat.pow 2 255)

/-- The x-coordinate, even, of a point with this y-coordinate. -/
def evenX? (y : Nat) : Option Nat :=
  let yy := mul y y
  let u := sub yy 1
  let v := Curve25519.add (mul d yy) 1
  let v3 := mul (mul v v) v
  let r := mul (mul u v3) (pow (mul u (mul (mul v3 v3) v)) ((prime - 5) / 8))
  let check := mul v (mul r r)
  let even (x : Nat) : Nat := if x % 2 = 1 then sub 0 x else x
  if check = u then some (even r)
  else if check = sub 0 u then some (even (mul r sqrtMinusOne))
  else none

def decompress? (b : Octets 32) : Option Point :=
  let y := decode b
  (evenX? y).map fun x =>
    let negative := (ofLittleEndian b.bytes).testBit 255
    ofAffine (if negative then sub 0 x else x) y

end Point

def hashScalar (message : Bytes) : Nat :=
  ofLittleEndian (Sha512.digest message).bytes % order

def secretScalar (seed : Octets 32) : Nat :=
  clamp ((Sha512.digest seed.bytes).bytes.take 32)

def publicKey (seed : Octets 32) : Octets 32 :=
  (Point.base.scale (secretScalar seed)).compress

def sign (seed : Octets 32) (message : Bytes) : Octets 64 :=
  let secret := secretScalar seed
  let r := hashScalar ((Sha512.digest seed.bytes).bytes.drop 32 ++ message)
  let commitment := (Point.base.scale r).compress
  let k := hashScalar (commitment.bytes ++ (publicKey seed).bytes ++ message)
  ⟨commitment.bytes ++ littleEndian 32 ((k * secret + r) % order),
    by simp [commitment.length_eq]⟩

inductive Verdict where
  | valid
  | invalid
  /-- The key is not the byte form of a point. -/
  | badKey
  deriving DecidableEq

/-- Checks a signature of any length. -/
def verify (key : Octets 32) (message signature : Bytes) : Verdict :=
  match Point.decompress? key with
  | none => .badKey
  | some point =>
    let commitment := signature.take 32
    let s := ofLittleEndian (signature.drop 32)
    if signature.length = 64 ∧ s < order then
      let k := hashScalar (commitment ++ key.bytes ++ message)
      let expected := ((Point.base.scale s).add (point.neg.scale k)).compress
      if expected.bytes = commitment then .valid else .invalid
    else
      .invalid

end HomeKit.Ed25519
