import HomeKit.Crypto.Curve25519

/-!
# X25519

Diffie-Hellman on the Montgomery form of the curve (RFC 7748). Points are x-coordinates as
fractions X/Z; `step` is one rung of the ladder, which keeps two points whose difference is the
base point.
-/

namespace HomeKit.X25519

open Curve25519

/-- An x-coordinate as a fraction. -/
structure Ratio where
  x : Nat
  z : Nat

/-- The double of `p`, and the sum of `p` and `q` whose difference has x-coordinate `base`. -/
def doubleAdd (base : Nat) (p q : Ratio) : Ratio × Ratio :=
  let a := add p.x p.z
  let aa := mul a a
  let b := sub p.x p.z
  let bb := mul b b
  let e := sub aa bb
  let da := mul (sub q.x q.z) a
  let cb := mul (add q.x q.z) b
  let sum := add da cb
  let difference := sub da cb
  (⟨mul aa bb, mul e (add aa (mul 121665 e))⟩,
    ⟨mul sum sum, mul base (mul difference difference)⟩)

/-- One rung: the pair (n·P, (n+1)·P) becomes the pair for 2n or 2n+1. -/
def step (base : Nat) (pair : Ratio × Ratio) (bit : Bool) : Ratio × Ratio :=
  if bit then
    let (double, sum) := doubleAdd base pair.2 pair.1
    (sum, double)
  else
    doubleAdd base pair.1 pair.2

/-- The x-coordinate of `scalar` times the point with x-coordinate `base`. -/
def ladder (scalar base : Nat) : Nat :=
  let (result, _) := (bits 255 scalar).foldl (step base) (⟨1, 0⟩, ⟨base, 1⟩)
  mul result.x (inv result.z)

def agree (secret peer : Octets 32) : Octets 32 :=
  encode (ladder (clamp secret.bytes) (decode peer))

/-- The public key of a secret: its multiple of the point with x-coordinate 9. -/
def publicKey (secret : Octets 32) : Octets 32 :=
  encode (ladder (clamp secret.bytes) 9)

end HomeKit.X25519
