import HomeKit.Bytes
import HomeKit.Crypto.PowMod

/-!
# The field of Curve25519

Arithmetic modulo p = 2^255 - 19 on natural numbers below p, the byte form of the field's elements
and the clamping of secret scalars. The key agreement and the signatures share it.
-/

namespace HomeKit.Curve25519

def prime : Nat := Nat.pow 2 255 - 19

@[inline] def add (a b : Nat) : Nat := (a + b) % prime

@[inline] def sub (a b : Nat) : Nat := (a + (prime - b)) % prime

@[inline] def mul (a b : Nat) : Nat := a * b % prime

def pow (a e : Nat) : Nat := powMod a e prime

/-- Inverse; zero has inverse zero. -/
def inv (a : Nat) : Nat := pow a (prime - 2)

/-- The element that 32 bytes denote. The top bit does not count, and numbers of p or more are
reduced. -/
def decode (b : Octets 32) : Nat :=
  ofLittleEndian b.bytes % Nat.pow 2 255 % prime

/-- The bytes of an element below p, with a zero top bit. -/
def encode (a : Nat) : Octets 32 :=
  ⟨littleEndian 32 a, by simp⟩

/-- The scalar of 32 secret bytes: the lowest three bits and the top bit cleared, the second
highest bit set. -/
def clamp (b : Bytes) : Nat :=
  let n := ofLittleEndian b % Nat.pow 2 254
  n - n % 8 + Nat.pow 2 254

/-- The bits of a number below 2^`n`, highest first. -/
def bits (n : Nat) (k : Nat) : List Bool :=
  (List.range n).reverse.map k.testBit

end HomeKit.Curve25519
