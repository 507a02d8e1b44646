import HomeKit.Bytes
import HomeKit.Chunks

/-!
# Poly1305

The one-time authenticator of RFC 8439: the message's 16-byte pieces, each with a one byte after
it, are the coefficients of a polynomial that is evaluated modulo 2^130 - 5 at a point taken from
the key (`clamp`); the other half of the key is added to the result.
-/

namespace HomeKit.Poly1305

def prime : Nat := Nat.pow 2 130 - 5

/-- Clears the bits of the evaluation point that the algorithm wants to be zero. -/
def clamp (r : Nat) : Nat :=
  r &&& 0x0ffffffc0ffffffc0ffffffc0fffffff

/-- The polynomial's value at `r`, by Horner's rule over the message's pieces. -/
def evaluate (r : Nat) (message : Bytes) : Nat :=
  (chunks 16 message).foldl (fun acc piece => (acc + ofLittleEndian (piece ++ [1])) * r % prime) 0

def tag (key : Octets 32) (message : Bytes) : Octets 16 where
  bytes :=
    let r := clamp (ofLittleEndian (key.bytes.take 16))
    let s := ofLittleEndian (key.bytes.drop 16)
    littleEndian 16 (evaluate r message + s)
  length_eq := by simp

end HomeKit.Poly1305
