import HomeKit.Bytes

/-!
# Random bytes

Randomness is a stream of bytes that is drawn from in order (`Entropy.draw`), so what a run draws
is part of its state.
-/

namespace HomeKit

/-- A stream of random bytes and how many of them are drawn already. -/
structure Entropy where
  byte : Nat → UInt8
  drawn : Nat := 0

namespace Entropy

def next (source : Entropy) (n : Nat) : Octets n :=
  ⟨(List.range n).map fun i => source.byte (source.drawn + i), by simp⟩

def draw (source : Entropy) (n : Nat) : Octets n × Entropy :=
  (source.next n, { source with drawn := source.drawn + n })

/-- Draws a number below 2^256. -/
def drawNumber (source : Entropy) : Nat × Entropy :=
  let (bytes, source) := source.draw 32
  (ofLittleEndian bytes.bytes, source)

end Entropy

end HomeKit
