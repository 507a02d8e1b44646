import HomeKit.Bytes

/-!
# Key derivation

HMAC (RFC 2104) and HKDF (RFC 5869) over any hash with 64-byte digests and 128-byte blocks. The
protocol only derives keys of 32 bytes, which is less than one digest, so the expansion of HKDF is
its first round.
-/

namespace HomeKit.Hkdf

/-- The block size, in bytes, of the hashes that keys are derived with. -/
def blockSize : Nat := 128

/-- The key as one block: hashed first if it is longer, and filled up with zeros. -/
def blockKey (hash : Bytes → Octets 64) (key : Bytes) : Bytes :=
  let short := if key.length > blockSize then (hash key).bytes else key
  short ++ List.replicate (blockSize - short.length) 0

def hmac (hash : Bytes → Octets 64) (key message : Bytes) : Octets 64 :=
  let block := blockKey hash key
  let inner := hash (block.map (· ^^^ 0x36) ++ message)
  hash (block.map (· ^^^ 0x5c) ++ inner.bytes)

def derive (hash : Bytes → Octets 64) (secret salt info : Bytes) : Octets 32 :=
  let pseudorandomKey := hmac hash salt secret
  let block := hmac hash pseudorandomKey.bytes (info ++ [1])
  .ofPrefix 32 block.bytes (by simp [block.length_eq])

end HomeKit.Hkdf
