import HomeKit.Crypto.Aead
import HomeKit.Crypto.Ed25519
import HomeKit.Crypto.Hkdf
import HomeKit.Crypto.X25519

/-!
# The cipher suite

Everything above the primitives takes them from one record, so that what is said about pairing and
sessions holds of any suite with the laws it needs, such as `DecryptsExactly` and
`VerifiesSignatures`. `CipherSuite.standard` is the suite of the protocol; it decrypts exactly what
it encrypted (`standard_decryptsExactly`).
-/

namespace HomeKit

/-- The primitives that the protocol is built from. -/
structure CipherSuite where
  hash : Bytes → Octets 64
  /-- Key, nonce, associated data, message. -/
  encrypt : Octets 32 → Octets 12 → Bytes → Bytes → Bytes
  decrypt : Octets 32 → Octets 12 → Bytes → Bytes → Option Bytes
  signingKey : Octets 32 → Octets 32
  /-- Seed, message. -/
  sign : Octets 32 → Bytes → Octets 64
  verify : Octets 32 → Bytes → Bytes → Ed25519.Verdict
  exchangeKey : Octets 32 → Octets 32
  /-- What an ephemeral secret and the other side's public key agree on. -/
  exchange : Octets 32 → Octets 32 → Octets 32

namespace CipherSuite

/-- SHA-512, ChaCha20-Poly1305, Ed25519 and X25519. -/
def standard : CipherSuite where
  hash := Sha512.digest
  encrypt := Aead.encrypt
  decrypt := Aead.decrypt
  signingKey := Ed25519.publicKey
  sign := Ed25519.sign
  verify := Ed25519.verify
  exchangeKey := X25519.publicKey
  exchange := X25519.agree

/-- The 32-byte key that a secret gives for one salt and one purpose. -/
def derive (suite : CipherSuite) (secret salt info : Bytes) : Octets 32 :=
  Hkdf.derive suite.hash secret salt info

/-- Exactly the encrypted messages decrypt. -/
def DecryptsExactly (suite : CipherSuite) : Prop :=
  ∀ key nonce associated box message,
    suite.decrypt key nonce associated box = some message ↔
      box = suite.encrypt key nonce associated message

/-- A signature verifies under the key of its seed. -/
def VerifiesSignatures (suite : CipherSuite) : Prop :=
  ∀ seed message,
    suite.verify (suite.signingKey seed) message (suite.sign seed message).bytes = .valid

theorem standard_decryptsExactly : standard.DecryptsExactly :=
  fun _ _ _ _ _ => Aead.decrypt_eq_some_iff

end CipherSuite

end HomeKit
