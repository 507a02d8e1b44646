import HomeKit.Crypto.CipherSuite
import HomeKit.Entropy

/-!
# A suite that hides nothing

`CipherSuite.transparent` has the laws that pairing and sessions need
(`transparent_decryptsExactly`, `transparent_verifiesSignatures`), and everything in it can be
computed: a message is encrypted by adding an empty tag, and signed by writing the public key twice.
What is said of every suite is tried out on it, with random bytes that are all the same.
-/

namespace HomeKit

/-- Every random byte is the same. -/
def Entropy.constant (b : UInt8) : Entropy where
  byte _ := b

namespace CipherSuite

/-- The tag of every message. -/
def emptyTag : Bytes := List.replicate Aead.tagLength 0

/-- A suite that hides nothing. -/
def transparent : CipherSuite where
  hash _ := .replicate 64 1
  encrypt _ _ _ message := message ++ emptyTag
  decrypt _ _ _ box :=
    if box = box.take (box.length - Aead.tagLength) ++ emptyTag then
      some (box.take (box.length - Aead.tagLength))
    else none
  signingKey seed := seed
  sign seed _ := ⟨seed.bytes ++ seed.bytes, by simp [seed.length_eq]⟩
  verify key _ signature := if signature = key.bytes ++ key.bytes then .valid else .invalid
  exchangeKey secret := secret
  exchange _ _ := .replicate 32 1

theorem transparent_decryptsExactly : transparent.DecryptsExactly := by
  intro key nonce associated box message
  simp only [transparent]
  constructor
  · intro h
    split at h
    · rename_i hbox
      cases h
      exact hbox
    · cases h
  · rintro rfl
    have hlength : (message ++ emptyTag).length - Aead.tagLength = message.length := by
      simp [emptyTag]
    rw [hlength, List.take_left, if_pos rfl]

theorem transparent_verifiesSignatures : transparent.VerifiesSignatures := by
  intro seed message
  exact if_pos rfl

end CipherSuite

end HomeKit
