import HomeKit.Frame
import HomeKit.Proofs.Crypto.Transparent
import HomeKit.SigningKey

/-!
# Laws of the cipher suite

What pairing and sessions rely on, in the form in which they use it: a message of a pairing exchange
comes out as it went in (`CipherSuite.UndoesEncryption`), and a signature is accepted under the key
it was made with (`VerifiesSignatures.checkSignature`). The suite of the protocol has the first of
them (`standard_undoesEncryption`).
-/

namespace HomeKit.CipherSuite

variable {suite : CipherSuite}

/-- Encrypting adds a tag to the message. -/
def AppendsTag (suite : CipherSuite) : Prop :=
  ∀ key nonce associated message,
    (suite.encrypt key nonce associated message).length = message.length + Aead.tagLength

/-- A message of a pairing exchange comes out as it went in. -/
def UndoesEncryption (suite : CipherSuite) : Prop :=
  ∀ key nonce message,
    suite.decryptNamed key nonce (suite.encryptNamed key nonce message) = .ok message

theorem DecryptsExactly.undoesEncryption (hexact : suite.DecryptsExactly)
    (htag : suite.AppendsTag) :
    suite.UndoesEncryption := by
  intro key nonce message
  have hlength := htag key nonce [] message
  have hopens := (hexact key nonce [] _ message).2 rfl
  unfold decryptNamed encryptNamed
  rw [if_neg (by omega), hopens]

/-- A signature is accepted under the key it was made with. -/
theorem VerifiesSignatures.checkSignature (h : suite.VerifiesSignatures) (key : SigningKey)
    (message : Bytes) :
    suite.checkSignature (key.publicKey suite) message (key.sign suite message).bytes = .ok () := by
  unfold CipherSuite.checkSignature SigningKey.publicKey SigningKey.sign
  rw [h]

theorem standard_appendsTag : standard.AppendsTag :=
  Aead.length_encrypt

theorem standard_undoesEncryption : standard.UndoesEncryption :=
  standard_decryptsExactly.undoesEncryption standard_appendsTag

theorem transparent_appendsTag : transparent.AppendsTag := by
  intro key nonce associated message
  simp [transparent, emptyTag]

theorem transparent_undoesEncryption : transparent.UndoesEncryption :=
  transparent_decryptsExactly.undoesEncryption transparent_appendsTag

end HomeKit.CipherSuite
