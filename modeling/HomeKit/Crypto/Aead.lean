import HomeKit.Crypto.ChaCha20
import HomeKit.Crypto.Poly1305

/-!
# ChaCha20-Poly1305

Authenticated encryption as in RFC 8439: the cipher text is followed by a tag over the associated
data and the cipher text, and the tag's one-time key is the first block of the key stream. Main
fact: exactly the sealed messages open, each to the message that was sealed
(`decrypt_eq_some_iff`).
-/

namespace HomeKit.Aead

def tagLength : Nat := 16

/-- Zeros up to the next multiple of 16 bytes. -/
def padding (b : Bytes) : Bytes :=
  List.replicate ((16 - b.length % 16) % 16) 0

/-- What is authenticated: associated data and cipher text, each padded, and their lengths. -/
def authenticated (associated ciphertext : Bytes) : Bytes :=
  associated ++ padding associated ++ ciphertext ++ padding ciphertext ++
    littleEndian 8 associated.length ++ littleEndian 8 ciphertext.length

def tag (key : Octets 32) (nonce : Octets 12) (associated ciphertext : Bytes) : Octets 16 :=
  let stream := ChaCha20.block key nonce 0
  Poly1305.tag (.ofPrefix 32 stream.bytes (by simp [stream.length_eq]))
    (authenticated associated ciphertext)

def encrypt (key : Octets 32) (nonce : Octets 12) (associated message : Bytes) : Bytes :=
  let ciphertext := ChaCha20.apply key nonce 1 message
  ciphertext ++ (tag key nonce associated ciphertext).bytes

def decrypt (key : Octets 32) (nonce : Octets 12) (associated box : Bytes) : Option Bytes :=
  let ciphertext := box.take (box.length - tagLength)
  if box.drop (box.length - tagLength) = (tag key nonce associated ciphertext).bytes then
    some (ChaCha20.apply key nonce 1 ciphertext)
  else
    none

@[simp] theorem length_encrypt (key : Octets 32) (nonce : Octets 12) (associated message : Bytes) :
    (encrypt key nonce associated message).length = message.length + tagLength := by
  simp [encrypt, ChaCha20.length_apply, (tag _ _ _ _).length_eq, tagLength]

/-- Exactly the sealed messages open, each to the message that was sealed. -/
theorem decrypt_eq_some_iff {key : Octets 32} {nonce : Octets 12} {associated box message : Bytes} :
    decrypt key nonce associated box = some message ↔
      box = encrypt key nonce associated message := by
  constructor
  · intro h
    simp only [decrypt] at h
    split at h
    · rename_i htag
      cases h
      simp only [encrypt, ChaCha20.apply_apply, ← htag, List.take_append_drop]
    · cases h
  · rintro rfl
    have hlen : (encrypt key nonce associated message).length - tagLength =
        (ChaCha20.apply key nonce 1 message).length := by
      simp [ChaCha20.length_apply]
    simp only [decrypt, hlen]
    simp [encrypt]

end HomeKit.Aead
