import HomeKit.Entropy
import HomeKit.Error
import HomeKit.SessionKeys

/-!
# Ephemeral key agreement

Each side of pair-verify brings a fresh key, and both agree on a secret. Each then signs a
transcript: its own ephemeral key, its identifier, the other's ephemeral key. A `KeyAgreement`
holds the two keys as one side sees them, so the transcript that one side signs is the one that the
other side checks.
-/

namespace HomeKit

structure EphemeralKey where
  secret : Octets 32
  deriving DecidableEq

/-- The outcome of an exchange, as one side sees it. -/
structure KeyAgreement where
  localKey : Octets 32
  peerKey : Octets 32
  shared : Octets 32
  deriving DecidableEq

namespace EphemeralKey

def generate (random : Entropy) : EphemeralKey × Entropy :=
  let (secret, random) := random.draw 32
  (⟨secret⟩, random)

def publicKey (suite : CipherSuite) (key : EphemeralKey) : Octets 32 :=
  suite.exchangeKey key.secret

/-- Agrees with the other side's key, unless that key forces the secret to be zero. -/
def agree (suite : CipherSuite) (key : EphemeralKey) (peerKey : Octets 32) :
    Except CryptoError KeyAgreement :=
  let shared := suite.exchange key.secret peerKey
  if shared = .replicate 32 0 then
    .error (.invalidPublicKey "peer ephemeral key is a low-order point")
  else
    .ok { localKey := key.publicKey suite, peerKey, shared }

end EphemeralKey

namespace KeyAgreement

/-- The key that encrypts the two signatures. -/
def verifyKey (suite : CipherSuite) (agreement : KeyAgreement) : Octets 32 :=
  suite.deriveFor .pairVerify agreement.shared.bytes

def localTranscript (agreement : KeyAgreement) (localId : Bytes) : Bytes :=
  agreement.localKey.bytes ++ localId ++ agreement.peerKey.bytes

def peerTranscript (agreement : KeyAgreement) (peerId : Bytes) : Bytes :=
  agreement.peerKey.bytes ++ peerId ++ agreement.localKey.bytes

end KeyAgreement

end HomeKit
