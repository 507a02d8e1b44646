import HomeKit.Crypto.CipherSuite
import HomeKit.Entropy
import HomeKit.Error

/-!
# Long-term signing keys

The accessory and every controller own one `SigningKey`; the other side knows its public half.
-/

namespace HomeKit

/-- A long-term key, given by its seed. -/
structure SigningKey where
  seed : Octets 32
  deriving DecidableEq

namespace SigningKey

def generate (random : Entropy) : SigningKey × Entropy :=
  let (seed, random) := random.draw 32
  (⟨seed⟩, random)

def publicKey (suite : CipherSuite) (key : SigningKey) : Octets 32 :=
  suite.signingKey key.seed

def sign (suite : CipherSuite) (key : SigningKey) (message : Bytes) : Octets 64 :=
  suite.sign key.seed message

end SigningKey

/-- Checks a signature of any length. -/
def CipherSuite.checkSignature (suite : CipherSuite) (publicKey : Octets 32)
    (message signature : Bytes) : Except CryptoError Unit :=
  match suite.verify publicKey message signature with
  | .valid => .ok ()
  | .invalid => .error .signatureInvalid
  | .badKey => .error (.invalidPublicKey "signature error: Cannot decompress Edwards point")

def publicKeyOfBytes (b : Bytes) : Except CryptoError (Octets 32) :=
  match Octets.ofBytes? 32 b with
  | some key => .ok key
  | none => .error (.invalidKeyLength 32 b.length)

end HomeKit
