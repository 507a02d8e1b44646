import HomeKit.Crypto.CipherSuite

/-!
# Derived keys

Every key comes from a shared secret, a salt and a purpose (`Purpose`). Session keys are directed:
the accessory encrypts what the controller reads, and the other way round, so the two sides hold
each other's keys swapped (`SessionKeys.forController_eq_swap`).
-/

namespace HomeKit

/-- What a key is derived for. -/
inductive Purpose where
  /-- Encrypting the last two messages of pair-setup. -/
  | pairSetup
  | controllerSign
  | accessorySign
  /-- Encrypting the middle messages of pair-verify. -/
  | pairVerify
  /-- What the controller sends in a session. -/
  | controlWrite
  /-- What the controller reads in a session. -/
  | controlRead
  deriving DecidableEq, Repr

namespace Purpose

def salt : Purpose → String
  | pairSetup => "Pair-Setup-Encrypt-Salt"
  | controllerSign => "Pair-Setup-Controller-Sign-Salt"
  | accessorySign => "Pair-Setup-Accessory-Sign-Salt"
  | pairVerify => "Pair-Verify-Encrypt-Salt"
  | controlWrite | controlRead => "Control-Salt"

def info : Purpose → String
  | pairSetup => "Pair-Setup-Encrypt-Info"
  | controllerSign => "Pair-Setup-Controller-Sign-Info"
  | accessorySign => "Pair-Setup-Accessory-Sign-Info"
  | pairVerify => "Pair-Verify-Encrypt-Info"
  | controlWrite => "Control-Write-Encryption-Key"
  | controlRead => "Control-Read-Encryption-Key"

end Purpose

def CipherSuite.deriveFor (suite : CipherSuite) (purpose : Purpose) (secret : Bytes) : Octets 32 :=
  suite.derive secret (utf8 purpose.salt) (utf8 purpose.info)

structure SessionKeys where
  encrypt : Octets 32
  decrypt : Octets 32
  deriving DecidableEq

namespace SessionKeys

def swap (keys : SessionKeys) : SessionKeys :=
  ⟨keys.decrypt, keys.encrypt⟩

def forAccessory (suite : CipherSuite) (secret : Bytes) : SessionKeys where
  encrypt := suite.deriveFor .controlRead secret
  decrypt := suite.deriveFor .controlWrite secret

def forController (suite : CipherSuite) (secret : Bytes) : SessionKeys where
  encrypt := suite.deriveFor .controlWrite secret
  decrypt := suite.deriveFor .controlRead secret

theorem forController_eq_swap (suite : CipherSuite) (secret : Bytes) :
    forController suite secret = (forAccessory suite secret).swap :=
  rfl

end SessionKeys

end HomeKit
