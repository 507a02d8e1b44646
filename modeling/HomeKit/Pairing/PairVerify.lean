import HomeKit.Frame
import HomeKit.KeyAgreement
import HomeKit.Pairing.IdentityStore
import HomeKit.Tlv

/-!
# Pair-verify, the accessory's side

A paired controller opens a session in two exchanges:

* M1 brings a fresh public key; M2 answers with another and with the accessory's signature over
  both, encrypted;
* M3 brings the controller's signature, encrypted; M4 says that it was accepted, and both sides
  then have the session's keys.

M1 may come at any time and starts anew; any other request but the M3 that is due ends the exchange.
-/

namespace HomeKit

structure PairVerify where
  /-- A key to be used for the next M1 in place of a random one. -/
  fixedKey : Option EphemeralKey := none
  /-- The agreement of an M1 whose M3 is due. -/
  pending : Option KeyAgreement := none
  deriving DecidableEq

/-- The controller that an exchange verified, and the keys of its session. -/
structure VerifiedController where
  id : String
  keys : SessionKeys
  deriving DecidableEq

structure VerifyResponse where
  body : Bytes
  verified : Option VerifiedController := none
  deriving DecidableEq

namespace PairVerify

def nonceM2 : Octets 12 := Frame.namedNonce (utf8 "PV-Msg02")

def nonceM3 : Octets 12 := Frame.namedNonce (utf8 "PV-Msg03")

def isPending (machine : PairVerify) : Bool :=
  machine.pending.isSome

/-- The machine's key for an M1: the fixed one, once, or else a random one. -/
def takeKey (machine : PairVerify) (random : Entropy) : EphemeralKey × Entropy :=
  match machine.fixedKey with
  | some key => (key, random)
  | none => EphemeralKey.generate random

/-- M2: the accessory's key, and its signature, encrypted. -/
def responseM2 (suite : CipherSuite) (identity : AccessoryIdentity) (agreement : KeyAgreement) :
    Tlv :=
  let id := utf8 identity.identifier
  let signature := identity.key.sign suite (agreement.localTranscript id)
  let inner := Tlv.ofList [(.identifier, id), (.signature, signature.bytes)]
  .ofList [(.state, [2]), (.publicKey, agreement.localKey.bytes),
    (.encryptedData, suite.encryptNamed (agreement.verifyKey suite) nonceM2 inner.encode)]

def handleM1 (suite : CipherSuite) (identity : AccessoryIdentity) (machine : PairVerify)
    (request : Tlv) (random : Entropy) : Except Error Tlv × PairVerify × Entropy :=
  let machine := { machine with pending := none }
  match request.require .publicKey with
  | .error error => (.error error, machine, random)
  | .ok peerBytes =>
    match Octets.ofBytes? 32 peerBytes with
    | none => (.error PairingError.authenticationFailed, machine, random)
    | some peerKey =>
      let (key, random) := machine.takeKey random
      match key.agree suite peerKey with
      | .error _ =>
        (.error PairingError.authenticationFailed, { machine with fixedKey := none }, random)
      | .ok agreement =>
        (.ok (responseM2 suite identity agreement), ⟨none, some agreement⟩, random)

/-- The controller that M3 proves to be there, and the keys of its session. -/
def accept (suite : CipherSuite) (store : IdentityStore) (agreement : KeyAgreement)
    (request : Tlv) : Except PairingError VerifiedController := do
  let encrypted ← request.require .encryptedData
  let key := agreement.verifyKey suite
  let some decrypted := (suite.decryptNamed key nonceM3 encrypted).toOption | failed
  let some inner := (Tlv.decode decrypted).toOption | failed
  let some id := (inner.get? .identifier).bind text? | failed
  let some signature := inner.get? .signature | failed
  let some controller := store.controller? id | failed
  let transcript := agreement.peerTranscript (utf8 id)
  let some _ := (suite.checkSignature controller.publicKey transcript signature).toOption | failed
  return { id := controller.id, keys := .forAccessory suite agreement.shared.bytes }
where
  /-- Every failed check looks the same. -/
  failed : Except PairingError VerifiedController :=
    .error .authenticationFailed

/-- M3: checks the controller's signature. The agreement is used up either way. -/
def handleM3 (suite : CipherSuite) (store : IdentityStore) (machine : PairVerify) (request : Tlv) :
    Except PairingError VerifiedController :=
  match machine.pending with
  | none => .error (.sequence 1 3)
  | some agreement => accept suite store agreement request

def failure (state : UInt8) (code : TlvErrorCode) : VerifyResponse :=
  { body := (Tlv.errorResponse state code).encode }

def handle (suite : CipherSuite) (store : IdentityStore) (machine : PairVerify) (request : Bytes)
    (random : Entropy) : VerifyResponse × PairVerify × Entropy :=
  let idle := { machine with pending := none }
  match Tlv.decode request with
  | .error _ => (failure (if machine.isPending then 4 else 2) .unknown, idle, random)
  | .ok tlv =>
    let number := tlv.state?.getD 0
    if number = 1 then
      match handleM1 suite store.identity machine tlv random with
      | (.ok response, machine, random) => ({ body := response.encode }, machine, random)
      | (.error error, machine, random) => (failure 2 error.code, machine, random)
    else if number = 3 then
      match handleM3 suite store machine tlv with
      | .ok verified =>
        ({ body := (Tlv.ofList [(.state, [4])]).encode, verified := some verified }, idle, random)
      | .error error => (failure 4 error.code, idle, random)
    else
      (failure (number + 1) .unknown, idle, random)

end PairVerify

end HomeKit
