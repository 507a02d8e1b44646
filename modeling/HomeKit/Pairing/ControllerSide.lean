import HomeKit.Crypto.Srp
import HomeKit.Frame
import HomeKit.KeyAgreement
import HomeKit.Pairing.PairSetup
import HomeKit.Pairing.PairVerify
import HomeKit.SigningKey
import HomeKit.Tlv

/-!
# Pairing, the controller's side

The controller's halves of pair-setup and pair-verify: `ControllerSetup` proves the typed setup code
and exchanges identities, `ControllerVerify` opens a session with an accessory whose key is known
from there. Pair-setup goes through its messages once and in order, and after a failure every call
fails; pair-verify can be started anew at any time, and a call that fails leaves it where it was.
-/

namespace HomeKit

/-! ## Identity -/

structure ControllerIdentity where
  id : String
  key : SigningKey
  deriving DecidableEq

/-- An identifier in the layout of a UUID, from the first sixteen bytes of the public key. -/
def ControllerIdentity.ofKey (suite : CipherSuite) (key : SigningKey) : ControllerIdentity :=
  let digits := ((key.publicKey suite).bytes.take 16).flatMap IdentityStore.upperHex
  let part (start length : Nat) : List Char := (digits.drop start).take length
  { id := String.ofList (List.intercalate ['-']
      [part 0 8, part 8 4, part 12 4, part 16 4, part 20 12])
    key }

/-- What a controller learns of an accessory. -/
structure AccessoryInfo where
  id : String
  publicKey : Octets 32
  deriving DecidableEq

/-! ## Responses -/

def TlvErrorCode.reported : TlvErrorCode → PairingError
  | .authentication => .authenticationFailed
  | .unavailable => .unavailable
  | .busy => .busy
  | .maxTries => .maxTries
  | .maxPeers => .maxPeers
  | .unknown => .protocol s!"accessory returned {TlvErrorCode.unknown.name}"
  | .backoff => .protocol s!"accessory returned {TlvErrorCode.backoff.name}"

def parseResponse (response : Bytes) (number : UInt8) : Except Error Tlv :=
  match Tlv.decode response with
  | .error error => .error error
  | .ok tlv =>
    match tlv.error? with
    | some code => .error code.reported
    | none =>
      if tlv.state? = some number then .ok tlv
      else .error (PairingError.sequence number (tlv.state?.getD 0))

def pairingPart {α : Type} : Except PairingError α → Except Error α
  | .ok a => .ok a
  | .error error => .error error

def cryptoPart {α : Type} : Except CryptoError α → Except Error α
  | .ok a => .ok a
  | .error error => .error error

def parsePart {α : Type} : Except ParseError α → Except Error α
  | .ok a => .ok a
  | .error error => .error error

section

variable {α : Type} {a : α}

theorem pairingPart_eq_ok_iff {x : Except PairingError α} : pairingPart x = .ok a ↔ x = .ok a := by
  cases x <;> simp [pairingPart]

theorem cryptoPart_eq_ok_iff {x : Except CryptoError α} : cryptoPart x = .ok a ↔ x = .ok a := by
  cases x <;> simp [cryptoPart]

theorem parsePart_eq_ok_iff {x : Except ParseError α} : parsePart x = .ok a ↔ x = .ok a := by
  cases x <;> simp [parsePart]

/-- The response is a message with the number that is due, and reports no error. -/
def Responds (response : Bytes) (number : UInt8) (tlv : Tlv) : Prop :=
  Tlv.decode response = .ok tlv ∧ tlv.error? = none ∧ tlv.state? = some number

theorem parseResponse_eq_ok_iff {response : Bytes} {number : UInt8} {tlv : Tlv} :
    parseResponse response number = .ok tlv ↔ Responds response number tlv := by
  unfold parseResponse Responds
  cases hdecode : Tlv.decode response with
  | error error => simp
  | ok found =>
    simp only [Except.ok.injEq]
    cases herror : found.error? with
    | some code =>
      simp only [reduceCtorEq, false_iff, not_and]
      rintro rfl hnone
      rw [herror] at hnone
      cases hnone
    | none =>
      by_cases hstate : found.state? = some number
      · simp only [if_pos hstate, Except.ok.injEq]
        constructor
        · rintro rfl
          exact ⟨rfl, herror, hstate⟩
        · exact And.left
      · simp only [if_neg hstate, reduceCtorEq, false_iff, not_and]
        rintro rfl _
        exact hstate

end

/-! ## Pair-setup -/

/-- How far pair-setup has come, with what it needs from there on. -/
inductive ControllerSetupStage where
  | initial
  | m1Sent
  | m2Received (answer : Srp.Answer)
  | m3Sent (answer : Srp.Answer)
  | m4Received (answer : Srp.Answer)
  | m5Sent (answer : Srp.Answer)
  | complete
  | failed
  deriving DecidableEq

def ControllerSetupStage.name : ControllerSetupStage → String
  | initial => "Initial"
  | m1Sent => "M1Sent"
  | m2Received _ => "M2Received"
  | m3Sent _ => "M3Sent"
  | m4Received _ => "M4Received"
  | m5Sent _ => "M5Sent"
  | complete => "Complete"
  | failed => "Failed"

/-- The controller's half of pair-setup. -/
structure ControllerSetup where
  client : Srp.Client
  stage : ControllerSetupStage := .initial
  deriving DecidableEq

namespace ControllerSetup

/-- A controller whose user typed a setup code. -/
def generate (typed : String) (random : Entropy) : ControllerSetup × Entropy :=
  let (client, random) := Srp.Client.generate PairSetup.username
    (utf8 (SetupCode.typedPassword typed)) random
  ({ client }, random)

/-- The outcome of a call: after a failure, all further calls fail. -/
def settle {α : Type} (setup : ControllerSetup) :
    Except Error (α × ControllerSetupStage) → Except Error α × ControllerSetup
  | .ok (a, stage) => (.ok a, { setup with stage })
  | .error error => (.error error, { setup with stage := .failed })

def outOfOrder {α : Type} (setup : ControllerSetup) (target : String) :
    Except Error (α × ControllerSetupStage) :=
  .error (PairingError.protocol s!"cannot move from {setup.stage.name} to {target}")

def sendM1 (setup : ControllerSetup) : Except Error Bytes × ControllerSetup :=
  setup.settle <|
    match setup.stage with
    | .initial => .ok (Tlv.pairSetupM1.encode, .m1Sent)
    | _ => setup.outOfOrder "M1Sent"

def answerM2 (suite : CipherSuite) (setup : ControllerSetup) (response : Bytes) :
    Except Error Srp.Answer := do
  let tlv ← parseResponse response 2
  let saltBytes ← pairingPart (tlv.require .salt)
  let salt ← match Octets.ofBytes? 16 saltBytes with
    | some salt => pure salt
    | none => throw (Error.pairing (.protocol "M2 salt has wrong length"))
  let serverPublic ← pairingPart (tlv.require .publicKey)
  if Srp.width < serverPublic.length then
    throw (Error.pairing (.protocol "M2 public key too long"))
  cryptoPart (setup.client.answer suite.hash salt serverPublic)

def takeM2 (suite : CipherSuite) (setup : ControllerSetup) (response : Bytes) :
    Except Error Unit × ControllerSetup :=
  setup.settle <|
    match setup.stage with
    | .m1Sent => (setup.answerM2 suite response).map fun answer => ((), .m2Received answer)
    | _ => setup.outOfOrder "M2Received"

def sendM3 (setup : ControllerSetup) : Except Error Bytes × ControllerSetup :=
  setup.settle <|
    match setup.stage with
    | .m2Received answer =>
      .ok ((Tlv.ofList [(.state, [3]), (.publicKey, setup.client.publicKey),
        (.proof, answer.proof.bytes)]).encode, .m3Sent answer)
    | _ => setup.outOfOrder "M3Sent"

/-- Checks that the accessory knows the setup code, too. -/
def checkM4 (answer : Srp.Answer) (response : Bytes) : Except Error Unit := do
  let tlv ← parseResponse response 4
  let proof ← pairingPart (tlv.require .proof)
  if answer.accepts proof then return ()
  else throw (Error.pairing .authenticationFailed)

def takeM4 (setup : ControllerSetup) (response : Bytes) : Except Error Unit × ControllerSetup :=
  setup.settle <|
    match setup.stage with
    | .m3Sent answer => (checkM4 answer response).map fun _ => ((), .m4Received answer)
    | _ => setup.outOfOrder "M4Received"

/-- M5: the controller's identity, signed and encrypted. -/
def messageM5 (suite : CipherSuite) (answer : Srp.Answer) (identity : ControllerIdentity) : Tlv :=
  let id := utf8 identity.id
  let publicKey := identity.key.publicKey suite
  let info := PairSetup.signedInfo suite .controllerSign answer.key id publicKey
  let inner := Tlv.ofList [(.identifier, id), (.publicKey, publicKey.bytes),
    (.signature, (identity.key.sign suite info).bytes)]
  let key := suite.deriveFor .pairSetup answer.key.bytes
  .ofList [(.state, [5]), (.encryptedData, suite.encryptNamed key PairSetup.nonceM5 inner.encode)]

def sendM5 (suite : CipherSuite) (setup : ControllerSetup) (identity : ControllerIdentity) :
    Except Error Bytes × ControllerSetup :=
  setup.settle <|
    match setup.stage with
    | .m4Received answer => .ok ((messageM5 suite answer identity).encode, .m5Sent answer)
    | _ => setup.outOfOrder "M5Sent"

/-- The accessory that introduces itself, if that is encrypted and signed as it has to be. -/
def introduced (suite : CipherSuite) (answer : Srp.Answer) (response : Bytes) :
    Except Error AccessoryInfo := do
  let tlv ← parseResponse response 6
  let encrypted ← pairingPart (tlv.require .encryptedData)
  let key := suite.deriveFor .pairSetup answer.key.bytes
  let decrypted ← cryptoPart (suite.decryptNamed key PairSetup.nonceM6 encrypted)
  let inner ← parsePart (Tlv.decode decrypted)
  let idBytes ← pairingPart (inner.require .identifier)
  let id ← match text? idBytes with
    | some id => pure id
    | none => throw (Error.pairing (.protocol "accessory identifier is not UTF-8"))
  let keyBytes ← pairingPart (inner.require .publicKey)
  let publicKey ← cryptoPart (publicKeyOfBytes keyBytes)
  let signature ← pairingPart (inner.require .signature)
  let info := PairSetup.signedInfo suite .accessorySign answer.key idBytes publicKey
  cryptoPart (suite.checkSignature publicKey info signature)
  return { id, publicKey }

def takeM6 (suite : CipherSuite) (setup : ControllerSetup) (response : Bytes) :
    Except Error AccessoryInfo × ControllerSetup :=
  setup.settle <|
    match setup.stage with
    | .m5Sent answer => (introduced suite answer response).map fun info => (info, .complete)
    | _ => setup.outOfOrder "Complete"

end ControllerSetup

/-! ## Pair-verify -/

inductive ControllerVerifyStage where
  | initial
  /-- The key is used up by the first response that is one. -/
  | m1Sent (key : Option EphemeralKey)
  | m2Received (agreement : KeyAgreement)
  | m3Sent (agreement : KeyAgreement)
  | complete
  deriving DecidableEq

def ControllerVerifyStage.name : ControllerVerifyStage → String
  | initial => "Initial"
  | m1Sent _ => "M1Sent"
  | m2Received _ => "M2Received"
  | m3Sent _ => "M3Sent"
  | complete => "Complete"

structure ControllerVerify where
  identity : ControllerIdentity
  accessoryKey : Octets 32
  /-- A key to be used for every M1 in place of random ones. -/
  fixedKey : Option EphemeralKey := none
  stage : ControllerVerifyStage := .initial
  deriving DecidableEq

namespace ControllerVerify

def isComplete (verify : ControllerVerify) : Bool :=
  match verify.stage with
  | .complete => true
  | _ => false

def outOfOrder (verify : ControllerVerify) (due : String) : Error :=
  PairingError.protocol s!"expected {due}, at {verify.stage.name}"

/-- Sends M1, which starts the exchange anew. -/
def sendM1 (suite : CipherSuite) (verify : ControllerVerify) (random : Entropy) :
    Bytes × ControllerVerify × Entropy :=
  let (key, random) := match verify.fixedKey with
    | some key => (key, random)
    | none => EphemeralKey.generate random
  ((Tlv.pairVerifyM1 (key.publicKey suite)).encode, { verify with stage := .m1Sent (some key) },
    random)

/-- The agreement with an accessory whose signature is right. -/
def checkM2 (suite : CipherSuite) (verify : ControllerVerify) (key : EphemeralKey) (tlv : Tlv) :
    Except Error KeyAgreement := do
  let peerBytes ← pairingPart (tlv.require .publicKey)
  let peerKey ← cryptoPart (publicKeyOfBytes peerBytes)
  let agreement ← cryptoPart (key.agree suite peerKey)
  let encrypted ← pairingPart (tlv.require .encryptedData)
  let decrypted ← cryptoPart
    (suite.decryptNamed (agreement.verifyKey suite) PairVerify.nonceM2 encrypted)
  let inner ← parsePart (Tlv.decode decrypted)
  let id ← pairingPart (inner.require .identifier)
  let signature ← pairingPart (inner.require .signature)
  cryptoPart (suite.checkSignature verify.accessoryKey (agreement.peerTranscript id) signature)
  return agreement

def takeM2 (suite : CipherSuite) (verify : ControllerVerify) (response : Bytes) :
    Except Error Unit × ControllerVerify :=
  match verify.stage with
  | .m1Sent key =>
    match parseResponse response 2 with
    | .error error => (.error error, verify)
    | .ok tlv =>
      let spent := { verify with stage := .m1Sent none }
      match key with
      | none => (.error (PairingError.protocol "ephemeral key missing"), spent)
      | some key =>
        match verify.checkM2 suite key tlv with
        | .error error => (.error error, spent)
        | .ok agreement => (.ok (), { verify with stage := .m2Received agreement })
  | _ => (.error (verify.outOfOrder "M1Sent"), verify)

/-- M3: the controller's signature, encrypted. -/
def messageM3 (suite : CipherSuite) (identity : ControllerIdentity) (agreement : KeyAgreement) :
    Tlv :=
  let id := utf8 identity.id
  let signature := identity.key.sign suite (agreement.localTranscript id)
  let inner := Tlv.ofList [(.identifier, id), (.signature, signature.bytes)]
  .ofList [(.state, [3]),
    (.encryptedData,
      suite.encryptNamed (agreement.verifyKey suite) PairVerify.nonceM3 inner.encode)]

def sendM3 (suite : CipherSuite) (verify : ControllerVerify) :
    Except Error Bytes × ControllerVerify :=
  match verify.stage with
  | .m2Received agreement =>
    (.ok (messageM3 suite verify.identity agreement).encode,
      { verify with stage := .m3Sent agreement })
  | _ => (.error (verify.outOfOrder "M2Received"), verify)

/-- Takes M4, after which the controller has the session's keys. -/
def takeM4 (suite : CipherSuite) (verify : ControllerVerify) (response : Bytes) :
    Except Error SessionKeys × ControllerVerify :=
  match verify.stage with
  | .m3Sent agreement =>
    match parseResponse response 4 with
    | .error error => (.error error, verify)
    | .ok _ =>
      (.ok (.forController suite agreement.shared.bytes), { verify with stage := .complete })
  | _ => (.error (verify.outOfOrder "M3Sent"), verify)

end ControllerVerify

end HomeKit
