import HomeKit.Crypto.Srp
import HomeKit.Frame
import HomeKit.Pairing.SetupProgram
import HomeKit.SetupCode
import HomeKit.Tlv

/-!
# Pair-setup, the accessory's side

A controller that knows the setup code pairs with the accessory in three exchanges:

* M1 asks for an attempt; M2 answers with a salt and a public value;
* M3 brings the controller's public value and its proof of the code; M4 answers with a proof;
* M5 brings the controller's identity, signed and encrypted; M6 answers with the accessory's.

Each connection has a machine of its own (`PairSetup`). Only one machine at a time is past M1, no
machine gets there once a controller is paired or too many proofs were refused, and after a failure
the machine waits for M1 again, except that a request refused because setup is busy changes
nothing.
-/

namespace HomeKit

/-- How far the exchange has come, with what it needs for the next message. -/
inductive SetupStage where
  | awaitingM1
  | awaitingM3 (server : Srp.Server)
  | awaitingM5 (shared : Octets 64)
  | complete
  deriving DecidableEq

structure PairSetup where
  conn : ConnectionId
  setupCode : SetupCode
  stage : SetupStage := .awaitingM1
  deriving DecidableEq

namespace PairSetup

def username : Bytes := utf8 "Pair-Setup"

def nonceM5 : Octets 12 := Frame.namedNonce (utf8 "PS-Msg05")

def nonceM6 : Octets 12 := Frame.namedNonce (utf8 "PS-Msg06")

/-- Is the exchange past M1 and not finished? -/
def isActive (machine : PairSetup) : Bool :=
  match machine.stage with
  | .awaitingM3 _ | .awaitingM5 _ => true
  | .awaitingM1 | .complete => false

def isComplete (machine : PairSetup) : Bool :=
  match machine.stage with
  | .complete => true
  | _ => false

def dueMessage (machine : PairSetup) : UInt8 :=
  match machine.stage with
  | .awaitingM1 | .complete => 1
  | .awaitingM3 _ => 3
  | .awaitingM5 _ => 5

abbrev Attempt (α : Type) := ExceptT Error SetupProgram α

def perform (s : SetupStep) : Attempt s.Answer :=
  ExceptT.lift (SetupProgram.perform s)

def outOfOrder (machine : PairSetup) (actual : UInt8) : Error :=
  PairingError.sequence machine.dueMessage actual

/-- What a controller signs in M5, or the accessory in M6: a derived key, an identifier and a
public key. -/
def signedInfo (suite : CipherSuite) (purpose : Purpose) (shared : Octets 64) (id : Bytes)
    (publicKey : Octets 32) : Bytes :=
  (suite.deriveFor purpose shared.bytes).bytes ++ id ++ publicKey.bytes

/-- Does M1 ask for a setup, with or without authentication? -/
def checkMethod (request : Tlv) : Except Error Unit :=
  match request.method? with
  | none => .ok ()
  | some method =>
    match PairingMethod.ofCode method with
    | .error error => .error error
    | .ok .pairSetup | .ok .pairSetupWithAuth => .ok ()
    | .ok _ => .error (PairingError.unsupportedMethod method)

/-- A new exchange, from a salt and a secret that are drawn. -/
def newServer (suite : CipherSuite) (machine : PairSetup) : SetupProgram Srp.Server := do
  let salt ← SetupProgram.perform (.draw 16)
  let secret ← SetupProgram.perform (.draw 32)
  return .new suite.hash username (utf8 machine.setupCode.dashed) salt (ofLittleEndian secret.bytes)

/-- M1: starts an exchange if none is under way, no controller is paired and few enough proofs were
refused. -/
def handleM1 (suite : CipherSuite) (machine : PairSetup) (request : Tlv) :
    Attempt (Tlv × PairSetup) := do
  liftExcept (checkMethod request)
  if ← perform .isPaired then throw (.pairing .unavailable)
  if machine.isActive then throw (.pairing .busy)
  if SetupAttempts.maxFailed ≤ (← perform .failed) then throw (.pairing .maxTries)
  if !(← perform (.claim machine.conn)) then throw (.pairing .busy)
  let server ← ExceptT.lift (newServer suite machine)
  return (.ofList [(.state, [2]), (.salt, server.salt.bytes), (.publicKey, server.publicKey)],
    { machine with stage := .awaitingM3 server })
where
  liftExcept {α : Type} (outcome : Except Error α) : Attempt α :=
    ExceptT.mk (pure outcome)

def handleM3 (suite : CipherSuite) (machine : PairSetup) (request : Tlv) :
    Attempt (Tlv × PairSetup) := do
  match machine.stage with
  | .awaitingM3 server =>
    let clientPublic ← required request .publicKey
    let clientProof ← required request .proof
    match server.verify suite.hash clientPublic clientProof with
    | .error _ =>
      perform .recordFailure
      throw (.pairing .authenticationFailed)
    | .ok verified =>
      return (.ofList [(.state, [4]), (.proof, verified.serverProof.bytes)],
        { machine with stage := .awaitingM5 verified.key })
  | _ => throw (machine.outOfOrder 3)
where
  required (request : Tlv) (type : TlvType) : Attempt Bytes :=
    match request.require type with
    | .ok value => pure value
    | .error error => throw (.pairing error)

/-- The controller that M5 introduces, if it is encrypted and signed as it has to be. -/
def introduced (suite : CipherSuite) (shared : Octets 64) (request : Tlv) :
    Except Error PairedController := do
  let encrypted ← lift (request.require .encryptedData)
  let key := suite.deriveFor .pairSetup shared.bytes
  let decrypted ← authentic (suite.decryptNamed key nonceM5 encrypted)
  let inner ← match Tlv.decode decrypted with
    | .ok inner => pure inner
    | .error error => throw (Error.parse error)
  let idBytes ← lift (inner.require .identifier)
  let keyBytes ← lift (inner.require .publicKey)
  let signature ← lift (inner.require .signature)
  let publicKey ← authentic (publicKeyOfBytes keyBytes)
  let id ← match text? idBytes with
    | some id => pure id
    | none => throw (Error.pairing (.protocol "pairing identifier is not UTF-8"))
  let info := signedInfo suite .controllerSign shared idBytes publicKey
  authentic (suite.checkSignature publicKey info signature)
  return { id, publicKey, permissions := .admin }
where
  lift {α : Type} : Except PairingError α → Except Error α
    | .ok a => .ok a
    | .error error => .error error
  /-- Whatever is wrong, only that something is comes out. -/
  authentic {α : Type} : Except CryptoError α → Except Error α
    | .ok a => .ok a
    | .error _ => .error PairingError.authenticationFailed

/-- M6: the accessory's identity, signed and encrypted. -/
def responseM6 (suite : CipherSuite) (identity : AccessoryIdentity) (shared : Octets 64) : Tlv :=
  let id := utf8 identity.identifier
  let publicKey := identity.key.publicKey suite
  let signature := identity.key.sign suite (signedInfo suite .accessorySign shared id publicKey)
  let inner := Tlv.ofList [(.identifier, id), (.publicKey, publicKey.bytes),
    (.signature, signature.bytes)]
  let key := suite.deriveFor .pairSetup shared.bytes
  .ofList [(.state, [6]), (.encryptedData, suite.encryptNamed key nonceM6 inner.encode)]

def handleM5 (suite : CipherSuite) (identity : AccessoryIdentity) (machine : PairSetup)
    (request : Tlv) : Attempt (Tlv × PairSetup) := do
  match machine.stage with
  | .awaitingM5 shared =>
    let controller ← ExceptT.mk (pure (introduced suite shared request))
    ExceptT.mk (SetupProgram.perform (.add controller))
    perform (.release machine.conn)
    return (responseM6 suite identity shared, { machine with stage := .complete })
  | _ => throw (machine.outOfOrder 5)

def dispatch (suite : CipherSuite) (identity : AccessoryIdentity) (machine : PairSetup)
    (request : Tlv) (number : UInt8) : Attempt (Tlv × PairSetup) :=
  if number = 1 then handleM1 suite machine request
  else if number = 3 then handleM3 suite machine request
  else if number = 5 then handleM5 suite identity machine request
  else throw (machine.outOfOrder number)

/-- Gives up the exchange: the machine waits for M1 and does not hold the slot. -/
def reset (machine : PairSetup) : SetupProgram PairSetup := do
  SetupProgram.perform (.release machine.conn)
  return { machine with stage := .awaitingM1 }

/-- Answers one request. A failure is answered with the number of the answer that was due and the
code of the failure. -/
def handle (suite : CipherSuite) (identity : AccessoryIdentity) (machine : PairSetup)
    (request : Bytes) : SetupProgram (Bytes × PairSetup) := do
  match Tlv.decode request with
  | .error _ =>
    let state := machine.dueMessage + 1
    let machine ← machine.reset
    return ((Tlv.errorResponse state .unknown).encode, machine)
  | .ok tlv =>
    let number := tlv.state?.getD 0
    match ← (dispatch suite identity machine tlv number).run with
    | .ok (response, machine) => return (response.encode, machine)
    | .error error =>
      let machine ← if error = .pairing .busy then pure machine else machine.reset
      return ((Tlv.errorResponse (number + 1) error.code).encode, machine)

end PairSetup

end HomeKit
