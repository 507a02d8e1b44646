import HomeKit.Proofs.Pairing.SetupCalls

/-!
# The memory of a pair-setup machine

A machine as it lies in memory has a phase and, beside it, room for the exchange that an M1 started,
for the shared secret and for the session key that is derived from it (`SetupMemory`). The type does
not tie the four to each other: each request sets and clears them one by one, and a request that
does not find what its phase needs has an answer of its own (`handleWith`, whose first argument it
is).

A machine that started empty never comes to that. Its memory is always that of a `PairSetup`, whose
stage carries what it needs (`ofMachine`), and the two answer alike and do the same to what is
shared (`handleWith_ofMachine`).
-/

namespace HomeKit

inductive SetupPhase where
  | awaitingM1
  | awaitingM3
  | awaitingM5
  | complete
  deriving DecidableEq, Repr

/-- The number of the message that is due. -/
def SetupPhase.dueMessage : SetupPhase → UInt8
  | awaitingM1 | complete => 1
  | awaitingM3 => 3
  | awaitingM5 => 5

structure SetupMemory where
  conn : ConnectionId
  setupCode : SetupCode
  phase : SetupPhase := .awaitingM1
  server : Option Srp.Server := none
  secret : Option (Octets 64) := none
  sessionKey : Option (Octets 32) := none
  deriving DecidableEq

namespace SetupMemory

open PairSetup (Attempt perform)

/-- Is the exchange past M1 and not finished? -/
def isActive (memory : SetupMemory) : Bool :=
  memory.phase = .awaitingM3 || memory.phase = .awaitingM5

/-- What the machine remembers is what its phase needs, and no more. -/
def HoldsItsSecrets (memory : SetupMemory) : Prop :=
  match memory.phase with
  | .awaitingM1 | .complete =>
    memory.server = none ∧ memory.secret = none ∧ memory.sessionKey = none
  | .awaitingM3 => memory.server ≠ none ∧ memory.secret = none ∧ memory.sessionKey = none
  | .awaitingM5 => memory.server = none ∧ memory.secret ≠ none ∧ memory.sessionKey ≠ none

/-! ## Requests -/

def clearSecrets (memory : SetupMemory) : SetupMemory :=
  { memory with server := none, secret := none, sessionKey := none }

/-- Ends the exchange in a phase, without secrets and without the slot. -/
def settle (memory : SetupMemory) (phase : SetupPhase) : SetupProgram SetupMemory := do
  let memory := { memory.clearSecrets with phase }
  SetupProgram.perform (.release memory.conn)
  return memory

def outOfOrder (memory : SetupMemory) (actual : UInt8) : Error :=
  PairingError.sequence memory.phase.dueMessage actual

/-- Fails unless the machine is in a phase. -/
def expect (memory : SetupMemory) (phase : SetupPhase) (actual : UInt8) : Attempt Unit :=
  if memory.phase = phase then pure () else throw (memory.outOfOrder actual)

def handleM1 (suite : CipherSuite) (memory : SetupMemory) (request : Tlv) :
    Attempt (Tlv × SetupMemory) := do
  PairSetup.handleM1.liftExcept (PairSetup.checkMethod request)
  if ← perform .isPaired then throw (.pairing .unavailable)
  if memory.isActive then throw (.pairing .busy)
  if SetupAttempts.maxFailed ≤ (← perform .failed) then throw (.pairing .maxTries)
  if !(← perform (.claim memory.conn)) then throw (.pairing .busy)
  let server ← ExceptT.lift
    (PairSetup.newServer suite { conn := memory.conn, setupCode := memory.setupCode })
  let response := Tlv.ofList [(.state, [2]), (.salt, server.salt.bytes),
    (.publicKey, server.publicKey)]
  let memory := { memory with server := some server }
  return (response, { memory with phase := .awaitingM3 })

def handleM3 (missing : UInt8 → Error) (suite : CipherSuite) (memory : SetupMemory)
    (request : Tlv) : Attempt (Tlv × SetupMemory) := do
  memory.expect .awaitingM3 3
  let clientPublic ← PairSetup.handleM3.required request .publicKey
  let clientProof ← PairSetup.handleM3.required request .proof
  match memory.server with
  | none => throw (missing 3)
  | some server =>
    match server.verify suite.hash clientPublic clientProof with
    | .error _ =>
      perform .recordFailure
      throw (.pairing .authenticationFailed)
    | .ok verified =>
      let sessionKey := suite.deriveFor .pairSetup verified.key.bytes
      let response := Tlv.ofList [(.state, [4]), (.proof, verified.serverProof.bytes)]
      let memory := { memory with server := none }
      let memory := { memory with secret := some verified.key }
      let memory := { memory with sessionKey := some sessionKey }
      return (response, { memory with phase := .awaitingM5 })

/-- The message that is encrypted in M5 with the session key. -/
def openM5 (suite : CipherSuite) (sessionKey : Octets 32) (request : Tlv) : Except Error Tlv := do
  let encrypted ← PairSetup.introduced.lift (request.require .encryptedData)
  let decrypted ← PairSetup.introduced.authentic
    (suite.decryptNamed sessionKey PairSetup.nonceM5 encrypted)
  match Tlv.decode decrypted with
  | .ok inner => pure inner
  | .error error => throw (Error.parse error)

/-- The controller that signed the message of M5. -/
def signer (suite : CipherSuite) (secret : Octets 64) (inner : Tlv) :
    Except Error PairedController := do
  let idBytes ← PairSetup.introduced.lift (inner.require .identifier)
  let keyBytes ← PairSetup.introduced.lift (inner.require .publicKey)
  let signature ← PairSetup.introduced.lift (inner.require .signature)
  let publicKey ← PairSetup.introduced.authentic (publicKeyOfBytes keyBytes)
  let id ← match text? idBytes with
    | some id => pure id
    | none => throw (Error.pairing (.protocol "pairing identifier is not UTF-8"))
  let info := PairSetup.signedInfo suite .controllerSign secret idBytes publicKey
  PairSetup.introduced.authentic (suite.checkSignature publicKey info signature)
  return { id, publicKey, permissions := .admin }

/-- M6: the accessory's identity, signed, and encrypted with the session key. -/
def responseM6 (suite : CipherSuite) (identity : AccessoryIdentity) (secret : Octets 64)
    (sessionKey : Octets 32) : Tlv :=
  let id := utf8 identity.identifier
  let publicKey := identity.key.publicKey suite
  let signature :=
    identity.key.sign suite (PairSetup.signedInfo suite .accessorySign secret id publicKey)
  let inner := Tlv.ofList [(.identifier, id), (.publicKey, publicKey.bytes),
    (.signature, signature.bytes)]
  .ofList [(.state, [6]),
    (.encryptedData, suite.encryptNamed sessionKey PairSetup.nonceM6 inner.encode)]

def handleM5 (missing : UInt8 → Error) (suite : CipherSuite) (identity : AccessoryIdentity)
    (memory : SetupMemory) (request : Tlv) : Attempt (Tlv × SetupMemory) := do
  memory.expect .awaitingM5 5
  match memory.sessionKey, memory.secret with
  | some sessionKey, some secret =>
    let inner ← ExceptT.mk (pure (openM5 suite sessionKey request))
    let controller ← ExceptT.mk (pure (signer suite secret inner))
    ExceptT.mk (SetupProgram.perform (.add controller))
    let memory ← ExceptT.lift (memory.settle .complete)
    return (responseM6 suite identity secret sessionKey, memory)
  | _, _ => throw (missing 5)

def dispatch (missing : UInt8 → Error) (suite : CipherSuite) (identity : AccessoryIdentity)
    (memory : SetupMemory) (request : Tlv) (number : UInt8) : Attempt (Tlv × SetupMemory) :=
  if number = 1 then handleM1 suite memory request
  else if number = 3 then handleM3 missing suite memory request
  else if number = 5 then handleM5 missing suite identity memory request
  else throw (memory.outOfOrder number)

/-- Answers one request. A request of some number that does not find what the phase needs fails as
`missing` says. -/
def handleWith (missing : UInt8 → Error) (suite : CipherSuite) (identity : AccessoryIdentity)
    (memory : SetupMemory) (request : Bytes) : SetupProgram (Bytes × SetupMemory) := do
  match Tlv.decode request with
  | .error _ =>
    let state := memory.phase.dueMessage + 1
    let memory ← memory.settle .awaitingM1
    return ((Tlv.errorResponse state .unknown).encode, memory)
  | .ok tlv =>
    let number := tlv.state?.getD 0
    match ← (dispatch missing suite identity memory tlv number).run with
    | .ok (response, memory) => return (response.encode, memory)
    | .error error =>
      let memory ← if error = .pairing .busy then pure memory else memory.settle .awaitingM1
      return ((Tlv.errorResponse (number + 1) error.code).encode, memory)

/-- What is missing is taken for a message that is out of order. -/
def handle (suite : CipherSuite) (identity : AccessoryIdentity) (memory : SetupMemory)
    (request : Bytes) : SetupProgram (Bytes × SetupMemory) :=
  handleWith (fun number => PairingError.sequence 1 number) suite identity memory request

/-! ## The memory of a machine -/

/-- The memory of a machine: the stage, taken apart, and the session key. -/
def ofMachine (suite : CipherSuite) (machine : PairSetup) : SetupMemory :=
  let memory : SetupMemory := { conn := machine.conn, setupCode := machine.setupCode }
  match machine.stage with
  | .awaitingM1 => memory
  | .awaitingM3 server => { memory with phase := .awaitingM3, server := some server }
  | .awaitingM5 secret =>
    { memory with
      phase := .awaitingM5
      secret := some secret
      sessionKey := some (suite.deriveFor .pairSetup secret.bytes) }
  | .complete => { memory with phase := .complete }

section

variable {missing : UInt8 → Error} {suite : CipherSuite} {identity : AccessoryIdentity}
  {machine : PairSetup} {shared : SetupShared} {phase : SetupPhase} {tlv : Tlv} {request : Bytes}

@[simp] theorem ofMachine_conn : (ofMachine suite machine).conn = machine.conn := by
  unfold ofMachine
  cases machine.stage <;> rfl

@[simp] theorem ofMachine_setupCode : (ofMachine suite machine).setupCode = machine.setupCode := by
  unfold ofMachine
  cases machine.stage <;> rfl

@[simp] theorem isActive_ofMachine : (ofMachine suite machine).isActive = machine.isActive := by
  unfold ofMachine PairSetup.isActive
  cases machine.stage <;> rfl

@[simp] theorem dueMessage_ofMachine :
    (ofMachine suite machine).phase.dueMessage = machine.dueMessage := by
  unfold ofMachine PairSetup.dueMessage
  cases machine.stage <;> rfl

theorem holdsItsSecrets_ofMachine : (ofMachine suite machine).HoldsItsSecrets := by
  unfold ofMachine
  cases machine.stage <;> simp [HoldsItsSecrets]

theorem settle_run (memory : SetupMemory) (phase : SetupPhase) :
    (memory.settle phase).run shared = ({ memory.clearSecrets with phase },
      { shared with attempts := shared.attempts.release memory.conn }) :=
  rfl

/-- What an attempt of a machine leaves in memory. -/
def remembered (suite : CipherSuite) :
    Except Error (Tlv × PairSetup) × SetupShared → Except Error (Tlv × SetupMemory) × SetupShared :=
  fun (outcome, shared) =>
    (outcome.map fun (response, machine) => (response, ofMachine suite machine), shared)

open PairSetup (attempt)

/-- A machine that is not past M1 holds no secrets, so that an exchange starts with its own
alone. -/
theorem ofMachine_started (suite : CipherSuite) (h : machine.isActive = false)
    (server : Srp.Server) :
    { ofMachine suite machine with phase := .awaitingM3, server := some server } =
      ofMachine suite { machine with stage := .awaitingM3 server } := by
  rcases machine with ⟨conn, setupCode, stage⟩
  cases stage with
  | awaitingM1 => rfl
  | complete => rfl
  | awaitingM3 _ => cases h
  | awaitingM5 _ => cases h

/-- Without its secrets, a machine that is in no exchange is the same in either form. -/
theorem ofMachine_ended (suite : CipherSuite) (machine : PairSetup) :
    { (ofMachine suite machine).clearSecrets with phase := .awaitingM1 } =
        ofMachine suite { machine with stage := .awaitingM1 } ∧
      { (ofMachine suite machine).clearSecrets with phase := .complete } =
        ofMachine suite { machine with stage := .complete } := by
  rcases machine with ⟨conn, setupCode, stage⟩
  cases stage <;> exact ⟨rfl, rfl⟩

theorem attempt_handleM1 (suite : CipherSuite) (machine : PairSetup) (shared : SetupShared)
    (tlv : Tlv) :
    attempt (handleM1 suite (ofMachine suite machine) tlv) shared =
      remembered suite (attempt (PairSetup.handleM1 suite machine tlv) shared) := by
  unfold handleM1 PairSetup.handleM1 PairSetup.handleM1.liftExcept
  cases PairSetup.checkMethod tlv with
  | error error => rfl
  | ok _ =>
    cases hpaired : shared.store.isPaired with
    | true => simp [hpaired, remembered, Except.map]
    | false =>
      cases hactive : machine.isActive with
      | true => simp [hpaired, hactive, remembered, Except.map]
      | false =>
        by_cases hfailed : SetupAttempts.maxFailed ≤ shared.attempts.failed
        · simp [hpaired, hactive, hfailed, remembered, Except.map]
        · cases hclaim : (shared.attempts.claim machine.conn).1 with
          | false => simp [hpaired, hactive, hfailed, hclaim, remembered, Except.map]
          | true =>
            simp [hpaired, hactive, hfailed, hclaim, remembered, Except.map,
              PairSetup.newServer_run, ← ofMachine_started suite hactive]

/-- A message that is not due is refused in either form. -/
theorem attempt_expect (h : (ofMachine suite machine).phase ≠ phase) (actual : UInt8)
    (next : Unit → Attempt (Tlv × SetupMemory)) :
    attempt ((ofMachine suite machine).expect phase actual >>= next) shared =
      remembered suite (attempt (throw (machine.outOfOrder actual)) shared) := by
  simp [expect, h, outOfOrder, PairSetup.outOfOrder, remembered, Except.map]

theorem attempt_handleM3 (missing : UInt8 → Error) (suite : CipherSuite) (machine : PairSetup)
    (shared : SetupShared) (tlv : Tlv) :
    attempt (handleM3 missing suite (ofMachine suite machine) tlv) shared =
      remembered suite (attempt (PairSetup.handleM3 suite machine tlv) shared) := by
  rcases machine with ⟨conn, setupCode, stage⟩
  unfold handleM3 PairSetup.handleM3
  cases stage with
  | awaitingM3 server =>
    cases hkey : tlv.get? .publicKey with
    | none => simp [expect, ofMachine, PairSetup.required_eq, hkey, remembered, Except.map]
    | some publicKey =>
      cases hproof : tlv.get? .proof with
      | none =>
        simp [expect, ofMachine, PairSetup.required_eq, hkey, hproof, remembered, Except.map]
      | some proof =>
        cases hverify : server.verify suite.hash publicKey proof with
        | error error =>
          simp [expect, ofMachine, PairSetup.required_eq, hkey, hproof, hverify, remembered,
            Except.map]
        | ok verified =>
          simp [expect, ofMachine, PairSetup.required_eq, hkey, hproof, hverify, remembered,
            Except.map]
  | awaitingM1 => exact attempt_expect (by simp [ofMachine]) 3 _
  | awaitingM5 secret => exact attempt_expect (by simp [ofMachine]) 3 _
  | complete => exact attempt_expect (by simp [ofMachine]) 3 _

/-- The controller of M5 is found in two steps, each with what it needs of the secrets. -/
theorem introduced_eq (suite : CipherSuite) (secret : Octets 64) (tlv : Tlv) :
    PairSetup.introduced suite secret tlv =
      openM5 suite (suite.deriveFor .pairSetup secret.bytes) tlv >>= signer suite secret := by
  unfold PairSetup.introduced openM5 signer
  simp only [bind_assoc]
  refine bind_congr fun encrypted => bind_congr fun decrypted => ?_
  cases Tlv.decode decrypted with
  | error error => rfl
  | ok inner => rfl

theorem attempt_handleM5 (missing : UInt8 → Error) (suite : CipherSuite)
    (identity : AccessoryIdentity) (machine : PairSetup) (shared : SetupShared) (tlv : Tlv) :
    attempt (handleM5 missing suite identity (ofMachine suite machine) tlv) shared =
      remembered suite (attempt (PairSetup.handleM5 suite identity machine tlv) shared) := by
  rcases machine with ⟨conn, setupCode, stage⟩
  unfold handleM5 PairSetup.handleM5
  cases stage with
  | awaitingM5 secret =>
    cases hopen : openM5 suite (suite.deriveFor .pairSetup secret.bytes) tlv with
    | error error =>
      have hintro : PairSetup.introduced suite secret tlv = .error error := by
        rw [introduced_eq, hopen]
        rfl
      simp [expect, ofMachine, hopen, hintro, remembered, Except.map]
    | ok inner =>
      have hintro : PairSetup.introduced suite secret tlv = signer suite secret inner := by
        rw [introduced_eq, hopen]
        rfl
      cases hsigner : signer suite secret inner with
      | error error => simp [expect, ofMachine, hopen, hintro, hsigner, remembered, Except.map]
      | ok controller =>
        cases hadd : (shared.store.add controller).1 with
        | error error =>
          simp [expect, ofMachine, hopen, hintro, hsigner, hadd, remembered, Except.map]
        | ok _ =>
          simp [expect, ofMachine, hopen, hintro, hsigner, hadd, remembered, Except.map,
            settle_run, clearSecrets, responseM6, PairSetup.responseM6]
  | awaitingM1 => exact attempt_expect (by simp [ofMachine]) 5 _
  | awaitingM3 server => exact attempt_expect (by simp [ofMachine]) 5 _
  | complete => exact attempt_expect (by simp [ofMachine]) 5 _

theorem attempt_dispatch (missing : UInt8 → Error) (suite : CipherSuite)
    (identity : AccessoryIdentity) (machine : PairSetup) (shared : SetupShared) (tlv : Tlv)
    (number : UInt8) :
    attempt (dispatch missing suite identity (ofMachine suite machine) tlv number) shared =
      remembered suite
        (attempt (PairSetup.dispatch suite identity machine tlv number) shared) := by
  unfold dispatch PairSetup.dispatch
  split
  · exact attempt_handleM1 ..
  · split
    · exact attempt_handleM3 ..
    · split
      · exact attempt_handleM5 ..
      · simp [outOfOrder, PairSetup.outOfOrder, remembered, Except.map]

/-- The memory of a machine answers as the machine does, does the same to what is shared and is the
machine's memory again; nothing is ever missing. -/
theorem handleWith_ofMachine (missing : UInt8 → Error) (suite : CipherSuite)
    (identity : AccessoryIdentity) (machine : PairSetup) (shared : SetupShared) (request : Bytes) :
    ((ofMachine suite machine).handleWith missing suite identity request).run shared =
      let ((answer, machine), shared) := (machine.handle suite identity request).run shared
      ((answer, ofMachine suite machine), shared) := by
  cases hdecode : Tlv.decode request with
  | error error =>
    rw [PairSetup.handle_run_error hdecode]
    unfold handleWith
    simp only [hdecode, SetupProgram.run_bind, settle_run, SetupProgram.run_pure,
      dueMessage_ofMachine, ofMachine_conn, ofMachine_ended]
  | ok tlv =>
    have hattempt := attempt_dispatch missing suite identity machine shared tlv (tlv.state?.getD 0)
    rw [PairSetup.handle_run hdecode]
    unfold handleWith
    simp only [hdecode, SetupProgram.run_bind]
    unfold attempt at hattempt ⊢
    rw [hattempt]
    rcases (PairSetup.dispatch suite identity machine tlv (tlv.state?.getD 0)).run.run shared with
      ⟨error | ⟨response, after⟩, shared'⟩
    · by_cases hbusy : error = .pairing .busy
      · simp [remembered, Except.map, hbusy]
      · simp [remembered, Except.map, hbusy, settle_run, ofMachine_ended]
    · rfl

end

end SetupMemory

end HomeKit
