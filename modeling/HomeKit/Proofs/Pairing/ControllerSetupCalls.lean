import HomeKit.Proofs.Calls
import HomeKit.Proofs.Pairing.SetupComplete

/-!
# Calls of the controller's side of pair-setup

The controller's side may be called in any order, with any responses (`ControllerSetup.Call`). As it
lies in memory it has a phase and, beside it, room for its answer to the accessory's challenge and
for the key that is derived from it (`ControllerSetupMemory`). A call sets the phase before it
checks anything else, and there are four places where it may give up: at the phase itself
(`advance`), at the response (`checkResponse`), at what it finds in memory, and at what the response
holds (`orFail`).

All of them leave the memory failed: a memory that agrees with a `ControllerSetup` in what its stage
carries (`Remembers`) answers every call as that does (`outcomes_eq`).
-/

namespace HomeKit

/-! ## Calls -/

inductive ControllerSetupPhase where
  | initial
  | m1Sent
  | m2Received
  | m3Sent
  | m4Received
  | m5Sent
  | complete
  | failed
  deriving DecidableEq

def ControllerSetupPhase.name : ControllerSetupPhase → String
  | initial => "Initial"
  | m1Sent => "M1Sent"
  | m2Received => "M2Received"
  | m3Sent => "M3Sent"
  | m4Received => "M4Received"
  | m5Sent => "M5Sent"
  | complete => "Complete"
  | failed => "Failed"

def ControllerSetupStage.phase : ControllerSetupStage → ControllerSetupPhase
  | initial => .initial
  | m1Sent => .m1Sent
  | m2Received _ => .m2Received
  | m3Sent _ => .m3Sent
  | m4Received _ => .m4Received
  | m5Sent _ => .m5Sent
  | complete => .complete
  | failed => .failed

theorem ControllerSetupStage.name_phase (stage : ControllerSetupStage) :
    stage.phase.name = stage.name := by
  cases stage <;> rfl

namespace ControllerSetup

inductive Call where
  | sendM1
  | takeM2 (response : Bytes)
  | sendM3
  | takeM4 (response : Bytes)
  | sendM5 (identity : ControllerIdentity)
  | takeM6 (response : Bytes)
  deriving DecidableEq

/-- What a call gives if it succeeds. -/
inductive Outcome where
  | message (bytes : Bytes)
  | accepted
  | accessory (info : AccessoryInfo)
  deriving DecidableEq

namespace Call

/-- The number of the message that the call sends or takes. -/
def number : Call → Nat
  | sendM1 => 1
  | takeM2 _ => 2
  | sendM3 => 3
  | takeM4 _ => 4
  | sendM5 _ => 5
  | takeM6 _ => 6

/-- The phase in which the call is due. -/
def due : Call → ControllerSetupPhase
  | sendM1 => .initial
  | takeM2 _ => .m1Sent
  | sendM3 => .m2Received
  | takeM4 _ => .m3Sent
  | sendM5 _ => .m4Received
  | takeM6 _ => .m5Sent

/-- The phase that the call leads to. -/
def target : Call → ControllerSetupPhase
  | sendM1 => .m1Sent
  | takeM2 _ => .m2Received
  | sendM3 => .m3Sent
  | takeM4 _ => .m4Received
  | sendM5 _ => .m5Sent
  | takeM6 _ => .complete

end Call

def call (suite : CipherSuite) (setup : ControllerSetup) :
    Call → Except Error Outcome × ControllerSetup
  | .sendM1 => setup.sendM1.map (·.map .message) id
  | .takeM2 response => (setup.takeM2 suite response).map (·.map fun _ => .accepted) id
  | .sendM3 => setup.sendM3.map (·.map .message) id
  | .takeM4 response => (setup.takeM4 response).map (·.map fun _ => .accepted) id
  | .sendM5 identity => (setup.sendM5 suite identity).map (·.map .message) id
  | .takeM6 response => (setup.takeM6 suite response).map (·.map .accessory) id

/-- A call that is not due fails, whatever it brings. -/
theorem call_of_ne {suite : CipherSuite} {setup : ControllerSetup} {next : Call}
    (h : setup.stage.phase ≠ next.due) :
    call suite setup next =
      (.error (PairingError.protocol
        s!"cannot move from {setup.stage.name} to {next.target.name}"),
        { setup with stage := .failed }) := by
  obtain ⟨client, stage⟩ := setup
  cases next <;> cases stage <;> first | rfl | exact absurd rfl h

end ControllerSetup

/-! ## Memory -/

structure ControllerSetupMemory where
  client : Srp.Client
  phase : ControllerSetupPhase := .initial
  answer : Option Srp.Answer := none
  sessionKey : Option (Octets 32) := none

namespace ControllerSetupMemory

open ControllerSetup (Call Outcome)

/-- A call that is being answered. What it has done to the memory stays if it fails. -/
abbrev Attempt (α : Type) := ExceptT Error (StateM ControllerSetupMemory) α

def failed {α : Type} (error : Error) : Attempt α := do
  modify fun memory => { memory with phase := .failed }
  throw error

def advance (source target : ControllerSetupPhase) : Attempt Unit := do
  let memory ← get
  if memory.phase ≠ source then
    failed (PairingError.protocol s!"cannot move from {memory.phase.name} to {target.name}")
  else
    set { memory with phase := target }

def checkResponse (response : Bytes) (number : UInt8) : Attempt Tlv :=
  match parseResponse response number with
  | .ok tlv => pure tlv
  | .error error => failed error

/-- A part of the work that does not touch the memory; if it fails, the call does. -/
def orFail {α : Type} : Except Error α → Attempt α
  | .ok a => pure a
  | .error error => failed error

def sendM1 : Attempt Bytes := do
  advance .initial .m1Sent
  return Tlv.pairSetupM1.encode

/-- The answer to the challenge in a response. -/
def answerTo (suite : CipherSuite) (client : Srp.Client) (tlv : Tlv) : Except Error Srp.Answer := do
  let saltBytes ← pairingPart (tlv.require .salt)
  let salt ← match Octets.ofBytes? 16 saltBytes with
    | some salt => pure salt
    | none => throw (Error.pairing (.protocol "M2 salt has wrong length"))
  let serverPublic ← pairingPart (tlv.require .publicKey)
  if Srp.width < serverPublic.length then
    throw (Error.pairing (.protocol "M2 public key too long"))
  cryptoPart (client.answer suite.hash salt serverPublic)

def takeM2 (suite : CipherSuite) (response : Bytes) : Attempt Unit := do
  advance .m1Sent .m2Received
  let tlv ← checkResponse response 2
  let memory ← get
  let answer ← orFail (answerTo suite memory.client tlv)
  modify fun memory => { memory with answer := some answer }

def sendM3 : Attempt Bytes := do
  advance .m2Received .m3Sent
  let memory ← get
  match memory.answer with
  | none => failed (PairingError.protocol "SRP proof not computed")
  | some answer =>
    return (Tlv.ofList [(.state, [3]), (.publicKey, memory.client.publicKey),
      (.proof, answer.proof.bytes)]).encode

def takeM4 (suite : CipherSuite) (response : Bytes) : Attempt Unit := do
  advance .m3Sent .m4Received
  let tlv ← checkResponse response 4
  match (← get).answer with
  | none => failed (PairingError.protocol "SRP proof not computed")
  | some answer =>
    let proof ← orFail (pairingPart (tlv.require .proof))
    if answer.accepts proof then
      let sessionKey := suite.deriveFor .pairSetup answer.key.bytes
      modify fun memory => { memory with sessionKey := some sessionKey }
    else
      failed (Error.pairing .authenticationFailed)

def sendM5 (suite : CipherSuite) (identity : ControllerIdentity) : Attempt Bytes := do
  advance .m4Received .m5Sent
  let memory ← get
  match memory.answer, memory.sessionKey with
  | some answer, some sessionKey =>
    let id := utf8 identity.id
    let publicKey := identity.key.publicKey suite
    let info := PairSetup.signedInfo suite .controllerSign answer.key id publicKey
    let inner := Tlv.ofList [(.identifier, id), (.publicKey, publicKey.bytes),
      (.signature, (identity.key.sign suite info).bytes)]
    return (Tlv.ofList [(.state, [5]),
      (.encryptedData, suite.encryptNamed sessionKey PairSetup.nonceM5 inner.encode)]).encode
  | _, _ => failed (PairingError.protocol "session key not derived")

/-- The accessory that a response introduces, read with the key in memory. -/
def introducedIn (suite : CipherSuite) (answer : Srp.Answer) (sessionKey : Octets 32) (tlv : Tlv) :
    Except Error AccessoryInfo := do
  let encrypted ← pairingPart (tlv.require .encryptedData)
  let decrypted ← cryptoPart (suite.decryptNamed sessionKey PairSetup.nonceM6 encrypted)
  let inner ← parsePart (Tlv.decode decrypted)
  let idBytes ← pairingPart (inner.require .identifier)
  let id ← match text? idBytes with
    | some id => pure id
    | none => throw (Error.pairing (.protocol "accessory identifier is not UTF-8"))
  let keyBytes ← pairingPart (inner.require .publicKey)
  let publicKey ← cryptoPart (publicKeyOfBytes keyBytes)
  let signature ← pairingPart (inner.require .signature)
  let info := PairSetup.signedInfo suite .accessorySign answer.key idBytes publicKey
  cryptoPart (suite.checkSignature publicKey info signature)
  return { id, publicKey }

def takeM6 (suite : CipherSuite) (response : Bytes) : Attempt AccessoryInfo := do
  advance .m5Sent .complete
  let tlv ← checkResponse response 6
  let memory ← get
  match memory.answer, memory.sessionKey with
  | some answer, some sessionKey => orFail (introducedIn suite answer sessionKey tlv)
  | _, _ => failed (PairingError.protocol "session key not derived")

def attempt (suite : CipherSuite) : Call → Attempt Outcome
  | .sendM1 => .message <$> sendM1
  | .takeM2 response => (fun _ => .accepted) <$> takeM2 suite response
  | .sendM3 => .message <$> sendM3
  | .takeM4 response => (fun _ => .accepted) <$> takeM4 suite response
  | .sendM5 identity => .message <$> sendM5 suite identity
  | .takeM6 response => .accessory <$> takeM6 suite response

def call (suite : CipherSuite) (memory : ControllerSetupMemory) (next : Call) :
    Except Error Outcome × ControllerSetupMemory :=
  (attempt suite next).run.run memory

end ControllerSetupMemory

/-! ## Memory and stage -/

namespace ControllerSetupMemory

open ControllerSetup (Call Outcome)

theorem answerM2_eq (suite : CipherSuite) (setup : ControllerSetup) (response : Bytes) :
    setup.answerM2 suite response = parseResponse response 2 >>= answerTo suite setup.client :=
  rfl

theorem introduced_eq (suite : CipherSuite) (answer : Srp.Answer) (response : Bytes) :
    ControllerSetup.introduced suite answer response = parseResponse response 6 >>=
      introducedIn suite answer (suite.deriveFor .pairSetup answer.key.bytes) :=
  rfl

theorem call_of_ne {suite : CipherSuite} {memory : ControllerSetupMemory} {next : Call}
    (h : memory.phase ≠ next.due) :
    call suite memory next =
      (.error (PairingError.protocol
        s!"cannot move from {memory.phase.name} to {next.target.name}"),
        { memory with phase := .failed }) := by
  obtain ⟨client, phase, answer, sessionKey⟩ := memory
  cases next <;> cases phase <;> first | rfl | exact absurd rfl h

/-- The memory holds what the stage carries. What the stage does not carry may be anything. -/
def Holds (suite : CipherSuite) (memory : ControllerSetupMemory) : ControllerSetupStage → Prop
  | .m2Received answer | .m3Sent answer => memory.answer = some answer
  | .m4Received answer | .m5Sent answer =>
    memory.answer = some answer ∧
      memory.sessionKey = some (suite.deriveFor .pairSetup answer.key.bytes)
  | .initial | .m1Sent | .complete | .failed => True

/-- The memory is that of a machine at its stage. -/
structure Remembers (suite : CipherSuite) (memory : ControllerSetupMemory)
    (setup : ControllerSetup) : Prop where
  client : memory.client = setup.client
  phase : memory.phase = setup.stage.phase
  holds : memory.Holds suite setup.stage

/-- What a call comes to in memory is what it comes to in the machine. -/
def Agrees {α : Type} (suite : CipherSuite) (done : Except Error α × ControllerSetupMemory)
    (done' : Except Error α × ControllerSetup) : Prop :=
  done.1 = done'.1 ∧ Remembers suite done.2 done'.2

/-- A machine that starts has nothing to remember. -/
theorem remembers_client (suite : CipherSuite) (setup : ControllerSetup)
    (h : setup.stage = .initial) : Remembers suite { client := setup.client } setup := by
  refine ⟨rfl, ?_, ?_⟩
  · rw [h]
    rfl
  · rw [h]
    trivial

section

variable (suite : CipherSuite) (client : Srp.Client) (answer : Srp.Answer)
  (answer? : Option Srp.Answer) (sessionKey? : Option (Octets 32)) (response : Bytes)

theorem sendM1_agrees :
    Agrees suite (sendM1.run.run ⟨client, .initial, answer?, sessionKey?⟩)
      (ControllerSetup.sendM1 ⟨client, .initial⟩) :=
  ⟨rfl, rfl, rfl, trivial⟩

theorem takeM2_agrees :
    Agrees suite ((takeM2 suite response).run.run ⟨client, .m1Sent, answer?, sessionKey?⟩)
      (ControllerSetup.takeM2 suite ⟨client, .m1Sent⟩ response) := by
  unfold takeM2 ControllerSetup.takeM2 checkResponse
  rw [answerM2_eq]
  cases parseResponse response 2 with
  | error error => exact ⟨rfl, rfl, rfl, trivial⟩
  | ok tlv =>
    show Agrees suite (StateT.run (ExceptT.run (orFail (answerTo suite client tlv) >>= _)) _)
      (ControllerSetup.settle _ ((answerTo suite client tlv).map _))
    cases answerTo suite client tlv with
    | error error => exact ⟨rfl, rfl, rfl, trivial⟩
    | ok answer => exact ⟨rfl, rfl, rfl, rfl⟩

theorem sendM3_agrees :
    Agrees suite (sendM3.run.run ⟨client, .m2Received, some answer, sessionKey?⟩)
      (ControllerSetup.sendM3 ⟨client, .m2Received answer⟩) :=
  ⟨rfl, rfl, rfl, rfl⟩

theorem takeM4_agrees :
    Agrees suite ((takeM4 suite response).run.run ⟨client, .m3Sent, some answer, sessionKey?⟩)
      (ControllerSetup.takeM4 ⟨client, .m3Sent answer⟩ response) := by
  unfold takeM4 ControllerSetup.takeM4 ControllerSetup.checkM4 checkResponse
  cases parseResponse response 4 with
  | error error => exact ⟨rfl, rfl, rfl, trivial⟩
  | ok tlv =>
    show Agrees suite (StateT.run (ExceptT.run (orFail (pairingPart (tlv.require .proof)) >>= _)) _)
      (ControllerSetup.settle _ (Except.map _ (pairingPart (tlv.require .proof) >>= _)))
    cases pairingPart (tlv.require .proof) with
    | error error => exact ⟨rfl, rfl, rfl, trivial⟩
    | ok proof =>
      show Agrees suite
        (StateT.run (ExceptT.run (if answer.accepts proof then _ else _ : Attempt Unit)) _)
        (ControllerSetup.settle _ (Except.map _ (if answer.accepts proof then _ else _)))
      cases answer.accepts proof with
      | false => exact ⟨rfl, rfl, rfl, trivial⟩
      | true => exact ⟨rfl, rfl, rfl, rfl, rfl⟩

theorem sendM5_agrees (identity : ControllerIdentity) :
    let sessionKey := suite.deriveFor .pairSetup answer.key.bytes
    Agrees suite
      ((sendM5 suite identity).run.run ⟨client, .m4Received, some answer, some sessionKey⟩)
      (ControllerSetup.sendM5 suite ⟨client, .m4Received answer⟩ identity) :=
  ⟨rfl, rfl, rfl, rfl, rfl⟩

theorem takeM6_agrees :
    let sessionKey := suite.deriveFor .pairSetup answer.key.bytes
    Agrees suite ((takeM6 suite response).run.run ⟨client, .m5Sent, some answer, some sessionKey⟩)
      (ControllerSetup.takeM6 suite ⟨client, .m5Sent answer⟩ response) := by
  intro sessionKey
  unfold takeM6 ControllerSetup.takeM6 checkResponse
  simp only [introduced_eq]
  cases parseResponse response 6 with
  | error error => exact ⟨rfl, rfl, rfl, trivial⟩
  | ok tlv =>
    show Agrees suite
      (StateT.run (ExceptT.run (orFail (introducedIn suite answer sessionKey tlv))) _)
      (ControllerSetup.settle _ ((introducedIn suite answer sessionKey tlv).map _))
    cases introducedIn suite answer sessionKey tlv with
    | error error => exact ⟨rfl, rfl, rfl, trivial⟩
    | ok info => exact ⟨rfl, rfl, rfl, trivial⟩

end

section

variable {suite : CipherSuite} {memory : ControllerSetupMemory} {setup : ControllerSetup}

theorem Agrees.map {α β : Type} {attempt : Attempt α} {done' : Except Error α × ControllerSetup}
    (h : Agrees suite (attempt.run.run memory) done') (f : α → β) :
    Agrees suite ((f <$> attempt).run.run memory) (done'.map (·.map f) id) := by
  have hrun : (f <$> attempt).run.run memory = (attempt.run.run memory).map (·.map f) id := by
    rw [ExceptT.run_map, StateT.run_map]
    rfl
  rw [hrun]
  exact ⟨congrArg (·.map f) h.1, h.2⟩

/-- A call is answered alike, and the memory is that of the machine again. -/
theorem Remembers.call (h : Remembers suite memory setup) (next : Call) :
    Agrees suite (ControllerSetupMemory.call suite memory next)
      (ControllerSetup.call suite setup next) := by
  by_cases hdue : setup.stage.phase = next.due
  · obtain ⟨client, phase, answer?, sessionKey?⟩ := memory
    obtain ⟨_, stage⟩ := setup
    obtain ⟨hclient, hphase, hholds⟩ := h
    cases hclient
    cases hphase
    cases next with
    | sendM1 =>
      cases stage with
      | initial => exact (sendM1_agrees ..).map _
      | _ => cases hdue
    | takeM2 response =>
      cases stage with
      | m1Sent => exact (takeM2_agrees ..).map _
      | _ => cases hdue
    | sendM3 =>
      cases stage with
      | m2Received answer =>
        cases hholds
        exact (sendM3_agrees ..).map _
      | _ => cases hdue
    | takeM4 response =>
      cases stage with
      | m3Sent answer =>
        cases hholds
        exact (takeM4_agrees ..).map _
      | _ => cases hdue
    | sendM5 identity =>
      cases stage with
      | m4Received answer =>
        obtain ⟨⟨⟩, ⟨⟩⟩ := hholds
        exact (sendM5_agrees ..).map _
      | _ => cases hdue
    | takeM6 response =>
      cases stage with
      | m5Sent answer =>
        obtain ⟨⟨⟩, ⟨⟩⟩ := hholds
        exact (takeM6_agrees ..).map _
      | _ => cases hdue
  · have hdue' : memory.phase ≠ next.due := h.phase ▸ hdue
    rw [call_of_ne hdue', ControllerSetup.call_of_ne hdue, h.phase,
      ControllerSetupStage.name_phase]
    exact ⟨rfl, h.client, rfl, trivial⟩

/-- Whatever is called, the memory answers as the machine does. -/
theorem outcomes_eq (h : Remembers suite memory setup) (calls : List Call) :
    Calls.outcomes (ControllerSetupMemory.call suite) memory calls =
      Calls.outcomes (ControllerSetup.call suite) setup calls :=
  Calls.outcomes_eq_of_simulates (fun _ _ next hremembers => hremembers.call next) calls h

end

end ControllerSetupMemory

end HomeKit
