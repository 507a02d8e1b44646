import HomeKit.Proofs.Calls
import HomeKit.Proofs.Pairing.VerifyComplete

/-!
# Calls of the controller's side of pair-verify

The controller's side may be called in any order, with any responses (`ControllerVerify.Call`). As
it lies in memory it has a phase and, beside it, room for an ephemeral key, for an agreement and for
the key that is derived from it (`ControllerVerifyMemory`). Nothing ties the four to each other: a
call that fails leaves some of them set, and a finished exchange leaves the agreement behind.

No call ever comes upon what an earlier exchange has left: a memory that agrees with a
`ControllerVerify` in what its stage carries (`Remembers`) answers every call as that does
(`outcomes_eq`).
-/

namespace HomeKit

/-! ## Calls -/

namespace ControllerVerify

inductive Call where
  | sendM1
  | takeM2 (response : Bytes)
  | sendM3
  | takeM4 (response : Bytes)
  deriving DecidableEq

/-- What a call gives if it succeeds. -/
inductive Outcome where
  | message (bytes : Bytes)
  | accepted
  | keys (keys : SessionKeys)
  deriving DecidableEq

def call (suite : CipherSuite) (state : ControllerVerify × Entropy) :
    Call → Except Error Outcome × ControllerVerify × Entropy
  | .sendM1 =>
    let (message, verify, random) := state.1.sendM1 suite state.2
    (.ok (.message message), verify, random)
  | .takeM2 response =>
    let (taken, verify) := state.1.takeM2 suite response
    (taken.map fun _ => .accepted, verify, state.2)
  | .sendM3 =>
    let (message, verify) := state.1.sendM3 suite
    (message.map .message, verify, state.2)
  | .takeM4 response =>
    let (keys, verify) := state.1.takeM4 suite response
    (keys.map .keys, verify, state.2)

end ControllerVerify

/-! ## Memory -/

inductive ControllerVerifyPhase where
  | initial
  | m1Sent
  | m2Received
  | m3Sent
  | complete
  deriving DecidableEq

def ControllerVerifyPhase.name : ControllerVerifyPhase → String
  | initial => "Initial"
  | m1Sent => "M1Sent"
  | m2Received => "M2Received"
  | m3Sent => "M3Sent"
  | complete => "Complete"

def ControllerVerifyStage.phase : ControllerVerifyStage → ControllerVerifyPhase
  | initial => .initial
  | m1Sent _ => .m1Sent
  | m2Received _ => .m2Received
  | m3Sent _ => .m3Sent
  | complete => .complete

theorem ControllerVerifyStage.name_phase (stage : ControllerVerifyStage) :
    stage.phase.name = stage.name := by
  cases stage <;> rfl

structure ControllerVerifyMemory where
  /-- What the controller was given, before its first call. -/
  given : ControllerVerify
  phase : ControllerVerifyPhase := .initial
  ephemeral : Option EphemeralKey := none
  agreement : Option KeyAgreement := none
  sessionKey : Option (Octets 32) := none

namespace ControllerVerifyMemory

open ControllerVerify (Call Outcome)

def outOfOrder (memory : ControllerVerifyMemory) (due : ControllerVerifyPhase) : Error :=
  PairingError.protocol s!"expected {due.name}, at {memory.phase.name}"

/-- Only M1 clears what an earlier exchange has left. -/
def sendM1 (suite : CipherSuite) (memory : ControllerVerifyMemory) (random : Entropy) :
    Bytes × ControllerVerifyMemory × Entropy :=
  let (key, random) := memory.given.takeKey random
  ((Tlv.pairVerifyM1 (key.publicKey suite)).encode,
    { memory with phase := .m1Sent, ephemeral := some key, agreement := none, sessionKey := none },
    random)

def takeM2 (suite : CipherSuite) (memory : ControllerVerifyMemory) (response : Bytes) :
    Except Error Unit × ControllerVerifyMemory :=
  if memory.phase ≠ .m1Sent then (.error (memory.outOfOrder .m1Sent), memory)
  else
    match parseResponse response 2 with
    | .error error => (.error error, memory)
    | .ok tlv =>
      match memory.ephemeral with
      | none => (.error (PairingError.protocol "ephemeral key missing"), memory)
      | some key =>
        let memory := { memory with ephemeral := none }
        match memory.given.checkM2 suite key tlv with
        | .error error => (.error error, memory)
        | .ok agreement =>
          (.ok (),
            { memory with
              phase := .m2Received
              agreement := some agreement
              sessionKey := some (agreement.verifyKey suite) })

def sendM3 (suite : CipherSuite) (memory : ControllerVerifyMemory) :
    Except Error Bytes × ControllerVerifyMemory :=
  if memory.phase ≠ .m2Received then (.error (memory.outOfOrder .m2Received), memory)
  else
    match memory.sessionKey, memory.agreement with
    | some sessionKey, some agreement =>
      let id := utf8 memory.given.identity.id
      let signature := memory.given.identity.key.sign suite (agreement.localTranscript id)
      let inner := Tlv.ofList [(.identifier, id), (.signature, signature.bytes)]
      let message := Tlv.ofList [(.state, [3]),
        (.encryptedData, suite.encryptNamed sessionKey PairVerify.nonceM3 inner.encode)]
      (.ok message.encode, { memory with phase := .m3Sent })
    | _, _ => (.error (PairingError.protocol "session key not derived"), memory)

def takeM4 (suite : CipherSuite) (memory : ControllerVerifyMemory) (response : Bytes) :
    Except Error SessionKeys × ControllerVerifyMemory :=
  if memory.phase ≠ .m3Sent then (.error (memory.outOfOrder .m3Sent), memory)
  else
    match parseResponse response 4 with
    | .error error => (.error error, memory)
    | .ok _ =>
      match memory.agreement with
      | none => (.error (PairingError.protocol "shared secret missing"), memory)
      | some agreement =>
        (.ok (.forController suite agreement.shared.bytes), { memory with phase := .complete })

def call (suite : CipherSuite) (state : ControllerVerifyMemory × Entropy) :
    Call → Except Error Outcome × ControllerVerifyMemory × Entropy
  | .sendM1 =>
    let (message, memory, random) := state.1.sendM1 suite state.2
    (.ok (.message message), memory, random)
  | .takeM2 response =>
    let (taken, memory) := state.1.takeM2 suite response
    (taken.map fun _ => .accepted, memory, state.2)
  | .sendM3 =>
    let (message, memory) := state.1.sendM3 suite
    (message.map .message, memory, state.2)
  | .takeM4 response =>
    let (keys, memory) := state.1.takeM4 suite response
    (keys.map .keys, memory, state.2)

end ControllerVerifyMemory

/-! ## Calls out of order -/

namespace ControllerVerify

variable {suite : CipherSuite} {verify : ControllerVerify}

theorem takeM2_of_ne (h : verify.stage.phase ≠ .m1Sent) (response : Bytes) :
    verify.takeM2 suite response = (.error (verify.outOfOrder "M1Sent"), verify) := by
  unfold takeM2
  split
  · rename_i hstage
    rw [hstage] at h
    exact absurd rfl h
  · rfl

theorem sendM3_of_ne (h : verify.stage.phase ≠ .m2Received) :
    verify.sendM3 suite = (.error (verify.outOfOrder "M2Received"), verify) := by
  unfold sendM3
  split
  · rename_i hstage
    rw [hstage] at h
    exact absurd rfl h
  · rfl

theorem takeM4_of_ne (h : verify.stage.phase ≠ .m3Sent) (response : Bytes) :
    verify.takeM4 suite response = (.error (verify.outOfOrder "M3Sent"), verify) := by
  unfold takeM4
  split
  · rename_i hstage
    rw [hstage] at h
    exact absurd rfl h
  · rfl

end ControllerVerify

/-! ## Memory and stage -/

namespace ControllerVerifyMemory

/-- The memory holds what the stage carries. What the stage does not carry may be anything. -/
def Holds (suite : CipherSuite) (memory : ControllerVerifyMemory) : ControllerVerifyStage → Prop
  | .m1Sent key => memory.ephemeral = key
  | .m2Received agreement =>
    memory.agreement = some agreement ∧ memory.sessionKey = some (agreement.verifyKey suite)
  | .m3Sent agreement => memory.agreement = some agreement
  | .initial | .complete => True

/-- The memory is that of a machine at its stage. -/
structure Remembers (suite : CipherSuite) (memory : ControllerVerifyMemory)
    (verify : ControllerVerify) : Prop where
  given : memory.given = { verify with stage := .initial }
  phase : memory.phase = verify.stage.phase
  holds : memory.Holds suite verify.stage

section

variable {suite : CipherSuite} {memory : ControllerVerifyMemory} {verify : ControllerVerify}

theorem remembers_given (suite : CipherSuite) (verify : ControllerVerify)
    (h : verify.stage = .initial) : Remembers suite { given := verify } verify := by
  refine ⟨?_, ?_, ?_⟩
  · rw [← h]
  · rw [h]
    rfl
  · rw [h]
    trivial

theorem Remembers.outOfOrder (h : Remembers suite memory verify) (due : ControllerVerifyPhase) :
    memory.outOfOrder due = verify.outOfOrder due.name := by
  unfold ControllerVerifyMemory.outOfOrder ControllerVerify.outOfOrder
  rw [h.phase, ControllerVerifyStage.name_phase]

theorem Remembers.sendM1 (h : Remembers suite memory verify) (random : Entropy) :
    (memory.sendM1 suite random).1 = (verify.sendM1 suite random).1 ∧
      Remembers suite (memory.sendM1 suite random).2.1 (verify.sendM1 suite random).2.1 ∧
      (memory.sendM1 suite random).2.2 = (verify.sendM1 suite random).2.2 := by
  have hkey : memory.given.takeKey random = verify.takeKey random := by
    rw [h.given]
    rfl
  unfold ControllerVerifyMemory.sendM1
  rw [hkey, ControllerVerify.sendM1_eq]
  exact ⟨rfl, ⟨h.given, rfl, rfl⟩, rfl⟩

theorem Remembers.takeM2 (h : Remembers suite memory verify) (response : Bytes) :
    (memory.takeM2 suite response).1 = (verify.takeM2 suite response).1 ∧
      Remembers suite (memory.takeM2 suite response).2 (verify.takeM2 suite response).2 := by
  unfold ControllerVerifyMemory.takeM2
  by_cases hdue : verify.stage.phase = .m1Sent
  · have hcheck : memory.given.checkM2 suite = verify.checkM2 suite := by
      rw [h.given]
      rfl
    have hphase := h.phase.trans hdue
    have hholds := h.holds
    unfold ControllerVerify.takeM2
    cases hstage : verify.stage with
    | m1Sent key =>
      rw [hstage] at hholds
      rw [if_neg (not_not.2 hphase), hholds]
      cases parseResponse response 2 with
      | error error => exact ⟨rfl, h⟩
      | ok tlv =>
        cases key with
        | none => exact ⟨rfl, h.given, hphase, hholds⟩
        | some key =>
          simp only [hcheck]
          cases verify.checkM2 suite key tlv with
          | error error => exact ⟨rfl, h.given, hphase, rfl⟩
          | ok agreement => exact ⟨rfl, h.given, rfl, rfl, rfl⟩
    | _ => rw [hstage] at hdue; cases hdue
  · rw [if_pos (h.phase ▸ hdue), ControllerVerify.takeM2_of_ne hdue, h.outOfOrder]
    exact ⟨rfl, h⟩

theorem Remembers.sendM3 (h : Remembers suite memory verify) :
    (memory.sendM3 suite).1 = (verify.sendM3 suite).1 ∧
      Remembers suite (memory.sendM3 suite).2 (verify.sendM3 suite).2 := by
  unfold ControllerVerifyMemory.sendM3
  by_cases hdue : verify.stage.phase = .m2Received
  · have hidentity : memory.given.identity = verify.identity := by rw [h.given]
    have hphase := h.phase.trans hdue
    have hholds := h.holds
    unfold ControllerVerify.sendM3
    cases hstage : verify.stage with
    | m2Received agreement =>
      rw [hstage] at hholds
      obtain ⟨hagreement, hkey⟩ := hholds
      rw [if_neg (not_not.2 hphase), hkey, hagreement, hidentity]
      exact ⟨rfl, h.given, rfl, rfl⟩
    | _ => rw [hstage] at hdue; cases hdue
  · rw [if_pos (h.phase ▸ hdue), ControllerVerify.sendM3_of_ne hdue, h.outOfOrder]
    exact ⟨rfl, h⟩

theorem Remembers.takeM4 (h : Remembers suite memory verify) (response : Bytes) :
    (memory.takeM4 suite response).1 = (verify.takeM4 suite response).1 ∧
      Remembers suite (memory.takeM4 suite response).2 (verify.takeM4 suite response).2 := by
  unfold ControllerVerifyMemory.takeM4
  by_cases hdue : verify.stage.phase = .m3Sent
  · have hphase := h.phase.trans hdue
    have hholds := h.holds
    unfold ControllerVerify.takeM4
    cases hstage : verify.stage with
    | m3Sent agreement =>
      rw [hstage] at hholds
      rw [if_neg (not_not.2 hphase), hholds]
      cases parseResponse response 4 with
      | error error => exact ⟨rfl, h⟩
      | ok tlv => exact ⟨rfl, h.given, rfl, trivial⟩
    | _ => rw [hstage] at hdue; cases hdue
  · rw [if_pos (h.phase ▸ hdue), ControllerVerify.takeM4_of_ne hdue, h.outOfOrder]
    exact ⟨rfl, h⟩

/-- A call is answered alike, and the memory is that of the machine again. -/
theorem Remembers.call (h : Remembers suite memory verify) (random : Entropy)
    (next : ControllerVerify.Call) :
    (ControllerVerifyMemory.call suite (memory, random) next).1 =
        (ControllerVerify.call suite (verify, random) next).1 ∧
      Remembers suite (ControllerVerifyMemory.call suite (memory, random) next).2.1
        (ControllerVerify.call suite (verify, random) next).2.1 ∧
      (ControllerVerifyMemory.call suite (memory, random) next).2.2 =
        (ControllerVerify.call suite (verify, random) next).2.2 := by
  unfold ControllerVerifyMemory.call ControllerVerify.call
  cases next with
  | sendM1 =>
    obtain ⟨hmessage, hremembers, hrandom⟩ := h.sendM1 random
    simp only [hmessage]
    exact ⟨trivial, hremembers, hrandom⟩
  | takeM2 response =>
    obtain ⟨htaken, hremembers⟩ := h.takeM2 response
    simp only [htaken]
    exact ⟨trivial, hremembers, trivial⟩
  | sendM3 =>
    obtain ⟨hmessage, hremembers⟩ := h.sendM3
    simp only [hmessage]
    exact ⟨trivial, hremembers, trivial⟩
  | takeM4 response =>
    obtain ⟨hkeys, hremembers⟩ := h.takeM4 response
    simp only [hkeys]
    exact ⟨trivial, hremembers, trivial⟩

/-- The memory is that of the machine, and both have the same randomness left. -/
def SameState (suite : CipherSuite) (state : ControllerVerifyMemory × Entropy)
    (state' : ControllerVerify × Entropy) : Prop :=
  Remembers suite state.1 state'.1 ∧ state.2 = state'.2

/-- Whatever is called, the memory answers as the machine does. -/
theorem outcomes_eq (h : Remembers suite memory verify) (random : Entropy)
    (calls : List ControllerVerify.Call) :
    Calls.outcomes (ControllerVerifyMemory.call suite) (memory, random) calls =
      Calls.outcomes (ControllerVerify.call suite) (verify, random) calls := by
  have hstep : ∀ state state' next, SameState suite state state' →
      (ControllerVerifyMemory.call suite state next).1 =
          (ControllerVerify.call suite state' next).1 ∧
        SameState suite (ControllerVerifyMemory.call suite state next).2
          (ControllerVerify.call suite state' next).2 := by
    rintro ⟨memory, random⟩ ⟨verify, _⟩ next ⟨h, rfl⟩
    exact h.call random next
  exact Calls.outcomes_eq_of_simulates hstep calls ⟨h, rfl⟩

end

end ControllerVerifyMemory

end HomeKit
