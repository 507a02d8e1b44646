import HomeKit.Proofs.Pairing.Changes
import HomeKit.Proofs.Pairing.Lockout
import HomeKit.Proofs.Pairing.SetupSlot

/-!
# Errors of pair-setup

An answer tells what became of the exchange. If it carries an error, the pairings are as they were,
and either setup is busy and nothing changed at all, or the machine is like a new one, without the
slot, and the proof was counted if it was refused (`SetupMemory.FailsCleanly`). If it carries none,
the machine went from the phase in which the message is due to the next one
(`SetupMemory.Advances`). So it is whichever machines come and go (`SetupHost.request_concluded`).

The count of refused proofs grows by one with each, since it stays below its limit while an exchange
is under way (`SetupAttempts.WithinLimit`).
-/

namespace HomeKit

/-! ## The count of refused proofs -/

/-- No more proofs were refused than may be, and fewer while a connection has the slot. -/
structure SetupAttempts.WithinLimit (attempts : SetupAttempts) : Prop where
  failed_le : attempts.failed ≤ maxFailed
  failed_lt : ∀ conn, attempts.owner = some conn → attempts.failed < maxFailed

theorem SetupAttempts.WithinLimit.release {attempts : SetupAttempts} (h : attempts.WithinLimit)
    (conn : ConnectionId) : (attempts.release conn).WithinLimit := by
  unfold SetupAttempts.release
  split
  · exact ⟨h.failed_le, nofun⟩
  · exact h

/-- A proof that is checked for the owner of the slot is counted. -/
theorem SetupAttempts.WithinLimit.recordFailure {attempts : SetupAttempts}
    (h : attempts.WithinLimit)
    {conn : ConnectionId} (howner : attempts.owner = some conn) :
    attempts.recordFailure.failed = attempts.failed + 1 := by
  have hbelow := h.failed_lt conn howner
  have hlimit : maxFailed < failedLimit := by decide
  simp only [SetupAttempts.recordFailure]
  omega

section Calls

variable {suite : CipherSuite} {identity : AccessoryIdentity} {machine : PairSetup}
  {shared : SetupShared} {request : Bytes} {result : (Bytes × PairSetup) × SetupShared}

theorem PairSetup.Move.withinLimit (h : Move suite identity machine shared request result)
    (hlimit : shared.attempts.WithinLimit)
    (howner : machine.isActive = true → shared.attempts.owner = some machine.conn) :
    result.2.attempts.WithinLimit := by
  cases h with
  | started hdecode hstate hstart =>
    exact ⟨Nat.le_of_lt hstart.tries, fun _ _ => hstart.tries⟩
  | busy | proved => exact hlimit
  | @refused tlv server error hdecode hstate hstage hcheck =>
    have hmine := howner (by rw [isActive, hstage])
    have hcounted := hlimit.recordFailure hmine
    have hbelow := hlimit.failed_lt machine.conn hmine
    refine ⟨?_, fun other hother => ?_⟩
    · rw [SetupSystem.release_failed, hcounted]
      exact hbelow
    · rw [SetupAttempts.release_owner] at hother
      simp [SetupAttempts.recordFailure, hmine] at hother
  | paired | notStored | failed => exact hlimit.release machine.conn

end Calls

namespace SetupHost

variable {suite : CipherSuite} {host : SetupHost}

theorem step_withinLimit (h : Orderly suite host) (hlimit : host.shared.attempts.WithinLimit)
    (event : SetupEvent) : (host.step suite event).shared.attempts.WithinLimit := by
  unfold step
  cases event with
  | create conn =>
    cases hmemory : host.machines conn <;> simpa only [hmemory] using hlimit
  | drop conn =>
    cases hmemory : host.machines conn with
    | none => simpa only [hmemory] using hlimit
    | some memory =>
      simp only [hmemory]
      exact hlimit.release memory.conn
  | request conn body =>
    cases hmemory : host.machines conn with
    | none => simpa only [hmemory] using hlimit
    | some memory =>
      obtain ⟨machine, hconn, rfl⟩ := h.exists_machine conn memory hmemory
      simp only [hmemory, SetupMemory.handle, SetupMemory.handleWith_ofMachine]
      exact (PairSetup.handle_move ..).withinLimit hlimit fun hactive =>
        hconn.symm ▸ h.owner_eq hmemory hactive
  | storeChanged store => exact hlimit

theorem run_withinLimit (h : Orderly suite host) (hlimit : host.shared.attempts.WithinLimit)
    (events : List SetupEvent) : (host.run suite events).shared.attempts.WithinLimit := by
  induction events generalizing host with
  | nil => exact hlimit
  | cons event rest ih => exact ih (step_orderly h event) (step_withinLimit h hlimit event)

end SetupHost

/-! ## What an answer tells -/

theorem TlvErrorCode.code_inj {code other : TlvErrorCode} :
    code.code = other.code ↔ code = other := by
  cases code <;> cases other <;> decide

theorem Error.code_eq_busy_iff {error : Error} : error.code = .busy ↔ error = .pairing .busy := by
  cases error with
  | pairing error => cases error <;> simp [Error.code, PairingError.code]
  | _ => simp [Error.code]

/-- The phase before a message of this number is taken, and the one after it. -/
inductive SetupPhase.Forward : UInt8 → SetupPhase → SetupPhase → Prop
  | first : Forward 1 .awaitingM1 .awaitingM3
  | again : Forward 1 .complete .awaitingM3
  | proof : Forward 3 .awaitingM3 .awaitingM5
  | identity : Forward 5 .awaitingM5 .complete

namespace SetupMemory

/-- The request brings a proof as far as its check, and it is refused. -/
def RefusesProof (suite : CipherSuite) (memory : SetupMemory) (request : Bytes) : Prop :=
  ∃ tlv server error, Tlv.decode request = .ok tlv ∧ tlv.state? = some 3 ∧
    memory.phase = .awaitingM3 ∧ memory.server = some server ∧
    PairSetup.Checks suite server tlv (.error error)

/-- What a request comes to that is answered with an error code. -/
structure FailsCleanly (suite : CipherSuite) (memory : SetupMemory) (before : SetupShared)
    (request code : Bytes) (after : SetupMemory) (shared : SetupShared) : Prop where
  store : before.store.Unchanged shared.store
  /-- Setup is busy, and an M1 has changed nothing. -/
  busy : code = [TlvErrorCode.busy.code] → after = memory ∧ shared.attempts = before.attempts ∧
    ∃ tlv, Tlv.decode request = .ok tlv ∧ tlv.state? = some 1
  /-- Otherwise the machine is like a new one, which does not own the slot. -/
  reset : code ≠ [TlvErrorCode.busy.code] →
    after = { conn := memory.conn, setupCode := memory.setupCode } ∧
      shared.attempts.owner ≠ some memory.conn ∧
      (memory.RefusesProof suite request →
        shared.attempts.failed = before.attempts.failed + 1) ∧
      (¬ memory.RefusesProof suite request → shared.attempts.failed = before.attempts.failed)

/-- What a request comes to that is answered with no error: one step forward, with the secrets of
the next phase. -/
structure Advances (memory : SetupMemory) (request : Bytes) (response : Tlv) (after : SetupMemory) :
    Prop where
  step : ∃ tlv number, Tlv.decode request = .ok tlv ∧ tlv.state? = some number ∧
    response.state? = some (number + 1) ∧ SetupPhase.Forward number memory.phase after.phase
  secrets : after.HoldsItsSecrets
  conn : after.conn = memory.conn

/-- The answer tells what became of the machine and of what is shared. -/
structure Concluded (suite : CipherSuite) (memory : SetupMemory) (before : SetupShared)
    (request : Bytes) (result : (Bytes × SetupMemory) × SetupShared) (response : Tlv) : Prop where
  answer : Tlv.decode result.1.1 = .ok response
  fails : ∀ code, response.get? .error = some code →
    FailsCleanly suite memory before request code result.1.2 result.2
  advances : response.get? .error = none → Advances memory request response result.1.2

section Calls

variable {suite : CipherSuite} {identity : AccessoryIdentity} {machine : PairSetup}
  {shared : SetupShared} {request : Bytes}

theorem refusesProof_ofMachine :
    (ofMachine suite machine).RefusesProof suite request ↔
      ∃ error, machine.proofCheck? suite request = some (.error error) := by
  simp only [PairSetup.proofCheck?_eq_some_iff, RefusesProof]
  rcases machine with ⟨conn, setupCode, stage⟩
  cases stage with
  | awaitingM3 server =>
    simp only [ofMachine, Option.some.injEq, SetupStage.awaitingM3.injEq]
    constructor
    · rintro ⟨tlv, server, error, hdecode, hstate, -, hserver, hcheck⟩
      exact ⟨error, tlv, server, hdecode, hstate, hserver, hcheck⟩
    · rintro ⟨error, tlv, server, hdecode, hstate, hserver, hcheck⟩
      exact ⟨tlv, server, error, hdecode, hstate, trivial, hserver, hcheck⟩
  | awaitingM1 | awaitingM5 _ | complete => simp [ofMachine]

/-- An answer with an error code tells of a machine that gave up, and of a proof that was refused or
not. -/
theorem concluded_reset {number : UInt8} {code : TlvErrorCode} {after : SetupShared}
    (hcode : code ≠ .busy) (hstore : shared.store.Unchanged after.store)
    (howner : after.attempts.owner ≠ some machine.conn)
    (hcounted : (∃ error, machine.proofCheck? suite request = some (.error error)) →
      after.attempts.failed = shared.attempts.failed + 1)
    (hnot : (¬ ∃ error, machine.proofCheck? suite request = some (.error error)) →
      after.attempts.failed = shared.attempts.failed) :
    Concluded suite (ofMachine suite machine) shared request
      (((Tlv.errorResponse number code).encode,
          ofMachine suite { machine with stage := .awaitingM1 }),
        after)
      (Tlv.errorResponse number code) := by
  have hget : (Tlv.errorResponse number code).get? .error = some [code.code] := by
    simp [Tlv.errorResponse]
  refine ⟨Tlv.decode_errorResponse number code, ?_, ?_⟩
  · intro given hgiven
    rw [hget, Option.some.injEq] at hgiven
    subst hgiven
    refine ⟨hstore, fun hbusy => ?_, fun _ => ?_⟩
    · exact absurd (TlvErrorCode.code_inj.1 (List.singleton_inj.1 hbusy)) hcode
    · rw [ofMachine_conn, ofMachine_setupCode, refusesProof_ofMachine]
      exact ⟨rfl, howner, hcounted, hnot⟩
  · intro hnone
    rw [hget] at hnone
    cases hnone

/-- An answer that setup is busy tells of an M1 that changed nothing. -/
theorem concluded_busy {memory : SetupMemory} {tlv : Tlv} (hdecode : Tlv.decode request = .ok tlv)
    (hstate : tlv.state? = some 1) :
    Concluded suite memory shared request (((Tlv.errorResponse 2 .busy).encode, memory), shared)
      (Tlv.errorResponse 2 .busy) := by
  have hget : (Tlv.errorResponse 2 .busy).get? .error = some [TlvErrorCode.busy.code] := rfl
  refine ⟨Tlv.decode_errorResponse 2 .busy, fun code hcode => ?_, fun hnone => ?_⟩
  · rw [hget, Option.some.injEq] at hcode
    subst hcode
    exact ⟨.refl _, fun _ => ⟨rfl, rfl, tlv, hdecode, hstate⟩, fun hne => absurd rfl hne⟩
  · rw [hget] at hnone
    cases hnone

/-- An answer without an error code tells of a step forward. -/
theorem concluded_advanced {tlv response : Tlv} {number : UInt8} {after : PairSetup}
    {later : SetupShared} (hdecode : Tlv.decode request = .ok tlv)
    (hstate : tlv.state? = some number)
    (hanswer : Tlv.decode response.encode = .ok response) (hnone : response.get? .error = none)
    (hnext : response.state? = some (number + 1))
    (hforward : SetupPhase.Forward number (ofMachine suite machine).phase
      (ofMachine suite after).phase)
    (hconn : after.conn = machine.conn) :
    Concluded suite (ofMachine suite machine) shared request
      ((response.encode, ofMachine suite after), later) response := by
  refine ⟨hanswer, ?_, fun _ => ?_⟩
  · intro code hcode
    rw [hnone] at hcode
    cases hcode
  · exact ⟨⟨tlv, number, hdecode, hstate, hnext, hforward⟩, holdsItsSecrets_ofMachine,
      by rw [ofMachine_conn, ofMachine_conn, hconn]⟩

theorem handle_concluded (suite : CipherSuite) (identity : AccessoryIdentity) (machine : PairSetup)
    (shared : SetupShared) (request : Bytes) (hlimit : shared.attempts.WithinLimit)
    (howner : machine.isActive = true → shared.attempts.owner = some machine.conn) :
    ∃ response, Concluded suite (ofMachine suite machine) shared request
      (((ofMachine suite machine).handle suite identity request).run shared) response := by
  rw [handle, handleWith_ofMachine]
  by_cases hrefused : ∃ error, machine.proofCheck? suite request = some (.error error)
  · obtain ⟨error, hcheck⟩ := hrefused
    rw [PairSetup.handle_refused hcheck]
    refine ⟨_, concluded_reset (by decide) (.refl _) ?_ ?_ ?_⟩
    · exact SetupAttempts.release_owner_ne _ _
    · intro _
      rw [SetupSystem.release_failed]
      exact hlimit.recordFailure (howner (PairSetup.isActive_of_proofCheck? hcheck))
    · exact fun hnot => absurd ⟨error, hcheck⟩ hnot
  · have hmove := PairSetup.handle_move suite identity machine shared request
    generalize (machine.handle suite identity request).run shared = result at hmove
    cases hmove with
    | started hdecode hstate hstart =>
      refine ⟨_, concluded_advanced hdecode hstate (Tlv.decode_encode_ofList (by simp)) rfl rfl
        ?_ rfl⟩
      have hidle := hstart.idle
      rcases machine with ⟨conn, setupCode, stage⟩
      cases stage with
      | awaitingM1 => exact .first
      | complete => exact .again
      | awaitingM3 _ | awaitingM5 _ => cases hidle
    | @proved tlv server verified hdecode hstate hstage hcheck =>
      refine ⟨_, concluded_advanced hdecode hstate (Tlv.decode_encode_ofList (by simp)) rfl rfl
        ?_ rfl⟩
      simp only [ofMachine, hstage]
      exact .proof
    | @paired tlv key controller hdecode hstate hstage hintro hadd =>
      refine ⟨_, concluded_advanced hdecode hstate (Tlv.decode_encode_ofList (by simp)) rfl rfl
        ?_ rfl⟩
      simp only [ofMachine, hstage]
      exact .identity
    | @busy tlv hdecode hstate hbusy => exact ⟨_, concluded_busy hdecode hstate⟩
    | @refused tlv server error hdecode hstate hstage hcheck =>
      exact absurd ⟨error, PairSetup.proofCheck?_eq_some_iff.2
        ⟨tlv, server, hdecode, hstate, hstage, hcheck⟩⟩ hrefused
    | @notStored tlv key controller error hdecode hstate hstage hintro hadd =>
      have hcode : error.code ≠ .busy := by
        rw [Ne, Error.code_eq_busy_iff]
        rintro rfl
        exact PairSetup.add_notBusy shared.store controller hadd
      refine ⟨_, concluded_reset hcode (IdentityStore.add_of_error hadd) ?_ ?_ ?_⟩
      · exact SetupAttempts.release_owner_ne _ _
      · exact fun hcheck => absurd hcheck hrefused
      · exact fun _ => SetupSystem.release_failed _ _
    | @failed number error hbusy =>
      have hcode : error.code ≠ .busy := fun hcode => hbusy (Error.code_eq_busy_iff.1 hcode)
      refine ⟨_, concluded_reset hcode (.refl _) ?_ ?_ ?_⟩
      · exact SetupAttempts.release_owner_ne _ _
      · exact fun hcheck => absurd hcheck hrefused
      · exact fun _ => SetupSystem.release_failed _ _

end Calls

end SetupMemory

/-! ## Machines that come and go -/

namespace SetupHost

/-- Whatever was sent before, whichever machines came and went and however others changed the
pairings: the answer to a request tells what became of the machine and of what is shared. The memory
is that of the connection's `PairSetup`, which answers the same. -/
theorem request_concluded (suite : CipherSuite) (setupCode : SetupCode) (store : IdentityStore)
    (random : Entropy) (events : List SetupEvent) (conn : ConnectionId) (memory : SetupMemory)
    (request : Bytes)
    (hmemory : ((start setupCode store random).run suite events).machines conn = some memory) :
    let host := (start setupCode store random).run suite events
    let result := (memory.handle suite host.shared.store.identity request).run host.shared
    (∃ response, memory.Concluded suite host.shared request result response) ∧
      ∃ machine : PairSetup, machine.conn = conn ∧ memory = .ofMachine suite machine ∧
        let ((answer, after), shared) :=
          (machine.handle suite host.shared.store.identity request).run host.shared
        result = ((answer, .ofMachine suite after), shared) := by
  intro host result
  have hstart := start_orderly suite setupCode store random
  have horderly : Orderly suite host := run_orderly hstart events
  have hlimit : host.shared.attempts.WithinLimit :=
    run_withinLimit hstart ⟨Nat.zero_le _, nofun⟩ events
  obtain ⟨machine, hconn, rfl⟩ := horderly.exists_machine conn memory hmemory
  refine ⟨?_, machine, hconn, rfl, SetupMemory.handleWith_ofMachine ..⟩
  exact SetupMemory.handle_concluded suite host.shared.store.identity machine host.shared request
    hlimit fun hactive => hconn.symm ▸ horderly.owner_eq hmemory hactive

/-- Connection 1 has started an exchange. -/
def startedHost : SetupHost :=
  (start .default .unpaired (.constant 7)).run .transparent
    [.create 1, .request 1 Tlv.pairSetupM1.encode]

/-- The memory of its machine. -/
def startedMemory : SetupMemory :=
  (startedHost.machines 1).getD { conn := 1, setupCode := .default }

/-- A proof that is refused ends the exchange and is counted. -/
theorem request_concluded_wrong :
    let request := SetupSystem.wrongM3.encode
    let result := (startedMemory.handle .transparent startedHost.shared.store.identity request).run
      startedHost.shared
    startedHost.machines 1 = some startedMemory ∧ startedMemory.phase = .awaitingM3 ∧
      startedHost.shared.attempts = { owner := some 1, failed := 0 } ∧
      result.2.attempts = { owner := none, failed := 1 } ∧
      startedMemory.FailsCleanly .transparent startedHost.shared request
        [TlvErrorCode.authentication.code] result.1.2 result.2 := by
  intro request result
  have hmemory : startedHost.machines 1 = some startedMemory := by decide +kernel
  obtain ⟨response, hconcluded⟩ : ∃ response, startedMemory.Concluded .transparent
      startedHost.shared request result response :=
    (request_concluded .transparent .default .unpaired (.constant 7) _ 1 startedMemory request
      hmemory).1
  have hanswer : Tlv.decode result.1.1 = .ok (.errorResponse 4 .authentication) := by
    decide +kernel
  have hresponse := hconcluded.answer
  rw [hanswer, Except.ok.injEq] at hresponse
  subst hresponse
  exact ⟨hmemory, by decide +kernel, by decide +kernel, by decide +kernel,
    hconcluded.fails _ rfl⟩

end SetupHost

end HomeKit
