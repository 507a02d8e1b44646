import HomeKit.Proofs.Pairing.SetupCalls
import HomeKit.Proofs.Pairing.SetupSystem
import HomeKit.Proofs.Tlv.RoundTrip

/-!
# The limit on refused proofs

Every proof that is checked and refused is counted (`SetupSystem.step_failed`), for the whole
accessory and for good. The count is compared with the limit at M1 only, but an exchange that is
under way was started below the limit and is the only one, so its proof is the next to be counted
(`SetupSystem.Limited`): the limit is reached and never exceeded. After that no machine is past M1
any more, every request fails and no proof is checked (`SetupSystem.lockout`).
-/

namespace HomeKit.SetupSystem

variable {suite : CipherSuite} {setupCode : SetupCode} {system : SetupSystem}
  {conn : ConnectionId} {action : SetupAction}

/-! ## Counting -/

/-- The action is a request that brings a proof as far as its check, and the proof is refused. -/
def refuses (suite : CipherSuite) (system : SetupSystem) : SetupAction → Bool
  | .request conn body =>
    match (system.machines conn).proofCheck? suite body with
    | some (.error _) => true
    | _ => false
  | .drop _ | .manage .. | .remove _ => false

/-- The proofs that are checked and refused in a run. -/
def refusals (suite : CipherSuite) (system : SetupSystem) : List SetupAction → Nat
  | [] => 0
  | action :: rest =>
    (system.refuses suite action).toNat + refusals suite (system.step suite action) rest

theorem refuses_request_iff {body : Bytes} :
    system.refuses suite (.request conn body) = true ↔
      ∃ error, (system.machines conn).proofCheck? suite body = some (.error error) := by
  simp only [refuses]
  split
  · rename_i error hcheck
    exact iff_of_true rfl ⟨error, hcheck⟩
  · rename_i hother
    refine iff_of_false nofun ?_
    rintro ⟨error, hcheck⟩
    exact hother error hcheck

theorem release_failed (attempts : SetupAttempts) (conn : ConnectionId) :
    (attempts.release conn).failed = attempts.failed := by
  unfold SetupAttempts.release
  split
  · rfl
  · rfl

/-- A call that does not refuse a proof leaves the count alone. -/
theorem call_failed_of_not_refuses {body : Bytes}
    (h : system.refuses suite (.request conn body) = false) :
    (system.call suite conn body).2.attempts.failed = system.shared.attempts.failed := by
  have hmove := call_move suite system conn body
  generalize system.call suite conn body = result at hmove
  cases hmove with
  | started hdecode hstate hstart => rfl
  | busy hdecode hstate hbusy => rfl
  | proved hdecode hstate hstage hcheck => rfl
  | @refused tlv server error hdecode hstate hstage hcheck =>
    have hrefuses := refuses_request_iff.2
      ⟨error, PairSetup.proofCheck?_eq_some_iff.2 ⟨tlv, server, hdecode, hstate, hstage, hcheck⟩⟩
    rw [h] at hrefuses
    cases hrefuses
  | paired hdecode hstate hstage hintro hadd => exact release_failed ..
  | notStored hdecode hstate hstage hintro hadd => exact release_failed ..
  | failed hbusy => exact release_failed ..

/-- The count grows with each proof that is refused, and with nothing else. -/
theorem step_failed (suite : CipherSuite) (action : SetupAction)
    (hroom : system.shared.attempts.failed < SetupAttempts.failedLimit) :
    (system.step suite action).shared.attempts.failed =
      system.shared.attempts.failed + (system.refuses suite action).toNat := by
  cases action with
  | request conn body =>
    rw [step_request_shared]
    cases hrefuses : system.refuses suite (.request conn body) with
    | false => exact call_failed_of_not_refuses hrefuses
    | true =>
      obtain ⟨error, hcheck⟩ := refuses_request_iff.1 hrefuses
      unfold call
      rw [PairSetup.handle_refused hcheck]
      simp only [release_failed, SetupAttempts.recordFailure, Bool.toNat_true]
      omega
  | drop conn => exact release_failed ..
  | manage controller body => rfl
  | remove id => rfl

/-! ## The limit -/

/-- No more proofs than the limit were refused, and fewer while an exchange is under way. -/
structure Limited (system : SetupSystem) : Prop where
  failed_le : system.shared.attempts.failed ≤ SetupAttempts.maxFailed
  failed_lt : ∀ conn, (system.machines conn).isActive = true →
    system.shared.attempts.failed < SetupAttempts.maxFailed

theorem fresh_limited (setupCode : SetupCode) (store : IdentityStore) (random : Entropy) :
    (fresh setupCode store random).Limited :=
  ⟨Nat.zero_le _, nofun⟩

theorem Limited.lt_failedLimit (h : system.Limited) :
    system.shared.attempts.failed < SetupAttempts.failedLimit :=
  Nat.lt_of_le_of_lt h.failed_le (by decide)

/-- A proof is checked below the limit only, and after it is refused no exchange is under way. -/
theorem Limited.refused (h : system.Limited) (hexclusive : Exclusive setupCode system)
    (hrefuses : system.refuses suite action = true) :
    (system.step suite action).Limited := by
  cases action with
  | request conn body =>
    obtain ⟨error, hcheck⟩ := refuses_request_iff.1 hrefuses
    have hactive := PairSetup.isActive_of_proofCheck? hcheck
    have hbelow := h.failed_lt conn hactive
    have hfailed := step_failed suite (.request conn body) h.lt_failedLimit
    rw [hrefuses, Bool.toNat_true] at hfailed
    have hnobody : ∀ other,
        ((system.step suite (.request conn body)).machines other).isActive = false := by
      intro other
      by_cases heq : other = conn
      · subst heq
        rw [step_request_machine]
        unfold call
        rw [PairSetup.handle_refused hcheck]
        rfl
      · have hne : (SetupAction.request conn body).conn? ≠ some other :=
          fun hconn => heq (Option.some.inj hconn).symm
        rw [step_machines_of_ne system hne]
        cases hother : (system.machines other).isActive with
        | false => rfl
        | true =>
          have howner := hexclusive.owner_eq conn hactive
          rw [hexclusive.owner_eq other hother] at howner
          exact absurd (Option.some.inj howner) heq
    refine ⟨by omega, fun other hother => ?_⟩
    rw [hnobody other] at hother
    cases hother
  | drop conn => cases hrefuses
  | manage controller body => cases hrefuses
  | remove id => cases hrefuses

/-- Where no proof is refused, an exchange that is under way was so before or starts below the
limit. -/
theorem Limited.notRefused (h : system.Limited) (hrefuses : system.refuses suite action = false) :
    (system.step suite action).Limited := by
  have hfailed := step_failed suite action h.lt_failedLimit
  rw [hrefuses, Bool.toNat_false, Nat.add_zero] at hfailed
  refine ⟨hfailed ▸ h.failed_le, fun conn hactive => ?_⟩
  rw [hfailed]
  by_cases hconn : action.conn? = some conn
  · cases action with
    | request other body =>
      cases hconn
      rw [step_request_machine] at hactive
      have hmove := call_move suite system conn body
      generalize system.call suite conn body = result at hmove hactive
      cases hmove with
      | started hdecode hstate hstart => exact hstart.tries
      | busy hdecode hstate hbusy => exact h.failed_lt conn hactive
      | proved hdecode hstate hstage hcheck =>
        exact h.failed_lt conn (isActive_of_awaitingM3 hstage)
      | refused hdecode hstate hstage hcheck => cases hactive
      | paired hdecode hstate hstage hintro hadd => cases hactive
      | notStored hdecode hstate hstage hintro hadd => cases hactive
      | failed hbusy => cases hactive
    | drop other =>
      cases hconn
      rw [step_drop_machine] at hactive
      cases hactive
    | manage controller body => cases hconn
    | remove id => cases hconn
  · rw [step_machines_of_ne system hconn] at hactive
    exact h.failed_lt conn hactive

theorem step_limited (h : system.Limited) (hexclusive : Exclusive setupCode system)
    (action : SetupAction) : (system.step suite action).Limited := by
  cases hrefuses : system.refuses suite action with
  | true => exact h.refused hexclusive hrefuses
  | false => exact h.notRefused hrefuses

/-- In a run the limit holds, and the count is what it was and the proofs refused since. -/
theorem run_limited (suite : CipherSuite) (h : system.Limited)
    (hexclusive : Exclusive setupCode system) (actions : List SetupAction) :
    (system.run suite actions).Limited ∧
      (system.run suite actions).shared.attempts.failed =
        system.shared.attempts.failed + system.refusals suite actions := by
  induction actions generalizing system with
  | nil => exact ⟨h, rfl⟩
  | cons action rest ih =>
    obtain ⟨hlimited, hfailed⟩ := ih (step_limited h hexclusive action)
      (step_exclusive hexclusive action)
    refine ⟨hlimited, ?_⟩
    rw [step_failed suite action h.lt_failedLimit, Nat.add_assoc] at hfailed
    exact hfailed

/-! ## Beyond the limit -/

/-- At the limit no exchange is under way. -/
theorem Limited.not_isActive (h : system.Limited)
    (hlocked : system.shared.attempts.failed = SetupAttempts.maxFailed) (conn : ConnectionId) :
    (system.machines conn).isActive = false := by
  cases hactive : (system.machines conn).isActive with
  | false => rfl
  | true =>
    have hbelow := h.failed_lt conn hactive
    omega

/-- At the limit every request fails, and the store stays as it is. -/
theorem call_locked (suite : CipherSuite) (h : system.Limited)
    (hlocked : system.shared.attempts.failed = SetupAttempts.maxFailed) (conn : ConnectionId)
    (body : Bytes) :
    (∃ number code, system.answer suite conn body = (Tlv.errorResponse number code).encode) ∧
      (system.call suite conn body).2.store = system.shared.store := by
  have hidle := h.not_isActive hlocked conn
  have hmove := call_move suite system conn body
  unfold answer
  generalize system.call suite conn body = result at hmove
  cases hmove with
  | started hdecode hstate hstart =>
    have htries := hstart.tries
    omega
  | busy hdecode hstate hbusy => exact ⟨⟨_, _, rfl⟩, rfl⟩
  | proved hdecode hstate hstage hcheck =>
    rw [isActive_of_awaitingM3 hstage] at hidle
    cases hidle
  | refused hdecode hstate hstage hcheck =>
    rw [isActive_of_awaitingM3 hstage] at hidle
    cases hidle
  | paired hdecode hstate hstage hintro hadd =>
    rw [isActive_of_awaitingM5 hstage] at hidle
    cases hidle
  | notStored hdecode hstate hstage hintro hadd =>
    rw [isActive_of_awaitingM5 hstage] at hidle
    cases hidle
  | failed hbusy => exact ⟨⟨_, _, rfl⟩, rfl⟩

/-- The count is the number of proofs that were checked and refused, never falls and never exceeds
100. Once it is 100, whatever happens then, every request is answered with a failure, no proof is
checked and pair-setup adds no controller. -/
theorem lockout (suite : CipherSuite) (setupCode : SetupCode) (store : IdentityStore)
    (random : Entropy) (history : List SetupAction) :
    let start := fresh setupCode store random
    let system := start.run suite history
    system.shared.attempts.failed = start.refusals suite history ∧
      system.shared.attempts.failed ≤ 100 ∧
      (∀ later, system.shared.attempts.failed ≤
        (system.run suite later).shared.attempts.failed) ∧
      (system.shared.attempts.failed = 100 → ∀ later conn body,
        let locked := system.run suite later
        (∃ number code, Tlv.decode (locked.answer suite conn body) =
          .ok (Tlv.errorResponse number code)) ∧
        (locked.machines conn).proofCheck? suite body = none ∧
        (locked.call suite conn body).2.store = locked.shared.store) := by
  intro start system
  have hfresh := fresh_exclusive setupCode store random
  have hexclusive := run_exclusive suite hfresh history
  obtain ⟨hlimited, hcount⟩ :=
    run_limited suite (fresh_limited setupCode store random) hfresh history
  have hlater : ∀ later, (system.run suite later).Limited ∧
      (system.run suite later).shared.attempts.failed =
        system.shared.attempts.failed + system.refusals suite later :=
    fun later => run_limited suite hlimited hexclusive later
  refine ⟨?_, hlimited.failed_le, fun later => ?_, fun hlocked later conn body => ?_⟩
  · exact hcount.trans (Nat.zero_add _)
  · rw [(hlater later).2]
    exact Nat.le_add_right _ _
  · obtain ⟨hstill, hgrown⟩ := hlater later
    have hmax := hstill.failed_le
    have hfull : (system.run suite later).shared.attempts.failed = SetupAttempts.maxFailed := by
      have hhundred : SetupAttempts.maxFailed = 100 := rfl
      omega
    obtain ⟨⟨number, code, hanswer⟩, hstore⟩ := call_locked suite hstill hfull conn body
    refine ⟨⟨number, code, ?_⟩, ?_, hstore⟩
    · rw [hanswer]
      exact Tlv.decode_errorResponse number code
    · exact PairSetup.proofCheck?_of_not_isActive (hstill.not_isActive hfull conn)

/-! ## Reaching the limit -/

/-- The public value zero, which no proof goes with. -/
def wrongM3 : Tlv := .ofList [(.state, [3]), (.publicKey, [0]), (.proof, [])]

/-- A connection starts an exchange and fails to prove that it knows the setup code. -/
def wrongGuess (conn : ConnectionId) : List SetupAction :=
  [.request conn Tlv.pairSetupM1.encode, .request conn wrongM3.encode]

def wrongGuesses (conn : ConnectionId) (count : Nat) : List SetupAction :=
  (List.replicate count (wrongGuess conn)).flatten

/-- Nothing but the limit stands in the way of an exchange on the connection. -/
structure Ready (conn : ConnectionId) (system : SetupSystem) : Prop where
  conn_eq : (system.machines conn).conn = conn
  idle : (system.machines conn).isActive = false
  unpaired : system.shared.store.isPaired = false
  free : system.shared.attempts.owner = none

theorem verify_zero (hash : Bytes → Octets 64) (server : Srp.Server) (proof : Bytes) :
    server.verify hash [0] proof =
      .error (.invalidPublicKey "client public key: A mod N = 0") := by
  have hzero : ofBigEndian [0] % Srp.modulus = 0 := by
    rw [show ofBigEndian [0] = 0 from rfl, Nat.zero_mod]
  simp only [Srp.Server.verify]
  rw [if_pos hzero]

/-- Below the limit a wrong guess is counted, and leaves everything ready for the next. -/
theorem run_wrongGuess (suite : CipherSuite) (h : system.Ready conn)
    (hroom : system.shared.attempts.failed < SetupAttempts.maxFailed) :
    (system.run suite (wrongGuess conn)).Ready conn ∧
      (system.run suite (wrongGuess conn)).shared.attempts.failed =
        system.shared.attempts.failed + 1 := by
  have hstart : (system.machines conn).CanStart system.shared Tlv.pairSetupM1 :=
    ⟨rfl, h.unpaired, h.idle, hroom, by rw [h.free]; rfl⟩
  let started := system.step suite (.request conn Tlv.pairSetupM1.encode)
  let server := PairSetup.serverOf suite (system.machines conn).setupCode system.shared.random
  have hcall : system.call suite conn Tlv.pairSetupM1.encode =
      (((PairSetup.answerM2 server).encode,
        { system.machines conn with stage := .awaitingM3 server }),
        (system.machines conn).started system.shared) :=
    PairSetup.handle_start (Tlv.decode_encode_ofList (by simp)) rfl hstart
  have hmachine : started.machines conn =
      { system.machines conn with stage := .awaitingM3 server } := by
    rw [step_request_machine, hcall]
  have hshared : started.shared = (system.machines conn).started system.shared := by
    rw [step_request_shared, hcall]
  have hcheck : (started.machines conn).proofCheck? suite wrongM3.encode =
      some (.error (.invalidPublicKey "client public key: A mod N = 0")) := by
    refine PairSetup.proofCheck?_eq_some_iff.2 ⟨wrongM3, server,
      Tlv.decode_encode_ofList (by simp), rfl, by rw [hmachine], [0], [], rfl, rfl, ?_⟩
    exact verify_zero suite.hash server []
  have hrefused : started.call suite conn wrongM3.encode =
      (((Tlv.errorResponse 4 .authentication).encode,
        { started.machines conn with stage := .awaitingM1 }),
        { started.shared with
          attempts := started.shared.attempts.recordFailure.release
            (started.machines conn).conn }) :=
    PairSetup.handle_refused hcheck
  have hrun : system.run suite (wrongGuess conn) =
      started.step suite (.request conn wrongM3.encode) := rfl
  rw [hrun]
  have howner : started.shared.attempts.owner = some conn := by
    rw [hshared]
    exact congrArg some h.conn_eq
  have hfailed : started.shared.attempts.failed = system.shared.attempts.failed := by
    rw [hshared]
    rfl
  have hlimit : SetupAttempts.maxFailed < SetupAttempts.failedLimit := by decide
  constructor
  · constructor
    · rw [step_request_machine, hrefused, hmachine]
      exact h.conn_eq
    · rw [step_request_machine, hrefused]
      rfl
    · rw [step_request_shared, hrefused, hshared]
      exact h.unpaired
    · rw [step_request_shared, hrefused, hmachine]
      simp only [h.conn_eq, SetupAttempts.release, SetupAttempts.recordFailure, howner, if_true]
  · rw [step_request_shared, hrefused]
    simp only [release_failed, SetupAttempts.recordFailure, hfailed]
    omega

theorem run_wrongGuesses (suite : CipherSuite) (h : system.Ready conn) (count : Nat)
    (hroom : system.shared.attempts.failed + count ≤ SetupAttempts.maxFailed) :
    (system.run suite (wrongGuesses conn count)).Ready conn ∧
      (system.run suite (wrongGuesses conn count)).shared.attempts.failed =
        system.shared.attempts.failed + count := by
  induction count generalizing system with
  | zero => exact ⟨h, rfl⟩
  | succ count ih =>
    obtain ⟨hready, hfailed⟩ := run_wrongGuess suite h (by omega)
    obtain ⟨hrest, hcount⟩ := ih hready (by omega)
    have hrun : system.run suite (wrongGuesses conn (count + 1)) =
        (system.run suite (wrongGuess conn)).run suite (wrongGuesses conn count) := by
      rw [← run_append]
      rfl
    rw [hrun]
    exact ⟨hrest, by omega⟩

/-- A hundred wrong guesses reach the limit, and then the setup code is of no use any more. -/
theorem lockout_hundred :
    let start := fresh .default .unpaired (.constant 7)
    let system := start.run .transparent (wrongGuesses 1 100)
    system.shared.attempts.failed = 100 ∧
      ∀ later conn body,
        let locked := system.run .transparent later
        (∃ number code, Tlv.decode (locked.answer .transparent conn body) =
          .ok (Tlv.errorResponse number code)) ∧
        (locked.machines conn).proofCheck? .transparent body = none ∧
        (locked.call .transparent conn body).2.store = locked.shared.store := by
  have hready : (fresh .default .unpaired (.constant 7)).Ready 1 :=
    ⟨rfl, rfl, by decide +kernel, rfl⟩
  have hfull := (run_wrongGuesses .transparent hready 100 (by decide)).2
  exact ⟨hfull, (lockout .transparent .default .unpaired (.constant 7) _).2.2.2 hfull⟩

end HomeKit.SetupSystem
