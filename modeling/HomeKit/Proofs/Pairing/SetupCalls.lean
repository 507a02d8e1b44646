import HomeKit.Proofs.Pairing.SetupMoves

/-!
# What a request of pair-setup comes to

`PairSetup.handle_move` says what a call can do. Here it is said which request does what: an M1
starts an exchange if nothing stands in its way (`handle_start`), an M3 comes to the check of its
proof exactly if `proofCheck?` gives an outcome, which decides the answer (`handle_proved`,
`handle_refused`), and an M5 pairs the controller that it introduces if it can be stored
(`handle_pair`).
-/

namespace HomeKit.PairSetup

variable {suite : CipherSuite} {identity : AccessoryIdentity} {machine : PairSetup}
  {shared : SetupShared} {request : Bytes} {tlv : Tlv}

/-! ## Dispatch -/

theorem dispatch_m1 (hstate : tlv.state? = some 1) :
    dispatch suite identity machine tlv (tlv.state?.getD 0) = handleM1 suite machine tlv := by
  rw [hstate]
  rfl

theorem dispatch_m3 (hstate : tlv.state? = some 3) :
    dispatch suite identity machine tlv (tlv.state?.getD 0) = handleM3 suite machine tlv := by
  rw [hstate]
  rfl

theorem dispatch_m5 (hstate : tlv.state? = some 5) :
    dispatch suite identity machine tlv (tlv.state?.getD 0) =
      handleM5 suite identity machine tlv := by
  rw [hstate]
  rfl

/-! ## M1 -/

/-- An M1 starts an exchange if nothing stands in its way. -/
theorem handle_start (hdecode : Tlv.decode request = .ok tlv) (hstate : tlv.state? = some 1)
    (hstart : machine.CanStart shared tlv) :
    (machine.handle suite identity request).run shared =
      (((answerM2 (serverOf suite machine.setupCode shared.random)).encode,
        { machine with stage := .awaitingM3 (serverOf suite machine.setupCode shared.random) }),
        machine.started shared) := by
  have hclaim : shared.attempts.claim machine.conn =
      (true, { shared.attempts with owner := some machine.conn }) := by
    rw [SetupAttempts.claim, if_neg (by simp [hstart.free])]
  have hattempt : attempt (handleM1 suite machine tlv) shared =
      (.ok (answerM2 (serverOf suite machine.setupCode shared.random),
        { machine with stage := .awaitingM3 (serverOf suite machine.setupCode shared.random) }),
        machine.started shared) := by
    unfold handleM1 handleM1.liftExcept
    simp [hstart.method, hstart.unpaired, hstart.idle, Nat.not_le.2 hstart.tries, hclaim,
      newServer_run, started, answerM2]
  rw [handle_run hdecode, dispatch_m1 hstate, hattempt]

/-! ## M3 -/

/-- The outcome of the check of a proof, if the request comes as far as that: it is an M3 with a
public value and a proof, on a machine that waits for it. -/
def proofCheck? (suite : CipherSuite) (machine : PairSetup) (request : Bytes) :
    Option (Except CryptoError Srp.Verified) :=
  match Tlv.decode request, machine.stage with
  | .ok tlv, .awaitingM3 server =>
    if tlv.state? = some 3 then
      (tlv.get? .publicKey).bind fun publicKey =>
        (tlv.get? .proof).map fun proof => server.verify suite.hash publicKey proof
    else none
  | _, _ => none

theorem proofCheck?_eq_some_iff {outcome : Except CryptoError Srp.Verified} :
    machine.proofCheck? suite request = some outcome ↔
      ∃ tlv server, Tlv.decode request = .ok tlv ∧ tlv.state? = some 3 ∧
        machine.stage = .awaitingM3 server ∧ Checks suite server tlv outcome := by
  unfold proofCheck?
  constructor
  · intro h
    split at h
    · rename_i tlv server hdecode hstage
      split at h
      · rename_i hstate
        obtain ⟨publicKey, hkey, h⟩ := Option.bind_eq_some_iff.1 h
        obtain ⟨proof, hproof, hverify⟩ := Option.map_eq_some_iff.1 h
        exact ⟨tlv, server, hdecode, hstate, hstage, publicKey, proof, hkey, hproof, hverify⟩
      · cases h
    · cases h
  · rintro ⟨tlv, server, hdecode, hstate, hstage, publicKey, proof, hkey, hproof, rfl⟩
    simp [hdecode, hstage, hstate, hkey, hproof]

/-- A proof is checked only while an exchange is under way. -/
theorem isActive_of_proofCheck? {outcome : Except CryptoError Srp.Verified}
    (h : machine.proofCheck? suite request = some outcome) : machine.isActive = true := by
  obtain ⟨-, server, -, -, hstage, -⟩ := proofCheck?_eq_some_iff.1 h
  rw [isActive, hstage]

theorem proofCheck?_of_not_isActive (h : machine.isActive = false) :
    machine.proofCheck? suite request = none := by
  cases hcheck : machine.proofCheck? suite request with
  | none => rfl
  | some outcome =>
    rw [isActive_of_proofCheck? hcheck] at h
    cases h

/-- A proof that is accepted brings the machine to M5. -/
theorem handle_proved {verified : Srp.Verified}
    (hcheck : machine.proofCheck? suite request = some (.ok verified)) :
    (machine.handle suite identity request).run shared =
      (((answerM4 verified).encode, { machine with stage := .awaitingM5 verified.key }),
        shared) := by
  obtain ⟨tlv, server, hdecode, hstate, hstage, publicKey, proof, hkey, hproof, hverify⟩ :=
    proofCheck?_eq_some_iff.1 hcheck
  have hattempt : attempt (handleM3 suite machine tlv) shared =
      (.ok (answerM4 verified, { machine with stage := .awaitingM5 verified.key }), shared) := by
    unfold handleM3
    simp [hstage, required_eq, hkey, hproof, hverify, answerM4]
  rw [handle_run hdecode, dispatch_m3 hstate, hattempt]

/-- A proof that is refused is counted and ends the exchange. -/
theorem handle_refused {error : CryptoError}
    (hcheck : machine.proofCheck? suite request = some (.error error)) :
    (machine.handle suite identity request).run shared =
      (((Tlv.errorResponse 4 .authentication).encode, { machine with stage := .awaitingM1 }),
        { shared with attempts := shared.attempts.recordFailure.release machine.conn }) := by
  obtain ⟨tlv, server, hdecode, hstate, hstage, publicKey, proof, hkey, hproof, hverify⟩ :=
    proofCheck?_eq_some_iff.1 hcheck
  have hattempt : attempt (handleM3 suite machine tlv) shared =
      (.error (.pairing .authenticationFailed),
        { shared with attempts := shared.attempts.recordFailure }) := by
    unfold handleM3
    simp [hstage, required_eq, hkey, hproof, hverify]
  rw [handle_run hdecode, dispatch_m3 hstate, hattempt, hstate]
  rfl

/-! ## M5 -/

/-- An M5 pairs the controller that it introduces, if it can be stored. -/
theorem handle_pair {key : Octets 64} {controller : PairedController}
    (hdecode : Tlv.decode request = .ok tlv) (hstate : tlv.state? = some 5)
    (hstage : machine.stage = .awaitingM5 key) (hintro : Introduces suite key tlv controller)
    (hadd : (shared.store.add controller).1 = .ok ()) :
    (machine.handle suite identity request).run shared =
      (((responseM6 suite identity key).encode, { machine with stage := .complete }),
        { shared with
          store := (shared.store.add controller).2
          attempts := shared.attempts.release machine.conn }) := by
  have hcontroller := introduced_eq_ok_iff.2 hintro
  have hattempt : attempt (handleM5 suite identity machine tlv) shared =
      (.ok (responseM6 suite identity key, { machine with stage := .complete }),
        { shared with
          store := (shared.store.add controller).2
          attempts := shared.attempts.release machine.conn }) := by
    unfold handleM5
    simp [hstage, hcontroller, hadd]
  rw [handle_run hdecode, dispatch_m5 hstate, hattempt]

end HomeKit.PairSetup
