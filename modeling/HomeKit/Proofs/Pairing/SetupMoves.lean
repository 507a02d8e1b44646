import HomeKit.Pairing.PairSetup
import HomeKit.Proofs.Pairing.Store

/-!
# What a call of pair-setup does

A call of a machine is one of seven moves (`PairSetup.Move`): it starts an exchange, accepts or
refuses a proof, pairs a controller or fails to store it, is turned away because setup is busy, or
fails otherwise. Each move says what the request brought, what the call answers and what becomes of
the machine and of what is shared; every call makes one of them (`PairSetup.handle_move`), so
nothing later looks into the handlers again.
-/

namespace HomeKit.PairSetup

variable {suite : CipherSuite} {identity : AccessoryIdentity} {machine : PairSetup}
  {shared : SetupShared}

/-! ## Attempts -/

section Attempt

variable {α β : Type}

/-- Makes an attempt on what is shared. -/
def attempt (x : Attempt α) (shared : SetupShared) : Except Error α × SetupShared :=
  x.run.run shared

@[simp] theorem attempt_throw (error : Error) :
    attempt (throw error : Attempt α) shared = (.error error, shared) :=
  rfl

@[simp] theorem attempt_pure (a : α) : attempt (pure a : Attempt α) shared = (.ok a, shared) :=
  rfl

@[simp] theorem attempt_mk (program : SetupProgram (Except Error α)) :
    attempt (ExceptT.mk program : Attempt α) shared = program.run shared :=
  rfl

@[simp] theorem attempt_lift (program : SetupProgram α) :
    attempt (ExceptT.lift program : Attempt α) shared =
      (.ok (program.run shared).1, (program.run shared).2) := by
  show (program >>= fun a => pure (Except.ok a)).run shared = _
  rw [SetupProgram.run_bind]
  rfl

@[simp] theorem attempt_bind (x : Attempt α) (f : α → Attempt β) :
    attempt (x >>= f) shared = match attempt x shared with
      | (.ok a, shared) => attempt (f a) shared
      | (.error error, shared) => (.error error, shared) := by
  show SetupProgram.run (x.run >>= _) shared = _
  rw [SetupProgram.run_bind]
  unfold attempt
  rcases x.run.run shared with ⟨error | a, after⟩
  · rfl
  · rfl

-- The type of a step's answer depends on the step, so rewriting needs each step by itself.
@[simp] theorem attempt_isPaired :
    attempt (α := Bool) (perform .isPaired) shared = (.ok shared.store.isPaired, shared) :=
  rfl

@[simp] theorem attempt_failed :
    attempt (α := Nat) (perform .failed) shared = (.ok shared.attempts.failed, shared) :=
  rfl

@[simp] theorem attempt_claim (conn : ConnectionId) :
    attempt (α := Bool) (perform (.claim conn)) shared =
      (.ok (shared.attempts.claim conn).1,
        { shared with attempts := (shared.attempts.claim conn).2 }) :=
  rfl

@[simp] theorem attempt_recordFailure :
    attempt (α := Unit) (perform .recordFailure) shared =
      (.ok (), { shared with attempts := shared.attempts.recordFailure }) :=
  rfl

@[simp] theorem attempt_release (conn : ConnectionId) :
    attempt (α := Unit) (perform (.release conn)) shared =
      (.ok (), { shared with attempts := shared.attempts.release conn }) :=
  rfl

@[simp] theorem run_add (controller : PairedController) :
    SetupProgram.run (α := Except Error Unit) (SetupProgram.perform (.add controller)) shared =
      ((shared.store.add controller).1,
        { shared with store := (shared.store.add controller).2 }) :=
  rfl

end Attempt

/-! ## M1 -/

/-- The exchange that an M1 starts: for the setup code, with a salt and a secret from the
randomness. -/
def serverOf (suite : CipherSuite) (setupCode : SetupCode) (random : Entropy) : Srp.Server :=
  .new suite.hash username (utf8 setupCode.dashed) (random.draw 16).1
    (ofLittleEndian ((random.draw 16).2.draw 32).1.bytes)

/-- What is shared after an M1 was answered. -/
def started (machine : PairSetup) (shared : SetupShared) : SetupShared :=
  { shared with
    attempts := { shared.attempts with owner := some machine.conn }
    random := ((shared.random.draw 16).2.draw 32).2 }

/-- The answer to an M1. -/
def answerM2 (server : Srp.Server) : Tlv :=
  .ofList [(.state, [2]), (.salt, server.salt.bytes), (.publicKey, server.publicKey)]

/-- Nothing stands in the way of an exchange. -/
structure CanStart (machine : PairSetup) (shared : SetupShared) (request : Tlv) : Prop where
  method : checkMethod request = .ok ()
  unpaired : shared.store.isPaired = false
  idle : machine.isActive = false
  tries : shared.attempts.failed < SetupAttempts.maxFailed
  free : shared.attempts.owner.any (· != machine.conn) = false

/-- An exchange is under way, on this connection or on another one. -/
structure IsBusy (machine : PairSetup) (shared : SetupShared) (request : Tlv) : Prop where
  method : checkMethod request = .ok ()
  unpaired : shared.store.isPaired = false
  taken : machine.isActive = true ∨ shared.attempts.owner.any (· != machine.conn) = true

theorem checkMethod_ne_busy {request : Tlv} : checkMethod request ≠ .error (.pairing .busy) := by
  unfold checkMethod
  cases request.method? with
  | none => simp
  | some method =>
    simp only
    cases hm : PairingMethod.ofCode method with
    | error error =>
      unfold PairingMethod.ofCode at hm
      split at hm
      · cases hm
      · cases hm
        intro h
        cases h
    | ok found =>
      intro h
      cases found <;> cases h

theorem newServer_run : (newServer suite machine).run shared =
    (serverOf suite machine.setupCode shared.random,
      { shared with random := ((shared.random.draw 16).2.draw 32).2 }) :=
  rfl

/-- An M1 starts an exchange, is turned away because one is under way, or fails otherwise. -/
theorem attempt_handleM1 (suite : CipherSuite) (machine : PairSetup) (shared : SetupShared)
    (request : Tlv) :
    (machine.CanStart shared request ∧ attempt (handleM1 suite machine request) shared =
      (.ok (answerM2 (serverOf suite machine.setupCode shared.random),
        { machine with stage := .awaitingM3 (serverOf suite machine.setupCode shared.random) }),
        machine.started shared)) ∨
    (machine.IsBusy shared request ∧
      attempt (handleM1 suite machine request) shared = (.error (.pairing .busy), shared)) ∨
    ∃ error, error ≠ .pairing .busy ∧
      attempt (handleM1 suite machine request) shared = (.error error, shared) := by
  unfold handleM1 handleM1.liftExcept
  cases hmethod : checkMethod request with
  | error error =>
    refine Or.inr (Or.inr ⟨error, ?_, rfl⟩)
    rintro rfl
    exact checkMethod_ne_busy hmethod
  | ok _ =>
    cases hpaired : shared.store.isPaired with
    | true => exact Or.inr (Or.inr ⟨.pairing .unavailable, by simp, by simp [hpaired]⟩)
    | false =>
      cases hactive : machine.isActive with
      | true => exact Or.inr (Or.inl ⟨⟨hmethod, hpaired, Or.inl hactive⟩, by simp [hpaired]⟩)
      | false =>
        by_cases hfailed : SetupAttempts.maxFailed ≤ shared.attempts.failed
        · exact Or.inr (Or.inr ⟨.pairing .maxTries, by simp, by simp [hpaired, hfailed]⟩)
        · cases howner : shared.attempts.owner.any (· != machine.conn) with
          | true =>
            have hclaim : shared.attempts.claim machine.conn = (false, shared.attempts) := by
              rw [SetupAttempts.claim, if_pos howner]
            exact Or.inr (Or.inl ⟨⟨hmethod, hpaired, Or.inr howner⟩,
              by simp [hpaired, hfailed, hclaim]⟩)
          | false =>
            have hclaim : shared.attempts.claim machine.conn =
                (true, { shared.attempts with owner := some machine.conn }) := by
              rw [SetupAttempts.claim, if_neg (by simp [howner])]
            exact Or.inl ⟨⟨hmethod, hpaired, hactive, Nat.lt_of_not_le hfailed, howner⟩,
              by simp [hpaired, hfailed, hclaim, newServer_run, started, answerM2]⟩

/-! ## M3 -/

/-- The answer to an M3. -/
def answerM4 (verified : Srp.Verified) : Tlv :=
  .ofList [(.state, [4]), (.proof, verified.serverProof.bytes)]

/-- The request brings a public value and a proof, whose check has this outcome. -/
def Checks (suite : CipherSuite) (server : Srp.Server) (request : Tlv)
    (outcome : Except CryptoError Srp.Verified) : Prop :=
  ∃ publicKey proof, request.get? .publicKey = some publicKey ∧
    request.get? .proof = some proof ∧ server.verify suite.hash publicKey proof = outcome

theorem required_eq (request : Tlv) (type : TlvType) :
    handleM3.required request type = match request.get? type with
      | some value => pure value
      | none => throw (.pairing (.missingTlv type.code)) := by
  unfold handleM3.required Tlv.require
  cases request.get? type <;> rfl

/-- An M3 has its proof accepted or refused, or fails before the proof is checked. -/
theorem attempt_handleM3 (suite : CipherSuite) (machine : PairSetup) (shared : SetupShared)
    (request : Tlv) :
    (∃ server verified, machine.stage = .awaitingM3 server ∧
      Checks suite server request (.ok verified) ∧
      attempt (handleM3 suite machine request) shared =
        (.ok (answerM4 verified, { machine with stage := .awaitingM5 verified.key }), shared)) ∨
    (∃ server error, machine.stage = .awaitingM3 server ∧
      Checks suite server request (.error error) ∧
      attempt (handleM3 suite machine request) shared = (.error (.pairing .authenticationFailed),
        { shared with attempts := shared.attempts.recordFailure })) ∨
    ∃ error, error ≠ .pairing .busy ∧
      attempt (handleM3 suite machine request) shared = (.error error, shared) := by
  unfold handleM3
  cases hstage : machine.stage with
  | awaitingM3 server =>
    cases hkey : request.get? .publicKey with
    | none =>
      exact Or.inr (Or.inr ⟨.pairing (.missingTlv TlvType.publicKey.code), by simp,
        by simp [required_eq, hkey]⟩)
    | some publicKey =>
      cases hproof : request.get? .proof with
      | none =>
        exact Or.inr (Or.inr ⟨.pairing (.missingTlv TlvType.proof.code), by simp,
          by simp [required_eq, hkey, hproof]⟩)
      | some proof =>
        cases hverify : server.verify suite.hash publicKey proof with
        | error error =>
          exact Or.inr (Or.inl ⟨server, error, rfl, ⟨publicKey, proof, hkey, hproof, hverify⟩,
            by simp [required_eq, hkey, hproof, hverify]⟩)
        | ok verified =>
          exact Or.inl ⟨server, verified, rfl, ⟨publicKey, proof, hkey, hproof, hverify⟩,
            by simp [required_eq, hkey, hproof, hverify, answerM4]⟩
  | awaitingM1 => exact Or.inr (Or.inr ⟨_, by simp [outOfOrder], rfl⟩)
  | awaitingM5 key => exact Or.inr (Or.inr ⟨_, by simp [outOfOrder], rfl⟩)
  | complete => exact Or.inr (Or.inr ⟨_, by simp [outOfOrder], rfl⟩)

/-! ## M5 -/

/-- The request brings an encrypted message, under a key from the agreed secret, in which a
controller names itself and its public key and signs both with it; it becomes an admin. -/
def Introduces (suite : CipherSuite) (key : Octets 64) (request : Tlv)
    (controller : PairedController) : Prop :=
  ∃ box message inner signature,
    request.get? .encryptedData = some box ∧
    suite.decryptNamed (suite.deriveFor .pairSetup key.bytes) nonceM5 box = .ok message ∧
    Tlv.decode message = .ok inner ∧
    inner.get? .identifier = some (utf8 controller.id) ∧
    inner.get? .publicKey = some controller.publicKey.bytes ∧
    inner.get? .signature = some signature ∧
    suite.checkSignature controller.publicKey
      (signedInfo suite .controllerSign key (utf8 controller.id) controller.publicKey)
      signature = .ok () ∧
    controller.permissions = .admin

section Outcome

variable {α β : Type}

theorem bind_eq_ok_iff {x : Except Error α} {f : α → Except Error β} {b : β} :
    x >>= f = .ok b ↔ ∃ a, x = .ok a ∧ f a = .ok b := by
  cases x with
  | error error => simp [bind, Except.bind]
  | ok a => simp [bind, Except.bind]

theorem lift_eq_ok_iff {x : Except PairingError α} {a : α} :
    introduced.lift x = .ok a ↔ x = .ok a := by
  cases x with
  | error error => simp [introduced.lift]
  | ok a => simp [introduced.lift]

theorem authentic_eq_ok_iff {x : Except CryptoError α} {a : α} :
    introduced.authentic x = .ok a ↔ x = .ok a := by
  cases x with
  | error error => simp [introduced.authentic]
  | ok a => simp [introduced.authentic]

theorem publicKeyOfBytes_eq_ok_iff {b : Bytes} {key : Octets 32} :
    publicKeyOfBytes b = .ok key ↔ b = key.bytes := by
  unfold publicKeyOfBytes
  cases hb : Octets.ofBytes? 32 b with
  | none =>
    simp only [reduceCtorEq, false_iff]
    rintro rfl
    rw [Octets.ofBytes?_bytes] at hb
    cases hb
  | some found =>
    rw [Octets.ofBytes?_eq_some_iff] at hb
    rw [← hb, Except.ok.injEq, Octets.ext_iff]

end Outcome

theorem introduced_eq_ok_iff {key : Octets 64} {request : Tlv} {controller : PairedController} :
    introduced suite key request = .ok controller ↔ Introduces suite key request controller := by
  unfold introduced
  simp only [bind_eq_ok_iff, lift_eq_ok_iff, authentic_eq_ok_iff, Tlv.require_eq_ok_iff]
  constructor
  · rintro ⟨box, hbox, message, hmessage, h⟩
    cases hinner : Tlv.decode message with
    | error error =>
      rw [hinner] at h
      cases h
    | ok inner =>
      rw [hinner] at h
      simp only [pure_bind, bind_eq_ok_iff, lift_eq_ok_iff, authentic_eq_ok_iff,
        Tlv.require_eq_ok_iff, publicKeyOfBytes_eq_ok_iff] at h
      obtain ⟨idBytes, hid, keyBytes, hkey, signature, hsignature, publicKey, rfl, h⟩ := h
      cases htext : text? idBytes with
      | none =>
        rw [htext] at h
        cases h
      | some id =>
        rw [htext] at h
        simp only [bind_eq_ok_iff, authentic_eq_ok_iff] at h
        obtain ⟨_, hcheck, h⟩ := h
        cases h
        rw [text?_eq_some_iff] at htext
        subst htext
        exact ⟨box, message, inner, signature, hbox, hmessage, hinner, hid, hkey, hsignature,
          hcheck, rfl⟩
  · rintro ⟨box, message, inner, signature, hbox, hmessage, hinner, hid, hkey, hsignature, hcheck,
      hadmin⟩
    refine ⟨box, hbox, message, hmessage, ?_⟩
    rw [hinner]
    simp only [pure_bind, bind_eq_ok_iff, lift_eq_ok_iff, authentic_eq_ok_iff,
      Tlv.require_eq_ok_iff, publicKeyOfBytes_eq_ok_iff]
    refine ⟨_, hid, _, hkey, signature, hsignature, _, rfl, ?_⟩
    rw [text?_utf8]
    simp only [bind_eq_ok_iff, authentic_eq_ok_iff]
    refine ⟨(), hcheck, ?_⟩
    rw [← hadmin]
    rfl

/-- An outcome is not the failure of a request that has to wait. -/
def NotBusy {α : Type} (outcome : Except Error α) : Prop :=
  outcome ≠ .error (.pairing .busy)

theorem NotBusy.bind {α β : Type} {x : Except Error α} {f : α → Except Error β} (hx : NotBusy x)
    (hf : ∀ a, NotBusy (f a)) : NotBusy (x >>= f) := by
  cases x with
  | error error =>
    intro h
    exact hx (congrArg Except.error (Except.error.inj h))
  | ok a => exact hf a

theorem lift_require_notBusy (request : Tlv) (type : TlvType) :
    NotBusy (introduced.lift (request.require type)) := by
  unfold Tlv.require
  cases request.get? type with
  | none => exact nofun
  | some value => exact nofun

theorem authentic_notBusy {α : Type} (x : Except CryptoError α) :
    NotBusy (introduced.authentic x) := by
  cases x with
  | error error => exact nofun
  | ok a => exact nofun

theorem introduced_notBusy (suite : CipherSuite) (key : Octets 64) (request : Tlv) :
    NotBusy (introduced suite key request) := by
  unfold introduced
  refine (lift_require_notBusy _ _).bind fun box => (authentic_notBusy _).bind fun message => ?_
  cases Tlv.decode message with
  | error error => exact nofun
  | ok inner =>
    refine (lift_require_notBusy _ _).bind fun idBytes => (lift_require_notBusy _ _).bind
      fun keyBytes => (lift_require_notBusy _ _).bind fun signature =>
      (authentic_notBusy _).bind fun publicKey => ?_
    cases text? idBytes with
    | none => exact nofun
    | some id => exact (authentic_notBusy _).bind fun _ => nofun

theorem add_notBusy (store : IdentityStore) (controller : PairedController) :
    NotBusy (store.add controller).1 := by
  unfold IdentityStore.add
  simp only
  split
  · exact nofun
  · split
    · exact nofun
    · split
      · exact nofun
      · exact nofun

/-- An M5 pairs the controller that it introduces or fails to store it, or introduces none. -/
theorem attempt_handleM5 (suite : CipherSuite) (identity : AccessoryIdentity) (machine : PairSetup)
    (shared : SetupShared) (request : Tlv) :
    (∃ key controller, machine.stage = .awaitingM5 key ∧
      Introduces suite key request controller ∧ (shared.store.add controller).1 = .ok () ∧
      attempt (handleM5 suite identity machine request) shared =
        (.ok (responseM6 suite identity key, { machine with stage := .complete }),
          { shared with
            store := (shared.store.add controller).2
            attempts := shared.attempts.release machine.conn })) ∨
    (∃ key controller error, machine.stage = .awaitingM5 key ∧
      Introduces suite key request controller ∧
      (shared.store.add controller).1 = .error error ∧ error ≠ .pairing .busy ∧
      attempt (handleM5 suite identity machine request) shared =
        (.error error, { shared with store := (shared.store.add controller).2 })) ∨
    ∃ error, error ≠ .pairing .busy ∧
      attempt (handleM5 suite identity machine request) shared = (.error error, shared) := by
  unfold handleM5
  cases hstage : machine.stage with
  | awaitingM5 key =>
    cases hcontroller : introduced suite key request with
    | error error =>
      refine Or.inr (Or.inr ⟨error, ?_, by simp [hcontroller]⟩)
      rintro rfl
      exact introduced_notBusy suite key request hcontroller
    | ok controller =>
      have hintro := introduced_eq_ok_iff.1 hcontroller
      cases hadd : (shared.store.add controller).1 with
      | error error =>
        refine Or.inr (Or.inl ⟨key, controller, error, rfl, hintro, hadd, ?_,
          by simp [hcontroller, hadd]⟩)
        rintro rfl
        exact add_notBusy shared.store controller hadd
      | ok _ => exact Or.inl ⟨key, controller, rfl, hintro, hadd, by simp [hcontroller, hadd]⟩
  | awaitingM1 => exact Or.inr (Or.inr ⟨_, by simp [outOfOrder], rfl⟩)
  | awaitingM3 server => exact Or.inr (Or.inr ⟨_, by simp [outOfOrder], rfl⟩)
  | complete => exact Or.inr (Or.inr ⟨_, by simp [outOfOrder], rfl⟩)

/-! ## Moves -/

/-- What a call does: its answer and the machine, and what is shared afterwards. -/
inductive Move (suite : CipherSuite) (identity : AccessoryIdentity) (machine : PairSetup)
    (shared : SetupShared) (request : Bytes) : (Bytes × PairSetup) × SetupShared → Prop
  | started {tlv : Tlv} (hdecode : Tlv.decode request = .ok tlv) (hstate : tlv.state? = some 1)
      (hstart : machine.CanStart shared tlv) :
      Move suite identity machine shared request
        (((answerM2 (serverOf suite machine.setupCode shared.random)).encode,
          { machine with stage := .awaitingM3 (serverOf suite machine.setupCode shared.random) }),
          machine.started shared)
  | busy {tlv : Tlv} (hdecode : Tlv.decode request = .ok tlv) (hstate : tlv.state? = some 1)
      (hbusy : machine.IsBusy shared tlv) :
      Move suite identity machine shared request
        (((Tlv.errorResponse 2 .busy).encode, machine), shared)
  | proved {tlv : Tlv} {server : Srp.Server} {verified : Srp.Verified}
      (hdecode : Tlv.decode request = .ok tlv) (hstate : tlv.state? = some 3)
      (hstage : machine.stage = .awaitingM3 server)
      (hcheck : Checks suite server tlv (.ok verified)) :
      Move suite identity machine shared request
        (((answerM4 verified).encode, { machine with stage := .awaitingM5 verified.key }), shared)
  | refused {tlv : Tlv} {server : Srp.Server} {error : CryptoError}
      (hdecode : Tlv.decode request = .ok tlv) (hstate : tlv.state? = some 3)
      (hstage : machine.stage = .awaitingM3 server)
      (hcheck : Checks suite server tlv (.error error)) :
      Move suite identity machine shared request
        (((Tlv.errorResponse 4 .authentication).encode, { machine with stage := .awaitingM1 }),
          { shared with attempts := shared.attempts.recordFailure.release machine.conn })
  | paired {tlv : Tlv} {key : Octets 64} {controller : PairedController}
      (hdecode : Tlv.decode request = .ok tlv) (hstate : tlv.state? = some 5)
      (hstage : machine.stage = .awaitingM5 key)
      (hintro : Introduces suite key tlv controller)
      (hadd : (shared.store.add controller).1 = .ok ()) :
      Move suite identity machine shared request
        (((responseM6 suite identity key).encode, { machine with stage := .complete }),
          { shared with
            store := (shared.store.add controller).2
            attempts := shared.attempts.release machine.conn })
  | notStored {tlv : Tlv} {key : Octets 64} {controller : PairedController} {error : Error}
      (hdecode : Tlv.decode request = .ok tlv) (hstate : tlv.state? = some 5)
      (hstage : machine.stage = .awaitingM5 key)
      (hintro : Introduces suite key tlv controller)
      (hadd : (shared.store.add controller).1 = .error error) :
      Move suite identity machine shared request
        (((Tlv.errorResponse 6 error.code).encode, { machine with stage := .awaitingM1 }),
          { shared with
            store := (shared.store.add controller).2
            attempts := shared.attempts.release machine.conn })
  | failed {number : UInt8} {error : Error} (hbusy : error ≠ .pairing .busy) :
      Move suite identity machine shared request
        (((Tlv.errorResponse number error.code).encode, { machine with stage := .awaitingM1 }),
          { shared with attempts := shared.attempts.release machine.conn })

theorem reset_run : machine.reset.run shared =
    ({ machine with stage := .awaitingM1 },
      { shared with attempts := shared.attempts.release machine.conn }) :=
  rfl

/-- What a call does with the outcome of a request that can be read. -/
theorem handle_run {request : Bytes} {tlv : Tlv} (hdecode : Tlv.decode request = .ok tlv) :
    (machine.handle suite identity request).run shared =
      match attempt (dispatch suite identity machine tlv (tlv.state?.getD 0)) shared with
      | (.ok (response, machine), shared) => ((response.encode, machine), shared)
      | (.error error, shared) =>
        if error = .pairing .busy then
          (((Tlv.errorResponse (tlv.state?.getD 0 + 1) error.code).encode, machine), shared)
        else
          (((Tlv.errorResponse (tlv.state?.getD 0 + 1) error.code).encode,
            { machine with stage := .awaitingM1 }),
            { shared with attempts := shared.attempts.release machine.conn }) := by
  unfold handle
  rw [hdecode]
  simp only [SetupProgram.run_bind]
  rcases hd : attempt (dispatch suite identity machine tlv (tlv.state?.getD 0)) shared with
    ⟨error | ⟨response, after⟩, shared'⟩
  · unfold attempt at hd
    rw [hd]
    by_cases hbusy : error = .pairing .busy
    · simp [hbusy]
    · simp [hbusy, reset_run]
  · unfold attempt at hd
    rw [hd]
    rfl

/-- A request that cannot be read is answered as if it had come with the message that is due. -/
theorem handle_run_error {request : Bytes} {error : ParseError}
    (hdecode : Tlv.decode request = .error error) :
    (machine.handle suite identity request).run shared =
      (((Tlv.errorResponse (machine.dueMessage + 1) .unknown).encode,
        { machine with stage := .awaitingM1 }),
        { shared with attempts := shared.attempts.release machine.conn }) := by
  unfold handle
  rw [hdecode]
  rfl

/-- A call that fails for another reason than a busy setup gives up the exchange. -/
theorem move_failed {request : Bytes} {tlv : Tlv} {error : Error}
    (hdecode : Tlv.decode request = .ok tlv) (hbusy : error ≠ .pairing .busy)
    (h : attempt (dispatch suite identity machine tlv (tlv.state?.getD 0)) shared =
      (.error error, shared)) :
    Move suite identity machine shared request
      ((machine.handle suite identity request).run shared) := by
  rw [handle_run hdecode, h]
  simp only [if_neg hbusy]
  exact .failed hbusy

/-- Every call makes a move. -/
theorem handle_move (suite : CipherSuite) (identity : AccessoryIdentity) (machine : PairSetup)
    (shared : SetupShared) (request : Bytes) :
    Move suite identity machine shared request
      ((machine.handle suite identity request).run shared) := by
  cases hdecode : Tlv.decode request with
  | error error =>
    rw [handle_run_error hdecode]
    have hbusy : Error.parse error ≠ .pairing .busy := by simp
    exact .failed hbusy
  | ok tlv =>
    by_cases h1 : tlv.state?.getD 0 = 1
    · have hstate := (Tlv.state?_getD_eq_iff (by decide)).1 h1
      have hdispatch : dispatch suite identity machine tlv (tlv.state?.getD 0) =
          handleM1 suite machine tlv := by
        simp [dispatch, h1]
      rcases attempt_handleM1 suite machine shared tlv with
        ⟨hstart, h⟩ | ⟨hbusy, h⟩ | ⟨error, hbusy, h⟩
      · rw [handle_run hdecode, hdispatch, h]
        exact .started hdecode hstate hstart
      · rw [handle_run hdecode, hdispatch, h, h1]
        exact .busy hdecode hstate hbusy
      · exact move_failed hdecode hbusy (hdispatch ▸ h)
    · by_cases h3 : tlv.state?.getD 0 = 3
      · have hstate := (Tlv.state?_getD_eq_iff (by decide)).1 h3
        have hdispatch : dispatch suite identity machine tlv (tlv.state?.getD 0) =
            handleM3 suite machine tlv := by
          simp [dispatch, h3]
        rcases attempt_handleM3 suite machine shared tlv with
          ⟨server, verified, hstage, hcheck, h⟩ | ⟨server, error, hstage, hcheck, h⟩ |
          ⟨error, hbusy, h⟩
        · rw [handle_run hdecode, hdispatch, h]
          exact .proved hdecode hstate hstage hcheck
        · rw [handle_run hdecode, hdispatch, h, h3]
          exact .refused hdecode hstate hstage hcheck
        · exact move_failed hdecode hbusy (hdispatch ▸ h)
      · by_cases h5 : tlv.state?.getD 0 = 5
        · have hstate := (Tlv.state?_getD_eq_iff (by decide)).1 h5
          have hdispatch : dispatch suite identity machine tlv (tlv.state?.getD 0) =
              handleM5 suite identity machine tlv := by
            simp [dispatch, h5]
          rcases attempt_handleM5 suite identity machine shared tlv with
            ⟨key, controller, hstage, hintro, hadd, h⟩ |
            ⟨key, controller, error, hstage, hintro, hadd, hbusy, h⟩ | ⟨error, hbusy, h⟩
          · rw [handle_run hdecode, hdispatch, h]
            exact .paired hdecode hstate hstage hintro hadd
          · rw [handle_run hdecode, hdispatch, h, h5]
            simp only [if_neg hbusy]
            exact .notStored hdecode hstate hstage hintro hadd
          · exact move_failed hdecode hbusy (hdispatch ▸ h)
        · have hbusy : machine.outOfOrder (tlv.state?.getD 0) ≠ .pairing .busy := by
            simp [outOfOrder]
          refine move_failed hdecode hbusy ?_
          rw [dispatch, if_neg h1, if_neg h3, if_neg h5]
          rfl

end HomeKit.PairSetup
