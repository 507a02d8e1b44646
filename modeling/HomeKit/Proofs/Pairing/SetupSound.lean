import HomeKit.Proofs.Pairing.SetupSystem
import Mathlib.Data.List.Induction

/-!
# Soundness of pair-setup

Whatever is sent on any number of connections, a request adds a controller only at the end of an
exchange (`SetupSystem.paired_sound`): the last M1 of its connection that was answered was followed
by an M3 with the proof that belongs to that M1, and this by the request, an M5 that introduces the
controller. In between, the connection's requests were turned away as busy.

The invariant says of each machine which requests brought it to its stage (`Accounted`).
-/

namespace HomeKit.SetupSystem

variable {suite : CipherSuite} {setupCode : SetupCode} {start system : SetupSystem}
  {conn : ConnectionId} {history : List SetupAction}

/-! ## The requests of an exchange -/

/-- The answer to a request that has to wait. -/
def busyAnswer : Bytes := (Tlv.errorResponse 2 .busy).encode

/-- The connection is not concerned, or its requests are turned away as busy. -/
inductive Quiet (suite : CipherSuite) (conn : ConnectionId) (system : SetupSystem) :
    List SetupAction → Prop
  | nil : Quiet suite conn system []
  | elsewhere {actions : List SetupAction} {action : SetupAction}
      (h : Quiet suite conn system actions) (hconn : action.conn? ≠ some conn) :
      Quiet suite conn system (actions ++ [action])
  | busy {actions : List SetupAction} {body : Bytes} (h : Quiet suite conn system actions)
      (hanswer : (system.run suite actions).answer suite conn body = busyAnswer) :
      Quiet suite conn system (actions ++ [.request conn body])

/-- The last request of the connection that was not turned away, and what came before it. -/
def LastRequest (suite : CipherSuite) (start : SetupSystem) (conn : ConnectionId)
    (history : List SetupAction) (property : List SetupAction → Bytes → Prop) : Prop :=
  ∃ before body after, history = before ++ .request conn body :: after ∧ property before body ∧
    Quiet suite conn (start.run suite (before ++ [.request conn body])) after

/-- The request is an M1 that is answered with the salt and the public value of an exchange, which
is set up for the setup code with what is drawn from the randomness then. -/
def Starts (suite : CipherSuite) (setupCode : SetupCode) (start : SetupSystem)
    (conn : ConnectionId) (server : Srp.Server) (before : List SetupAction) (body : Bytes) : Prop :=
  ∃ tlv, Tlv.decode body = .ok tlv ∧ tlv.state? = some 1 ∧
    server = PairSetup.serverOf suite setupCode (start.run suite before).shared.random ∧
    (start.run suite before).answer suite conn body = (PairSetup.answerM2 server).encode

/-- The message brings a public value with the proof that the exchange expects for it; the key is
the one agreed with that value. -/
def ProvesKnowledge (suite : CipherSuite) (server : Srp.Server) (message : Tlv) (key : Octets 64) :
    Prop :=
  ∃ publicKey, message.get? .publicKey = some publicKey ∧
    message.get? .proof = some (server.expectedProof suite.hash (ofBigEndian publicKey)).bytes ∧
    key = server.sharedKey suite.hash (ofBigEndian publicKey)

/-- The request is an M3 that is accepted, and the last M1 that was answered before it started the
exchange. -/
def Proves (suite : CipherSuite) (setupCode : SetupCode) (start : SetupSystem)
    (conn : ConnectionId) (key : Octets 64) (before : List SetupAction) (body : Bytes) : Prop :=
  ∃ tlv server verified, Tlv.decode body = .ok tlv ∧ tlv.state? = some 3 ∧
    ProvesKnowledge suite server tlv key ∧
    (start.run suite before).answer suite conn body = (PairSetup.answerM4 verified).encode ∧
    LastRequest suite start conn before (Starts suite setupCode start conn server)

theorem LastRequest.now {property : List SetupAction → Bytes → Prop} {body : Bytes}
    (h : property history body) :
    LastRequest suite start conn (history ++ [.request conn body]) property :=
  ⟨history, body, [], rfl, h, .nil⟩

theorem LastRequest.elsewhere {property : List SetupAction → Bytes → Prop} {action : SetupAction}
    (h : LastRequest suite start conn history property) (hconn : action.conn? ≠ some conn) :
    LastRequest suite start conn (history ++ [action]) property := by
  obtain ⟨before, body, after, rfl, hproperty, hquiet⟩ := h
  exact ⟨before, body, after ++ [action], by simp, hproperty, hquiet.elsewhere hconn⟩

theorem LastRequest.busy {property : List SetupAction → Bytes → Prop} {body : Bytes}
    (h : LastRequest suite start conn history property)
    (hanswer : (start.run suite history).answer suite conn body = busyAnswer) :
    LastRequest suite start conn (history ++ [.request conn body]) property := by
  obtain ⟨before, last, after, rfl, hproperty, hquiet⟩ := h
  refine ⟨before, last, after ++ [.request conn body], by simp, hproperty, hquiet.busy ?_⟩
  rw [← run_append, List.append_assoc]
  exact hanswer

theorem provesKnowledge_of_checks {server : Srp.Server} {message : Tlv} {verified : Srp.Verified}
    (h : PairSetup.Checks suite server message (.ok verified)) :
    ProvesKnowledge suite server message verified.key := by
  obtain ⟨publicKey, proof, hkey, hproof, hverify⟩ := h
  unfold Srp.Server.verify at hverify
  simp only at hverify
  split at hverify
  · cases hverify
  · split at hverify
    · cases hverify
    · split at hverify
      · rename_i hexpected
        cases hverify
        exact ⟨publicKey, hkey, by rw [hproof, hexpected], rfl⟩
      · cases hverify

/-! ## Every stage is accounted for -/

/-- The requests that brought the machine to its stage. -/
def Accounted (suite : CipherSuite) (setupCode : SetupCode) (start : SetupSystem)
    (conn : ConnectionId) (history : List SetupAction) : SetupStage → Prop
  | .awaitingM3 server =>
    LastRequest suite start conn history (Starts suite setupCode start conn server)
  | .awaitingM5 key => LastRequest suite start conn history (Proves suite setupCode start conn key)
  | .awaitingM1 | .complete => True

theorem Accounted.elsewhere {stage : SetupStage} {action : SetupAction}
    (h : Accounted suite setupCode start conn history stage) (hconn : action.conn? ≠ some conn) :
    Accounted suite setupCode start conn (history ++ [action]) stage := by
  cases stage with
  | awaitingM1 => trivial
  | complete => trivial
  | awaitingM3 server => exact LastRequest.elsewhere h hconn
  | awaitingM5 key => exact LastRequest.elsewhere h hconn

theorem Accounted.busy {stage : SetupStage} {body : Bytes}
    (h : Accounted suite setupCode start conn history stage)
    (hanswer : (start.run suite history).answer suite conn body = busyAnswer) :
    Accounted suite setupCode start conn (history ++ [.request conn body]) stage := by
  cases stage with
  | awaitingM1 => trivial
  | complete => trivial
  | awaitingM3 server => exact LastRequest.busy h hanswer
  | awaitingM5 key => exact LastRequest.busy h hanswer

/-- A request of the machine is accounted for. -/
theorem accounted_request (hexclusive : Exclusive setupCode (start.run suite history))
    (h : Accounted suite setupCode start conn history
      ((start.run suite history).machines conn).stage) (body : Bytes) :
    Accounted suite setupCode start conn (history ++ [.request conn body])
      ((start.run suite history).call suite conn body).1.2.stage := by
  have hmove := call_move suite (start.run suite history) conn body
  have hcode := hexclusive.setupCode_eq conn
  rcases hcall : (start.run suite history).call suite conn body with ⟨⟨reply, machine⟩, shared⟩
  have hreply : (start.run suite history).answer suite conn body = reply := by
    rw [answer, hcall]
  rw [hcall] at hmove
  cases hmove with
  | @started tlv hdecode hstate hstart =>
    refine LastRequest.now ⟨tlv, hdecode, hstate, ?_, hreply⟩
    rw [hcode]
  | busy hdecode hstate hbusy => exact h.busy hreply
  | @proved tlv server verified hdecode hstate hstage hcheck =>
    rw [hstage] at h
    exact LastRequest.now ⟨tlv, server, verified, hdecode, hstate, provesKnowledge_of_checks hcheck,
      hreply, h⟩
  | refused hdecode hstate hstage hcheck => trivial
  | paired hdecode hstate hstage hintro hadd => trivial
  | notStored hdecode hstate hstage hintro hadd => trivial
  | failed hbusy => trivial

/-- In every run, each machine's stage is accounted for. -/
theorem run_accounted (suite : CipherSuite) (setupCode : SetupCode) (store : IdentityStore)
    (random : Entropy) (history : List SetupAction) (conn : ConnectionId) :
    Accounted suite setupCode (fresh setupCode store random) conn history
      (((fresh setupCode store random).run suite history).machines conn).stage := by
  induction history using List.reverseRecOn with
  | nil => trivial
  | append_singleton history action ih =>
    have hexclusive := run_exclusive suite (fresh_exclusive setupCode store random) history
    rw [run_concat]
    by_cases hconn : action.conn? = some conn
    · cases action with
      | request other body =>
        cases hconn
        rw [step_request_machine]
        exact accounted_request hexclusive ih body
      | drop other =>
        cases hconn
        rw [step_drop_machine]
        trivial
      | manage controller body => cases hconn
      | remove id => cases hconn
    · rw [step_machines_of_ne _ hconn]
      exact ih.elsewhere hconn

/-! ## Pairing -/

/-- A request that changes the pairings or what is stored is an M5 that introduces a controller and
adds it. -/
theorem request_changes (system : SetupSystem) (conn : ConnectionId) (body : Bytes)
    (hchanged :
      (system.call suite conn body).2.store.controllers ≠ system.shared.store.controllers ∨
      (system.call suite conn body).2.store.storage.entries ≠
        system.shared.store.storage.entries) :
    ∃ tlv key controller, Tlv.decode body = .ok tlv ∧ tlv.state? = some 5 ∧
      (system.machines conn).stage = .awaitingM5 key ∧
      PairSetup.Introduces suite key tlv controller ∧
      (system.call suite conn body).2.store.controllers =
        system.shared.store.controllers.insert controller.id controller ∧
      (system.call suite conn body).2.store.storage.entries =
        system.shared.store.storage.entries.insert (IdentityStore.recordKey controller.id)
          controller.encode := by
  have hmove := call_move suite system conn body
  generalize system.call suite conn body = result at hmove hchanged
  cases hmove with
  | started hdecode hstate hstart => simp [PairSetup.started] at hchanged
  | busy hdecode hstate hbusy => simp at hchanged
  | proved hdecode hstate hstage hcheck => simp at hchanged
  | refused hdecode hstate hstage hcheck => simp at hchanged
  | @paired tlv key controller hdecode hstate hstage hintro hadd =>
    rcases system.shared.store.add_cases controller with ⟨-, hc, he⟩ | ⟨⟨error, herror⟩, -⟩
    · exact ⟨tlv, key, controller, hdecode, hstate, hstage, hintro, hc, he⟩
    · rw [hadd] at herror
      cases herror
  | @notStored tlv key controller error hdecode hstate hstage hintro hadd =>
    rcases system.shared.store.add_cases controller with ⟨hok, -⟩ | ⟨-, hc, he⟩
    · rw [hadd] at hok
      cases hok
    · simp [hc, he] at hchanged
  | failed hbusy => simp at hchanged

/-- A request adds a controller only if it is an M5 that comes after an accepted M3 and that after
an answered M1, with nothing but requests that were turned away between them; then no controller is
paired, and the one that the M5 introduces becomes an admin. -/
theorem paired_sound (suite : CipherSuite) (setupCode : SetupCode) (store : IdentityStore)
    (random : Entropy) (history : List SetupAction) (conn : ConnectionId) (body : Bytes)
    (hchanged :
      let before := (fresh setupCode store random).run suite history
      let after := before.step suite (.request conn body)
      after.shared.store.controllers ≠ before.shared.store.controllers ∨
        after.shared.store.storage.entries ≠ before.shared.store.storage.entries) :
    let before := (fresh setupCode store random).run suite history
    let after := before.step suite (.request conn body)
    ∃ tlv key controller, Tlv.decode body = .ok tlv ∧ tlv.state? = some 5 ∧
      LastRequest suite (fresh setupCode store random) conn history
        (Proves suite setupCode (fresh setupCode store random) conn key) ∧
      PairSetup.Introduces suite key tlv controller ∧
      before.shared.store.isPaired = false ∧
      after.shared.store.controllers =
        before.shared.store.controllers.insert controller.id controller ∧
      after.shared.store.storage.entries =
        before.shared.store.storage.entries.insert (IdentityStore.recordKey controller.id)
          controller.encode := by
  intro before after
  obtain ⟨tlv, key, controller, hdecode, hstate, hstage, hintro, hcontrollers, hentries⟩ :=
    request_changes before conn body hchanged
  have haccounted := run_accounted suite setupCode store random history conn
  have hexclusive := run_exclusive suite (fresh_exclusive setupCode store random) history
  rw [hstage] at haccounted
  exact ⟨tlv, key, controller, hdecode, hstate, haccounted, hintro,
    hexclusive.unpaired conn (isActive_of_awaitingM5 hstage), hcontrollers, hentries⟩

/-! ## A run -/

/-- Connection 1 gets as far as M3; meanwhile it asks to start again, and connection 2 to start. -/
def onesHistory : List SetupAction :=
  [.request 1 Tlv.pairSetupM1.encode, .request 2 Tlv.pairSetupM1.encode,
    .request 1 Tlv.pairSetupM1.encode,
    .request 1 (Tlv.ofList
      [(.state, [3]), (.publicKey, [1]), (.proof, List.replicate 64 1)]).encode]

/-- The M5 of a controller whose public key is all sevens. -/
def sevensM5 : Bytes :=
  (Tlv.ofList [(.state, [5]), (.encryptedData,
    (Tlv.ofList [(.identifier, [0x63]), (.publicKey, List.replicate 32 7),
      (.signature, List.replicate 64 7)]).encode ++ CipherSuite.emptyTag)]).encode

theorem paired_sound_sevens :
    let before := (fresh .default .unpaired (.constant 7)).run .transparent onesHistory
    let after := before.step .transparent (.request 1 sevensM5)
    (after.shared.store.controllers ≠ before.shared.store.controllers ∨
      after.shared.store.storage.entries ≠ before.shared.store.storage.entries) ∧
    ∃ tlv key controller, Tlv.decode sevensM5 = .ok tlv ∧ tlv.state? = some 5 ∧
      LastRequest .transparent (fresh .default .unpaired (.constant 7)) 1 onesHistory
        (Proves .transparent .default (fresh .default .unpaired (.constant 7)) 1 key) ∧
      PairSetup.Introduces .transparent key tlv controller ∧
      before.shared.store.isPaired = false ∧
      after.shared.store.controllers =
        before.shared.store.controllers.insert controller.id controller ∧
      after.shared.store.storage.entries =
        before.shared.store.storage.entries.insert (IdentityStore.recordKey controller.id)
          controller.encode := by
  have hbefore : ((fresh .default .unpaired (.constant 7)).run .transparent
      onesHistory).shared.store.isPaired = false := by decide +kernel
  have hafter : (((fresh .default .unpaired (.constant 7)).run .transparent onesHistory).step
      .transparent (.request 1 sevensM5)).shared.store.isPaired = true := by decide +kernel
  have hchanged : (((fresh .default .unpaired (.constant 7)).run .transparent onesHistory).step
      .transparent (.request 1 sevensM5)).shared.store.controllers ≠
        ((fresh .default .unpaired (.constant 7)).run .transparent
          onesHistory).shared.store.controllers := by
    intro h
    rw [IdentityStore.isPaired, h, ← IdentityStore.isPaired, hbefore] at hafter
    cases hafter
  exact ⟨Or.inl hchanged, paired_sound .transparent .default .unpaired (.constant 7) onesHistory 1
    sevensM5 (Or.inl hchanged)⟩

end HomeKit.SetupSystem
