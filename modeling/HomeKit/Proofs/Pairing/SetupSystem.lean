import HomeKit.Proofs.Pairing.SetupMoves
import Mathlib.Logic.Function.Basic

/-!
# The pair-setup machines of an accessory

Every connection has a machine, and all machines share the store of pairings and the bookkeeping of
attempts (`SetupSystem`). Requests of any connection are handled in any order; in between, machines
are dropped, admins manage the pairings and the accessory removes controllers (`SetupAction`).

The invariant is `SetupSystem.Exclusive`: a machine that is past M1 holds the slot, and no
controller is paired meanwhile. The check that no controller is paired is made at M1 only; it still
holds at M5 because nothing but the machine itself disturbs an exchange
(`SetupSystem.step_undisturbed`).
-/

namespace HomeKit

/-- The machines of all connections and what they share. -/
structure SetupSystem where
  shared : SetupShared
  machines : ConnectionId → PairSetup

/-- What happens to the machines and to what they share. -/
inductive SetupAction where
  | request (conn : ConnectionId) (body : Bytes)
  | drop (conn : ConnectionId)
  /-- A request to manage pairings, by the controller that is verified on some connection. -/
  | manage (controller : Option String) (body : Bytes)
  | remove (id : String)

/-- The connection whose machine is concerned. -/
def SetupAction.conn? : SetupAction → Option ConnectionId
  | request conn _ | drop conn => some conn
  | manage .. | remove _ => none

namespace SetupSystem

/-- All machines wait for their first request. -/
def fresh (setupCode : SetupCode) (store : IdentityStore) (random : Entropy) : SetupSystem where
  shared := { store, random }
  machines conn := { conn, setupCode }

variable (suite : CipherSuite)

/-- What a request gives: the answer, the machine and what is shared. -/
def call (system : SetupSystem) (conn : ConnectionId) (body : Bytes) :
    (Bytes × PairSetup) × SetupShared :=
  ((system.machines conn).handle suite system.shared.store.identity body).run system.shared

/-- The answer to a request. -/
def answer (system : SetupSystem) (conn : ConnectionId) (body : Bytes) : Bytes :=
  (system.call suite conn body).1.1

theorem call_move (suite : CipherSuite) (system : SetupSystem) (conn : ConnectionId)
    (body : Bytes) :
    PairSetup.Move suite system.shared.store.identity (system.machines conn) system.shared body
      (system.call suite conn body) :=
  PairSetup.handle_move ..

/-- Puts another store in place. -/
def withStore (system : SetupSystem) (store : IdentityStore) : SetupSystem :=
  { system with shared := { system.shared with store } }

/-- Takes an action. -/
def step (system : SetupSystem) : SetupAction → SetupSystem
  | .request conn body =>
    let ((_, machine), shared) := system.call suite conn body
    { shared, machines := Function.update system.machines conn machine }
  | .drop conn =>
    { shared :=
        { system.shared with attempts := system.shared.attempts.release conn }
      machines := Function.update system.machines conn
        { system.machines conn with stage := .awaitingM1 } }
  | .manage controller body =>
    system.withStore (system.shared.store.handlePairings controller body).2
  | .remove id => system.withStore (system.shared.store.remove id).2

/-- Takes actions one after another. -/
def run (system : SetupSystem) (actions : List SetupAction) : SetupSystem :=
  actions.foldl (step suite) system

theorem run_append (system : SetupSystem) (first second : List SetupAction) :
    system.run suite (first ++ second) = (system.run suite first).run suite second :=
  List.foldl_append

theorem run_concat (system : SetupSystem) (actions : List SetupAction) (action : SetupAction) :
    system.run suite (actions ++ [action]) = (system.run suite actions).step suite action := by
  rw [run_append]
  rfl

variable {suite} {setupCode : SetupCode} {system : SetupSystem} {conn : ConnectionId}
  {action : SetupAction}

theorem step_request_machine (system : SetupSystem) (conn : ConnectionId) (body : Bytes) :
    (system.step suite (.request conn body)).machines conn = (system.call suite conn body).1.2 :=
  Function.update_self ..

theorem step_request_shared (system : SetupSystem) (conn : ConnectionId) (body : Bytes) :
    (system.step suite (.request conn body)).shared = (system.call suite conn body).2 :=
  rfl

theorem step_drop_machine (system : SetupSystem) (conn : ConnectionId) :
    (system.step suite (.drop conn)).machines conn =
      { system.machines conn with stage := .awaitingM1 } :=
  Function.update_self ..

/-- An action changes no machine but its own. -/
theorem step_machines_of_ne (system : SetupSystem) (hconn : action.conn? ≠ some conn) :
    (system.step suite action).machines conn = system.machines conn := by
  cases action with
  | request other body =>
    exact Function.update_of_ne (fun h => hconn (congrArg some h.symm)) ..
  | drop other => exact Function.update_of_ne (fun h => hconn (congrArg some h.symm)) ..
  | manage controller body => rfl
  | remove id => rfl

/-! ## One exchange at a time -/

/-- Each machine knows its connection and the setup code; one that is past M1 holds the slot, and no
controller is paired meanwhile. -/
structure Exclusive (setupCode : SetupCode) (system : SetupSystem) : Prop where
  conn_eq : ∀ conn, (system.machines conn).conn = conn
  setupCode_eq : ∀ conn, (system.machines conn).setupCode = setupCode
  owner_eq : ∀ conn, (system.machines conn).isActive = true →
    system.shared.attempts.owner = some conn
  unpaired : ∀ conn, (system.machines conn).isActive = true →
    system.shared.store.isPaired = false

theorem release_of_ne {attempts : SetupAttempts} {other : ConnectionId}
    (howner : attempts.owner = some conn) (hne : other ≠ conn) :
    attempts.release other = attempts := by
  rw [SetupAttempts.release, if_neg]
  rw [howner]
  exact fun h => hne (Option.some.inj h).symm

theorem isActive_of_awaitingM3 {machine : PairSetup} {server : Srp.Server}
    (hstage : machine.stage = .awaitingM3 server) : machine.isActive = true := by
  rw [PairSetup.isActive, hstage]

theorem isActive_of_awaitingM5 {machine : PairSetup} {key : Octets 64}
    (hstage : machine.stage = .awaitingM5 key) : machine.isActive = true := by
  rw [PairSetup.isActive, hstage]

/-- While a machine is past M1, requests of other connections change nothing that is shared. -/
theorem call_undisturbed (h : Exclusive setupCode system)
    (hactive : (system.machines conn).isActive = true) {other : ConnectionId} (hne : other ≠ conn)
    (body : Bytes) : (system.call suite other body).2 = system.shared := by
  have howner := h.owner_eq conn hactive
  have hidle : ¬ (system.machines other).isActive = true := by
    intro hother
    have hsame := h.owner_eq other hother
    rw [howner] at hsame
    exact hne (Option.some.inj hsame).symm
  have hmove := call_move suite system other body
  generalize system.call suite other body = result at hmove
  cases hmove with
  | started hdecode hstate hstart =>
    have hfree := hstart.free
    rw [howner, h.conn_eq] at hfree
    simp [hne.symm] at hfree
  | busy hdecode hstate hbusy => rfl
  | proved hdecode hstate hstage hcheck => exact absurd (isActive_of_awaitingM3 hstage) hidle
  | refused hdecode hstate hstage hcheck => exact absurd (isActive_of_awaitingM3 hstage) hidle
  | paired hdecode hstate hstage hintro hadd => exact absurd (isActive_of_awaitingM5 hstage) hidle
  | notStored hdecode hstate hstage hintro hadd =>
    exact absurd (isActive_of_awaitingM5 hstage) hidle
  | failed hbusy =>
    rw [h.conn_eq, release_of_ne howner hne]

/-- While a machine is past M1, nothing but its own requests and its end changes what is shared. -/
theorem step_undisturbed (h : Exclusive setupCode system)
    (hactive : (system.machines conn).isActive = true) (hconn : action.conn? ≠ some conn) :
    (system.step suite action).shared = system.shared := by
  have hunpaired := h.unpaired conn hactive
  cases action with
  | request other body =>
    exact call_undisturbed h hactive (fun he => hconn (congrArg some he)) body
  | drop other =>
    unfold step
    simp only
    rw [release_of_ne (h.owner_eq conn hactive) (fun he => hconn (congrArg some he))]
  | manage controller body =>
    unfold step withStore
    simp only
    rw [IdentityStore.handlePairings_of_not_isPaired hunpaired]
  | remove id =>
    unfold step withStore
    simp only
    rw [IdentityStore.remove_of_not_isPaired hunpaired]

/-- What a machine's own request preserves. -/
theorem call_exclusive (h : Exclusive setupCode system) (conn : ConnectionId) (body : Bytes) :
    (system.call suite conn body).1.2.conn = conn ∧
    (system.call suite conn body).1.2.setupCode = setupCode ∧
    ((system.call suite conn body).1.2.isActive = true →
      (system.call suite conn body).2.attempts.owner = some conn ∧
        (system.call suite conn body).2.store.isPaired = false) := by
  have hmove := call_move suite system conn body
  have hkeep := And.intro (h.conn_eq conn) (h.setupCode_eq conn)
  generalize system.call suite conn body = result at hmove
  cases hmove with
  | started hdecode hstate hstart =>
    exact ⟨hkeep.1, hkeep.2, fun _ => ⟨congrArg some hkeep.1, hstart.unpaired⟩⟩
  | busy hdecode hstate hbusy =>
    exact ⟨hkeep.1, hkeep.2, fun hactive => ⟨h.owner_eq conn hactive, h.unpaired conn hactive⟩⟩
  | proved hdecode hstate hstage hcheck =>
    have hactive := isActive_of_awaitingM3 hstage
    exact ⟨hkeep.1, hkeep.2, fun _ => ⟨h.owner_eq conn hactive, h.unpaired conn hactive⟩⟩
  | refused hdecode hstate hstage hcheck => exact ⟨hkeep.1, hkeep.2, nofun⟩
  | paired hdecode hstate hstage hintro hadd => exact ⟨hkeep.1, hkeep.2, nofun⟩
  | notStored hdecode hstate hstage hintro hadd => exact ⟨hkeep.1, hkeep.2, nofun⟩
  | failed hbusy => exact ⟨hkeep.1, hkeep.2, nofun⟩

/-- What is true of the machine of an action after it. -/
theorem step_own (h : Exclusive setupCode system) (hconn : action.conn? = some conn) :
    ((system.step suite action).machines conn).conn = conn ∧
    ((system.step suite action).machines conn).setupCode = setupCode ∧
    (((system.step suite action).machines conn).isActive = true →
      (system.step suite action).shared.attempts.owner = some conn ∧
        (system.step suite action).shared.store.isPaired = false) := by
  cases action with
  | request other body =>
    cases hconn
    rw [step_request_machine, step_request_shared]
    exact call_exclusive h conn body
  | drop other =>
    cases hconn
    rw [step_drop_machine]
    exact ⟨h.conn_eq conn, h.setupCode_eq conn, nofun⟩
  | manage controller body => cases hconn
  | remove id => cases hconn

theorem step_exclusive (h : Exclusive setupCode system) (action : SetupAction) :
    Exclusive setupCode (system.step suite action) := by
  have hactive : ∀ conn, ((system.step suite action).machines conn).isActive = true →
      (system.step suite action).shared.attempts.owner = some conn ∧
        (system.step suite action).shared.store.isPaired = false := by
    intro conn hactive
    by_cases hconn : action.conn? = some conn
    · exact (step_own h hconn).2.2 hactive
    · rw [step_machines_of_ne system hconn] at hactive
      rw [step_undisturbed h hactive hconn]
      exact ⟨h.owner_eq conn hactive, h.unpaired conn hactive⟩
  refine ⟨?_, ?_, fun conn hc => (hactive conn hc).1, fun conn hc => (hactive conn hc).2⟩
  · intro conn
    by_cases hconn : action.conn? = some conn
    · exact (step_own h hconn).1
    · rw [step_machines_of_ne system hconn]
      exact h.conn_eq conn
  · intro conn
    by_cases hconn : action.conn? = some conn
    · exact (step_own h hconn).2.1
    · rw [step_machines_of_ne system hconn]
      exact h.setupCode_eq conn

theorem fresh_exclusive (setupCode : SetupCode) (store : IdentityStore) (random : Entropy) :
    Exclusive setupCode (fresh setupCode store random) :=
  ⟨fun _ => rfl, fun _ => rfl, nofun, nofun⟩

theorem run_exclusive (suite : CipherSuite) (h : Exclusive setupCode system)
    (actions : List SetupAction) :
    Exclusive setupCode (system.run suite actions) := by
  induction actions generalizing system with
  | nil => exact h
  | cons action rest ih => exact ih (step_exclusive h action)

end SetupSystem

end HomeKit
