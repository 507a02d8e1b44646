import HomeKit.Proofs.Pairing.SetupSound

/-!
# Exchanges on their own

While the machine of a connection is past M1, whatever happens on other connections changes neither
the machine nor anything that is shared. So an exchange takes the same course whether the others
send something meanwhile or not: the connection gets the same answers, and what is shared in the end
is the same (`SetupSystem.exchange_undisturbed`). What happens on a connection is a matter of its
machine and of what is shared alone (`SetupSystem.SameFor.step`); the machines of the others may
come out differently.
-/

namespace HomeKit

/-- The action is one of the connection. -/
def SetupAction.concerns (conn : ConnectionId) (action : SetupAction) : Bool :=
  action.conn? == some conn

theorem SetupAction.concerns_iff {conn : ConnectionId} {action : SetupAction} :
    action.concerns conn = true ↔ action.conn? = some conn :=
  beq_iff_eq

theorem SetupAction.concerns_eq_false_iff {conn : ConnectionId} {action : SetupAction} :
    action.concerns conn = false ↔ action.conn? ≠ some conn := by
  rw [← Bool.not_eq_true, concerns_iff]

namespace SetupSystem

variable {suite : CipherSuite} {setupCode : SetupCode} {system other : SetupSystem}
  {conn : ConnectionId} {action : SetupAction}

/-- The answer that the connection gets to an action, if it is a request of the connection. -/
def answerTo? (suite : CipherSuite) (conn : ConnectionId) (system : SetupSystem) :
    SetupAction → Option Bytes
  | .request sender body => if sender = conn then some (system.answer suite conn body) else none
  | .drop _ | .manage .. | .remove _ => none

/-- The answers that the connection gets in a run. -/
def answersTo (suite : CipherSuite) (conn : ConnectionId) (system : SetupSystem) :
    List SetupAction → List Bytes
  | [] => []
  | action :: rest =>
    (system.answerTo? suite conn action).toList ++
      answersTo suite conn (system.step suite action) rest

/-- Whenever something happens that is not the connection's, the connection is in an exchange, going
by its own actions alone. -/
def InExchange (suite : CipherSuite) (conn : ConnectionId) (system : SetupSystem) :
    List SetupAction → Prop
  | [] => True
  | action :: rest =>
    if action.concerns conn then InExchange suite conn (system.step suite action) rest
    else (system.machines conn).isActive = true ∧ InExchange suite conn system rest

/-- Two systems are the same for a connection: in its machine and in what is shared. -/
structure SameFor (conn : ConnectionId) (system other : SetupSystem) : Prop where
  machine_eq : system.machines conn = other.machines conn
  shared_eq : system.shared = other.shared

theorem SameFor.call (suite : CipherSuite) (h : SameFor conn system other) (body : Bytes) :
    system.call suite conn body = other.call suite conn body := by
  unfold SetupSystem.call
  rw [h.machine_eq, h.shared_eq]

/-- An action of the connection has the same outcome in systems that are the same for it. -/
theorem SameFor.step (suite : CipherSuite) (h : SameFor conn system other)
    (hconn : action.conn? = some conn) :
    SameFor conn (system.step suite action) (other.step suite action) ∧
      system.answerTo? suite conn action = other.answerTo? suite conn action := by
  cases action with
  | request sender body =>
    cases hconn
    have hcall := h.call suite body
    refine ⟨⟨?_, ?_⟩, ?_⟩
    · rw [step_request_machine, step_request_machine, hcall]
    · rw [step_request_shared, step_request_shared, hcall]
    · simp only [answerTo?, answer, hcall]
  | drop dropped =>
    cases hconn
    refine ⟨⟨?_, ?_⟩, rfl⟩
    · rw [step_drop_machine, step_drop_machine, h.machine_eq]
    · unfold SetupSystem.step
      simp only
      rw [h.shared_eq]
  | manage controller body => cases hconn
  | remove id => cases hconn

theorem answerTo?_of_ne (system : SetupSystem) (hconn : action.conn? ≠ some conn) :
    system.answerTo? suite conn action = none := by
  cases action with
  | request sender body => exact if_neg fun h => hconn (congrArg some h)
  | drop dropped => rfl
  | manage controller body => rfl
  | remove id => rfl

/-- What others do during an exchange makes no difference for the connection. -/
theorem SameFor.step_elsewhere (h : SameFor conn system other)
    (hexclusive : Exclusive setupCode system) (hactive : (other.machines conn).isActive = true)
    (hconn : action.conn? ≠ some conn) : SameFor conn (system.step suite action) other := by
  rw [← h.machine_eq] at hactive
  constructor
  · rw [step_machines_of_ne system hconn, h.machine_eq]
  · rw [step_undisturbed hexclusive hactive hconn, h.shared_eq]

/-- A run comes to the same for a connection as its own actions alone, if it is in an exchange
whenever something else happens. -/
theorem SameFor.run (h : SameFor conn system other) (hexclusive : Exclusive setupCode system)
    {actions : List SetupAction} (hexchange : other.InExchange suite conn actions) :
    let alone := actions.filter (·.concerns conn)
    SameFor conn (system.run suite actions) (other.run suite alone) ∧
      system.answersTo suite conn actions = other.answersTo suite conn alone := by
  intro alone
  induction actions generalizing system other with
  | nil => exact ⟨h, rfl⟩
  | cons action rest ih =>
    have hnext : Exclusive setupCode (system.step suite action) := step_exclusive hexclusive action
    unfold InExchange at hexchange
    cases hconcerns : action.concerns conn with
    | true =>
      rw [if_pos hconcerns] at hexchange
      obtain ⟨hstep, hanswer⟩ := h.step suite (SetupAction.concerns_iff.1 hconcerns)
      obtain ⟨hrun, hanswers⟩ := ih hstep hnext hexchange
      simp only [alone, List.filter_cons_of_pos hconcerns]
      refine ⟨hrun, ?_⟩
      rw [answersTo, answersTo, hanswer, hanswers]
    | false =>
      rw [if_neg (Bool.not_eq_true _ ▸ hconcerns)] at hexchange
      have hconn := SetupAction.concerns_eq_false_iff.1 hconcerns
      obtain ⟨hrun, hanswers⟩ :=
        ih (h.step_elsewhere hexclusive hexchange.1 hconn) hnext hexchange.2
      simp only [alone, List.filter_cons_of_neg (Bool.not_eq_true _ ▸ hconcerns)]
      refine ⟨hrun, ?_⟩
      rw [answersTo, answerTo?_of_ne system hconn, hanswers]
      rfl

theorem inExchange_of_others (suite : CipherSuite)
    (hactive : (system.machines conn).isActive = true)
    {others : List SetupAction} (h : ∀ action ∈ others, action.concerns conn = false) :
    system.InExchange suite conn others := by
  induction others with
  | nil => trivial
  | cons action rest ih =>
    unfold InExchange
    rw [if_neg (Bool.not_eq_true _ ▸ h action List.mem_cons_self)]
    exact ⟨hactive, ih fun other hother => h other (List.mem_cons_of_mem _ hother)⟩

/-- While the machine of a connection is past M1, nothing that others do changes it or anything that
is shared: the owner of the slot, the count of refused proofs, the store. So whatever they do in the
course of the exchange, the connection gets the answers that it would get alone, and leaves behind
what it would leave alone. -/
theorem exchange_undisturbed (suite : CipherSuite) (setupCode : SetupCode) (store : IdentityStore)
    (random : Entropy) (history : List SetupAction) (conn : ConnectionId)
    (hactive : (((fresh setupCode store random).run suite history).machines conn).isActive = true) :
    let system := (fresh setupCode store random).run suite history
    (∀ others, (∀ action ∈ others, action.concerns conn = false) →
      (system.run suite others).machines conn = system.machines conn ∧
        (system.run suite others).shared = system.shared) ∧
      ∀ actions, system.InExchange suite conn actions →
        let alone := actions.filter (·.concerns conn)
        (system.run suite actions).machines conn = (system.run suite alone).machines conn ∧
          (system.run suite actions).shared = (system.run suite alone).shared ∧
          system.answersTo suite conn actions = system.answersTo suite conn alone := by
  intro system
  have hexclusive := run_exclusive suite (fresh_exclusive setupCode store random) history
  have hsame : SameFor conn system system := ⟨rfl, rfl⟩
  constructor
  · intro others hothers
    have hnone : others.filter (·.concerns conn) = [] :=
      List.filter_eq_nil_iff.2 fun action hmem => by simp [hothers action hmem]
    have hrun := (hsame.run hexclusive (inExchange_of_others suite hactive hothers)).1
    rw [hnone] at hrun
    exact ⟨hrun.machine_eq, hrun.shared_eq⟩
  · intro actions hexchange alone
    obtain ⟨hrun, hanswers⟩ := hsame.run hexclusive hexchange
    exact ⟨hrun.machine_eq, hrun.shared_eq, hanswers⟩

/-- An exchange that connection 1 has begun, and that two others try to break into. -/
theorem exchange_undisturbed_begun :
    let history : List SetupAction := [.request 1 Tlv.pairSetupM1.encode]
    let system := (fresh .default .unpaired (.constant 7)).run .transparent history
    let others : List SetupAction := [.request 2 Tlv.pairSetupM1.encode, .drop 3, .request 3 []]
    (system.machines 1).isActive = true ∧
      (system.run .transparent others).machines 1 = system.machines 1 ∧
      (system.run .transparent others).shared = system.shared := by
  have hactive : (((fresh .default .unpaired (.constant 7)).run .transparent
      [.request 1 Tlv.pairSetupM1.encode]).machines 1).isActive = true := by decide +kernel
  obtain ⟨hothers, -⟩ := exchange_undisturbed .transparent .default .unpaired (.constant 7)
    [.request 1 Tlv.pairSetupM1.encode] 1 hactive
  exact ⟨hactive, hothers _ (by decide)⟩

end SetupSystem

end HomeKit
