import HomeKit.Proofs.Pairing.Lockout
import HomeKit.Proofs.Pairing.SetupSteps

/-!
# Calls of pair-setup at the same time

The calls of different connections run at the same time: each of their steps on what is shared is
atomic, and between any two steps of one call there can be steps of others (`ConcurrentSetup`). A
call that is left alone comes to what it comes to in one go (`ConcurrentSetup.run_to_end`).

Of the slot nothing is lost in between: whoever is past M1 holds it, so there is one exchange at a
time (`ConcurrentSetup.Orderly`, `ConcurrentSetup.run_orderly`). What a turn comes to for what is
shared is one of five effects (`ConcurrentSetup.Move.effect`).
-/

namespace HomeKit

/-- The machines of all connections, what is left of their calls, and what they share. -/
structure ConcurrentSetup where
  shared : SetupShared
  machines : ConnectionId → PairSetup
  calls : ConnectionId → Option (SetupProgram (Bytes × PairSetup)) := fun _ => none

/-- What happens next. -/
inductive SetupTurn where
  /-- The connection calls its machine. -/
  | request (conn : ConnectionId) (body : Bytes)
  /-- The call of the connection takes its next step, or ends. -/
  | advance (conn : ConnectionId)
  /-- The machine of the connection is dropped. -/
  | drop (conn : ConnectionId)

def SetupTurn.conn : SetupTurn → ConnectionId
  | request conn _ | advance conn | drop conn => conn

namespace ConcurrentSetup

/-- All machines wait for their first request. -/
def fresh (setupCode : SetupCode) (store : IdentityStore) (random : Entropy) : ConcurrentSetup where
  shared := { store, random }
  machines conn := { conn, setupCode }

variable (suite : CipherSuite)

/-- One thing happens. A connection has one call at a time, and its machine is not dropped while a
call is under way. -/
def turn (system : ConcurrentSetup) : SetupTurn → ConcurrentSetup
  | .request conn body =>
    match system.calls conn with
    | some _ => system
    | none =>
      let call := (system.machines conn).handle suite system.shared.store.identity body
      { system with calls := Function.update system.calls conn (some call) }
  | .advance conn =>
    match system.calls conn with
    | none => system
    | some (.done (_, machine)) =>
      { system with
        machines := Function.update system.machines conn machine
        calls := Function.update system.calls conn none }
    | some (.step step next) =>
      let (answer, shared) := step.take system.shared
      { system with
        shared
        calls := Function.update system.calls conn (some (next answer)) }
  | .drop conn =>
    match system.calls conn with
    | some _ => system
    | none =>
      { system with
        shared := { system.shared with attempts := system.shared.attempts.release conn }
        machines := Function.update system.machines conn
          { system.machines conn with stage := .awaitingM1 } }

def run (system : ConcurrentSetup) (turns : List SetupTurn) : ConcurrentSetup :=
  turns.foldl (turn suite) system

theorem run_append (system : ConcurrentSetup) (first second : List SetupTurn) :
    system.run suite (first ++ second) = (system.run suite first).run suite second :=
  List.foldl_append

theorem run_concat (system : ConcurrentSetup) (turns : List SetupTurn) (last : SetupTurn) :
    system.run suite (turns ++ [last]) = (system.run suite turns).turn suite last := by
  rw [run_append]
  rfl

variable {suite} {system : ConcurrentSetup} {conn other : ConnectionId} {next : SetupTurn}

/-! ## A call on its own -/

/-- A call that is left alone comes to what its program comes to. -/
theorem run_to_end {call : SetupProgram (Bytes × PairSetup)}
    (hcall : system.calls conn = some call) :
    ∃ count, system.run suite (List.replicate count (.advance conn)) =
      { shared := (call.run system.shared).2
        machines := Function.update system.machines conn (call.run system.shared).1.2
        calls := Function.update system.calls conn none } := by
  induction call generalizing system with
  | done result =>
    refine ⟨1, ?_⟩
    show system.turn suite (.advance conn) = _
    rw [turn, hcall]
    rfl
  | step step rest ih =>
    have hturn : system.turn suite (.advance conn) =
        { system with
          shared := (step.take system.shared).2
          calls := Function.update system.calls conn
            (some (rest (step.take system.shared).1)) } := by
      rw [turn, hcall]
    have hrest : (system.turn suite (.advance conn)).calls conn =
        some (rest (step.take system.shared).1) := by
      rw [hturn]
      exact Function.update_self ..
    obtain ⟨count, hcount⟩ := ih (step.take system.shared).1 hrest
    refine ⟨count + 1, ?_⟩
    rw [List.replicate_succ]
    show (system.turn suite (.advance conn)).run suite _ = _
    rw [hcount, hturn]
    simp only [Function.update_idem]
    rfl

/-! ## What can be seen of a call -/

/-- The next step of the connection's call. -/
def next? (system : ConcurrentSetup) (conn : ConnectionId) : Option SetupStep :=
  (system.calls conn).bind SetupProgram.next?

/-- The call takes the slot. -/
def Claims (system : ConcurrentSetup) (conn : ConnectionId) : Prop :=
  system.next? conn = some (.claim conn) ∧ (system.shared.attempts.claim conn).1 = true

/-! ## What one turn does -/

/-- The call of the connection is in a phase. -/
def InPhase (suite : CipherSuite) (system : ConcurrentSetup) (conn : ConnectionId)
    (identity : AccessoryIdentity) (phase : CallPhase) : Prop :=
  system.calls conn = some (phase.program suite identity (system.machines conn))

theorem InPhase.next? {identity : AccessoryIdentity} {phase : CallPhase}
    (h : InPhase suite system conn identity phase) :
    system.next? conn = phase.step? (system.machines conn) := by
  rw [ConcurrentSetup.next?, h]
  exact CallPhase.next?_program ..

/-- What is shared and the call of the connection are replaced. -/
def withCall (system : ConcurrentSetup) (conn : ConnectionId) (shared : SetupShared)
    (call : SetupProgram (Bytes × PairSetup)) : ConcurrentSetup :=
  { system with shared, calls := Function.update system.calls conn (some call) }

/-- The call of the connection is over, and its machine takes a stage. -/
def withStage (system : ConcurrentSetup) (conn : ConnectionId) (stage : SetupStage) :
    ConcurrentSetup :=
  { system with
    machines := Function.update system.machines conn { system.machines conn with stage }
    calls := Function.update system.calls conn none }

/-- What can come of a turn. -/
inductive Move (suite : CipherSuite) (system : ConcurrentSetup) : SetupTurn → ConcurrentSetup → Prop
  | void {next : SetupTurn}
      (hvoid : ∀ conn body, next = .request conn body → (system.calls conn).isSome = true) :
    Move suite system next system
  | begun {conn : ConnectionId} {body : Bytes} (identity : AccessoryIdentity)
      (hidle : system.calls conn = none) :
    Move suite system (.request conn body)
      (system.withCall conn system.shared
        ((CallPhase.ofRequest suite (system.machines conn) body).program suite identity
          (system.machines conn)))
  | dropped {conn : ConnectionId} (hidle : system.calls conn = none) :
    Move suite system (.drop conn)
      { system with
        shared := { system.shared with attempts := system.shared.attempts.release conn }
        machines := Function.update system.machines conn
          { system.machines conn with stage := .awaitingM1 } }
  | ended {conn : ConnectionId} {identity : AccessoryIdentity} {answer : Bytes} {stage : SetupStage}
      (hphase : InPhase suite system conn identity (.answering answer stage)) :
    Move suite system (.advance conn) (system.withStage conn stage)
  | stepped {conn : ConnectionId} {identity : AccessoryIdentity} {phase after : CallPhase}
      {shared : SetupShared} (hphase : InPhase suite system conn identity phase)
      (hstep : CallPhase.Step suite identity (system.machines conn) system.shared phase after
        shared) :
    Move suite system (.advance conn)
      (system.withCall conn shared (after.program suite identity (system.machines conn)))

/-- The call of a connection in a phase ends or steps to the next. -/
theorem turn_advance {identity : AccessoryIdentity} {phase : CallPhase}
    (hphase : InPhase suite system conn identity phase) :
    (∃ answer stage, phase = .answering answer stage ∧
      system.turn suite (.advance conn) = system.withStage conn stage) ∨
    ∃ after shared,
      CallPhase.Step suite identity (system.machines conn) system.shared phase after shared ∧
      system.turn suite (.advance conn) =
        system.withCall conn shared (after.program suite identity (system.machines conn)) := by
  rcases CallPhase.program_step suite identity (system.machines conn) phase system.shared with
    ⟨answer, stage, rfl⟩ | ⟨step, rest, after, -, hprogram, hafter, hstep⟩
  · refine .inl ⟨answer, stage, rfl, ?_⟩
    rw [InPhase, CallPhase.program] at hphase
    rw [turn, hphase]
    rfl
  · refine .inr ⟨after, _, hstep, ?_⟩
    rw [InPhase, hprogram] at hphase
    rw [turn, hphase, ← hafter]
    rfl

/-- Each call that is under way is in some phase. -/
def InPhases (suite : CipherSuite) (system : ConcurrentSetup) : Prop :=
  ∀ conn, (system.calls conn).isSome = true →
    ∃ identity phase, InPhase suite system conn identity phase

theorem turn_move (h : InPhases suite system) (next : SetupTurn) :
    Move suite system next (system.turn suite next) := by
  cases next with
  | request conn body =>
    cases hcall : system.calls conn with
    | some call =>
      rw [turn, hcall]
      refine .void fun other message hnext => ?_
      cases hnext
      rw [hcall]
      rfl
    | none =>
      rw [turn, hcall]
      simp only
      rw [PairSetup.handle_eq_program]
      exact .begun _ hcall
  | advance conn =>
    cases hcall : system.calls conn with
    | none =>
      rw [turn, hcall]
      exact .void nofun
    | some call =>
      obtain ⟨identity, phase, hphase⟩ := h conn (by rw [hcall]; rfl)
      rcases turn_advance hphase with ⟨answer, stage, rfl, hturn⟩ | ⟨after, shared, hstep, hturn⟩
      · rw [hturn]
        exact .ended hphase
      · rw [hturn]
        exact .stepped hphase hstep
  | drop conn =>
    cases hcall : system.calls conn with
    | some call =>
      rw [turn, hcall]
      exact .void nofun
    | none =>
      rw [turn, hcall]
      exact .dropped hcall

/-- A turn concerns the machine and the call of its connection only. -/
theorem Move.elsewhere {after : ConcurrentSetup} (h : Move suite system next after)
    (hne : conn ≠ next.conn) :
    after.machines conn = system.machines conn ∧ after.calls conn = system.calls conn := by
  cases h with
  | void hvoid => exact ⟨rfl, rfl⟩
  | begun identity hidle => exact ⟨rfl, Function.update_of_ne hne ..⟩
  | dropped hidle => exact ⟨Function.update_of_ne hne .., rfl⟩
  | ended hphase => exact ⟨Function.update_of_ne hne .., Function.update_of_ne hne ..⟩
  | stepped hphase hstep => exact ⟨rfl, Function.update_of_ne hne ..⟩

/-! ## Who holds the slot -/

/-- The exchange of the connection's machine is under way, as far as its call has come. -/
def InExchange (system : ConcurrentSetup) (conn : ConnectionId) : Prop :=
  match system.calls conn with
  | none => (system.machines conn).isActive = true
  | some (.done (_, machine)) => machine.isActive = true
  | some (.step step _) =>
    match step with
    | .isPaired | .failed | .claim _ => (system.machines conn).isActive = true
    | .draw _ | .recordFailure | .add _ => True
    | .release _ => False

theorem InPhase.inExchange_iff {identity : AccessoryIdentity} {phase : CallPhase}
    (h : InPhase suite system conn identity phase) :
    system.InExchange conn ↔ phase.HoldsSlot (system.machines conn) := by
  rw [InExchange, h]
  cases phase <;> rw [CallPhase.program] <;> rfl

theorem inExchange_of_idle (hidle : system.calls conn = none) :
    system.InExchange conn ↔ (system.machines conn).isActive = true := by
  rw [InExchange, hidle]

theorem inExchange_congr {after : ConcurrentSetup}
    (h : after.machines conn = system.machines conn ∧ after.calls conn = system.calls conn) :
    after.InExchange conn ↔ system.InExchange conn := by
  rw [InExchange, InExchange, h.1, h.2]

/-- Each machine knows its connection, each call is in some phase, and an exchange holds the
slot. -/
structure Orderly (suite : CipherSuite) (system : ConcurrentSetup) : Prop where
  conn_eq : ∀ conn, (system.machines conn).conn = conn
  inPhases : InPhases suite system
  owner_eq : ∀ conn, system.InExchange conn → system.shared.attempts.owner = some conn

theorem fresh_orderly (suite : CipherSuite) (setupCode : SetupCode) (store : IdentityStore)
    (random : Entropy) : Orderly suite (fresh setupCode store random) :=
  ⟨fun _ => rfl, nofun, nofun⟩

theorem inPhase_withCall (shared : SetupShared) (identity : AccessoryIdentity)
    (phase : CallPhase) :
    InPhase suite
      (system.withCall conn shared (phase.program suite identity (system.machines conn))) conn
      identity phase :=
  Function.update_self ..

theorem inExchange_withStage (system : ConcurrentSetup) (conn : ConnectionId) (stage : SetupStage) :
    (system.withStage conn stage).InExchange conn ↔
      PairSetup.isActive { system.machines conn with stage } = true := by
  rw [inExchange_of_idle (Function.update_self ..)]
  unfold withStage
  simp only
  rw [Function.update_self]

/-- What a turn comes to for the slot, the count of refused proofs and the pairings. -/
inductive Effect (system : ConcurrentSetup) (next : SetupTurn) (after : ConcurrentSetup) : Prop
  | claims {conn : ConnectionId} (hnext : next = .advance conn) (hclaims : system.Claims conn)
      (hshared : after.shared = { system.shared with
        attempts := { system.shared.attempts with owner := some conn } })
  | records {conn : ConnectionId} (hnext : next = .advance conn)
      (hstep : system.next? conn = some .recordFailure) (hexchange : system.InExchange conn)
      (hends : ¬ after.InExchange conn)
      (hshared : after.shared = { system.shared with
        attempts := system.shared.attempts.recordFailure })
  | stores {conn : ConnectionId} {controller : PairedController} (hnext : next = .advance conn)
      (hstep : system.next? conn = some (.add controller))
      (hadd : (system.shared.store.add controller).1 = .ok ())
      (hexchange : system.InExchange conn) (hends : ¬ after.InExchange conn)
      (hshared : after.shared = { system.shared with
        store := (system.shared.store.add controller).2 })
  | releases (hends : ¬ after.InExchange next.conn)
      (hshared : after.shared = { system.shared with
        attempts := system.shared.attempts.release next.conn })
  | keeps (hexchange : after.InExchange next.conn → system.InExchange next.conn)
      (hpaired : after.shared.store.isPaired = system.shared.store.isPaired)
      (hattempts : after.shared.attempts = system.shared.attempts)

theorem Move.effect {after : ConcurrentSetup} (hmove : Move suite system next after)
    (hconn : ∀ conn, (system.machines conn).conn = conn) : Effect system next after := by
  cases hmove with
  | void hvoid => exact .keeps id rfl rfl
  | @begun conn body identity hidle =>
    refine .keeps (fun hexchange => (inExchange_of_idle hidle).2 ?_) rfl rfl
    exact (CallPhase.ofRequest_begins suite (system.machines conn) body).isActive
      ((inPhase_withCall ..).inExchange_iff.1 hexchange)
  | @dropped conn hidle =>
    refine .releases (fun hexchange => ?_) rfl
    change InExchange _ conn at hexchange
    rw [inExchange_of_idle (by exact hidle)] at hexchange
    simp only [Function.update_self] at hexchange
    cases hexchange
  | @ended conn identity answer stage hphase =>
    exact .keeps (fun hexchange =>
      hphase.inExchange_iff.2 ((inExchange_withStage ..).1 hexchange)) rfl rfl
  | @stepped conn identity phase after shared hphase hstep =>
    have hslot := (@inPhase_withCall suite system conn shared identity after).inExchange_iff
    cases hstep.effect with
    | claims hfree =>
      have hclaiming := hphase.next?
      rw [CallPhase.step?, hconn] at hclaiming
      rw [hconn] at hfree
      refine .claims rfl ⟨hclaiming, hfree⟩ ?_
      show { system.shared with
        attempts := { system.shared.attempts with owner := some (system.machines conn).conn } } = _
      rw [hconn]
    | records hends =>
      exact .records rfl hphase.next? (hphase.inExchange_iff.2 trivial) (hslot.not.2 hends) rfl
    | stores hends hadd =>
      exact .stores rfl hphase.next? hadd (hphase.inExchange_iff.2 trivial) (hslot.not.2 hends) rfl
    | releases hends hne =>
      refine .releases (hslot.not.2 hends) ?_
      rw [hconn]
      rfl
    | keeps hkeeps hne hpaired hattempts =>
      exact .keeps (fun hexchange => hphase.inExchange_iff.2 (hkeeps (hslot.1 hexchange))) hpaired
        hattempts

/-- A claim succeeds only if no other connection has the slot. -/
theorem eq_of_claim {attempts : SetupAttempts} (hfree : (attempts.claim conn).1 = true)
    (howner : attempts.owner = some other) : other = conn := by
  unfold SetupAttempts.claim at hfree
  split at hfree
  · cases hfree
  · rename_i hnone
    rw [howner] at hnone
    simpa using hnone

/-- An exchange that is under way after a turn of another connection keeps the slot; one that is
under way after its own turn was so before, or has just taken the slot. -/
theorem Move.owner_eq {after : ConcurrentSetup} (hmove : Move suite system next after)
    (h : Orderly suite system) (hexchange : after.InExchange conn) :
    after.shared.attempts.owner = some conn := by
  by_cases hconn : conn = next.conn
  · subst hconn
    cases hmove.effect h.conn_eq with
    | claims hnext hclaims hshared =>
      rw [hshared, hnext]
      rfl
    | records hnext hstep hbefore hends hshared =>
      rw [hnext] at hexchange
      exact absurd hexchange hends
    | stores hnext hstep hadd hbefore hends hshared =>
      rw [hnext] at hexchange
      exact absurd hexchange hends
    | releases hends hshared => exact absurd hexchange hends
    | keeps hkeeps hpaired hattempts =>
      rw [hattempts]
      exact h.owner_eq _ (hkeeps hexchange)
  · have howner := h.owner_eq conn ((inExchange_congr (hmove.elsewhere hconn)).1 hexchange)
    cases hmove.effect h.conn_eq with
    | claims hnext hclaims hshared =>
      rw [hnext] at hconn
      exact absurd (eq_of_claim hclaims.2 howner) hconn
    | records hnext hstep hbefore hends hshared =>
      rw [hshared]
      exact howner
    | stores hnext hstep hadd hbefore hends hshared =>
      rw [hshared]
      exact howner
    | releases hends hshared =>
      rw [hshared]
      simp only
      rw [SetupSystem.release_of_ne howner (Ne.symm hconn)]
      exact howner
    | keeps hkeeps hpaired hattempts =>
      rw [hattempts]
      exact howner

theorem Move.conn_eq {after : ConcurrentSetup} (hmove : Move suite system next after)
    (h : ∀ conn, (system.machines conn).conn = conn) (conn : ConnectionId) :
    (after.machines conn).conn = conn := by
  by_cases hconn : conn = next.conn
  · subst hconn
    cases hmove with
    | void hvoid => exact h _
    | begun identity hidle => exact h _
    | dropped hidle =>
      simp only [SetupTurn.conn, Function.update_self]
      exact h _
    | ended hphase =>
      simp only [SetupTurn.conn, withStage, Function.update_self]
      exact h _
    | stepped hphase hstep => exact h _
  · rw [(hmove.elsewhere hconn).1]
    exact h conn

theorem Move.inPhases {after : ConcurrentSetup} (hmove : Move suite system next after)
    (h : InPhases suite system) : InPhases suite after := by
  intro conn hcall
  by_cases hconn : conn = next.conn
  · subst hconn
    cases hmove with
    | void hvoid => exact h _ hcall
    | begun identity hidle => exact ⟨_, _, inPhase_withCall ..⟩
    | dropped hidle =>
      simp only [SetupTurn.conn, hidle] at hcall
      cases hcall
    | ended hphase =>
      simp only [SetupTurn.conn, withStage, Function.update_self] at hcall
      cases hcall
    | stepped hphase hstep => exact ⟨_, _, inPhase_withCall ..⟩
  · obtain ⟨hmachine, hcalls⟩ := hmove.elsewhere hconn
    rw [hcalls] at hcall
    obtain ⟨identity, phase, hphase⟩ := h conn hcall
    refine ⟨identity, phase, ?_⟩
    rw [InPhase, hmachine, hcalls]
    exact hphase

theorem turn_orderly (h : Orderly suite system) (next : SetupTurn) :
    Orderly suite (system.turn suite next) := by
  have hmove := turn_move h.inPhases next
  exact ⟨hmove.conn_eq h.conn_eq, hmove.inPhases h.inPhases, fun _ => hmove.owner_eq h⟩

theorem run_orderly (suite : CipherSuite) (h : Orderly suite system) (turns : List SetupTurn) :
    Orderly suite (system.run suite turns) := by
  induction turns generalizing system with
  | nil => exact h
  | cons next rest ih => exact ih (turn_orderly h next)

end ConcurrentSetup

end HomeKit
