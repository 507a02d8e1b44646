import HomeKit.Proofs.Pairing.Admins
import HomeKit.Proofs.Pairing.ConcurrentSetup
import Mathlib.Data.List.Induction

/-!
# Who is admitted to pair-setup

An M1 looks whether a controller is paired, then how many proofs were refused, and only then takes
the slot; each is a step of its own, so what it has found can be untrue when it takes the slot. That
is so exactly if another call overtook it (`ConcurrentSetup.claims_admits_iff`): if one stored a
controller after the M1 looked, or counted the last refusal that is allowed after the M1 did.
-/

namespace HomeKit.ConcurrentSetup

variable {suite : CipherSuite} {system : ConcurrentSetup} {conn other : ConnectionId}
  {next : SetupTurn}

/-! ## What an M1 checks, and what can overtake it -/

/-- No controller is paired, and fewer proofs were refused than are allowed. -/
def Admits (system : ConcurrentSetup) : Prop :=
  system.shared.store.isPaired = false ∧
    system.shared.attempts.failed < SetupAttempts.maxFailed

/-- The call stores a controller. -/
def Stores (system : ConcurrentSetup) (conn : ConnectionId) : Prop :=
  ∃ controller, system.next? conn = some (.add controller) ∧
    (system.shared.store.add controller).1 = .ok ()

/-- The call counts the last refusal that is allowed. -/
def Exhausts (system : ConcurrentSetup) (conn : ConnectionId) : Prop :=
  system.next? conn = some .recordFailure ∧
    system.shared.attempts.failed + 1 = SetupAttempts.maxFailed

/-- An M1 has found the count below the limit and not taken the slot yet. -/
def HasCounted (system : ConcurrentSetup) (conn : ConnectionId) : Prop :=
  system.next? conn = some (.claim conn)

/-- An M1 has found no controller paired and not taken the slot yet. -/
def HasLooked (system : ConcurrentSetup) (conn : ConnectionId) : Prop :=
  system.next? conn = some .failed ∨ system.HasCounted conn

/-- The step of another call makes untrue what an M1 has found. -/
def Overtakes (system : ConcurrentSetup) (other conn : ConnectionId) : Prop :=
  system.Stores other ∧ system.HasLooked conn ∨ system.Exhausts other ∧ system.HasCounted conn

variable (suite)

/-- It happened in the course of the connection's call that is under way. -/
def DuringCall (start : ConcurrentSetup) (turns : List SetupTurn) (conn : ConnectionId)
    (property : List SetupTurn → SetupTurn → Prop) : Prop :=
  ∃ before next later, turns = before ++ next :: later ∧ property before next ∧
    ∀ since, since <+: later →
      ((start.run suite (before ++ next :: since)).calls conn).isSome = true

/-- The M1 of the connection was overtaken. -/
def Overtaken (start : ConcurrentSetup) (turns : List SetupTurn) (conn : ConnectionId) : Prop :=
  DuringCall suite start turns conn fun before next =>
    ∃ other, next = .advance other ∧ (start.run suite before).Overtakes other conn

/-- The call of the connection took the slot. -/
def HasClaimed (start : ConcurrentSetup) (turns : List SetupTurn) (conn : ConnectionId) : Prop :=
  DuringCall suite start turns conn fun before next =>
    next = .advance conn ∧ (start.run suite before).Claims conn

variable {suite} {start : ConcurrentSetup} {turns : List SetupTurn}
  {property : List SetupTurn → SetupTurn → Prop}

theorem DuringCall.now (hproperty : property turns next)
    (hcall : ((start.run suite (turns ++ [next])).calls conn).isSome = true) :
    DuringCall suite start (turns ++ [next]) conn property := by
  refine ⟨turns, next, [], rfl, hproperty, fun since hsince => ?_⟩
  rw [List.prefix_nil.1 hsince]
  exact hcall

theorem DuringCall.later (h : DuringCall suite start turns conn property)
    (hcall : ((start.run suite (turns ++ [next])).calls conn).isSome = true) :
    DuringCall suite start (turns ++ [next]) conn property := by
  obtain ⟨before, done, later, rfl, hproperty, hsince⟩ := h
  refine ⟨before, done, later ++ [next], by simp, hproperty, fun since hprefix => ?_⟩
  rcases List.prefix_concat_iff.1 hprefix with rfl | hprefix
  · rw [List.append_assoc] at hcall
    exact hcall
  · exact hsince since hprefix

/-! ## What an M1 has found -/

/-- What the M1 of the connection has found is not so any more. -/
def IsStale (system : ConcurrentSetup) (conn : ConnectionId) : Prop :=
  system.HasLooked conn ∧ system.shared.store.isPaired = true ∨
    system.HasCounted conn ∧ SetupAttempts.maxFailed ≤ system.shared.attempts.failed

theorem IsStale.hasLooked (h : system.IsStale conn) : system.HasLooked conn := by
  rcases h with ⟨hlooked, -⟩ | ⟨hcounted, -⟩
  · exact hlooked
  · exact .inr hcounted

theorem HasLooked.isSome (h : system.HasLooked conn) : (system.calls conn).isSome = true := by
  cases hcall : system.calls conn with
  | some call => rfl
  | none =>
    unfold HasLooked HasCounted next? at h
    rw [hcall] at h
    rcases h with h | h
    · cases h
    · cases h

/-- A controller is paired after a turn only if one was before or the turn stores it. -/
theorem Effect.isPaired {after : ConcurrentSetup} (h : Effect system next after)
    (hpaired : after.shared.store.isPaired = true) :
    system.shared.store.isPaired = true ∨ ∃ other, next = .advance other ∧ system.Stores other := by
  cases h with
  | claims hnext hclaims hshared => exact .inl (by rw [hshared] at hpaired; exact hpaired)
  | records hnext hstep hbefore hends hshared =>
    exact .inl (by rw [hshared] at hpaired; exact hpaired)
  | @stores conn controller hnext hstep hadd hbefore hends hshared =>
    exact .inr ⟨conn, hnext, controller, hstep, hadd⟩
  | releases hends hshared => exact .inl (by rw [hshared] at hpaired; exact hpaired)
  | keeps hkeeps hsame hattempts => exact .inl (hsame.symm.trans hpaired)

/-- The limit is reached after a turn only if it was before or the turn counts the last refusal. -/
theorem Effect.exhausted {after : ConcurrentSetup} (h : Effect system next after)
    (hfailed : SetupAttempts.maxFailed ≤ after.shared.attempts.failed) :
    SetupAttempts.maxFailed ≤ system.shared.attempts.failed ∨
      ∃ other, next = .advance other ∧ system.Exhausts other := by
  cases h with
  | claims hnext hclaims hshared => exact .inl (by rw [hshared] at hfailed; exact hfailed)
  | @records conn hnext hstep hbefore hends hshared =>
    by_cases hreached : SetupAttempts.maxFailed ≤ system.shared.attempts.failed
    · exact .inl hreached
    · refine .inr ⟨conn, hnext, hstep, ?_⟩
      rw [hshared] at hfailed
      have hcount : SetupAttempts.maxFailed ≤
          min (system.shared.attempts.failed + 1) SetupAttempts.failedLimit := hfailed
      omega
  | stores hnext hstep hadd hbefore hends hshared =>
    exact .inl (by rw [hshared] at hfailed; exact hfailed)
  | releases hends hshared =>
    rw [hshared] at hfailed
    exact .inl (hfailed.trans_eq (SetupSystem.release_failed ..))
  | keeps hkeeps hpaired hattempts =>
    rw [hattempts] at hfailed
    exact .inl hfailed

theorem next?_congr {after : ConcurrentSetup}
    (h : after.machines conn = system.machines conn ∧ after.calls conn = system.calls conn) :
    after.next? conn = system.next? conn := by
  rw [next?, next?, h.2]

theorem next?_withCall (suite : CipherSuite) (system : ConcurrentSetup) (conn : ConnectionId)
    (shared : SetupShared) (identity : AccessoryIdentity) (phase : CallPhase) :
    (system.withCall conn shared (phase.program suite identity (system.machines conn))).next? conn =
      phase.step? (system.machines conn) :=
  (inPhase_withCall ..).next?

/-- An M1 comes to the count after it found no controller paired, and to the slot after it found the
count below the limit. -/
theorem Move.looks {after : ConcurrentSetup} (hmove : Move suite system next after)
    (h : Orderly suite system) :
    (after.next? conn = some .failed → system.next? conn = some .failed ∨
      after.shared = system.shared ∧ system.shared.store.isPaired = false) ∧
    (after.next? conn = some (.claim conn) → system.next? conn = some (.claim conn) ∨
      system.next? conn = some .failed ∧ after.shared = system.shared ∧
        system.shared.attempts.failed < SetupAttempts.maxFailed) := by
  by_cases hconn : conn = next.conn
  · subst hconn
    cases hmove with
    | void hvoid => exact ⟨.inl, .inl⟩
    | @begun conn body identity hidle =>
      have hbegins := (CallPhase.ofRequest_begins suite (system.machines conn) body).step?_ne
      rw [h.conn_eq] at hbegins
      rw [SetupTurn.conn, next?_withCall]
      exact ⟨fun hstep => absurd hstep hbegins.1, fun hstep => absurd hstep hbegins.2⟩
    | dropped hidle => exact ⟨.inl, .inl⟩
    | @ended conn identity answer stage hphase =>
      have hnext : (system.withStage conn stage).next? conn = none := by
        rw [next?, withStage]
        simp only [Function.update_self, Option.bind_none]
      rw [SetupTurn.conn, hnext]
      simp
    | @stepped conn identity phase after shared hphase hstep =>
      have hfollows := hstep.follows
      have hbefore := hphase.next?
      rw [SetupTurn.conn, next?_withCall]
      generalize after.step? (system.machines conn) = step at hfollows
      cases hfollows with
      | nothing => simp
      | release => simp
      | draw n => simp
      | failed hshared hunpaired => exact ⟨fun _ => .inr ⟨hshared, hunpaired⟩, by simp⟩
      | claim hcounting hshared hfailed =>
        exact ⟨by simp, fun _ => .inr ⟨hbefore.trans hcounting, hshared, hfailed⟩⟩
  · rw [next?_congr (hmove.elsewhere hconn)]
    exact ⟨.inl, .inl⟩

/-- A turn that leaves what an M1 has found untrue found it so, or overtook the M1. -/
theorem Move.isStale {after : ConcurrentSetup} (hmove : Move suite system next after)
    (h : Orderly suite system) (hstale : after.IsStale conn) :
    system.IsStale conn ∨ ∃ other, next = .advance other ∧ system.Overtakes other conn := by
  have hcounted : after.next? conn = some (.claim conn) → _ := (hmove.looks h).2
  rcases hstale with ⟨hlooked, hpaired⟩ | ⟨hclaiming, hfailed⟩
  · have hbefore : system.HasLooked conn := by
      rcases hlooked with hcounting | hclaiming
      · rcases (hmove.looks h).1 hcounting with hcounting | ⟨hshared, hunpaired⟩
        · exact .inl hcounting
        · rw [hshared, hunpaired] at hpaired
          cases hpaired
      · rcases hcounted hclaiming with hclaiming | ⟨hcounting, -, -⟩
        · exact .inr hclaiming
        · exact .inl hcounting
    rcases (hmove.effect h.conn_eq).isPaired hpaired with hpaired | ⟨other, hnext, hstores⟩
    · exact .inl (.inl ⟨hbefore, hpaired⟩)
    · exact .inr ⟨other, hnext, .inl ⟨hstores, hbefore⟩⟩
  · rcases hcounted hclaiming with hclaiming | ⟨-, hshared, hbelow⟩
    · rcases (hmove.effect h.conn_eq).exhausted hfailed with hfailed | ⟨other, hnext, hexhausts⟩
      · exact .inl (.inr ⟨hclaiming, hfailed⟩)
      · exact .inr ⟨other, hnext, .inr ⟨hexhausts, hclaiming⟩⟩
    · rw [hshared] at hfailed
      exact absurd hfailed (Nat.not_le.2 hbelow)

/-- What an M1 has found is untrue only if the M1 was overtaken. -/
theorem overtaken_of_isStale (suite : CipherSuite) (setupCode : SetupCode) (store : IdentityStore)
    (random : Entropy) (turns : List SetupTurn) (conn : ConnectionId)
    (hstale : ((fresh setupCode store random).run suite turns).IsStale conn) :
    Overtaken suite (fresh setupCode store random) turns conn := by
  induction turns using List.reverseRecOn with
  | nil =>
    rcases hstale with ⟨hlooked, -⟩ | ⟨hcounted, -⟩
    · rcases hlooked with hlooked | hlooked
      · cases hlooked
      · cases hlooked
    · cases hcounted
  | append_singleton turns next ih =>
    have horderly := run_orderly suite (fresh_orderly suite setupCode store random) turns
    have hcall := hstale.hasLooked.isSome
    rw [run_concat] at hstale
    rcases (turn_move horderly.inPhases next).isStale horderly hstale with
      hbefore | ⟨other, hnext, hovertakes⟩
    · exact (ih hbefore).later hcall
    · exact .now ⟨other, hnext, hovertakes⟩ hcall

/-! ## What stays untrue -/

/-- What is not admitted any more is never admitted again. -/
theorem Effect.admits {after : ConcurrentSetup} (heffect : Effect system next after)
    (h : after.Admits) : system.Admits := by
  obtain ⟨hunpaired, hfailed⟩ := h
  cases heffect with
  | claims hnext hclaims hshared =>
    rw [hshared] at hunpaired hfailed
    exact ⟨hunpaired, hfailed⟩
  | records hnext hstep hbefore hends hshared =>
    rw [hshared] at hunpaired hfailed
    refine ⟨hunpaired, ?_⟩
    have hcount : min (system.shared.attempts.failed + 1) SetupAttempts.failedLimit <
        SetupAttempts.maxFailed := hfailed
    have hlimit : SetupAttempts.maxFailed < SetupAttempts.failedLimit := by decide
    omega
  | @stores conn controller hnext hstep hadd hbefore hends hshared =>
    rw [hshared] at hunpaired
    exact absurd ((IdentityStore.isPaired_add hadd).symm.trans hunpaired) nofun
  | releases hends hshared =>
    rw [hshared] at hunpaired hfailed
    exact ⟨hunpaired, (SetupSystem.release_failed ..).symm.trans_lt hfailed⟩
  | keeps hkeeps hpaired hattempts =>
    rw [hattempts] at hfailed
    exact ⟨hpaired.symm.trans hunpaired, hfailed⟩

theorem run_admits (h : Orderly suite system) {turns : List SetupTurn}
    (hadmits : (system.run suite turns).Admits) : system.Admits := by
  induction turns generalizing system with
  | nil => exact hadmits
  | cons next rest ih =>
    exact ((turn_move h.inPhases next).effect h.conn_eq).admits (ih (turn_orderly h next) hadmits)

/-- What the next step of a call does to what is shared. -/
theorem turn_advance_shared {step : SetupStep} (hstep : system.next? conn = some step) :
    (system.turn suite (.advance conn)).shared = (step.take system.shared).2 := by
  unfold next? at hstep
  obtain ⟨call, hcall, hnext⟩ := Option.bind_eq_some_iff.1 hstep
  cases call with
  | done result => cases hnext
  | step first rest =>
    cases hnext
    rw [turn, hcall]

/-- After an M1 was overtaken, it would not be admitted. -/
theorem Overtakes.not_admits (h : system.Overtakes other conn) :
    ¬ (system.turn suite (.advance other)).Admits := by
  rintro ⟨hunpaired, hfailed⟩
  rcases h with ⟨⟨controller, hstep, hadd⟩, -⟩ | ⟨⟨hstep, hlast⟩, -⟩
  · rw [turn_advance_shared hstep] at hunpaired
    exact absurd ((IdentityStore.isPaired_add hadd).symm.trans hunpaired) nofun
  · rw [turn_advance_shared hstep] at hfailed
    have hcount : min (system.shared.attempts.failed + 1) SetupAttempts.failedLimit <
        SetupAttempts.maxFailed := hfailed
    have hlimit : SetupAttempts.maxFailed < SetupAttempts.failedLimit := by decide
    omega

/-- What an M1 has checked holds when it takes the slot exactly if it was not overtaken. -/
theorem claims_admits_iff (suite : CipherSuite) (setupCode : SetupCode) (store : IdentityStore)
    (random : Entropy) (turns : List SetupTurn) (conn : ConnectionId)
    (hclaims : ((fresh setupCode store random).run suite turns).Claims conn) :
    ((fresh setupCode store random).run suite turns).Admits ↔
      ¬ Overtaken suite (fresh setupCode store random) turns conn := by
  have hfresh := fresh_orderly suite setupCode store random
  constructor
  · rintro hadmits ⟨before, next, later, rfl, ⟨other, rfl, hovertakes⟩, -⟩
    have horderly := turn_orderly (run_orderly suite hfresh before) (.advance other)
    rw [List.append_cons, run_append, run_concat] at hadmits
    exact hovertakes.not_admits (run_admits horderly hadmits)
  · intro hnot
    constructor
    · cases hpaired : ((fresh setupCode store random).run suite turns).shared.store.isPaired with
      | false => rfl
      | true =>
        exact absurd (overtaken_of_isStale suite setupCode store random turns conn
          (.inl ⟨.inr hclaims.1, hpaired⟩)) hnot
    · by_contra hfailed
      exact hnot (overtaken_of_isStale suite setupCode store random turns conn
        (.inr ⟨hclaims.1, Nat.le_of_not_lt hfailed⟩))

end HomeKit.ConcurrentSetup
