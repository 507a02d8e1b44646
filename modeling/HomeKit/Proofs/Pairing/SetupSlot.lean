import HomeKit.Proofs.Pairing.SetupMemory
import Mathlib.Logic.Function.Basic

/-!
# The slot of pair-setup

Machines come and go with their connections (`SetupHost`), and all share the bookkeeping of
attempts. Its owner is the connection of the one machine that is past M1, and nobody if there is
none (`SetupHost.Orderly`); so at most one setup is under way, and the slot is never lost. Each
machine remembers what its phase needs and nothing else, and what a request is answered with that
does not find it makes no difference (`SetupHost.one_setup_at_a_time`).
-/

namespace HomeKit

/-! ## What a call does to the slot -/

namespace SetupAttempts

theorem release_owner (attempts : SetupAttempts) (conn : ConnectionId) :
    (attempts.release conn).owner =
      if attempts.owner = some conn then none else attempts.owner := by
  unfold release
  split
  · rfl
  · rfl

theorem release_owner_ne (attempts : SetupAttempts) (conn : ConnectionId) :
    (attempts.release conn).owner ≠ some conn := by
  rw [release_owner]
  split
  · exact nofun
  · assumption

theorem release_owner_iff (attempts : SetupAttempts) {conn other : ConnectionId}
    (hne : other ≠ conn) :
    (attempts.release conn).owner = some other ↔ attempts.owner = some other := by
  rw [release_owner]
  split
  · rename_i howner
    simp [howner, hne.symm]
  · rfl

end SetupAttempts

/-- A call leaves the machine and the slot alone, ends with the machine past M1 and in possession of
a slot that nobody else had, or ends with the machine out of the exchange and the slot given
back. -/
theorem PairSetup.Move.slot {suite : CipherSuite} {identity : AccessoryIdentity}
    {machine : PairSetup} {shared : SetupShared} {request : Bytes}
    {result : (Bytes × PairSetup) × SetupShared}
    (h : Move suite identity machine shared request result)
    (howner : machine.isActive = true → shared.attempts.owner = some machine.conn) :
    result.1.2 = machine ∧ result.2.attempts.owner = shared.attempts.owner ∨
      result.1.2.isActive = true ∧ result.2.attempts.owner = some machine.conn ∧
        (∀ other, shared.attempts.owner = some other → other = machine.conn) ∨
      result.1.2.isActive = false ∧
        result.2.attempts.owner = (shared.attempts.release machine.conn).owner := by
  cases h with
  | started hdecode hstate hstart =>
    refine Or.inr (Or.inl ⟨rfl, rfl, fun other hother => ?_⟩)
    have hfree := hstart.free
    rw [hother] at hfree
    simpa using hfree
  | busy hdecode hstate hbusy => exact Or.inl ⟨rfl, rfl⟩
  | @proved tlv server verified hdecode hstate hstage hcheck =>
    have hactive : machine.isActive = true := by rw [isActive, hstage]
    have hmine := howner hactive
    refine Or.inr (Or.inl ⟨rfl, hmine, fun other hother => ?_⟩)
    rw [hmine] at hother
    exact (Option.some.inj hother).symm
  | refused hdecode hstate hstage hcheck =>
    refine Or.inr (Or.inr ⟨rfl, ?_⟩)
    rw [SetupAttempts.release_owner, SetupAttempts.release_owner]
    rfl
  | paired hdecode hstate hstage hintro hadd => exact Or.inr (Or.inr ⟨rfl, rfl⟩)
  | notStored hdecode hstate hstage hintro hadd => exact Or.inr (Or.inr ⟨rfl, rfl⟩)
  | failed hbusy => exact Or.inr (Or.inr ⟨rfl, rfl⟩)

theorem PairSetup.Move.conn {suite : CipherSuite} {identity : AccessoryIdentity}
    {machine : PairSetup} {shared : SetupShared} {request : Bytes}
    {result : (Bytes × PairSetup) × SetupShared}
    (h : Move suite identity machine shared request result) : result.1.2.conn = machine.conn := by
  cases h <;> rfl

/-! ## Machines that come and go -/

/-- The machines of the connections that there are, and what they share. -/
structure SetupHost where
  setupCode : SetupCode
  shared : SetupShared
  machines : ConnectionId → Option SetupMemory := fun _ => none

inductive SetupEvent where
  /-- A connection that has no machine gets one. -/
  | create (conn : ConnectionId)
  | drop (conn : ConnectionId)
  | request (conn : ConnectionId) (body : Bytes)
  /-- Others change the pairings in some way. -/
  | storeChanged (store : IdentityStore)

namespace SetupHost

variable (suite : CipherSuite)

/-- No machines yet. -/
def start (setupCode : SetupCode) (store : IdentityStore) (random : Entropy) : SetupHost where
  setupCode
  shared := { store, random }

def step (host : SetupHost) : SetupEvent → SetupHost
  | .create conn =>
    match host.machines conn with
    | some _ => host
    | none =>
      let memory : SetupMemory := { conn, setupCode := host.setupCode }
      { host with machines := Function.update host.machines conn (some memory) }
  | .drop conn =>
    match host.machines conn with
    | none => host
    | some memory =>
      let attempts := host.shared.attempts.release memory.conn
      { host with
        shared := { host.shared with attempts }
        machines := Function.update host.machines conn none }
  | .request conn body =>
    match host.machines conn with
    | none => host
    | some memory =>
      let ((_, memory), shared) :=
        (memory.handle suite host.shared.store.identity body).run host.shared
      { host with shared, machines := Function.update host.machines conn (some memory) }
  | .storeChanged store => { host with shared := { host.shared with store } }

def run (host : SetupHost) (events : List SetupEvent) : SetupHost :=
  events.foldl (step suite) host

/-- The machine of the connection is past M1. -/
def IsActive (host : SetupHost) (conn : ConnectionId) : Prop :=
  ∃ memory, host.machines conn = some memory ∧ memory.isActive = true

/-- Each connection's memory is that of a machine, and the slot belongs to the one that is past
M1. -/
structure Orderly (host : SetupHost) : Prop where
  exists_machine : ∀ conn memory, host.machines conn = some memory →
    ∃ machine : PairSetup, machine.conn = conn ∧ memory = .ofMachine suite machine
  owner_iff : ∀ conn, host.shared.attempts.owner = some conn ↔ host.IsActive conn

variable {suite} {host : SetupHost} {conn : ConnectionId}

theorem start_orderly (suite : CipherSuite) (setupCode : SetupCode) (store : IdentityStore)
    (random : Entropy) : Orderly suite (start setupCode store random) := by
  refine ⟨nofun, fun conn => iff_of_false nofun ?_⟩
  rintro ⟨memory, hmemory, -⟩
  cases hmemory

/-- What happens to one connection keeps the order if it concerns nobody else's hold on the slot and
the connection holds it just if its machine is past M1. -/
theorem Orderly.replace (h : Orderly suite host) {shared : SetupShared}
    {memory : Option SetupMemory}
    (hmachine : ∀ found, memory = some found →
      ∃ machine : PairSetup, machine.conn = conn ∧ found = .ofMachine suite machine)
    (howner : shared.attempts.owner = some conn ↔
      ∃ found, memory = some found ∧ found.isActive = true)
    (hothers : ∀ other, other ≠ conn →
      (shared.attempts.owner = some other ↔ host.shared.attempts.owner = some other)) :
    Orderly suite
      { host with shared, machines := Function.update host.machines conn memory } := by
  constructor
  · intro other found hfound
    simp only at hfound
    by_cases heq : other = conn
    · subst heq
      rw [Function.update_self] at hfound
      exact hmachine found hfound
    · rw [Function.update_of_ne heq] at hfound
      exact h.exists_machine other found hfound
  · intro other
    unfold IsActive
    simp only
    by_cases heq : other = conn
    · subst heq
      rw [Function.update_self]
      exact howner
    · rw [Function.update_of_ne heq, hothers other heq]
      exact h.owner_iff other

/-- A machine that is past M1 holds the slot. -/
theorem Orderly.owner_eq (h : Orderly suite host) {machine : PairSetup}
    (hmachine : host.machines conn = some (.ofMachine suite machine))
    (hactive : machine.isActive = true) : host.shared.attempts.owner = some conn := by
  refine (h.owner_iff conn).2 ⟨_, hmachine, ?_⟩
  rw [SetupMemory.isActive_ofMachine]
  exact hactive

theorem Orderly.request (h : Orderly suite host) (conn : ConnectionId) (body : Bytes) :
    Orderly suite (host.step suite (.request conn body)) := by
  unfold step
  cases hmemory : host.machines conn with
  | none =>
    simp only [hmemory]
    exact h
  | some memory =>
    obtain ⟨machine, hconn, rfl⟩ := h.exists_machine conn memory hmemory
    have hmove := PairSetup.handle_move suite host.shared.store.identity machine host.shared body
    have hslot := hmove.slot (fun hactive => hconn.symm ▸ h.owner_eq hmemory hactive)
    have hkeeps := hmove.conn
    simp only [hmemory, SetupMemory.handle, SetupMemory.handleWith_ofMachine]
    generalize (machine.handle suite host.shared.store.identity body).run host.shared = result
      at hslot hkeeps
    obtain ⟨⟨answer, after⟩, shared⟩ := result
    simp only at hslot hkeeps ⊢
    rw [hconn] at hkeeps hslot
    refine h.replace ?_ ?_ ?_
    · rintro found ⟨⟩
      exact ⟨after, hkeeps, rfl⟩
    · simp only [Option.some.injEq, exists_eq_left', SetupMemory.isActive_ofMachine]
      rcases hslot with ⟨rfl, howner⟩ | ⟨hactive, howner, -⟩ | ⟨hidle, howner⟩
      · rw [howner, h.owner_iff]
        unfold IsActive
        rw [hmemory]
        simp
      · exact iff_of_true howner hactive
      · refine iff_of_false ?_ (by simp [hidle])
        rw [howner]
        exact SetupAttempts.release_owner_ne _ _
    · intro other hne
      rcases hslot with ⟨-, howner⟩ | ⟨-, howner, hfree⟩ | ⟨-, howner⟩
      · rw [howner]
      · refine iff_of_false ?_ fun hother => hne (hfree other hother)
        rw [howner]
        exact fun hother => hne (Option.some.inj hother).symm
      · rw [howner]
        exact SetupAttempts.release_owner_iff _ hne

theorem Orderly.create (h : Orderly suite host) (conn : ConnectionId) :
    Orderly suite (host.step suite (.create conn)) := by
  unfold step
  cases hmemory : host.machines conn with
  | some memory =>
    simp only [hmemory]
    exact h
  | none =>
    simp only [hmemory]
    refine h.replace ?_ ?_ fun other _ => Iff.rfl
    · rintro found ⟨⟩
      exact ⟨{ conn, setupCode := host.setupCode }, rfl, rfl⟩
    · have hnobody : ¬ host.IsActive conn := by
        rintro ⟨memory, hfound, -⟩
        rw [hmemory] at hfound
        cases hfound
      refine iff_of_false (fun howner => hnobody ((h.owner_iff conn).1 howner)) ?_
      rintro ⟨found, ⟨⟩, hactive⟩
      cases hactive

theorem Orderly.drop (h : Orderly suite host) (conn : ConnectionId) :
    Orderly suite (host.step suite (.drop conn)) := by
  unfold step
  cases hmemory : host.machines conn with
  | none =>
    simp only [hmemory]
    exact h
  | some memory =>
    obtain ⟨machine, hconn, rfl⟩ := h.exists_machine conn memory hmemory
    simp only [hmemory, SetupMemory.ofMachine_conn, hconn]
    refine h.replace nofun ?_ fun other hne => SetupAttempts.release_owner_iff _ hne
    exact iff_of_false (SetupAttempts.release_owner_ne _ _) nofun

theorem step_orderly (h : Orderly suite host) (event : SetupEvent) :
    Orderly suite (host.step suite event) := by
  cases event with
  | create conn => exact h.create conn
  | drop conn => exact h.drop conn
  | request conn body => exact h.request conn body
  | storeChanged store => exact ⟨h.exists_machine, h.owner_iff⟩

theorem run_orderly (h : Orderly suite host) (events : List SetupEvent) :
    Orderly suite (host.run suite events) := by
  induction events generalizing host with
  | nil => exact h
  | cons event rest ih => exact ih (step_orderly h event)

/-- Whatever is sent, and whichever machines come and go: the owner of the slot is the connection
whose machine is past M1, so at most one is and the slot is free if none is; each machine remembers
what its phase needs and nothing else, no request misses any of it, and the memory is that of the
connection's `PairSetup`. -/
theorem one_setup_at_a_time (suite : CipherSuite) (setupCode : SetupCode) (store : IdentityStore)
    (random : Entropy) (events : List SetupEvent) :
    let host := (start setupCode store random).run suite events
    (∀ conn, host.shared.attempts.owner = some conn ↔ host.IsActive conn) ∧
      (∀ conn other, host.IsActive conn → host.IsActive other → conn = other) ∧
      ((∀ conn, ¬ host.IsActive conn) → host.shared.attempts.owner = none) ∧
      ∀ conn memory, host.machines conn = some memory →
        memory.HoldsItsSecrets ∧
        (∀ missing identity body shared,
          (memory.handleWith missing suite identity body).run shared =
            (memory.handle suite identity body).run shared) ∧
        ∃ machine : PairSetup, machine.conn = conn ∧ memory = .ofMachine suite machine := by
  intro host
  have h : Orderly suite host := run_orderly (start_orderly suite setupCode store random) events
  refine ⟨h.owner_iff, ?_, ?_, ?_⟩
  · intro conn other hconn hother
    have howner := (h.owner_iff conn).2 hconn
    rw [(h.owner_iff other).2 hother] at howner
    exact (Option.some.inj howner).symm
  · intro hnobody
    cases howner : host.shared.attempts.owner with
    | none => rfl
    | some conn => exact absurd ((h.owner_iff conn).1 howner) (hnobody conn)
  · intro conn memory hmemory
    obtain ⟨machine, hconn, rfl⟩ := h.exists_machine conn memory hmemory
    refine ⟨SetupMemory.holdsItsSecrets_ofMachine, ?_, machine, hconn, rfl⟩
    intro missing identity body shared
    rw [SetupMemory.handle, SetupMemory.handleWith_ofMachine, SetupMemory.handleWith_ofMachine]

end SetupHost

end HomeKit
