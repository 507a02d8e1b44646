import HomeKit.Proofs.Pairing.Persistence
import Mathlib.Data.Finset.Basic
import Mathlib.Data.Finset.Dedup

/-!
# What the pairing events tell

Whoever listens to a store can follow who is paired: an event tells of one controller that is paired
from now on or not any more (`PairingEvent.follow?`), and no event tells what was so before. An
update of permissions and a refused addition say nothing; a removal that fails on the way tells of
those who are gone (`IdentityStore.call_announces`). So the events that were sent since somebody
began to listen lead from those who were paired then to those who are paired now, and a listener who
misses none knows them (`Audience.heard_tells_paired`).
-/

namespace HomeKit

open Std (ExtTreeMap)

namespace PairingEvent

variable {ids : Finset String}

/-- Who is paired after an event, given who was before it. An event that changes nothing leads
nowhere. -/
def follow? (ids : Finset String) : PairingEvent → Option (Finset String)
  | paired id => if id ∈ ids then none else some (insert id ids)
  | unpaired id => if id ∈ ids then some (ids.erase id) else none

/-- Who is paired after some events, none of which may be without effect. -/
def followAll? (ids : Finset String) (events : List PairingEvent) : Option (Finset String) :=
  events.foldlM follow? ids

theorem followAll?_append (ids : Finset String) (first second : List PairingEvent) :
    followAll? ids (first ++ second) = (followAll? ids first).bind (followAll? · second) :=
  List.foldlM_append

/-- Controllers that are paired and go one after another leave the others. -/
theorem followAll?_map_unpaired {removed : List String} (hnodup : removed.Nodup)
    (hpaired : ∀ id ∈ removed, id ∈ ids) :
    followAll? ids (removed.map unpaired) = some (ids \ removed.toFinset) := by
  induction removed generalizing ids with
  | nil => simp [followAll?]
  | cons id rest ih =>
    obtain ⟨hid, hrest⟩ := List.nodup_cons.1 hnodup
    have hleft : ∀ other ∈ rest, other ∈ ids.erase id := by
      intro other hother
      refine Finset.mem_erase.2 ⟨?_, hpaired other (List.mem_cons_of_mem id hother)⟩
      rintro rfl
      exact hid hother
    have hstep : follow? ids (unpaired id) = some (ids.erase id) :=
      if_pos (hpaired id List.mem_cons_self)
    rw [List.map_cons, followAll?, List.foldlM_cons, hstep]
    refine (ih hrest hleft).trans (congrArg some ?_)
    rw [List.toFinset_cons, Finset.erase_sdiff_comm, Finset.sdiff_insert]

end PairingEvent

/-! ## What is announced -/

namespace IdentityStore

variable {store after : IdentityStore} {id : String} {controller : PairedController}

/-- The identifiers of those who are paired. -/
def pairedIds (store : IdentityStore) : Finset String :=
  store.controllers.keys.toFinset

theorem mem_pairedIds_iff : id ∈ store.pairedIds ↔ (store.controller? id).isSome = true := by
  rw [pairedIds, List.mem_toFinset, ExtTreeMap.mem_keys, ExtTreeMap.mem_iff_isSome_getElem?]
  rfl

theorem pairedIds_add (h : (store.add controller).1 = .ok ()) :
    (store.add controller).2.pairedIds = insert controller.id store.pairedIds := by
  ext id
  rw [Finset.mem_insert, mem_pairedIds_iff, mem_pairedIds_iff, controller?, add_controllers h,
    ExtTreeMap.getElem?_insert]
  by_cases hid : controller.id = id
  · simp [hid]
  · simp [hid, Ne.symm hid, controller?]

theorem pairedIds_remove (store : IdentityStore) (id : String) :
    (store.remove id).2.pairedIds =
      store.pairedIds \ (store.remove id).1.removed.toFinset := by
  ext other
  rw [Finset.mem_sdiff, mem_pairedIds_iff, mem_pairedIds_iff, List.mem_toFinset,
    controller?_remove_eq_ite]
  split <;> simp [*]

/-- The events that a call sends lead from those who were paired to those who are. -/
def Announces (store after : IdentityStore) : Prop :=
  ∃ sent, after.events = store.events ++ sent ∧
    PairingEvent.followAll? store.pairedIds sent = some after.pairedIds

theorem announces_of_same (hevents : after.events = store.events)
    (hids : after.pairedIds = store.pairedIds) : store.Announces after :=
  ⟨[], by rw [hevents, List.append_nil], by rw [hids]; rfl⟩

theorem add_announces (store : IdentityStore) (controller : PairedController) :
    store.Announces (store.add controller).2 := by
  have hadded := store.add_addition controller
  have hids := @pairedIds_add store controller
  generalize store.add controller = result at hadded hids
  cases hadded with
  | otherKey | full | notStored => exact announces_of_same rfl rfl
  | updated hknown =>
    have hmem : controller.id ∈ store.pairedIds :=
      mem_pairedIds_iff.2 (Option.isSome_of_eq_some hknown)
    exact announces_of_same rfl ((hids rfl).trans (Finset.insert_eq_of_mem hmem))
  | paired hunknown =>
    have hnew : controller.id ∉ store.pairedIds := by
      rw [mem_pairedIds_iff, hunknown]
      nofun
    refine ⟨[.paired controller.id], rfl, ?_⟩
    rw [hids rfl]
    simp [PairingEvent.followAll?, PairingEvent.follow?, hnew]

theorem remove_announces (store : IdentityStore) (id : String) :
    store.Announces (store.remove id).2 := by
  refine ⟨_, store.remove_events id, ?_⟩
  rw [pairedIds_remove]
  refine PairingEvent.followAll?_map_unpaired (store.nodup_remove_removed id) ?_
  intro other hremoved
  exact mem_pairedIds_iff.2 (mem_remove_removed.1 hremoved).1

theorem call_announces (store : IdentityStore) (call : StoreCall) :
    store.Announces (store.call call) := by
  cases call with
  | add controller => exact store.add_announces controller
  | remove id => exact store.remove_announces id

theorem Announces.trans {last : IdentityStore} (h : store.Announces after)
    (hlast : after.Announces last) : store.Announces last := by
  obtain ⟨first, hfirst, hfollow⟩ := h
  obtain ⟨second, hsecond, hfollow'⟩ := hlast
  refine ⟨first ++ second, ?_, ?_⟩
  · rw [hsecond, hfirst, List.append_assoc]
  · rw [PairingEvent.followAll?_append, hfollow]
    exact hfollow'

end IdentityStore

/-! ## Listening -/

/-- A store and somebody who listens to it. -/
structure Audience where
  store : IdentityStore
  receiver : EventReceiver
  /-- The events that were received, oldest first. -/
  heard : List PairingEvent := []
  /-- How many were lost because too many were waiting. -/
  missed : Nat := 0

inductive ListenerStep where
  | call (call : StoreCall)
  | receive

/-- Somebody begins to listen. -/
def IdentityStore.listen (store : IdentityStore) : Audience :=
  { store, receiver := ⟨store.events.length⟩ }

namespace Audience

variable {audience : Audience}

def step (audience : Audience) : ListenerStep → Audience
  | .call call => { audience with store := audience.store.call call }
  | .receive =>
    let (missed, events, receiver) := audience.receiver.receive audience.store.events
    { audience with
      receiver
      heard := audience.heard ++ events
      missed := audience.missed + missed }

def run (audience : Audience) (steps : List ListenerStep) : Audience :=
  steps.foldl step audience

/-- The events that are yet to be received. -/
def waiting (audience : Audience) : List PairingEvent :=
  audience.store.events.drop audience.receiver.position

/-- Somebody began to listen to the store `start` and the store is a later one; whoever has missed
nothing has heard all events since, but for those that wait. -/
structure Attends (start : IdentityStore) (audience : Audience) : Prop where
  announces : start.Announces audience.store
  position_le : audience.receiver.position ≤ audience.store.events.length
  complete : audience.missed = 0 →
    start.events ++ (audience.heard ++ audience.waiting) = audience.store.events

theorem listen_attends (store : IdentityStore) : Attends store store.listen := by
  refine ⟨IdentityStore.announces_of_same rfl rfl, Nat.le_refl _, fun _ => ?_⟩
  simp [IdentityStore.listen, waiting]

theorem Attends.call {start : IdentityStore} (h : Attends start audience) (call : StoreCall) :
    Attends start (audience.step (.call call)) := by
  obtain ⟨sent, hsent, hfollow⟩ := audience.store.call_announces call
  refine ⟨h.announces.trans ⟨sent, hsent, hfollow⟩, ?_, ?_⟩
  · simp only [step, hsent, List.length_append]
    exact Nat.le_add_right_of_le h.position_le
  · intro hmissed
    have hwaiting : (audience.step (.call call)).waiting = audience.waiting ++ sent := by
      simp only [waiting, step, hsent]
      exact List.drop_append_of_le_length h.position_le
    have hbefore := h.complete hmissed
    calc
      start.events ++ (audience.heard ++ (audience.step (.call call)).waiting)
        = start.events ++ (audience.heard ++ audience.waiting) ++ sent := by
          rw [hwaiting, List.append_assoc, List.append_assoc]
      _ = (audience.step (.call call)).store.events := by
          rw [hbefore]
          exact hsent.symm

theorem Attends.receive {start : IdentityStore} (h : Attends start audience) :
    Attends start (audience.step .receive) := by
  refine ⟨h.announces, Nat.le_refl _, ?_⟩
  intro hmissed
  obtain ⟨hbefore, hnow⟩ := Nat.add_eq_zero_iff.1 hmissed
  -- nothing is dropped in front of what waits, and nothing waits any more
  have hheard : (audience.step .receive).heard = audience.heard ++ audience.waiting := by
    simp only [step, EventReceiver.receive, hnow]
    rfl
  have hwaiting : (audience.step .receive).waiting = [] :=
    List.drop_length
  rw [hheard, hwaiting, List.append_nil, h.complete hbefore]
  rfl

theorem Attends.run {start : IdentityStore} (h : Attends start audience)
    (steps : List ListenerStep) : Attends start (audience.run steps) := by
  induction steps generalizing audience with
  | nil => exact h
  | cons step rest ih =>
    cases step with
    | call call => exact ih (h.call call)
    | receive => exact ih h.receive

/-- Controllers are added and removed, whichever calls of the storage fail, and somebody who began
to listen receives the events at any times. Unless some were missed, the events that were heard and
those that wait lead from those who were paired at the beginning to those who are paired now, and
each of them tells of a change. -/
theorem heard_tells_paired (store : IdentityStore) (steps : List ListenerStep)
    (hmissed : (store.listen.run steps).missed = 0) :
    let now := store.listen.run steps
    PairingEvent.followAll? store.pairedIds (now.heard ++ now.waiting) =
      some now.store.pairedIds := by
  intro now
  have hattends := (listen_attends store).run steps
  obtain ⟨sent, hsent, hfollow⟩ := hattends.announces
  have hcomplete := hattends.complete hmissed
  rw [hsent, List.append_cancel_left_eq] at hcomplete
  rw [hcomplete]
  exact hfollow

/-- A store with an admin and another controller, whose second removal of a record fails. -/
def interrupted : IdentityStore :=
  let storage := { IdentityStore.unpaired.storage with
    fails := fun kind number => kind == .delete && number == 2 }
  { IdentityStore.unpaired with storage }.callAll
    [.add ⟨"a", .replicate 32 1, .admin⟩, .add ⟨"b", .replicate 32 2, .regular⟩]

/-- One controller is added and another one updated, a key is refused, and the last admin is
removed, which takes nobody else along because the removal fails on the way. -/
def interruptedSteps : List ListenerStep :=
  [.call (.add ⟨"c", .replicate 32 3, .regular⟩), .receive,
    .call (.add ⟨"b", .replicate 32 2, .regular⟩), .call (.add ⟨"b", .replicate 32 4, .admin⟩),
    .call (.remove "a"), .receive, .call (.remove "b")]

theorem heard_tells_paired_interrupted :
    let now := interrupted.listen.run interruptedSteps
    now.missed = 0 ∧ now.heard = [.paired "c", .unpaired "a"] ∧
      now.waiting = [.unpaired "b", .unpaired "c"] ∧
      PairingEvent.followAll? interrupted.pairedIds (now.heard ++ now.waiting) =
        some now.store.pairedIds := by
  have hmissed : (interrupted.listen.run interruptedSteps).missed = 0 := by decide +kernel
  exact ⟨hmissed, by decide +kernel, by decide +kernel,
    heard_tells_paired interrupted interruptedSteps hmissed⟩

end Audience

end HomeKit
