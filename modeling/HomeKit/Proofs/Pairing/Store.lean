import HomeKit.Pairing.Manage
import HomeKit.Proofs.Crypto.Transparent

/-!
# Stores as they come about

The store of pairings is opened from a storage and then only changed by adding and removing
controllers (`IdentityStore.Reachable`). Every such store keeps each controller under its own
identifier (`Reachable.keyedById`), so what is found under an identifier answers to it.

A store on which no controller is paired stays so under requests to manage pairings, since only an
admin's are carried out (`handlePairings_of_not_isPaired`).
-/

namespace HomeKit

theorem toOption_eq_some_iff {ε α : Type} {outcome : Except ε α} {a : α} :
    outcome.toOption = some a ↔ outcome = .ok a := by
  cases outcome <;> simp [Except.toOption]

namespace IdentityStore

open Std (ExtTreeMap)

/-! ## Tables -/

/-- Each controller stands under its own identifier. -/
def KeyedById (table : ExtTreeMap String PairedController) : Prop :=
  ∀ (id : String) (controller : PairedController), table[id]? = some controller → controller.id = id

theorem KeyedById.empty : KeyedById ∅ := by
  intro id controller h
  rw [ExtTreeMap.getElem?_empty] at h
  cases h

theorem KeyedById.insert {table : ExtTreeMap String PairedController} (h : KeyedById table)
    (controller : PairedController) : KeyedById (table.insert controller.id controller) := by
  intro id found hf
  rw [ExtTreeMap.getElem?_insert] at hf
  split at hf
  · rename_i hid
    cases hf
    exact Std.LawfulEqCmp.eq_of_compare hid
  · exact h id found hf

theorem KeyedById.erase {table : ExtTreeMap String PairedController} (h : KeyedById table)
    (id : String) : KeyedById (table.erase id) := by
  intro other found hf
  rw [ExtTreeMap.getElem?_erase] at hf
  split at hf
  · cases hf
  · exact h other found hf

theorem KeyedById.readRecords {table : ExtTreeMap String PairedController} (h : KeyedById table)
    {storage : Storage} {keys : List String} {read : ExtTreeMap String PairedController}
    (hr : (readRecords storage table keys).1 = .ok read) : KeyedById read := by
  induction keys generalizing storage table with
  | nil =>
    cases hr
    exact h
  | cons key rest ih =>
    unfold IdentityStore.readRecords at hr
    split at hr
    · split at hr
      · cases hr
      · exact ih h hr
      · split at hr
        · cases hr
        · exact ih (h.insert _) hr
    · exact ih h hr

/-! ## Stores -/

/-- A store that was opened from a storage and then changed by additions and removals. -/
inductive Reachable : IdentityStore → Prop
  | opened {storage : Storage} {random : Entropy} {store : IdentityStore}
      (h : (openOrCreate storage random).1 = .ok store) : Reachable store
  | added {store : IdentityStore} (h : Reachable store) (controller : PairedController) :
      Reachable (store.add controller).2
  | removed {store : IdentityStore} (h : Reachable store) (id : String) :
      Reachable (store.remove id).2

/-- What opening gives is a table read from the storage's records. -/
theorem openOrCreate_controllers {storage : Storage} {random : Entropy} {store : IdentityStore}
    (h : (openOrCreate storage random).1 = .ok store) :
    ∃ storage keys, (readRecords storage ∅ keys).1 = .ok store.controllers := by
  unfold openOrCreate at h
  split at h
  · cases h
  · split at h
    · cases h
    · rename_i opened _ _
      unfold openControllers at h
      simp only at h
      split at h
      · cases h
      · rename_i keys storage _
        refine ⟨storage, keys, ?_⟩
        cases hr : (readRecords storage ∅ keys).1 with
        | error error =>
          rw [hr] at h
          cases h
        | ok table =>
          rw [hr] at h
          cases h
          rfl

/-- An addition puts the controller into the table and its record into the storage, or fails and
leaves both as they are. -/
theorem add_cases (store : IdentityStore) (controller : PairedController) :
    (store.add controller).1 = .ok () ∧
        (store.add controller).2.controllers =
          store.controllers.insert controller.id controller ∧
        (store.add controller).2.storage.entries =
          store.storage.entries.insert (recordKey controller.id) controller.encode ∨
      (∃ error, (store.add controller).1 = .error error) ∧
        (store.add controller).2.controllers = store.controllers ∧
        (store.add controller).2.storage.entries = store.storage.entries := by
  unfold IdentityStore.add
  simp only
  split
  · exact Or.inr ⟨⟨_, rfl⟩, rfl, rfl⟩
  · split
    · exact Or.inr ⟨⟨_, rfl⟩, rfl, rfl⟩
    · rcases Storage.set_cases store.storage (recordKey controller.id) controller.encode with
        ⟨after, hset, hentries⟩ | ⟨error, after, hset, hentries⟩
      · rw [hset]
        exact Or.inl ⟨rfl, rfl, hentries⟩
      · rw [hset]
        exact Or.inr ⟨⟨_, rfl⟩, rfl, hentries⟩

/-- What removing controllers one after another preserves, if erasing one does. -/
theorem removeAll_induction {motive : ExtTreeMap String PairedController → Prop}
    (erase : ∀ table id, motive table → motive (table.erase id)) (ids : List String)
    {store : IdentityStore} (h : motive store.controllers) :
    motive (store.removeAll ids).2.controllers := by
  induction ids generalizing store with
  | nil => exact h
  | cons id rest ih =>
    unfold removeAll
    split
    · exact h
    · exact ih (erase _ id h)

/-- What a removal preserves, if erasing a controller does. -/
theorem remove_induction {motive : ExtTreeMap String PairedController → Prop}
    (erase : ∀ table id, motive table → motive (table.erase id)) {store : IdentityStore}
    (h : motive store.controllers) (id : String) : motive (store.remove id).2.controllers := by
  unfold remove
  split
  · exact removeAll_induction erase _ h
  · exact h

theorem KeyedById.add {store : IdentityStore} (h : KeyedById store.controllers)
    (controller : PairedController) : KeyedById (store.add controller).2.controllers := by
  rcases add_cases store controller with ⟨-, hcontrollers, -⟩ | ⟨-, hcontrollers, -⟩
  · rw [hcontrollers]
    exact h.insert controller
  · rw [hcontrollers]
    exact h

theorem KeyedById.remove {store : IdentityStore} (h : KeyedById store.controllers) (id : String) :
    KeyedById (store.remove id).2.controllers :=
  remove_induction (fun _ id hkeyed => hkeyed.erase id) h id

/-- In every store, a controller stands under its own identifier. -/
theorem Reachable.keyedById {store : IdentityStore} (h : store.Reachable) :
    KeyedById store.controllers := by
  induction h with
  | opened h =>
    obtain ⟨storage, keys, hr⟩ := openOrCreate_controllers h
    exact KeyedById.empty.readRecords hr
  | added _ controller ih => exact ih.add controller
  | removed _ id ih => exact ih.remove id

/-- What is found under an identifier answers to it. -/
theorem Reachable.id_eq {store : IdentityStore} (h : store.Reachable) {id : String}
    {controller : PairedController} (hc : store.controller? id = some controller) :
    controller.id = id :=
  h.keyedById id controller hc

/-! ## Stores without pairings -/

theorem isPaired_eq_false_iff {store : IdentityStore} :
    store.isPaired = false ↔ store.controllers = ∅ := by
  unfold isPaired
  rw [Bool.not_eq_false', ExtTreeMap.isEmpty_iff]

theorem isPaired_of_controller? {store : IdentityStore} {id : String}
    {controller : PairedController} (h : store.controller? id = some controller) :
    store.isPaired = true := by
  rw [← Bool.not_eq_false, isPaired_eq_false_iff]
  intro he
  unfold controller? at h
  rw [he, ExtTreeMap.getElem?_empty] at h
  cases h

/-- Nobody is an admin of a store without pairings, so no request to manage pairings is carried
out. -/
theorem handlePairings_of_not_isPaired {store : IdentityStore} (h : store.isPaired = false)
    (controller : Option String) (request : Bytes) :
    (store.handlePairings controller request).2 = store := by
  have hadmin : ∀ id, store.isAdmin id = false := by
    intro id
    unfold isAdmin
    cases hc : store.controller? id with
    | none => rfl
    | some found => rw [isPaired_of_controller? hc] at h; cases h
  have hany : controller.any store.isAdmin = false := by
    cases controller with
    | none => rfl
    | some id => exact hadmin id
  unfold handlePairings processPairings
  simp only [hany]
  split
  · rfl
  · split <;> rfl

/-- Removing a controller that is not there changes nothing. -/
theorem remove_of_not_isPaired {store : IdentityStore} (h : store.isPaired = false) (id : String) :
    store.remove id = ({}, store) := by
  unfold remove
  rw [isPaired_eq_false_iff.1 h]
  simp

/-! ## Stores with no or one controller -/

theorem openOrCreate_empty_isSome :
    (openOrCreate {} (Entropy.constant 7)).1.toOption.isSome = true := by
  decide +kernel

/-- A store that was opened on an empty storage. -/
def unpaired : IdentityStore :=
  (openOrCreate {} (Entropy.constant 7)).1.toOption.get openOrCreate_empty_isSome

theorem unpaired_reachable : unpaired.Reachable :=
  .opened (toOption_eq_some_iff.1 (Option.some_get openOrCreate_empty_isSome).symm)

/-- A store with one controller. -/
def withController (controller : PairedController) : IdentityStore :=
  (unpaired.add controller).2

theorem withController_reachable (controller : PairedController) :
    (withController controller).Reachable :=
  unpaired_reachable.added controller

end IdentityStore

end HomeKit
