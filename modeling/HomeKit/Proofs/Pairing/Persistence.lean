import HomeKit.Proofs.Pairing.Changes
import HomeKit.Proofs.Pairing.Opening

/-!
# Stores and their storages agree

A store holds its identity and its controllers in memory, beside what is in storage. After every
call the two agree, whichever calls of the storage failed on the way (`IdentityStore.Persisted`). So
a restart loses nothing and brings nothing back: on storage that only stores have written, the next
store has the identity and the controllers of the last one (`IdentityStore.reopened_agrees`).
-/

namespace HomeKit

/-- What is called on a store. -/
inductive StoreCall where
  | add (controller : PairedController)
  | remove (id : String)

namespace IdentityStore

open Std (ExtTreeMap)

variable {store : IdentityStore} {storage : Storage}

/-- The store after a call. -/
def call (store : IdentityStore) : StoreCall → IdentityStore
  | .add controller => (store.add controller).2
  | .remove id => (store.remove id).2

/-- The store after some calls. -/
def callAll (store : IdentityStore) (calls : List StoreCall) : IdentityStore :=
  calls.foldl call store

/-! ## Agreement -/

/-- The store has the identity and the controllers that are stored. -/
structure Persisted (store : IdentityStore) : Prop where
  readable : Readable store.storage.entries
  identifier :
    store.storage.entries[identifierKey]?.bind identifierOf? = some store.identity.identifier
  key : store.storage.entries[seedKey]?.bind keyOf? = some store.identity.key
  controllers : ∀ id, store.controller? id = recorded? store.storage.entries id

/-- A store that was just opened agrees with its storage. -/
theorem openOrCreate_persisted (hreadable : Readable storage.entries) {random : Entropy}
    (h : (openOrCreate storage random).1 = .ok store) : store.Persisted := by
  obtain ⟨-, ⟨between, hidentifier, hkey⟩, hok⟩ := openOrCreate_spec storage random
  obtain ⟨hstorage, hid, hseed, reader, hreader, hread⟩ := hok store h
  have hafter : Readable store.storage.entries := by
    rw [hstorage]
    exact hreadable.of_fillsIn hidentifier hkey
  refine ⟨hafter, hid, hseed, ?_⟩
  intro id
  rw [← hreader] at hafter ⊢
  exact openControllers_ok hafter hread id

theorem Persisted.identifierKey_mem (h : store.Persisted) :
    identifierKey ∈ store.storage.entries := by
  obtain ⟨stored, hstored, -⟩ := Option.bind_eq_some_iff.1 h.identifier
  rw [ExtTreeMap.mem_iff_isSome_getElem?, hstored]
  rfl

theorem Persisted.seedKey_mem (h : store.Persisted) : seedKey ∈ store.storage.entries := by
  obtain ⟨stored, hstored, -⟩ := Option.bind_eq_some_iff.1 h.key
  rw [ExtTreeMap.mem_iff_isSome_getElem?, hstored]
  rfl

/-- Storage determines the store. -/
theorem Persisted.agree {other : IdentityStore} (h : store.Persisted) (hother : other.Persisted)
    (hentries : other.storage.entries = store.storage.entries) :
    other.identity = store.identity ∧ other.controllers = store.controllers := by
  have hidentifier := hother.identifier
  have hkey := hother.key
  rw [hentries, h.identifier] at hidentifier
  rw [hentries, h.key] at hkey
  refine ⟨?_, ExtTreeMap.ext_getElem? fun id => ?_⟩
  · cases hstore : store.identity
    cases hidentity : other.identity
    rw [hstore, hidentity] at hidentifier hkey
    cases hidentifier
    cases hkey
    rfl
  · have hfound := hother.controllers id
    rw [hentries, ← h.controllers id] at hfound
    exact hfound

/-! ## Calls -/

theorem getElem?_insert_record {entries : ExtTreeMap String Bytes} {controller : PairedController}
    {key : String} (hkey : key ≠ recordKey controller.id) :
    (entries.insert (recordKey controller.id) controller.encode)[key]? = entries[key]? := by
  rw [ExtTreeMap.getElem?_insert, if_neg]
  intro heq
  exact hkey (Std.LawfulEqOrd.eq_of_compare heq).symm

theorem Readable.insert_record {entries : ExtTreeMap String Bytes} (h : Readable entries)
    (controller : PairedController) :
    Readable (entries.insert (recordKey controller.id) controller.encode) := by
  refine ⟨?_, ?_, ?_⟩
  · rw [getElem?_insert_record (recordKey_ne_identifierKey _).symm]
    exact h.identifier
  · rw [getElem?_insert_record (recordKey_ne_seedKey _).symm]
    exact h.seed
  · intro key stored hstored hmarked
    by_cases hkey : key = recordKey controller.id
    · rw [hkey, ExtTreeMap.getElem?_insert_self] at hstored
      cases hstored
      exact ⟨controller, hkey, rfl⟩
    · rw [getElem?_insert_record hkey] at hstored
      exact h.record key stored hstored hmarked

theorem Readable.foldl_erase {entries : ExtTreeMap String Bytes} (h : Readable entries)
    (keys : List String) :
    Readable (keys.foldl (fun entries key => entries.erase key) entries) := by
  have hsub : ∀ (key : String) stored,
      (keys.foldl (fun entries key => entries.erase key) entries)[key]? = some stored →
        entries[key]? = some stored := by
    intro key stored hstored
    rw [getElem?_foldl_erase] at hstored
    split at hstored
    · cases hstored
    · exact hstored
  refine ⟨?_, ?_, ?_⟩
  · intro stored hstored
    exact h.identifier stored (hsub _ _ hstored)
  · intro stored hstored
    exact h.seed stored (hsub _ _ hstored)
  · intro key stored hstored
    exact h.record key stored (hsub _ _ hstored)

theorem Persisted.add (h : store.Persisted) (controller : PairedController) :
    (store.add controller).2.Persisted := by
  have hidentity := store.add_identity controller
  rcases store.add_cases controller with ⟨-, hcontrollers, hentries⟩ | ⟨-, hcontrollers, hentries⟩
  · refine ⟨?_, ?_, ?_, ?_⟩
    · rw [hentries]
      exact h.readable.insert_record controller
    · rw [hentries, getElem?_insert_record (recordKey_ne_identifierKey _).symm, hidentity]
      exact h.identifier
    · rw [hentries, getElem?_insert_record (recordKey_ne_seedKey _).symm, hidentity]
      exact h.key
    · intro id
      unfold controller?
      rw [hcontrollers, hentries]
      by_cases hid : id = controller.id
      · rw [hid, ExtTreeMap.getElem?_insert_self,
          recorded?_of_encode ExtTreeMap.getElem?_insert_self]
      · have hkey : recordKey id ≠ recordKey controller.id := fun heq => hid (recordKey_inj.1 heq)
        rw [recorded?, getElem?_insert_record hkey, ExtTreeMap.getElem?_insert, if_neg]
        · exact h.controllers id
        · intro heq
          exact hid (Std.LawfulEqOrd.eq_of_compare heq).symm
  · refine ⟨?_, ?_, ?_, ?_⟩
    · rw [hentries]
      exact h.readable
    · rw [hentries, hidentity]
      exact h.identifier
    · rw [hentries, hidentity]
      exact h.key
    · intro id
      unfold controller?
      rw [hcontrollers, hentries]
      exact h.controllers id

theorem Persisted.remove (h : store.Persisted) (id : String) :
    (store.remove id).2.Persisted := by
  have hidentity := store.remove_identity id
  have hcontrollers := store.remove_controllers id
  have hentries := store.remove_entries id
  generalize (store.remove id).1.removed = removed at hcontrollers hentries
  -- records are removed, and nothing else is
  have hkept : ∀ key, (∀ other, recordKey other ≠ key) →
      (store.remove id).2.storage.entries[key]? = store.storage.entries[key]? := by
    intro key hkey
    rw [hentries, getElem?_foldl_erase, if_neg]
    intro hmem
    obtain ⟨other, -, hother⟩ := List.mem_map.1 hmem
    exact hkey other hother
  refine ⟨?_, ?_, ?_, ?_⟩
  · rw [hentries]
    exact h.readable.foldl_erase _
  · rw [hkept _ recordKey_ne_identifierKey, hidentity]
    exact h.identifier
  · rw [hkept _ recordKey_ne_seedKey, hidentity]
    exact h.key
  · intro other
    have hmem : recordKey other ∈ removed.map recordKey ↔ other ∈ removed := by
      simp [recordKey_inj]
    unfold controller? recorded?
    rw [hcontrollers, hentries, getElem?_foldl_erase, getElem?_foldl_erase]
    by_cases hremoved : other ∈ removed
    · rw [if_pos hremoved, if_pos (hmem.2 hremoved), Option.bind_none]
    · rw [if_neg hremoved, if_neg fun hkey => hremoved (hmem.1 hkey)]
      exact h.controllers other

/-- Whatever is called, the store agrees with its storage. -/
theorem Persisted.callAll (h : store.Persisted) (calls : List StoreCall) :
    (store.callAll calls).Persisted := by
  induction calls generalizing store with
  | nil => exact h
  | cons call rest ih =>
    cases call with
    | add controller => exact ih (h.add controller)
    | remove id => exact ih (h.remove id)

/-! ## Restarts -/

/-- The storage was empty, and whatever is in it now was written by stores: when one was opened,
also if that failed, or by calls on one. Which calls of the storage fail may change in between. -/
inductive Written : Storage → Prop
  | empty {storage : Storage} (h : storage.entries = ∅) : Written storage
  | opened {storage : Storage} (h : Written storage) (random : Entropy) :
      Written (openOrCreate storage random).2.1
  | called {storage : Storage} {random : Entropy} {store : IdentityStore} (h : Written storage)
      (hopen : (openOrCreate storage random).1 = .ok store) (calls : List StoreCall) :
      Written (store.callAll calls).storage
  | restarted {storage after : Storage} (h : Written storage)
      (hentries : after.entries = storage.entries) : Written after

/-- Whatever a store wrote can be read. -/
theorem Written.readable (h : Written storage) : Readable storage.entries := by
  induction h with
  | empty h =>
    rw [h]
    refine ⟨?_, ?_, ?_⟩
    · simp
    · simp
    · simp
  | @opened storage _ random ih =>
    obtain ⟨-, ⟨between, hidentifier, hkey⟩, -⟩ := openOrCreate_spec storage random
    exact ih.of_fillsIn hidentifier hkey
  | called _ hopen calls ih => exact ((openOrCreate_persisted ih hopen).callAll calls).readable
  | restarted _ hentries ih =>
    rw [hentries]
    exact ih

/-- A store that is opened when nothing fails on what stores have written, by whichever calls and
failures, has the identity and the controllers of the last of them. -/
theorem reopened_agrees (hwritten : Written storage) {random : Entropy}
    (hopen : (openOrCreate storage random).1 = .ok store) (calls : List StoreCall)
    {kept : Storage} (hkept : kept.entries = (store.callAll calls).storage.entries)
    (hreliable : kept.Reliable) (random' : Entropy) :
    ∃ reopened, (openOrCreate kept random').1 = .ok reopened ∧
      reopened.identity = (store.callAll calls).identity ∧
      reopened.controllers = (store.callAll calls).controllers := by
  have hpersisted := (openOrCreate_persisted hwritten.readable hopen).callAll calls
  have hreadable : Readable kept.entries := by
    rw [hkept]
    exact hpersisted.readable
  obtain ⟨reopened, hreopened⟩ := openOrCreate_of_reliable hreliable hreadable random'
  have hagain := openOrCreate_persisted hreadable hreopened
  have hentries : reopened.storage.entries = (store.callAll calls).storage.entries := by
    obtain ⟨-, -, hok⟩ := openOrCreate_spec kept random'
    -- the identity is there already, so opening adds nothing
    have hstored : identifierKey ∈ kept.entries ∧ seedKey ∈ kept.entries := by
      rw [hkept]
      exact ⟨hpersisted.identifierKey_mem, hpersisted.seedKey_mem⟩
    have hadds := openOrCreate_entries hstored.1 hstored.2 random'
    rw [(hok reopened hreopened).1, hadds, hkept]
  exact ⟨reopened, hreopened, hpersisted.agree hagain hentries⟩

/-- A storage whose third write fails, and its first removal. -/
def flaky : Storage where
  fails kind number := kind == .set && number == 3 || kind == .delete && number == 1

/-- A controller that is not stored at first, another one, and a removal that fails. -/
def flakyCalls : List StoreCall :=
  [.add ⟨"a", .replicate 32 1, .admin⟩, .add ⟨"a", .replicate 32 1, .admin⟩,
    .add ⟨"\"é\"", .replicate 32 2, .regular⟩, .remove "a", .remove "a"]

theorem reopened_agrees_flaky :
    ∃ store, Written flaky ∧ (openOrCreate flaky (.constant 7)).1 = .ok store ∧
      ∃ kept : Storage, kept.entries = (store.callAll flakyCalls).storage.entries ∧
        kept.Reliable ∧
        ∃ reopened, (openOrCreate kept (.constant 8)).1 = .ok reopened ∧
          reopened.identity = (store.callAll flakyCalls).identity ∧
          reopened.controllers = (store.callAll flakyCalls).controllers := by
  have hsome : (openOrCreate flaky (.constant 7)).1.toOption.isSome = true := by decide +kernel
  obtain ⟨store, hstore⟩ := Option.isSome_iff_exists.1 hsome
  have hopen := toOption_eq_some_iff.1 hstore
  have hwritten : Written flaky := .empty rfl
  let kept : Storage := { entries := (store.callAll flakyCalls).storage.entries }
  have hkept : kept.entries = (store.callAll flakyCalls).storage.entries := rfl
  have hreliable : kept.Reliable := fun _ _ => rfl
  exact ⟨store, hwritten, hopen, kept, hkept, hreliable,
    reopened_agrees hwritten hopen flakyCalls hkept hreliable (.constant 8)⟩

end IdentityStore

end HomeKit
