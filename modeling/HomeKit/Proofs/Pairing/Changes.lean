import HomeKit.Proofs.Pairing.Record
import HomeKit.Proofs.Pairing.Store
import HomeKit.Proofs.Storage.Calls

/-!
# What changes of the pairings do

An addition or a removal changes the table and the stored records alike, also when the storage fails
on the way: what is reported as removed is what is erased from both (`remove_controllers`,
`remove_entries`). If the storage is reliable, a removal takes down everyone who is doomed
(`controller?_remove`).

A request to manage pairings adds one controller, removes one, or changes nothing at all
(`handlePairings_handled`, with the answers).
-/

namespace HomeKit.IdentityStore

open Std (ExtTreeMap)

variable {store : IdentityStore} {id other : String} {controller : PairedController}

/-! ## Tables -/

section Tables

variable {β : Type}

theorem values_eq_map_toList (table : ExtTreeMap String β) :
    table.values = table.toList.map (·.2) := by
  have hfoldr : table.values = table.foldr (fun _ value values => value :: values) [] := by
    rcases table with ⟨⟨table⟩⟩
    induction table using Quotient.inductionOn with
    | _ table => rfl
  rw [hfoldr, ExtTreeMap.foldr_eq_foldr_toList]
  induction table.toList with
  | nil => rfl
  | cons entry rest ih => rw [List.foldr_cons, ih, List.map_cons]

theorem mem_values_iff {table : ExtTreeMap String β} {value : β} :
    value ∈ table.values ↔ ∃ key : String, table[key]? = some value := by
  rw [values_eq_map_toList]
  simp [ExtTreeMap.mem_toList_iff_getElem?_eq_some]

theorem getElem?_foldl_erase (keys : List String) (table : ExtTreeMap String β) (key : String) :
    (keys.foldl (fun table key => table.erase key) table)[key]? =
      if key ∈ keys then none else table[key]? := by
  induction keys generalizing table with
  | nil => simp
  | cons first rest ih =>
    rw [List.foldl_cons, ih]
    simp only [ExtTreeMap.getElem?_erase, Std.LawfulEqOrd.compare_eq_iff_eq, List.mem_cons]
    by_cases hrest : key ∈ rest
    · simp [hrest]
    · by_cases hfirst : first = key
      · simp [hfirst]
      · simp [hrest, hfirst, Ne.symm hfirst]

end Tables

theorem mem_controllerList_iff :
    controller ∈ store.controllerList ↔ ∃ id, store.controller? id = some controller :=
  mem_values_iff

theorem isAdmin_iff :
    store.isAdmin id = true ↔
      ∃ controller, store.controller? id = some controller ∧ controller.isAdmin = true := by
  unfold isAdmin
  cases store.controller? id with
  | none => simp
  | some found => simp

/-- Nothing that a store holds is changed. -/
structure Unchanged (before after : IdentityStore) : Prop where
  identity : after.identity = before.identity
  controllers : after.controllers = before.controllers
  entries : after.storage.entries = before.storage.entries
  events : after.events = before.events

theorem Unchanged.refl (store : IdentityStore) : store.Unchanged store :=
  ⟨rfl, rfl, rfl, rfl⟩

/-! ## Adding -/

/-- What an addition comes to: it is refused, the record is not stored, or it is and the controller
enters the table. Only a controller that was not there before is announced. -/
inductive Addition (store : IdentityStore) (controller : PairedController) :
    Except Error Unit × IdentityStore → Prop
  | otherKey {known : PairedController} (hknown : store.controller? controller.id = some known)
      (hkey : known.publicKey ≠ controller.publicKey) :
      Addition store controller (.error (PairingError.protocol
        s!"pairing {controller.id} already exists with a different key"), store)
  | full (hunknown : store.controller? controller.id = none)
      (hsize : maxPairings ≤ store.controllers.size) :
      Addition store controller (.error PairingError.maxPeers, store)
  | notStored {error : StorageError} {storage : Storage}
      (hset : store.storage.set (recordKey controller.id) controller.encode =
        (.error error, storage)) :
      Addition store controller (.error error, { store with storage })
  | updated {known : PairedController} {storage : Storage}
      (hknown : store.controller? controller.id = some known)
      (hkey : known.publicKey = controller.publicKey)
      (hset : store.storage.set (recordKey controller.id) controller.encode = (.ok (), storage)) :
      Addition store controller (.ok (), { store with
        storage
        controllers := store.controllers.insert controller.id controller })
  | paired {storage : Storage} (hunknown : store.controller? controller.id = none)
      (hroom : store.controllers.size < maxPairings)
      (hset : store.storage.set (recordKey controller.id) controller.encode = (.ok (), storage)) :
      Addition store controller (.ok (), { store with
        storage
        controllers := store.controllers.insert controller.id controller
        events := store.events ++ [.paired controller.id] })

theorem add_addition (store : IdentityStore) (controller : PairedController) :
    Addition store controller (store.add controller) := by
  unfold add
  rcases hset : store.storage.set (recordKey controller.id) controller.encode with
    ⟨error | _, storage⟩
  · cases hknown : store.controller? controller.id with
    | none =>
      by_cases hsize : maxPairings ≤ store.controllers.size
      · simpa [hsize] using Addition.full hknown hsize
      · simpa [hsize] using Addition.notStored hset
    | some known =>
      by_cases hkey : known.publicKey = controller.publicKey
      · simpa [hkey] using Addition.notStored hset
      · simpa [hkey] using Addition.otherKey hknown hkey
  · cases hknown : store.controller? controller.id with
    | none =>
      by_cases hsize : maxPairings ≤ store.controllers.size
      · simpa [hsize] using Addition.full hknown hsize
      · simpa [hsize] using Addition.paired hknown (Nat.lt_of_not_le hsize) hset
    | some known =>
      by_cases hkey : known.publicKey = controller.publicKey
      · simpa [hkey] using Addition.updated hknown hkey hset
      · simpa [hkey] using Addition.otherKey hknown hkey

/-- A controller is added unless it is paired with another key, there is no room for another one or
its record is not stored. -/
theorem add_eq_ok_iff :
    (store.add controller).1 = .ok () ↔
      (∀ known, store.controller? controller.id = some known →
        known.publicKey = controller.publicKey) ∧
      (store.controller? controller.id = none → store.controllers.size < maxPairings) ∧
      (store.storage.set (recordKey controller.id) controller.encode).1 = .ok () := by
  have hadded := store.add_addition controller
  generalize store.add controller = result at hadded
  cases hadded with
  | otherKey hknown hkey => simp [hknown, hkey]
  | full hunknown hsize => simp [hunknown, Nat.not_lt.2 hsize]
  | notStored hset => simp [hset]
  | updated hknown hkey hset => simp [hknown, hkey, hset]
  | paired hunknown hroom hset => simp [hunknown, hroom, hset]

theorem add_storage_fails (store : IdentityStore) (controller : PairedController) :
    (store.add controller).2.storage.fails = store.storage.fails := by
  have hfails := store.storage.set_fails (recordKey controller.id) controller.encode
  have hadded := store.add_addition controller
  generalize store.add controller = result at hadded
  cases hadded with
  | otherKey | full => rfl
  | notStored hset | updated _ _ hset | paired _ _ hset =>
    rw [hset] at hfails
    exact hfails

theorem add_identity (store : IdentityStore) (controller : PairedController) :
    (store.add controller).2.identity = store.identity := by
  have hadded := store.add_addition controller
  generalize store.add controller = result at hadded
  cases hadded <;> rfl

/-- An addition that fails changes nothing. -/
theorem add_of_error {error : Error} (h : (store.add controller).1 = .error error) :
    store.Unchanged (store.add controller).2 := by
  have hadded := store.add_addition controller
  generalize store.add controller = result at hadded h
  cases hadded with
  | otherKey | full => exact .refl store
  | notStored hset =>
    refine ⟨rfl, rfl, ?_, rfl⟩
    have hentries := Storage.set_entries_of_error (congrArg Prod.fst hset)
    rw [hset] at hentries
    exact hentries
  | updated | paired => cases h

/-- A controller that is paired with the same key is stored again, if the storage is reliable. -/
theorem add_of_known (h : store.storage.Reliable) {known : PairedController}
    (hknown : store.controller? controller.id = some known)
    (hkey : known.publicKey = controller.publicKey) : (store.add controller).1 = .ok () := by
  refine add_eq_ok_iff.2 ⟨?_, ?_, h.set (isKey_recordKey controller.id) controller.encode⟩
  · intro found hfound
    rw [hknown] at hfound
    cases hfound
    exact hkey
  · intro hunknown
    rw [hknown] at hunknown
    cases hunknown

/-- A store without pairings takes any controller, if the storage is reliable. -/
theorem add_of_not_isPaired (h : store.storage.Reliable) (hunpaired : store.isPaired = false)
    (controller : PairedController) : (store.add controller).1 = .ok () := by
  have hempty := isPaired_eq_false_iff.1 hunpaired
  refine add_eq_ok_iff.2 ⟨?_, ?_, h.set (isKey_recordKey controller.id) controller.encode⟩
  · intro known hknown
    rw [controller?, hempty, ExtTreeMap.getElem?_empty] at hknown
    cases hknown
  · intro _
    rw [hempty, ExtTreeMap.size_empty]
    decide

theorem add_controllers (h : (store.add controller).1 = .ok ()) :
    (store.add controller).2.controllers =
      store.controllers.insert controller.id controller := by
  rcases store.add_cases controller with ⟨-, hcontrollers, -⟩ | ⟨⟨error, herror⟩, -⟩
  · exact hcontrollers
  · rw [herror] at h
    cases h

theorem controller?_add_self (h : (store.add controller).1 = .ok ()) :
    (store.add controller).2.controller? controller.id = some controller := by
  rw [controller?, add_controllers h, ExtTreeMap.getElem?_insert_self]

/-- The controller that is added to a store without pairings is then the only one. -/
theorem only_of_add (hadded : (store.add controller).1 = .ok ())
    (hunpaired : store.isPaired = false) :
    (store.add controller).2.controllerList = [controller] ∧
      (store.add controller).2.controller? controller.id = some controller := by
  have hcontrollers := add_controllers hadded
  rw [isPaired_eq_false_iff.1 hunpaired] at hcontrollers
  refine ⟨?_, controller?_add_self hadded⟩
  rw [controllerList, hcontrollers]
  rfl

/-- A controller that is paired with another key is not replaced. -/
theorem publicKey_eq_of_add (h : (store.add controller).1 = .ok ()) {known : PairedController}
    (hknown : store.controller? controller.id = some known) :
    known.publicKey = controller.publicKey :=
  (add_eq_ok_iff.1 h).1 known hknown

/-- An addition removes nobody. -/
theorem controller?_add_isSome (store : IdentityStore) (controller : PairedController)
    (hpaired : (store.controller? id).isSome = true) :
    ((store.add controller).2.controller? id).isSome = true := by
  rcases store.add_cases controller with ⟨-, hcontrollers, -⟩ | ⟨-, hcontrollers, -⟩
  · rw [controller?, hcontrollers, ExtTreeMap.getElem?_insert]
    split
    · rfl
    · exact hpaired
  · rw [controller?, hcontrollers]
    exact hpaired

/-! ## Removing -/

/-- What a removal comes to: an initial part of those who were to go. They go from the table and
from the storage and are announced, and nothing else changes. -/
structure TookOut (ids : List String) (store : IdentityStore) (result : Removal × IdentityStore) :
    Prop where
  initial : result.1.removed <+: ids
  identity : result.2.identity = store.identity
  storage_fails : result.2.storage.fails = store.storage.fails
  controllers : result.2.controllers =
    result.1.removed.foldl (fun table id => table.erase id) store.controllers
  entries : result.2.storage.entries =
    (result.1.removed.map recordKey).foldl (fun entries key => entries.erase key)
      store.storage.entries
  events : result.2.events = store.events ++ result.1.removed.map .unpaired

theorem removeAll_tookOut (ids : List String) (store : IdentityStore) :
    TookOut ids store (store.removeAll ids) := by
  induction ids generalizing store with
  | nil => exact ⟨List.prefix_rfl, rfl, rfl, rfl, rfl, (List.append_nil _).symm⟩
  | cons id rest ih =>
    have hfails := store.storage.delete_fails (recordKey id)
    rcases store.storage.delete_cases (recordKey id) with
      ⟨storage, hdelete, hentries⟩ | ⟨error, storage, hdelete, hentries⟩
    · rw [hdelete] at hfails
      have hstep := ih { store with
        storage
        controllers := store.controllers.erase id
        events := store.events ++ [.unpaired id] }
      simp only [removeAll, hdelete]
      refine ⟨(List.prefix_cons_inj id).2 hstep.initial, hstep.identity,
        hstep.storage_fails.trans hfails, hstep.controllers, ?_, ?_⟩
      · rw [hstep.entries, hentries]
        rfl
      · rw [hstep.events, List.append_assoc]
        rfl
    · rw [hdelete] at hfails
      simp only [removeAll, hdelete]
      exact ⟨List.nil_prefix, rfl, hfails, rfl, hentries, (List.append_nil _).symm⟩

theorem removeAll_of_reliable (h : store.storage.Reliable) (ids : List String) :
    (store.removeAll ids).1 = { removed := ids } := by
  induction ids generalizing store with
  | nil => rfl
  | cons id rest ih =>
    have hdelete := h.delete (isKey_recordKey id)
    have hfails := store.storage.delete_fails (recordKey id)
    unfold removeAll
    split
    · rename_i heq
      rw [heq] at hdelete
      cases hdelete
    · rename_i storage heq
      rw [heq] at hfails
      have hrest := @ih { store with
        storage
        controllers := store.controllers.erase id
        events := store.events ++ [.unpaired id] } (h.of_fails hfails)
      simp only [hrest]

theorem controllers_contains_of_mem_doomed (hid : store.controllers.contains id = true)
    (hother : other ∈ store.doomed id) : store.controllers.contains other = true := by
  unfold doomed at hother
  simp only at hother
  split at hother
  · rw [List.mem_singleton.1 hother]
    exact hid
  · rcases List.mem_cons.1 hother with rfl | hmem
    · exact hid
    · exact ExtTreeMap.mem_iff_contains.1 (ExtTreeMap.mem_keys.1 (List.mem_filter.1 hmem).1)

theorem nodup_doomed (store : IdentityStore) (id : String) : (store.doomed id).Nodup := by
  unfold doomed
  simp only
  split
  · exact List.pairwise_singleton _ id
  · refine List.nodup_cons.2 ⟨?_, ExtTreeMap.nodup_keys.filter _⟩
    intro hmem
    have hne := (List.mem_filter.1 hmem).2
    rw [bne_self_eq_false] at hne
    cases hne

/-- A removal is meant for controllers that are paired, for each of them once. -/
theorem remove_tookOut (store : IdentityStore) (id : String) :
    ∃ ids : List String, ids.Nodup ∧ (∀ other ∈ ids, (store.controller? other).isSome = true) ∧
      TookOut ids store (store.remove id) := by
  unfold remove
  split
  · rename_i hid
    refine ⟨store.doomed id, store.nodup_doomed id, ?_, removeAll_tookOut _ store⟩
    intro other hother
    rw [controller?, ← ExtTreeMap.contains_eq_isSome_getElem?]
    exact controllers_contains_of_mem_doomed hid hother
  · exact ⟨[], List.nodup_nil, nofun, removeAll_tookOut [] store⟩

theorem remove_identity (store : IdentityStore) (id : String) :
    (store.remove id).2.identity = store.identity := by
  obtain ⟨ids, -, -, htook⟩ := store.remove_tookOut id
  exact htook.identity

theorem remove_storage_fails (store : IdentityStore) (id : String) :
    (store.remove id).2.storage.fails = store.storage.fails := by
  obtain ⟨ids, -, -, htook⟩ := store.remove_tookOut id
  exact htook.storage_fails

theorem remove_controllers (store : IdentityStore) (id : String) :
    (store.remove id).2.controllers =
      (store.remove id).1.removed.foldl (fun table id => table.erase id) store.controllers := by
  obtain ⟨ids, -, -, htook⟩ := store.remove_tookOut id
  exact htook.controllers

theorem remove_entries (store : IdentityStore) (id : String) :
    (store.remove id).2.storage.entries =
      ((store.remove id).1.removed.map recordKey).foldl (fun entries key => entries.erase key)
        store.storage.entries := by
  obtain ⟨ids, -, -, htook⟩ := store.remove_tookOut id
  exact htook.entries

theorem remove_events (store : IdentityStore) (id : String) :
    (store.remove id).2.events =
      store.events ++ (store.remove id).1.removed.map .unpaired := by
  obtain ⟨ids, -, -, htook⟩ := store.remove_tookOut id
  exact htook.events

theorem nodup_remove_removed (store : IdentityStore) (id : String) :
    (store.remove id).1.removed.Nodup := by
  obtain ⟨ids, hnodup, -, htook⟩ := store.remove_tookOut id
  exact htook.initial.sublist.nodup hnodup

theorem controller?_remove_eq_ite (store : IdentityStore) (id other : String) :
    (store.remove id).2.controller? other =
      if other ∈ (store.remove id).1.removed then none else store.controller? other := by
  unfold controller?
  rw [remove_controllers, getElem?_foldl_erase]

/-- A removal takes out those that it says it removed, and they were paired before. -/
theorem mem_remove_removed :
    other ∈ (store.remove id).1.removed ↔
      (store.controller? other).isSome = true ∧ (store.remove id).2.controller? other = none := by
  rw [controller?_remove_eq_ite]
  constructor
  · intro hremoved
    obtain ⟨ids, -, hpaired, htook⟩ := store.remove_tookOut id
    exact ⟨hpaired other (htook.initial.subset hremoved), if_pos hremoved⟩
  · rintro ⟨hpaired, hgone⟩
    by_cases hremoved : other ∈ (store.remove id).1.removed
    · exact hremoved
    · rw [if_neg hremoved] at hgone
      rw [hgone] at hpaired
      cases hpaired

/-- A removal that does not fail takes down everyone who is doomed. -/
theorem controller?_remove (h : store.storage.Reliable) (id other : String) :
    (store.remove id).2.controller? other =
      if store.controllers.contains id = true ∧ other ∈ store.doomed id then none
      else store.controller? other := by
  rw [controller?_remove_eq_ite]
  unfold remove
  by_cases hid : store.controllers.contains id = true
  · rw [if_pos hid, removeAll_of_reliable h]
    simp only [hid, true_and]
  · rw [if_neg hid]
    simp [hid]

/-- Nobody is removed who is not doomed. -/
theorem mem_doomed_of_mem_removed (h : other ∈ (store.remove id).1.removed) :
    other ∈ store.doomed id := by
  unfold remove at h
  split at h
  · exact (removeAll_tookOut (store.doomed id) store).initial.subset h
  · exact absurd h List.not_mem_nil

/-- The one that is asked for is doomed, and goes first. -/
theorem exists_doomed_eq_cons (store : IdentityStore) (id : String) :
    ∃ rest, store.doomed id = id :: rest := by
  unfold doomed
  simp only
  split
  · exact ⟨[], rfl⟩
  · exact ⟨_, rfl⟩

/-- Nobody is removed exactly if the controller is not paired or its record cannot be erased. -/
theorem remove_removed_eq_nil_iff :
    (store.remove id).1.removed = [] ↔ store.controller? id = none ∨
      ∃ error, (store.storage.delete (recordKey id)).1 = .error error := by
  have hpaired : store.controllers.contains id = (store.controller? id).isSome :=
    ExtTreeMap.contains_eq_isSome_getElem?
  unfold remove
  rw [hpaired]
  cases store.controller? id with
  | none => simp
  | some controller =>
    obtain ⟨rest, hdoomed⟩ := store.exists_doomed_eq_cons id
    rw [Option.isSome_some, if_pos rfl, hdoomed, removeAll]
    rcases store.storage.delete_cases (recordKey id) with
      ⟨storage, hdelete, -⟩ | ⟨error, storage, hdelete, -⟩
    · simp [hdelete]
    · simp [hdelete]

/-- A removal of nobody changes nothing. -/
theorem unchanged_of_removed_eq_nil (h : (store.remove id).1.removed = []) :
    store.Unchanged (store.remove id).2 := by
  obtain ⟨ids, -, -, htook⟩ := store.remove_tookOut id
  refine ⟨htook.identity, ?_, ?_, ?_⟩
  · rw [htook.controllers, h]
    rfl
  · rw [htook.entries, h]
    rfl
  · rw [htook.events, h]
    exact List.append_nil _

/-- With another admin left, only the controller itself is doomed. -/
theorem doomed_of_isAdmin (hkeyed : KeyedById store.controllers) (hne : other ≠ id)
    (hadmin : store.isAdmin other = true) : store.doomed id = [id] := by
  obtain ⟨controller, hcontroller, hisAdmin⟩ := isAdmin_iff.1 hadmin
  have hleft : (store.controllerList.any fun c => c.id != id && c.isAdmin) = true := by
    rw [List.any_eq_true]
    refine ⟨controller, mem_controllerList_iff.2 ⟨other, hcontroller⟩, ?_⟩
    rw [hkeyed other controller hcontroller, hisAdmin]
    simpa using hne
  unfold doomed
  simp only [hleft, if_true]

/-- With the last admin, all others are doomed. -/
theorem doomed_of_last (hkeyed : KeyedById store.controllers)
    (hlast : ∀ other, store.isAdmin other = true → other = id) :
    store.doomed id = id :: store.controllers.keys.filter (· != id) := by
  have hleft : (store.controllerList.any fun c => c.id != id && c.isAdmin) = false := by
    rw [List.any_eq_false]
    intro controller hmem hleft
    rw [Bool.and_eq_true, bne_iff_ne] at hleft
    -- any other admin on the list would have to be the last one
    obtain ⟨key, hkey⟩ := mem_controllerList_iff.1 hmem
    have hid := hkeyed key controller hkey
    have hadmin := hlast key (isAdmin_iff.2 ⟨controller, hkey, hleft.2⟩)
    exact hleft.1 (hid.trans hadmin)
  unfold doomed
  simp only [hleft, Bool.false_eq_true, if_false]

theorem mem_doomed_of_last (hkeyed : KeyedById store.controllers)
    (hlast : ∀ other, store.isAdmin other = true → other = id) (other : String)
    (hother : store.controllers.contains other = true) : other ∈ store.doomed id := by
  simp only [doomed_of_last hkeyed hlast, List.mem_cons, List.mem_filter, ExtTreeMap.mem_keys,
    bne_iff_ne, ne_eq]
  by_cases heq : other = id
  · exact Or.inl heq
  · exact Or.inr ⟨ExtTreeMap.mem_iff_contains.2 hother, heq⟩

/-! ## Requests -/

/-- The request is a message with number 1. -/
def IsFirstMessage (request : Bytes) : Prop :=
  ∃ tlv, Tlv.decode request = .ok tlv ∧ tlv.state? = some 1

/-- The request asks to add this controller. -/
def AsksToAdd (request : Bytes) (controller : PairedController) : Prop :=
  ∃ tlv, Tlv.decode request = .ok tlv ∧ tlv.state? = some 1 ∧
    tlv.method? = some PairingMethod.addPairing.code ∧ addedController tlv = .ok controller

/-- The request asks to remove the controller of this identifier. -/
def AsksToRemove (request : Bytes) (id : String) : Prop :=
  ∃ tlv value, Tlv.decode request = .ok tlv ∧ tlv.state? = some 1 ∧
    tlv.method? = some PairingMethod.removePairing.code ∧ tlv.get? .identifier = some value ∧
    id = Text.lossy value

/-- The request asks to remove whom these bytes name. -/
def NamesToRemove (request name : Bytes) : Prop :=
  ∃ tlv, Tlv.decode request = .ok tlv ∧ tlv.state? = some 1 ∧
    tlv.method? = some PairingMethod.removePairing.code ∧ tlv.get? .identifier = some name

/-- The answer to a request that comes to this. -/
def answer (outcome : Except Error Tlv) (removed : List String) : PairingsResponse where
  body := match outcome with
    | .ok response => response.encode
    | .error error => (Tlv.errorResponse 2 error.code).encode
  removed := removed

/-- The answer that reports an error and nobody as removed. -/
def denial (code : TlvErrorCode) : PairingsResponse where
  body := (Tlv.errorResponse 2 code).encode

theorem answer_error (error : Error) : answer (.error error) [] = denial error.code := rfl

theorem handlePairings_eq (store : IdentityStore) (requester : Option String) (request : Bytes) :
    store.handlePairings requester request =
      (answer (store.processPairings requester request).1
          (store.processPairings requester request).2.1,
        (store.processPairings requester request).2.2) :=
  rfl

theorem ofCode_eq_ok_iff {b : UInt8} {method : PairingMethod} :
    PairingMethod.ofCode b = .ok method ↔ b = method.code := by
  constructor
  · intro h
    unfold PairingMethod.ofCode at h
    split at h
    · rename_i found hfound
      cases h
      have hcode := List.find?_some hfound
      exact (eq_of_beq hcode).symm
    · cases h
  · rintro rfl
    cases method <;> rfl

theorem code_of_ofCode {b : UInt8} {error : PairingError}
    (h : PairingMethod.ofCode b = .error error) : error.code = .unknown := by
  unfold PairingMethod.ofCode at h
  split at h
  · cases h
  · cases h
    rfl

theorem code_of_require {tlv : Tlv} {type : TlvType} {error : PairingError}
    (h : tlv.require type = .error error) : error.code = .unknown := by
  unfold Tlv.require at h
  split at h
  · cases h
  · cases h
    rfl

theorem code_of_addedController {tlv : Tlv} {error : Error}
    (h : addedController tlv = .error error) : error.code = .unknown := by
  unfold addedController addedController.required at h
  cases hid : tlv.require .identifier with
  | error missing =>
    simp only [hid, bind, Except.bind] at h
    cases h
    exact code_of_require hid
  | ok idBytes =>
    simp only [hid, bind, Except.bind] at h
    cases htext : text? idBytes with
    | none =>
      simp only [htext] at h
      cases h
      rfl
    | some id =>
      simp only [htext, pure, Except.pure] at h
      cases hkey : tlv.require .publicKey with
      | error missing =>
        simp only [hkey] at h
        cases h
        exact code_of_require hkey
      | ok keyBytes =>
        simp only [hkey] at h
        split at h
        · cases h
        · cases h
          rfl

/-- What a request to manage pairings comes to. It is looked at in this order: whether it is a first
message, whether an admin asks, and whether it says what to do. -/
inductive Handled (store : IdentityStore) (requester : Option String) (request : Bytes) :
    PairingsResponse × IdentityStore → Prop
  | notFirst (hfirst : ¬ IsFirstMessage request) :
      Handled store requester request (denial .unknown, store)
  | notAdmin (hfirst : IsFirstMessage request)
      (hrequester : requester.any store.isAdmin = false) :
      Handled store requester request (denial .authentication, store)
  | malformed (hfirst : IsFirstMessage request)
      (hrequester : requester.any store.isAdmin = true) :
      Handled store requester request (denial .unknown, store)
  | added {controller : PairedController} (hrequester : requester.any store.isAdmin = true)
      (hasks : AsksToAdd request controller) :
      Handled store requester request
        (answer ((store.add controller).1.map fun _ => done) [], (store.add controller).2)
  | removed {id : String} (hrequester : requester.any store.isAdmin = true)
      (hasks : AsksToRemove request id) :
      Handled store requester request
        (answer
            (match (store.remove id).1.error with
              | some error => .error error
              | none => .ok done)
            (store.remove id).1.removed,
          (store.remove id).2)
  | listed (hfirst : IsFirstMessage request) (hrequester : requester.any store.isAdmin = true) :
      Handled store requester request (answer (.ok store.listingResponse) [], store)

/-- The request of an admin is carried out. -/
theorem carryOut_handled {requester : Option String} {request : Bytes} {tlv : Tlv}
    (hrequester : requester.any store.isAdmin = true) (hdecode : Tlv.decode request = .ok tlv)
    (hstate : tlv.state? = some 1) :
    Handled store requester request
      (answer (store.carryOut tlv).1 (store.carryOut tlv).2.1, (store.carryOut tlv).2.2) := by
  have hfirst : IsFirstMessage request := ⟨tlv, hdecode, hstate⟩
  have hmalformed : ∀ error : Error, error.code = .unknown →
      Handled store requester request (answer (.error error) [], store) := by
    intro error hcode
    rw [answer_error, hcode]
    exact .malformed hfirst hrequester
  unfold carryOut
  cases hmethod : tlv.method? with
  | none => exact hmalformed _ rfl
  | some code =>
    simp only
    cases hcode : PairingMethod.ofCode code with
    | error error => exact hmalformed error (code_of_ofCode hcode)
    | ok method =>
      rw [ofCode_eq_ok_iff.1 hcode] at hmethod
      cases method with
      | addPairing =>
        simp only
        cases hadded : addedController tlv with
        | error error => exact hmalformed error (code_of_addedController hadded)
        | ok controller => exact .added hrequester ⟨tlv, hdecode, hstate, hmethod, hadded⟩
      | removePairing =>
        simp only
        cases hrequire : tlv.require .identifier with
        | error error => exact hmalformed error (code_of_require hrequire)
        | ok value =>
          have hvalue := Tlv.require_eq_ok_iff.1 hrequire
          exact .removed hrequester ⟨tlv, value, hdecode, hstate, hmethod, hvalue, rfl⟩
      | listPairings => exact .listed hfirst hrequester
      | pairSetup => exact hmalformed _ rfl
      | pairSetupWithAuth => exact hmalformed _ rfl
      | pairVerify => exact hmalformed _ rfl

theorem handlePairings_handled (store : IdentityStore) (requester : Option String)
    (request : Bytes) :
    Handled store requester request (store.handlePairings requester request) := by
  rw [handlePairings_eq, processPairings]
  cases hdecode : Tlv.decode request with
  | error error =>
    refine .notFirst ?_
    rintro ⟨tlv, hok, -⟩
    rw [hdecode] at hok
    cases hok
  | ok tlv =>
    by_cases hstate : tlv.state? = some 1
    · cases hrequester : requester.any store.isAdmin with
      | true =>
        simp only [hstate, if_true]
        exact carryOut_handled hrequester hdecode hstate
      | false =>
        simp only [hstate, if_true, Bool.false_eq_true, if_false]
        exact .notAdmin ⟨tlv, hdecode, hstate⟩ hrequester
    · simp only [hstate, if_false]
      refine .notFirst ?_
      rintro ⟨other, hok, hother⟩
      rw [hdecode] at hok
      cases hok
      exact hstate hother

/-- The first message of an admin is carried out. -/
theorem handlePairings_of_admin {requester : Option String} {request : Bytes} {tlv : Tlv}
    (hadmin : requester.any store.isAdmin = true) (hdecode : Tlv.decode request = .ok tlv)
    (hstate : tlv.state? = some 1) :
    store.handlePairings requester request =
      (answer (store.carryOut tlv).1 (store.carryOut tlv).2.1, (store.carryOut tlv).2.2) := by
  rw [handlePairings_eq, processPairings]
  simp only [hdecode, hstate, hadmin, if_true]

/-- The request of an admin to add a controller adds it. -/
theorem handlePairings_of_asksToAdd {requester : Option String} {request : Bytes}
    (hadmin : requester.any store.isAdmin = true) (h : AsksToAdd request controller) :
    (store.handlePairings requester request).2 = (store.add controller).2 := by
  obtain ⟨tlv, hdecode, hstate, hmethod, hadded⟩ := h
  have hcode : PairingMethod.ofCode PairingMethod.addPairing.code = .ok .addPairing :=
    ofCode_eq_ok_iff.2 rfl
  rw [handlePairings_of_admin hadmin hdecode hstate, carryOut]
  simp only [hmethod, hcode, hadded]

/-- The request of an admin to remove whom these bytes name removes the controller as which they are
read. -/
theorem handlePairings_of_namesToRemove {requester : Option String} {request name : Bytes}
    (hadmin : requester.any store.isAdmin = true) (h : NamesToRemove request name) :
    (store.handlePairings requester request).1.removed =
        (store.remove (Text.lossy name)).1.removed ∧
      (store.handlePairings requester request).2 = (store.remove (Text.lossy name)).2 := by
  obtain ⟨tlv, hdecode, hstate, hmethod, hname⟩ := h
  have hcode : PairingMethod.ofCode PairingMethod.removePairing.code = .ok .removePairing :=
    ofCode_eq_ok_iff.2 rfl
  have hrequire : tlv.require .identifier = .ok name := Tlv.require_eq_ok_iff.2 hname
  rw [handlePairings_of_admin hadmin hdecode hstate, carryOut]
  simp only [hmethod, hcode, hrequire]
  exact ⟨rfl, trivial⟩

/-- A request changes the store only if an admin asks to add or to remove a controller. -/
theorem handlePairings_cases (store : IdentityStore) (requester : Option String)
    (request : Bytes) :
    (requester.any store.isAdmin = true ∧ ∃ controller, AsksToAdd request controller ∧
        (store.handlePairings requester request).2 = (store.add controller).2) ∨
      (requester.any store.isAdmin = true ∧ ∃ id, AsksToRemove request id ∧
        (store.handlePairings requester request).2 = (store.remove id).2) ∨
      (store.handlePairings requester request).2 = store := by
  have hhandled := store.handlePairings_handled requester request
  generalize store.handlePairings requester request = result at hhandled
  cases hhandled with
  | @added controller hrequester hasks => exact .inl ⟨hrequester, controller, hasks, rfl⟩
  | @removed id hrequester hasks => exact .inr (.inl ⟨hrequester, id, hasks, rfl⟩)
  | notFirst | notAdmin | malformed | listed => exact .inr (.inr rfl)

/-- Whoever a request to manage pairings says it removed was paired before it and is not any more,
and nobody else is. -/
theorem mem_handlePairings_removed (store : IdentityStore) (requester : Option String)
    (request : Bytes) (id : String) :
    id ∈ (store.handlePairings requester request).1.removed ↔
      (store.controller? id).isSome = true ∧
        (store.handlePairings requester request).2.controller? id = none := by
  have hnobody : ∀ after : IdentityStore,
      ((store.controller? id).isSome = true → (after.controller? id).isSome = true) →
        (id ∈ ([] : List String) ↔
          (store.controller? id).isSome = true ∧ after.controller? id = none) := by
    intro after hkeeps
    refine iff_of_false List.not_mem_nil ?_
    rintro ⟨hpaired, hgone⟩
    have hkept := hkeeps hpaired
    rw [hgone] at hkept
    cases hkept
  have hhandled := store.handlePairings_handled requester request
  generalize store.handlePairings requester request = result at hhandled
  cases hhandled with
  | @added controller => exact hnobody _ (store.controller?_add_isSome controller)
  | removed => exact mem_remove_removed
  | notFirst | notAdmin | malformed | listed => exact hnobody store fun hpaired => hpaired

/-- A controller that was paired before a request to manage pairings is so after it or was
removed. -/
theorem paired_or_removed (store : IdentityStore) (requester : Option String)
    (request : Bytes) {id : String} (hpaired : (store.controller? id).isSome = true) :
    ((store.handlePairings requester request).2.controller? id).isSome = true ∨
      id ∈ (store.handlePairings requester request).1.removed := by
  rw [mem_handlePairings_removed]
  cases (store.handlePairings requester request).2.controller? id with
  | none => exact .inr ⟨hpaired, rfl⟩
  | some controller => exact .inl rfl

theorem Reachable.handlePairings {store : IdentityStore} (h : store.Reachable)
    (requester : Option String) (request : Bytes) :
    (store.handlePairings requester request).2.Reachable := by
  rcases handlePairings_cases store requester request with
    ⟨-, controller, -, hstore⟩ | ⟨-, id, -, hstore⟩ | hstore
  · rw [hstore]
    exact h.added controller
  · rw [hstore]
    exact h.removed id
  · rw [hstore]
    exact h

end HomeKit.IdentityStore
