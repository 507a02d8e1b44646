import HomeKit.Proofs.Pairing.Persistence

/-!
# Removals that are interrupted

A removal takes down one controller after another: first the one that is asked for, and with the
last admin all others in ascending order (`GoAlong`). It ends at the first record that cannot be
erased. Up to there everything agrees: what is reported, the table, the storage and the events
(`RemovedInTurn`), so that a removal whose first record cannot be erased changes nothing
(`remove_interrupted`).
-/

namespace HomeKit.IdentityStore

open Std (ExtTreeMap)

variable {store after : IdentityStore} {id other : String} {ids removed : List String}

/-! ## Who is to go -/

/-- Those who go along with a controller: nobody if another admin is paired, and else everybody
else, in ascending order. -/
structure GoAlong (store : IdentityStore) (id : String) (others : List String) : Prop where
  ascending : others.Pairwise (· < ·)
  mem_iff : ∀ other, other ∈ others ↔ other ≠ id ∧ (store.controller? other).isSome = true ∧
    ∀ admin, store.isAdmin admin = true → admin = id

theorem pairwise_keys {β : Type} (table : ExtTreeMap String β) :
    table.keys.Pairwise (· < ·) := by
  have hordered : table.keys.Pairwise fun a b => compare a b = .lt := ExtTreeMap.ordered_keys
  exact hordered.imp fun h => compareOfLessAndEq_eq_lt.1 h

/-- The one that is asked for goes first, and then those who go along. -/
theorem exists_goAlong (hkeyed : KeyedById store.controllers) (id : String) :
    ∃ others, store.GoAlong id others ∧ store.doomed id = id :: others := by
  by_cases hlast : ∀ admin, store.isAdmin admin = true → admin = id
  · refine ⟨_, ⟨(pairwise_keys store.controllers).filter _, fun other => ?_⟩,
      doomed_of_last hkeyed hlast⟩
    simp only [List.mem_filter, ExtTreeMap.mem_keys, bne_iff_ne, controller?,
      ExtTreeMap.mem_iff_isSome_getElem?]
    constructor
    · rintro ⟨hpaired, hne⟩
      exact ⟨hne, hpaired, hlast⟩
    · rintro ⟨hne, hpaired, -⟩
      exact ⟨hpaired, hne⟩
  · have hadmin : ∃ admin, admin ≠ id ∧ store.isAdmin admin = true := by
      simpa [and_comm] using hlast
    obtain ⟨admin, hne, hadmin⟩ := hadmin
    refine ⟨[], ⟨.nil, fun other => iff_of_false List.not_mem_nil ?_⟩,
      doomed_of_isAdmin hkeyed hne hadmin⟩
    rintro ⟨-, -, hall⟩
    exact hlast hall

/-! ## Where it ends -/

/-- The removals that come before those that fail, if any fails: all of these take place. -/
structure EndsAtFailure (ids : List String) (storage : Storage) (removal : Removal) : Prop where
  complete : removal.removed = ids ↔ removal.error = none
  before : ∀ earlier < removal.removed.length, storage.failsDelete earlier = false
  failed : ∀ error, removal.error = some error →
    error = .io ∧ storage.failsDelete removal.removed.length = true

namespace EndsAtFailure

variable {storage later : Storage} {removal : Removal}

theorem nil (storage : Storage) : EndsAtFailure [] storage {} where
  complete := iff_of_true rfl rfl
  before earlier hearlier := absurd hearlier (Nat.not_lt_zero earlier)
  failed error herror := by cases herror

/-- A removal whose first record cannot be erased ends there. -/
theorem stopped (id : String) (rest : List String) (hfails : storage.failsDelete 0 = true) :
    EndsAtFailure (id :: rest) storage { removed := [], error := some .io } where
  complete := iff_of_false (List.cons_ne_nil id rest).symm (Option.some_ne_none _)
  before earlier hearlier := absurd hearlier (Nat.not_lt_zero earlier)
  failed error herror := by
    cases herror
    exact ⟨rfl, hfails⟩

/-- A removal whose first record is erased ends where the rest of it does. -/
theorem cons (id : String) (hfirst : storage.failsDelete 0 = false)
    (hlater : ∀ earlier, later.failsDelete earlier = storage.failsDelete (earlier + 1))
    (h : EndsAtFailure ids later removal) :
    EndsAtFailure (id :: ids) storage { removal with removed := id :: removal.removed } where
  complete := (List.cons_inj_right id).trans h.complete
  before earlier hearlier := by
    cases earlier with
    | zero => exact hfirst
    | succ earlier =>
      rw [← hlater]
      exact h.before earlier (Nat.lt_of_succ_lt_succ hearlier)
  failed error herror := by
    obtain ⟨hio, hfailed⟩ := h.failed error herror
    rw [hlater] at hfailed
    exact ⟨hio, hfailed⟩

end EndsAtFailure

theorem removeAll_endsAtFailure (ids : List String) (store : IdentityStore) :
    EndsAtFailure ids store.storage (store.removeAll ids).1 := by
  induction ids generalizing store with
  | nil => exact .nil store.storage
  | cons id rest ih =>
    have hdelete := store.storage.delete_fst_of_isKey (isKey_recordKey id)
    have hlater := store.storage.failsDelete_delete (recordKey id)
    unfold removeAll
    generalize store.storage.delete (recordKey id) = result at hdelete hlater ⊢
    obtain ⟨called, storage⟩ := result
    cases hfails : store.storage.failsDelete 0 with
    | true =>
      rw [hfails, if_pos rfl] at hdelete
      cases hdelete
      exact .stopped id rest hfails
    | false =>
      rw [hfails, if_neg Bool.false_ne_true] at hdelete
      cases hdelete
      exact .cons id hfails hlater (ih { store with
        storage
        controllers := store.controllers.erase id
        events := store.events ++ [.unpaired id] })

/-! ## What is removed -/

/-- Of those who are to go an initial part goes, up to the first whose record cannot be erased; each
of them goes once, from the table and from the storage, and is announced, and nothing else
changes. -/
structure RemovedInTurn (ids : List String) (store : IdentityStore) (removal : Removal)
    (after : IdentityStore) : Prop where
  initial : removal.removed <+: ids
  nodup : removal.removed.Nodup
  ends : EndsAtFailure ids store.storage removal
  identity : after.identity = store.identity
  controllers : ∀ other, after.controller? other =
    if other ∈ removal.removed then none else store.controller? other
  entries : ∀ key, after.storage.entries[key]? =
    if key ∈ removal.removed.map recordKey then none else store.storage.entries[key]?
  stored : store.Persisted → ∀ other ∈ removal.removed, recordKey other ∈ store.storage.entries
  events : after.events = store.events ++ removal.removed.map .unpaired

/-- A controller that is paired has a record, if the store agrees with its storage. -/
theorem Persisted.recordKey_mem (h : store.Persisted)
    (hpaired : (store.controller? id).isSome = true) : recordKey id ∈ store.storage.entries := by
  rw [h.controllers id, recorded?] at hpaired
  rw [ExtTreeMap.mem_iff_isSome_getElem?]
  cases hstored : store.storage.entries[recordKey id]? with
  | none =>
    rw [hstored] at hpaired
    cases hpaired
  | some stored => rfl

theorem EndsAtFailure.nothing {storage : Storage} {removal : Removal}
    (h : EndsAtFailure ids storage removal) (hfails : storage.failsDelete 0 = true)
    (hids : ids ≠ []) : removal = { removed := [], error := some .io } := by
  obtain ⟨removed, error⟩ := removal
  cases removed with
  | nil =>
    cases error with
    | none => exact absurd (h.complete.2 rfl) hids.symm
    | some error => rw [(h.failed error rfl).1]
  | cons first rest =>
    have hfirst := h.before 0 (Nat.succ_pos rest.length)
    rw [hfails] at hfirst
    cases hfirst

/-- A removal of a controller that is not paired changes nothing. The removal of one that is takes
down the controller and those who go along, in this order, up to the first whose record cannot be
erased: what is reported, the table, the storage and the events agree on who is gone. If the first
record cannot be erased, nothing changes. -/
theorem remove_interrupted (h : store.Reachable) (id : String) :
    (store.controller? id = none → store.remove id = ({}, store)) ∧
    ((store.controller? id).isSome = true → ∃ others, store.GoAlong id others ∧
      RemovedInTurn (id :: others) store (store.remove id).1 (store.remove id).2 ∧
      (store.storage.failsDelete 0 = true →
        (store.remove id).1 = { removed := [], error := some .io } ∧
          store.Unchanged (store.remove id).2)) := by
  have hcontains : store.controllers.contains id = (store.controller? id).isSome :=
    ExtTreeMap.contains_eq_isSome_getElem?
  constructor
  · intro hunpaired
    rw [remove, hcontains, hunpaired]
    rfl
  · intro hpaired
    obtain ⟨others, halong, hdoomed⟩ := exists_goAlong h.keyedById id
    have hremove : store.remove id = store.removeAll (id :: others) := by
      rw [remove, hcontains, hpaired, if_pos rfl, hdoomed]
    have htook := removeAll_tookOut (id :: others) store
    have hends := removeAll_endsAtFailure (id :: others) store
    rw [← hremove] at htook hends
    refine ⟨others, halong, ?_, fun hfails => ?_⟩
    · exact {
        initial := htook.initial
        nodup := store.nodup_remove_removed id
        ends := hends
        identity := htook.identity
        controllers := store.controller?_remove_eq_ite id
        entries := fun key => by rw [htook.entries, getElem?_foldl_erase]
        stored := fun hpersisted other hother =>
          hpersisted.recordKey_mem (mem_remove_removed.1 hother).1
        events := htook.events }
    · have hnothing := hends.nothing hfails (List.cons_ne_nil id others)
      exact ⟨hnothing, unchanged_of_removed_eq_nil (congrArg Removal.removed hnothing)⟩

/-- A storage whose second removal fails. -/
def refusingStorage : Storage where
  fails kind number := kind == .delete && number == 2

theorem openOrCreate_refusingStorage_isSome :
    (openOrCreate refusingStorage (.constant 7)).1.toOption.isSome = true := by
  decide +kernel

/-- A store on that storage with an admin and two others. -/
def refusingStore : IdentityStore :=
  ((openOrCreate refusingStorage (.constant 7)).1.toOption.get
    openOrCreate_refusingStorage_isSome).callAll
      [.add ⟨"b", .replicate 32 1, .regular⟩, .add ⟨"m", .replicate 32 2, .admin⟩,
        .add ⟨"", .replicate 32 3, .regular⟩]

theorem refusingStore_reachable : refusingStore.Reachable :=
  .added (.added (.added (.opened (toOption_eq_some_iff.1
    (Option.some_get openOrCreate_refusingStorage_isSome).symm)) _) _) _

/-- The admin goes, and then the others should, but the first of them does not. -/
theorem remove_interrupted_refusing :
    refusingStore.Reachable ∧ (refusingStore.controller? "m").isSome = true ∧
      (refusingStore.remove "m").1 = { removed := ["m"], error := some .io } ∧
      ∃ others, refusingStore.GoAlong "m" others ∧
        RemovedInTurn ("m" :: others) refusingStore (refusingStore.remove "m").1
          (refusingStore.remove "m").2 := by
  have hpaired : (refusingStore.controller? "m").isSome = true := by decide +kernel
  obtain ⟨others, halong, hturn, -⟩ :=
    (remove_interrupted refusingStore_reachable "m").2 hpaired
  exact ⟨refusingStore_reachable, hpaired, by decide +kernel, others, halong, hturn⟩

end HomeKit.IdentityStore
