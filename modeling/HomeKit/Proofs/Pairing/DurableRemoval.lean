import HomeKit.Proofs.Pairing.InterruptedRemoval

/-!
# Removals that last

A store that is opened takes the records of a storage by what they say, under whichever keys
somebody wrote them (`isSome_controller?_of_open`), but a removal erases records by the keys that it
makes of identifiers. So the next store has forgotten those who were removed exactly if each of
their records stood under one of these keys (`removal_lasts_iff`). It has if every record stands
under the key of its own controller, as stores write them.
-/

namespace HomeKit.IdentityStore

open Std (ExtTreeMap)

variable {storage kept : Storage} {store : IdentityStore} {random : Entropy} {key id other : String}
  {entries before after : ExtTreeMap String Bytes} {keys : List String}
  {table read : ExtTreeMap String PairedController}

/-! ## Who is on record -/

/-- The record under a key is of the controller with this identifier. -/
structure OnRecord (entries : ExtTreeMap String Bytes) (key id : String) : Prop where
  marked : recordPrefix.toList.isPrefixOf key.toList = true
  named : ∃ stored controller, entries[key]? = some stored ∧
    PairedController.decode stored = .ok controller ∧ controller.id = id

theorem onRecord_congr (h : recordPrefix.toList.isPrefixOf key.toList = true →
    after[key]? = before[key]?) : OnRecord after key id ↔ OnRecord before key id := by
  constructor
  · intro hrecord
    refine ⟨hrecord.marked, ?_⟩
    rw [← h hrecord.marked]
    exact hrecord.named
  · intro hrecord
    refine ⟨hrecord.marked, ?_⟩
    rw [h hrecord.marked]
    exact hrecord.named

/-- The table that is read has those who were in it before and those who are on record. -/
theorem ReadsRecords.isSome_getElem?_iff (h : ReadsRecords entries keys table read) (id : String) :
    read[id]?.isSome = true ↔
      table[id]?.isSome = true ∨ ∃ key ∈ keys, OnRecord entries key id := by
  induction h with
  | done table => simp
  | @skipped key rest table read hskip _ ih =>
    have hnone : ¬ OnRecord entries key id := by
      rintro ⟨hmarked, stored, controller, hstored, -⟩
      rw [hskip hmarked] at hstored
      cases hstored
    rw [ih]
    simp [hnone]
  | @taken key rest table read stored controller hmarked _ hstored hdecode _ ih =>
    have hfirst : OnRecord entries key id ↔ controller.id = id := by
      constructor
      · rintro ⟨-, stored', controller', hstored', hdecode', hid⟩
        rw [hstored] at hstored'
        cases hstored'
        rw [hdecode] at hdecode'
        cases hdecode'
        exact hid
      · intro hid
        exact ⟨hmarked, stored, controller, hstored, hdecode, hid⟩
    rw [ih, ExtTreeMap.getElem?_insert]
    by_cases hid : controller.id = id
    · simp [hfirst, hid]
    · simp [hfirst, hid]

/-- Records that are read are acceptable, and so are their keys. -/
theorem ReadsRecords.acceptable (h : ReadsRecords entries keys table read) (hmem : key ∈ keys)
    (hmarked : recordPrefix.toList.isPrefixOf key.toList = true) {stored : Bytes}
    (hstored : entries[key]? = some stored) :
    isKey key = true ∧ ∃ controller, PairedController.decode stored = .ok controller := by
  induction h with
  | done table => cases hmem
  | skipped hskip _ ih =>
    rcases List.mem_cons.1 hmem with rfl | hmem
    · rw [hskip hmarked] at hstored
      cases hstored
    · exact ih hmem
  | taken _ hkey hstored' hdecode _ ih =>
    rcases List.mem_cons.1 hmem with rfl | hmem
    · rw [hstored'] at hstored
      cases hstored
      exact ⟨hkey, _, hdecode⟩
    · exact ih hmem

/-! ## Stores on any storage -/

/-- What a store accepted is acceptable. -/
theorem acceptable_of_open (hopen : (openOrCreate storage random).1 = .ok store) :
    Acceptable store.storage.entries := by
  obtain ⟨-, -, hok⟩ := openOrCreate_spec storage random
  obtain ⟨-, hidentifier, hseed, reader, hreader, hread⟩ := hok store hopen
  refine ⟨?_, ?_, ?_⟩
  · intro stored hstored
    rw [hstored, Option.bind_some] at hidentifier
    exact Option.isSome_of_eq_some hidentifier
  · intro stored hstored
    rw [hstored, Option.bind_some] at hseed
    exact Option.isSome_of_eq_some hseed
  · intro key stored hstored hmarked
    rw [← hreader] at hstored
    refine (openControllers_reads hread).acceptable ?_ hmarked hstored
    rw [ExtTreeMap.mem_keys, ExtTreeMap.mem_iff_isSome_getElem?, hstored]
    rfl

/-- Opening puts nobody on record, and strikes nobody off. -/
theorem onRecord_of_open (hopen : (openOrCreate storage random).1 = .ok store) :
    OnRecord store.storage.entries key id ↔ OnRecord storage.entries key id := by
  obtain ⟨-, ⟨between, hidentifier, hkey⟩, hok⟩ := openOrCreate_spec storage random
  rw [(hok store hopen).1]
  exact onRecord_congr fun hmarked => hidentifier.getElem?_record hkey hmarked

/-- Those are paired with a store that was just opened who are on record in its storage. -/
theorem isSome_controller?_of_open (hopen : (openOrCreate storage random).1 = .ok store)
    (id : String) :
    (store.controller? id).isSome = true ↔ ∃ key, OnRecord storage.entries key id := by
  obtain ⟨-, -, hok⟩ := openOrCreate_spec storage random
  obtain ⟨-, -, -, reader, hreader, hread⟩ := hok store hopen
  have hreads := (openControllers_reads hread).isSome_getElem?_iff id
  rw [hreader] at hreads
  rw [controller?, hreads]
  constructor
  · rintro (hnone | ⟨key, -, hrecord⟩)
    · rw [ExtTreeMap.getElem?_empty] at hnone
      cases hnone
    · exact ⟨key, (onRecord_of_open hopen).1 hrecord⟩
  · rintro ⟨key, hrecord⟩
    have hrecord' := (onRecord_of_open hopen).2 hrecord
    obtain ⟨stored, controller, hstored, -⟩ := hrecord'.named
    refine Or.inr ⟨key, ?_, hrecord'⟩
    rw [ExtTreeMap.mem_keys, ExtTreeMap.mem_iff_isSome_getElem?, hstored]
    rfl

/-! ## What is left after a removal -/

/-- A removal erases the records under the keys of those who are removed, whosever they are. -/
theorem onRecord_remove (hkept : kept.entries = (store.remove id).2.storage.entries) :
    OnRecord kept.entries key other ↔
      OnRecord store.storage.entries key other ∧
        key ∉ (store.remove id).1.removed.map recordKey := by
  have hentry : kept.entries[key]? =
      if key ∈ (store.remove id).1.removed.map recordKey then none
      else store.storage.entries[key]? := by
    rw [hkept, remove_entries, getElem?_foldl_erase]
  by_cases herased : key ∈ (store.remove id).1.removed.map recordKey
  · rw [if_pos herased] at hentry
    refine iff_of_false ?_ fun h => h.2 herased
    rintro ⟨-, stored, controller, hstored, -⟩
    rw [hentry] at hstored
    cases hstored
  · rw [if_neg herased] at hentry
    rw [onRecord_congr fun _ => hentry]
    exact (and_iff_left herased).symm

theorem Acceptable.remove (h : Acceptable store.storage.entries)
    (hkept : kept.entries = (store.remove id).2.storage.entries) : Acceptable kept.entries := by
  have hsub : ∀ (key : String) stored, kept.entries[key]? = some stored →
      store.storage.entries[key]? = some stored := by
    intro key stored hstored
    rw [hkept, remove_entries, getElem?_foldl_erase] at hstored
    split at hstored
    · cases hstored
    · exact hstored
  exact {
    identifier := fun stored hstored => h.identifier stored (hsub _ _ hstored)
    seed := fun stored hstored => h.seed stored (hsub _ _ hstored)
    record := fun key stored hstored => h.record key stored (hsub _ _ hstored) }

/-- A removal that does not fail removes the controller it is asked for, if that is paired. -/
theorem mem_removed_of_paired (hdone : (store.remove id).1.error = none)
    (hpaired : (store.controller? id).isSome = true) : id ∈ (store.remove id).1.removed := by
  have hcontains : store.controllers.contains id = true := by
    rw [ExtTreeMap.contains_eq_isSome_getElem?]
    exact hpaired
  rw [remove, if_pos hcontains] at hdone ⊢
  obtain ⟨rest, hdoomed⟩ := store.exists_doomed_eq_cons id
  rw [(removeAll_endsAtFailure (store.doomed id) store).complete.2 hdone, hdoomed]
  exact List.mem_cons_self

/-! ## The next store -/

/-- A store accepts any storage with acceptable records. After a removal that did not fail, a store
on what is left of the storage opens (if nothing fails), and it knows neither the controller that
was to be removed nor any that was removed exactly if each record of these stood under the key of
one of them. -/
theorem removal_lasts_iff (hopen : (openOrCreate storage random).1 = .ok store) (id : String)
    (hdone : (store.remove id).1.error = none)
    (hkept : kept.entries = (store.remove id).2.storage.entries) (random' : Entropy) :
    (kept.Reliable → ∃ reopened, (openOrCreate kept random').1 = .ok reopened) ∧
      ∀ reopened, (openOrCreate kept random').1 = .ok reopened →
        ((∀ other, other = id ∨ other ∈ (store.remove id).1.removed →
            reopened.controller? other = none) ↔
          ∀ key, ∀ other ∈ (store.remove id).1.removed, OnRecord storage.entries key other →
            key ∈ (store.remove id).1.removed.map recordKey) := by
  have hacceptable := (acceptable_of_open hopen).remove hkept
  refine ⟨fun hreliable => openOrCreate_of_acceptable hreliable hacceptable random', ?_⟩
  intro reopened hreopened
  have hknown : ∀ other, (reopened.controller? other).isSome = true ↔
      ∃ key, OnRecord storage.entries key other ∧
        key ∉ (store.remove id).1.removed.map recordKey := by
    intro other
    rw [isSome_controller?_of_open hreopened]
    simp only [onRecord_remove hkept, onRecord_of_open hopen]
  constructor
  · intro hforgotten key other hother hrecord
    by_cases herased : key ∈ (store.remove id).1.removed.map recordKey
    · exact herased
    · have hpaired := (hknown other).2 ⟨key, hrecord, herased⟩
      rw [hforgotten other (Or.inr hother)] at hpaired
      cases hpaired
  · intro herased other hother
    rw [← Option.not_isSome_iff_eq_none, hknown]
    rintro ⟨key, hrecord, hleft⟩
    -- whoever is on record was paired, so the removal was not in vain
    have hremoved : other ∈ (store.remove id).1.removed := by
      rcases hother with rfl | hremoved
      · exact mem_removed_of_paired hdone
          ((isSome_controller?_of_open hopen other).2 ⟨key, hrecord⟩)
      · exact hremoved
    exact hleft (herased key other hremoved hrecord)

/-- A storage on which somebody wrote the key of a record in upper case: the record of an admin,
beside that of another controller under its own key. -/
def upperCaseStorage : Storage where
  entries := (ExtTreeMap.empty.insert "pairing.6A6F"
      (PairedController.encode ⟨"jo", .replicate 32 1, .admin⟩)).insert (recordKey "ann")
    (PairedController.encode ⟨"ann", .replicate 32 2, .regular⟩)

theorem openOrCreate_upperCaseStorage_isSome :
    (openOrCreate upperCaseStorage (.constant 7)).1.toOption.isSome = true := by
  decide +kernel

/-- The store on that storage. -/
def upperCaseStore : IdentityStore :=
  (openOrCreate upperCaseStorage (.constant 7)).1.toOption.get openOrCreate_upperCaseStorage_isSome

theorem openOrCreate_upperCaseStorage :
    (openOrCreate upperCaseStorage (.constant 7)).1 = .ok upperCaseStore :=
  toOption_eq_some_iff.1 (Option.some_get openOrCreate_upperCaseStorage_isSome).symm

/-- The removal of the last admin does not fail, and takes the other controller along. The next
store opens, and has forgotten both exactly if both were on record under their own keys. -/
theorem removal_lasts_iff_upperCase :
    (openOrCreate upperCaseStorage (.constant 7)).1 = .ok upperCaseStore ∧
      (upperCaseStore.remove "jo").1 = { removed := ["jo", "ann"] } ∧
      (upperCaseStore.remove "jo").2.storage.Reliable ∧
      ∃ reopened, (openOrCreate (upperCaseStore.remove "jo").2.storage (.constant 8)).1 =
          .ok reopened ∧
        ((∀ other, other = "jo" ∨ other ∈ ["jo", "ann"] → reopened.controller? other = none) ↔
          ∀ key, ∀ other ∈ ["jo", "ann"], OnRecord upperCaseStorage.entries key other →
            key ∈ ["jo", "ann"].map recordKey) := by
  have hremoval : (upperCaseStore.remove "jo").1 = { removed := ["jo", "ann"] } := by
    decide +kernel
  have hreliable : (upperCaseStore.remove "jo").2.storage.Reliable := by
    obtain ⟨hfails, -, hok⟩ := openOrCreate_spec upperCaseStorage (.constant 7)
    rw [← (hok _ openOrCreate_upperCaseStorage).1] at hfails
    intro kind number
    rw [remove_storage_fails, hfails]
    rfl
  have hlasts :=
    removal_lasts_iff openOrCreate_upperCaseStorage "jo" (congrArg Removal.error hremoval)
    rfl (.constant 8)
  rw [hremoval] at hlasts
  obtain ⟨reopened, hreopened⟩ := hlasts.1 hreliable
  exact ⟨openOrCreate_upperCaseStorage, hremoval, hreliable, reopened, hreopened,
    hlasts.2 reopened hreopened⟩

/-- An admin that is removed without a failure is an admin again for the next store. -/
theorem upperCase_admin_again :
    (openOrCreate upperCaseStorage (.constant 7)).1 = .ok upperCaseStore ∧
      (upperCaseStore.remove "jo").1 = { removed := ["jo", "ann"] } ∧
      (((openOrCreate (upperCaseStore.remove "jo").2.storage (.constant 8)).1.toOption.map
        fun reopened => reopened.isAdmin "jo") = some true) :=
  ⟨openOrCreate_upperCaseStorage, by decide +kernel, by decide +kernel⟩

end HomeKit.IdentityStore
