import HomeKit.Proofs.Pairing.Record
import HomeKit.Proofs.Storage.Calls

/-!
# Opening a store

Opening reads the identifier, the key and the records, in this order, and stops at the first failure
(`IdentityStore.Opens`). It never changes what is stored; it adds an identifier and a key where
there is none yet (`IdentityStore.FillsIn`), also when it fails later on.
-/

namespace HomeKit.IdentityStore

open Std (ExtTreeMap)

variable {storage : Storage} {random : Entropy}

/-! ## New identifiers -/

theorem isHexDigit_toUpper (b : UInt8) :
    isHexDigit (Text.Hex.digit (b / 16)).toUpper = true ∧
      isHexDigit (Text.Hex.digit (b % 16)).toUpper = true :=
  (by decide +kernel : ∀ n : Fin 256,
    isHexDigit (Text.Hex.digit (UInt8.ofFin n / 16)).toUpper = true ∧
      isHexDigit (Text.Hex.digit (UInt8.ofFin n % 16)).toUpper = true) b.toFin

theorem hasIdentifierForm_pairs (b : UInt8) (rest : Bytes) :
    hasIdentifierForm (rest.length + 1)
      (List.intercalate [':'] ((b :: rest).map upperHex)) = true := by
  have hdigits := isHexDigit_toUpper b
  induction rest generalizing b with
  | nil => simp [upperHex, hasIdentifierForm, hdigits]
  | cons next rest ih =>
    have hrest := ih next (isHexDigit_toUpper next)
    simp only [List.map_cons] at hrest ⊢
    rw [List.intercalate_cons_cons]
    simp only [upperHex, List.cons_append, List.nil_append, List.length_cons, hasIdentifierForm,
      hdigits, Bool.true_and]
    exact hrest

/-- A new identifier is one. -/
theorem isIdentifier_formatIdentifier (b : Octets 6) :
    isIdentifier (formatIdentifier b) = true := by
  obtain ⟨bytes, hlength⟩ := b
  cases bytes with
  | nil => cases hlength
  | cons first rest =>
    have hform := hasIdentifierForm_pairs first rest
    rw [show rest.length + 1 = 6 from hlength] at hform
    unfold isIdentifier formatIdentifier
    rw [String.toList_ofList]
    exact hform

/-! ## The identifier and the key -/

section ReadOrMake

variable {α : Type} {key : String} {fault : RecordFault} {read? : Bytes → Option α}
  {write : α → Bytes} {make : Entropy → α × Entropy} {before after : ExtTreeMap String Bytes}

/-- What is stored stays, and nothing is added but a value for this key that can be read. -/
structure FillsIn (key : String) (read? : Bytes → Option α)
    (before after : ExtTreeMap String Bytes) : Prop where
  kept : ∀ other, other ≠ key ∨ other ∈ before → after[other]? = before[other]?
  readable : ∀ stored, after[key]? = some stored →
    before[key]? = some stored ∨ (read? stored).isSome = true

theorem FillsIn.refl (before : ExtTreeMap String Bytes) : FillsIn key read? before before :=
  ⟨fun _ _ => rfl, fun _ h => Or.inl h⟩

theorem FillsIn.insert (h : before[key]? = none) {value : Bytes}
    (hread : (read? value).isSome = true) :
    FillsIn key read? before (before.insert key value) := by
  refine ⟨?_, ?_⟩
  · intro other hother
    rw [ExtTreeMap.getElem?_insert, if_neg]
    intro heq
    cases Std.LawfulEqOrd.eq_of_compare heq
    rcases hother with hne | hmem
    · exact hne rfl
    · rw [ExtTreeMap.mem_iff_isSome_getElem?, h] at hmem
      cases hmem
  · intro stored hstored
    rw [ExtTreeMap.getElem?_insert_self] at hstored
    cases hstored
    exact Or.inr hread

/-- Nothing is added if there is a value. -/
theorem FillsIn.eq_of_mem (h : FillsIn key read? before after) (hmem : key ∈ before) :
    after = before := by
  refine ExtTreeMap.ext_getElem? fun other => h.kept other ?_
  by_cases heq : other = key
  · exact Or.inr (heq ▸ hmem)
  · exact Or.inl heq

/-- Reads the value of a key, or makes one and stores it. -/
def readOrMake (key : String) (fault : RecordFault) (read? : Bytes → Option α) (write : α → Bytes)
    (make : Entropy → α × Entropy) (storage : Storage) (random : Entropy) :
    Except StorageError α × Storage × Entropy :=
  match storage.get key with
  | (.error error, storage) => (.error error, storage, random)
  | (.ok (some stored), storage) =>
    match read? stored with
    | some value => (.ok value, storage, random)
    | none => (.error (.corrupt key fault), storage, random)
  | (.ok none, storage) =>
    let (value, random) := make random
    let (stored, storage) := storage.set key (write value)
    (stored.map fun _ => value, storage, random)

/-- What is read or made is in the storage afterwards, and can be read there. -/
theorem readOrMake_spec (hmake : ∀ random, read? (write (make random).1) = some (make random).1)
    (storage : Storage) (random : Entropy) :
    let result := readOrMake key fault read? write make storage random
    result.2.1.fails = storage.fails ∧ FillsIn key read? storage.entries result.2.1.entries ∧
      ∀ value, result.1 = .ok value → result.2.1.entries[key]?.bind read? = some value := by
  intro result
  have hfails := storage.get_fails key
  have hentries := storage.get_entries key
  simp only [result, readOrMake]
  rcases hget : storage.get key with ⟨outcome, got⟩
  rw [hget] at hfails hentries
  simp only at hfails hentries
  rw [← hfails, ← hentries]
  cases outcome with
  | error error => exact ⟨rfl, .refl _, nofun⟩
  | ok value =>
    have hvalue := Storage.get_eq_ok (congrArg Prod.fst hget)
    rw [← hentries] at hvalue
    cases value with
    | some stored =>
      simp only
      cases hread : read? stored with
      | none => exact ⟨rfl, .refl _, nofun⟩
      | some value =>
        refine ⟨rfl, .refl _, ?_⟩
        rintro _ ⟨⟩
        rw [← hvalue, Option.bind_some, hread]
    | none =>
      have hset := got.set_fails key (write (make random).1)
      -- a value that was made but could not be stored is lost
      rcases got.set_cases key (write (make random).1) with
        ⟨written, heq, hinsert⟩ | ⟨error, written, heq, hsame⟩
      · simp only [heq] at hset ⊢
        rw [hinsert]
        refine ⟨hset, .insert hvalue.symm (Option.isSome_of_eq_some (hmake random)), ?_⟩
        rintro _ ⟨⟩
        rw [ExtTreeMap.getElem?_insert_self, Option.bind_some, hmake]
      · simp only [heq] at hset ⊢
        rw [hsame]
        exact ⟨hset, .refl _, nofun⟩

/-- What is stored is read if it can be read, and new values are stored if the storage is
reliable. -/
theorem readOrMake_of_reliable (h : storage.Reliable) (hkey : isKey key = true)
    (hread : ∀ stored, storage.entries[key]? = some stored → (read? stored).isSome = true)
    (random : Entropy) :
    ∃ value, (readOrMake key fault read? write make storage random).1 = .ok value := by
  have hfails := storage.get_fails key
  have hgot := h.get hkey
  unfold readOrMake
  rcases hget : storage.get key with ⟨outcome, got⟩
  rw [hget] at hfails hgot
  simp only at hfails hgot
  rw [hgot]
  cases hstored : storage.entries[key]? with
  | some stored =>
    obtain ⟨value, hvalue⟩ := Option.isSome_iff_exists.1 (hread stored hstored)
    simp only [hvalue]
    exact ⟨value, rfl⟩
  | none =>
    have hset := (h.of_fails hfails).set hkey (write (make random).1)
    refine ⟨(make random).1, ?_⟩
    simp only [hset]
    rfl

end ReadOrMake

/-- The identifier that is stored here, if it is one. -/
def identifierOf? (stored : Bytes) : Option String :=
  (text? stored).filter isIdentifier

/-- The key whose seed is stored here. -/
def keyOf? (stored : Bytes) : Option SigningKey :=
  (Octets.ofBytes? 32 stored).map SigningKey.mk

/-- A new identifier. -/
def newIdentifier (random : Entropy) : String × Entropy :=
  (formatIdentifier (random.draw 6).1, (random.draw 6).2)

theorem identifierOf?_utf8 {identifier : String} (h : isIdentifier identifier = true) :
    identifierOf? (utf8 identifier) = some identifier := by
  rw [identifierOf?, text?_utf8, Option.filter_some, if_pos h]

theorem keyOf?_seed (key : SigningKey) : keyOf? key.seed.bytes = some key := by
  rw [keyOf?, Octets.ofBytes?_bytes, Option.map_some]

theorem openIdentifier_eq (storage : Storage) (random : Entropy) :
    openIdentifier storage random =
      readOrMake identifierKey .identifierForm identifierOf? utf8 newIdentifier storage random := by
  unfold openIdentifier readOrMake identifierOf?
  rcases storage.get identifierKey with ⟨_ | _ | stored, got⟩
  · rfl
  · rfl
  · simp only
    cases (text? stored).filter isIdentifier with
    | none => rfl
    | some identifier => rfl

theorem openKey_eq (storage : Storage) (random : Entropy) :
    openKey storage random =
      readOrMake seedKey .seedLength keyOf? (fun key => key.seed.bytes) SigningKey.generate
        storage random := by
  unfold openKey readOrMake keyOf?
  rcases storage.get seedKey with ⟨_ | _ | stored, got⟩
  · rfl
  · rfl
  · simp only
    cases Octets.ofBytes? 32 stored with
    | none => rfl
    | some seed => rfl

theorem openIdentifier_spec (storage : Storage) (random : Entropy) :
    let result := openIdentifier storage random
    result.2.1.fails = storage.fails ∧
      FillsIn identifierKey identifierOf? storage.entries result.2.1.entries ∧
      ∀ identifier, result.1 = .ok identifier →
        result.2.1.entries[identifierKey]?.bind identifierOf? = some identifier := by
  have hmake : ∀ random, identifierOf? (utf8 (newIdentifier random).1) =
      some (newIdentifier random).1 := by
    intro random
    exact identifierOf?_utf8 (isIdentifier_formatIdentifier _)
  rw [openIdentifier_eq]
  exact readOrMake_spec hmake storage random

theorem openKey_spec (storage : Storage) (random : Entropy) :
    let result := openKey storage random
    result.2.1.fails = storage.fails ∧ FillsIn seedKey keyOf? storage.entries result.2.1.entries ∧
      ∀ key, result.1 = .ok key → result.2.1.entries[seedKey]?.bind keyOf? = some key := by
  have hmake : ∀ random, keyOf? (SigningKey.generate random).1.seed.bytes =
      some (SigningKey.generate random).1 := by
    intro random
    exact keyOf?_seed _
  rw [openKey_eq]
  exact readOrMake_spec hmake storage random

theorem openIdentifier_of_reliable (h : storage.Reliable)
    (hread : ∀ stored, storage.entries[identifierKey]? = some stored →
      (identifierOf? stored).isSome = true) (random : Entropy) :
    ∃ identifier, (openIdentifier storage random).1 = .ok identifier := by
  rw [openIdentifier_eq]
  exact readOrMake_of_reliable h (by decide) hread random

theorem openKey_of_reliable (h : storage.Reliable)
    (hread : ∀ stored, storage.entries[seedKey]? = some stored → (keyOf? stored).isSome = true)
    (random : Entropy) : ∃ key, (openKey storage random).1 = .ok key := by
  rw [openKey_eq]
  exact readOrMake_of_reliable h (by decide) hread random

/-! ## The controllers -/

theorem readRecords_storage (keys : List String) (storage : Storage)
    (table : ExtTreeMap String PairedController) :
    (readRecords storage table keys).2.fails = storage.fails ∧
      (readRecords storage table keys).2.entries = storage.entries := by
  induction keys generalizing storage table with
  | nil => exact ⟨rfl, rfl⟩
  | cons key rest ih =>
    have hfails := storage.get_fails key
    have hentries := storage.get_entries key
    unfold readRecords
    rcases hget : storage.get key with ⟨outcome, read⟩
    rw [hget] at hfails hentries
    simp only at hfails hentries ⊢
    split
    · split
      · rename_i heq
        cases heq
        exact ⟨hfails, hentries⟩
      · rename_i heq
        cases heq
        rw [← hfails, ← hentries]
        exact ih ..
      · rename_i heq
        cases heq
        split
        · exact ⟨hfails, hentries⟩
        · rw [← hfails, ← hentries]
          exact ih ..
    · exact ih ..

theorem openControllers_storage (storage : Storage) :
    (openControllers storage).2.fails = storage.fails ∧
      (openControllers storage).2.entries = storage.entries := by
  have hfails := storage.allKeys_fails
  have hentries := storage.allKeys_entries
  unfold openControllers
  rcases hkeys : storage.allKeys with ⟨outcome, read⟩
  rw [hkeys] at hfails hentries
  cases outcome with
  | error error => exact ⟨hfails, hentries⟩
  | ok keys =>
    have hread := readRecords_storage keys read ∅
    exact ⟨hread.1.trans hfails, hread.2.trans hentries⟩

/-- What is stored can be read: an identifier, a key and records of controllers, each under the key
that goes with it. -/
structure Readable (entries : ExtTreeMap String Bytes) : Prop where
  identifier : ∀ stored, entries[identifierKey]? = some stored →
    (identifierOf? stored).isSome = true
  seed : ∀ stored, entries[seedKey]? = some stored → (keyOf? stored).isSome = true
  record : ∀ (key : String) stored, entries[key]? = some stored →
    recordPrefix.toList.isPrefixOf key.toList = true →
    ∃ controller : PairedController, key = recordKey controller.id ∧ stored = controller.encode

/-- The controller whose record is stored for an identifier. -/
def recorded? (entries : ExtTreeMap String Bytes) (id : String) : Option PairedController :=
  entries[recordKey id]?.bind fun stored => (PairedController.decode stored).toOption

theorem recorded?_of_encode {entries : ExtTreeMap String Bytes} {controller : PairedController}
    {id : String} (h : entries[recordKey id]? = some controller.encode) :
    recorded? entries id = some controller := by
  rw [recorded?, h, Option.bind_some, PairedController.decode_encode]
  rfl

/-- A record that is found stands under the key of its controller. -/
theorem Readable.recorded? {entries : ExtTreeMap String Bytes} (h : Readable entries) {id : String}
    {controller : PairedController} (hrecorded : recorded? entries id = some controller) :
    controller.id = id ∧ entries[recordKey id]? = some controller.encode := by
  rw [IdentityStore.recorded?] at hrecorded
  cases hstored : entries[recordKey id]? with
  | none =>
    rw [hstored] at hrecorded
    cases hrecorded
  | some stored =>
    obtain ⟨found, hkey, rfl⟩ := h.record _ stored hstored (isPrefixOf_recordKey id)
    rw [hstored, Option.bind_some, PairedController.decode_encode] at hrecorded
    cases hrecorded
    exact ⟨(recordKey_inj.1 hkey).symm, rfl⟩

/-- What becomes of a table while the records under some keys are read. Keys of another kind and
keys with no value are passed over. -/
inductive ReadsRecords (entries : ExtTreeMap String Bytes) : List String →
    ExtTreeMap String PairedController → ExtTreeMap String PairedController → Prop
  | done (table : ExtTreeMap String PairedController) : ReadsRecords entries [] table table
  | skipped {key : String} {rest : List String} {table read : ExtTreeMap String PairedController}
      (hskip : recordPrefix.toList.isPrefixOf key.toList = true → entries[key]? = none)
      (hrest : ReadsRecords entries rest table read) :
      ReadsRecords entries (key :: rest) table read
  | taken {key : String} {rest : List String} {table read : ExtTreeMap String PairedController}
      {stored : Bytes} {controller : PairedController}
      (hmarked : recordPrefix.toList.isPrefixOf key.toList = true) (hkey : isKey key = true)
      (hstored : entries[key]? = some stored)
      (hdecode : PairedController.decode stored = .ok controller)
      (hrest : ReadsRecords entries rest (table.insert controller.id controller) read) :
      ReadsRecords entries (key :: rest) table read

theorem readRecords_reads (keys : List String) {entries : ExtTreeMap String Bytes}
    {storage : Storage} (hentries : storage.entries = entries)
    {table read : ExtTreeMap String PairedController}
    (hread : (readRecords storage table keys).1 = .ok read) :
    ReadsRecords entries keys table read := by
  induction keys generalizing storage table with
  | nil =>
    cases hread
    exact .done _
  | cons key rest ih =>
    unfold readRecords at hread
    by_cases hmarked : recordPrefix.toList.isPrefixOf key.toList = true
    · rw [if_pos hmarked] at hread
      rcases hget : storage.get key with ⟨outcome, got⟩
      have hgot : got.entries = entries := by
        rw [← hentries, ← storage.get_entries key, hget]
      rw [hget] at hread
      cases outcome with
      | error error => cases hread
      | ok value =>
        have hvalue := Storage.get_eq_ok (congrArg Prod.fst hget)
        rw [hentries] at hvalue
        cases value with
        | none => exact .skipped (fun _ => hvalue.symm) (ih hgot hread)
        | some stored =>
          simp only at hread
          cases hdecode : PairedController.decode stored with
          | error fault =>
            rw [hdecode] at hread
            cases hread
          | ok controller =>
            rw [hdecode] at hread
            exact .taken hmarked (Storage.isKey_of_get_eq_ok (congrArg Prod.fst hget)) hvalue.symm
              hdecode (ih hgot hread)
    · rw [if_neg hmarked] at hread
      exact .skipped (fun h => absurd h hmarked) (ih hentries hread)

/-- The table that is read comes of all keys of the storage. -/
theorem openControllers_reads {read : ExtTreeMap String PairedController}
    (hread : (openControllers storage).1 = .ok read) :
    ReadsRecords storage.entries storage.entries.keys ∅ read := by
  unfold openControllers at hread
  rcases hkeys : storage.allKeys with ⟨outcome, got⟩
  have hgot : got.entries = storage.entries := by
    rw [← storage.allKeys_entries, hkeys]
  rw [hkeys] at hread
  cases outcome with
  | error error => cases hread
  | ok keys =>
    rw [Storage.allKeys_eq_ok (congrArg Prod.fst hkeys)] at hread
    exact readRecords_reads _ hgot hread

/-- While records are read, the table holds what is recorded, up to the records that are still to
come. -/
theorem ReadsRecords.getElem?_eq_recorded? {entries : ExtTreeMap String Bytes}
    (hreadable : Readable entries) {keys : List String}
    {table read : ExtTreeMap String PairedController}
    (hreads : ReadsRecords entries keys table read)
    (htable : ∀ id : String, table[id]? = recorded? entries id ∨
      table[id]? = none ∧ recordKey id ∈ keys) (id : String) :
    read[id]? = recorded? entries id := by
  induction hreads with
  | done table =>
    rcases htable id with hsame | ⟨-, hmem⟩
    · exact hsame
    · cases hmem
  | skipped hskip hrest ih =>
    refine ih fun id => ?_
    rcases htable id with hsame | ⟨hnone, hmem⟩
    · exact Or.inl hsame
    · rcases List.mem_cons.1 hmem with hfirst | hmem
      · rw [← hfirst] at hskip
        refine Or.inl ?_
        rw [hnone, IdentityStore.recorded?, hskip (isPrefixOf_recordKey id), Option.bind_none]
      · exact Or.inr ⟨hnone, hmem⟩
  | @taken key rest table read stored controller hmarked hkey hstored hdecode hrest ih =>
    obtain ⟨found, rfl, rfl⟩ := hreadable.record key stored hstored hmarked
    rw [PairedController.decode_encode] at hdecode
    cases hdecode
    refine ih fun id => ?_
    by_cases hid : id = controller.id
    · rw [hid, ExtTreeMap.getElem?_insert_self, recorded?_of_encode hstored]
      exact Or.inl rfl
    · rw [ExtTreeMap.getElem?_insert,
        if_neg fun heq => hid (Std.LawfulEqOrd.eq_of_compare heq).symm]
      rcases htable id with hsame | ⟨hnone, hmem⟩
      · exact Or.inl hsame
      · have hne : recordKey id ≠ recordKey controller.id := fun heq => hid (recordKey_inj.1 heq)
        exact Or.inr ⟨hnone, (List.mem_cons.1 hmem).resolve_left hne⟩

/-- The table that is read holds what is recorded. -/
theorem openControllers_ok (hreadable : Readable storage.entries)
    {read : ExtTreeMap String PairedController}
    (hread : (openControllers storage).1 = .ok read) (id : String) :
    read[id]? = recorded? storage.entries id := by
  refine (openControllers_reads hread).getElem?_eq_recorded? hreadable (fun id => ?_) id
  rw [ExtTreeMap.getElem?_empty]
  cases hstored : storage.entries[recordKey id]? with
  | none =>
    refine Or.inl ?_
    rw [recorded?, hstored, Option.bind_none]
  | some stored =>
    refine Or.inr ⟨rfl, ?_⟩
    rw [ExtTreeMap.mem_keys, ExtTreeMap.mem_iff_isSome_getElem?, hstored]
    rfl

/-! ## What is accepted -/

/-- What is stored is accepted by a store that is opened, whoever wrote it: an identifier and a key,
and records that can be read, under any keys that storages take. -/
structure Acceptable (entries : ExtTreeMap String Bytes) : Prop where
  identifier : ∀ stored, entries[identifierKey]? = some stored →
    (identifierOf? stored).isSome = true
  seed : ∀ stored, entries[seedKey]? = some stored → (keyOf? stored).isSome = true
  record : ∀ (key : String) stored, entries[key]? = some stored →
    recordPrefix.toList.isPrefixOf key.toList = true →
    isKey key = true ∧ ∃ controller, PairedController.decode stored = .ok controller

theorem Readable.acceptable {entries : ExtTreeMap String Bytes} (h : Readable entries) :
    Acceptable entries where
  identifier := h.identifier
  seed := h.seed
  record key stored hstored hmarked := by
    obtain ⟨controller, rfl, rfl⟩ := h.record key stored hstored hmarked
    exact ⟨isKey_recordKey controller.id, controller, PairedController.decode_encode controller⟩

theorem readRecords_of_acceptable {entries : ExtTreeMap String Bytes} (h : Acceptable entries)
    (keys : List String) (hkeys : ∀ key ∈ keys, key ∈ entries) {storage : Storage}
    (hentries : storage.entries = entries) (hreliable : storage.Reliable)
    (table : ExtTreeMap String PairedController) :
    ∃ read, (readRecords storage table keys).1 = .ok read := by
  induction keys generalizing storage table with
  | nil => exact ⟨table, rfl⟩
  | cons key rest ih =>
    have hrest := fun other hmem => hkeys other (List.mem_cons_of_mem _ hmem)
    unfold readRecords
    by_cases hmarked : recordPrefix.toList.isPrefixOf key.toList = true
    · rw [if_pos hmarked]
      -- a key that was listed is there, and what is under it can be read
      have hmem := hkeys key List.mem_cons_self
      rw [ExtTreeMap.mem_iff_isSome_getElem?] at hmem
      obtain ⟨stored, hstored⟩ := Option.isSome_iff_exists.1 hmem
      obtain ⟨hkey, controller, hdecode⟩ := h.record key stored hstored hmarked
      have hvalue := hreliable.get hkey
      rcases hget : storage.get key with ⟨outcome, got⟩
      have hgot : got.entries = entries := by
        rw [← hentries, ← storage.get_entries key, hget]
      have hfails : got.fails = storage.fails := by
        rw [← storage.get_fails key, hget]
      rw [hget, hentries, hstored] at hvalue
      cases hvalue
      simp only [hdecode]
      exact ih hrest hgot (hreliable.of_fails hfails) _
    · rw [if_neg hmarked]
      exact ih hrest hentries hreliable table

theorem openControllers_of_acceptable (h : Acceptable storage.entries)
    (hreliable : storage.Reliable) : ∃ read, (openControllers storage).1 = .ok read := by
  have hall := hreliable.allKeys
  unfold openControllers
  rcases hkeys : storage.allKeys with ⟨outcome, got⟩
  have hgot : got.entries = storage.entries := by
    rw [← storage.allKeys_entries, hkeys]
  have hfails : got.fails = storage.fails := by
    rw [← storage.allKeys_fails, hkeys]
  rw [hkeys] at hall
  cases hall
  exact readRecords_of_acceptable h _ (fun key hmem => ExtTreeMap.mem_keys.1 hmem) hgot
    (hreliable.of_fails hfails) ∅

/-! ## All of it -/

/-- How far opening gets, and with which outcome. -/
inductive Opens (storage : Storage) (random : Entropy) :
    Except StorageError IdentityStore × Storage × Entropy → Prop
  | noIdentifier {error : StorageError} {after : Storage} {random' : Entropy}
      (hidentifier : openIdentifier storage random = (.error error, after, random')) :
      Opens storage random (.error error, after, random')
  | noKey {identifier : String} {error : StorageError} {first after : Storage}
      {rest random' : Entropy}
      (hidentifier : openIdentifier storage random = (.ok identifier, first, rest))
      (hkey : openKey first rest = (.error error, after, random')) :
      Opens storage random (.error error, after, random')
  | noControllers {identifier : String} {key : SigningKey} {error : StorageError}
      {first second after : Storage} {rest random' : Entropy}
      (hidentifier : openIdentifier storage random = (.ok identifier, first, rest))
      (hkey : openKey first rest = (.ok key, second, random'))
      (hcontrollers : openControllers second = (.error error, after)) :
      Opens storage random (.error error, after, random')
  | opened {identifier : String} {key : SigningKey}
      {controllers : ExtTreeMap String PairedController} {first second after : Storage}
      {rest random' : Entropy}
      (hidentifier : openIdentifier storage random = (.ok identifier, first, rest))
      (hkey : openKey first rest = (.ok key, second, random'))
      (hcontrollers : openControllers second = (.ok controllers, after)) :
      Opens storage random
        (.ok { storage := after, identity := ⟨identifier, key⟩, controllers }, after, random')

theorem openOrCreate_opens (storage : Storage) (random : Entropy) :
    Opens storage random (openOrCreate storage random) := by
  unfold openOrCreate
  rcases hidentifier : openIdentifier storage random with ⟨identified, first, rest⟩
  cases identified with
  | error error => exact .noIdentifier hidentifier
  | ok identifier =>
    simp only
    rcases hkey : openKey first rest with ⟨keyed, second, random'⟩
    cases keyed with
    | error error => exact .noKey hidentifier hkey
    | ok key =>
      simp only
      rcases hcontrollers : openControllers second with ⟨table, after⟩
      cases table with
      | error error => exact .noControllers hidentifier hkey hcontrollers
      | ok controllers => exact .opened hidentifier hkey hcontrollers

/-- Opening adds at most an identifier and a key. The store that it gives has the identity that is
stored afterwards, and the controllers that are read from there. -/
theorem openOrCreate_spec (storage : Storage) (random : Entropy) :
    let result := openOrCreate storage random
    result.2.1.fails = storage.fails ∧
      (∃ between, FillsIn identifierKey identifierOf? storage.entries between ∧
        FillsIn seedKey keyOf? between result.2.1.entries) ∧
      ∀ store, result.1 = .ok store → store.storage = result.2.1 ∧
        store.storage.entries[identifierKey]?.bind identifierOf? = some store.identity.identifier ∧
        store.storage.entries[seedKey]?.bind keyOf? = some store.identity.key ∧
        ∃ reader, reader.entries = store.storage.entries ∧
          (openControllers reader).1 = .ok store.controllers := by
  intro result
  have hopens := openOrCreate_opens storage random
  change Opens storage random result at hopens
  generalize result = result at hopens
  cases hopens with
  | noIdentifier hidentifier =>
    have hfirst := openIdentifier_spec storage random
    rw [hidentifier] at hfirst
    exact ⟨hfirst.1, ⟨_, hfirst.2.1, .refl _⟩, nofun⟩
  | @noKey identifier error first after rest random' hidentifier hkey =>
    have hfirst := openIdentifier_spec storage random
    have hsecond := openKey_spec first rest
    rw [hidentifier] at hfirst
    rw [hkey] at hsecond
    exact ⟨hsecond.1.trans hfirst.1, ⟨_, hfirst.2.1, hsecond.2.1⟩, nofun⟩
  | @noControllers identifier key error first second after rest random' hidentifier hkey hread =>
    have hfirst := openIdentifier_spec storage random
    have hsecond := openKey_spec first rest
    have hthird := openControllers_storage second
    rw [hidentifier] at hfirst
    rw [hkey] at hsecond
    rw [hread] at hthird
    refine ⟨hthird.1.trans (hsecond.1.trans hfirst.1), ⟨_, hfirst.2.1, ?_⟩, nofun⟩
    have hentries : after.entries = second.entries := hthird.2
    exact hentries.symm ▸ hsecond.2.1
  | @opened identifier key controllers first second after rest random' hidentifier hkey hread =>
    have hfirst := openIdentifier_spec storage random
    have hsecond := openKey_spec first rest
    have hthird := openControllers_storage second
    rw [hidentifier] at hfirst
    rw [hkey] at hsecond
    rw [hread] at hthird
    have hentries : after.entries = second.entries := hthird.2
    refine ⟨hthird.1.trans (hsecond.1.trans hfirst.1), ⟨_, hfirst.2.1, ?_⟩, ?_⟩
    · exact hentries.symm ▸ hsecond.2.1
    · rintro _ ⟨⟩
      refine ⟨rfl, ?_, ?_, second, hentries.symm, congrArg Prod.fst hread⟩
      · have hkept := hsecond.2.1.kept identifierKey (Or.inl (by decide))
        rw [hentries, hkept]
        exact hfirst.2.2 identifier rfl
      · rw [hentries]
        exact hsecond.2.2 key rfl

/-- Records are neither added nor changed. -/
theorem FillsIn.getElem?_record {before between after : ExtTreeMap String Bytes}
    (hidentifier : FillsIn identifierKey identifierOf? before between)
    (hkey : FillsIn seedKey keyOf? between after) {key : String}
    (hmarked : recordPrefix.toList.isPrefixOf key.toList = true) : after[key]? = before[key]? := by
  have hne : key ≠ seedKey := by
    rintro rfl
    exact absurd hmarked (by decide)
  have hne' : key ≠ identifierKey := by
    rintro rfl
    exact absurd hmarked (by decide)
  rw [hkey.kept key (Or.inl hne), hidentifier.kept key (Or.inl hne')]

theorem Acceptable.of_fillsIn {before between after : ExtTreeMap String Bytes}
    (h : Acceptable before) (hidentifier : FillsIn identifierKey identifierOf? before between)
    (hkey : FillsIn seedKey keyOf? between after) : Acceptable after := by
  refine ⟨?_, ?_, ?_⟩
  · intro stored hstored
    rw [hkey.kept _ (Or.inl (by decide))] at hstored
    rcases hidentifier.readable stored hstored with hbefore | hreads
    · exact h.identifier stored hbefore
    · exact hreads
  · intro stored hstored
    rcases hkey.readable stored hstored with hbetween | hreads
    · rw [hidentifier.kept _ (Or.inl (by decide))] at hbetween
      exact h.seed stored hbetween
    · exact hreads
  · intro key stored hstored hmarked
    rw [hidentifier.getElem?_record hkey hmarked] at hstored
    exact h.record key stored hstored hmarked

theorem Readable.of_fillsIn {before between after : ExtTreeMap String Bytes} (h : Readable before)
    (hidentifier : FillsIn identifierKey identifierOf? before between)
    (hkey : FillsIn seedKey keyOf? between after) : Readable after where
  identifier := (h.acceptable.of_fillsIn hidentifier hkey).identifier
  seed := (h.acceptable.of_fillsIn hidentifier hkey).seed
  record key stored hstored hmarked := by
    rw [hidentifier.getElem?_record hkey hmarked] at hstored
    exact h.record key stored hstored hmarked

/-- If there are an identifier and a key, nothing is added. -/
theorem openOrCreate_entries (hidentifier : identifierKey ∈ storage.entries)
    (hkey : seedKey ∈ storage.entries) (random : Entropy) :
    (openOrCreate storage random).2.1.entries = storage.entries := by
  obtain ⟨-, ⟨between, hfirst, hsecond⟩, -⟩ := openOrCreate_spec storage random
  cases hfirst.eq_of_mem hidentifier
  exact hsecond.eq_of_mem hkey

/-- Opening succeeds if nothing fails and what is stored is acceptable. -/
theorem openOrCreate_of_acceptable (hreliable : storage.Reliable)
    (h : Acceptable storage.entries) (random : Entropy) :
    ∃ store, (openOrCreate storage random).1 = .ok store := by
  obtain ⟨identifier, hidentifier⟩ := openIdentifier_of_reliable hreliable h.identifier random
  have hfirst := openIdentifier_spec storage random
  unfold openOrCreate
  rcases hopen : openIdentifier storage random with ⟨identified, first, rest⟩
  rw [hopen] at hidentifier hfirst
  cases hidentifier
  have hfirstReliable := hreliable.of_fails hfirst.1
  have hfirstAcceptable := h.of_fillsIn hfirst.2.1 (.refl _)
  obtain ⟨key, hkey⟩ := openKey_of_reliable hfirstReliable hfirstAcceptable.seed rest
  have hsecond := openKey_spec first rest
  simp only
  rcases hopenKey : openKey first rest with ⟨keyed, second, random'⟩
  rw [hopenKey] at hkey hsecond
  cases hkey
  have hsecondAcceptable := hfirstAcceptable.of_fillsIn (.refl _) hsecond.2.1
  obtain ⟨controllers, hcontrollers⟩ :=
    openControllers_of_acceptable hsecondAcceptable (hfirstReliable.of_fails hsecond.1)
  simp only [hcontrollers]
  exact ⟨_, rfl⟩

/-- Opening succeeds if nothing fails and what is stored can be read. -/
theorem openOrCreate_of_reliable (hreliable : storage.Reliable)
    (hreadable : Readable storage.entries) (random : Entropy) :
    ∃ store, (openOrCreate storage random).1 = .ok store :=
  openOrCreate_of_acceptable hreliable hreadable.acceptable random

end HomeKit.IdentityStore
