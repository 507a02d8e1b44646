import HomeKit.Proofs.Storage.Calls
import HomeKit.Storage.Directory

/-!
# A directory in use as a map

Values and temporary files share the names of one directory, which may list its entries in any
order, and a process may end at any point of writing a value. Still a directory that starts empty
and is used for nothing else answers as a map from keys to values does, in which the writes that
were cut off were never begun (`Directory.answers_eq_map`).

The reason is that the name of a temporary file is no key (`Directory.isKey_temporary`): whatever is
left under it is never read, listed or removed, and the next write of that key replaces it.
-/

namespace HomeKit

open Std (ExtTreeMap)

/-- What is asked of a storage. -/
inductive StorageRequest where
  | get (key : String)
  | set (key : String) (value : Bytes)
  | delete (key : String)
  | allKeys
  deriving DecidableEq

inductive StorageAnswer where
  | value (outcome : Except StorageError (Option Bytes))
  | done (outcome : Except StorageError Unit)
  | keys (outcome : Except StorageError (List String))

/-- An order in which a directory may list its entries. -/
structure Listing where
  order : List (String × DirectoryEntry) → List (String × DirectoryEntry)
  perm : ∀ entries, (order entries).Perm entries

/-- What happens to a directory. -/
inductive DirectoryEvent where
  | get (key : String)
  | set (key : String) (value : Bytes)
  | delete (key : String)
  | allKeys (listing : Listing)
  /-- A value is to be set, and the process ends before the temporary file is renamed, when it has
  `written` bytes or is complete. The next process opens the directory as it was left. -/
  | cutOff (key : String) (value : Bytes) (written : Nat)

/-- The request that is answered. -/
def DirectoryEvent.request? : DirectoryEvent → Option StorageRequest
  | get key => some (.get key)
  | set key value => some (.set key value)
  | delete key => some (.delete key)
  | allKeys _ => some .allKeys
  | cutOff .. => none

namespace Storage

/-- The answer to a request, and the storage after it. -/
def serve (storage : Storage) : StorageRequest → StorageAnswer × Storage
  | .get key => (storage.get key).map .value id
  | .set key value => (storage.set key value).map .done id
  | .delete key => (storage.delete key).map .done id
  | .allKeys => storage.allKeys.map .keys id

/-- The answers to requests that are made one after another. -/
def answers (storage : Storage) : List StorageRequest → List StorageAnswer
  | [] => []
  | request :: rest => (storage.serve request).1 :: answers (storage.serve request).2 rest

end Storage

namespace Directory

variable {dir : Directory} {storage : Storage} {key : String}

/-- What is left of a write that ends before the renaming. -/
def cutOff (dir : Directory) (key : String) (value : Bytes) (written : Nat) : Directory :=
  match (requireKey key).bind fun _ => dir.write (temporary key) (value.take written) with
  | .ok left => left
  | .error _ => dir

/-- The answer, unless the process ended, and the directory after the event. -/
def serve (dir : Directory) : DirectoryEvent → Option StorageAnswer × Directory
  | .get key => (some (.value (dir.get key)), dir)
  | .set key value => (dir.set key value).map (some ∘ .done) id
  | .delete key => (dir.delete key).map (some ∘ .done) id
  | .allKeys listing => (some (.keys (.ok (keysAmong (listing.order dir.entries.toList)))), dir)
  | .cutOff key value written => (none, dir.cutOff key value written)

/-- The answers that are given while things happen one after another. -/
def answers (dir : Directory) : List DirectoryEvent → List StorageAnswer
  | [] => []
  | event :: rest => (dir.serve event).1.toList ++ answers (dir.serve event).2 rest

/-! ## Listing -/

theorem keysAmong_pairwise (listed : List (String × DirectoryEntry)) :
    (keysAmong listed).Pairwise (· ≤ ·) := by
  have hsorted : (keysAmong listed).Pairwise fun a b => decide (a ≤ b) = true := by
    refine List.pairwise_mergeSort ?_ ?_ _
    · intro a b c hab hbc
      exact decide_eq_true (String.le_trans (of_decide_eq_true hab) (of_decide_eq_true hbc))
    · intro a b
      simpa using String.le_total a b
  exact hsorted.imp fun h => of_decide_eq_true h

theorem keysAmong_perm (listed : List (String × DirectoryEntry)) :
    (keysAmong listed).Perm ((listed.filter isRecord).map (·.1)) :=
  List.mergeSort_perm _ _

/-- The order in which the entries are listed does not matter. -/
theorem keysAmong_listing (listing : Listing) (dir : Directory) :
    keysAmong (listing.order dir.entries.toList) = dir.allKeys := by
  refine List.Perm.eq_of_pairwise (fun _ _ _ _ => String.le_antisymm)
    (keysAmong_pairwise _) (keysAmong_pairwise _) ?_
  have hperm := ((listing.perm dir.entries.toList).filter isRecord).map Prod.fst
  exact (keysAmong_perm _).trans (hperm.trans (keysAmong_perm _).symm)

theorem nodup_allKeys (dir : Directory) : dir.allKeys.Nodup := by
  have hsub := (dir.entries.toList.filter_sublist (p := isRecord)).map Prod.fst
  rw [ExtTreeMap.map_fst_toList_eq_keys] at hsub
  exact (keysAmong_perm _).nodup_iff.2 (hsub.nodup ExtTreeMap.nodup_keys)

theorem mem_allKeys_iff :
    key ∈ dir.allKeys ↔
      isKey key = true ∧ ∃ content, dir.entries[key]? = some (.file content) := by
  rw [allKeys, (keysAmong_perm _).mem_iff]
  constructor
  · intro hmem
    obtain ⟨⟨name, entry⟩, hentry, rfl⟩ := List.mem_map.1 hmem
    obtain ⟨hlisted, hrecord⟩ := List.mem_filter.1 hentry
    cases entry with
    | file content => exact ⟨hrecord, content, ExtTreeMap.mem_toList_iff_getElem?_eq_some.1 hlisted⟩
    | directory => cases hrecord
  · rintro ⟨hkey, content, hcontent⟩
    refine List.mem_map.2 ⟨(key, .file content), List.mem_filter.2 ⟨?_, hkey⟩, rfl⟩
    exact ExtTreeMap.mem_toList_iff_getElem?_eq_some.2 hcontent

/-! ## Files -/

/-- None of the entries is a directory. -/
def AllFiles (entries : ExtTreeMap String DirectoryEntry) : Prop :=
  ∀ name : String, entries[name]? ≠ some .directory

theorem AllFiles.insert {entries : ExtTreeMap String DirectoryEntry} (h : AllFiles entries)
    (name : String) (content : Bytes) : AllFiles (entries.insert name (.file content)) := by
  intro other
  rw [ExtTreeMap.getElem?_insert]
  split
  · nofun
  · exact h other

theorem AllFiles.erase {entries : ExtTreeMap String DirectoryEntry} (h : AllFiles entries)
    (name : String) : AllFiles (entries.erase name) := by
  intro other
  rw [ExtTreeMap.getElem?_erase]
  split
  · nofun
  · exact h other

/-! ## Agreement with a map -/

/-- A name that a temporary file has is no key. -/
theorem isKey_temporary (key : String) : isKey (temporary key) = false := by
  have hhead : (temporary key).toList.head? = some '.' := by
    simp [temporary, String.toList_append]
  simp [isKey, hhead]

theorem temporary_ne (hkey : isKey key = true) (other : String) : temporary other ≠ key := by
  rintro rfl
  rw [isKey_temporary] at hkey
  cases hkey

/-- The files whose names are keys hold the values of the storage, there are no directories, and
nothing ever fails. -/
structure Mirrors (dir : Directory) (storage : Storage) : Prop where
  anyLength : dir.nameLimit = none
  allFiles : AllFiles dir.entries
  content : ∀ key : String, isKey key = true →
    dir.entries[key]? = storage.entries[key]?.map .file
  keyed : ∀ key ∈ storage.entries, isKey key = true
  reliable : storage.Reliable

theorem empty_mirrors : Mirrors { nameLimit := none } {} := by
  refine ⟨rfl, ?_, ?_, ?_, fun _ _ => rfl⟩
  · intro name h
    rw [ExtTreeMap.getElem?_empty] at h
    cases h
  · intro key _
    rw [ExtTreeMap.getElem?_empty, ExtTreeMap.getElem?_empty]
    rfl
  · intro key hmem
    exact absurd hmem ExtTreeMap.not_mem_empty

/-- Only the entries of the storage matter, and that nothing fails. -/
theorem Mirrors.of_storage {after : Storage} (h : Mirrors dir storage)
    (hentries : after.entries = storage.entries) (hfails : after.fails = storage.fails) :
    Mirrors dir after := by
  refine ⟨h.anyLength, h.allFiles, ?_, ?_, h.reliable.of_fails hfails⟩
  · rw [hentries]
    exact h.content
  · rw [hentries]
    exact h.keyed

theorem Mirrors.isName (h : Mirrors dir storage) (name : String) : dir.isName name = true := by
  rw [Directory.isName, h.anyLength]
  rfl

/-! ## One call -/

theorem requireKey_of_not_isKey (hkey : ¬ isKey key = true) :
    requireKey key = .error (.invalidKey key) :=
  if_neg hkey

theorem Mirrors.get (h : Mirrors dir storage) (key : String) :
    dir.get key = (storage.get key).1 := by
  unfold Directory.get
  by_cases hkey : isKey key = true
  · have hcontent := h.content key hkey
    rw [h.reliable.get hkey, Storage.requireKey_of_isKey hkey, h.isName key]
    cases hstored : storage.entries[key]? with
    | none =>
      rw [hstored] at hcontent
      rw [hcontent]
      rfl
    | some value =>
      rw [hstored] at hcontent
      rw [hcontent]
      rfl
  · rw [Storage.get_fst, h.reliable.call .get, requireKey_of_not_isKey hkey]
    rfl

/-- A file may be written under any name. -/
theorem Mirrors.write (h : Mirrors dir storage) (name : String) (value : Bytes) :
    dir.write name value = .ok { dir with entries := dir.entries.insert name (.file value) } := by
  unfold Directory.write
  rw [h.isName name]
  split
  · split
    · rename_i hdirectory
      exact absurd hdirectory (h.allFiles name)
    · rfl
  · rename_i hno
    exact absurd rfl hno

theorem Mirrors.cutOff (h : Mirrors dir storage) (key : String) (value : Bytes) (written : Nat) :
    Mirrors (dir.cutOff key value written) storage := by
  unfold Directory.cutOff
  by_cases hkey : isKey key = true
  · rw [Storage.requireKey_of_isKey hkey, Except.bind, h.write]
    refine ⟨h.anyLength, h.allFiles.insert _ _, ?_, h.keyed, h.reliable⟩
    intro other hother
    have hne : compare (temporary key) other ≠ .eq := fun heq =>
      temporary_ne hother key (Std.LawfulEqOrd.eq_of_compare heq)
    rw [ExtTreeMap.getElem?_insert, if_neg hne]
    exact h.content other hother
  · rw [requireKey_of_not_isKey hkey]
    exact h

theorem rename_of_file {name newName : String} {content : Bytes}
    (hname : dir.entries[name]? = some (.file content))
    (hnew : dir.entries[newName]? ≠ some .directory) :
    dir.rename name newName =
      .ok { dir with entries := (dir.entries.erase name).insert newName (.file content) } := by
  unfold Directory.rename
  rw [hname]
  split
  · rename_i hdirectory
    exact absurd hdirectory hnew
  · rename_i hfound _
    cases hfound
    rfl
  · rename_i hno _
    exact (hno content rfl).elim

/-- The temporary file takes the place of the value, and nothing else changes. -/
theorem Mirrors.set_eq (h : Mirrors dir storage) (hkey : isKey key = true) (value : Bytes) :
    dir.set key value =
      (.ok (), { dir with entries := ((dir.entries.insert (temporary key) (.file value)).erase
        (temporary key)).insert key (.file value) }) := by
  have hnew := (h.allFiles.insert (temporary key) value) key
  unfold Directory.set
  rw [Storage.requireKey_of_isKey hkey, Except.bind, h.write]
  simp only
  rw [rename_of_file ExtTreeMap.getElem?_insert_self hnew]

theorem Mirrors.set (h : Mirrors dir storage) (key : String) (value : Bytes) :
    (dir.set key value).1 = (storage.set key value).1 ∧
      Mirrors (dir.set key value).2 (storage.set key value).2 := by
  by_cases hkey : isKey key = true
  · have hstored := h.reliable.set hkey value
    have hentries := Storage.set_entries_of_ok hstored
    rw [h.set_eq hkey, hstored]
    refine ⟨rfl, h.anyLength, ((h.allFiles.insert _ _).erase _).insert _ _, ?_, ?_,
      h.reliable.of_fails (storage.set_fails key value)⟩
    · intro other hother
      rw [hentries, ExtTreeMap.getElem?_insert, ExtTreeMap.getElem?_insert]
      split
      · rfl
      · -- another key, which is not the temporary name either
        have hne : compare (temporary key) other ≠ .eq := fun heq =>
          temporary_ne hother key (Std.LawfulEqOrd.eq_of_compare heq)
        rw [ExtTreeMap.getElem?_erase, if_neg hne, ExtTreeMap.getElem?_insert, if_neg hne]
        exact h.content other hother
    · intro other hmem
      rw [hentries, ExtTreeMap.mem_insert] at hmem
      rcases hmem with heq | hmem
      · rw [← Std.LawfulEqOrd.eq_of_compare heq]
        exact hkey
      · exact h.keyed other hmem
  · have hrefused : (storage.set key value).1 = .error (.invalidKey key) := by
      rw [Storage.set_fst, h.reliable.call .set, requireKey_of_not_isKey hkey]
      rfl
    unfold Directory.set
    rw [requireKey_of_not_isKey hkey, hrefused]
    exact ⟨rfl, h.of_storage (Storage.set_entries_of_error hrefused) (storage.set_fails key value)⟩

theorem Mirrors.delete (h : Mirrors dir storage) (key : String) :
    (dir.delete key).1 = (storage.delete key).1 ∧
      Mirrors (dir.delete key).2 (storage.delete key).2 := by
  unfold Directory.delete
  by_cases hkey : isKey key = true
  · have hdeleted := h.reliable.delete hkey
    have hentries := Storage.delete_entries_of_ok hdeleted
    have hfile : (dir.isName key && dir.entries[key]? != some .directory) = true := by
      rw [h.isName key, Bool.true_and, bne_iff_ne]
      exact h.allFiles key
    rw [Storage.requireKey_of_isKey hkey, hdeleted]
    simp only [hfile, if_true]
    refine ⟨trivial, h.anyLength, h.allFiles.erase key, ?_, ?_,
      h.reliable.of_fails (storage.delete_fails key)⟩
    · intro other hother
      rw [hentries, ExtTreeMap.getElem?_erase, ExtTreeMap.getElem?_erase]
      split
      · rfl
      · exact h.content other hother
    · intro other hmem
      rw [hentries, ExtTreeMap.mem_erase] at hmem
      exact h.keyed other hmem.2
  · have hrefused : (storage.delete key).1 = .error (.invalidKey key) := by
      rw [Storage.delete_fst, h.reliable.call .delete, requireKey_of_not_isKey hkey]
      rfl
    rw [requireKey_of_not_isKey hkey, hrefused]
    exact ⟨rfl, h.of_storage (Storage.delete_entries_of_error hrefused) (storage.delete_fails key)⟩

theorem Mirrors.mem_allKeys_iff (h : Mirrors dir storage) :
    key ∈ dir.allKeys ↔ key ∈ storage.entries.keys := by
  rw [Directory.mem_allKeys_iff, ExtTreeMap.mem_keys, ExtTreeMap.mem_iff_isSome_getElem?]
  constructor
  · rintro ⟨hkey, content, hcontent⟩
    rw [h.content key hkey] at hcontent
    obtain ⟨value, hvalue, -⟩ := Option.map_eq_some_iff.1 hcontent
    rw [hvalue]
    rfl
  · intro hstored
    obtain ⟨value, hvalue⟩ := Option.isSome_iff_exists.1 hstored
    have hkey := h.keyed key (ExtTreeMap.mem_iff_isSome_getElem?.2 hstored)
    refine ⟨hkey, value, ?_⟩
    rw [h.content key hkey, hvalue]
    rfl

/-- Both list the keys in ascending order. -/
theorem Mirrors.allKeys (h : Mirrors dir storage) : dir.allKeys = storage.entries.keys := by
  have hascending : storage.entries.keys.Pairwise (· ≤ ·) := by
    refine ExtTreeMap.ordered_keys.imp ?_
    intro a b hlt
    exact Std.le_of_lt (compareOfLessAndEq_eq_lt.1 hlt)
  have hperm : dir.allKeys.Perm storage.entries.keys :=
    (List.perm_ext_iff_of_nodup dir.nodup_allKeys ExtTreeMap.nodup_keys).2
      fun key => h.mem_allKeys_iff
  exact hperm.eq_of_pairwise (fun _ _ _ _ => String.le_antisymm) (keysAmong_pairwise _) hascending

/-! ## All calls -/

/-- An event with a request is answered as the storage answers it; one without leaves no trace. -/
theorem Mirrors.serve (h : Mirrors dir storage) (event : DirectoryEvent) :
    match event.request? with
    | some request =>
      (dir.serve event).1 = some (storage.serve request).1 ∧
        Mirrors (dir.serve event).2 (storage.serve request).2
    | none => (dir.serve event).1 = none ∧ Mirrors (dir.serve event).2 storage := by
  cases event with
  | get key =>
    refine ⟨?_, h.of_storage rfl rfl⟩
    simp only [Directory.serve, Storage.serve, h.get]
    rfl
  | set key value =>
    obtain ⟨hanswer, hafter⟩ := h.set key value
    refine ⟨?_, hafter⟩
    simp only [Directory.serve, Storage.serve, Prod.map_fst, hanswer, Function.comp_apply]
  | delete key =>
    obtain ⟨hanswer, hafter⟩ := h.delete key
    refine ⟨?_, hafter⟩
    simp only [Directory.serve, Storage.serve, Prod.map_fst, hanswer, Function.comp_apply]
  | allKeys listing =>
    refine ⟨?_, h.of_storage rfl rfl⟩
    simp only [Directory.serve, Storage.serve, Prod.map_fst, keysAmong_listing, h.allKeys,
      h.reliable.allKeys]
  | cutOff key value written => exact ⟨rfl, h.cutOff key value written⟩

theorem Mirrors.answers (h : Mirrors dir storage) (events : List DirectoryEvent) :
    dir.answers events = storage.answers (events.filterMap DirectoryEvent.request?) := by
  induction events generalizing dir storage with
  | nil => rfl
  | cons event rest ih =>
    have hserve := h.serve event
    rw [Directory.answers]
    cases hrequest : event.request? with
    | some request =>
      rw [hrequest] at hserve
      rw [List.filterMap_cons_some hrequest, hserve.1, Storage.answers, ih hserve.2]
      rfl
    | none =>
      rw [hrequest] at hserve
      rw [List.filterMap_cons_none hrequest, hserve.1, ih hserve.2]
      rfl

/-- In a file system where names may have any length, a directory that starts empty and is used for
nothing else gives the same answers as a map that starts empty and on which writes that were cut off
are never begun. -/
theorem answers_eq_map (events : List DirectoryEvent) :
    Directory.answers { nameLimit := none } events =
      Storage.answers {} (events.filterMap DirectoryEvent.request?) :=
  empty_mirrors.answers events

end Directory

end HomeKit
