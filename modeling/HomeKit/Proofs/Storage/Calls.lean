import HomeKit.Storage.Basic

/-!
# Calls of a storage

What each kind of call does to the entries, and when it succeeds. A storage is `Reliable` if none of
its calls fails; then a call succeeds for every text that is a key. Calls never change which later
calls fail.
-/

namespace HomeKit.Storage

variable {storage : Storage} {key : String}

/-- No call fails. -/
def Reliable (storage : Storage) : Prop :=
  ∀ kind number, storage.fails kind number = false

theorem requireKey_of_isKey (h : isKey key = true) : requireKey key = .ok () :=
  if_pos h

/-! ## Outcomes -/

theorem get_fst (storage : Storage) (key : String) :
    (storage.get key).1 =
      (storage.call .get).1.bind fun _ => (requireKey key).map fun _ => storage.entries[key]? :=
  rfl

theorem allKeys_fst (storage : Storage) :
    storage.allKeys.1 = (storage.call .allKeys).1.map fun _ => storage.entries.keys :=
  rfl

theorem set_fst (storage : Storage) (key : String) (value : Bytes) :
    (storage.set key value).1 = (storage.call .set).1.bind fun _ => requireKey key := by
  unfold set
  simp only
  split
  · rename_i h
    exact h.symm
  · rename_i h
    exact h.symm

theorem delete_fst (storage : Storage) (key : String) :
    (storage.delete key).1 = (storage.call .delete).1.bind fun _ => requireKey key := by
  unfold delete
  simp only
  split
  · rename_i h
    exact h.symm
  · rename_i h
    exact h.symm

/-! ## Entries -/

/-- A key is removed, or the call fails and removes nothing. -/
theorem delete_cases (storage : Storage) (key : String) :
    (∃ after, storage.delete key = (.ok (), after) ∧
        after.entries = storage.entries.erase key) ∨
      ∃ error after, storage.delete key = (.error error, after) ∧
        after.entries = storage.entries := by
  unfold delete
  simp only
  split
  · exact Or.inl ⟨_, rfl, rfl⟩
  · exact Or.inr ⟨_, _, rfl, rfl⟩

theorem set_entries_of_ok {value : Bytes} (h : (storage.set key value).1 = .ok ()) :
    (storage.set key value).2.entries = storage.entries.insert key value := by
  rcases storage.set_cases key value with ⟨after, hset, hentries⟩ | ⟨error, after, hset, -⟩
  · rw [hset]
    exact hentries
  · rw [hset] at h
    cases h

theorem set_entries_of_error {value : Bytes} {error : StorageError}
    (h : (storage.set key value).1 = .error error) :
    (storage.set key value).2.entries = storage.entries := by
  rcases storage.set_cases key value with ⟨after, hset, -⟩ | ⟨error, after, hset, hentries⟩
  · rw [hset] at h
    cases h
  · rw [hset]
    exact hentries

theorem delete_entries_of_ok (h : (storage.delete key).1 = .ok ()) :
    (storage.delete key).2.entries = storage.entries.erase key := by
  rcases storage.delete_cases key with ⟨after, hdelete, hentries⟩ | ⟨error, after, hdelete, -⟩
  · rw [hdelete]
    exact hentries
  · rw [hdelete] at h
    cases h

theorem delete_entries_of_error {error : StorageError}
    (h : (storage.delete key).1 = .error error) :
    (storage.delete key).2.entries = storage.entries := by
  rcases storage.delete_cases key with ⟨after, hdelete, -⟩ | ⟨error, after, hdelete, hentries⟩
  · rw [hdelete] at h
    cases h
  · rw [hdelete]
    exact hentries

@[simp] theorem get_entries (storage : Storage) (key : String) :
    (storage.get key).2.entries = storage.entries :=
  rfl

@[simp] theorem allKeys_entries (storage : Storage) :
    storage.allKeys.2.entries = storage.entries :=
  rfl

/-- A value that a call gives is the stored one. -/
theorem get_eq_ok {value : Option Bytes} (h : (storage.get key).1 = .ok value) :
    value = storage.entries[key]? := by
  rw [get_fst] at h
  cases hcall : (storage.call .get).1 with
  | error error =>
    rw [hcall] at h
    cases h
  | ok _ =>
    rw [hcall] at h
    cases hkey : requireKey key with
    | error error =>
      rw [hkey] at h
      cases h
    | ok _ =>
      rw [hkey] at h
      cases h
      rfl

/-- A call gives nothing for a text that is no key. -/
theorem isKey_of_get_eq_ok {value : Option Bytes} (h : (storage.get key).1 = .ok value) :
    isKey key = true := by
  rw [get_fst] at h
  cases hcall : (storage.call .get).1 with
  | error error =>
    rw [hcall] at h
    cases h
  | ok _ =>
    rw [hcall] at h
    by_cases hkey : isKey key = true
    · exact hkey
    · rw [requireKey, if_neg hkey] at h
      cases h

/-- Keys that a call gives are the stored ones. -/
theorem allKeys_eq_ok {keys : List String} (h : storage.allKeys.1 = .ok keys) :
    keys = storage.entries.keys := by
  rw [allKeys_fst] at h
  cases hcall : (storage.call .allKeys).1 with
  | error error =>
    rw [hcall] at h
    cases h
  | ok _ =>
    rw [hcall] at h
    cases h
    rfl

/-! ## Failures -/

@[simp] theorem get_fails (storage : Storage) (key : String) :
    (storage.get key).2.fails = storage.fails :=
  rfl

@[simp] theorem allKeys_fails (storage : Storage) : storage.allKeys.2.fails = storage.fails :=
  rfl

@[simp] theorem set_fails (storage : Storage) (key : String) (value : Bytes) :
    (storage.set key value).2.fails = storage.fails := by
  unfold set
  simp only
  split
  · rfl
  · rfl

@[simp] theorem delete_fails (storage : Storage) (key : String) :
    (storage.delete key).2.fails = storage.fails := by
  unfold delete
  simp only
  split
  · rfl
  · rfl

/-- Does the removal of a key fail that comes after so many others? -/
def failsDelete (storage : Storage) (earlier : Nat) : Bool :=
  storage.fails .delete (storage.calls .delete + earlier + 1)

theorem delete_fst_of_isKey (storage : Storage) (hkey : isKey key = true) :
    (storage.delete key).1 = if storage.failsDelete 0 then .error .io else .ok () := by
  rw [delete_fst, requireKey_of_isKey hkey, failsDelete, call, Nat.add_zero]
  simp only
  split <;> rfl

theorem failsDelete_delete (storage : Storage) (key : String) (earlier : Nat) :
    (storage.delete key).2.failsDelete earlier = storage.failsDelete (earlier + 1) := by
  have hcalls : (storage.delete key).2.calls .delete = storage.calls .delete + 1 := by
    unfold delete
    simp only
    split <;> rfl
  rw [failsDelete, failsDelete, delete_fails, hcalls, Nat.add_assoc _ 1, Nat.add_comm 1]

/-- Which calls fail is settled from the start. -/
theorem Reliable.of_fails {after : Storage} (h : storage.Reliable)
    (hfails : after.fails = storage.fails) : after.Reliable := by
  unfold Reliable
  rw [hfails]
  exact h

theorem Reliable.call (h : storage.Reliable) (kind : StorageCall) :
    (storage.call kind).1 = .ok () := by
  unfold Storage.call
  simp [h kind]

theorem Reliable.get (h : storage.Reliable) (hkey : isKey key = true) :
    (storage.get key).1 = .ok storage.entries[key]? := by
  rw [get_fst, h.call .get, requireKey_of_isKey hkey]
  rfl

theorem Reliable.allKeys (h : storage.Reliable) :
    storage.allKeys.1 = .ok storage.entries.keys := by
  rw [allKeys_fst, h.call .allKeys]
  rfl

theorem Reliable.set (h : storage.Reliable) (hkey : isKey key = true) (value : Bytes) :
    (storage.set key value).1 = .ok () := by
  rw [set_fst, h.call .set, requireKey_of_isKey hkey]
  rfl

theorem Reliable.delete (h : storage.Reliable) (hkey : isKey key = true) :
    (storage.delete key).1 = .ok () := by
  rw [delete_fst, h.call .delete, requireKey_of_isKey hkey]
  rfl

end HomeKit.Storage
