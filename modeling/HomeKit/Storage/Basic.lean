import Std.Data.ExtTreeMap
import HomeKit.Bytes
import HomeKit.Error

/-!
# Key-value storage

A map from keys to byte strings that outlives the program. Every call may fail: `fails` says which
ones do, by the kind of call and its number among the calls of that kind, and a failed call changes
nothing. Keys are limited to a small alphabet, since they may become file names (`isKey`).
-/

namespace HomeKit

open Std (ExtTreeMap)

inductive StorageCall where
  | get
  | set
  | delete
  | allKeys
  deriving DecidableEq, Repr

structure Storage where
  entries : ExtTreeMap String Bytes := ∅
  /-- Does the n-th call of a kind fail, counted from one? -/
  fails : StorageCall → Nat → Bool := fun _ _ => false
  calls : StorageCall → Nat := fun _ => 0

def isKeyChar (c : Char) : Bool :=
  c.isAlphanum || c == '.' || c == '-' || c == '_'

/-- Keys are not empty, do not start with a point, and are made of letters, digits, points, dashes
and underscores. -/
def isKey (key : String) : Bool :=
  let chars := key.toList
  !chars.isEmpty && chars.head? != some '.' && chars.all isKeyChar

def requireKey (key : String) : Except StorageError Unit :=
  if isKey key then .ok () else .error (.invalidKey key)

namespace Storage

/-- Counts a call, and fails where it is to fail. -/
def call (storage : Storage) (kind : StorageCall) : Except StorageError Unit × Storage :=
  let number := storage.calls kind + 1
  (if storage.fails kind number then .error .io else .ok (),
    { storage with calls := fun k => if k = kind then number else storage.calls k })

def get (storage : Storage) (key : String) : Except StorageError (Option Bytes) × Storage :=
  let (called, storage) := storage.call .get
  (called.bind fun _ => (requireKey key).map fun _ => storage.entries[key]?, storage)

def set (storage : Storage) (key : String) (value : Bytes) : Except StorageError Unit × Storage :=
  let (called, storage) := storage.call .set
  match called.bind fun _ => requireKey key with
  | .ok _ => (.ok (), { storage with entries := storage.entries.insert key value })
  | .error error => (.error error, storage)

theorem set_cases (storage : Storage) (key : String) (value : Bytes) :
    (∃ after, storage.set key value = (.ok (), after) ∧
        after.entries = storage.entries.insert key value) ∨
      ∃ error after, storage.set key value = (.error error, after) ∧
        after.entries = storage.entries := by
  unfold set
  simp only
  split
  · exact Or.inl ⟨_, rfl, rfl⟩
  · exact Or.inr ⟨_, _, rfl, rfl⟩

/-- Removes a key, which need not be there. -/
def delete (storage : Storage) (key : String) : Except StorageError Unit × Storage :=
  let (called, storage) := storage.call .delete
  match called.bind fun _ => requireKey key with
  | .ok _ => (.ok (), { storage with entries := storage.entries.erase key })
  | .error error => (.error error, storage)

/-- Every key, in ascending order. -/
def allKeys (storage : Storage) : Except StorageError (List String) × Storage :=
  let (called, storage) := storage.call .allKeys
  (called.map fun _ => storage.entries.keys, storage)

end Storage

end HomeKit
