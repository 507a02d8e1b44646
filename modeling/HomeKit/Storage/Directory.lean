import HomeKit.Storage.Basic

/-!
# Storage in a directory

One file a key. A value is written to a temporary file first and takes its place by renaming, so
that a record is never half written; the names of temporary files are no keys, and neither they nor
directories are ever listed.
-/

namespace HomeKit

open Std (ExtTreeMap)

inductive DirectoryEntry where
  | file (content : Bytes)
  | directory
  deriving DecidableEq, Repr

structure Directory where
  entries : ExtTreeMap String DirectoryEntry := ∅
  /-- The most bytes that a name may have. -/
  nameLimit : Option Nat := some 255

namespace Directory

def isName (dir : Directory) (name : String) : Bool :=
  dir.nameLimit.all (name.utf8ByteSize ≤ ·)

def temporary (key : String) : String :=
  "." ++ key ++ ".tmp"

/-- Writes a file, which may be there already. -/
def write (dir : Directory) (name : String) (content : Bytes) : Except StorageError Directory :=
  if dir.isName name then
    match dir.entries[name]? with
    | some .directory => .error .io
    | _ => .ok { dir with entries := dir.entries.insert name (.file content) }
  else
    .error .io

def makeDirectory (dir : Directory) (name : String) : Directory :=
  { dir with entries := dir.entries.insert name .directory }

/-- Gives a file another name; a file of that name is replaced. -/
def rename (dir : Directory) (name newName : String) : Except StorageError Directory :=
  match dir.entries[name]?, dir.entries[newName]? with
  | some (.file _), some .directory => .error .io
  | some (.file content), _ =>
    .ok { dir with entries := (dir.entries.erase name).insert newName (.file content) }
  | _, _ => .error .io

def get (dir : Directory) (key : String) : Except StorageError (Option Bytes) := do
  requireKey key
  if dir.isName key then
    match dir.entries[key]? with
    | some (.file content) => .ok (some content)
    | some .directory => .error .io
    | none => .ok none
  else
    .error .io

/-- Stores a value by way of a temporary file, which stays behind if the renaming fails. -/
def set (dir : Directory) (key : String) (value : Bytes) : Except StorageError Unit × Directory :=
  match (requireKey key).bind fun _ => dir.write (temporary key) value with
  | .error error => (.error error, dir)
  | .ok dir =>
    match dir.rename (temporary key) key with
    | .error error => (.error error, dir)
    | .ok dir => (.ok (), dir)

def delete (dir : Directory) (key : String) : Except StorageError Unit × Directory :=
  match requireKey key with
  | .error error => (.error error, dir)
  | .ok _ =>
    if dir.isName key && dir.entries[key]? != some .directory then
      (.ok (), { dir with entries := dir.entries.erase key })
    else
      (.error .io, dir)

/-- Is it a file whose name is a key? -/
def isRecord : String × DirectoryEntry → Bool
  | (name, .file _) => isKey name
  | (_, .directory) => false

/-- The keys among the entries of a directory, in ascending order. A directory may list its entries
in any order. -/
def keysAmong (listed : List (String × DirectoryEntry)) : List String :=
  ((listed.filter isRecord).map (·.1)).mergeSort

def allKeys (dir : Directory) : List String :=
  keysAmong dir.entries.toList

end Directory

end HomeKit
