import HomeKit.Bytes
import HomeKit.Error
import HomeKit.Json.Printer
import HomeKit.Json.Tree
import HomeKit.Text.CharLiteral
import HomeKit.Text.Hex

/-!
# Paired controllers

A controller is known by an identifier, its public signing key and its permissions. It is stored as
a JSON record (`PairedController.encode`), which is read back leniently: members in any order or
as a bare list, unknown members skipped (`PairedController.decode`).
-/

namespace HomeKit

inductive Permissions where
  | regular
  | admin
  deriving DecidableEq, Repr

namespace Permissions

def code : Permissions → UInt8
  | regular => 0
  | admin => 1

/-- The lowest bit decides. -/
def ofCode (b : UInt8) : Permissions :=
  if b &&& 1 = 1 then admin else regular

def name : Permissions → String
  | regular => "regular"
  | admin => "admin"

def ofName? (s : String) : Option Permissions :=
  if s = "regular" then some regular
  else if s = "admin" then some admin
  else none

end Permissions

structure PairedController where
  id : String
  publicKey : Octets 32
  permissions : Permissions
  deriving DecidableEq

namespace PairedController

def isAdmin (controller : PairedController) : Bool :=
  controller.permissions == .admin

def encode (controller : PairedController) : Bytes :=
  let member (name value : String) : Bytes :=
    Json.printString name ++ 0x3a :: Json.printString value
  0x7b :: Json.commaSeparated
    [member "id" controller.id, member "public_key" (Text.Hex.encode controller.publicKey.bytes),
      member "permissions" controller.permissions.name] ++ [0x7d]

/-- The texts of a record, as far as they are read. -/
structure Draft where
  id : Option String := none
  publicKey : Option String := none
  permissions : Option Permissions := none

def textOf? : Json.Tree → Option String
  | .string text => text
  | _ => none

/-- Permissions are named by a string, or as the one member of an object, with no value. -/
def permissionsOf? : Json.Tree → Option Permissions
  | .string text => text.bind Permissions.ofName?
  | .object [(name, .null)] => name.bind Permissions.ofName?
  | _ => none

/-- Takes up a member, unless the draft has it already. -/
def Draft.take? (draft : Draft) (member : Option String × Json.Tree) : Option Draft := do
  let name ← member.1
  if name = "id" then
    guard draft.id.isNone
    return { draft with id := some (← textOf? member.2) }
  else if name = "public_key" then
    guard draft.publicKey.isNone
    return { draft with publicKey := some (← textOf? member.2) }
  else if name = "permissions" then
    guard draft.permissions.isNone
    return { draft with permissions := some (← permissionsOf? member.2) }
  else
    return draft

/-- The identifier, the text of the key and the permissions of a record. -/
def fields? : Json.Tree → Option (String × String × Permissions)
  | .object members => do
    let draft ← members.foldlM Draft.take? {}
    return (← draft.id, ← draft.publicKey, ← draft.permissions)
  | .array [id, publicKey, permissions] => do
    return (← textOf? id, ← textOf? publicKey, ← permissionsOf? permissions)
  | _ => none

def keyFault : Text.Hex.Fault → RecordFault
  | .oddLength => .oddHex
  | .badDigit byte position => .hexDigit (Text.charLiteral byte) position

def decode (record : Bytes) : Except RecordFault PairedController :=
  match (Json.Tree.parse? record).bind fields? with
  | none => .error .notJson
  | some (id, key, permissions) =>
    match Text.Hex.decode key with
    | .error fault => .error (keyFault fault)
    | .ok bytes =>
      match Octets.ofBytes? 32 bytes with
      | none => .error .keyLength
      | some publicKey => .ok { id, publicKey, permissions }

end PairedController

end HomeKit
