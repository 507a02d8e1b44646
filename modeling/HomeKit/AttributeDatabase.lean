import HomeKit.Error
import HomeKit.Identifier
import HomeKit.Json.Printer
import HomeKit.Json.Tree

/-!
# The attribute database

A JSON document lists the accessories, their services and the characteristics of these. A
characteristic has permissions (`pr` to read, `pw` to write, `ev` for events), a format that written
values have to fit (`fit`), and a value. Characteristics are found by number: the first accessory of
a number, and in it the first characteristic of a number, whatever its service.
-/

namespace HomeKit

inductive HapStatus where
  | success
  | insufficientPrivileges
  | resourceBusy
  | readOnly
  | writeOnly
  | notificationNotSupported
  | resourceDoesNotExist
  | invalidValue
  deriving DecidableEq, Repr

namespace HapStatus

def code : HapStatus → Int
  | success => 0
  | insufficientPrivileges => -70401
  | resourceBusy => -70403
  | readOnly => -70404
  | writeOnly => -70405
  | notificationNotSupported => -70406
  | resourceDoesNotExist => -70409
  | invalidValue => -70410

def name : HapStatus → String
  | success => "Success"
  | insufficientPrivileges => "InsufficientPrivileges"
  | resourceBusy => "ResourceBusy"
  | readOnly => "ReadOnly"
  | writeOnly => "WriteOnly"
  | notificationNotSupported => "NotificationNotSupported"
  | resourceDoesNotExist => "ResourceDoesNotExist"
  | invalidValue => "InvalidValue"

/-- The member that reports a status. -/
def member (status : HapStatus) : String × Json :=
  ("status", .ofInt status.code)

end HapStatus

structure AttributeDatabase where
  document : Json
  /-- A busy database refuses every access to its characteristics. -/
  busy : Bool := false

namespace AttributeDatabase

/-! ## Opening -/

/-- The database of a document, which has to list accessories. -/
def ofDocument (document : Json) : Except ParseError AttributeDatabase :=
  if ((document.get? "accessories").bind Json.array?).isSome then .ok { document }
  else .error (.missingField "accessories")

/-- The database in a file, which may be missing. -/
def ofFile (file : Option Bytes) : Except Error AttributeDatabase :=
  match file with
  | none => .error (.connection { kind := .notFound })
  | some content =>
    if (text? content).isNone then .error (.connection { kind := .invalidData })
    else
      match Json.parse? content with
      | none => .error (ParseError.invalidFormat "accessories file is not JSON")
      | some document =>
        match ofDocument document with
        | .ok database => .ok database
        | .error error => .error error

/-- A busy database, which lists no accessories. -/
def refusing : AttributeDatabase where
  document := .ofMembers [("accessories", .array [])]
  busy := true

def characteristic (iid : UInt64) (type : String) (perms : List String) (format : String)
    (value : Option Json) : Json :=
  .ofMembers ([("iid", .ofNatural iid), ("type", .string type),
    ("perms", .array (perms.map .string)), ("format", .string format)] ++
      value.toList.map ("value", ·))

def label (iid : UInt64) (type value : String) : Json :=
  characteristic iid type ["pr"] "string" (some (.string value))

/-- A lightbulb, which is switched by the characteristic 1.10. -/
def lightbulb (name : String) : AttributeDatabase where
  document := .ofMembers [("accessories", .array [.ofMembers [
    ("aid", .ofNatural 1),
    ("services", .array [
      .ofMembers [
        ("iid", .ofNatural 1),
        ("type", .string "3E"),
        ("characteristics", .array [
          characteristic 2 "14" ["pw"] "bool" none,
          label 3 "20" "hap-rs",
          label 4 "21" "Lightbulb",
          label 5 "23" name,
          label 6 "30" "0001",
          label 7 "52" "0.1.0"])],
      .ofMembers [
        ("iid", .ofNatural 8),
        ("type", .string "43"),
        ("primary", .bool true),
        ("characteristics", .array [
          label 9 "23" name,
          characteristic 10 "25" ["pr", "pw", "ev"] "bool" (some (.bool false))])]])]])]

/-! ## Finding characteristics -/

/-- The items of a member that is an array. -/
def items (value : Json) (name : String) : List Json :=
  ((value.get? name).bind Json.array?).getD []

def isNumbered (name : String) (number : UInt64) (value : Json) : Bool :=
  (value.get? name).bind Json.natural? == some number

def serves (iid : UInt64) (service : Json) : Bool :=
  (items service "characteristics").any (isNumbered "iid" iid)

def find? (document : Json) (id : CharacteristicId) : Option Json := do
  let accessory ← (items document "accessories").find? (isNumbered "aid" id.aid)
  let service ← (items accessory "services").find? (serves id.iid)
  (items service "characteristics").find? (isNumbered "iid" id.iid)

/-- The list with the first item that `p` holds of replaced. -/
def replaceFirst {α : Type} (p : α → Bool) (f : α → α) : List α → List α
  | [] => []
  | x :: rest => if p x then f x :: rest else x :: replaceFirst p f rest

def mapItems (value : Json) (name : String) (f : List Json → List Json) : Json :=
  value.set name (.array (f (items value name)))

/-- The document with the characteristic of a name changed, which is there. -/
def update (document : Json) (id : CharacteristicId) (f : Json → Json) : Json :=
  mapItems document "accessories" <| replaceFirst (isNumbered "aid" id.aid) fun accessory =>
    mapItems accessory "services" <| replaceFirst (serves id.iid) fun service =>
      mapItems service "characteristics" <| replaceFirst (isNumbered "iid" id.iid) f

/-! ## Access -/

def permits (characteristic : Json) (permission : String) : Bool :=
  (items characteristic "perms").any fun p => p.string? == some permission

/-- The type of characteristics that are written to identify the accessory. -/
def identifyType : String := "14"

/-- The value in the form of a format, if it fits: zero and one count as truth values. -/
def fit (format : String) (value : Json) : Option Json :=
  match value with
  | .bool _ => if format = "bool" then some value else none
  | .number n =>
    if format = "bool" then
      if n = .natural 0 then some (.bool false)
      else if n = .natural 1 then some (.bool true)
      else none
    else if ["uint8", "uint16", "uint32", "uint64"].contains format then
      if n.isNatural then some value else none
    else if format = "int" then
      if n.isInt64 then some value else none
    else if format = "float" then some value
    else none
  | .string _ => if ["string", "data", "tlv8"].contains format then some value else none
  | _ => none

/-- The characteristic of a name, unless the database is busy. -/
def access (database : AttributeDatabase) (id : CharacteristicId) : Except HapStatus Json :=
  if database.busy then .error .resourceBusy
  else
    match find? database.document id with
    | some characteristic => .ok characteristic
    | none => .error .resourceDoesNotExist

def read (database : AttributeDatabase) (id : CharacteristicId) : Except HapStatus Json := do
  let characteristic ← database.access id
  if permits characteristic "pr" then return (characteristic.get? "value").getD .null
  else .error .writeOnly

def formatOf (characteristic : Json) : String :=
  ((characteristic.get? "format").bind Json.string?).getD "string"

def isIdentify (characteristic : Json) : Bool :=
  (characteristic.get? "type").bind Json.string? == some identifyType

/-- Stores a value that fits its characteristic; one that identifies the accessory is not stored. -/
def write (database : AttributeDatabase) (id : CharacteristicId) (value : Json) :
    Except HapStatus AttributeDatabase := do
  let characteristic ← database.access id
  if !permits characteristic "pw" then .error .readOnly
  else
    match fit (formatOf characteristic) value with
    | none => .error .invalidValue
    | some value =>
      if isIdentify characteristic && value.bool? == some true then return database
      else return { database with
        document := update database.document id fun c => c.set "value" value }

/-- May a connection subscribe to the characteristic? -/
def subscribe (database : AttributeDatabase) (id : CharacteristicId) : Except HapStatus Unit := do
  let characteristic ← database.access id
  if permits characteristic "ev" then return () else .error .notificationNotSupported

def identify (database : AttributeDatabase) : Except HapStatus Unit :=
  if database.busy then .error .resourceBusy else .ok ()

end AttributeDatabase

end HomeKit
