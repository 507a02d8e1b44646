import HomeKit.Bytes
import HomeKit.IpAddress
import HomeKit.SetupCode
import HomeKit.Toml.Document

/-!
# Configuration

A document with the sections `accessory`, `server` and `logging`. Whatever is missing has its
default, and what is not known is skipped. A section is a table, or a list of its values in order.
-/

namespace HomeKit

structure AccessoryConfig where
  name : String := "Accessory"
  setupCode : String := SetupCode.default.text
  storagePath : Option String := none
  category : UInt8 := 1
  /-- The file of the attribute database. -/
  accessoriesFile : Option String := none
  deriving DecidableEq

structure ServerConfig where
  bindAddress : IpAddress := .v4 0 0 0 0
  /-- Zero stands for any free port. -/
  port : UInt16 := 0
  maxConnections : UInt64 := 16
  deriving DecidableEq

structure LoggingConfig where
  level : String := "info"
  file : Option String := none
  deriving DecidableEq

structure Config where
  accessory : AccessoryConfig := {}
  server : ServerConfig := {}
  logging : LoggingConfig := {}
  deriving DecidableEq

namespace Config

/-! ## Reading -/

/-- The values of a section by name and by place. -/
abbrev Section := String → Nat → Option Toml

/-- The values of a section. A date may stand for a section that has none. -/
def section? : Toml → Option Section
  | .table _ members | .inlineTable members => some fun name _ => Toml.Members.get? members name
  | .array items => some fun _ place => items[place]?
  | .tables elements => some fun _ place => elements.reverse[place]?.map (.table .defined)
  | .dateTime => some fun _ _ => none
  | _ => none

def valueOr {α : Type} (default : α) (read? : Toml → Option α) : Option Toml → Option α
  | none => some default
  | some value => read? value

def textOf? : Toml → Option String
  | .string s => some s
  | _ => none

def numberBelow? (limit : Nat) : Toml → Option Nat
  | .integer n => if 0 ≤ n ∧ n < limit then some n.toNat else none
  | _ => none

def accessoryOf? (value : Toml) : Option AccessoryConfig := do
  let entries ← section? value
  return {
    name := ← valueOr ({} : AccessoryConfig).name textOf? (entries "name" 0)
    setupCode := ← valueOr ({} : AccessoryConfig).setupCode textOf? (entries "setup_code" 1)
    storagePath := ← valueOr none (fun v => (textOf? v).map some) (entries "storage_path" 2)
    category := UInt8.ofNat (← valueOr 1 (numberBelow? UInt8.size) (entries "category" 3))
    accessoriesFile := ← valueOr none (fun v => (textOf? v).map some)
      (entries "accessories_file" 4) }

def serverOf? (value : Toml) : Option ServerConfig := do
  let entries ← section? value
  return {
    bindAddress := ← valueOr ({} : ServerConfig).bindAddress
      (fun v => (textOf? v).bind IpAddress.parse?) (entries "bind_address" 0)
    port := UInt16.ofNat (← valueOr 0 (numberBelow? UInt16.size) (entries "port" 1))
    maxConnections :=
      UInt64.ofNat (← valueOr 16 (numberBelow? UInt64.size) (entries "max_connections" 2)) }

def loggingOf? (value : Toml) : Option LoggingConfig := do
  let entries ← section? value
  return {
    level := ← valueOr ({} : LoggingConfig).level textOf? (entries "level" 0)
    file := ← valueOr none (fun v => (textOf? v).map some) (entries "file" 1) }

def ofMembers? (members : Toml.Members) : Option Config := do
  return {
    accessory := ← valueOr {} accessoryOf? (members.get? "accessory")
    server := ← valueOr {} serverOf? (members.get? "server")
    logging := ← valueOr {} loggingOf? (members.get? "logging") }

/-! ## Validity -/

def logLevels : List String :=
  ["trace", "debug", "info", "warn", "error"]

def setupCode (config : Config) : Except ConfigError SetupCode :=
  SetupCode.parse config.accessory.setupCode

/-- Where the pairings are stored: without a path of its own, under the accessory's name. -/
def storagePath (config : Config) : String :=
  config.accessory.storagePath.getD config.accessory.name

def validate (config : Config) : Except ConfigError Unit := do
  if (Text.trim config.accessory.name).isEmpty then
    throw (.invalid "accessory name must not be empty")
  let _ ← config.setupCode
  if !logLevels.contains config.logging.level.toLower then
    throw (.invalidLogLevel config.logging.level)
  if config.server.maxConnections = 0 then
    throw (.invalid "max_connections must be at least 1")

def parse (text : String) : Except ConfigError Config :=
  match (Toml.parse? text).bind ofMembers? with
  | none => .error .unreadable
  | some config => config.validate.map fun _ => config

/-- The configuration in a file, which may be missing. -/
def ofFile (file : Option Bytes) : Except ConfigError Config :=
  match file.bind text? with
  | none => .error .io
  | some text => parse text

end Config

end HomeKit
