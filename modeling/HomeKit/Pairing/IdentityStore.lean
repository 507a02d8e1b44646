import HomeKit.Entropy
import HomeKit.Identifier
import HomeKit.Pairing.Controller
import HomeKit.SigningKey
import HomeKit.Storage.Basic

/-!
# The accessory's identity and its pairings

The accessory has an identifier and a long-term key, made on first use and then kept. The paired
controllers are held in a table beside their records in storage: a change is written first and
enters the table only if that succeeded, and every change is announced by an event.

At most `maxPairings` controllers are held. When the last admin goes, all others go with it.
-/

namespace HomeKit

open Std (ExtTreeMap)

structure AccessoryIdentity where
  identifier : String
  key : SigningKey
  deriving DecidableEq

/-- The accessory's identity and the controllers that are paired with it. -/
structure IdentityStore where
  storage : Storage
  identity : AccessoryIdentity
  controllers : ExtTreeMap String PairedController := ∅
  /-- Every event so far, oldest first. -/
  events : List PairingEvent := []

namespace IdentityStore

def identifierKey : String := "uuid"

def seedKey : String := "keypair"

def recordPrefix : String := "pairing."

def maxPairings : Nat := 16

def recordKey (id : String) : String :=
  recordPrefix ++ Text.Hex.encode (utf8 id)

/-! ## Opening -/

def upperHex (b : UInt8) : List Char :=
  [(Text.Hex.digit (b / 16)).toUpper, (Text.Hex.digit (b % 16)).toUpper]

/-- Six bytes as an identifier, such as `AA:BB:CC:DD:EE:FF`. -/
def formatIdentifier (b : Octets 6) : String :=
  String.ofList (List.intercalate [':'] (b.bytes.map upperHex))

def isHexDigit (c : Char) : Bool :=
  c.isDigit || ('a' ≤ c && c ≤ 'f') || ('A' ≤ c && c ≤ 'F')

/-- Has it the form of an identifier, given the pairs of digits that are still to come? -/
def hasIdentifierForm : (pairs : Nat) → List Char → Bool
  | 0, _ => false
  | 1, [a, b] => isHexDigit a && isHexDigit b
  | pairs + 2, a :: b :: ':' :: rest =>
    isHexDigit a && isHexDigit b && hasIdentifierForm (pairs + 1) rest
  | _, _ => false

def isIdentifier (s : String) : Bool :=
  hasIdentifierForm 6 s.toList

/-- The stored identifier, or a new one that is stored. -/
def openIdentifier (storage : Storage) (random : Entropy) :
    Except StorageError String × Storage × Entropy :=
  match storage.get identifierKey with
  | (.error error, storage) => (.error error, storage, random)
  | (.ok (some stored), storage) =>
    match (text? stored).filter isIdentifier with
    | some identifier => (.ok identifier, storage, random)
    | none => (.error (.corrupt identifierKey .identifierForm), storage, random)
  | (.ok none, storage) =>
    let (bytes, random) := random.draw 6
    let identifier := formatIdentifier bytes
    let (stored, storage) := storage.set identifierKey (utf8 identifier)
    (stored.map fun _ => identifier, storage, random)

def openKey (storage : Storage) (random : Entropy) :
    Except StorageError SigningKey × Storage × Entropy :=
  match storage.get seedKey with
  | (.error error, storage) => (.error error, storage, random)
  | (.ok (some stored), storage) =>
    match Octets.ofBytes? 32 stored with
    | some seed => (.ok ⟨seed⟩, storage, random)
    | none => (.error (.corrupt seedKey .seedLength), storage, random)
  | (.ok none, storage) =>
    let (key, random) := SigningKey.generate random
    let (stored, storage) := storage.set seedKey key.seed.bytes
    (stored.map fun _ => key, storage, random)

/-- Adds the controllers of stored records to a table. -/
def readRecords (storage : Storage) (table : ExtTreeMap String PairedController) :
    List String → Except StorageError (ExtTreeMap String PairedController) × Storage
  | [] => (.ok table, storage)
  | key :: rest =>
    if recordPrefix.toList.isPrefixOf key.toList then
      match storage.get key with
      | (.error error, storage) => (.error error, storage)
      | (.ok none, storage) => readRecords storage table rest
      | (.ok (some record), storage) =>
        match PairedController.decode record with
        | .error fault => (.error (.corrupt key fault), storage)
        | .ok controller => readRecords storage (table.insert controller.id controller) rest
    else
      readRecords storage table rest

def openControllers (storage : Storage) :
    Except StorageError (ExtTreeMap String PairedController) × Storage :=
  match storage.allKeys with
  | (.error error, storage) => (.error error, storage)
  | (.ok keys, storage) => readRecords storage ∅ keys

/-- The store on a storage. The storage and the randomness are returned also when it fails. -/
def openOrCreate (storage : Storage) (random : Entropy) :
    Except StorageError IdentityStore × Storage × Entropy :=
  match openIdentifier storage random with
  | (.error error, storage, random) => (.error error, storage, random)
  | (.ok identifier, storage, random) =>
    match openKey storage random with
    | (.error error, storage, random) => (.error error, storage, random)
    | (.ok key, storage, random) =>
      let (controllers, storage) := openControllers storage
      (controllers.map fun controllers => { storage, identity := ⟨identifier, key⟩, controllers },
        storage, random)

/-! ## Looking up -/

def isPaired (store : IdentityStore) : Bool :=
  !store.controllers.isEmpty

def controller? (store : IdentityStore) (id : String) : Option PairedController :=
  store.controllers[id]?

/-- The controllers in ascending order of their identifiers. -/
def controllerList (store : IdentityStore) : List PairedController :=
  store.controllers.values

def isAdmin (store : IdentityStore) (id : String) : Bool :=
  (store.controller? id).any (·.isAdmin)

/-! ## Changing -/

/-- Adds a controller, or changes the permissions of one that is paired with the same key. -/
def add (store : IdentityStore) (controller : PairedController) :
    Except Error Unit × IdentityStore :=
  let known := store.controller? controller.id
  if known.any (·.publicKey != controller.publicKey) then
    (.error (PairingError.protocol
      s!"pairing {controller.id} already exists with a different key"), store)
  else if known.isNone && maxPairings ≤ store.controllers.size then
    (.error PairingError.maxPeers, store)
  else
    match store.storage.set (recordKey controller.id) controller.encode with
    | (.error error, storage) => (.error error, { store with storage })
    | (.ok _, storage) =>
      (.ok (), { store with
        storage
        controllers := store.controllers.insert controller.id controller
        events := if known.isNone then store.events ++ [.paired controller.id] else store.events })

structure Removal where
  /-- The controllers that are no longer paired, in the order of their removal. -/
  removed : List String := []
  /-- The failure that ended it early. -/
  error : Option StorageError := none
  deriving DecidableEq

/-- Removes controllers one after another, up to the first failure. -/
def removeAll (store : IdentityStore) : List String → Removal × IdentityStore
  | [] => ({}, store)
  | id :: rest =>
    match store.storage.delete (recordKey id) with
    | (.error error, storage) => ({ error := some error }, { store with storage })
    | (.ok _, storage) =>
      let store := { store with
        storage
        controllers := store.controllers.erase id
        events := store.events ++ [.unpaired id] }
      let (removal, store) := removeAll store rest
      ({ removal with removed := id :: removal.removed }, store)

/-- Whom the removal of a paired controller takes down: itself, and with the last admin all others
in ascending order. -/
def doomed (store : IdentityStore) (id : String) : List String :=
  let adminLeft := store.controllerList.any fun c => c.id != id && c.isAdmin
  if adminLeft then [id] else id :: store.controllers.keys.filter (· != id)

def remove (store : IdentityStore) (id : String) : Removal × IdentityStore :=
  if store.controllers.contains id then store.removeAll (store.doomed id) else ({}, store)

end IdentityStore

/-! ## Listening -/

/-- A receiver of pairing events, which sees at most the last `capacity` of those that it has not
taken yet. -/
structure EventReceiver where
  /-- Events taken or missed so far. -/
  position : Nat
  deriving DecidableEq, Repr

namespace EventReceiver

def capacity : Nat := 16

/-- The number of missed events and the events since the last time. -/
def receive (receiver : EventReceiver) (events : List PairingEvent) :
    Nat × List PairingEvent × EventReceiver :=
  let waiting := events.drop receiver.position
  let missed := waiting.length - capacity
  (missed, waiting.drop missed, ⟨events.length⟩)

end EventReceiver

end HomeKit
