import HomeKit.Pairing.IdentityStore
import HomeKit.Text.Lossy
import HomeKit.Tlv

/-!
# Managing pairings

An admin controller may add a pairing, remove one and list them all. Others get an answer that does
not depend on the pairings.
-/

namespace HomeKit

/-- The answer to a request, and the controllers that it unpaired. -/
structure PairingsResponse where
  body : Bytes
  removed : List String := []
  deriving DecidableEq

namespace IdentityStore

def done : Tlv := .ofList [(.state, [2])]

def addedController (request : Tlv) : Except Error PairedController := do
  let idBytes ← required request .identifier
  let id ← match text? idBytes with
    | some id => pure id
    | none => throw (Error.pairing (.protocol "pairing identifier is not UTF-8"))
  let keyBytes ← required request .publicKey
  let publicKey ← match publicKeyOfBytes keyBytes with
    | .ok key => pure key
    | .error error => throw (Error.pairing (.protocol error.message))
  let permissions := match (request.get? .permissions).bind (·.head?) with
    | some code => Permissions.ofCode code
    | none => .regular
  return { id, publicKey, permissions }
where
  required (request : Tlv) (type : TlvType) : Except Error Bytes :=
    match request.require type with
    | .ok value => .ok value
    | .error error => .error error

def listing (controller : PairedController) : List (TlvType × Bytes) :=
  [(.identifier, utf8 controller.id), (.publicKey, controller.publicKey.bytes),
    (.permissions, [controller.permissions.code])]

/-- All controllers, with separators between them. -/
def listingResponse (store : IdentityStore) : Tlv :=
  .ofList ((.state, [2]) ::
    List.intercalate [(.separator, [])] (store.controllerList.map listing))

def carryOut (store : IdentityStore) (request : Tlv) :
    Except Error Tlv × List String × IdentityStore :=
  match request.method? with
  | none => (.error (PairingError.missingTlv TlvType.method.code), [], store)
  | some method =>
    match PairingMethod.ofCode method with
    | .error error => (.error error, [], store)
    | .ok .addPairing =>
      match addedController request with
      | .error error => (.error error, [], store)
      | .ok controller =>
        let (added, store) := store.add controller
        (added.map fun _ => done, [], store)
    | .ok .removePairing =>
      match request.require .identifier with
      | .error error => (.error error, [], store)
      | .ok id =>
        let (removal, store) := store.remove (Text.lossy id)
        (match removal.error with
          | some error => .error error
          | none => .ok done, removal.removed, store)
    | .ok .listPairings => (.ok store.listingResponse, [], store)
    | .ok _ => (.error (PairingError.unsupportedMethod method), [], store)

/-- Carries out a request of the controller that is verified on a connection, if there is one. -/
def processPairings (store : IdentityStore) (controller : Option String) (request : Bytes) :
    Except Error Tlv × List String × IdentityStore :=
  match Tlv.decode request with
  | .error error => (.error error, [], store)
  | .ok tlv =>
    if tlv.state? = some 1 then
      if controller.any store.isAdmin then store.carryOut tlv
      else (.error PairingError.authenticationFailed, [], store)
    else
      (.error (PairingError.sequence 1 (tlv.state?.getD 0)), [], store)

def handlePairings (store : IdentityStore) (controller : Option String) (request : Bytes) :
    PairingsResponse × IdentityStore :=
  let (outcome, removed, store) := store.processPairings controller request
  let body := match outcome with
    | .ok response => response.encode
    | .error error => (Tlv.errorResponse 2 error.code).encode
  ({ body, removed }, store)

end IdentityStore

end HomeKit
