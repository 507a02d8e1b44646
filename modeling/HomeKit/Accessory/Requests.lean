import HomeKit.Accessory.Characteristics
import HomeKit.Accessory.Pairing

/-!
# Requests

Every request goes to an `Endpoint` by its path. Only pairing, verifying and identifying are
possible before the connection is encrypted.
-/

namespace HomeKit

inductive Endpoint where
  | pairSetup
  | pairVerify
  | pairings
  | identify
  | accessories
  | characteristics
  deriving DecidableEq, Repr

namespace Endpoint

def ofPath? (path : String) : Option Endpoint :=
  if path = "/pair-setup" then some pairSetup
  else if path = "/pair-verify" then some pairVerify
  else if path = "/pairings" then some pairings
  else if path = "/identify" then some identify
  else if path = "/accessories" then some accessories
  else if path = "/characteristics" then some characteristics
  else none

/-- Is the endpoint there for connections that are not encrypted, too? -/
def isOpen : Endpoint → Bool
  | pairSetup | pairVerify | identify => true
  | pairings | accessories | characteristics => false

end Endpoint

namespace Accessory

/-- Answers a request to identify the accessory, which is possible while it is not paired. -/
def identify (accessory : Accessory) : Http.Response :=
  if accessory.store.isPaired then statusResponse 400 .insufficientPrivileges
  else
    match accessory.database.identify with
    | .ok _ => .noContent
    | .error status => statusResponse 500 status

def serve (suite : CipherSuite) (accessory : Accessory) (conn : ConnectionId)
    (request : Http.Request) (endpoint : Endpoint) : Routed × Accessory :=
  match request.method, endpoint with
  | .post, .pairSetup => accessory.pairSetup suite conn request.body
  | .post, .pairVerify => accessory.pairVerify suite conn request.body
  | .post, .pairings => accessory.pairings conn request.body
  | .post, .identify => ({ response := accessory.identify }, accessory)
  | .get, .accessories => ({ response := .json 200 accessory.database.document }, accessory)
  | .get, .characteristics => ({ response := accessory.readCharacteristics request }, accessory)
  | .put, .characteristics =>
    let (response, accessory) := accessory.writeCharacteristics conn request.body
    ({ response }, accessory)
  | _, _ => ({ response := .ofStatus 405 }, accessory)

def handle (suite : CipherSuite) (accessory : Accessory) (conn : ConnectionId)
    (request : Http.Request) : Routed × Accessory :=
  let endpoint := Endpoint.ofPath? request.path
  if !endpoint.any (·.isOpen) && !accessory.registry.isEncrypted conn then
    ({ response := statusResponse 470 .insufficientPrivileges }, accessory)
  else
    match endpoint with
    | some endpoint => accessory.serve suite conn request endpoint
    | none => ({ response := .ofStatus 404 }, accessory)

end Accessory

end HomeKit
