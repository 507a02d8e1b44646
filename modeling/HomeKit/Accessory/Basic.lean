import HomeKit.AttributeDatabase
import HomeKit.Connection.Outbox
import HomeKit.Http.Request
import HomeKit.Http.Response

/-!
# The accessory

Everything that requests are answered from: the pairings, the attribute database, the setup code,
and the connections with their sessions. The pair-setup machine of a connection lives in its
session, so that forgetting a connection also frees the setup slot that it may hold.
-/

namespace HomeKit

structure Accessory extends SetupShared where
  setupCode : SetupCode
  database : AttributeDatabase
  connections : Connections := {}

/-- The answer to a request, and what is to happen after it is sent. -/
structure Routed where
  response : Http.Response
  /-- Staged keys are activated. -/
  activate : Bool := false
  /-- The connection is closed. -/
  close : Bool := false
  deriving DecidableEq

def statusResponse (code : UInt16) (status : HapStatus) : Http.Response :=
  .json code (.ofMembers [status.member])

namespace Accessory

def registry (accessory : Accessory) : Registry :=
  accessory.connections.registry

def setRegistry (accessory : Accessory) (registry : Registry) : Accessory :=
  { accessory with connections := { accessory.connections with registry } }

/-- Changes the session of a connection, which is made if there is none. -/
def modifySession (accessory : Accessory) (conn : ConnectionId) (f : Session → Session) :
    Accessory :=
  accessory.setRegistry (accessory.registry.modify conn f)

/-- Forgets a connection; if it holds the setup slot, the slot is free again. -/
def removeSession (accessory : Accessory) (conn : ConnectionId) : Accessory :=
  let machine := (accessory.registry.session? conn).bind (·.pairSetup)
  let accessory := accessory.setRegistry (accessory.registry.remove conn)
  match machine with
  | some machine => { accessory with attempts := accessory.attempts.release machine.conn }
  | none => accessory

end Accessory

end HomeKit
