import HomeKit.Accessory.Basic
import HomeKit.Pairing.Manage

/-!
# Pairing requests

The requests that pair, verify and unpair controllers. Pair-verify and the management of pairings
have two steps each: the machine or the store answers first, and then the sessions are changed.
Between the two, other connections may be served.
-/

namespace HomeKit.Accessory

/-! ## Pair-setup -/

/-- The pair-setup machine of a connection, or a new one. -/
def setupMachine (accessory : Accessory) (conn : ConnectionId) : PairSetup :=
  ((accessory.registry.session? conn).bind (·.pairSetup)).getD
    { conn, setupCode := accessory.setupCode }

def pairSetup (suite : CipherSuite) (accessory : Accessory) (conn : ConnectionId) (body : Bytes) :
    Routed × Accessory :=
  let machine := accessory.setupMachine conn
  let ((response, machine), shared) :=
    (machine.handle suite accessory.store.identity body).run accessory.toSetupShared
  let accessory := { accessory with toSetupShared := shared }
  ({ response := .tlv8 response },
    accessory.modifySession conn fun session => { session with pairSetup := some machine })

/-! ## Pair-verify -/

def verifyMachine (accessory : Accessory) (conn : ConnectionId) : PairVerify :=
  ((accessory.registry.session? conn).bind (·.pairVerify)).getD {}

/-- The first step of pair-verify: the machine is taken out of the session and answers. -/
def runPairVerify (suite : CipherSuite) (accessory : Accessory) (conn : ConnectionId)
    (body : Bytes) : VerifyResponse × PairVerify × Accessory :=
  let machine := accessory.verifyMachine conn
  let accessory := accessory.modifySession conn fun session => { session with pairVerify := none }
  let (response, machine, random) := machine.handle suite accessory.store body accessory.random
  (response, machine, { accessory with random })

/-- The second step of pair-verify: the keys of a verified controller are staged, and otherwise the
machine is put back. -/
def settlePairVerify (accessory : Accessory) (conn : ConnectionId) (response : VerifyResponse)
    (machine : PairVerify) : Routed × Accessory :=
  match response.verified with
  | some verified =>
    ({ response := .tlv8 response.body, activate := true },
      accessory.setRegistry (accessory.registry.stage conn verified.id verified.keys))
  | none =>
    ({ response := .tlv8 response.body },
      accessory.modifySession conn fun session => { session with pairVerify := some machine })

def pairVerify (suite : CipherSuite) (accessory : Accessory) (conn : ConnectionId)
    (body : Bytes) : Routed × Accessory :=
  let (response, machine, accessory) := accessory.runPairVerify suite conn body
  accessory.settlePairVerify conn response machine

/-! ## Managing pairings -/

/-- The first step of managing pairings: the store answers. -/
def runPairings (accessory : Accessory) (conn : ConnectionId) (body : Bytes) :
    PairingsResponse × Accessory :=
  let (response, store) :=
    accessory.store.handlePairings (accessory.registry.controllerOf conn) body
  (response, { accessory with store })

/-- The second step of managing pairings: the connections of controllers that were unpaired are
told to close, and the connection of the request closes after the answer if it is one of them. -/
def closeUnpaired (accessory : Accessory) (conn : ConnectionId) (response : PairingsResponse) :
    Routed × Accessory :=
  let targets := response.removed.flatMap accessory.registry.connectionsOf
  let others := targets.filter (· != conn)
  ({ response := .tlv8 response.body, close := targets.contains conn },
    { accessory with
      connections := others.foldl Connections.requestClose accessory.connections })

def pairings (accessory : Accessory) (conn : ConnectionId) (body : Bytes) : Routed × Accessory :=
  let (response, accessory) := accessory.runPairings conn body
  accessory.closeUnpaired conn response

end HomeKit.Accessory
