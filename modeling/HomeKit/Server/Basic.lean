import HomeKit.Accessory.Requests
import HomeKit.Config
import HomeKit.Connection.FrameReader
import HomeKit.Http.RequestReader

/-!
# The server

A server accepts connections and answers what arrives on them. Each connection has a reading side,
which takes requests and queues their answers, and a writing side, which sends what is queued. The
two sides of all connections take turns in any order, one `ServerStep` at a time. What nothing fixes
is chosen by the step: whether a reading side that is to close looks at what arrived first, and in
which order the headers of a request are looked at (`ReadChoice`).

The reading side of a connection that is about to change its keys waits until the writing side has
sent the last answer in plain text and activated them.
-/

namespace HomeKit

open Std (ExtTreeMap)

/-- What the reading side of a connection is about to do. -/
inductive ReadingStage where
  | reading
  /-- An answer waits for room in the outbox. -/
  | answering (answer : Bytes) (activate close : Bool)
  /-- It waits until the staged keys are activated. -/
  | activating (close : Bool)
  /-- It reads nothing more; what is queued is still sent. -/
  | done
  | closed
  deriving DecidableEq

structure Link where
  arrivals : Arrivals := {}
  frames : FrameReader := {}
  /-- Plain text that was read and not looked at yet. -/
  buffered : Bytes := []
  request : Http.RequestReader
  stage : ReadingStage := .reading
  sent : Bytes := []
  /-- The other side is gone, and nothing can be sent. -/
  isBroken : Bool := false

def Link.isOpen (link : Link) : Bool :=
  link.stage != .closed

/-- The server: the accessory, its connections, and how many may be open. -/
structure Server where
  accessory : Accessory
  links : ExtTreeMap ConnectionId Link := ∅
  maxConnections : Nat
  nextId : ConnectionId := 1

namespace Server

def outboxCapacity : Nat := 32

def bufferSize : Nat := 8 * 1024

/-- The server of a configuration, which has to name a valid setup code. -/
def ofConfig (config : Config) (store : IdentityStore) (database : AttributeDatabase)
    (random : Entropy) : Except Error Server :=
  match config.setupCode with
  | .error error => .error error
  | .ok setupCode =>
    .ok {
      accessory := { store, random, setupCode, database }
      maxConnections := config.server.maxConnections.toNat }

def link? (server : Server) (conn : ConnectionId) : Option Link :=
  server.links[conn]?

def setLink (server : Server) (conn : ConnectionId) (link : Link) : Server :=
  { server with links := server.links.insert conn link }

def setConnections (server : Server) (connections : Connections) : Server :=
  { server with accessory := { server.accessory with connections } }

def connections (server : Server) : Connections :=
  server.accessory.connections

def outbox? (server : Server) (conn : ConnectionId) : Option Outbox :=
  server.connections.outbox? conn

def modifyOutbox (server : Server) (conn : ConnectionId) (f : Outbox → Outbox) : Server :=
  server.setConnections (server.connections.modifyOutbox conn f)

/-! ## From outside -/

def openCount (server : Server) : Nat :=
  (server.links.values.filter (·.isOpen)).length

/-- Accepts a connection, unless there are too many. -/
def accept (server : Server) (order : Http.HeaderOrder := .sorted) :
    Option ConnectionId × Server :=
  if server.openCount < server.maxConnections then
    let conn := server.nextId
    let server := server.setConnections (server.connections.attach conn outboxCapacity)
    (some conn, { server.setLink conn { request := .start order } with nextId := conn + 1 })
  else (none, server)

def deliver (server : Server) (conn : ConnectionId) (bytes : Bytes) : Server :=
  match server.link? conn with
  | some link => server.setLink conn { link with arrivals := link.arrivals.deliver bytes }
  | none => server

/-- The other side sends nothing more. -/
def endArrivals (server : Server) (conn : ConnectionId) : Server :=
  match server.link? conn with
  | some link => server.setLink conn { link with arrivals := link.arrivals.finish }
  | none => server

/-- The other side is gone. -/
def lose (server : Server) (conn : ConnectionId) : Server :=
  match server.link? conn with
  | some link =>
    server.setLink conn { link with arrivals := link.arrivals.finish, isBroken := true }
  | none => server

/-- Tells subscribers of a value that changed on the accessory, and counts them. -/
def broadcast (server : Server) (id : CharacteristicId) (value : Json) : Nat × Server :=
  let (count, connections) := server.connections.broadcast id value none
  (count, server.setConnections connections)

def stop (server : Server) : Server :=
  server.setConnections
    (server.connections.registry.connections.foldl Connections.requestClose server.connections)

/-! ## The reading side -/

/-- Reads nothing more from a connection; no more messages are queued for it. -/
def finishReading (server : Server) (conn : ConnectionId) (link : Link) : Server :=
  let server := server.setLink conn { link with stage := .done }
  server.setConnections { server.connections with
    registry := server.connections.registry.detach conn }

/-- The answer to something that is no request, after which the connection is closed. Where the
stream itself failed there is none. -/
def refusal? : Error → Option ReadingStage
  | .parse _ | .transport (.requestTooLarge _) =>
    some (.answering (Http.Response.ofStatus 400).serialize false true)
  | _ => none

def refuse (server : Server) (conn : ConnectionId) (link : Link) (error : Error) : Server :=
  match refusal? error with
  | some stage => server.setLink conn { link with stage }
  | none => server.finishReading conn link

/-- Answers a request. The headers of the next one will be looked at in the given order. -/
def answer (suite : CipherSuite) (server : Server) (conn : ConnectionId) (link : Link)
    (order : Http.HeaderOrder) (request : Http.Request) : Server :=
  let (routed, accessory) := server.accessory.handle suite conn request
  { server with accessory }.setLink conn { link with
    request := .start order
    stage := .answering routed.response.serialize routed.activate routed.close }

/-- Reads more plain text; `fresh` says that there was something to look at before. There is no step
if nothing arrived. -/
def readMore (suite : CipherSuite) (server : Server) (conn : ConnectionId) (link : Link)
    (fresh : Bool) : Option Server :=
  let step := link.frames.read suite conn server.connections.registry link.arrivals bufferSize
  let idle := !fresh && link.arrivals.pieces.isEmpty
  let link := { link with arrivals := step.arrivals, frames := step.reader }
  let server := server.setConnections { server.connections with registry := step.registry }
  match step.result with
  | .pending => if idle then none else some (server.setLink conn link)
  | .failed error => some (server.refuse conn link (.connection error))
  | .data [] =>
    match link.request.endError? with
    | some error => some (server.refuse conn link error)
    | none => some (server.finishReading conn link)
  | .data plaintext => some (server.setLink conn { link with buffered := plaintext })

/-- Looks at what was read, and reads more if that is no complete request. -/
def readRequest (suite : CipherSuite) (server : Server) (conn : ConnectionId) (link : Link)
    (order : Http.HeaderOrder) : Option Server :=
  match link.request.feed link.buffered with
  | (.request request, buffered) =>
    some (server.answer suite conn { link with buffered } order request)
  | (.failed error, buffered) => some (server.refuse conn { link with buffered } error)
  | (.more request, _) =>
    server.readMore suite conn { link with request, buffered := [] } !link.buffered.isEmpty

/-- Queues an answer, once there is room. -/
def queueAnswer (server : Server) (conn : ConnectionId) (link : Link) (outbox : Outbox)
    (bytes : Bytes) (activate close : Bool) : Option Server :=
  if !outbox.isOpen then some (server.finishReading conn link)
  else if !outbox.hasRoom then none
  else
    let server := server.modifyOutbox conn (·.push (.response bytes activate))
    if activate then some (server.setLink conn { link with stage := .activating close })
    else if close then some (server.finishReading conn link)
    else some (server.setLink conn { link with stage := .reading })

/-- What nothing fixes about a step of a reading side. -/
structure ReadChoice where
  /-- When it is to close, does it do so before it looks at what arrived? -/
  closesFirst : Bool := true
  /-- The order in which the headers of the next request will be looked at. -/
  order : Http.HeaderOrder := .sorted

/-- A step of the reading side of a connection, if it can take one. A request to close stays until
it is taken. -/
def readStep (suite : CipherSuite) (server : Server) (conn : ConnectionId) (choice : ReadChoice) :
    Option Server :=
  match server.link? conn, server.outbox? conn with
  | some link, some outbox =>
    match link.stage with
    | .reading =>
      if outbox.closeRequested && choice.closesFirst then some (server.finishReading conn link)
      else server.readRequest suite conn link choice.order
    | .answering bytes activate close => server.queueAnswer conn link outbox bytes activate close
    | .activating _ =>
      if outbox.closeRequested then some (server.finishReading conn link) else none
    | .done | .closed => none
  | _, _ => none

/-! ## The writing side -/

/-- Closes a connection on which nothing more happens, and forgets its session. -/
def close (server : Server) (conn : ConnectionId) (link : Link) : Server :=
  let accessory := server.accessory.removeSession conn
  let connections :=
    { accessory.connections with outboxes := accessory.connections.outboxes.erase conn }
  { server with accessory := { accessory with connections } }.setLink conn
    { link with stage := .closed }

def stopWriting (server : Server) (conn : ConnectionId) : Server :=
  server.modifyOutbox conn fun outbox => { outbox.shut with closeRequested := true }

def resumeReading (server : Server) (conn : ConnectionId) (link : Link) : Server :=
  match link.stage with
  | .activating true => server.finishReading conn link
  | .activating false => server.setLink conn { link with stage := .reading }
  | _ => server

def send (suite : CipherSuite) (server : Server) (conn : ConnectionId) (link : Link)
    (message : Outgoing) : Server :=
  if link.isBroken then server.stopWriting conn
  else
    match server.connections.registry.encrypt suite conn message.bytes with
    | (.error _, registry) =>
      (server.setConnections { server.connections with registry }).stopWriting conn
    | (.ok wire, registry) =>
      let link := { link with sent := link.sent ++ wire }
      if message.activates then
        let server := server.setConnections
          { server.connections with registry := registry.activate conn }
        (server.setLink conn link).resumeReading conn link
      else (server.setConnections { server.connections with registry }).setLink conn link

/-- A step of the writing side of a connection, if it can take one. -/
def writeStep (suite : CipherSuite) (server : Server) (conn : ConnectionId) : Option Server :=
  match server.link? conn, server.outbox? conn with
  | some link, some outbox =>
    match outbox.messages with
    | message :: rest =>
      let server := server.modifyOutbox conn fun outbox => { outbox with messages := rest }
      some (server.send suite conn link message)
    | [] => if link.stage = .done then some (server.close conn link) else none
  | _, _ => none

end Server

/-! ## Steps -/

inductive ServerStep where
  | accept (order : Http.HeaderOrder := .sorted)
  | deliver (conn : ConnectionId) (bytes : Bytes)
  | endArrivals (conn : ConnectionId)
  | lose (conn : ConnectionId)
  | read (conn : ConnectionId) (choice : Server.ReadChoice := {})
  | write (conn : ConnectionId)
  | broadcast (id : CharacteristicId) (value : Json)
  | stop

def Server.take (suite : CipherSuite) (server : Server) : ServerStep → Server
  | .accept order => (server.accept order).2
  | .deliver conn bytes => server.deliver conn bytes
  | .endArrivals conn => server.endArrivals conn
  | .lose conn => server.lose conn
  | .read conn choice => (server.readStep suite conn choice).getD server
  | .write conn => (server.writeStep suite conn).getD server
  | .broadcast id value => (server.broadcast id value).2
  | .stop => server.stop

def Server.run (suite : CipherSuite) (server : Server) (steps : List ServerStep) : Server :=
  steps.foldl (Server.take suite) server

/-- A step of any connection, if one can take a step. -/
def Server.anyStep (suite : CipherSuite) (server : Server) : Option Server :=
  server.links.keys.findSome? fun conn =>
    (server.writeStep suite conn).or (server.readStep suite conn {})

/-- What is the case after at most `count` steps of the connections. -/
def Server.settle (suite : CipherSuite) (server : Server) : (count : Nat) → Server
  | 0 => server
  | count + 1 =>
    match server.anyStep suite with
    | some server => server.settle suite count
    | none => server

end HomeKit
