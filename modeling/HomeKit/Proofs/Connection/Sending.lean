import HomeKit.Connection.FrameWriter
import HomeKit.Connection.Outbox
import HomeKit.Proofs.Accessory.Writes
import HomeKit.Proofs.Connection.Nonces

/-!
# What is sent on a connection

The writing side of a connection takes one message after another from the outbox, encrypts it and
passes it on, and activates the staged keys behind the response that says so. Meanwhile the reading
side answers requests, other connections broadcast events, and the stream takes bytes when it likes:
all of them take turns in any order (`OutgoingTraffic.turn`).

Whoever broadcasts looks whether the connection is encrypted first and queues the event later, so
these are two turns. The reading side stages no keys while an answer that activates keys is still to
be written, for it reads nothing until then.
-/

namespace HomeKit

/-- What the reading side of a connection does next. -/
inductive AnsweringStage where
  /-- Nothing is read: not yet, or not any more. -/
  | away
  | free
  /-- Pair-verify has staged keys, and the answer that activates them is not queued yet. -/
  | verified (keys : SessionKeys)
  /-- It waits until the staged keys are activated. -/
  | activating

namespace AnsweringStage

/-- The staged keys are activated. -/
def resume : AnsweringStage → AnsweringStage
  | activating => free
  | stage => stage

end AnsweringStage

/-- What the writing side of a connection is doing. -/
inductive WritingStage where
  | idle
  | writing (message : Outgoing)
  | flushing (activates : Bool)
  /-- The queue is at its end. -/
  | finishing
  | stopped

/-- The message that is taken from the outbox and not encrypted yet. -/
def WritingStage.inHand : WritingStage → List Outgoing
  | writing message => [message]
  | _ => []

/-- A connection with what is sent on it, and the connections it is one of. -/
structure OutgoingTraffic where
  connections : Connections := {}
  reader : AnsweringStage := .away
  /-- Events for which the connection was found to be encrypted, and which are not queued yet. -/
  announced : List Bytes := []
  stage : WritingStage := .idle
  writer : FrameWriter := {}
  sink : Sink := {}
  /-- All messages that were queued so far. -/
  queued : List Outgoing := []
  /-- All messages that were handed to the frame writer so far. -/
  sealed : List Outgoing := []
  /-- The keys that were staged for each of the queued responses that activate keys. -/
  keys : List SessionKeys := []

/-- The call keeps the session, its staged keys and its cipher. -/
def ConnectionCall.keepsKeys : ConnectionCall → Bool
  | change _ | detach | decrypt _ | subscribe .. => true
  | attach _ | stage .. | activate | encrypt _ | remove => false

inductive OutgoingTurn (conn : ConnectionId) where
  /-- The connection is accepted. The stream will answer like this when bytes are offered to it. -/
  | accept (capacity : Nat) (answers : Nat → SinkAnswer)
  /-- The reading side queues an answer that changes no keys. -/
  | answer (bytes : Bytes)
  /-- The reading side does something else with the session. -/
  | serve (call : ConnectionCall)
  | stage (controller : String) (keys : SessionKeys)
  /-- The reading side queues the answer that activates the staged keys. -/
  | answerVerified (bytes : Bytes)
  /-- The reading side ends. -/
  | leave
  /-- The session is forgotten. -/
  | remove
  | requestClose
  /-- Someone who broadcasts looks whether the connection is encrypted. -/
  | announce (id : CharacteristicId) (value : Json)
  /-- Someone who broadcasts queues an event. -/
  | tell (event : Bytes)
  /-- The writing side takes a message from the outbox. -/
  | receive
  /-- The writing side goes on as far as the stream lets it. -/
  | poll
  /-- The writing side finds that nobody will queue a message. -/
  | finish
  /-- Something is done that leaves this connection alone. -/
  | elsewhere (f : Connections → Connections)
    (hf : ∀ connections, Connections.Untouched connections (f connections) conn)

namespace OutgoingTraffic

section Turns

variable (suite : CipherSuite) (conn : ConnectionId) (traffic : OutgoingTraffic)

def session? : Option Session :=
  traffic.connections.registry.session? conn

def outbox? : Option Outbox :=
  traffic.connections.outbox? conn

/-- The messages in the outbox. -/
def messages : List Outgoing :=
  ((traffic.outbox? conn).map (·.messages)).getD []

def hasRoom : Bool :=
  (traffic.outbox? conn).any (·.hasRoom)

def queue (message : Outgoing) : OutgoingTraffic :=
  { traffic with
    connections := traffic.connections.modifyOutbox conn (·.push message)
    queued := traffic.queued ++ [message] }

/-- Makes a call on the connection. -/
def call (call : ConnectionCall) : OutgoingTraffic :=
  { traffic with connections := traffic.connections.call suite conn call }

def setRegistry (registry : Registry) : OutgoingTraffic :=
  { traffic with connections := { traffic.connections with registry } }

/-- Nothing more is written, and the reading side is told so. -/
def stop : OutgoingTraffic :=
  { traffic with
    connections := traffic.connections.modifyOutbox conn fun outbox =>
      { outbox.shut with closeRequested := true }
    stage := .stopped }

/-- A message has been written. -/
def complete (activates : Bool) : OutgoingTraffic :=
  if activates then
    { traffic.setRegistry (traffic.connections.registry.activate conn) with
      reader := traffic.reader.resume
      stage := .idle }
  else { traffic with stage := .idle }

/-- Hands a message to the frame writer; there is nothing to hand over of an empty one. -/
def write (message : Outgoing) : OutgoingTraffic :=
  if message.bytes.isEmpty then
    { traffic with
      stage := .flushing message.activates
      sealed := traffic.sealed ++ [message] }
  else
    match traffic.writer.write suite conn traffic.connections.registry traffic.sink
        message.bytes with
    | (.pending, writer, sink, registry) => { traffic.setRegistry registry with writer, sink }
    | (.ready (.error _), writer, sink, registry) =>
      stop conn { traffic.setRegistry registry with writer, sink }
    | (.ready (.ok _), writer, sink, registry) =>
      { traffic.setRegistry registry with
        writer, sink
        stage := .flushing message.activates
        sealed := traffic.sealed ++ [message] }

/-- Goes on with what the writing side is doing, as far as the stream lets it. -/
def poll : OutgoingTraffic :=
  match traffic.stage with
  | .idle | .stopped => traffic
  | .writing message => traffic.write suite conn message
  | .flushing activates =>
    match traffic.writer.flush traffic.sink with
    | (.pending, writer, sink) => { traffic with writer, sink }
    | (.ready (.error _), writer, sink) => stop conn { traffic with writer, sink }
    | (.ready (.ok _), writer, sink) => complete conn { traffic with writer, sink } activates
  | .finishing =>
    match traffic.writer.shutdown traffic.sink with
    | (.pending, writer, sink) => { traffic with writer, sink }
    | (.ready _, writer, sink) => stop conn { traffic with writer, sink }

/-- Takes the next message from the outbox. -/
def receive : OutgoingTraffic :=
  match traffic.stage, traffic.messages conn with
  | .idle, message :: rest =>
    { traffic with
      connections := traffic.connections.modifyOutbox conn fun outbox =>
        { outbox with messages := rest }
      stage := .writing message }
  | _, _ => traffic

/-- One turn, which changes nothing if it is not the time for it. -/
def turn : OutgoingTurn conn → OutgoingTraffic
  | .accept capacity answers =>
    if (traffic.outbox? conn).isSome then traffic
    else
      { traffic.call suite conn (.attach capacity) with
        reader := .free
        sink := { traffic.sink with answers } }
  | .answer bytes =>
    match traffic.reader with
    | .away => traffic
    | _ => if traffic.hasRoom conn then traffic.queue conn (.response bytes false) else traffic
  | .serve call =>
    match traffic.reader with
    | .away => traffic
    | _ => if call.keepsKeys then traffic.call suite conn call else traffic
  | .stage controller keys =>
    match traffic.reader with
    | .free | .verified _ =>
      { traffic.call suite conn (.stage controller keys) with reader := .verified keys }
    | _ => traffic
  | .answerVerified bytes =>
    match traffic.reader with
    | .verified keys =>
      if traffic.hasRoom conn then
        { traffic.queue conn (.response bytes true) with
          reader := .activating
          keys := traffic.keys ++ [keys] }
      else traffic
    | _ => traffic
  | .leave =>
    match traffic.reader with
    | .away => traffic
    | _ => { traffic.call suite conn .detach with reader := .away }
  | .remove =>
    match traffic.reader with
    | .away => traffic.call suite conn .remove
    | _ => traffic
  | .requestClose =>
    { traffic with connections := traffic.connections.requestClose conn }
  | .announce id value =>
    if traffic.connections.registry.isEncrypted conn then
      { traffic with announced := traffic.announced ++ [eventMessage id value] }
    else traffic
  | .tell event =>
    if event ∈ traffic.announced ∧ traffic.hasRoom conn then
      { traffic.queue conn (.event event) with announced := traffic.announced.erase event }
    else traffic
  | .receive => traffic.receive conn
  | .poll => traffic.poll suite conn
  | .finish =>
    match traffic.stage, (traffic.outbox? conn).map (·.messages), traffic.reader with
    | .idle, some [], .away => { traffic with stage := .finishing }
    | _, _, _ => traffic
  | .elsewhere f _ => { traffic with connections := f traffic.connections }

def run (turns : List (OutgoingTurn conn)) : OutgoingTraffic :=
  turns.foldl (turn suite conn) traffic

end Turns

end OutgoingTraffic

end HomeKit
