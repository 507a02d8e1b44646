import HomeKit.Connection.Session
import HomeKit.Notification

/-!
# Outgoing messages

Whatever is to be sent on a connection goes into its `Outbox` first, responses and events in one
queue, so they are encrypted in the order in which they are sent. `Connections` joins the sessions
with their outboxes; an outbox outlives its session until what is in it was sent. An event goes to
every subscriber that can take it (`Connections.broadcast`).
-/

namespace HomeKit

open Std (ExtTreeMap)

inductive Outgoing where
  /-- A response; with `activate` set, staged keys are activated once it is written. -/
  | response (bytes : Bytes) (activate : Bool)
  | event (bytes : Bytes)
  deriving DecidableEq

namespace Outgoing

def bytes : Outgoing → Bytes
  | response bytes _ | event bytes => bytes

def activates : Outgoing → Bool
  | response _ activate => activate
  | event _ => false

end Outgoing

structure Outbox where
  capacity : Nat
  messages : List Outgoing := []
  /-- Is there still someone who sends the messages? -/
  isOpen : Bool := true
  closeRequested : Bool := false
  deriving DecidableEq

namespace Outbox

def hasRoom (outbox : Outbox) : Bool :=
  outbox.isOpen && outbox.messages.length < outbox.capacity

def push (outbox : Outbox) (message : Outgoing) : Outbox :=
  { outbox with messages := outbox.messages ++ [message] }

/-- Drops the messages, which nobody will send. -/
def shut (outbox : Outbox) : Outbox :=
  { outbox with messages := [], isOpen := false }

end Outbox

/-- The sessions of all connections, and their outboxes. -/
structure Connections where
  registry : Registry := {}
  outboxes : ExtTreeMap ConnectionId Outbox := ∅

namespace Connections

def outbox? (connections : Connections) (conn : ConnectionId) : Option Outbox :=
  connections.outboxes[conn]?

def modifyOutbox (connections : Connections) (conn : ConnectionId) (f : Outbox → Outbox) :
    Connections :=
  match connections.outbox? conn with
  | some outbox => { connections with outboxes := connections.outboxes.insert conn (f outbox) }
  | none => connections

theorem modifyOutbox_registry (connections : Connections) (conn : ConnectionId)
    (f : Outbox → Outbox) : (connections.modifyOutbox conn f).registry = connections.registry := by
  unfold modifyOutbox
  split
  · rfl
  · rfl

theorem foldl_registry {α : Type} {f : Connections → α → Connections}
    (hf : ∀ connections a, (f connections a).registry = connections.registry) (as : List α)
    (connections : Connections) : (as.foldl f connections).registry = connections.registry := by
  induction as generalizing connections with
  | nil => rfl
  | cons a rest ih => exact (ih _).trans (hf connections a)

def attach (connections : Connections) (conn : ConnectionId) (capacity : Nat) : Connections where
  registry := connections.registry.attach conn
  outboxes := connections.outboxes.insert conn { capacity }

def takesEvents (connections : Connections) (conn : ConnectionId) : Bool :=
  connections.registry.isEncrypted conn && connections.registry.isAttached conn &&
    (connections.outbox? conn).any (·.hasRoom)

/-- The connections that are told of a change by `origin`. -/
def recipients (connections : Connections) (id : CharacteristicId) (origin : Option ConnectionId) :
    List ConnectionId :=
  (connections.registry.subscribersOf id).filter fun conn =>
    origin != some conn && connections.takesEvents conn

/-- Queues an event for every subscriber but the origin of the change, and counts them. -/
def broadcast (connections : Connections) (id : CharacteristicId) (value : Json)
    (origin : Option ConnectionId) : Nat × Connections :=
  let recipients := connections.recipients id origin
  let message := Outgoing.event (eventMessage id value)
  (recipients.length, recipients.foldl (fun connections conn =>
    connections.modifyOutbox conn (·.push message)) connections)

theorem broadcast_registry (connections : Connections) (id : CharacteristicId) (value : Json)
    (origin : Option ConnectionId) :
    (connections.broadcast id value origin).2.registry = connections.registry :=
  foldl_registry (fun _ _ => modifyOutbox_registry ..) _ _

/-- Tells a connection to close, if messages may be queued for it. -/
def requestClose (connections : Connections) (conn : ConnectionId) : Connections :=
  if connections.registry.isAttached conn then
    connections.modifyOutbox conn fun outbox => { outbox with closeRequested := true }
  else connections

theorem requestClose_registry (connections : Connections) (conn : ConnectionId) :
    (connections.requestClose conn).registry = connections.registry := by
  unfold requestClose
  split
  · exact modifyOutbox_registry ..
  · rfl

end Connections

end HomeKit
