import Std.Data.ExtTreeMap
import Std.Data.ExtTreeSet
import HomeKit.Frame
import HomeKit.Identifier
import HomeKit.Pairing.PairSetup
import HomeKit.Pairing.PairVerify

/-!
# Sessions

What the accessory remembers of a connection (`Session`), and the sessions of all connections
(`Registry`). A session starts in plain text. Pair-verify stages keys, and once its last answer is
written the staged keys become the session's cipher (`Registry.activate`); from then on everything
is encrypted.

Subscriptions are kept twice: each session has the set of its characteristics, and an index has the
set of connections of each characteristic.
-/

namespace HomeKit

open Std (ExtTreeMap ExtTreeSet)

/-- What is known of one connection. -/
structure Session where
  hasPeer : Bool := false
  /-- Messages may be queued for the connection. -/
  isAttached : Bool := false
  pairSetup : Option PairSetup := none
  pairVerify : Option PairVerify := none
  /-- The controller of the last pair-verify, from when its keys were staged. -/
  controller : Option String := none
  staged : Option SessionKeys := none
  cipher : Option FrameCipher := none
  subscriptions : ExtTreeSet CharacteristicId := ∅

namespace Session

def isEncrypted (session : Session) : Bool :=
  session.cipher.isSome

/-- The frames sent and received since the cipher was made. -/
def counters (session : Session) : Option (Nat × Nat) :=
  session.cipher.map fun cipher => (cipher.sent, cipher.received)

/-- The controller, once the connection is encrypted. -/
def verifiedController (session : Session) : Option String :=
  if session.isEncrypted then session.controller else none

end Session

structure Registry where
  sessions : ExtTreeMap ConnectionId Session := ∅
  /-- The connections that are subscribed to a characteristic, if there are any. -/
  subscribers : ExtTreeMap CharacteristicId (ExtTreeSet ConnectionId) := ∅

namespace Registry

/-! ## Sessions -/

def session? (registry : Registry) (conn : ConnectionId) : Option Session :=
  registry.sessions[conn]?

/-- The session of a connection, or a new one. -/
def session (registry : Registry) (conn : ConnectionId) : Session :=
  (registry.session? conn).getD {}

/-- Changes the session of a connection, which is made if there is none. -/
def modify (registry : Registry) (conn : ConnectionId) (f : Session → Session) : Registry :=
  { registry with sessions := registry.sessions.insert conn (f (registry.session conn)) }

def attach (registry : Registry) (conn : ConnectionId) : Registry :=
  registry.modify conn fun session => { session with hasPeer := true, isAttached := true }

def isAttached (registry : Registry) (conn : ConnectionId) : Bool :=
  (registry.session? conn).any (·.isAttached)

/-- Notes that no more messages are to be queued for a connection. Its session stays. -/
def detach (registry : Registry) (conn : ConnectionId) : Registry :=
  match registry.session? conn with
  | some session =>
    { registry with sessions := registry.sessions.insert conn { session with isAttached := false } }
  | none => registry

/-- The connections that have a session, in ascending order. -/
def connections (registry : Registry) : List ConnectionId :=
  registry.sessions.keys

def isEncrypted (registry : Registry) (conn : ConnectionId) : Bool :=
  (registry.session? conn).any (·.isEncrypted)

def controllerOf (registry : Registry) (conn : ConnectionId) : Option String :=
  (registry.session? conn).bind (·.verifiedController)

/-- The connections whose session names this controller, in ascending order; for some of them its
keys may only be staged. -/
def connectionsOf (registry : Registry) (controller : String) : List ConnectionId :=
  registry.connections.filter fun conn =>
    (registry.session? conn).any (·.controller == some controller)

/-! ## Keys -/

/-- Holds the keys of a verified controller until they are activated. -/
def stage (registry : Registry) (conn : ConnectionId) (controller : String) (keys : SessionKeys) :
    Registry :=
  registry.modify conn fun session =>
    { session with controller := some controller, staged := some keys }

def stagedKeys (registry : Registry) (conn : ConnectionId) : Option SessionKeys :=
  (registry.session? conn).bind (·.staged)

/-- Makes the staged keys the session's cipher, if there are any; its counters start at zero. -/
def activate (registry : Registry) (conn : ConnectionId) : Registry :=
  match registry.stagedKeys conn with
  | some keys =>
    registry.modify conn fun session => { session with staged := none, cipher := some { keys } }
  | none => registry

def setCipher (registry : Registry) (conn : ConnectionId) (cipher : FrameCipher) : Registry :=
  registry.modify conn fun session => { session with cipher := some cipher }

/-- What a failure of the cipher means for the connection. -/
def cipherFailure : CryptoError → TransportError
  | .nonceExhausted => .connectionClosed
  | _ => .frameIntegrity

/-- The wire form of what is sent: frames, or before activation the plain text itself. -/
def encrypt (suite : CipherSuite) (registry : Registry) (conn : ConnectionId) (plaintext : Bytes) :
    Except TransportError Bytes × Registry :=
  match registry.session? conn with
  | none => (.error (.unknownConnection conn), registry)
  | some session =>
    match session.cipher with
    | none => (.ok plaintext, registry)
    | some cipher =>
      let (wire, cipher) := cipher.encrypt suite plaintext
      (wire.mapError cipherFailure, registry.setCipher conn cipher)

/-- Decrypts the complete frames at the start of a buffer, at most `count`; the plain text comes
with the part of the buffer that is left. -/
def decryptFrames (suite : CipherSuite) :
    (count : Nat) → FrameCipher → Bytes → Except TransportError (Bytes × Bytes) × FrameCipher
  | 0, cipher, raw => (.ok ([], raw), cipher)
  | count + 1, cipher, raw =>
    match Frame.length? raw with
    | .error _ => (.error (.frameTooLarge (ofLittleEndian (raw.take 2))), cipher)
    | .ok none => (.ok ([], raw), cipher)
    | .ok (some length) =>
      if raw.length < length then (.ok ([], raw), cipher)
      else
        match cipher.decrypt suite (raw.take length) with
        | (.error _, cipher) => (.error .frameIntegrity, cipher)
        | (.ok plaintext, cipher) =>
          let (more, cipher) := decryptFrames suite count cipher (raw.drop length)
          (more.map fun (rest, raw) => (plaintext ++ rest, raw), cipher)

/-- The plain text of what was received, and the part of the buffer that is left: the start of a
frame that is not complete. Before activation the whole buffer is plain text. -/
def decrypt (suite : CipherSuite) (registry : Registry) (conn : ConnectionId) (raw : Bytes) :
    Except TransportError (Bytes × Bytes) × Registry :=
  match registry.session? conn with
  | none => (.error (.unknownConnection conn), registry)
  | some session =>
    match session.cipher with
    | none => (.ok (raw, []), registry)
    | some cipher =>
      let (opened, cipher) := decryptFrames suite raw.length cipher raw
      (opened, registry.setCipher conn cipher)

/-! ## Subscriptions -/

def subscribersOf (registry : Registry) (id : CharacteristicId) : List ConnectionId :=
  ((registry.subscribers[id]?).getD ∅).toList

def index (subscribers : ExtTreeMap CharacteristicId (ExtTreeSet ConnectionId))
    (id : CharacteristicId) (conn : ConnectionId) :
    ExtTreeMap CharacteristicId (ExtTreeSet ConnectionId) :=
  subscribers.insert id (((subscribers[id]?).getD ∅).insert conn)

/-- Takes a connection from those of a characteristic; no empty set is kept. -/
def unindex (subscribers : ExtTreeMap CharacteristicId (ExtTreeSet ConnectionId))
    (id : CharacteristicId) (conn : ConnectionId) :
    ExtTreeMap CharacteristicId (ExtTreeSet ConnectionId) :=
  match subscribers[id]? with
  | none => subscribers
  | some conns =>
    let conns := conns.erase conn
    if conns.isEmpty then subscribers.erase id else subscribers.insert id conns

def subscribe (registry : Registry) (conn : ConnectionId) (id : CharacteristicId) : Registry :=
  let registry := registry.modify conn fun session =>
    { session with subscriptions := session.subscriptions.insert id }
  { registry with subscribers := index registry.subscribers id conn }

/-- Ends a subscription, which need not be there. -/
def unsubscribe (registry : Registry) (conn : ConnectionId) (id : CharacteristicId) : Registry :=
  let registry := registry.modify conn fun session =>
    { session with subscriptions := session.subscriptions.erase id }
  { registry with subscribers := unindex registry.subscribers id conn }

def setSubscription (registry : Registry) (conn : ConnectionId) (id : CharacteristicId)
    (on : Bool) : Registry :=
  if on then registry.subscribe conn id else registry.unsubscribe conn id

def remove (registry : Registry) (conn : ConnectionId) : Registry :=
  match registry.session? conn with
  | none => registry
  | some session =>
    { sessions := registry.sessions.erase conn
      subscribers := session.subscriptions.toList.foldl (fun subscribers id =>
        unindex subscribers id conn) registry.subscribers }

end Registry

end HomeKit
