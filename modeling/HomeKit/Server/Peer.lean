import HomeKit.Server.Basic

/-!
# The other side of a connection

A controller that talks to the server: it encrypts what it sends once it has keys, and takes apart
what it receives into responses and events.
-/

namespace HomeKit

structure Peer where
  cipher : Option FrameCipher := none
  /-- How much of what the server sent was received. -/
  received : Nat := 0
  raw : Bytes := []
  plain : Bytes := []
  deriving DecidableEq

namespace Peer

/-- Receives what the server sent so far. Frames that do not decrypt stay as they are. -/
def receive (suite : CipherSuite) (peer : Peer) (sent : Bytes) : Peer :=
  let raw := peer.raw ++ sent.drop peer.received
  let peer := { peer with received := sent.length }
  match peer.cipher with
  | none => { peer with raw := [], plain := peer.plain ++ raw }
  | some cipher =>
    match Registry.decryptFrames suite raw.length cipher raw with
    | (.ok (plaintext, raw), cipher) =>
      { peer with cipher := some cipher, raw, plain := peer.plain ++ plaintext }
    | (.error _, cipher) => { peer with cipher := some cipher, raw }

def setKeys (peer : Peer) (keys : SessionKeys) : Peer :=
  { peer with cipher := some { keys } }

def encrypt (suite : CipherSuite) (peer : Peer) (bytes : Bytes) : Bytes × Peer :=
  match peer.cipher with
  | none => (bytes, peer)
  | some cipher =>
    let (wire, cipher) := cipher.encrypt suite bytes
    (wire.toOption.getD [], { peer with cipher := some cipher })

/-- Takes the next message, once it is complete. -/
def next? (peer : Peer) : Option (Http.Protocol × Bytes × Peer) :=
  match Http.Message.parse peer.plain with
  | .ok (some message) =>
    some (message.protocol, peer.plain.take message.length,
      { peer with plain := peer.plain.drop message.length })
  | _ => none

/-- Takes messages up to a response, at most `count`: the events before it, and the response if it
is there. -/
def nextResponse (peer : Peer) : (count : Nat) → List Bytes × Option Bytes × Peer
  | 0 => ([], none, peer)
  | count + 1 =>
    match peer.next? with
    | none => ([], none, peer)
    | some (.response, bytes, peer) => ([], some bytes, peer)
    | some (.event, bytes, peer) =>
      let (events, response, peer) := peer.nextResponse count
      (bytes :: events, response, peer)

end Peer

end HomeKit
