import HomeKit.Chunks
import HomeKit.Connection.Session

/-!
# The receiving side of a connection

A `FrameReader` stands between a stream of bytes and whoever reads requests from it. It takes what
arrived piece by piece, decrypts the frames that are complete, and hands out plain text; before the
connection is encrypted, what arrives is handed out as it is.
-/

namespace HomeKit

/-- What arrived on a connection and was not read yet. -/
structure Arrivals where
  /-- The pieces in which it will be read; an empty piece looks like the end of the stream. -/
  pieces : List Bytes := []
  ended : Bool := false
  deriving DecidableEq

namespace Arrivals

/-- The most bytes that are read at once. -/
def readLimit : Nat := 4096

def piecesOf (segment : Bytes) : List Bytes :=
  if segment.isEmpty then [[]] else chunks readLimit segment

def ofSegments (segments : List Bytes) : Arrivals where
  pieces := segments.flatMap piecesOf
  ended := true

def deliver (arrivals : Arrivals) (bytes : Bytes) : Arrivals :=
  { arrivals with pieces := arrivals.pieces ++ chunks readLimit bytes }

def finish (arrivals : Arrivals) : Arrivals :=
  { arrivals with ended := true }

end Arrivals

inductive ReadResult where
  /-- Plain text; none at all is the end of the stream. -/
  | data (plaintext : Bytes)
  /-- More has to arrive first. -/
  | pending
  | failed (error : IoError)
  deriving DecidableEq

/-- The bytes between the stream and its reader. -/
structure FrameReader where
  /-- Bytes of the stream that are not decrypted yet. -/
  raw : Bytes := []
  /-- Plain text that is not handed out yet. -/
  plain : Bytes := []
  deriving DecidableEq

namespace FrameReader

/-- What getting more plain text gives, with the bytes that are still not decrypted, the sessions
and the pieces that are left. -/
structure Fetched where
  result : ReadResult
  raw : Bytes
  registry : Registry
  pieces : List Bytes

/-- The end of the stream, which must not be within a frame. -/
def endOfStream (raw : Bytes) : ReadResult :=
  if raw.isEmpty then .data []
  else .failed { kind := .unexpectedEof, transport := some .connectionClosed }

/-- Takes pieces until there is plain text. -/
def fetch (suite : CipherSuite) (conn : ConnectionId) (ended : Bool) (registry : Registry)
    (raw : Bytes) (pieces : List Bytes) : Fetched :=
  let (opened, registry) :=
    if raw.isEmpty then (.ok ([], []), registry) else registry.decrypt suite conn raw
  match opened with
  | .error error =>
    ⟨.failed { kind := .invalidData, transport := some error }, raw, registry, pieces⟩
  | .ok (b :: plaintext, raw) => ⟨.data (b :: plaintext), raw, registry, pieces⟩
  | .ok ([], raw) =>
    match pieces with
    | [] => ⟨if ended then endOfStream raw else .pending, raw, registry, []⟩
    | [] :: pieces => ⟨endOfStream raw, raw, registry, pieces⟩
    | (b :: piece) :: pieces => fetch suite conn ended registry (raw ++ b :: piece) pieces

structure Step where
  result : ReadResult
  reader : FrameReader
  registry : Registry
  arrivals : Arrivals

/-- Reads at most `capacity` bytes of plain text. -/
def read (suite : CipherSuite) (conn : ConnectionId) (registry : Registry) (reader : FrameReader)
    (arrivals : Arrivals) (capacity : Nat) : Step :=
  match reader.plain with
  | [] =>
    let fetched := fetch suite conn arrivals.ended registry reader.raw arrivals.pieces
    let arrivals := { arrivals with pieces := fetched.pieces }
    match fetched.result with
    | .data plaintext =>
      ⟨.data (plaintext.take capacity), ⟨fetched.raw, plaintext.drop capacity⟩, fetched.registry,
        arrivals⟩
    | result => ⟨result, ⟨fetched.raw, []⟩, fetched.registry, arrivals⟩
  | plaintext =>
    ⟨.data (plaintext.take capacity), { reader with plain := plaintext.drop capacity }, registry,
      arrivals⟩

end FrameReader

end HomeKit
