import HomeKit.Connection.Session

/-!
# The sending side of a connection

A `FrameWriter` encrypts what is written and passes it on to a stream that may take it in parts, or
not at once (`Sink`). What is encrypted but not passed on is kept, and nothing more is encrypted
until it is passed on.
-/

namespace HomeKit

inductive SinkAnswer where
  | notReady
  | takes (limit : Nat)
  | takesAll
  deriving DecidableEq, Repr

inductive SinkCall where
  | flush
  | shutdown
  deriving DecidableEq, Repr

structure Sink where
  /-- Its answers to the offers, one after another. -/
  answers : Nat → SinkAnswer := fun _ => .takesAll
  offers : Nat := 0
  taken : Bytes := []
  calls : List SinkCall := []

/-- What a call that may have to wait gives. -/
inductive Poll (α : Type) where
  | ready (result : Except IoError α)
  | pending

/-- The bytes that are encrypted but not passed on. -/
structure FrameWriter where
  waiting : Bytes := []
  deriving DecidableEq

namespace FrameWriter

/-- Offers bytes while the stream takes them, after `offers` earlier offers. Those that are left are
returned, with the number of offers. -/
def offer (answers : Nat → SinkAnswer) (waiting : Bytes) (offers : Nat) : Poll Unit × Bytes × Nat :=
  match waiting with
  | [] => (.ready (.ok ()), [], offers)
  | b :: rest =>
    match answers offers with
    | .notReady => (.pending, b :: rest, offers + 1)
    | .takesAll => (.ready (.ok ()), [], offers + 1)
    | .takes 0 => (.ready (.error { kind := .writeZero }), b :: rest, offers + 1)
    | .takes (n + 1) => offer answers (rest.drop n) (offers + 1)
termination_by waiting.length
decreasing_by
  simp only [List.length_drop, List.length_cons]
  omega

def drain (writer : FrameWriter) (sink : Sink) : Poll Unit × FrameWriter × Sink :=
  let (poll, waiting, offers) := offer sink.answers writer.waiting sink.offers
  let passed := writer.waiting.take (writer.waiting.length - waiting.length)
  (poll, ⟨waiting⟩, { sink with offers, taken := sink.taken ++ passed })

/-- Writes plain text, once what is waiting is passed on. All of it is taken. -/
def write (suite : CipherSuite) (conn : ConnectionId) (registry : Registry) (writer : FrameWriter)
    (sink : Sink) (plaintext : Bytes) : Poll Nat × FrameWriter × Sink × Registry :=
  match writer.drain sink with
  | (.pending, writer, sink) => (.pending, writer, sink, registry)
  | (.ready (.error error), writer, sink) => (.ready (.error error), writer, sink, registry)
  | (.ready (.ok _), writer, sink) =>
    if plaintext.isEmpty then (.ready (.ok 0), writer, sink, registry)
    else
      match registry.encrypt suite conn plaintext with
      | (.error error, registry) =>
        (.ready (.error { kind := .invalidData, transport := some error }), writer, sink, registry)
      | (.ok wire, registry) => (.ready (.ok plaintext.length), ⟨wire⟩, sink, registry)

/-- Passes on what is waiting, and then the call. -/
def call (writer : FrameWriter) (sink : Sink) (call : SinkCall) : Poll Unit × FrameWriter × Sink :=
  match writer.drain sink with
  | (.ready (.ok _), writer, sink) =>
    (.ready (.ok ()), writer, { sink with calls := sink.calls ++ [call] })
  | waiting => waiting

def flush (writer : FrameWriter) (sink : Sink) : Poll Unit × FrameWriter × Sink :=
  writer.call sink .flush

def shutdown (writer : FrameWriter) (sink : Sink) : Poll Unit × FrameWriter × Sink :=
  writer.call sink .shutdown

end FrameWriter

end HomeKit
