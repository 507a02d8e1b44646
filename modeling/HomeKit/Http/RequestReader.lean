import HomeKit.Http.Request

/-!
# Reading requests from a stream

A reader takes the bytes of a stream one by one (`RequestReader.push`), so what it reads does not
depend on how they arrive (`RequestReader.feed_append`). Blank lines before a request are skipped; a
head ends with its first blank line and has at most `maxHead` bytes; the body has the announced
length, as it is found in the order in which the reader looks at the headers. `readRequests` reads
all requests of a finite stream.
-/

namespace HomeKit.Http

/-- How much of a request is read. Bytes that are kept are in reverse. -/
inductive RequestReader where
  /-- Within the head, of which `length` bytes are read. -/
  | head (order : HeaderOrder) (read : Bytes) (length : Nat)
  /-- Within the body, of which `missing + 1` bytes are still to come. -/
  | body (request : Request) (read : Bytes) (missing : Nat)

inductive ReadProgress where
  | more (reader : RequestReader)
  | request (request : Request)
  | failed (error : Error)

namespace RequestReader

def maxHead : Nat := 8 * 1024

/-- The reader of a request whose headers will be looked at in this order. -/
def start (order : HeaderOrder) : RequestReader :=
  .head order [] 0

/-- The part of a head before its last line, if that line is blank; both in reverse. -/
def beforeBlankLine? : Bytes → Option Bytes
  | [0x0a] | [0x0a, 0x0d] => some []
  | 0x0a :: 0x0a :: rest | 0x0a :: 0x0d :: 0x0a :: rest => some (0x0a :: rest)
  | _ => none

/-- Goes on to the body of a request, which may be empty. -/
def enterBody (order : HeaderOrder) (request : Request) : ReadProgress :=
  match request.announcedBody order with
  | .error error => .failed error
  | .ok 0 => .request { request with body := [] }
  | .ok (missing + 1) => .more (.body request [] missing)

def finishHead (order : HeaderOrder) (head : Bytes) : ReadProgress :=
  match Request.ofHead head with
  | .error error => .failed error
  | .ok request => enterBody order request

def push (reader : RequestReader) (b : UInt8) : ReadProgress :=
  match reader with
  | .head order read length =>
    let read := b :: read
    if maxHead < length + 1 then .failed (TransportError.requestTooLarge (length + 1))
    else
      match beforeBlankLine? read with
      | some [] => .more (start order)
      | some (_ :: _) => finishHead order read.reverse
      | none => .more (.head order read (length + 1))
  | .body request read 0 => .request { request with body := (b :: read).reverse }
  | .body request read (missing + 1) => .more (.body request (b :: read) missing)

/-- What is wrong if the stream ends here; it may end between requests. -/
def endError? (reader : RequestReader) : Option Error :=
  match reader with
  | .head _ [] _ => none
  | .head _ (_ :: _) _ => some TransportError.connectionClosed
  | .body .. => some (.connection { kind := .unexpectedEof })

/-- Takes bytes up to the end of a request or a failure; what is left over is returned. -/
def feed (reader : RequestReader) : Bytes → ReadProgress × Bytes
  | [] => (.more reader, [])
  | b :: rest =>
    match reader.push b with
    | .more reader => reader.feed rest
    | progress => (progress, rest)

/-- What is read does not depend on where the bytes are cut. -/
theorem feed_append (reader : RequestReader) (bytes more : Bytes) :
    reader.feed (bytes ++ more) =
      match reader.feed bytes with
      | (.more next, _) => next.feed more
      | (progress, rest) => (progress, rest ++ more) := by
  induction bytes generalizing reader with
  | nil => rfl
  | cons b bytes ih =>
    rw [List.cons_append, feed, feed]
    cases reader.push b with
    | more next => exact ih next
    | request request => rfl
    | failed error => rfl

theorem feed_append_of_more {reader next : RequestReader} {bytes rest : Bytes}
    (h : reader.feed bytes = (.more next, rest)) (more : Bytes) :
    reader.feed (bytes ++ more) = next.feed more := by
  rw [feed_append, h]

/-- The requests of the rest of a stream, and the failure that ends them; `done` holds those before,
last one first. Each request has an order of its own. -/
def readFrom (reader : RequestReader) (orders : Nat → HeaderOrder) (done : List Request) :
    Bytes → List Request × Option Error
  | [] => (done.reverse, reader.endError?)
  | b :: rest =>
    match reader.push b with
    | .more reader => reader.readFrom orders done rest
    | .request request => (start (orders (done.length + 1))).readFrom orders (request :: done) rest
    | .failed error => (done.reverse, some error)

end RequestReader

/-- The requests of a stream, up to its end or the first failure. -/
def readRequests (stream : Bytes) (orders : Nat → HeaderOrder := fun _ => .sorted) :
    List Request × Option Error :=
  (RequestReader.start (orders 0)).readFrom orders [] stream

end HomeKit.Http
