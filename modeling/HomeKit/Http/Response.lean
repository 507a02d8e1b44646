import HomeKit.Error
import HomeKit.Http.Head
import HomeKit.Json.Printer

/-!
# Responses

A response is a status, headers in order and a body. An event has the same form under another
protocol name (`Protocol`). `Response.serializeAs` writes a message, `Message.parse` reads the first
one of a stream.
-/

namespace HomeKit.Http

inductive Protocol where
  | response
  | event
  deriving DecidableEq, Repr

def Protocol.name : Protocol → String
  | response => "HTTP/1.1"
  | event => "EVENT/1.0"

def Protocol.ofName (name : String) : Except ParseError Protocol :=
  if name = "HTTP/1.1" then .ok response
  else if name = "EVENT/1.0" then .ok event
  else .error (.invalidValue s!"protocol {name}")

@[simp] theorem Protocol.ofName_name (protocol : Protocol) :
    ofName protocol.name = .ok protocol := by
  cases protocol <;> rfl

def reasonPhrase (status : UInt16) : String :=
  if status = 200 then "OK"
  else if status = 204 then "No Content"
  else if status = 207 then "Multi-Status"
  else if status = 400 then "Bad Request"
  else if status = 404 then "Not Found"
  else if status = 405 then "Method Not Allowed"
  else if status = 422 then "Unprocessable Entity"
  else if status = 470 then "Connection Authorization Required"
  else if status = 500 then "Internal Server Error"
  else if status = 503 then "Service Unavailable"
  else "Unknown"

structure Response where
  status : UInt16
  text : String
  headers : List (String × String) := []
  body : Bytes := []
  deriving DecidableEq

namespace Response

def ofStatus (status : UInt16) : Response where
  status
  text := reasonPhrase status

def withBody (response : Response) (type : String) (body : Bytes) : Response :=
  { response with headers := response.headers ++ [(contentType, type)], body }

def tlv8 (body : Bytes) : Response :=
  (ofStatus 200).withBody tlv8Type body

def json (status : UInt16) (value : Json) : Response :=
  (ofStatus status).withBody jsonType value.print

def noContent : Response :=
  ofStatus 204

/-- The value of the first header of a name, which may be in upper or in lower case. -/
def header? (response : Response) (name : String) : Option String :=
  (response.headers.find? fun header => sameName header.1 name).map (·.2)

def serializeAs (response : Response) (protocol : Protocol) : Bytes :=
  utf8 (String.join (s!"{protocol.name} {response.status} {response.text}\r\n" ::
    response.headers.map (fun header => headerLine header.1 header.2) ++
      [lastLines response.body.length])) ++ response.body

def serialize (response : Response) : Bytes :=
  response.serializeAs .response

def serializeEvent (response : Response) : Bytes :=
  response.serializeAs .event

end Response

/-! ## Reading -/

structure Message where
  protocol : Protocol
  response : Response
  /-- The bytes of the stream that it takes. -/
  length : Nat
  deriving DecidableEq

namespace Message

/-- The bytes before the first blank line and those after it; `head` holds those that were passed
already, last one first. -/
def splitFrom? (head : Bytes) : Bytes → Option (Bytes × Bytes)
  | 0x0d :: 0x0a :: 0x0d :: 0x0a :: rest => some (head.reverse, rest)
  | b :: rest => splitFrom? (b :: head) rest
  | [] => none

def split? (stream : Bytes) : Option (Bytes × Bytes) :=
  splitFrom? [] stream

def statusOf (text : List Char) : Except ParseError UInt16 :=
  match Text.decimal? UInt16.size text with
  | some status => .ok (UInt16.ofNat status)
  | none => .error (.invalidValue s!"status code {String.ofList text}")

def ofFirstLine (line : List Char) : Except ParseError (Protocol × Response) :=
  match Text.cut? ' ' line with
  | none => .error (.invalidFormat s!"malformed status line: {String.ofList line}")
  | some (protocol, rest) => do
    let protocol ← Protocol.ofName (String.ofList protocol)
    let (status, text) := (Text.cut? ' ' rest).getD (rest, [])
    return (protocol, { status := ← statusOf status, text := String.ofList text })

def ofHead (head : Bytes) : Except ParseError (Protocol × Response) :=
  match text? head with
  | none => .error (.invalidFormat "response head is not UTF-8")
  | some text =>
    match Text.lines text.toList with
    | [] => .error (.missingField "status line")
    | first :: rest => (ofFirstLine first).map fun (protocol, response) =>
      (protocol, { response with headers := rest.filterMap headerOf? })

/-- The length of the body that a head announces; one that is no number does not count. -/
def announcedBody (response : Response) : Nat :=
  ((response.header? contentLength).bind bodyLength?).getD 0

/-- Reads the message at the start of a stream, once all of it is there. -/
def parse (stream : Bytes) : Except ParseError (Option Message) :=
  match split? stream with
  | none => .ok none
  | some (head, rest) =>
    (ofHead head).map fun (protocol, response) =>
      let body := announcedBody response
      if rest.length < body then none
      else
        some {
          protocol
          response := { response with
            headers := response.headers.filter fun header => !sameName header.1 contentLength
            body := rest.take body }
          length := head.length + 4 + body }

end Message

end HomeKit.Http
