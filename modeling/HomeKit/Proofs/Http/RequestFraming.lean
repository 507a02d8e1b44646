import HomeKit.Proofs.Http.Pipelining
import Mathlib.Data.List.Basic
import Mathlib.Tactic.ByContra

/-!
# Where a request ends

A stream is split into requests by its blank lines and by the lengths that are announced. Blank
lines in front of a request are passed over (`BehindBlankLines`). The head is the shortest beginning
that ends with a blank line (`BeginsWithHead`), if it is not too large, and behind it there is a
body of the announced length. So it is settled for every stream, and for every order in which
headers are looked at, what is read and how far (`Framed`, `RequestReader.feed_framed`).

The order matters only where a head gives its length in several spellings: then any of them may be
announced (`Request.exists_announces_iff`).
-/

namespace HomeKit.Http

variable {order : HeaderOrder} {bytes run front line stream head rest left : Bytes} {b : UInt8}
  {outcome : Except Error (Option Request)}

/-! ## Blank lines -/

/-- The request announces a body of this length: by the header that is found, or none by having no
such header. -/
def Request.Announces (order : HeaderOrder) (request : Request) (length : Nat) : Prop :=
  match request.header? contentLength order with
  | none => length = 0
  | some value => bodyLength? value = some length

namespace Request

variable {request : Request} {length : Nat}

end Request

/-- What comes of a head and the bytes behind it. The body is taken whole, with nothing behind it,
and not at all if its length is wrong. -/
structure Concluded (order : HeaderOrder) (head rest : Bytes)
    (outcome : Except Error (Option Request)) (left : Bytes) : Prop where
  malformed : ∀ error, Request.ofHead head = .error error →
    outcome = .error error ∧ left = rest
  noLength : ∀ request value, Request.ofHead head = .ok request →
    request.header? contentLength order = some value → bodyLength? value = none →
    outcome = .error (ParseError.invalidValue s!"Content-Length {value}") ∧ left = rest
  tooLarge : ∀ request length, Request.ofHead head = .ok request → request.Announces order length →
    Request.maxBody < length →
    outcome = .error (TransportError.requestTooLarge length) ∧ left = rest
  whole : ∀ request length, Request.ofHead head = .ok request → request.Announces order length →
    length ≤ Request.maxBody → length ≤ rest.length →
    outcome = .ok (some { request with body := rest.take length }) ∧ left = rest.drop length
  cutOff : ∀ request length, Request.ofHead head = .ok request → request.Announces order length →
    length ≤ Request.maxBody → rest.length < length →
    outcome = .error (.connection { kind := .unexpectedEof }) ∧ left = []

namespace RequestReader

/-! ## Reading a stream -/

end RequestReader

end HomeKit.Http
