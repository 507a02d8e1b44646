import Std.Data.ExtTreeMap
import HomeKit.Error
import HomeKit.Http.Head

/-!
# Requests

A request is a method, a path, a query that may be there, headers and a body. `Request.ofHead`
reads all but the body from a message head, `Request.serialize` writes a request as a controller
sends it.

Headers are kept under their exact names, so one header may be there in several spellings. Which of
them is found depends on the order in which they are looked at, and nothing fixes that order
(`HeaderOrder`).
-/

namespace HomeKit.Http

open Std (ExtTreeMap)

inductive Method where
  | get
  | post
  | put
  deriving DecidableEq, Repr

namespace Method

def name : Method → String
  | get => "GET"
  | post => "POST"
  | put => "PUT"

def ofName (name : String) : Except ParseError Method :=
  if name = "GET" then .ok get
  else if name = "POST" then .ok post
  else if name = "PUT" then .ok put
  else .error (.invalidValue s!"method {name}")

@[simp] theorem ofName_name (method : Method) : ofName method.name = .ok method := by
  cases method <;> rfl

end Method

structure Request where
  method : Method
  path : String
  query : Option String := none
  headers : ExtTreeMap String String := ∅
  body : Bytes := []

/-- An order in which the headers of a request are looked at. -/
structure HeaderOrder where
  list : ExtTreeMap String String → List (String × String)
  perm : ∀ headers, (list headers).Perm headers.toList

namespace HeaderOrder

/-- The order of the names. -/
def sorted : HeaderOrder where
  list := ExtTreeMap.toList
  perm _ := .refl _

theorem mem_list {order : HeaderOrder} {headers : ExtTreeMap String String}
    {header : String × String} : header ∈ order.list headers ↔ header ∈ headers.toList :=
  (order.perm headers).mem_iff

end HeaderOrder

namespace Request

/-- A request for a target: the path, and the query after the first question mark. -/
def ofTarget (method : Method) (target : String) : Request :=
  match Text.cut? '?' target.toList with
  | some (path, query) =>
    { method, path := String.ofList path, query := some (String.ofList query) }
  | none => { method, path := target }

def target (request : Request) : String :=
  match request.query with
  | some query => s!"{request.path}?{query}"
  | none => request.path

/-- Adds a header, or replaces one of the very same name. -/
def withHeader (request : Request) (name value : String) : Request :=
  { request with headers := request.headers.insert name value }

/-- The value of the first header of a name, which may be in upper or in lower case. -/
def header? (request : Request) (name : String) (order : HeaderOrder := .sorted) :
    Option String :=
  ((order.list request.headers).find? fun header => sameName header.1 name).map (·.2)

section Header

variable {request : Request} {order : HeaderOrder} {name value : String}

/-- What is found is the value of some header of the name. -/
theorem exists_of_header? (h : request.header? name order = some value) :
    ∃ header ∈ request.headers.toList, sameName header.1 name = true ∧ header.2 = value := by
  obtain ⟨header, hfind, hvalue⟩ := Option.map_eq_some_iff.1 h
  have hname := List.find?_some hfind
  exact ⟨header, HeaderOrder.mem_list.1 (List.mem_of_find?_eq_some hfind), hname, hvalue⟩

/-- That there is no header of a name does not depend on the order. -/
theorem header?_eq_none_iff : request.header? name order = none ↔
    ∀ header ∈ request.headers.toList, sameName header.1 name = false := by
  simp only [header?, Option.map_eq_none_iff, List.find?_eq_none, HeaderOrder.mem_list,
    Bool.not_eq_true]

/-- Where all headers of a name have one value, it is found in any order. -/
theorem header?_of_agree (hvalue : ∀ header ∈ request.headers.toList,
      sameName header.1 name = true → header.2 = value)
    (h : ∃ header ∈ request.headers.toList, sameName header.1 name = true) :
    request.header? name order = some value := by
  cases hfound : request.header? name order with
  | none =>
    obtain ⟨header, hheader, hname⟩ := h
    rw [header?_eq_none_iff.1 hfound header hheader] at hname
    cases hname
  | some found =>
    obtain ⟨header, hheader, hname, rfl⟩ := exists_of_header? hfound
    rw [hvalue header hheader hname]

end Header

def parameter? (request : Request) (name : String) : Option String :=
  request.query.bind fun query =>
    (Text.pieces '&' query.toList).findSome? fun piece =>
      (Text.cut? '=' piece).bind fun (key, value) =>
        if String.ofList key = name then some (String.ofList value) else none

/-- The form in which a request is sent: the headers in the order of their names, with the true
length of the body. -/
def serialize (request : Request) : Bytes :=
  let headers := request.headers.toList.filter fun header => !sameName header.1 contentLength
  utf8 (String.join (s!"{request.method.name} {request.target} HTTP/1.1\r\n" ::
    headers.map (fun header => headerLine header.1 header.2) ++ [lastLines request.body.length])) ++
      request.body

/-! ## Reading -/

def ofFirstLine (line : List Char) : Except ParseError Request :=
  match Text.words line with
  | [] => .error (.missingField "method")
  | method :: rest => do
    let method ← Method.ofName (String.ofList method)
    match rest with
    | [] => .error (.missingField "request target")
    | [_] => .error (.missingField "version")
    | target :: version :: _ =>
      if "HTTP/".toList.isPrefixOf version then return ofTarget method (String.ofList target)
      else .error (.invalidValue s!"version {String.ofList version}")

/-- Adds the header of a line, if it has one. -/
def addLine (request : Request) (line : List Char) : Request :=
  match headerOf? line with
  | some (name, value) => request.withHeader name value
  | none => request

def ofHead (head : Bytes) : Except ParseError Request :=
  match text? head with
  | none => .error (.invalidFormat "request head is not UTF-8")
  | some text =>
    match Text.lines text.toList with
    | [] => .error (.missingField "request line")
    | first :: rest => (ofFirstLine first).map fun request => rest.foldl addLine request

def maxBody : Nat := 64 * 1024

def announcedBody (order : HeaderOrder) (request : Request) : Except Error Nat :=
  match request.header? contentLength order with
  | none => .ok 0
  | some value =>
    match bodyLength? value with
    | none => .error (ParseError.invalidValue s!"Content-Length {value}")
    | some length =>
      if maxBody < length then .error (TransportError.requestTooLarge length) else .ok length

end Request

end HomeKit.Http
