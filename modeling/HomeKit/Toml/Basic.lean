/-!
# TOML documents

A document is built statement by statement. Tables remember how they came to be (`TableKind`), since
that decides what may be added to them: a table has one header, a table made by dotted keys takes
further dotted keys only, and the table of a value in braces takes nothing more.
-/

namespace HomeKit

/-- How a table came to be. -/
inductive Toml.TableKind where
  /-- By a header of its own, or as a value in braces. -/
  | defined
  /-- As part of the path of a header. -/
  | implied
  /-- As part of a dotted key. -/
  | dotted
  deriving DecidableEq, Repr

/-- A value. Dates and times only have to be well formed. -/
inductive Toml where
  | string (s : String)
  | integer (n : Int)
  | float
  | bool (b : Bool)
  | dateTime
  | array (items : List Toml)
  | inlineTable (members : List (String × Toml))
  | table (kind : Toml.TableKind) (members : List (String × Toml))
  /-- Tables under one header in double brackets, the last one first. -/
  | tables (elements : List (List (String × Toml)))

namespace Toml

abbrev Members := List (String × Toml)

namespace Members

def get? (members : Members) (name : String) : Option Toml :=
  List.lookup name members

def set (members : Members) (name : String) (value : Toml) : Members :=
  (name, value) :: members.filter (·.1 != name)

/-- Changes the table at the end of a path. Tables that are missing are made, of kind `missing`; a
dotted path does not lead through a table that has a header of its own. -/
def update (missing : TableKind) (f : TableKind → Members → Option Members) :
    (path : List String) → TableKind → Members → Option Members
  | [], kind, members => f kind members
  | name :: path, _, members =>
    match get? members name with
    | none => (update missing f path missing []).map fun m => set members name (.table missing m)
    | some (.table kind m) =>
      if missing = .dotted ∧ kind = .defined then none
      else (update missing f path kind m).map fun m => set members name (.table kind m)
    | some (.tables (last :: earlier)) =>
      (update missing f path .defined last).map fun m => set members name (.tables (m :: earlier))
    | some _ => none

/-- Adds a member that must not be there yet. -/
def addNew (members : Members) (name : String) (value : Toml) : Option Members :=
  if (get? members name).isSome then none else some (set members name value)

/-- Adds the member of a dotted key to the table at the end of `path`. -/
def assign (members : Members) (path key : List String) (name : String) (value : Toml) :
    Option Members :=
  let add (kind : TableKind) (members : Members) : Option Members :=
    if key ≠ [] ∧ kind ≠ .dotted then none else addNew members name value
  update .implied (fun kind members => update .dotted add key kind members) path .defined members

/-- Starts the table of a header, in the table at the end of `path`. -/
def startTable (members : Members) (path : List String) (name : String) : Option Members :=
  let start (members : Members) : Option Members :=
    match get? members name with
    | none => some (set members name (.table .defined []))
    | some (.table .implied m) => some (set members name (.table .defined m))
    | some _ => none
  update .implied (fun _ members => start members) path .defined members

def startElement (members : Members) (path : List String) (name : String) : Option Members :=
  let start (members : Members) : Option Members :=
    match get? members name with
    | none => some (set members name (.tables [[]]))
    | some (.tables elements) => some (set members name (.tables ([] :: elements)))
    | some _ => none
  update .implied (fun _ members => start members) path .defined members

end Members

end Toml

end HomeKit
