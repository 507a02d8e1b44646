import HomeKit.Json.Number

/-!
# JSON values

Values as documents hold them. An object's members are in ascending order of their names, each
name once: `insert` keeps it so.
-/

namespace HomeKit

inductive Json where
  | null
  | bool (b : Bool)
  | number (n : Json.Number)
  | string (s : String)
  | array (items : List Json)
  | object (members : List (String × Json))

namespace Json

/-- Puts a member into its place, over one of the same name. -/
def insert (name : String) (value : Json) : List (String × Json) → List (String × Json)
  | [] => [(name, value)]
  | (n, v) :: rest =>
    if name < n then (name, value) :: (n, v) :: rest
    else if name = n then (name, value) :: rest
    else (n, v) :: insert name value rest

/-- The object with these members, the last one of a name counting. -/
def ofMembers (members : List (String × Json)) : Json :=
  .object (members.foldl (fun acc (name, value) => insert name value acc) [])

def get? (value : Json) (name : String) : Option Json :=
  match value with
  | .object members => (members.find? (·.1 == name)).map (·.2)
  | _ => none

/-- The value replaced in the member of this name, which is added if there is none. -/
def set (value : Json) (name : String) (member : Json) : Json :=
  match value with
  | .object members => .object (insert name member members)
  | _ => value

def array? : Json → Option (List Json)
  | .array items => some items
  | _ => none

def string? : Json → Option String
  | .string s => some s
  | _ => none

def bool? : Json → Option Bool
  | .bool b => some b
  | _ => none

def natural? : Json → Option UInt64
  | .number n => n.natural?
  | _ => none

def ofNatural (n : UInt64) : Json :=
  .number (.natural n)

def ofInt (n : Int) : Json :=
  if 0 ≤ n then .number (.natural (UInt64.ofNat n.toNat)) else .number (.negative (Int64.ofInt n))

end Json

end HomeKit
