import HomeKit.Bytes
import HomeKit.Text.Blank
import HomeKit.Text.Decimal
import HomeKit.Text.Pieces

/-!
# Message heads

What the heads of requests and responses have in common: lines `name: value`, names that are the
same in upper and in lower case, and the length of the body.
-/

namespace HomeKit.Http

def contentLength : String := "Content-Length"

def contentType : String := "Content-Type"

def tlv8Type : String := "application/pairing+tlv8"

def jsonType : String := "application/hap+json"

/-- Are the names the same, in upper or in lower case? -/
def sameName (a b : String) : Bool :=
  a.toLower == b.toLower

theorem sameName_iff {a b : String} :
    sameName a b = true ↔ a.toList.map Char.toLower = b.toList.map Char.toLower := by
  show (a.map Char.toLower == b.map Char.toLower) = true ↔ _
  rw [beq_iff_eq, ← String.toList_inj, String.toList_map, String.toList_map]

@[simp] theorem sameName_self (name : String) : sameName name name = true :=
  beq_self_eq_true _

/-- The name and the value of a header line, without the blanks around them. -/
def headerOf? (line : List Char) : Option (String × String) :=
  (Text.cut? ':' line).map fun (name, value) =>
    (String.ofList (Text.trimChars name), String.ofList (Text.trimChars value))

def headerLine (name value : String) : String :=
  s!"{name}: {value}\r\n"

/-- The line that gives the length of the body, and the blank line that ends a head. -/
def lastLines (length : Nat) : String :=
  s!"{headerLine contentLength (toString length)}\r\n"

def bodyLength? (value : String) : Option Nat :=
  Text.decimal? UInt64.size value.toList

theorem bodyLength?_toString {length : Nat} (h : length < UInt64.size) :
    bodyLength? (toString length) = some length :=
  Text.decimal?_repr h

end HomeKit.Http
