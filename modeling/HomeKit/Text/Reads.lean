/-!
# Reading the start of a text

A reader takes what it needs from the start of a text and returns the rest (`Reads`).
-/

namespace HomeKit.Text

/-- What was read from the start of a text, and the rest of it. -/
abbrev Reads (α : Type) := Option (α × List Char)

/-- The rest of a text after a character that has to come first. -/
def expect (c : Char) : List Char → Option (List Char)
  | d :: rest => if d = c then some rest else none
  | [] => none

/-- The value of a digit in a base of at most sixteen; letters may be in upper or in lower case. -/
def digitIn? (base : Nat) (c : Char) : Option Nat :=
  let value :=
    if '0' ≤ c ∧ c ≤ '9' then c.toNat - 48
    else if 'a' ≤ c ∧ c ≤ 'f' then c.toNat - 87
    else if 'A' ≤ c ∧ c ≤ 'F' then c.toNat - 55
    else base
  if value < base then some value else none

def ofDigits (base : Nat) (digits : List Nat) : Nat :=
  digits.foldl (fun n d => base * n + d) 0

/-- The number of some digits, or `limit` if that is less; the numbers on the way stay small,
however many digits there are. -/
def ofDigitsUpTo (limit base : Nat) (digits : List Nat) : Nat :=
  digits.foldl (fun n d => min limit (base * n + d)) 0

end HomeKit.Text
