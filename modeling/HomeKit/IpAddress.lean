import HomeKit.Text.Reads

/-!
# Internet addresses

Addresses of four bytes, written `127.0.0.1`, and addresses of eight groups of sixteen bits, written
`2001:db8::1`: two colons stand for the longest run of groups that are zero.
-/

namespace HomeKit

inductive IpAddress where
  | v4 (a b c d : UInt8)
  | v6 (groups : List UInt16)
  deriving DecidableEq, Repr

namespace IpAddress

open Text (Reads expect digitIn? ofDigits)

/-! ## Reading -/

/-- All digits at the start of a text, at most `most`, as a number. -/
def number? (base most : Nat) (cs : List Char) : Reads Nat :=
  let digits := (cs.takeWhile fun c => (digitIn? base c).isSome).filterMap (digitIn? base)
  if digits.isEmpty ∨ most < digits.length then none
  else some (ofDigits base digits, cs.drop digits.length)

/-- A byte in decimal, without leading zeros. -/
def octet? (cs : List Char) : Reads UInt8 :=
  match number? 10 3 cs with
  | some (n, rest) =>
    if n < 256 ∧ ¬(cs.head? = some '0' ∧ rest.length + 1 < cs.length) then
      some (UInt8.ofNat n, rest)
    else none
  | none => none

def v4? (cs : List Char) : Option ((UInt8 × UInt8 × UInt8 × UInt8) × List Char) := do
  let (a, cs) ← octet? cs
  let (b, cs) ← octet? (← expect '.' cs)
  let (c, cs) ← octet? (← expect '.' cs)
  let (d, cs) ← octet? (← expect '.' cs)
  return ((a, b, c, d), cs)

def group (high low : UInt8) : UInt16 :=
  UInt16.ofNat (256 * high.toNat + low.toNat)

/-- At most `room` groups with colons between them, and whether the last two of them were written as
four bytes; `started` says that a colon comes first. -/
def groups (started : Bool) : (room : Nat) → List Char → (List UInt16 × Bool) × List Char
  | 0, cs => (([], false), cs)
  | room + 1, cs =>
    let body? := if started then expect ':' cs else some cs
    match if room = 0 then none else body?.bind v4? with
    | some ((a, b, c, d), rest) => (([group a b, group c d], true), rest)
    | none =>
      match body?.bind (number? 16 4) with
      | some (n, rest) =>
        let ((more, inBytes), rest) := groups true room rest
        ((UInt16.ofNat n :: more, inBytes), rest)
      | none => (([], false), cs)

/-- Eight groups, or fewer with two colons in place of the others. -/
def v6? (cs : List Char) : Reads (List UInt16) :=
  let ((head, inBytes), rest) := groups false 8 cs
  if head.length = 8 then some (head, rest)
  else if inBytes then none
  else
    match rest with
    | ':' :: ':' :: rest =>
      let ((tail, _), rest) := groups false (7 - head.length) rest
      some (head ++ List.replicate (8 - head.length - tail.length) 0 ++ tail, rest)
    | _ => none

def parse? (text : String) : Option IpAddress :=
  match v4? text.toList with
  | some ((a, b, c, d), []) => some (.v4 a b c d)
  | some _ => none
  | none =>
    match v6? text.toList with
    | some (groups, []) => some (.v6 groups)
    | _ => none

/-! ## Writing -/

def showBytes (a b c d : UInt8) : String :=
  s!"{a}.{b}.{c}.{d}"

/-- A group in hexadecimal, without leading zeros. -/
def showGroup (g : UInt16) : String :=
  String.ofList (Nat.toDigits 16 g.toNat)

def showGroups (groups : List UInt16) : String :=
  ":".intercalate (groups.map showGroup)

def leadingZeros (groups : List UInt16) : Nat :=
  (groups.takeWhile (· == 0)).length

/-- The start and the length of the first longest run of zeros, among groups that start at
`position`. -/
def longestRun (position : Nat) : List UInt16 → Nat × Nat
  | [] => (position, 0)
  | g :: rest =>
    let run := leadingZeros (g :: rest)
    let later := longestRun (position + 1) rest
    if later.2 ≤ run then (position, run) else later

def display : IpAddress → String
  | .v4 a b c d => showBytes a b c d
  | .v6 groups =>
    match groups with
    | [0, 0, 0, 0, 0, 0xffff, high, low] =>
      "::ffff:" ++ showBytes (UInt8.ofNat (high.toNat / 256)) (UInt8.ofNat high.toNat)
        (UInt8.ofNat (low.toNat / 256)) (UInt8.ofNat low.toNat)
    | _ =>
      let (start, length) := longestRun 0 groups
      if 1 < length then
        showGroups (groups.take start) ++ "::" ++ showGroups (groups.drop (start + length))
      else showGroups groups

end IpAddress

end HomeKit
