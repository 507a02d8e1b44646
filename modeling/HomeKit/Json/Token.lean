import HomeKit.Json.Number

/-!
# JSON tokens

Cuts a text into punctuation, names, numbers and strings. A string token carries its text unless it
has none: when it holds half of a surrogate pair or bytes that are no UTF-8. Such a string is no
value, but may stand where a value is skipped.
-/

namespace HomeKit.Json

inductive Token where
  | beginArray
  | endArray
  | beginObject
  | endObject
  | colon
  | comma
  | null
  | bool (b : Bool)
  | number (literal : Literal)
  | string (text : Option String)
  deriving DecidableEq, Repr

namespace Token

/-! ## Strings -/

def hexValue? (b : UInt8) : Option Nat :=
  if 0x30 ≤ b ∧ b ≤ 0x39 then some (b.toNat - 0x30)
  else if 0x61 ≤ b ∧ b ≤ 0x66 then some (b.toNat - 0x57)
  else if 0x41 ≤ b ∧ b ≤ 0x46 then some (b.toNat - 0x37)
  else none

def codeUnit? (a b c d : UInt8) : Option Nat :=
  match hexValue? a, hexValue? b, hexValue? c, hexValue? d with
  | some a, some b, some c, some d => some (4096 * a + 256 * b + 16 * c + d)
  | _, _, _, _ => none

/-- The byte that a letter after a backslash stands for. -/
def escaped? (b : UInt8) : Option UInt8 :=
  if b = 0x22 ∨ b = 0x5c ∨ b = 0x2f then some b
  else if b = 0x62 then some 0x08
  else if b = 0x66 then some 0x0c
  else if b = 0x6e then some 0x0a
  else if b = 0x72 then some 0x0d
  else if b = 0x74 then some 0x09
  else none

structure Scan where
  /-- The bytes, last one first. -/
  bytes : Bytes := []
  /-- The first half of a surrogate pair that waits for the second. -/
  half : Option Nat := none
  /-- No half of a pair is left alone so far. -/
  paired : Bool := true

namespace Scan

def push (scan : Scan) (b : UInt8) : Scan :=
  { bytes := b :: scan.bytes, half := none, paired := scan.paired && scan.half.isNone }

def pushChar (bytes : Bytes) (code : Nat) : Bytes :=
  (utf8 (String.singleton (Char.ofNat code))).reverse ++ bytes

def pushUnit (scan : Scan) (unit : Nat) : Scan :=
  if 0xdc00 ≤ unit ∧ unit ≤ 0xdfff then
    match scan.half with
    | some half =>
      { scan with
        bytes := pushChar scan.bytes (0x10000 + 0x400 * (half - 0xd800) + (unit - 0xdc00))
        half := none }
    | none => { scan with paired := false }
  else
    let paired := scan.paired && scan.half.isNone
    if 0xd800 ≤ unit ∧ unit ≤ 0xdbff then { scan with half := some unit, paired }
    else { bytes := pushChar scan.bytes unit, half := none, paired }

def text? (scan : Scan) : Option String :=
  if scan.paired && scan.half.isNone then HomeKit.text? scan.bytes.reverse else none

end Scan

/-- The text of a string after its opening quote, and what follows the closing one. -/
def string? (scan : Scan) : Bytes → Option (Option String × Bytes)
  | 0x22 :: rest => some (scan.text?, rest)
  | 0x5c :: 0x75 :: a :: b :: c :: d :: rest =>
    (codeUnit? a b c d).bind fun unit => string? (scan.pushUnit unit) rest
  | 0x5c :: e :: rest => (escaped? e).bind fun b => string? (scan.push b) rest
  | b :: rest => if b < 0x20 ∨ b = 0x5c then none else string? (scan.push b) rest
  | [] => none

/-! ## Numbers -/

def isDigit (b : UInt8) : Bool :=
  0x30 ≤ b && b ≤ 0x39

def digits (b : Bytes) : List Nat :=
  (b.takeWhile isDigit).map fun d => d.toNat - 0x30

def afterDigits (b : Bytes) : Bytes :=
  b.dropWhile isDigit

/-- The digits after a decimal point, if there is one; they may not be missing. -/
def fraction? : Bytes → Option (Option (List Nat) × Bytes)
  | 0x2e :: rest =>
    if (digits rest).isEmpty then none else some (some (digits rest), afterDigits rest)
  | rest => some (none, rest)

/-- The sign and digits of an exponent, if there is one; the digits may not be missing. -/
def exponent? : Bytes → Option (Option (Bool × List Nat) × Bytes)
  | e :: rest =>
    if e = 0x65 ∨ e = 0x45 then
      let (negative, rest) := match rest with
        | 0x2b :: rest => (false, rest)
        | 0x2d :: rest => (true, rest)
        | _ => (false, rest)
      if (digits rest).isEmpty then none
      else some (some (negative, digits rest), afterDigits rest)
    else
      some (none, e :: rest)
  | [] => some (none, [])

/-- The number at the start: no leading zeros, and digits on both sides of a point. -/
def number? (b : Bytes) : Option (Literal × Bytes) := do
  let (negative, b) := match b with
    | 0x2d :: rest => (true, rest)
    | _ => (false, b)
  let whole := digits b
  guard (!whole.isEmpty && (whole.head? != some 0 || whole.length == 1))
  let (fraction, rest) ← fraction? (afterDigits b)
  let (exponent, rest) ← exponent? rest
  return ({ negative, whole, fraction, exponent }, rest)

/-! ## Texts -/

def isBlank (b : UInt8) : Bool :=
  b == 0x20 || b == 0x09 || b == 0x0a || b == 0x0d

def after? (name : String) (b : Bytes) : Option Bytes :=
  if (utf8 name).isPrefixOf b then some (b.drop (utf8 name).length) else none

def next? (b : Bytes) : Option (Token × Bytes) :=
  match b with
  | [] => none
  | c :: rest =>
    if c = 0x5b then some (.beginArray, rest)
    else if c = 0x5d then some (.endArray, rest)
    else if c = 0x7b then some (.beginObject, rest)
    else if c = 0x7d then some (.endObject, rest)
    else if c = 0x3a then some (.colon, rest)
    else if c = 0x2c then some (.comma, rest)
    else if c = 0x22 then (string? {} rest).map fun (text, rest) => (.string text, rest)
    else if c = 0x6e then (after? "null" b).map (.null, ·)
    else if c = 0x74 then (after? "true" b).map (.bool true, ·)
    else if c = 0x66 then (after? "false" b).map (.bool false, ·)
    else (number? b).map fun (literal, rest) => (.number literal, rest)

/-- The tokens of a text, at most as many as `count`, after those in `done`, last one first. -/
def tokensUpTo : (count : Nat) → (done : List Token) → Bytes → Option (List Token)
  | count, done, b =>
    match b.dropWhile isBlank with
    | [] => some done.reverse
    | c :: rest =>
      match count with
      | 0 => none
      | count + 1 =>
        (next? (c :: rest)).bind fun (token, rest) => tokensUpTo count (token :: done) rest

def tokens? (b : Bytes) : Option (List Token) :=
  tokensUpTo b.length [] b

end Token

end HomeKit.Json
