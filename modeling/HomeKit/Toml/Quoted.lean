import HomeKit.Toml.Scalar

/-!
# TOML strings

Strings stand between double quotes, with escapes, or between single quotes, without; three quotes
in place of one enclose several lines. A line break in such a string is one line feed, and one right
after the opening quotes does not count.
-/

namespace HomeKit.Toml

open Text (Reads digitIn? ofDigits)

/-- May the character stand in a comment or a string? Of control characters only tabs may. -/
def isPlain (c : Char) : Bool :=
  c == '\t' || (' ' ≤ c && c != '\x7f')

def isSpace (c : Char) : Bool :=
  c == ' ' || c == '\t'

def skipSpaces (cs : List Char) : List Char :=
  cs.dropWhile isSpace

def lineBreak? : List Char → Option (List Char)
  | '\n' :: rest => some rest
  | '\r' :: '\n' :: rest => some rest
  | _ => none

def skipLineBreak (cs : List Char) : List Char :=
  (lineBreak? cs).getD cs

def skipSpacesAndBreaks : List Char → List Char
  | ' ' :: rest | '\t' :: rest | '\n' :: rest | '\r' :: '\n' :: rest => skipSpacesAndBreaks rest
  | cs => cs

/-! ## Escapes -/

/-- The character of a number in `count` hexadecimal digits. -/
def escapedNumber? (count : Nat) (cs : List Char) : Option (Char × List Char) := do
  let digits ← (cs.take count).mapM (digitIn? 16)
  let n := ofDigits 16 digits
  if digits.length = count ∧ n.isValidChar then some (Char.ofNat n, cs.drop count) else none

def escaped? : List Char → Option (Char × List Char)
  | 'b' :: rest => some ('\x08', rest)
  | 't' :: rest => some ('\t', rest)
  | 'n' :: rest => some ('\n', rest)
  | 'f' :: rest => some ('\x0c', rest)
  | 'r' :: rest => some ('\r', rest)
  | '"' :: rest => some ('"', rest)
  | '\\' :: rest => some ('\\', rest)
  | 'u' :: rest => escapedNumber? 4 rest
  | 'U' :: rest => escapedNumber? 8 rest
  | _ => none

/-! ## One line -/

/-- The rest of a string in double quotes; `done` is in reverse. At most `fuel` characters are
read. -/
def basicRest? (done : List Char) : (fuel : Nat) → List Char → Reads String
  | 0, _ | _, [] => none
  | fuel + 1, c :: rest =>
    if c = '"' then some (String.ofList done.reverse, rest)
    else if c = '\\' then
      (escaped? rest).bind fun (c, rest) => basicRest? (c :: done) fuel rest
    else if isPlain c then basicRest? (c :: done) fuel rest
    else none

def literalRest? (done : List Char) : List Char → Reads String
  | [] => none
  | c :: rest =>
    if c = '\'' then some (String.ofList done.reverse, rest)
    else if isPlain c then literalRest? (c :: done) rest
    else none

/-! ## Several lines -/

/-- What follows a backslash at the end of a line: blanks and line breaks up to the next text. -/
def continuation? (cs : List Char) : Option (List Char) :=
  (lineBreak? (skipSpaces cs)).map skipSpacesAndBreaks

/-- The number of quotes at the start of a text, up to five: three end the string, and one or two
before them belong to it. -/
def quotesAt (quote : Char) (cs : List Char) : Nat :=
  ((cs.take 5).takeWhile (· == quote)).length

/-- The rest of a string that may have several lines; escapes count only in double quotes. -/
def multilineRest? (quote : Char) (done : List Char) : (fuel : Nat) → List Char → Reads String
  | 0, _ | _, [] => none
  | fuel + 1, c :: rest =>
    if c = quote then
      let quotes := quotesAt quote (c :: rest)
      if 3 ≤ quotes then
        some (String.ofList (done.reverse ++ List.replicate (quotes - 3) quote),
          rest.drop (quotes - 1))
      else multilineRest? quote (c :: done) fuel rest
    else if c = '\\' ∧ quote = '"' then
      match continuation? rest with
      | some rest => multilineRest? quote done fuel rest
      | none => (escaped? rest).bind fun (c, rest) => multilineRest? quote (c :: done) fuel rest
    else
      match lineBreak? (c :: rest) with
      | some rest => multilineRest? quote ('\n' :: done) fuel rest
      | none => if isPlain c then multilineRest? quote (c :: done) fuel rest else none

def lineString? : List Char → Reads String
  | '"' :: rest => basicRest? [] (rest.length + 1) rest
  | '\'' :: rest => literalRest? [] rest
  | _ => none

def string? (cs : List Char) : Reads String :=
  match cs with
  | '"' :: '"' :: '"' :: rest => multilineRest? '"' [] (rest.length + 1) (skipLineBreak rest)
  | '\'' :: '\'' :: '\'' :: rest => multilineRest? '\'' [] (rest.length + 1) (skipLineBreak rest)
  | _ => lineString? cs

end HomeKit.Toml
