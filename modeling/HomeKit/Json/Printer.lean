import HomeKit.Json.Basic

/-!
# Printing JSON

The text of a value, without blanks. Strings are written as they are but for quotes, backslashes
and control characters, which are escaped (`escapeByte`).
-/

namespace HomeKit.Json

def hexDigit (n : UInt8) : UInt8 :=
  if n < 10 then n + 0x30 else n + 0x57

/-- The form of a string's byte between quotes. -/
def escapeByte (b : UInt8) : Bytes :=
  if b = 0x22 then [0x5c, 0x22]
  else if b = 0x5c then [0x5c, 0x5c]
  else if b = 0x08 then [0x5c, 0x62]
  else if b = 0x0c then [0x5c, 0x66]
  else if b = 0x0a then [0x5c, 0x6e]
  else if b = 0x0d then [0x5c, 0x72]
  else if b = 0x09 then [0x5c, 0x74]
  else if b < 0x20 then [0x5c, 0x75, 0x30, 0x30, hexDigit (b / 16), hexDigit (b % 16)]
  else [b]

def printString (s : String) : Bytes :=
  0x22 :: (utf8 s).flatMap escapeByte ++ [0x22]

def commaSeparated : List Bytes → Bytes
  | [] => []
  | [text] => text
  | text :: rest => text ++ 0x2c :: commaSeparated rest

mutual

def print : Json → Bytes
  | .null => utf8 "null"
  | .bool true => utf8 "true"
  | .bool false => utf8 "false"
  | .number n => n.print
  | .string s => printString s
  | .array items => 0x5b :: commaSeparated (printItems items) ++ [0x5d]
  | .object members => 0x7b :: commaSeparated (printMembers members) ++ [0x7d]

def printItems : List Json → List Bytes
  | [] => []
  | item :: rest => print item :: printItems rest

def printMembers : List (String × Json) → List Bytes
  | [] => []
  | (name, value) :: rest => (printString name ++ 0x3a :: print value) :: printMembers rest

end

end HomeKit.Json
