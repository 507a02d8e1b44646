import HomeKit.Error
import HomeKit.Text.Blank

/-!
# Setup codes

The eight digits that a user types to pair. They are written `XXXXXXXX` or `XXX-XX-XXX`, and some
codes are too simple to be used. `dashed` is the form that enters the password exchange.
-/

namespace HomeKit

structure SetupCode where
  digits : List Char
  length_eq : digits.length = 8 := by decide
  isDigit : ∀ c ∈ digits, c.isDigit = true
  deriving DecidableEq

namespace SetupCode

/-- The codes that are too easily guessed. -/
def simpleCodes : List String :=
  ["00000000", "11111111", "22222222", "33333333", "44444444", "55555555", "66666666", "77777777",
    "88888888", "99999999", "12345678", "87654321"]

def default : SetupCode where
  digits := ['0', '0', '1', '0', '2', '0', '0', '3']
  isDigit := List.all_eq_true.1 rfl

/-- The byte at a place of a text's UTF-8 form is a dash. -/
def hasDashAt (s : String) (place : Nat) : Bool :=
  s.toUTF8.data[place]? == some 0x2d

/-- Drops the dashes of a ten-byte text, which have to stand after three and five digits. -/
def undashed (s : String) : Except ConfigError (List Char) :=
  if s.utf8ByteSize = 10 then
    if hasDashAt s 3 && hasDashAt s 6 then .ok (s.toList.filter (· != '-'))
    else .error (.invalidSetupCode "expected XXX-XX-XXX")
  else
    .ok s.toList

/-- Reads a setup code, with or without dashes and with blanks around it. -/
def parse (input : String) : Except ConfigError SetupCode := do
  let digits ← undashed (Text.trim input)
  if h : digits.length = 8 ∧ digits.all Char.isDigit then
    if simpleCodes.contains (String.ofList digits) then
      .error (.invalidSetupCode "setup code is too simple")
    else
      .ok ⟨digits, h.1, List.all_eq_true.1 h.2⟩
  else
    .error (.invalidSetupCode "setup code must be 8 digits")

def text (code : SetupCode) : String :=
  String.ofList code.digits

def dash (digits : List Char) : String :=
  String.ofList (digits.take 3 ++ '-' :: (digits.drop 3).take 2 ++ '-' :: digits.drop 5)

/-- The form `XXX-XX-XXX`, which is the password of the exchange. -/
def dashed (code : SetupCode) : String :=
  dash code.digits

/-- What is shown where the code has to stay secret. -/
def masked (_ : SetupCode) : String :=
  "SetupCode(***-**-***)"

/-- The password that a controller uses for what its user typed: the dashed form of the digits in
it if there are eight, and else the text itself. -/
def typedPassword (typed : String) : String :=
  let digits := typed.toList.filter (·.isDigit)
  if digits.length = 8 then dash digits else typed

end SetupCode

end HomeKit
