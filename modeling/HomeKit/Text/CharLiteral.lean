import HomeKit.Text.Hex

/-!
# Character literals

How a byte is shown as a character in an error text: in single quotes, with an escape for quotes,
backslashes and whatever of the Latin-1 characters is not printable.
-/

namespace HomeKit.Text

/-- The digits of a byte in lower-case hexadecimal, without a leading zero. -/
def shortHex (b : UInt8) : List Char :=
  if b < 16 then [Hex.digit b] else [Hex.digit (b / 16), Hex.digit (b % 16)]

/-- Is the Latin-1 character of this byte printable? -/
def isPrintable (b : UInt8) : Bool :=
  (0x20 ≤ b && b < 0x7f) || (0xa0 < b && b != 0xad)

def charLiteral (b : UInt8) : String :=
  let inner :=
    if b = 0x00 then ['\\', '0']
    else if b = 0x09 then ['\\', 't']
    else if b = 0x0a then ['\\', 'n']
    else if b = 0x0d then ['\\', 'r']
    else if b = 0x27 then ['\\', '\'']
    else if b = 0x5c then ['\\', '\\']
    else if isPrintable b then [Char.ofNat b.toNat]
    else ['\\', 'u', '\x7b'] ++ shortHex b ++ ['\x7d']
  String.ofList ('\'' :: inner ++ ['\''])

end HomeKit.Text
