import HomeKit.Text.Decimal
import HomeKit.Text.Reads
import HomeKit.Toml.Basic

/-!
# TOML numbers, dates and times

Each reader takes the start of a text and returns what is left of it. What follows a value decides
later whether the value was complete.
-/

namespace HomeKit.Toml

open Text (Reads expect digitIn? ofDigits ofDigitsUpTo)

/-! ## Numbers -/

/-- The rest of some digits, of which `done` are read, last one first; an underscore stands between
two digits. -/
def moreDigits (base : Nat) (done : List Nat) : List Char → Reads (List Nat)
  | [] => some (done.reverse, [])
  | c :: rest =>
    match digitIn? base c with
    | some d => moreDigits base (d :: done) rest
    | none =>
      if c = '_' then
        match rest with
        | [] => none
        | c :: rest =>
          match digitIn? base c with
          | some d => moreDigits base (d :: done) rest
          | none => none
      else some (done.reverse, c :: rest)

def digits? (base : Nat) : List Char → Reads (List Nat)
  | [] => none
  | c :: rest => (digitIn? base c).bind fun d => moreDigits base [d] rest

/-- The digits before a point or an exponent: a zero, or digits that do not start with one. -/
def wholeDigits? : List Char → Reads (List Nat)
  | '0' :: rest => some ([0], rest)
  | cs => digits? 10 cs

/-- The first number that needs more than 64 bits with a sign. -/
def integerLimit : Nat := Nat.pow 2 63

def integerOf? (negative : Bool) (base : Nat) (digits : List Nat) : Option Toml :=
  let n := ofDigitsUpTo (integerLimit + 1) base digits
  if negative then if n ≤ integerLimit then some (.integer (-n)) else none
  else if n < integerLimit then some (.integer n) else none

/-- The number of an exponent's digits. Beyond the limit exponents are alike: no text has enough
digits to make up for one. -/
def exponentOf (digits : List Nat) : Int :=
  ofDigitsUpTo integerLimit 10 digits

def exponent? : List Char → Reads Int
  | c :: rest =>
    if c = 'e' ∨ c = 'E' then
      match rest with
      | '-' :: rest => (digits? 10 rest).map fun (ds, rest) => (-exponentOf ds, rest)
      | '+' :: rest => (digits? 10 rest).map fun (ds, rest) => (exponentOf ds, rest)
      | rest => (digits? 10 rest).map fun (ds, rest) => (exponentOf ds, rest)
    else some (0, c :: rest)
  | [] => some (0, [])

/-- The first number that is rounded to infinity as a binary floating-point number of 64 bits; it
has 309 digits. -/
def infiniteFrom : Nat := Nat.pow 2 1024 - Nat.pow 2 970

/-- Would the decimal of some digits, times ten to a power, be rounded to infinity? Its whole part
decides that. -/
def overflows (digits : List Nat) (power : Int) : Bool :=
  let digits := digits.dropWhile (· = 0)
  let wholeLength : Int := digits.length + power
  if digits.isEmpty ∨ wholeLength < 309 then false
  else if 309 < wholeLength then true
  else infiniteFrom ≤ ofDigits 10 ((digits ++ List.replicate 309 0).take 309)

def decimal? (negative : Bool) (cs : List Char) : Option (Toml × List Char) := do
  let (whole, rest) ← wholeDigits? cs
  let isFraction := rest.head? = some '.'
  let (fraction, rest) ← if isFraction then digits? 10 (rest.drop 1) else some ([], rest)
  let hasExponent := rest.head? = some 'e' ∨ rest.head? = some 'E'
  let (exponent, rest) ← exponent? rest
  if isFraction ∨ hasExponent then
    if !negative && overflows (whole ++ fraction) (exponent - fraction.length) then none
    else return (.float, rest)
  else return (← integerOf? negative 10 whole, rest)

/-- An integer in another base, after the mark of the base. -/
def based? (base : Nat) (cs : List Char) : Option (Toml × List Char) := do
  let (ds, rest) ← digits? base cs
  return (← integerOf? false base ds, rest)

/-- What is no number, or infinite. -/
def special? : List Char → Reads Toml
  | 'i' :: 'n' :: 'f' :: rest => some (.float, rest)
  | 'n' :: 'a' :: 'n' :: rest => some (.float, rest)
  | _ => none

def number? : List Char → Reads Toml
  | '0' :: 'x' :: rest => based? 16 rest
  | '0' :: 'o' :: rest => based? 8 rest
  | '0' :: 'b' :: rest => based? 2 rest
  | '+' :: rest => (special? rest).or (decimal? false rest)
  | '-' :: rest => (special? rest).or (decimal? true rest)
  | cs => (special? cs).or (decimal? false cs)

/-! ## Dates and times -/

def fixedDigits? (count : Nat) (cs : List Char) : Reads Nat :=
  let digits := cs.take count
  if digits.length = count then
    (digits.mapM Text.digit?).map fun ds => (ofDigits 10 ds, cs.drop count)
  else none

def twoDigits? (low high : Nat) (cs : List Char) : Reads Nat :=
  (fixedDigits? 2 cs).filter fun (n, _) => low ≤ n && n ≤ high

def daysOf (year month : Nat) : Nat :=
  if month = 2 then
    if year % 4 = 0 ∧ (year % 100 ≠ 0 ∨ year % 400 = 0) then 29 else 28
  else if [4, 6, 9, 11].contains month then 30
  else 31

def date? (cs : List Char) : Option (List Char) := do
  let (year, cs) ← fixedDigits? 4 cs
  let (month, cs) ← twoDigits? 1 12 (← expect '-' cs)
  let (_, cs) ← twoDigits? 1 (daysOf year month) (← expect '-' cs)
  return cs

/-- The digits of a part of a second, if they are there. -/
def secondPart (cs : List Char) : List Char :=
  match cs with
  | '.' :: c :: rest =>
    if (Text.digit? c).isSome then rest.dropWhile (Text.digit? · |>.isSome) else cs
  | _ => cs

/-- A time of day; leap seconds count. -/
def time? (cs : List Char) : Option (List Char) := do
  let (_, cs) ← twoDigits? 0 23 cs
  let (_, cs) ← twoDigits? 0 59 (← expect ':' cs)
  let (_, cs) ← twoDigits? 0 60 (← expect ':' cs)
  return secondPart cs

def offset? (cs : List Char) : Option (List Char) :=
  match cs with
  | 'Z' :: rest | 'z' :: rest => some rest
  | '+' :: rest | '-' :: rest => do
    let (_, cs) ← twoDigits? 0 23 rest
    let (_, cs) ← twoDigits? 0 59 (← expect ':' cs)
    return cs
  | _ => some cs

def timeAfterDate? (cs : List Char) : Option (List Char) :=
  match cs with
  | 'T' :: rest | 't' :: rest => (time? rest).bind offset?
  | ' ' :: c :: rest =>
    if (Text.digit? c).isSome then (time? (c :: rest)).bind offset? else some cs
  | _ => some cs

def dateTime? (cs : List Char) : Reads Toml :=
  (((date? cs).bind timeAfterDate?).or (time? cs)).map (.dateTime, ·)

end HomeKit.Toml
