import HomeKit.Toml.Quoted

/-!
# Reading TOML

A document is a sequence of statements: headers, and keys with their values. Arrays and tables in
braces nest at most `maxDepth` deep, and keys have at most `maxDepth` parts. Loops over the text are
bounded by its length.
-/

namespace HomeKit.Toml

open Text (Reads expect)

/-- How deep values nest, and how many parts a key has at most. -/
def maxDepth : Nat := 79

/-! ## Keys -/

def isBare (c : Char) : Bool :=
  c.isAlphanum || c == '_' || c == '-'

def keyPart? (cs : List Char) : Reads String :=
  match cs with
  | '"' :: _ | '\'' :: _ => lineString? cs
  | _ =>
    let name := cs.takeWhile isBare
    if name.isEmpty then none else some (String.ofList name, cs.dropWhile isBare)

/-- The parts of a key, with blanks around each; `done` is in reverse. -/
def keyParts? (done : List String) : (fuel : Nat) → List Char → Reads (List String)
  | 0, _ => none
  | fuel + 1, cs =>
    (keyPart? (skipSpaces cs)).bind fun (part, rest) =>
      match skipSpaces rest with
      | '.' :: rest => keyParts? (part :: done) fuel rest
      | rest => some ((part :: done).reverse, rest)

/-- A key: the path to a table, and the last part. -/
def key? (cs : List Char) : Option (List String × String × List Char) := do
  let (parts, rest) ← keyParts? [] maxDepth cs
  return (parts.dropLast, ← parts.getLast?, rest)

/-! ## Values -/

/-- The text without blanks, line breaks and comments at its start, as far as comments are well
formed. -/
def skipLayout (inComment : Bool) : List Char → List Char
  | [] => []
  | '\n' :: rest => skipLayout false rest
  | '\r' :: '\n' :: rest => skipLayout false rest
  | c :: rest =>
    if inComment then if isPlain c then skipLayout true rest else c :: rest
    else if isSpace c then skipLayout false rest
    else if c = '#' then skipLayout true rest
    else c :: rest

def scalar? (cs : List Char) : Reads Toml :=
  match cs with
  | '"' :: _ | '\'' :: _ => (string? cs).map fun (s, rest) => (.string s, rest)
  | 't' :: 'r' :: 'u' :: 'e' :: rest => some (.bool true, rest)
  | 'f' :: 'a' :: 'l' :: 's' :: 'e' :: rest => some (.bool false, rest)
  | _ => (dateTime? cs).or (number? cs)

mutual

/-- A value within which arrays and tables may nest `depth` deep. -/
def value? (depth : Nat) : (fuel : Nat) → List Char → Option (Toml × List Char)
  | 0, _ => none
  | fuel + 1, '[' :: rest =>
    if depth = 0 then none else items? (depth - 1) [] fuel (skipLayout false rest)
  | fuel + 1, '\x7b' :: rest =>
    if depth = 0 then none
    else
      match skipSpaces rest with
      | '\x7d' :: rest => some (.inlineTable [], rest)
      | rest => members? (depth - 1) [] fuel rest
  | _ + 1, cs => scalar? cs

/-- The items of an array after those in `done`, which is in reverse; a comma may follow the last
one. -/
def items? (depth : Nat) (done : List Toml) : (fuel : Nat) → List Char → Option (Toml × List Char)
  | 0, _ => none
  | _ + 1, ']' :: rest => some (.array done.reverse, rest)
  | fuel + 1, cs =>
    (value? depth fuel cs).bind fun (item, rest) =>
      match skipLayout false rest with
      | ',' :: rest => items? depth (item :: done) fuel (skipLayout false rest)
      | ']' :: rest => some (.array (item :: done).reverse, rest)
      | _ => none

def members? (depth : Nat) (members : Members) :
    (fuel : Nat) → List Char → Option (Toml × List Char)
  | 0, _ => none
  | fuel + 1, cs =>
    (key? cs).bind fun (path, name, rest) =>
      (expect '=' rest).bind fun rest =>
        (value? depth fuel (skipSpaces rest)).bind fun (value, rest) =>
          (members.assign [] path name value).bind fun members =>
            match skipSpaces rest with
            | ',' :: rest => members? depth members fuel rest
            | '\x7d' :: rest => some (.inlineTable members, rest)
            | _ => none

end

/-! ## Statements -/

/-- What has been read: the document, and the path of the table that keys are added to. -/
structure Progress where
  members : Members := []
  path : List String := []

/-- The rest of a line that holds nothing more but a comment. -/
def lineEnd? (cs : List Char) : Option (List Char) :=
  let rest := match skipSpaces cs with
    | '#' :: comment => comment.dropWhile isPlain
    | rest => rest
  if rest.isEmpty then some [] else lineBreak? rest

def header? (progress : Progress) (cs : List Char) : Option (Progress × List Char) :=
  match cs with
  | '[' :: '[' :: rest => do
    let (path, name, rest) ← key? rest
    let members ← progress.members.startElement path name
    return (⟨members, path ++ [name]⟩, ← expect ']' (← expect ']' rest))
  | '[' :: rest => do
    let (path, name, rest) ← key? rest
    let members ← progress.members.startTable path name
    return (⟨members, path ++ [name]⟩, ← expect ']' rest)
  | _ => none

/-- A key and its value; `fuel` is more than the length of the text. -/
def assignment? (progress : Progress) (fuel : Nat) (cs : List Char) :
    Option (Progress × List Char) := do
  let (key, name, rest) ← key? cs
  let rest ← expect '=' rest
  let (value, rest) ← value? maxDepth fuel (skipSpaces rest)
  let members ← progress.members.assign progress.path key name value
  return ({ progress with members }, rest)

def statement? (progress : Progress) (fuel : Nat) (cs : List Char) :
    Option (Progress × List Char) := do
  let (progress, rest) ← match skipSpaces cs with
    | '[' :: rest => header? progress ('[' :: rest)
    | cs =>
      if cs.head?.any (fun c => c = '#' ∨ c = '\n' ∨ c = '\r') ∨ cs.isEmpty then some (progress, cs)
      else assignment? progress fuel cs
  return (progress, ← lineEnd? rest)

/-- All statements; `fuel` is at least the length of the text, and each statement takes some of
it. -/
def statements? (progress : Progress) : (fuel : Nat) → List Char → Option Members
  | _, [] => some progress.members
  | 0, _ => none
  | fuel + 1, cs =>
    (statement? progress (fuel + 2) cs).bind fun (progress, rest) => statements? progress fuel rest

/-- The character that may start a text to mark its encoding. -/
def byteOrderMark : Char := '\ufeff'

def parse? (text : String) : Option Members :=
  let cs := text.toList
  let cs := if cs.head? = some byteOrderMark then cs.drop 1 else cs
  statements? {} cs.length cs

end HomeKit.Toml
