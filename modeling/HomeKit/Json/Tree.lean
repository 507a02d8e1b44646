import HomeKit.Json.Basic
import HomeKit.Json.Token

/-!
# Reading JSON

A text's tokens form a `Tree`, which keeps what a value drops: repeated names, the digits of
numbers, and strings without a text. The tree is built by a machine over the tokens (`Builder`)
that keeps the open arrays and objects on a stack. `Tree.value?` turns a tree into a value, where
it has one: strings need a text, numbers have to be in range and at most `maxDepth` arrays and
objects may be inside each other.
-/

namespace HomeKit.Json

/-- The structure of a text. -/
inductive Tree where
  | null
  | bool (b : Bool)
  | number (literal : Literal)
  | string (text : Option String)
  | array (items : List Tree)
  /-- The members in the order of the text. -/
  | object (members : List (Option String × Tree))

/-! ## Building -/

/-- An array or object whose end is still to come; what it holds is in reverse. -/
inductive Frame where
  | array (done : List Tree)
  | object (done : List (Option String × Tree)) (name : Option String)

inductive Expected where
  | value
  /-- An item, or the end of an array that is still empty. -/
  | itemOrEnd
  /-- A name, or the end of an object that is still empty. -/
  | nameOrEnd
  | name
  | colon
  /-- A comma, or the end of the innermost array or object. -/
  | commaOrEnd
  | nothing (tree : Tree)

/-- The open arrays and objects, innermost first, and what may come next. -/
structure Builder where
  stack : List Frame := []
  expected : Expected := .value

namespace Builder

/-- A complete tree goes into the innermost open array or object. -/
def plug (tree : Tree) : List Frame → Builder
  | [] => ⟨[], .nothing tree⟩
  | .array done :: stack => ⟨.array (tree :: done) :: stack, .commaOrEnd⟩
  | .object done name :: stack => ⟨.object ((name, tree) :: done) none :: stack, .commaOrEnd⟩

def value? (stack : List Frame) : Token → Option Builder
  | .null => some (plug .null stack)
  | .bool b => some (plug (.bool b) stack)
  | .number literal => some (plug (.number literal) stack)
  | .string text => some (plug (.string text) stack)
  | .beginArray => some ⟨.array [] :: stack, .itemOrEnd⟩
  | .beginObject => some ⟨.object [] none :: stack, .nameOrEnd⟩
  | _ => none

def close? (stack : List Frame) : Token → Option Builder
  | .endArray =>
    match stack with
    | .array done :: stack => some (plug (.array done.reverse) stack)
    | _ => none
  | .endObject =>
    match stack with
    | .object done _ :: stack => some (plug (.object done.reverse) stack)
    | _ => none
  | _ => none

def name? (stack : List Frame) : Token → Option Builder
  | .string text =>
    match stack with
    | .object done _ :: stack => some ⟨.object done text :: stack, .colon⟩
    | _ => none
  | _ => none

def step? (builder : Builder) (token : Token) : Option Builder :=
  match builder.expected with
  | .value => value? builder.stack token
  | .itemOrEnd => (close? builder.stack token).or (value? builder.stack token)
  | .nameOrEnd => (close? builder.stack token).or (name? builder.stack token)
  | .name => name? builder.stack token
  | .colon => if token = .colon then some ⟨builder.stack, .value⟩ else none
  | .commaOrEnd =>
    if token = .comma then
      match builder.stack with
      | .array _ :: _ => some ⟨builder.stack, .value⟩
      | _ => some ⟨builder.stack, .name⟩
    else
      close? builder.stack token
  | .nothing _ => none

/-- The complete tree, once nothing more may come. -/
def tree? (builder : Builder) : Option Tree :=
  match builder.expected with
  | .nothing tree => some tree
  | _ => none

end Builder

def Tree.parse? (text : Bytes) : Option Tree :=
  ((Token.tokens? text).bind fun tokens => tokens.foldlM Builder.step? {}).bind Builder.tree?

/-! ## Values -/

/-- How many arrays and objects of a value may be inside each other. -/
def maxDepth : Nat := 127

mutual

/-- The value of a tree that may hold `depth` arrays and objects inside each other. -/
def Tree.valueWithin? : (depth : Nat) → Tree → Option Json
  | _, .null => some .null
  | _, .bool b => some (.bool b)
  | _, .number literal => literal.value?.map .number
  | _, .string text => text.map .string
  | 0, .array _ | 0, .object _ => none
  | depth + 1, .array items => (Tree.valuesWithin? depth items).map .array
  | depth + 1, .object members => (Tree.membersWithin? depth members).map ofMembers

def Tree.valuesWithin? : (depth : Nat) → List Tree → Option (List Json)
  | _, [] => some []
  | depth, item :: rest =>
    match Tree.valueWithin? depth item, Tree.valuesWithin? depth rest with
    | some value, some values => some (value :: values)
    | _, _ => none

def Tree.membersWithin? : (depth : Nat) → List (Option String × Tree) →
    Option (List (String × Json))
  | _, [] => some []
  | depth, (name, member) :: rest =>
    match name, Tree.valueWithin? depth member, Tree.membersWithin? depth rest with
    | some name, some value, some members => some ((name, value) :: members)
    | _, _, _ => none

end

def Tree.value? (tree : Tree) : Option Json :=
  tree.valueWithin? maxDepth

def parse? (text : Bytes) : Option Json :=
  (Tree.parse? text).bind Tree.value?

end HomeKit.Json
