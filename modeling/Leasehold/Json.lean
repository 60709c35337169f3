import Leasehold.Document
import Leasehold.Text.Decimal
import Leasehold.Text.Hex

/-!
# JSON values and how they are printed

The configuration that is in force and the report of a simulation are written as JSON. A value here
holds only what those two need: numbers are whole and not negative, and the fields of an object stay
in the order given. `compact` writes a value without blanks, and `pretty` writes one item per line,
indented by two blanks per level. `node` is the document that a value stands for.
-/
namespace Leasehold

/-- A JSON value. -/
inductive Json where
  /-- The value null. -/
  | null
  /-- A truth value. -/
  | bool (value : Bool)
  /-- A whole number. -/
  | number (value : Nat)
  /-- A text. -/
  | text (value : String)
  /-- An array. -/
  | list (items : List Json)
  /-- An object, its fields in order. -/
  | object (fields : List (String × Json))
deriving Inhabited

namespace Json

/-- A value that may be absent, which is written as null. -/
def ofOption {α : Type} (encode : α → Json) : Option α → Json
  | none => .null
  | some value => encode value

/-- A field that is left out when it has no value. -/
def present {α : Type} (name : String) (encode : α → Json) : Option α → List (String × Json)
  | none => []
  | some value => [(name, encode value)]

/-- One character inside a JSON text. -/
def escaped (c : Char) : List Char :=
  if c = '"' then ['\\', '"']
  else if c = '\\' then ['\\', '\\']
  else if c = '\n' then ['\\', 'n']
  else if c = '\r' then ['\\', 'r']
  else if c = '\t' then ['\\', 't']
  else if c = '\x08' then ['\\', 'b']
  else if c = '\x0c' then ['\\', 'f']
  else if c.toNat < 0x20 then
    ['\\', 'u', '0', '0', Text.Hex.digit (c.toNat / 16), Text.Hex.digit (c.toNat % 16)]
  else [c]

/-- A text between double quotes. -/
def quotedText (text : String) : List Char := '"' :: text.toList.flatMap escaped ++ ['"']

/-- A value that is neither an array nor an object. -/
def leaf : Json → List Char
  | .null => "null".toList
  | .bool true => "true".toList
  | .bool false => "false".toList
  | .number value => Text.Decimal.digits value
  | .text value => quotedText value
  | .list _ => []
  | .object _ => []

mutual

/-- The characters of a value, without blanks. -/
def compact : Json → List Char
  | .list items => '[' :: compactItems items ++ [']']
  | .object fields => '\x7b' :: compactFields fields ++ ['\x7d']
  | other => other.leaf

/-- The items of an array, with commas between them. -/
def compactItems : List Json → List Char
  | [] => []
  | [item] => compact item
  | item :: rest => compact item ++ ',' :: compactItems rest

/-- The fields of an object, with commas between them. -/
def compactFields : List (String × Json) → List Char
  | [] => []
  | [(name, value)] => quotedText name ++ ':' :: compact value
  | (name, value) :: rest =>
    quotedText name ++ ':' :: compact value ++ ',' :: compactFields rest

end

/-- A line break and the indentation of a level. -/
def lineBreak (level : Nat) : List Char := '\n' :: List.replicate (2 * level) ' '

mutual

/-- The characters of a value at a level, one item per line. -/
def prettyAt (level : Nat) : Json → List Char
  | .list [] => ['[', ']']
  | .object [] => ['\x7b', '\x7d']
  | .list (item :: rest) =>
    '[' :: prettyItems (level + 1) (item :: rest) ++ lineBreak level ++ [']']
  | .object (field :: rest) =>
    '\x7b' :: prettyFields (level + 1) (field :: rest) ++ lineBreak level ++ ['\x7d']
  | other => other.leaf

/-- The items of an array, each on a line of its own. -/
def prettyItems (level : Nat) : List Json → List Char
  | [] => []
  | [item] => lineBreak level ++ prettyAt level item
  | item :: rest => lineBreak level ++ prettyAt level item ++ ',' :: prettyItems level rest

/-- The fields of an object, each on a line of its own. -/
def prettyFields (level : Nat) : List (String × Json) → List Char
  | [] => []
  | [(name, value)] => lineBreak level ++ quotedText name ++ ':' :: ' ' :: prettyAt level value
  | (name, value) :: rest =>
    lineBreak level ++ quotedText name ++ ':' :: ' ' :: prettyAt level value ++
      ',' :: prettyFields level rest

end

/-- The text of a value, one item per line. -/
def pretty (value : Json) : String := String.ofList (value.prettyAt 0)

mutual

/-- The document that a value stands for. -/
def node : Json → Node
  | .null => Node.null
  | .bool value => .scalar (.bool value) none
  | .number value =>
    if value ≤ largestLong then .scalar (.whole value) none else .scalar .fraction none
  | .text value => Node.ofText value
  | .list items => .list (nodeItems items)
  | .object fields => .map (nodeFields fields)

/-- The documents of the items of an array. -/
def nodeItems : List Json → List Node
  | [] => []
  | item :: rest => node item :: nodeItems rest

/-- The documents of the fields of an object. -/
def nodeFields : List (String × Json) → List (Node × Node)
  | [] => []
  | (name, value) :: rest => (Node.ofText name, node value) :: nodeFields rest

end

end Json

end Leasehold
