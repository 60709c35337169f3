import Leasehold.Json.Number
import Leasehold.Text.Blank
import Leasehold.Text.Hex

/-!
# Reading JSON

A text is first cut into tokens and the tokens are then built into a document. The reader is strict:
no comments, no trailing commas, no control characters in a text, and nothing but blanks around the
one value. A text that holds half of a surrogate pair, a number without bound and a container nested
too deeply are read, but have no value: such a part may be skipped but not used.
-/
namespace Leasehold.Json

/-- A piece of JSON. -/
inductive Token where
  /-- A comma. -/
  | comma
  /-- A colon. -/
  | colon
  /-- The start of an array. -/
  | openList
  /-- The end of an array. -/
  | closeList
  /-- The start of an object. -/
  | openObject
  /-- The end of an object. -/
  | closeObject
  /-- A text, which is absent when it holds half of a surrogate pair. -/
  | string (value : Option String)
  /-- A number, a truth value or null. -/
  | literal (value : Scalar)
deriving DecidableEq, Repr

namespace Token

/-- The number of four hexadecimal digits at the front of a text. -/
def unit? : List Char → Option (Nat × List Char)
  | a :: b :: c :: d :: rest => do
    let a ← Text.Hex.value? a.toNat
    let b ← Text.Hex.value? b.toNat
    let c ← Text.Hex.value? c.toNat
    let d ← Text.Hex.value? d.toNat
    some (((a * 16 + b) * 16 + c) * 16 + d, rest)
  | _ => none

/-- The number is the first half of a surrogate pair. -/
def isLead (unit : Nat) : Bool := 0xd800 ≤ unit && unit ≤ 0xdbff

/-- The number is the second half of a surrogate pair. -/
def isTrail (unit : Nat) : Bool := 0xdc00 ≤ unit && unit ≤ 0xdfff

/-- The character behind an escape that is one letter. -/
def shortEscape? : Char → Option Char
  | '"' => some '"'
  | '\\' => some '\\'
  | '/' => some '/'
  | 'b' => some '\x08'
  | 'f' => some '\x0c'
  | 'n' => some '\n'
  | 'r' => some '\r'
  | 't' => some '\t'
  | _ => none

/-- What an escape by number stands for, and the text after it. The character is absent for half of
a surrogate pair. -/
def longEscape? (text : List Char) : Option (Option Char × List Char) := do
  let (unit, rest) ← unit? text
  if isTrail unit then some (none, rest)
  else if isLead unit then
    match (Text.dropStart? ['\\', 'u'] rest).bind unit? with
    | some (second, after) =>
      if isTrail second then
        some (some (Char.ofNat (0x10000 + (unit - 0xd800) * 0x400 + (second - 0xdc00))), after)
      else some (none, rest)
    | none => some (none, rest)
  else some (some (Char.ofNat unit), rest)

/-- Read the rest of a text, up to and including its closing quote. The characters read so far come
last first, and are absent once half of a surrogate pair was met. -/
def textBody? : Nat → Option (List Char) → List Char → Option (Option String × List Char)
  | 0, _, _ => none
  | fuel + 1, sofar, input =>
    match input with
    | [] => none
    | '"' :: rest => some (sofar.map fun chars => String.ofList chars.reverse, rest)
    | '\\' :: 'u' :: rest => do
      let (c, rest) ← longEscape? rest
      textBody? fuel (do let chars ← sofar; let c ← c; some (c :: chars)) rest
    | '\\' :: c :: rest => do
      let c ← shortEscape? c
      textBody? fuel (sofar.map (c :: ·)) rest
    | c :: rest =>
      if c.toNat < 0x20 || c = '\\' then none else textBody? fuel (sofar.map (c :: ·)) rest

/-- Read one token from the front of a text that does not start with a blank. -/
def next? (fuel : Nat) (text : List Char) : Option (Token × List Char) :=
  match text with
  | [] => none
  | c :: rest =>
    match c with
    | ',' => some (.comma, rest)
    | ':' => some (.colon, rest)
    | '[' => some (.openList, rest)
    | ']' => some (.closeList, rest)
    | '\x7b' => some (.openObject, rest)
    | '\x7d' => some (.closeObject, rest)
    | '"' => (textBody? fuel (some []) rest).map fun (value, rest) => (.string value, rest)
    | '-' => (Number.read? true rest).map fun (value, rest) => (.literal value, rest)
    | 'n' => (Text.dropStart? "ull".toList rest).map (.literal .null, ·)
    | 't' => (Text.dropStart? "rue".toList rest).map (.literal (.bool true), ·)
    | 'f' => (Text.dropStart? "alse".toList rest).map (.literal (.bool false), ·)
    | _ => (Number.read? false text).map fun (value, rest) => (.literal value, rest)

/-- A character that may stand between two tokens. -/
def isSpace (c : Char) : Bool := c = ' ' || c = '\n' || c = '\t' || c = '\r'

/-- Cut a text into tokens, at most as many as there is fuel. -/
def scanWith? : Nat → List Char → Option (List Token)
  | 0, _ => none
  | fuel + 1, input =>
    match input.dropWhile isSpace with
    | [] => some []
    | c :: rest => do
      let (token, rest) ← next? (fuel + 1) (c :: rest)
      let tokens ← scanWith? fuel rest
      some (token :: tokens)

/-- Cut a text into tokens. Each token takes a character or more, so a text has no more tokens than
characters. -/
def scan? (text : List Char) : Option (List Token) := scanWith? (text.length + 1) text

end Token

/-- A container, which has no value when it is nested too deeply. -/
def bounded (room : Nat) (node : Node) : Node := if room = 0 then Node.unreadable else node

/-- The node for a text, which has no value when it holds half of a surrogate pair. -/
def textNode : Option String → Node
  | some value => Node.ofText value
  | none => Node.unreadable

mutual

/-- Build one value from the front of the tokens. `room` is how many levels of containers may still
be opened. -/
def value? : Nat → Nat → List Token → Option (Node × List Token)
  | 0, _, _ => none
  | fuel + 1, room, tokens =>
    match tokens with
    | .string value :: rest => some (textNode value, rest)
    | .literal value :: rest => some (.scalar value none, rest)
    | .openList :: .closeList :: rest => some (bounded room (.list []), rest)
    | .openList :: rest =>
      (items? fuel (room - 1) rest).map fun (items, rest) => (bounded room (.list items), rest)
    | .openObject :: .closeObject :: rest => some (bounded room (.map []), rest)
    | .openObject :: rest =>
      (fields? fuel (room - 1) rest).map fun (fields, rest) => (bounded room (.map fields), rest)
    | _ => none

/-- Build the items of an array, up to and including its end. -/
def items? : Nat → Nat → List Token → Option (List Node × List Token)
  | 0, _, _ => none
  | fuel + 1, room, tokens => do
    let (item, rest) ← value? fuel room tokens
    match rest with
    | .comma :: rest => (items? fuel room rest).map fun (items, rest) => (item :: items, rest)
    | .closeList :: rest => some ([item], rest)
    | _ => none

/-- Build the fields of an object, up to and including its end. -/
def fields? : Nat → Nat → List Token → Option (List (Node × Node) × List Token)
  | 0, _, _ => none
  | fuel + 1, room, tokens =>
    match tokens with
    | .string name :: .colon :: rest => do
      let (value, rest) ← value? fuel room rest
      match rest with
      | .comma :: rest =>
        (fields? fuel room rest).map fun (fields, rest) => ((textNode name, value) :: fields, rest)
      | .closeObject :: rest => some ([(textNode name, value)], rest)
      | _ => none
    | _ => none

end

/-- The levels of containers that have a value. -/
def maxDepth : Nat := 127

/-- Read the document of a text that holds one JSON value. -/
def read? (text : List Char) : Option Node := do
  let tokens ← Token.scan? text
  match value? (2 * tokens.length + 1) maxDepth tokens with
  | some (node, []) => some node
  | _ => none

end Leasehold.Json
