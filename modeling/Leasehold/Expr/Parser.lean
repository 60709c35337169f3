import Leasehold.Expr.Token

/-!
# Reading test expressions

The words of an expression bind in four strengths: alternatives bind least, then conjunctions, then
comparisons, and a negation binds most. Alternatives and conjunctions group to the left, comparisons
to the right. A text that is no expression is refused as a whole; a well-formed one may still hold a
number that is too large or an odd digit. Of several such literals the leftmost is reported, except
that the length of a substring is looked at before the value it is taken from, and its start last.
-/
namespace Leasehold

/-- Why a text is not a test expression. -/
inductive ParseError where
  /-- The text does not follow the grammar. -/
  | malformed
  /-- A number is too large. -/
  | int
  /-- A sequence of bytes has an odd number of digits. -/
  | hex
deriving DecidableEq, Repr

/-- The wording of each error that has one of its own. -/
def ParseError.message : ParseError → String
  | .malformed => "expression does not follow the grammar"
  | .int => "int parse error"
  | .hex => "hex parse error"

namespace Expr

/-- A well-formed expression, or what is wrong with one of its literals. -/
abbrev Reading := Except ParseError Expr

/-- The number that digits stand for, when it is at most `largest`. -/
def number (largest : Nat) (digits : List Char) : Except ParseError Nat :=
  let value := Text.Decimal.value digits
  if value ≤ largest then .ok value else .error .int

/-- The number of 32 bits that digits stand for. -/
def word (digits : List Char) : Except ParseError UInt32 :=
  (number largestWord digits).map UInt32.ofNat

/-- The number of 64 bits that digits stand for. -/
def long (digits : List Char) : Except ParseError UInt64 :=
  (number largestLong digits).map UInt64.ofNat

/-- The bytes that hexadecimal digits stand for. -/
def byteLiteral (digits : List Char) : Reading :=
  match Text.Hex.decode (digits.map fun c => UInt8.ofNat c.toNat) with
  | .ok bytes => .ok (.hex bytes)
  | .error _ => .error .hex

/-- The reading of two joined expressions. -/
def joined (join : Expr → Expr → Expr) (left right : Reading) : Reading := do
  let first ← left
  let second ← right
  .ok (join first second)

/-- The reading of a substring from the readings of its parts. -/
def substringOf (value : Reading) (start : List Char) (length : Option (List Char)) : Reading := do
  let count ← length.mapM long
  let inner ← value
  let position ← long start
  .ok (.substring inner position count)

/-- The strengths with which the words of an expression bind. -/
inductive Strength where
  /-- Alternatives. -/
  | or
  /-- Conjunctions. -/
  | and
  /-- Comparisons. -/
  | comparison
  /-- Negations, and expressions without a joining word. -/
  | unary

mutual

/-- Read an expression whose joining words bind at least as strongly as given, from the front of the
tokens. -/
def at? : Nat → Strength → List Token → Option (Reading × List Token)
  | 0, _, _ => none
  | fuel + 1, .or, tokens => do
    let (left, rest) ← at? fuel .and tokens
    ors? fuel left rest
  | fuel + 1, .and, tokens => do
    let (left, rest) ← at? fuel .comparison tokens
    ands? fuel left rest
  | fuel + 1, .comparison, tokens => do
    let (left, rest) ← at? fuel .unary tokens
    match rest with
    | .equal :: rest =>
      let (right, rest) ← at? fuel .comparison rest
      some (joined .equal left right, rest)
    | .notEqual :: rest =>
      let (right, rest) ← at? fuel .comparison rest
      some (joined .notEqual left right, rest)
    | _ => some (left, rest)
  | fuel + 1, .unary, tokens =>
    match tokens with
    | .not :: rest => do
      let (value, rest) ← at? fuel .unary rest
      some (value.map .not, rest)
    | .bool value :: rest => some (.ok (.bool value), rest)
    | .field fact :: rest => some (.ok (.field fact), rest)
    | .hex digits :: rest => some (byteLiteral digits, rest)
    | .int digits :: rest => some ((word digits).map .int, rest)
    | .string value :: rest => some (.ok (.string (String.ofList value)), rest)
    | .member :: .openParen :: .string name :: .closeParen :: rest =>
      some (.ok (.member (String.ofList name)), rest)
    | .substring :: .openParen :: rest => do
      let (value, rest) ← at? fuel .or rest
      match rest with
      | .comma :: .int start :: .comma :: .int length :: .closeParen :: rest =>
        some (substringOf value start (some length), rest)
      | .comma :: .int start :: .comma :: .all :: .closeParen :: rest =>
        some (substringOf value start none, rest)
      | _ => none
    | .openParen :: rest => do
      let (value, rest) ← at? fuel .or rest
      match rest with
      | .closeParen :: rest => some (value, rest)
      | _ => none
    | _ => none

/-- Read the alternatives that follow an expression. -/
def ors? : Nat → Reading → List Token → Option (Reading × List Token)
  | 0, _, _ => none
  | fuel + 1, left, tokens =>
    match tokens with
    | .or :: rest => do
      let (right, rest) ← at? fuel .and rest
      ors? fuel (joined .or left right) rest
    | _ => some (left, tokens)

/-- Read the conjunctions that follow an expression. -/
def ands? : Nat → Reading → List Token → Option (Reading × List Token)
  | 0, _, _ => none
  | fuel + 1, left, tokens =>
    match tokens with
    | .and :: rest => do
      let (right, rest) ← at? fuel .comparison rest
      ands? fuel (joined .and left right) rest
    | _ => some (left, tokens)

end

/-- Read the expression that makes up a whole sequence of tokens. A token opens at most four
strengths. -/
def ofTokens (tokens : List Token) : Reading :=
  match at? (5 * tokens.length + 5) .or tokens with
  | some (reading, []) => reading
  | _ => .error .malformed

/-- Read the expression that makes up a whole text. -/
def parse (text : String) : Reading :=
  match Token.scan? text.toList with
  | some tokens => ofTokens tokens
  | none => .error .malformed

end Expr

end Leasehold
