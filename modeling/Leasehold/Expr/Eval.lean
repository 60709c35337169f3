import Leasehold.Expr
import Leasehold.Text.Blank
import Leasehold.Text.Quoted

/-!
# The value of a test expression

A value is a truth value, a number, a text, a sequence of bytes, or empty where the client did not
present the fact. Truth values are combined from left to right, and the right one is not looked at
when the left one decides. Texts are compared without regard to ASCII letter case, bytes exactly; an
empty value equals only another empty one.
-/
namespace Leasehold

/-- The value of an expression. -/
inductive Value where
  /-- The client did not present the fact. -/
  | empty
  /-- A truth value. -/
  | bool (value : Bool)
  /-- A text. -/
  | string (value : String)
  /-- A sequence of bytes. -/
  | bytes (value : Bytes)
  /-- A number. -/
  | int (value : UInt32)
deriving DecidableEq, Repr

namespace Value

/-- How messages show a value. -/
def display : Value → String
  | empty => "Empty"
  | bool true => "Bool(true)"
  | bool false => "Bool(false)"
  | string value => "String(" ++ Text.quoted value ++ ")"
  | bytes value =>
    "Bytes([" ++ String.intercalate ", " (value.map fun byte => toString byte.toNat) ++ "])"
  | int value => "Int(" ++ toString value.toNat ++ ")"

/-- The bytes of a text or of a sequence of bytes. -/
def bytes? : Value → Option Bytes
  | string value => some (Text.utf8 value.toList)
  | bytes value => some value
  | _ => none

end Value

/-- Why an expression has no value. -/
inductive EvalError where
  /-- A truth value was needed. -/
  | expectedBool (found : Value)
  /-- A text or a sequence of bytes was needed. -/
  | expectedBytes (found : Value)
  /-- The values are of kinds that cannot be compared. -/
  | incomparable (left right : Value)
deriving DecidableEq, Repr

/-- The wording of each error. -/
def EvalError.message : EvalError → String
  | .expectedBool found => "expected bool: got " ++ found.display
  | .expectedBytes found => "expected bytes: got " ++ found.display
  | .incomparable left right => "cannot compare " ++ left.display ++ " with " ++ right.display

/-- The facts about a client that an expression can see. -/
structure ClientFacts where
  /-- The hardware address. -/
  mac : Option Bytes
  /-- The client identifier option. -/
  clientId : Option Bytes
  /-- The unique identifier of a client of the second family. -/
  duid : Option Bytes
  /-- The circuit that a relay received the request on. -/
  circuitId : Option Bytes
  /-- The receiving interface. -/
  iface : Option String
  /-- Whether the client is known to belong to a class. -/
  isMember : String → Bool

namespace ClientFacts

/-- The value of one fact. -/
def read (facts : ClientFacts) : ClientField → Value
  | .mac => (facts.mac.map .bytes).getD .empty
  | .clientId => (facts.clientId.map .bytes).getD .empty
  | .duid => (facts.duid.map .bytes).getD .empty
  | .circuitId => (facts.circuitId.map .bytes).getD .empty
  | .iface => (facts.iface.map .string).getD .empty

end ClientFacts

namespace Value

/-- The truth value of a value. -/
def truth : Value → Except EvalError Bool
  | bool value => .ok value
  | other => .error (.expectedBool other)

/-- Part of the bytes of a value, cut to what there is. Nothing is cut out of an empty value. -/
def slice (value : Value) (start : UInt64) (length : Option UInt64) : Except EvalError Value :=
  match value with
  | empty => .ok empty
  | other =>
    match other.bytes? with
    | none => .error (.expectedBytes other)
    | some found =>
      let rest := found.drop start.toNat
      .ok (bytes (match length with
        | some count => rest.take count.toNat
        | none => rest))

/-- The lower-case form of an ASCII capital letter, and any other character itself. -/
def lowerAscii (c : Char) : Char :=
  if 0x41 ≤ c.toNat && c.toNat ≤ 0x5a then Char.ofNat (c.toNat + 0x20) else c

/-- The texts are equal but for the case of ASCII letters. -/
def sameText (left right : String) : Bool :=
  left.toList.map lowerAscii == right.toList.map lowerAscii

/-- Whether two values are equal. -/
def same (left right : Value) : Except EvalError Bool :=
  match left, right with
  | empty, empty => .ok true
  | empty, _ => .ok false
  | _, empty => .ok false
  | bool a, bool b => .ok (a == b)
  | int a, int b => .ok (a == b)
  | string a, string b => .ok (sameText a b)
  | a, b =>
    match a.bytes?, b.bytes? with
    | some first, some second => .ok (first == second)
    | _, _ => .error (.incomparable a b)

end Value

namespace Expr

/-- The value of an expression for a client. -/
def eval (facts : ClientFacts) : Expr → Except EvalError Value
  | string value => .ok (.string value)
  | hex value => .ok (.bytes value)
  | int value => .ok (.int value)
  | bool value => .ok (.bool value)
  | member name => .ok (.bool (facts.isMember name))
  | field fact => .ok (facts.read fact)
  | substring value start length =>
    match eval facts value with
    | .error error => .error error
    | .ok found => found.slice start length
  | not value =>
    match (eval facts value).bind Value.truth with
    | .error error => .error error
    | .ok found => .ok (.bool (!found))
  | and left right =>
    match (eval facts left).bind Value.truth with
    | .error error => .error error
    | .ok false => .ok (.bool false)
    | .ok true => ((eval facts right).bind Value.truth).map .bool
  | or left right =>
    match (eval facts left).bind Value.truth with
    | .error error => .error error
    | .ok true => .ok (.bool true)
    | .ok false => ((eval facts right).bind Value.truth).map .bool
  | equal left right =>
    match eval facts left with
    | .error error => .error error
    | .ok first =>
      match eval facts right with
      | .error error => .error error
      | .ok second => (first.same second).map .bool
  | notEqual left right =>
    match eval facts left with
    | .error error => .error error
    | .ok first =>
      match eval facts right with
      | .error error => .error error
      | .ok second => (first.same second).map fun same => .bool (!same)

/-- The expression is true for a client. An expression without a value is not. -/
def holds (facts : ClientFacts) (expr : Expr) : Bool :=
  match expr.eval facts with
  | .ok (.bool true) => true
  | _ => false

end Expr

end Leasehold
