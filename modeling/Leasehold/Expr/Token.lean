import Leasehold.Expr
import Leasehold.Text.Blank
import Leasehold.Text.Decimal

/-!
# Tokens of a test expression

A test is a sequence of words, marks and literals. Blanks, tabs and line ends may stand between any
two of them and need not: no word begins another, so the text alone says where each one ends. A
literal keeps its digits here, because only a well-formed expression is told that one of its numbers
is too large or one of its byte sequences has an odd digit.
-/
namespace Leasehold.Expr

/-- A word, a mark or a literal. -/
inductive Token where
  /-- The word that joins two truth values of which one has to hold. -/
  | or
  /-- The word that joins two truth values that both have to hold. -/
  | and
  /-- The mark between two values that have to be equal. -/
  | equal
  /-- The mark between two values that must not be equal. -/
  | notEqual
  /-- The word that negates a truth value. -/
  | not
  /-- A truth value. -/
  | bool (value : Bool)
  /-- The word in front of a class name. -/
  | member
  /-- The word in front of the arguments of a substring. -/
  | substring
  /-- The word for everything up to the end. -/
  | all
  /-- A fact about the client. -/
  | field (field : ClientField)
  /-- An opening parenthesis. -/
  | openParen
  /-- A closing parenthesis. -/
  | closeParen
  /-- A comma. -/
  | comma
  /-- The digits of a sequence of bytes. -/
  | hex (digits : List Char)
  /-- The digits of a number. -/
  | int (digits : List Char)
  /-- A text. -/
  | string (value : List Char)
deriving DecidableEq, Repr

namespace Token

/-- Every word and mark, with the token that it stands for. A fact may go by two names. -/
def words : List (List Char × Token) := [
  ("and".toList, .and),
  ("or".toList, .or),
  ("==".toList, .equal),
  ("!=".toList, .notEqual),
  ("not".toList, .not),
  ("true".toList, .bool true),
  ("false".toList, .bool false),
  ("member".toList, .member),
  ("substring".toList, .substring),
  ("all".toList, .all),
  ("pkt4.mac".toList, .field .mac),
  ("pkt.mac".toList, .field .mac),
  ("pkt.client_id".toList, .field .clientId),
  ("option[61].hex".toList, .field .clientId),
  ("pkt6.duid".toList, .field .duid),
  ("pkt.duid".toList, .field .duid),
  ("pkt.iface".toList, .field .iface),
  ("relay4[1].hex".toList, .field .circuitId),
  ("relay.circuit_id".toList, .field .circuitId),
  ("(".toList, .openParen),
  (")".toList, .closeParen),
  (",".toList, .comma)]

/-- The word or mark at the front of a text, and the text after it. -/
def word? (text : List Char) : Option (Token × List Char) :=
  words.findSome? fun (spelling, token) => (Text.dropStart? spelling text).map (token, ·)

/-- The literal at the front of a text, and the text after it. -/
def literal? (text : List Char) : Option (Token × List Char) :=
  match text with
  | '\'' :: rest =>
    (Text.splitFirst? (· = '\'') rest).map fun (value, after) => (.string value, after)
  | '0' :: 'x' :: rest =>
    let digits := rest.takeWhile Text.Hex.isDigit
    if digits.isEmpty then some (.int ['0'], 'x' :: rest)
    else some (.hex digits, rest.dropWhile Text.Hex.isDigit)
  | _ =>
    let digits := text.takeWhile Text.Decimal.isDigit
    if digits.isEmpty then none
    else some (.int digits, text.dropWhile Text.Decimal.isDigit)

/-- A character that may stand between two tokens. -/
def isSpace (c : Char) : Bool := c = ' ' || c = '\t' || c = '\r' || c = '\n'

/-- Cut a text into tokens, at most as many as there is fuel. -/
def scanWith? : Nat → List Char → Option (List Token)
  | 0, _ => none
  | fuel + 1, text =>
    match text.dropWhile isSpace with
    | [] => some []
    | c :: rest => do
      let (token, after) ← (word? (c :: rest)).or (literal? (c :: rest))
      let tokens ← scanWith? fuel after
      some (token :: tokens)

/-- Cut a text into tokens. Each token takes a character or more, so a text has no more tokens than
characters. -/
def scan? (text : List Char) : Option (List Token) := scanWith? (text.length + 1) text

end Token

end Leasehold.Expr
