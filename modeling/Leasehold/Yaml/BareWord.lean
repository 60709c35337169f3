import Leasehold.Document
import Leasehold.Text.Binary64
import Leasehold.Text.Blank
import Leasehold.Text.Hex

/-!
# What a bare word stands for

A word without quotes may be a text, but where nothing says that a text is wanted it is taken for
null, a truth value or a number if it looks like one. Whole numbers may be written in bases two,
eight, ten and sixteen; decimal digits with a needless zero in front are a text. A decimal number
beyond 64 bits has no value, unless it is beyond 128 bits too and so counts as a fraction; in the
other bases it is a text. A fraction beyond the range of binary fractions is a text.
-/
namespace Leasehold.Yaml

/-- The value of a digit of a base up to sixteen. -/
def digit? (base : Nat) (c : Char) : Option Nat :=
  (Text.Hex.value? c.toNat).filter (· < base)

/-- The number that a non-empty sequence of digits of a base stands for. -/
def magnitude? (base : Nat) (digits : List Char) : Option Nat :=
  if digits.isEmpty then none
  else digits.foldl (fun total c => do
    let total ← total
    let digit ← digit? base c
    some (base * total + digit)) (some 0)

/-- The base that a word announces, and the digits that follow. -/
def announced : List Char → Option (Nat × List Char)
  | '0' :: 'x' :: digits => some (16, digits)
  | '0' :: 'o' :: digits => some (8, digits)
  | '0' :: 'b' :: digits => some (2, digits)
  | _ => none

/-- The digits without one plus sign in front. -/
def withoutPlus : List Char → List Char
  | '+' :: digits => digits
  | digits => digits

/-- The whole number that a word announcing its base stands for, if it fits 64 bits. A word without
a minus sign may have a plus sign in front, and another one behind the base. -/
def announcedNumber? : List Char → Option Scalar
  | '-' :: body => do
    let (base, digits) ← announced body
    let magnitude ← magnitude? base digits
    if magnitude ≤ largestLong / 2 + 1 then some (.minus magnitude) else none
  | text => do
    let (base, digits) ← announced (withoutPlus text)
    let magnitude ← magnitude? base (withoutPlus digits)
    if magnitude ≤ largestLong then some (.whole magnitude) else none

/-- The whole number that decimal digits with at most one sign stand for, if it fits 128 bits. -/
def decimalNumber? : List Char → Option Scalar
  | '-' :: digits => do
    let magnitude ← magnitude? 10 digits
    if magnitude ≤ largestLong / 2 + 1 then some (.minus magnitude)
    else if magnitude ≤ largestWide / 2 + 1 then some .unreadable
    else none
  | text => do
    let magnitude ← magnitude? 10 (withoutPlus text)
    if magnitude ≤ largestLong then some (.whole magnitude)
    else if magnitude ≤ largestWide then some .unreadable
    else none

/-- The digits have a zero in front that is not the only digit. -/
def isPadded (digits : List Char) : Bool :=
  digits.length > 1 && digits.head? = some '0' && digits.all Text.Decimal.isDigit

/-- The word without its exponent, which must have digits. -/
def dropExponent? (text : List Char) : Option (List Char) :=
  match Text.splitFirst? (fun c => c = 'e' || c = 'E') text with
  | none => some text
  | some (before, after) =>
    let digits := match after with
      | '-' :: tail => tail
      | '+' :: tail => tail
      | _ => after
    if digits.isEmpty || !digits.all Text.Decimal.isDigit then none else some before

/-- The power of ten that a word with an exponent is scaled by. -/
def exponentOf (text : List Char) : Int :=
  match Text.splitFirst? (fun c => c = 'e' || c = 'E') text with
  | none => 0
  | some (_, '-' :: tail) => -(Text.Decimal.value tail : Int)
  | some (_, '+' :: tail) => Text.Decimal.value tail
  | some (_, after) => Text.Decimal.value after

/-- The digits of an unsigned decimal fraction without its point, and how many stand after it. -/
def fractionDigits? (text : List Char) : Option (List Char × Nat) := do
  let body ← dropExponent? text
  let (whole, part) := (Text.splitFirst? (· = '.') body).getD (body, [])
  let digits := whole ++ part
  if digits.isEmpty || !digits.all Text.Decimal.isDigit then none
  else some (digits, part.length)

/-- The unsigned word is a decimal fraction in the range of binary fractions. -/
def isFraction (text : List Char) : Bool :=
  match fractionDigits? text with
  | none => false
  | some (digits, places) => !Text.Binary64.exceeds digits (exponentOf text - places)

/-- The word names the number without bound, of either sign, or the result of a senseless
calculation. Plus signs in front of the first are not counted. -/
def isSpecialFraction (text : List Char) : Bool :=
  [".inf", ".Inf", ".INF"].contains (String.ofList (text.dropWhile (· = '+'))) ||
    ["-.inf", "-.Inf", "-.INF", ".nan", ".NaN", ".NAN"].contains (String.ofList text)

/-- The word without its sign. -/
def unsigned : List Char → List Char
  | '-' :: body => body
  | '+' :: body => body
  | text => text

/-- What a bare word stands for where no text is asked for. -/
def bareWord (word : String) : Scalar :=
  let text := word.toList
  if word = "~" || word = "null" then .null
  else if word = "true" then .bool true
  else if word = "false" then .bool false
  else
    match announcedNumber? text with
    | some number => number
    | none =>
      if isPadded (unsigned text) then .text word
      else
        match decimalNumber? text with
        | some number => number
        | none =>
          if isSpecialFraction text || isFraction (unsigned text) then .fraction
          else .text word

end Leasehold.Yaml
