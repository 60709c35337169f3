import Leasehold.Document
import Leasehold.Text.Binary64
import Leasehold.Text.Decimal

/-!
# Numbers of JSON

A number is a sign, digits without a needless zero in front, and perhaps a fraction and an exponent.
Only a number without the last two can be whole. A number beyond the range of binary fractions is
read but has no value. That range is judged on the digits gathered into 64 bits, so close to its end
a number may fall on the other side than all of its digits would put it.
-/
namespace Leasehold.Json.Number

/-- The whole number that a sign and digits stand for. A number outside the range of 64 bits, and
zero with a sign, count as fractions. -/
def whole (negative : Bool) (digits : List Char) : Scalar :=
  let magnitude := Text.Decimal.value digits
  if negative then
    if magnitude = 0 ∨ largestLong / 2 + 1 < magnitude then .fraction else .minus magnitude
  else if magnitude ≤ largestLong then .whole magnitude
  else .fraction

/-- Digits taken onto a number as long as it fits 64 bits, and the digits that are left. -/
def gather (number : Nat) : List Char → Nat × List Char
  | [] => (number, [])
  | c :: rest =>
    let next := 10 * number + (c.toNat - 0x30)
    if next ≤ largestLong then gather next rest else (number, c :: rest)

/-- The number with the given digits before and after its point, and the given exponent, is beyond
the range of binary fractions. -/
def isUnbounded (digits fraction : List Char) (exponent : Int) : Bool :=
  let (front, dropped) := gather 0 digits
  let (number, ignored) := gather front fraction
  Text.Binary64.productExceeds number
    (exponent + dropped.length - fraction.length + ignored.length)

/-- The digits of a fraction at the front of a text, without its point. -/
def fractionDigits? (text : List Char) : Option (List Char × List Char) :=
  match text with
  | '.' :: rest =>
    let digits := rest.takeWhile Text.Decimal.isDigit
    if digits.isEmpty then none else some (digits, rest.dropWhile Text.Decimal.isDigit)
  | _ => some ([], text)

/-- The exponent at the front of a text. -/
def exponent? (text : List Char) : Option (Option Int × List Char) :=
  match text with
  | c :: rest =>
    if c = 'e' ∨ c = 'E' then
      let (negative, unsigned) := match rest with
        | '-' :: tail => (true, tail)
        | '+' :: tail => (false, tail)
        | _ => (false, rest)
      let digits := unsigned.takeWhile Text.Decimal.isDigit
      if digits.isEmpty then none
      else
        let size : Int := Text.Decimal.value digits
        some (some (if negative then -size else size), unsigned.dropWhile Text.Decimal.isDigit)
    else some (none, text)
  | [] => some (none, text)

/-- Read the digits of a number after its sign. -/
def read? (negative : Bool) (text : List Char) : Option (Scalar × List Char) := do
  let digits := text.takeWhile Text.Decimal.isDigit
  let rest := text.dropWhile Text.Decimal.isDigit
  if digits.isEmpty || (digits.length > 1 && digits.head? = some '0') then none
  else
    let (fraction, rest) ← fractionDigits? rest
    let (exponent, rest) ← exponent? rest
    if isUnbounded digits fraction (exponent.getD 0) then some (.unreadable, rest)
    else if fraction.isEmpty && exponent.isNone then some (whole negative digits, rest)
    else some (.fraction, rest)

end Leasehold.Json.Number
