/-!
# Unsigned decimal numbers

Flags, environment variables and durations hold unsigned numbers in decimal. A reader gets the
largest number its setting can hold and says which of three things is wrong with a text: it is
empty, it holds something other than digits, or it is too large. Digits are taken from the left, so
the fault reported is the first one met. One leading plus sign is allowed.
-/
namespace Leasehold.Text.Decimal

/-- A character is one of the ten ASCII digits. -/
def isDigit (c : Char) : Bool := 0x30 ≤ c.toNat && c.toNat ≤ 0x39

/-- The number written by a sequence of ASCII digits, the most significant first. -/
def value (digits : List Char) : Nat :=
  digits.foldl (fun total c => 10 * total + (c.toNat - 0x30)) 0

/-- Why a text is not an unsigned number of the wanted size. -/
inductive Fault where
  /-- There is no digit at all. -/
  | empty
  /-- Something other than a digit was found. -/
  | invalidDigit
  /-- The number is above the largest allowed. -/
  | tooLarge
deriving DecidableEq, Repr

/-- The wording of each fault. -/
def Fault.message : Fault → String
  | .empty => "cannot parse integer from empty string"
  | .invalidDigit => "invalid digit found in string"
  | .tooLarge => "number too large to fit in target type"

/-- Take digits one after another onto the number read so far. The first character that cannot be
taken decides what is wrong. -/
def readFrom (largest total : Nat) : List Char → Except Fault Nat
  | [] => .ok total
  | c :: rest =>
    if !isDigit c then .error .invalidDigit
    else
      let next := 10 * total + (c.toNat - 0x30)
      if next ≤ largest then readFrom largest next rest else .error .tooLarge

/-- Read one unsigned number that is at most `largest`, with at most one plus sign in front. -/
def read (largest : Nat) (text : List Char) : Except Fault Nat :=
  match text with
  | [] => .error .empty
  | '+' :: [] => .error .invalidDigit
  | '+' :: rest => readFrom largest 0 rest
  | text => readFrom largest 0 text

/-- The decimal digits of a number, without leading zeros. -/
def digits (number : Nat) : List Char := (toString number).toList

/-- The decimal digits of a number, padded on the left with zeros to a least width. -/
def padded (width number : Nat) : List Char :=
  List.replicate (width - (digits number).length) '0' ++ digits number

end Leasehold.Text.Decimal

namespace Leasehold

/-- The largest number of 8 bits. -/
def largestByte : Nat := 0xff

/-- The largest number of 32 bits. -/
def largestWord : Nat := 0xffffffff

/-- The largest number of 64 bits. -/
def largestLong : Nat := 0xffffffffffffffff

/-- The largest number of 128 bits. -/
def largestWide : Nat := 0xffffffffffffffffffffffffffffffff

end Leasehold
