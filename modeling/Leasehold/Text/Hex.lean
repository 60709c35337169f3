/-!
# Bytes as hexadecimal text

Client identifiers and byte literals are written as pairs of hexadecimal digits, in either letter
case, and printed with lower-case digits. Decoding works on the bytes of the written text, so a
fault is reported at the byte at which it was found, and an odd number of bytes is reported before
any digit is looked at.
-/
namespace Leasehold

/-- A sequence of octets. -/
abbrev Bytes := List UInt8

namespace Text.Hex

/-- The lower-case digit of a number below sixteen. -/
def digit (value : Nat) : Char :=
  if value < 10 then Char.ofNat (0x30 + value) else Char.ofNat (0x57 + value)

/-- The number that a digit of either letter case stands for. -/
def value? (code : Nat) : Option Nat :=
  if 0x30 ≤ code ∧ code ≤ 0x39 then some (code - 0x30)
  else if 0x61 ≤ code ∧ code ≤ 0x66 then some (code - 0x57)
  else if 0x41 ≤ code ∧ code ≤ 0x46 then some (code - 0x37)
  else none

/-- A character is a hexadecimal digit of either letter case. -/
def isDigit (c : Char) : Bool := (value? c.toNat).isSome

/-- The two lower-case digits of one byte. -/
def pair (byte : UInt8) : List Char := [digit (byte.toNat / 16), digit (byte.toNat % 16)]

/-- The lower-case digits of a sequence of bytes. -/
def encode (bytes : Bytes) : List Char := bytes.flatMap pair

/-- Why a text is not a sequence of bytes in hexadecimal. -/
inductive Fault where
  /-- The text has an odd number of bytes. -/
  | oddLength
  /-- The byte at the position, counted from zero, is not a digit. -/
  | badDigit (byte : UInt8) (position : Nat)
deriving DecidableEq, Repr

/-- Read pairs of digits from a text whose first byte stands at the given position. -/
def decodeFrom (position : Nat) : Bytes → Except Fault Bytes
  | [] => .ok []
  | [_] => .error .oddLength
  | high :: low :: rest =>
    match value? high.toNat, value? low.toNat with
    | none, _ => .error (.badDigit high position)
    | some _, none => .error (.badDigit low (position + 1))
    | some h, some l => (decodeFrom (position + 2) rest).map (UInt8.ofNat (16 * h + l) :: ·)

/-- Read a sequence of bytes from the bytes of its hexadecimal text. -/
def decode (text : Bytes) : Except Fault Bytes :=
  if text.length % 2 = 1 then .error .oddLength else decodeFrom 0 text

end Text.Hex

/-- The UTF-8 bytes of a text. -/
def Text.utf8 (text : List Char) : Bytes := (String.ofList text).toUTF8.toList

end Leasehold
