import Leasehold.Text.Graphic
import Leasehold.Text.Hex

/-!
# Text in quotes

Messages show text from a configuration or a client in double quotes, with a backslash in front of
the quote and of the backslash itself, short names for the common control characters, and every
other character that a reader could not see written by its code point. A single character is shown
in single quotes by the same rules.
-/
namespace Leasehold.Text

/-- A code point in lower-case hexadecimal, without leading zeros. -/
def codePoint (code : Nat) : List Char := Nat.toDigits 16 code

/-- One character inside the given quotes. -/
def quotedChar (quote : Char) (c : Char) : List Char :=
  if c = '\x00' then ['\\', '0']
  else if c = '\t' then ['\\', 't']
  else if c = '\r' then ['\\', 'r']
  else if c = '\n' then ['\\', 'n']
  else if c = quote || c = '\\' then ['\\', c]
  else if c.toNat < 0x20 || c.toNat = 0x7f || Graphic.isHidden c.toNat then
    "\\u\x7b".toList ++ codePoint c.toNat ++ ['\x7d']
  else [c]

/-- A text between double quotes. -/
def quoted (text : String) : String :=
  String.ofList ('"' :: text.toList.flatMap (quotedChar '"') ++ ['"'])

/-- A character between single quotes. -/
def quotedSingle (c : Char) : String :=
  String.ofList ('\'' :: quotedChar '\'' c ++ ['\''])

end Leasehold.Text
