/-!
# Blanks and trimming

A blank is any character with the Unicode property White_Space. Settings that are written by hand,
such as identifiers, pool ranges and durations, ignore blanks at both ends; `trim` removes them.
Characters are lists here, because every reader of this library works on lists of characters.
-/
namespace Leasehold.Text

/-- A character of the Unicode property White_Space. -/
def isBlank (c : Char) : Bool :=
  let code := c.toNat
  (0x09 ≤ code && code ≤ 0x0d) || code == 0x20 || code == 0x85 || code == 0xa0 ||
    code == 0x1680 || (0x2000 ≤ code && code ≤ 0x200a) || code == 0x2028 || code == 0x2029 ||
    code == 0x202f || code == 0x205f || code == 0x3000

/-- The text without the blanks at its end. -/
def trimEnd (text : List Char) : List Char := (text.reverse.dropWhile isBlank).reverse

/-- The text without the blanks at its start and its end. -/
def trim (text : List Char) : List Char := trimEnd (text.dropWhile isBlank)

/-- The parts of a text before and after the first character that satisfies the test, without
that character, or nothing when no character does. -/
def splitFirst? (test : Char → Bool) : List Char → Option (List Char × List Char)
  | [] => none
  | c :: rest =>
    if test c then some ([], rest)
    else (splitFirst? test rest).map fun (before, after) => (c :: before, after)

/-- The rest of a text that starts with the given characters. -/
def dropStart? : List Char → List Char → Option (List Char)
  | [], text => some text
  | _ :: _, [] => none
  | c :: start, d :: text => if c = d then dropStart? start text else none

/-- Reading back a text that starts as required returns what follows. -/
theorem dropStart?_append (start rest : List Char) :
    dropStart? start (start ++ rest) = some rest := by
  induction start with
  | nil => rfl
  | cons c start ih => simp [dropStart?, ih]

end Leasehold.Text
