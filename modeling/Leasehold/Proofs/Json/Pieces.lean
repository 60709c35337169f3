import Leasehold.Json
import Leasehold.Json.Reader
import Leasehold.Proofs.Text.Digits

/-!
# Pieces of JSON read back

A number is read back from its digits as long as nothing follows that could belong to it, and a text
is read back between its quotes, each of its characters behind the escape that it was printed with.
No number of 64 bits is taken for one beyond the range of binary fractions.
-/
namespace Leasehold

namespace Text.Binary64

/-- A number is not even doubled when it is brought to its nearest fraction. -/
theorem nearest_le (number : Nat) : nearest number ≤ 2 * number := by
  by_cases short : Nat.log2 number < 53
  · rw [nearest_eq_self short]
    omega
  · have long : 53 ≤ Nat.log2 number := Nat.le_of_not_lt short
    have positive : number ≠ 0 := by
      rintro rfl
      exact absurd long (by decide)
    -- The unit that the number is rounded to is no larger than the number.
    have unit : Nat.pow 2 (Nat.log2 number + 1 - 53) ≤ number :=
      Nat.le_trans (Nat.pow_le_pow_right (by decide) (by omega)) (Nat.log2_self_le positive)
    have below : number / Nat.pow 2 (Nat.log2 number + 1 - 53) *
        Nat.pow 2 (Nat.log2 number + 1 - 53) ≤ number := Nat.div_mul_le_self _ _
    unfold nearest
    dsimp only
    split
    · rw [Nat.add_mul]
      omega
    · omega

/-- No whole number of 64 bits is beyond the range of binary fractions. -/
theorem not_productExceeds {number : Nat} (small : number ≤ largestLong) :
    productExceeds number 0 = false := by
  have one : nearest 1 = 1 := by decide
  have doubled := nearest_le number
  have large : 2 * largestLong < bound := by decide +kernel
  have inside : nearest number * nearest 1 < bound := by
    rw [one]
    omega
  simp [productExceeds, inside]

end Text.Binary64

namespace Json

open Token

/-- What may follow the digits of a number within the number. -/
def isNumeric (c : Char) : Bool := Text.Decimal.isDigit c || c == '.' || c == 'e' || c == 'E'

namespace Number

/-- A sum of digits does not get smaller. -/
theorem le_foldl (digits : List Char) (total : Nat) :
    total ≤ digits.foldl (fun total c => 10 * total + (c.toNat - 0x30)) total := by
  induction digits generalizing total with
  | nil => exact Nat.le_refl _
  | cons c digits ih =>
    have next : total ≤ 10 * total + (c.toNat - 0x30) := by omega
    exact Nat.le_trans next (ih _)

/-- All the digits of a number of 64 bits are gathered. -/
theorem gather_eq {digits : List Char} {total : Nat}
    (small : digits.foldl (fun total c => 10 * total + (c.toNat - 0x30)) total ≤ largestLong) :
    gather total digits =
      (digits.foldl (fun total c => 10 * total + (c.toNat - 0x30)) total, []) := by
  induction digits generalizing total with
  | nil => rfl
  | cons c digits ih =>
    have next := Nat.le_trans (le_foldl digits _) small
    simp only [gather, if_pos next]
    exact ih small

/-- A printed number has a digit, and no needless zero in front. -/
theorem wellFormed_digits (number : Nat) :
    ((Text.Decimal.digits number).isEmpty || ((Text.Decimal.digits number).length > 1 &&
      (Text.Decimal.digits number).head? = some '0')) = false := by
  simp only [Bool.or_eq_false_iff, List.isEmpty_eq_false_iff, Bool.and_eq_false_iff,
    decide_eq_false_iff_not]
  refine ⟨Text.Decimal.digits_ne_nil number, ?_⟩
  by_cases long : (Text.Decimal.digits number).length > 1
  · exact .inr (Text.Decimal.head_digits_ne_zero long)
  · exact .inl long

/-- A printed number of 64 bits is in the range of binary fractions. -/
theorem isUnbounded_digits {number : Nat} (small : number ≤ largestLong) :
    isUnbounded (Text.Decimal.digits number) [] 0 = false := by
  have total : (Text.Decimal.digits number).foldl
      (fun total c => 10 * total + (c.toNat - 0x30)) 0 = number := Text.Decimal.value_digits number
  have gathered : gather 0 (Text.Decimal.digits number) = (number, []) := by
    rw [gather_eq (by rwa [total]), total]
  simp [isUnbounded, gathered, gather, Text.Binary64.not_productExceeds small]

section Halts

variable {rest : List Char}

/-- No digit follows where a number ends. -/
theorem halts_isDigit (halts : Text.Halts isNumeric rest) :
    Text.Halts Text.Decimal.isDigit rest := by
  intro c first
  have other := halts c first
  simp only [isNumeric, Bool.or_eq_false_iff] at other
  exact other.1.1.1

/-- No fraction follows where a number ends. -/
theorem fractionDigits?_of_halts (halts : Text.Halts isNumeric rest) :
    fractionDigits? rest = some ([], rest) := by
  cases rest with
  | nil => rfl
  | cons c rest =>
    have other : c ≠ '.' := by
      rintro rfl
      exact absurd (halts '.' rfl) (by decide)
    simp [fractionDigits?, other]

/-- No exponent follows where a number ends. -/
theorem exponent?_of_halts (halts : Text.Halts isNumeric rest) :
    exponent? rest = some (none, rest) := by
  cases rest with
  | nil => rfl
  | cons c rest =>
    have other : ¬(c = 'e' ∨ c = 'E') := by
      rintro (rfl | rfl)
      · exact absurd (halts 'e' rfl) (by decide)
      · exact absurd (halts 'E' rfl) (by decide)
    simp only [exponent?, if_neg other]

/-- A printed number of 64 bits is read back. -/
theorem read?_digits {number : Nat} (small : number ≤ largestLong)
    (halts : Text.Halts isNumeric rest) :
    read? false (Text.Decimal.digits number ++ rest) = some (.whole number, rest) := by
  have taken : (Text.Decimal.digits number ++ rest).takeWhile Text.Decimal.isDigit =
      Text.Decimal.digits number :=
    Text.takeWhile_append (fun _ => Text.Decimal.isDigit_of_mem_digits) (halts_isDigit halts)
  have left : (Text.Decimal.digits number ++ rest).dropWhile Text.Decimal.isDigit = rest :=
    Text.dropWhile_append (fun _ => Text.Decimal.isDigit_of_mem_digits) (halts_isDigit halts)
  have bits : whole false (Text.Decimal.digits number) = .whole number := by
    simp only [whole, Text.Decimal.value_digits, if_pos small, Bool.false_eq_true, if_false]
  simp only [read?, taken, left, wellFormed_digits, fractionDigits?_of_halts halts,
    exponent?_of_halts halts, Bool.false_eq_true, if_false, Option.bind_eq_bind, Option.bind_some,
    Option.getD_none, isUnbounded_digits small, bits, List.isEmpty_nil, Option.isNone_none,
    Bool.and_self, if_true]

end Halts

end Number

/-- A character is printed behind one letter, by its number, or as it is. -/
theorem escaped_cases (c : Char) :
    (∃ letter, letter ≠ 'u' ∧ shortEscape? letter = some c ∧ escaped c = ['\\', letter]) ∨
      (c.toNat < 0x20 ∧ escaped c = ['\\', 'u', '0', '0', Text.Hex.digit (c.toNat / 16),
        Text.Hex.digit (c.toNat % 16)]) ∨
      (c ≠ '"' ∧ c ≠ '\\' ∧ 0x20 ≤ c.toNat ∧ escaped c = [c]) := by
  by_cases special : c ∈ ['"', '\\', '\n', '\r', '\t', '\x08', '\x0c']
  · simp only [List.mem_cons, List.not_mem_nil, or_false] at special
    rcases special with rfl | rfl | rfl | rfl | rfl | rfl | rfl <;>
      exact .inl ⟨_, by decide, rfl, rfl⟩
  · simp only [List.mem_cons, List.not_mem_nil, or_false, not_or] at special
    by_cases control : c.toNat < 0x20
    · exact .inr (.inl ⟨control, by simp [escaped, special, control]⟩)
    · exact .inr (.inr ⟨special.1, special.2.1, by omega, by simp [escaped, special, control]⟩)

/-- A control character is read back from its number. -/
theorem longEscape?_control {c : Char} (control : c.toNat < 0x20) (rest : List Char) :
    longEscape? ('0' :: '0' :: Text.Hex.digit (c.toNat / 16) :: Text.Hex.digit (c.toNat % 16) ::
      rest) = some (some c, rest) := by
  have high : c.toNat / 16 < 16 := by omega
  have low : c.toNat % 16 < 16 := by omega
  have unit : unit? ('0' :: '0' :: Text.Hex.digit (c.toNat / 16) ::
      Text.Hex.digit (c.toNat % 16) :: rest) = some (c.toNat, rest) := by
    have zero : Text.Hex.value? 48 = some 0 := by decide
    have parts : c.toNat / 16 * 16 + c.toNat % 16 = c.toNat := by omega
    simp [unit?, zero, Text.Hex.value?_digit _ high, Text.Hex.value?_digit _ low, parts]
  -- So small a number is no half of a surrogate pair.
  have single : isTrail c.toNat = false ∧ isLead c.toNat = false := by
    simp only [isTrail, isLead, Bool.and_eq_false_iff, decide_eq_false_iff_not]
    omega
  simp [longEscape?, unit, single, Char.ofNat_toNat]

/-- A character is read back from the escape that it was printed with. -/
theorem textBody?_escaped (c : Char) (sofar rest : List Char) (fuel : Nat) :
    textBody? (fuel + 1) (some sofar) (escaped c ++ rest) =
      textBody? fuel (some (c :: sofar)) rest := by
  rcases escaped_cases c with ⟨letter, short, read, printed⟩ | ⟨control, printed⟩ |
      ⟨_, backslash, visible, printed⟩
  · simp [printed, textBody?, read]
  · simp [printed, textBody?, longEscape?_control control]
  · simp [printed, textBody?, backslash, Nat.not_lt.mpr visible]

/-- Every character is printed with one character or more. -/
theorem length_le_flatMap_escaped (text : List Char) :
    text.length ≤ (text.flatMap escaped).length := by
  induction text with
  | nil => exact Nat.le_refl _
  | cons c text ih =>
    have printed : 1 ≤ (escaped c).length := by
      rcases escaped_cases c with ⟨_, _, _, printed⟩ | ⟨_, printed⟩ | ⟨_, _, _, printed⟩
      all_goals simp [printed]
    simp only [List.flatMap_cons, List.length_append, List.length_cons]
    omega

/-- The rest of a text is read back up to its closing quote. -/
theorem textBody?_flatMap (text sofar rest : List Char) {fuel : Nat} (enough : text.length < fuel) :
    textBody? fuel (some sofar) (text.flatMap escaped ++ '"' :: rest) =
      some (some (String.ofList (sofar.reverse ++ text)), rest) := by
  induction text generalizing sofar fuel with
  | nil =>
    obtain ⟨fuel, rfl⟩ : ∃ less, fuel = less + 1 := ⟨fuel - 1, by omega⟩
    simp [textBody?]
  | cons c text ih =>
    rw [List.length_cons] at enough
    obtain ⟨fuel, rfl⟩ : ∃ less, fuel = less + 1 := ⟨fuel - 1, by omega⟩
    rw [List.flatMap_cons, List.append_assoc, textBody?_escaped, ih _ (by omega)]
    simp

/-- A printed text is read back. -/
theorem next?_quotedText (text : String) (rest : List Char) {fuel : Nat}
    (enough : (quotedText text ++ rest).length < fuel) :
    next? fuel (quotedText text ++ rest) = some (.string (some text), rest) := by
  have body : text.toList.length < fuel := by
    have printed := length_le_flatMap_escaped text.toList
    simp only [quotedText, List.cons_append, List.length_cons, List.length_append] at enough
    omega
  simp [next?, quotedText, List.append_assoc, textBody?_flatMap _ _ _ body]

/-- A text that begins with a digit is a number. -/
theorem next?_digit {c : Char} (digit : Text.Decimal.isDigit c = true) (fuel : Nat)
    (rest : List Char) :
    next? fuel (c :: rest) =
      (Number.read? false (c :: rest)).map fun (value, rest) => (.literal value, rest) := by
  -- Each of the other characters that a token begins with is not a digit.
  simp only [next?]
  split <;> first | rfl | exact absurd digit (by decide)

end Json

end Leasehold
