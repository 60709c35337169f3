import Mathlib.Algebra.Group.Nat.Defs
import Leasehold.Text.Decimal
import Leasehold.Text.Hex

/-!
# Digits read back

Every notation of this library reads digits as far as they go. So digits that were printed are read
back whole when nothing that could be one more digit follows them (`Halts`), and they stand for the
number or the bytes that were printed. A printed number has no needless zero in front.
-/
namespace Leasehold.Text

/-- The text does not begin with a character that the test accepts. -/
def Halts (test : Char → Bool) (text : List Char) : Prop := ∀ c ∈ text.head?, test c = false

section Halts

variable {test : Char → Bool} {front rest : List Char}

/-- An empty text begins with no character. -/
@[simp]
theorem halts_nil : Halts test [] := fun _ member => nomatch member

/-- A text begins with its first character. -/
@[simp]
theorem halts_cons {c : Char} : Halts test (c :: rest) ↔ test c = false := by
  simp [Halts]

/-- Characters are taken as long as they are accepted. -/
theorem takeWhile_append (accepted : ∀ c ∈ front, test c = true) (halts : Halts test rest) :
    (front ++ rest).takeWhile test = front := by
  rw [List.takeWhile_append_of_pos accepted]
  cases rest with
  | nil => simp
  | cons c rest => simp [halts_cons.mp halts]

/-- What is left begins with the first character that is not accepted. -/
theorem dropWhile_append (accepted : ∀ c ∈ front, test c = true) (halts : Halts test rest) :
    (front ++ rest).dropWhile test = rest := by
  rw [List.dropWhile_append_of_pos accepted]
  cases rest with
  | nil => rfl
  | cons c rest => simp [halts_cons.mp halts]

end Halts

namespace Decimal

/-- The digits of a number are those of the notation with base ten. -/
theorem digits_eq_toDigits (number : Nat) : digits number = Nat.toDigits 10 number := by
  simp [digits]

/-- Printed digits are digits. -/
theorem isDigit_of_mem_digits {number : Nat} {c : Char} (member : c ∈ digits number) :
    isDigit c = true := by
  rw [digits_eq_toDigits] at member
  have decimal : c.isDigit = true := Nat.isDigit_of_mem_toDigits (by decide) (by decide) member
  simp only [Char.isDigit, ge_iff_le, Bool.and_eq_true, decide_eq_true_eq,
    UInt32.le_iff_toNat_le] at decimal
  exact (Bool.and_eq_true _ _).mpr (decimal.imp decide_eq_true decide_eq_true)

/-- Every number has digits. -/
theorem digits_ne_nil (number : Nat) : digits number ≠ [] := by
  rw [digits_eq_toDigits]
  exact Nat.toDigits_ne_nil

/-- Printed digits stand for the number that was printed. -/
@[simp]
theorem value_digits (number : Nat) : value (digits number) = number := by
  rw [digits_eq_toDigits]
  exact (Nat.ofDigitChars_eq_foldl.symm).trans Nat.ofDigitChars_ten_toDigits

/-- A number below a power of ten has at most so many digits. -/
theorem length_digits_le {number width : Nat} (positive : 0 < width) (small : number < 10 ^ width) :
    (digits number).length ≤ width := by
  rw [digits_eq_toDigits]
  exact (Nat.length_toDigits_le_iff (by decide) positive).mpr small

/-- Only the digit of zero is a zero. -/
theorem eq_zero_of_digitChar : ∀ value < 10, Nat.digitChar value = '0' → value = 0 := by decide

/-- Only the number zero is printed with a zero in front. -/
theorem eq_zero_of_head_digits {number : Nat} (zero : (digits number).head? = some '0') :
    number = 0 := by
  rw [digits_eq_toDigits] at zero
  induction number using Nat.strongRecOn with
  | _ number ih =>
    by_cases small : number < 10
    · rw [Nat.toDigits_of_lt_base small] at zero
      exact eq_zero_of_digitChar number small (Option.some.inj zero)
    · have fewer : (Nat.toDigits 10 (number / 10)).head? = some '0' := by
        rw [Nat.toDigits_of_base_le (by decide) (by omega)] at zero
        cases front : Nat.toDigits 10 (number / 10) with
        | nil => exact absurd front Nat.toDigits_ne_nil
        | cons c rest => simpa [front] using zero
      have := ih (number / 10) (by omega) fewer
      omega

/-- A printed number of more digits than one has no zero in front. -/
theorem head_digits_ne_zero {number : Nat} (long : 1 < (digits number).length) :
    (digits number).head? ≠ some '0' := by
  intro zero
  rw [eq_zero_of_head_digits zero] at long
  exact absurd long (by decide)

end Decimal

namespace Hex

/-- A printed digit is read back. -/
theorem value?_digit : ∀ value < 16, value? (digit value).toNat = some value := by decide

/-- The digit of a number is printed in the same way in the notation with base sixteen. -/
theorem digit_eq_digitChar : ∀ value < 16, digit value = Nat.digitChar value := by decide

/-- Printed digits are digits. -/
theorem isDigit_of_mem_encode {bytes : Bytes} {c : Char} (member : c ∈ encode bytes) :
    isDigit c = true := by
  obtain ⟨byte, -, printed⟩ := List.mem_flatMap.mp member
  have small : byte.toNat < 256 := byte.toNat_lt
  simp only [pair, List.mem_cons, List.not_mem_nil, or_false] at printed
  rcases printed with rfl | rfl <;>
    simp [isDigit, value?_digit _ (show byte.toNat / 16 < 16 by omega),
      value?_digit _ (show byte.toNat % 16 < 16 by omega)]

/-- Bytes are printed with two digits each. -/
theorem length_encode (bytes : Bytes) : (encode bytes).length = 2 * bytes.length := by
  induction bytes with
  | nil => rfl
  | cons byte rest ih => simp_all [encode, pair]; omega

/-- The code of a printed digit fits a byte. -/
theorem toNat_ofNat_digit : ∀ value < 16,
    (UInt8.ofNat (digit value).toNat).toNat = (digit value).toNat := by decide

/-- Printed bytes are read back, wherever they stand. -/
theorem decodeFrom_encode (position : Nat) (bytes : Bytes) :
    decodeFrom position ((encode bytes).map fun c => UInt8.ofNat c.toNat) = .ok bytes := by
  induction bytes generalizing position with
  | nil => rfl
  | cons byte rest ih =>
    have small : byte.toNat < 256 := byte.toNat_lt
    have high : byte.toNat / 16 < 16 := by omega
    have low : byte.toNat % 16 < 16 := by omega
    have parts : 16 * (byte.toNat / 16) + byte.toNat % 16 = byte.toNat := by omega
    have digits : encode (byte :: rest) =
        digit (byte.toNat / 16) :: digit (byte.toNat % 16) :: encode rest := rfl
    simp only [digits, List.map_cons, decodeFrom, toNat_ofNat_digit _ high, toNat_ofNat_digit _ low,
      value?_digit _ high, value?_digit _ low, ih, parts]
    simp [Except.map]

/-- Printed bytes are read back. -/
theorem decode_encode (bytes : Bytes) :
    decode ((encode bytes).map fun c => UInt8.ofNat c.toNat) = .ok bytes := by
  have even : ¬((encode bytes).map fun c => UInt8.ofNat c.toNat).length % 2 = 1 := by
    rw [List.length_map, length_encode]
    omega
  rw [decode, if_neg even]
  exact decodeFrom_encode 0 bytes

/-- The digits of a number in the notation with base sixteen are digits. -/
theorem isDigit_of_mem_toDigits {number : Nat} {c : Char} (member : c ∈ Nat.toDigits 16 number) :
    isDigit c = true := by
  induction number using Nat.strongRecOn with
  | _ number ih =>
    by_cases small : number < 16
    · rw [Nat.toDigits_of_lt_base small, List.mem_singleton] at member
      subst member
      rw [isDigit, ← digit_eq_digitChar _ small, value?_digit _ small]
      rfl
    · rw [Nat.toDigits_of_base_le (by decide) (by omega), List.mem_append,
        List.mem_singleton] at member
      rcases member with front | rfl
      · exact ih (number / 16) (by omega) front
      · have last : number % 16 < 16 := by omega
        rw [isDigit, ← digit_eq_digitChar _ last, value?_digit _ last]
        rfl

/-- The digits of a number stand for it. -/
theorem value_toDigits (number : Nat) :
    (Nat.toDigits 16 number).foldl (fun total c => 16 * total + (value? c.toNat).getD 0) 0 =
      number := by
  induction number using Nat.strongRecOn with
  | _ number ih =>
    by_cases small : number < 16
    · rw [Nat.toDigits_of_lt_base small, ← digit_eq_digitChar _ small]
      simp [value?_digit _ small]
    · have last : number % 16 < 16 := by omega
      rw [Nat.toDigits_of_base_le (by decide) (by omega), List.foldl_append,
        ih (number / 16) (by omega), ← digit_eq_digitChar _ last]
      simp only [List.foldl_cons, List.foldl_nil, value?_digit _ last, Option.getD_some]
      omega

end Hex

end Leasehold.Text
