import Leasehold.Text.Decimal

/-!
# The range of binary fractions of 64 bits

Both notations for documents admit fractions, none of which a configuration uses. Whether a fraction
can be held at all still decides how its document reads, so this module finds out which ones lie
beyond the largest finite binary fraction of 64 bits. Such a fraction has 53 significant bits and
is below the 1024th power of two; a number is beyond the range when its nearest fraction with
53 bits and without a limit on its size is not below that power.
-/
namespace Leasehold.Text.Binary64

/-- The least number beyond the range. It lies in the middle between the largest fraction in the
range and the 1024th power of two, and a tie goes to the power because it is the even neighbour. -/
def bound : Nat := Nat.pow 2 1024 - Nat.pow 2 970

/-- The nearest number with at most 53 significant bits, and the even one of two equally near. -/
def nearest (number : Nat) : Nat :=
  let extra := Nat.log2 number + 1 - 53
  let unit := Nat.pow 2 extra
  let below := number / unit
  let left := number % unit
  if unit < 2 * left || (2 * left = unit && below % 2 = 1) then (below + 1) * unit
  else below * unit

/-- A number of at most 53 bits is its own nearest number. -/
theorem nearest_eq_self {number : Nat} (short : Nat.log2 number < 53) :
    nearest number = number := by
  have noExtra : Nat.log2 number + 1 - 53 = 0 := by omega
  simp [nearest, noExtra, Nat.mod_one]

/-- The number that digits stand for, after a shift by a power of ten, is beyond the range. -/
def exceeds (digits : List Char) (shift : Int) : Bool :=
  let significant := digits.dropWhile (· = '0')
  let places := significant.length + shift
  let value := Decimal.value significant
  if significant.isEmpty || places < 300 then false
  else if 320 < places then true
  else if 0 ≤ shift then bound ≤ value * Nat.pow 10 shift.toNat
  else bound * Nat.pow 10 (-shift).toNat ≤ value

/-- A number times a power of ten is beyond the range when both are brought to their nearest
fraction first. A power that is beyond the range itself settles the matter. -/
def productExceeds (value : Nat) (shift : Int) : Bool :=
  value ≠ 0 && 0 ≤ shift &&
    (308 < shift || bound ≤ nearest value * nearest (Nat.pow 10 shift.toNat))

end Leasehold.Text.Binary64
