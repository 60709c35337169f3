import Leasehold.Text.Decimal

/-!
# Internet addresses and blocks of them

An address is a family together with a number below the size of that family, so both families share
one arithmetic. A block is an address with a count of leading bits: it covers every address of the
family that agrees with it in those bits. Addresses are ordered by `rank`, which puts all of the
first family before the second and keeps the numeric order within each.
-/
namespace Leasehold

/-- The two families of internet addresses. -/
inductive Family where
  /-- Addresses of 32 bits. -/
  | v4
  /-- Addresses of 128 bits. -/
  | v6
deriving DecidableEq, Repr, Hashable

namespace Family

/-- The number of bits of an address of the family. -/
def width : Family → Nat
  | v4 => 32
  | v6 => 128

/-- The number of addresses of the family. -/
def size (family : Family) : Nat := Nat.pow 2 family.width

/-- Every family has an address. -/
theorem size_pos (family : Family) : 0 < family.size := Nat.two_pow_pos _

end Family

/-- An address of either family. -/
structure Address where
  /-- The family that the address belongs to. -/
  family : Family
  /-- The address read as one number. -/
  value : Nat
  /-- The number fits the family. -/
  value_lt : value < family.size
deriving DecidableEq, Repr

namespace Address

/-- Addresses are hashed by their family and their number. -/
instance : Hashable Address := ⟨fun address => mixHash (hash address.family) (hash address.value)⟩

/-- Addresses of one family that have one number are equal. -/
theorem ext' {left right : Address} (family : left.family = right.family)
    (value : left.value = right.value) : left = right := by
  cases left; cases right; simp_all

/-- The address of a family with the given number, when the number fits the family. -/
def ofNat? (family : Family) (value : Nat) : Option Address :=
  if fits : value < family.size then some ⟨family, value, fits⟩ else none

/-- The address belongs to the family of 128 bits. -/
def isV6 (address : Address) : Bool := address.family == .v6

/-- The place of an address in the order of all addresses: every address of 32 bits comes before
every address of 128 bits. -/
def rank (address : Address) : Nat :=
  match address.family with
  | .v4 => address.value
  | .v6 => Family.v4.size + address.value

/-- Distinct addresses have distinct ranks. -/
theorem rank_injective {left right : Address} (same : left.rank = right.rank) : left = right := by
  obtain ⟨leftFamily, leftValue, leftFits⟩ := left
  obtain ⟨rightFamily, rightValue, rightFits⟩ := right
  cases leftFamily <;> cases rightFamily <;> simp_all [rank]
  all_goals omega

end Address

/-- The addresses of one family that share their leading bits with a given address. -/
structure Block where
  /-- An address of the block, which need not be its first. -/
  address : Address
  /-- The number of leading bits that are shared. -/
  length : Nat
  /-- There are no more leading bits than bits. -/
  length_le : length ≤ address.family.width
deriving DecidableEq, Repr

namespace Block

/-- The family of the addresses of the block. -/
def family (block : Block) : Family := block.address.family

/-- The block is one of 128-bit addresses. -/
def isV6 (block : Block) : Bool := block.address.isV6

/-- The number of addresses in the block. -/
def span (block : Block) : Nat := Nat.pow 2 (block.family.width - block.length)

/-- Every block has an address. -/
theorem span_pos (block : Block) : 0 < block.span := Nat.two_pow_pos _

/-- The leading bits of the block, and zeros. -/
def firstValue (block : Block) : Nat := block.address.value / block.span * block.span

/-- A block begins no later than at the address that it is given by. -/
theorem firstValue_le (block : Block) : block.firstValue ≤ block.address.value :=
  Nat.div_mul_le_self _ _

/-- The first address of the block. -/
def first (block : Block) : Address :=
  ⟨block.family, block.firstValue,
    Nat.lt_of_le_of_lt block.firstValue_le block.address.value_lt⟩

/-- A block ends inside its family. -/
theorem firstValue_add_span_le (block : Block) :
    block.firstValue + block.span ≤ block.family.size := by
  have parts : block.family.width = block.length + (block.family.width - block.length) :=
    (Nat.add_sub_of_le block.length_le).symm
  have split : block.family.size = Nat.pow 2 block.length * block.span :=
    (congrArg (Nat.pow 2) parts).trans (Nat.pow_add 2 _ _)
  have below : block.address.value / block.span < Nat.pow 2 block.length := by
    apply Nat.div_lt_of_lt_mul
    have := block.address.value_lt
    rw [Nat.mul_comm, ← split]
    exact this
  calc block.firstValue + block.span
      = (block.address.value / block.span + 1) * block.span := by
        simp [firstValue, Nat.add_mul]
    _ ≤ Nat.pow 2 block.length * block.span := Nat.mul_le_mul_right _ below
    _ = block.family.size := split.symm

/-- The last address of the block. -/
def last (block : Block) : Address :=
  ⟨block.family, block.firstValue + (block.span - 1), by
    have := block.firstValue_add_span_le
    have := block.span_pos
    omega⟩

/-- The same block, given by its first address. -/
def trunc (block : Block) : Block := ⟨block.first, block.length, block.length_le⟩

/-- The address lies in the block. -/
def contains (block : Block) (address : Address) : Bool :=
  block.family == address.family && block.first.value ≤ address.value &&
    address.value ≤ block.last.value

end Block

end Leasehold
