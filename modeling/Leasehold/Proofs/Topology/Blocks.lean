import Leasehold.Proofs.Topology.Subnets
import Leasehold.Reservation

/-!
# How blocks lie to each other

The addresses of a block are those that share its leading bits. Two blocks that have an address in
common are therefore nested: the one with more leading bits lies in the other. When they do not begin
at the same address, one of them is a proper part of the other, which begins before it
(`isApart_or_isWithin`).

What a reservation sets aside is made of blocks, and it claims the first address of each. What a
pool hands out is a block that begins at its candidate, because the pools of a checked subnet begin
where their blocks do (`exists_block_of_contains`).
-/
namespace Leasehold

namespace Block

/-- No address lies in both blocks. -/
def IsApart (left right : Block) : Prop :=
  ∀ address, left.contains address = true → ¬ right.contains address = true

/-- A block is a proper part of another one that begins before it. -/
structure IsWithin (inner outer : Block) : Prop where
  /-- It has more leading bits. -/
  longer : outer.length < inner.length
  /-- Its addresses belong to the other. -/
  inside : ∀ address, inner.contains address = true → outer.contains address = true
  /-- The other begins before it. -/
  begins : outer.first.value < inner.first.value

/-- The addresses of a block share its leading bits. -/
theorem contains_iff (block : Block) (address : Address) :
    block.contains address = true ↔ address.family = block.family ∧
      address.value / block.span = block.address.value / block.span := by
  unfold contains
  rw [Bool.and_eq_true, Bool.and_eq_true, beq_iff_eq, decide_eq_true_iff, decide_eq_true_iff,
    and_assoc, eq_comm]
  refine and_congr_right fun _ => ?_
  have positive := block.span_pos
  change block.firstValue ≤ address.value ∧
    address.value ≤ block.firstValue + (block.span - 1) ↔ _
  unfold firstValue
  rw [Nat.div_eq_iff positive]
  omega

/-- The addresses of a block are as many as it spans, from its first one on. -/
theorem contains_iff_between (block : Block) (address : Address) :
    block.contains address = true ↔ address.family = block.family ∧
      block.first.value ≤ address.value ∧ address.value < block.first.value + block.span := by
  have positive := block.span_pos
  have last : block.last.value = block.first.value + (block.span - 1) := rfl
  unfold contains
  rw [Bool.and_eq_true, Bool.and_eq_true, beq_iff_eq, decide_eq_true_iff, decide_eq_true_iff,
    and_assoc, eq_comm, last]
  refine and_congr_right fun _ => and_congr_right fun _ => ?_
  omega

/-- A block contains its first address. -/
theorem contains_first (block : Block) : block.contains block.first = true := by
  rw [contains_iff]
  exact ⟨rfl, Nat.mul_div_cancel _ block.span_pos⟩

/-- With fewer leading bits a block has more addresses. -/
theorem span_eq {inner outer : Block} (family : inner.family = outer.family)
    (shorter : outer.length ≤ inner.length) :
    outer.span = inner.span * 2 ^ (inner.length - outer.length) := by
  have bound : inner.length ≤ inner.family.width := inner.length_le
  have parts : outer.family.width - outer.length =
      inner.family.width - inner.length + (inner.length - outer.length) := by
    rw [← family]
    omega
  change 2 ^ (outer.family.width - outer.length) = _
  rw [parts, Nat.pow_add]
  rfl

/-- Of two blocks with an address in common, the one with more leading bits lies in the other. -/
theorem contains_of_shared {inner outer : Block} (shorter : outer.length ≤ inner.length)
    {shared : Address} (inInner : inner.contains shared = true)
    (inOuter : outer.contains shared = true) {address : Address}
    (inside : inner.contains address = true) : outer.contains address = true := by
  rw [contains_iff] at inInner inOuter inside ⊢
  have family : inner.family = outer.family := inInner.1.symm.trans inOuter.1
  refine ⟨inside.1.trans family, ?_⟩
  rw [← inOuter.2, span_eq family shorter, ← Nat.div_div_eq_div_mul, ← Nat.div_div_eq_div_mul,
    inside.2, inInner.2]

/-- Two blocks of one length that have an address in common begin at the same one. -/
theorem first_eq_of_shared {left right : Block} (length : left.length = right.length)
    {shared : Address} (inLeft : left.contains shared = true)
    (inRight : right.contains shared = true) : left.first = right.first := by
  rw [contains_iff] at inLeft inRight
  have family : left.family = right.family := inLeft.1.symm.trans inRight.1
  have span : left.span = right.span := by
    unfold span
    rw [family, length]
  refine Address.ext' family ?_
  change left.firstValue = right.firstValue
  unfold firstValue
  rw [← inLeft.2, ← inRight.2, span]

/-- A block that lies in another one and does not begin where that one begins comes after. -/
theorem first_lt_of_inside {inner outer : Block} (begins : inner.first ≠ outer.first)
    (inside : outer.contains inner.first = true) : outer.first.value < inner.first.value := by
  unfold contains at inside
  rw [Bool.and_eq_true, Bool.and_eq_true, beq_iff_eq, decide_eq_true_iff] at inside
  obtain ⟨⟨family, above⟩, -⟩ := inside
  refine Nat.lt_of_le_of_ne above fun same => ?_
  exact begins (Address.ext' family.symm same.symm)

/-- Of two blocks that have an address in common and do not begin at the same one, that with more
leading bits is a proper part of the other. -/
theorem isWithin_of_shared {inner outer : Block} (begins : inner.first ≠ outer.first)
    (shorter : outer.length ≤ inner.length) {shared : Address}
    (inInner : inner.contains shared = true) (inOuter : outer.contains shared = true) :
    inner.IsWithin outer where
  longer := Nat.lt_of_le_of_ne shorter fun same =>
    begins (first_eq_of_shared same.symm inInner inOuter)
  inside _ := contains_of_shared shorter inInner inOuter
  begins := first_lt_of_inside begins (contains_of_shared shorter inInner inOuter inner.contains_first)

/-- Two blocks that do not begin at the same address are apart, or one is a proper part of the
other. -/
theorem isApart_or_isWithin {left right : Block} (begins : left.first ≠ right.first) :
    left.IsApart right ∨ left.IsWithin right ∨ right.IsWithin left := by
  by_cases meet : ∃ address, left.contains address = true ∧ right.contains address = true
  · obtain ⟨shared, inLeft, inRight⟩ := meet
    right
    rcases Nat.le_total right.length left.length with shorter | shorter
    · exact .inl (isWithin_of_shared begins shorter inLeft inRight)
    · exact .inr (isWithin_of_shared begins.symm shorter inRight inLeft)
  · exact .inl fun address inLeft inRight => meet ⟨address, inLeft, inRight⟩

end Block

/-- An address as a block of its own. -/
def Address.alone (address : Address) : Block := ⟨address, address.family.width, Nat.le_refl _⟩

/-- A block of one address begins there. -/
theorem Address.first_alone (address : Address) : address.alone.first = address := by
  refine Address.ext' rfl ?_
  have span : address.alone.span = 1 := by
    change 2 ^ (address.family.width - address.family.width) = 1
    rw [Nat.sub_self, Nat.pow_zero]
  change address.value / address.alone.span * address.alone.span = address.value
  rw [span, Nat.div_one, Nat.mul_one]

namespace Reservation

/-- What a reservation sets aside: its addresses and its blocks. -/
def space (reservation : Reservation) : List Block :=
  reservation.addresses.map Address.alone ++ reservation.blocks

/-- A reservation claims the first address of all that it sets aside. -/
theorem first_mem_claimed {reservation : Reservation} {block : Block}
    (member : block ∈ reservation.space) : block.first ∈ reservation.claimed := by
  unfold space at member
  unfold claimed
  rw [List.mem_append] at member ⊢
  rcases member with single | reserved
  · obtain ⟨address, listed, rfl⟩ := List.mem_map.mp single
    rw [Address.first_alone]
    exact .inl listed
  · exact .inr (List.mem_map_of_mem reserved)

end Reservation

namespace Pool

/-- The candidates of a pool are where the blocks begin that it hands out. -/
structure IsAligned (pool : Pool) : Prop where
  /-- The blocks have no more leading bits than bits. -/
  length_le : pool.leaseLength ≤ pool.family.width
  /-- Candidates are as far apart as blocks are long. -/
  step_eq : pool.step = 2 ^ (pool.family.width - pool.leaseLength)
  /-- The pool begins where a block does. -/
  first : pool.step ∣ pool.first.value

/-- The addresses of an address pool are blocks of their own. -/
theorem isAligned_of_addresses {pool : Pool} (addresses : pool.kind = .addresses) :
    pool.IsAligned := by
  have length : pool.leaseLength = pool.family.width := by simp [leaseLength, addresses]
  have step : pool.step = 1 := by simp [step, addresses]
  constructor
  · exact Nat.le_of_eq length
  · rw [length, step, Nat.sub_self, Nat.pow_zero]
  · rw [step]
    exact Nat.one_dvd _

/-- A pool of delegated blocks begins where a block does when it was read from a configuration. -/
theorem isAligned_of_ofDelegated {entry : Config.DelegatedPool} {pool : Pool}
    (read : ofDelegated entry = .ok pool) : pool.IsAligned := by
  obtain ⟨wide, longer, fits, last, -, -, rfl⟩ := of_ofDelegated read
  have width : (Pool.family ⟨entry.id, .blocks entry.delegatedLength.toNat,
      entry.block.trunc.first, last, entry.clientClass⟩).width = 128 := congrArg Family.width wide
  constructor
  · rw [width]
    exact fits
  · rw [width]
    rfl
  · -- A block that is delegated is a part of the block that the pool is made of.
    have span : entry.block.trunc.span = 2 ^ (128 - entry.block.trunc.length) := by
      unfold Block.span
      rw [wide]
      rfl
    have part : 2 ^ (128 - entry.delegatedLength.toNat) ∣ entry.block.trunc.span := by
      rw [span]
      exact Nat.pow_dvd_pow 2 (Nat.sub_le_sub_left longer 128)
    exact Nat.dvd_trans part (Nat.dvd_mul_left _ _)

/-- What a pool hands out is a block that begins at its candidate. -/
theorem IsAligned.exists_block_of_contains {pool : Pool} (aligned : pool.IsAligned)
    {address : Address} (contained : pool.contains address = true) :
    ∃ block : Block, block.address = address ∧ block.length = pool.leaseLength ∧
      block.first = address := by
  obtain ⟨family, above, -, stepwise⟩ := of_contains contained
  have bound : pool.leaseLength ≤ address.family.width := by
    rw [family]
    exact aligned.length_le
  refine ⟨⟨address, pool.leaseLength, bound⟩, rfl, rfl, Address.ext' rfl ?_⟩
  have span : Block.span ⟨address, pool.leaseLength, bound⟩ = pool.step := by
    rw [aligned.step_eq, ← family]
    rfl
  have divides : pool.step ∣ address.value := by
    rw [← Nat.add_sub_of_le above]
    exact Nat.dvd_add aligned.first (Nat.dvd_of_mod_eq_zero stepwise)
  change address.value / Block.span _ * Block.span _ = address.value
  rw [span, Nat.div_mul_cancel divides]

end Pool

/-- The pools of every subnet of an accepted topology hand out blocks. -/
theorem Topology.Accepted.isAligned {topology : Topology} (accepted : topology.Accepted)
    {subnet : Subnet} (member : subnet ∈ topology.subnets) {pool : Pool}
    (listed : pool ∈ subnet.pools ++ subnet.delegatedPools) : pool.IsAligned := by
  rcases List.mem_append.mp listed with addresses | delegated
  · exact Pool.isAligned_of_addresses ((accepted.hasSoundPools member).addresses pool addresses).2.1
  · obtain ⟨entry, read⟩ :=
      (accepted.isBuilt.subnets subnet member).hasReadPools.blocks pool delegated
    exact Pool.isAligned_of_ofDelegated read

end Leasehold
