import Leasehold.Proofs.Topology.Blocks

/-!
# Blocks that are delegated in one subnet

A pool of delegated blocks divides a block into parts of one length. Two parts of one pool are apart.
Two pools of a checked subnet do not overlap, but what is compared is where their parts begin, and
the last part of a pool goes on behind the beginning. Parts of two pools are therefore apart unless
one of the pools lies as a whole in the last part of the other (`delegated_blocks_apart_iff`), which
does happen (`delegated_blocks_nested`).
-/
namespace Leasehold

namespace Pool

/-- What a pool hands out under a number: the block of its length that begins at the candidate. -/
structure Delegates (pool : Pool) (index : Nat) (part : Block) : Prop where
  /-- The block is given by the candidate. -/
  numbered : pool.nth? index = some part.address
  /-- It has the length of the pool. -/
  length : part.length = pool.leaseLength

/-- The parts of a pool make up a block. -/
structure Divides (pool : Pool) (whole : Block) : Prop where
  /-- The first part begins where the block does. -/
  first : pool.first = whole.first
  /-- The last part ends where the block does. -/
  last : pool.last.value + pool.step = whole.firstValue + whole.span
  /-- Parts have no fewer leading bits than the block. -/
  length_le : whole.length ≤ pool.leaseLength

/-- The other pool lies as a whole in what a pool hands out under its last number: each part of it is
a proper part of that. -/
def Encloses (outer : Pool) (index : Nat) (inner : Pool) : Prop :=
  index + 1 = outer.capacity ∧ ∃ last, outer.Delegates index last ∧
    ∀ number part, inner.Delegates number part → part.IsWithin last

/-- A pool hands out one block under a number. -/
theorem Delegates.unique {pool : Pool} {index : Nat} {part other : Block}
    (given : pool.Delegates index part) (again : pool.Delegates index other) : part = other := by
  obtain ⟨address, length, fits⟩ := part
  obtain ⟨otherAddress, otherLength, otherFits⟩ := other
  obtain rfl : address = otherAddress :=
    Option.some.inj (given.numbered.symm.trans again.numbered)
  obtain rfl : length = otherLength := given.length.trans again.length.symm
  rfl

/-- A pool of delegated blocks divides a block when it was read from a configuration. -/
theorem exists_divides_of_ofDelegated {entry : Config.DelegatedPool} {pool : Pool}
    (read : ofDelegated entry = .ok pool) : ∃ whole, pool.Divides whole := by
  obtain ⟨wide, longer, short, last, -, ends, rfl⟩ := of_ofDelegated read
  refine ⟨entry.block.trunc, rfl, ?_, longer⟩
  generalize entry.block.trunc = whole at *
  generalize entry.delegatedLength.toNat = length at *
  -- As many parts as the block has, each as long as a step, add up to the block.
  have parts : whole.span = 2 ^ (length - whole.length) * 2 ^ (128 - length) := by
    unfold Block.span
    rw [wide, ← Nat.pow_add]
    change 2 ^ (128 - whole.length) = _
    congr 1
    omega
  have some : 0 < 2 ^ (length - whole.length) := Nat.two_pow_pos _
  change last.value + 2 ^ (128 - length) = _
  rw [ends, parts, Nat.sub_mul, Nat.one_mul, Nat.add_assoc,
    Nat.sub_add_cancel (Nat.le_mul_of_pos_left _ some)]

/-- Where the part begins that a pool hands out under a number. -/
theorem Delegates.bounds {pool : Pool} {index : Nat} {part : Block} (sound : pool.IsSound)
    (aligned : pool.IsAligned) (given : pool.Delegates index part) :
    index < pool.capacity ∧ part.first.family = pool.family ∧ part.span = pool.step ∧
      part.first.value = pool.first.value + index * pool.step ∧
      part.first.value ≤ pool.last.value := by
  have numbered := given.numbered
  have inside : index < pool.capacity := (exists_nth?_iff sound index).mp ⟨_, numbered⟩
  obtain ⟨family, value, below⟩ := of_nth? sound numbered
  obtain ⟨block, same, length, first⟩ :=
    aligned.exists_block_of_contains (contains_of_nth? sound numbered)
  obtain rfl : part = block := given.unique ⟨same ▸ numbered, length⟩
  have span : part.span = pool.step := by
    rw [aligned.step_eq, ← family, ← given.length]
    rfl
  rw [first]
  exact ⟨inside, family, span, value, below⟩

/-- The part that a pool hands out under a number lies in the block that the pool divides. -/
theorem Divides.contains {pool : Pool} {whole : Block} (divides : pool.Divides whole)
    (sound : pool.IsSound) (aligned : pool.IsAligned) {index : Nat} {part : Block}
    (given : pool.Delegates index part) {address : Address}
    (inside : part.contains address = true) : whole.contains address = true := by
  obtain ⟨-, family, -, begins, above⟩ := given.bounds sound aligned
  have shorter : whole.length ≤ part.length := given.length ▸ divides.length_le
  refine Block.contains_of_shared shorter part.contains_first ?_ inside
  have first : pool.first.value = whole.first.value := congrArg Address.value divides.first
  have last : pool.last.value + pool.step = whole.first.value + whole.span := divides.last
  have step := pool.step_pos
  rw [Block.contains_iff_between]
  have sameFamily : pool.first.family = whole.first.family :=
    congrArg Address.family divides.first
  refine ⟨family.trans sameFamily, ?_, ?_⟩ <;> omega

/-- Different parts of one pool are apart. -/
theorem Delegates.isApart {pool : Pool} (sound : pool.IsSound) (aligned : pool.IsAligned)
    {left right : Nat} (different : left ≠ right) {given other : Block}
    (first : pool.Delegates left given) (second : pool.Delegates right other) :
    given.IsApart other := by
  intro address inGiven inOther
  have length : given.length = other.length := first.length.trans second.length.symm
  have same := congrArg Address.value (Block.first_eq_of_shared length inGiven inOther)
  obtain ⟨-, -, -, beginsGiven, -⟩ := first.bounds sound aligned
  obtain ⟨-, -, -, beginsOther, -⟩ := second.bounds sound aligned
  rw [beginsGiven, beginsOther] at same
  exact different (Nat.eq_of_mul_eq_mul_right pool.step_pos (Nat.add_left_cancel same))

/-- Of two pools of which one ends before the other begins, parts are apart unless the other pool
lies as a whole in the last part of the first. -/
theorem Delegates.isApart_or_encloses {pool later : Pool} (sound : pool.IsSound)
    (aligned : pool.IsAligned) (soundLater : later.IsSound) (alignedLater : later.IsAligned)
    {whole : Block} (divides : later.Divides whole) (before : pool.last.value < later.first.value)
    {left right : Nat} {given other : Block} (first : pool.Delegates left given)
    (second : later.Delegates right other) : given.IsApart other ∨ pool.Encloses left later := by
  obtain ⟨inside, -, span, begins, reach⟩ := first.bounds sound aligned
  by_cases meet : ∃ address, given.contains address = true ∧ other.contains address = true
  · obtain ⟨shared, inGiven, inOther⟩ := meet
    right
    have starts : later.first.value = whole.first.value := congrArg Address.value divides.first
    -- The other pool divides a block that begins inside the part, which is therefore the longer one.
    have enclosed : whole.IsWithin given := by
      have apart : given.first ≠ whole.first := fun same => by
        have := congrArg Address.value same
        omega
      have inWhole := divides.contains soundLater alignedLater second inOther
      rcases Block.isApart_or_isWithin apart with away | within | within
      · exact absurd inWhole (away shared inGiven)
      · have := within.begins
        omega
      · exact within
    have ends : whole.first.value < given.first.value + given.span :=
      ((given.contains_iff_between _).mp (enclosed.inside _ whole.contains_first)).2.2
    refine ⟨?_, given, first, fun number part handedOut => ?_⟩
    · have part : ¬ pool.spansAll := fun all => by
        have := value_le_largestWide later.first
        have := all.2
        omega
      have counted := capacity_eq part
      have short : (pool.last.value - pool.first.value) / pool.step < left + 1 := by
        rw [Nat.div_lt_iff_lt_mul pool.step_pos, Nat.succ_mul]
        omega
      omega
    · obtain ⟨-, -, -, beginsPart, -⟩ := handedOut.bounds soundLater alignedLater
      constructor
      · calc given.length < whole.length := enclosed.longer
          _ ≤ later.leaseLength := divides.length_le
          _ = part.length := handedOut.length.symm
      · exact fun address inPart =>
          enclosed.inside address (divides.contains soundLater alignedLater handedOut inPart)
      · have := enclosed.begins
        omega
  · exact .inl fun address inGiven inOther => meet ⟨address, inGiven, inOther⟩

/-- What lies in the last part of another pool is not apart from it. -/
theorem Encloses.exists_shared {outer inner : Pool} {index number : Nat} {last part : Block}
    (encloses : outer.Encloses index inner) (first : outer.Delegates index last)
    (second : inner.Delegates number part) :
    ∃ address, last.contains address = true ∧ part.contains address = true := by
  obtain ⟨-, block, handedOut, inside⟩ := encloses
  obtain rfl := handedOut.unique first
  exact ⟨part.first, (inside number part second).inside _ part.contains_first,
    part.contains_first⟩

/-- Of two pools of one family that do not overlap, one ends before the other begins. -/
theorem before_or_after_of_overlaps {left right : Pool} (family : left.family = right.family)
    (clear : left.overlaps right = false) :
    left.last.value < right.first.value ∨ right.last.value < left.first.value := by
  unfold overlaps at clear
  rw [family, beq_self_eq_true, Bool.true_and] at clear
  simp only [Bool.and_eq_false_iff, decide_eq_false_iff_not] at clear
  omega

/-- So it is with two pools at different places of a list in which no two overlap. -/
theorem AreApart.before_or_after {pools : List Pool} (apart : AreApart pools) {left right : Pool}
    {place other : Nat} (first : pools[place]? = some left) (second : pools[other]? = some right)
    (different : place ≠ other) (family : left.family = right.family) :
    left.last.value < right.first.value ∨ right.last.value < left.first.value := by
  obtain ⟨below, rfl⟩ := List.getElem?_eq_some_iff.mp first
  obtain ⟨belowOther, rfl⟩ := List.getElem?_eq_some_iff.mp second
  have clear := List.pairwise_iff_getElem.mp apart
  rcases Nat.lt_or_gt_of_ne different with before | after
  · exact before_or_after_of_overlaps family (clear place other below belowOther before)
  · exact (before_or_after_of_overlaps family.symm (clear other place belowOther below after)).symm

end Pool

/-- A pool of delegated blocks of an accepted topology divides a block. -/
theorem Topology.Accepted.exists_divides {topology : Topology} (accepted : topology.Accepted)
    {subnet : Subnet} (member : subnet ∈ topology.subnets) {pool : Pool}
    (listed : pool ∈ subnet.delegatedPools) : ∃ whole, pool.Divides whole := by
  obtain ⟨entry, read⟩ := (accepted.isBuilt.subnets subnet member).hasReadPools.blocks pool listed
  exact Pool.exists_divides_of_ofDelegated read

/-- Two candidates of the pools of delegated blocks of a checked subnet, at different places or of
different numbers in one pool, stand for blocks that are apart, except when one of the two pools lies
as a whole in the last block of the other, and it is that block. -/
theorem delegated_blocks_apart_iff {topology : Topology} (accepted : topology.Accepted)
    {subnet : Subnet} (member : subnet ∈ topology.subnets) {place other number otherNumber : Nat}
    {left right : Pool} (first : subnet.delegatedPools[place]? = some left)
    (second : subnet.delegatedPools[other]? = some right)
    (different : (place, number) ≠ (other, otherNumber)) {given part : Block}
    (delegates : left.Delegates number given) (handsOut : right.Delegates otherNumber part) :
    given.IsApart part ↔
      ¬ left.Encloses number right ∧ ¬ right.Encloses otherNumber left := by
  have listed := List.mem_of_getElem? first
  have listedOther := List.mem_of_getElem? second
  have sound := accepted.hasSoundPools member
  obtain ⟨soundLeft, -, familyLeft⟩ := sound.blocks left listed
  obtain ⟨soundRight, -, familyRight⟩ := sound.blocks right listedOther
  have aligned := accepted.isAligned member (List.mem_append_right subnet.pools listed)
  have alignedOther := accepted.isAligned member (List.mem_append_right subnet.pools listedOther)
  obtain ⟨whole, divides⟩ := accepted.exists_divides member listed
  obtain ⟨wholeOther, dividesOther⟩ := accepted.exists_divides member listedOther
  constructor
  · intro apart
    refine ⟨fun encloses => ?_, fun encloses => ?_⟩
    · obtain ⟨address, inside, shared⟩ := encloses.exists_shared delegates handsOut
      exact apart address inside shared
    · obtain ⟨address, shared, inside⟩ := encloses.exists_shared handsOut delegates
      exact apart address inside shared
  · rintro ⟨clear, clearOther⟩
    by_cases same : place = other
    · subst same
      obtain rfl : left = right := Option.some.inj (first.symm.trans second)
      exact delegates.isApart soundLeft aligned (fun number => different (by rw [number])) handsOut
    · rcases sound.blocksApart.before_or_after first second same (familyLeft.trans familyRight.symm)
        with before | after
      · exact (delegates.isApart_or_encloses soundLeft aligned soundRight alignedOther dividesOther
          before handsOut).resolve_right clear
      · have apart := (handsOut.isApart_or_encloses soundRight alignedOther soundLeft aligned divides
          after delegates).resolve_right clearOther
        exact fun address inside shared => apart address shared inside

/-! A subnet with two pools of delegated blocks: the second divides a part of the last block that the
first one delegates. -/
namespace Sample

/-- An address of 128 bits. -/
def wide (value : Nat) (fits : value < 2 ^ 128) : Address := ⟨.v6, value, fits⟩

/-- The configuration. -/
def nestedPools : Config where
  params := .unset
  identifierOrder := [.hwAddress]
  uniqueAddresses := true
  clientClasses := []
  reservations := []
  subnets := [{
    id := 1
    block := ⟨wide 0 (by decide), 64, by decide⟩
    pools := []
    delegatedPools := [
      ⟨⟨wide (2 ^ 67) (by decide), 61, by decide⟩, 62, none, none⟩,
      ⟨⟨wide (2 ^ 67 + 2 ^ 66 + 2 ^ 64) (by decide), 64, by decide⟩, 64, none, none⟩]
    clientClass := none
    reservations := []
    params := .unset }]
  networks := []

/-- The first address of 128 bits. -/
def firstWide : Address := wide 0 (by decide)

/-- The pool that delegates two blocks. -/
def outerPool : Pool :=
  ⟨none, .blocks 62, wide (2 ^ 67) (by decide), wide (2 ^ 67 + 2 ^ 66) (by decide), none⟩

/-- The pool that delegates one block. -/
def innerPool : Pool :=
  ⟨none, .blocks 64, wide (2 ^ 67 + 2 ^ 66 + 2 ^ 64) (by decide),
    wide (2 ^ 67 + 2 ^ 66 + 2 ^ 64) (by decide), none⟩

/-- The first block of the outer pool. -/
def outerFirst : Block := ⟨wide (2 ^ 67) (by decide), 62, by decide⟩

/-- The last block of the outer pool. -/
def outerLast : Block := ⟨wide (2 ^ 67 + 2 ^ 66) (by decide), 62, by decide⟩

/-- The block of the inner pool. -/
def inner : Block := ⟨wide (2 ^ 67 + 2 ^ 66 + 2 ^ 64) (by decide), 64, by decide⟩

/-- The first candidate of the outer pool is its first block. -/
theorem delegates_outerFirst : outerPool.Delegates 0 outerFirst := ⟨by decide +kernel, rfl⟩

/-- The second one is its last block. -/
theorem delegates_outerLast : outerPool.Delegates 1 outerLast := ⟨by decide +kernel, rfl⟩

/-- The first candidate of the inner pool is the block inside. -/
theorem delegates_inner : innerPool.Delegates 0 inner := ⟨by decide +kernel, rfl⟩

/-- The topology that is built from the configuration. -/
def nested : Topology := (Topology.build nestedPools 1).toOption.getD .empty

/-- The pools are read as they are. -/
theorem exists_nested_subnet :
    ∃ subnet ∈ nested.subnets, subnet.delegatedPools = [outerPool, innerPool] := by
  decide +kernel

end Sample

/-- The conditions can be met: a part of the last block of a pool is the block of another, and the
first block of the pool is apart from it. -/
theorem delegated_blocks_apart_iff_of_first_block : Sample.outerFirst.IsApart Sample.inner := by
  obtain ⟨subnet, member, pools⟩ := Sample.exists_nested_subnet
  have first : subnet.delegatedPools[0]? = some Sample.outerPool := by rw [pools]; rfl
  have second : subnet.delegatedPools[1]? = some Sample.innerPool := by rw [pools]; rfl
  refine (delegated_blocks_apart_iff (Topology.accepted_build _ _) member first second (by decide)
    Sample.delegates_outerFirst Sample.delegates_inner).mpr ⟨?_, ?_⟩
  · rintro ⟨last, -⟩
    exact absurd last (by decide +kernel)
  · rintro ⟨-, last, handedOut, inside⟩
    have longer := (inside 0 _ Sample.delegates_outerFirst).longer
    rw [handedOut.length] at longer
    exact absurd longer (by decide)

/-- Different candidates of the pools of delegated blocks do not always stand for blocks that are
apart. -/
theorem delegated_blocks_nested :
    ¬ ∀ (config : Config) (generation : Nat) (topology : Topology) (subnet : Subnet)
      (place other number otherNumber : Nat) (left right : Pool) (given part : Block),
      Topology.build config generation = .ok topology → subnet ∈ topology.subnets →
      subnet.delegatedPools[place]? = some left → subnet.delegatedPools[other]? = some right →
      (place, number) ≠ (other, otherNumber) → left.Delegates number given →
      right.Delegates otherNumber part → given.IsApart part := by
  intro apart
  have known : (Topology.build Sample.nestedPools 1).toOption.isSome := by decide +kernel
  obtain ⟨subnet, member, pools⟩ := Sample.exists_nested_subnet
  have first : subnet.delegatedPools[0]? = some Sample.outerPool := by rw [pools]; rfl
  have second : subnet.delegatedPools[1]? = some Sample.innerPool := by rw [pools]; rfl
  have built : Topology.build Sample.nestedPools 1 = .ok Sample.nested := by
    unfold Sample.nested
    generalize Topology.build Sample.nestedPools 1 = outcome at known
    cases outcome with
    | error error => exact nomatch known
    | ok topology => rfl
  refine apart Sample.nestedPools 1 Sample.nested subnet 0 1 1 0 _ _ _ _ built member first second
    (by decide) Sample.delegates_outerLast Sample.delegates_inner Sample.inner.first ?_ ?_
  · decide +kernel
  · exact Sample.inner.contains_first

end Leasehold
