import Mathlib.Algebra.Group.Nat.Defs
import Leasehold.Proofs.Topology.Accepted
import Leasehold.Proofs.Topology.Pools

/-!
# Pools of checked subnets

Every pool of a checked subnet was read from its configuration, so that it begins no later than it
ends and keeps to one family. Address pools hand out addresses of the family of the subnet,
delegated pools blocks of 128-bit addresses, and no two pools of one kind have an address in common.
-/
namespace Leasehold

/-- Pools are apart when no two of them have an address in common. -/
def Pool.AreApart (pools : List Pool) : Prop :=
  pools.Pairwise fun left right => left.overlaps right = false

/-- What a check of pools in a subnet has made sure of. -/
structure Subnet.HasSoundPools (subnet : Subnet) : Prop where
  /-- Address pools are sound and hand out addresses of the subnet. -/
  addresses : ∀ pool ∈ subnet.pools,
    pool.IsSound ∧ pool.kind = .addresses ∧ pool.family = subnet.family
  /-- Delegated pools are sound and hand out blocks of the second family. -/
  blocks : ∀ pool ∈ subnet.delegatedPools,
    pool.IsSound ∧ (∃ length, pool.kind = .blocks length) ∧ pool.family = .v6
  /-- Address pools are apart. -/
  apart : Pool.AreApart subnet.pools
  /-- Delegated pools are apart. -/
  blocksApart : Pool.AreApart subnet.delegatedPools

namespace Pool

/-- Pools of which none overlaps a later one are apart. -/
theorem areApart_of_overlapping? {pools : List Pool} (none : overlapping? pools = none) :
    AreApart pools := by
  induction pools with
  | nil => exact .nil
  | cons pool rest ih =>
    unfold overlapping? at none
    split at none
    · exact nomatch none
    · next clear =>
      refine List.pairwise_cons.mpr ⟨fun other member => ?_, ih none⟩
      have passed := List.find?_eq_none.mp clear other member
      simpa using passed

/-- Pools with an address in common overlap. -/
theorem overlaps_of_contains {left right : Pool} {address : Address}
    (inLeft : left.contains address = true) (inRight : right.contains address = true) :
    left.overlaps right = true := by
  obtain ⟨leftFamily, leftAbove, leftBelow, -⟩ := of_contains inLeft
  obtain ⟨rightFamily, rightAbove, rightBelow, -⟩ := of_contains inRight
  have family : left.family = right.family := leftFamily.symm.trans rightFamily
  unfold overlaps
  rw [family, beq_self_eq_true]
  simpa using ⟨by omega, by omega⟩

/-- An address belongs to one pool at most of those that are apart. -/
theorem AreApart.eq_of_contains {pools : List Pool} (apart : AreApart pools) {left right : Pool}
    (leftMember : left ∈ pools) (rightMember : right ∈ pools) {address : Address}
    (inLeft : left.contains address = true) (inRight : right.contains address = true) :
    left = right := by
  induction apart with
  | nil => exact absurd leftMember List.not_mem_nil
  | cons clear _ ih =>
    rcases List.mem_cons.mp leftMember with rfl | leftLater
    · rcases List.mem_cons.mp rightMember with rfl | rightLater
      · rfl
      · have apart := clear right rightLater
        rw [overlaps_of_contains inLeft inRight] at apart
        exact nomatch apart
    · rcases List.mem_cons.mp rightMember with rfl | rightLater
      · have apart := clear left leftLater
        rw [overlaps_of_contains inRight inLeft] at apart
        exact nomatch apart
      · exact ih leftLater rightLater

/-- What is known of an address pool that was read from a configuration: it is a range of the block
of its subnet, and begins no later than it ends. -/
theorem of_ofConfig {block : Block} {entry : Config.Pool} {pool : Pool}
    (read : ofConfig block entry = .ok pool) :
    pool.kind = .addresses ∧ pool.first.value ≤ pool.last.value ∧
      block.contains pool.first = true ∧ block.contains pool.last = true := by
  unfold ofConfig at read
  split at read
  · exact nomatch read
  · next first last ranged =>
    split at read
    · exact nomatch read
    · split at read
      · exact nomatch read
      · next ordered =>
        split at read
        · exact nomatch read
        · next inside =>
          cases read
          obtain ⟨holdsFirst, holdsLast⟩ :
              block.contains first = true ∧ block.contains last = true := by
            simpa using inside
          exact ⟨rfl, Nat.le_of_not_lt ordered, holdsFirst, holdsLast⟩

/-- What is known of a pool of delegated blocks that was read from a configuration: it divides a block
of 128-bit addresses into parts of the length that is given, from the first one to the last. -/
theorem of_ofDelegated {entry : Config.DelegatedPool} {pool : Pool}
    (read : ofDelegated entry = .ok pool) :
    let whole := entry.block.trunc
    let length := entry.delegatedLength.toNat
    whole.family = .v6 ∧ whole.length ≤ length ∧ length ≤ 128 ∧
      ∃ last : Address, last.family = .v6 ∧
        last.value = whole.firstValue + (2 ^ (length - whole.length) - 1) * 2 ^ (128 - length) ∧
        pool = ⟨entry.id, .blocks length, whole.first, last, entry.clientClass⟩ := by
  intro whole length
  unfold ofDelegated at read
  dsimp only at read
  split at read
  · cases read
  · next family =>
    split at read
    · cases read
    · next bounds =>
      split at read
      · cases read
      · next last fits =>
        cases read
        have wide : whole.family = .v6 := by simpa using family
        obtain ⟨longer, short⟩ := not_or.mp bounds
        unfold Address.ofNat? at fits
        split at fits
        · obtain rfl := Option.some.inj fits
          exact ⟨wide, Nat.le_of_not_lt longer, Nat.le_of_not_lt short, _, rfl, rfl, rfl⟩
        · cases fits

/-- An address pool is sound when it was read from a configuration. -/
theorem isSound_of_ofConfig {block : Block} {entry : Config.Pool} {pool : Pool}
    (read : ofConfig block entry = .ok pool) :
    pool.IsSound ∧ pool.kind = .addresses ∧ pool.family = block.family := by
  obtain ⟨kind, ordered, holdsFirst, holdsLast⟩ := of_ofConfig read
  have family {address : Address} (contained : block.contains address = true) :
      address.family = block.family := by
    unfold Block.contains at contained
    rw [Bool.and_eq_true, Bool.and_eq_true] at contained
    exact (beq_iff_eq.mp contained.1.1).symm
  exact ⟨⟨(family holdsLast).trans (family holdsFirst).symm, ordered⟩, kind, family holdsFirst⟩

/-- A pool of delegated blocks is sound when it was read from a configuration. -/
theorem isSound_of_ofDelegated {entry : Config.DelegatedPool} {pool : Pool}
    (read : ofDelegated entry = .ok pool) :
    pool.IsSound ∧ (∃ length, pool.kind = .blocks length) ∧ pool.family = .v6 := by
  obtain ⟨wide, -, -, last, family, value, rfl⟩ := of_ofDelegated read
  exact ⟨⟨family.trans wide.symm, value ▸ Nat.le_add_right _ _⟩, ⟨_, rfl⟩, wide⟩

end Pool

/-- Each pool that was read comes from an entry. -/
theorem Builder.exists_entry_of_readPools {ε : Type} {id : SubnetId} {label : ε → String}
    {read : ε → Except PoolFault Pool} {entries : List ε} {pools : List Pool}
    (built : readPools id label read entries = .ok pools) {pool : Pool} (member : pool ∈ pools) :
    ∃ entry, read entry = .ok pool := by
  induction entries generalizing pools with
  | nil =>
    cases built
    exact absurd member List.not_mem_nil
  | cons entry rest ih =>
    unfold readPools at built
    split at built
    · exact nomatch built
    · next first readFirst =>
      cases others : readPools id label read rest with
      | error error =>
        rw [others] at built
        exact nomatch built
      | ok later =>
        rw [others] at built
        cases built
        rcases List.mem_cons.mp member with rfl | inside
        · exact ⟨entry, readFirst⟩
        · exact ih others inside

/-- Pools that passed the check are apart. -/
theorem Builder.areApart_of_checkApart {id : SubnetId} {pools : List Pool}
    (passed : checkApart id pools = .ok ()) : Pool.AreApart pools := by
  unfold checkApart at passed
  split at passed
  · exact nomatch passed
  · next clear => exact Pool.areApart_of_overlapping? clear

/-- The pools of a subnet were read from its configuration, and those of one kind are apart. -/
structure Subnet.HasReadPools (subnet : Subnet) : Prop where
  /-- Address pools were read in the block of the subnet. -/
  addresses : ∀ pool ∈ subnet.pools, ∃ entry, Pool.ofConfig subnet.block entry = .ok pool
  /-- Pools of delegated blocks were read. -/
  blocks : ∀ pool ∈ subnet.delegatedPools, ∃ entry, Pool.ofDelegated entry = .ok pool
  /-- Address pools are apart. -/
  apart : Pool.AreApart subnet.pools
  /-- Delegated pools are apart. -/
  blocksApart : Pool.AreApart subnet.delegatedPools

/-- The pools of a checked subnet were read from its configuration. -/
theorem Subnet.IsBuilt.hasReadPools {subnet : Subnet} (built : subnet.IsBuilt) :
    subnet.HasReadPools := by
  obtain ⟨builder, network, entry, next, built⟩ := built
  obtain ⟨_, -, built⟩ := ok_of_bind built
  obtain ⟨pools, readPools, built⟩ := ok_of_bind built
  obtain ⟨delegated, readDelegated, built⟩ := ok_of_bind built
  obtain ⟨_, apart, built⟩ := ok_of_bind built
  obtain ⟨_, blocksApart, built⟩ := ok_of_bind built
  obtain ⟨_, -, built⟩ := ok_of_bind built
  cases built
  constructor
  · exact fun pool member => Builder.exists_entry_of_readPools readPools member
  · exact fun pool member => Builder.exists_entry_of_readPools readDelegated member
  · exact Builder.areApart_of_checkApart apart
  · exact Builder.areApart_of_checkApart blocksApart

/-- The pools of a checked subnet are sound. -/
theorem Subnet.IsBuilt.hasSoundPools {subnet : Subnet} (built : subnet.IsBuilt) :
    subnet.HasSoundPools := by
  have pools := built.hasReadPools
  constructor
  · intro pool member
    obtain ⟨entry, read⟩ := pools.addresses pool member
    exact Pool.isSound_of_ofConfig read
  · intro pool member
    obtain ⟨entry, read⟩ := pools.blocks pool member
    exact Pool.isSound_of_ofDelegated read
  · exact pools.apart
  · exact pools.blocksApart

/-- The pools of every subnet of an accepted topology are sound. -/
theorem Topology.Accepted.hasSoundPools {topology : Topology} (accepted : topology.Accepted)
    {subnet : Subnet} (member : subnet ∈ topology.subnets) : subnet.HasSoundPools :=
  (accepted.isBuilt.subnets subnet member).hasSoundPools

end Leasehold
