import Leasehold.Proofs.Engine.Reserved
import Leasehold.Proofs.Topology.Reservations

/-!
# The shape of leases

A client that asks for an address is granted a single address inside the subnet, whether it was found
in a pool or fixed by a reservation: pools of a checked subnet lie in its block, and a reserved
address that does not is passed over. A client that asks for a block is granted one by its first
address. Blocks that are found in a pool consist of 128-bit addresses, but nothing is known of the
family of the subnet, and a reserved block is granted as it was configured
(`allocate_shape`, `block_of_other_family`).
-/
namespace Leasehold

/-- A block that is given by its first address begins there. -/
theorem Block.first_trunc (block : Block) : block.trunc.first = block.trunc.address := by
  refine Address.ext' rfl ?_
  change block.firstValue / block.span * block.span = block.firstValue
  rw [firstValue, Nat.mul_div_cancel _ block.span_pos]

/-- An address pool lies in the block of its subnet when it was read from a configuration. -/
theorem Pool.contains_of_ofConfig {block : Block} {entry : Config.Pool} {pool : Pool}
    (read : ofConfig block entry = .ok pool) {address : Address}
    (inside : pool.contains address = true) : block.contains address = true := by
  obtain ⟨-, -, holdsFirst, holdsLast⟩ := of_ofConfig read
  obtain ⟨family, above, below, -⟩ := of_contains inside
  rw [Block.contains_iff_between] at holdsFirst holdsLast ⊢
  exact ⟨family.trans holdsFirst.1, Nat.le_trans holdsFirst.2.1 above,
    Nat.lt_of_le_of_lt below holdsLast.2.2⟩

/-- The address pools of a checked subnet lie in the subnet. -/
theorem Subnet.IsBuilt.contains {subnet : Subnet} (built : subnet.IsBuilt) {pool : Pool}
    (listed : pool ∈ subnet.pools) {address : Address} (inside : pool.contains address = true) :
    subnet.contains address = true := by
  obtain ⟨entry, read⟩ := built.hasReadPools.addresses pool listed
  exact Pool.contains_of_ofConfig read inside

/-- The reserved blocks are given by their first addresses. -/
def Reservation.HasFirsts (reservation : Reservation) : Prop :=
  ∀ block ∈ reservation.blocks, block.first = block.address

/-- A reservation gives blocks by their first addresses when it was read from a configuration. -/
theorem Reservation.IsRead.hasFirsts {scope : Scope} {entries : List Config.Reservation}
    {host : Reservation} (read : host.IsRead scope entries) : host.HasFirsts := by
  obtain ⟨entry, -, read⟩ := read
  unfold ofConfig at read
  split at read
  · exact nomatch read
  · exact nomatch read
  · cases read
    intro block listed
    obtain ⟨source, -, rfl⟩ := List.mem_map.mp listed
    exact source.first_trunc

/-- What a lookup finds is one of the reservations. -/
theorem ReservationIndex.mem_hosts_of_lookup {index : ReservationIndex} {scope : Scope}
    {ids : ClientIdentifiers} {host : Reservation} (found : index.lookup scope ids = some host) :
    host ∈ index.hosts := by
  rw [lookup_eq_findSome?] at found
  obtain ⟨kind, -, found⟩ := List.exists_of_findSome?_eq_some found
  obtain ⟨identifier, -, held⟩ := Option.bind_eq_some_iff.mp found
  obtain ⟨place, -, here⟩ := Option.bind_eq_some_iff.mp held
  exact Array.mem_of_getElem? here

namespace Topology

/-- The reservation that applies to a client is one of the topology. -/
theorem mem_hosts_of_reservation? {topology : Topology} {candidate : Candidate}
    {ids : ClientIdentifiers} {host : Reservation}
    (found : topology.reservation? candidate ids = some host) :
    host ∈ topology.reservations.hosts := by
  unfold reservation? at found
  dsimp only at found
  split at found
  · exact ReservationIndex.mem_hosts_of_lookup found
  · split at found
    · exact ReservationIndex.mem_hosts_of_lookup found
    · exact nomatch found

/-- The reservations of an accepted topology give their blocks by first addresses. -/
theorem Accepted.hasFirsts {topology : Topology} (accepted : topology.Accepted)
    {host : Reservation} (member : host ∈ topology.reservations.hosts) : host.HasFirsts := by
  rcases accepted with rfl | ⟨config, generation, built⟩
  · exact absurd member (Array.not_mem_empty host)
  · exact ((mem_hosts_iff built host).mp member).hasFirsts

end Topology

/-- The lease is for a single address of the subnet. -/
structure Lease.IsAddressIn (lease : Lease) (subnet : Subnet) : Prop where
  /-- The address lies in the subnet. -/
  inside : subnet.contains lease.address = true
  /-- It is of the family of the subnet. -/
  family : lease.address.family = subnet.family
  /-- It is recorded in full length. -/
  length : lease.length = lease.address.family.width

/-- An address that lies in a subnet and is recorded in full length is a single address of it. -/
theorem Lease.isAddressIn_of_contains {lease : Lease} {subnet : Subnet}
    (inside : subnet.contains lease.address = true) (length : lease.length = subnet.family.width) :
    lease.IsAddressIn subnet := by
  have family : lease.address.family = subnet.family := ((Block.contains_iff _ _).mp inside).1
  exact ⟨inside, family, by rw [length, family]⟩

namespace Attempt

variable {attempt : Attempt} {reservation : Reservation} {target : Target}

/-- What a reservation fixes is what it holds for the client, and lies in the subnet when it is an
address. -/
theorem of_fixed? (fixed : attempt.fixed? reservation = some target) :
    attempt.reserved? reservation = some (target.address, target.length) ∧
      (attempt.request.kind = .block ∨ attempt.subnet.contains target.address = true) := by
  unfold fixed? at fixed
  cases reserved : attempt.reserved? reservation with
  | none =>
    rw [reserved] at fixed
    exact nomatch fixed
  | some held =>
    obtain ⟨address, length⟩ := held
    rw [reserved] at fixed
    dsimp only at fixed
    split at fixed
    · next passes =>
      cases fixed
      obtain ⟨inside, -⟩ := (Bool.and_eq_true _ _).mp passes
      refine ⟨rfl, ?_⟩
      rcases (Bool.or_eq_true _ _).mp inside with block | contained
      · exact .inl (beq_iff_eq.mp block)
      · exact .inr contained
    · exact nomatch fixed

/-- A client that asks for an address is held one in full length. -/
theorem length_of_reserved? {address : Address} {length : Nat}
    (asks : attempt.request.kind = .address)
    (reserved : attempt.reserved? reservation = some (address, length)) :
    length = attempt.subnet.family.width := by
  unfold reserved? at reserved
  rw [asks] at reserved
  obtain ⟨found, -, same⟩ := Option.map_eq_some_iff.mp reserved
  exact (Prod.mk.inj same).2.symm

/-- A client that asks for a block is held the first one. -/
theorem exists_block_of_reserved? {address : Address} {length : Nat}
    (asks : attempt.request.kind = .block)
    (reserved : attempt.reserved? reservation = some (address, length)) :
    ∃ block, reservation.blocks.head? = some block ∧ block.address = address ∧
      block.length = length := by
  unfold reserved? at reserved
  rw [asks] at reserved
  obtain ⟨block, first, same⟩ := Option.map_eq_some_iff.mp reserved
  obtain ⟨address, length⟩ := Prod.mk.inj same
  exact ⟨block, first, address, length⟩

end Attempt

namespace Engine

variable {topology : Topology} {request : Request} {mode : AllocationMode} {limit : Option Nat}
  {attempt : Attempt} {around : Surroundings}

/-- A reserved grant is for what the reservation of the client fixes. -/
theorem Provides.exists_fixed {scene after : Scene} {leases : List Lease} {target : Target}
    {grant : Grant} (serves : Serves topology request mode around.now attempt)
    (provides : Provides topology attempt around scene limit leases target grant after)
    (reserved : grant.kind = .reserved) :
    ∃ reservation, topology.reservation? attempt.candidate request.identifiers = some reservation ∧
      attempt.fixed? reservation = some target := by
  have chosen := provides.chosen
  rw [reserved] at chosen
  generalize kind : GrantKind.reserved = held at chosen
  cases chosen with
  | fixed fixed =>
    obtain ⟨reservation, found, fixed⟩ := Option.bind_eq_some_iff.mp fixed
    rw [serves.request_eq] at found
    exact ⟨reservation, found, fixed⟩
  | found => exact absurd kind.symm (Attempt.kindOf_ne_reserved _)

/-- What is promised of a block that is granted: it is found in a pool and consists of 128-bit
addresses, or it is the first that the reservation of the client sets aside. -/
structure IsBlockGrant (topology : Topology) (attempt : Attempt) (grant : Grant) (given : Block) :
    Prop where
  /-- The lease is for the block. -/
  isFor : grant.lease.IsFor given
  /-- Blocks of pools consist of 128-bit addresses. -/
  dynamic : grant.kind ≠ .reserved → given.family = .v6
  /-- Otherwise the block is the one that is reserved. -/
  reserved : grant.kind = .reserved → ∃ reservation,
    topology.reservation? attempt.candidate attempt.request.identifiers = some reservation ∧
      reservation.blocks.head? = some given

/-- Leases are in shape. A client that asks for an address is granted a single address inside the
subnet, of its family; a client that asks for a block is granted one by its first address, so that
all bits behind its length are zero. Its family is the second unless it is reserved, whatever the
family of the subnet is; the block that is reserved is granted in the family that it has. -/
theorem allocate_shape (accepted : topology.Accepted) (around : Surroundings) (state : State)
    {grant : Grant}
    (granted : (state.run around (allocate topology request mode limit)).1 = .ok grant) :
    ∃ attempt, Serves topology request mode around.now attempt ∧
      attempt.subnet ∈ topology.subnets ∧ attempt.subnet.id = grant.subnet ∧
      (request.kind = .address → grant.lease.IsAddressIn attempt.subnet) ∧
      (request.kind = .block → ∃ given, IsBlockGrant topology attempt grant given) := by
  obtain ⟨owners, attempt, target, -, serves, provides⟩ :=
    exists_of_run_allocate (State.scene_run granted)
  have inside := serves.mem_subnets
  obtain ⟨version, lease⟩ := provides.exists_lease
  refine ⟨attempt, serves, inside, provides.subnet.symm, ?_⟩
  have same : attempt.request = request := serves.request_eq
  by_cases reserved : grant.kind = .reserved
  · obtain ⟨reservation, found, fixed⟩ := provides.exists_fixed serves reserved
    obtain ⟨held, within⟩ := Attempt.of_fixed? fixed
    have address : grant.lease.address = target.address := provides.address
    have length : grant.lease.length = target.length := by rw [lease]; rfl
    refine ⟨fun asks => ?_, fun asks => ?_⟩
    · rw [← same] at asks
      refine Lease.isAddressIn_of_contains ?_ ?_
      · rw [address]
        exact within.resolve_left (by simp [asks])
      · rw [length]
        exact Attempt.length_of_reserved? asks held
    · rw [← same] at asks found
      obtain ⟨block, first, blockAddress, blockLength⟩ :=
        Attempt.exists_block_of_reserved? asks held
      have begins := accepted.hasFirsts (Topology.mem_hosts_of_reservation? found) block
        (List.mem_of_mem_head? first)
      refine ⟨block, ⟨?_, ?_, ?_⟩, fun dynamic => absurd reserved dynamic,
        fun _ => ⟨reservation, found, first⟩⟩
      · rw [blockAddress, address]
      · rw [blockLength, length]
      · rw [begins, blockAddress, address]
  · obtain ⟨pool, sound⟩ := provides.isDynamicGrant serves accepted reserved
    have searched := sound.searched
    unfold Attempt.pools at searched
    have pools := accepted.hasSoundPools inside
    refine ⟨fun asks => ?_, fun asks => ?_⟩
    · rw [same, asks] at searched
      obtain ⟨-, single, family⟩ := pools.addresses pool searched
      refine Lease.isAddressIn_of_contains
        ((accepted.isBuilt.subnets _ inside).contains searched sound.contained) ?_
      rw [sound.length]
      unfold Pool.leaseLength
      rw [single, family]
    · rw [same, asks] at searched
      obtain ⟨-, -, family⟩ := pools.blocks pool searched
      obtain ⟨given, isFor⟩ := sound.exists_isFor accepted serves
      refine ⟨given, isFor, fun _ => ?_, fun fixed => absurd fixed reserved⟩
      unfold Block.family
      rw [isFor.address, (Pool.of_contains sound.contained).1, family]

/-- The conditions can be met: the first client is leased the only address of the small network, which
lies in its subnet. -/
theorem allocate_shape_of_first_client :
    ∃ grant, (State.initial.run (Sample.around 0)
        (allocate Sample.topology (Sample.request 1) .commit none)).1 = .ok grant ∧
      ∃ subnet ∈ Sample.topology.subnets, subnet.id = grant.subnet ∧
        grant.lease.IsAddressIn subnet := by
  have known : (State.initial.run (Sample.around 0)
      (allocate Sample.topology (Sample.request 1) .commit none)).1.toOption.map (·.subnet) =
        some 1 := by decide +kernel
  obtain ⟨grant, granted, -⟩ := ok_of_toOption known
  obtain ⟨attempt, -, inside, same, single, -⟩ :=
    allocate_shape (Topology.accepted_build _ _) (Sample.around 0) State.initial granted
  exact ⟨grant, granted, attempt.subnet, inside, same, single rfl⟩

namespace Sample

/-- A subnet of 32-bit addresses that delegates a block. -/
def mixed : Topology :=
  (Topology.build { config with
    subnets := config.subnets.map fun subnet =>
      { subnet with delegatedPools := [⟨blockAt (2 ^ 66) 64, 64, none, none⟩] } } 1).toOption.getD
        .empty

end Sample

/-- What is granted is not always of the family of its subnet: a subnet of 32-bit addresses delegates
a block of 128-bit addresses. -/
theorem block_of_other_family :
    ¬ ∀ (topology : Topology) (history : List Event) (request : Request) (mode : AllocationMode)
      (limit : Option Nat) (around : Surroundings) (grant : Grant), topology.Accepted →
      ((State.initial.play history).run around (allocate topology request mode limit)).1 =
        .ok grant →
      ∃ subnet ∈ topology.subnets, subnet.id = grant.subnet ∧
        grant.lease.address.family = subnet.family := by
  intro same
  have known : (State.initial.run (Sample.around 0)
      (allocate Sample.mixed (Sample.requestBlock 1) .commit none)).1.toOption.map
        (·.lease.address.family) = some .v6 := by decide +kernel
  have narrow : ∀ subnet ∈ Sample.mixed.subnets, subnet.family = .v4 := by decide +kernel
  obtain ⟨grant, granted, wide⟩ := ok_of_toOption known
  obtain ⟨subnet, inside, -, family⟩ := same Sample.mixed [] (Sample.requestBlock 1) .commit none
    (Sample.around 0) grant (Topology.accepted_build _ _) granted
  rw [wide, narrow subnet inside] at family
  exact nomatch family

end Engine

end Leasehold
