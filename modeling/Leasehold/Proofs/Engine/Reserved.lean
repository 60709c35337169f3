import Leasehold.Proofs.Engine.Exhaustion
import Leasehold.Proofs.Engine.Renewal
import Leasehold.Proofs.Topology.Blocks

/-!
# Space that is reserved for others

Where the mode of a subnet protects reservations, dynamic allocation passes over the addresses that
a reservation of another client claims. A reservation claims the first address of every block that
it sets aside. What is granted is therefore a block that does not begin where such a block begins:
the two are apart, which is always so when they are of one length, or one of them is a proper part
of the other (`reserved_space_apart`). The latter does happen: of a block that is reserved for one
client, all but the first part can be delegated to another (`reserved_block_delegated`).
-/
namespace Leasehold

open Engine (Surroundings)

/-- Nothing stands in the way of the first reservation of an index. -/
theorem ReservationIndex.insert_empty (order : List IdentifierKind) (new : Reservation)
    (uniqueAddresses : Bool) :
    (empty order).insert new uniqueAddresses = .ok ((empty order).append new) := by
  have identifiers : (empty order).sharedIdentifier? new = none := by
    simp [sharedIdentifier?, empty]
  have addresses : (empty order).sharedAddress? new = none := by
    simp [sharedAddress?, claims, empty]
  unfold insert
  rw [identifiers, addresses, ite_self]

/-- A single reservation is collected as it is read. -/
theorem Builder.reserveAll_singleton {ids : SubnetIds} {order : List IdentifierKind}
    {uniqueAddresses : Bool} {scope : Scope} {entry : Config.Reservation} {host : Reservation}
    (read : Reservation.ofConfig scope entry = .ok host) :
    reserveAll scope (fun _ => .ok ()) ⟨ids, .empty order, uniqueAddresses⟩ [entry] =
      .ok ⟨ids, (ReservationIndex.empty order).append host, uniqueAddresses⟩ := by
  unfold reserveAll
  rw [read]
  dsimp only
  unfold reserve
  rw [ReservationIndex.insert_empty]
  rfl

/-- The block is set aside for another client: a reservation in the scope that the mode of the subnet
protects sets it aside, and does not belong to the client. -/
def Attempt.IsSetAside (attempt : Attempt) (topology : Topology) (block : Block) : Prop :=
  ∃ scope, attempt.protectedScope? = some scope ∧
    ∃ host ∈ topology.reservations.hosts, host.scope = scope ∧
      host.belongsTo attempt.request.identifiers = false ∧ block ∈ host.space

/-- The first address of a block that is set aside for another client is reserved for it. -/
theorem Attempt.IsSetAside.isReservedForOther {attempt : Attempt} {topology : Topology}
    {block : Block} (aside : attempt.IsSetAside topology block) :
    attempt.IsReservedForOther topology block.first := by
  obtain ⟨scope, guarded, host, member, inScope, other, sets⟩ := aside
  exact ⟨scope, guarded, host, member, inScope, Reservation.first_mem_claimed sets, other⟩

/-- The lease is for the block, which begins at its address. -/
structure Lease.IsFor (lease : Lease) (block : Block) : Prop where
  /-- The block is given by the address of the lease. -/
  address : block.address = lease.address
  /-- It has the length of the lease. -/
  length : block.length = lease.length
  /-- The address is its first. -/
  first : block.first = lease.address

namespace Engine

section Reserved

variable {topology : Topology} {request : Request} {mode : AllocationMode} {limit : Option Nat}
  {attempt : Attempt} {around : Surroundings} {grant : Grant}

/-- What a dynamic allocation grants is a block. -/
theorem IsDynamicGrant.exists_isFor {pool : Pool} {before : Store} {now : Instant}
    (accepted : topology.Accepted) (serves : Serves topology request mode now attempt)
    (sound : IsDynamicGrant topology attempt pool before grant) :
    ∃ given, grant.lease.IsFor given := by
  obtain ⟨subnet, inside, listed⟩ := serves.exists_subnet_of_mem_pools sound.searched
  have aligned : pool.IsAligned := accepted.isAligned inside listed
  obtain ⟨given, address, length, first⟩ := aligned.exists_block_of_contains sound.contained
  exact ⟨given, address, length.trans sound.length.symm, first⟩

/-- What is granted to a client dynamically is apart from every block that is set aside for another
client by a reservation which the subnet protects, or one of the two is a proper part of the other
and does not begin at the same address. An address that is reserved is a block of its own. -/
theorem reserved_space_apart (accepted : topology.Accepted) (around : Surroundings) (state : State)
    (granted : (state.run around (allocate topology request mode limit)).1 = .ok grant)
    (dynamic : grant.kind ≠ .reserved) :
    ∃ attempt given, Serves topology request mode around.now attempt ∧
      attempt.subnet.id = grant.subnet ∧ grant.lease.IsFor given ∧
      ∀ block, attempt.IsSetAside topology block →
        given.IsApart block ∨ given.IsWithin block ∨ block.IsWithin given := by
  obtain ⟨owners, attempt, target, -, serves, provides⟩ :=
    exists_of_run_allocate (State.scene_run granted)
  obtain ⟨pool, sound⟩ := provides.isDynamicGrant serves accepted dynamic
  obtain ⟨given, isFor⟩ := sound.exists_isFor accepted serves
  refine ⟨attempt, given, serves, sound.subnet.1.symm, isFor, fun block aside => ?_⟩
  apply Block.isApart_or_isWithin
  intro same
  have reserved := aside.isReservedForOther
  rw [← same, isFor.first] at reserved
  exact sound.unreserved reserved

end Reserved

namespace Sample

/-- The second client has a block reserved, wherever it turns up. -/
def reservation (block : Block) : Config.Reservation :=
  ⟨some "02", none, none, none, none, [], [block], none, []⟩

/-- A subnet that delegates the four parts of a block, with global reservations. -/
def delegatingParts (mode : ReservationMode) (reservations : List Config.Reservation) : Config :=
  { config with
    reservations
    subnets := [{
      delegating 1 (blockAt 0 64) [] (blockAt (2 ^ 66) 62) 64 with
      params := { Config.Params.unset with
        reservationMode := some mode
        interface := some "lan" } }] }

/-- The block as a whole. -/
def whole : Block := blockAt (2 ^ 66) 62

/-- The reservation of the whole block, as it is read. -/
def wholeReserved : Reservation := ⟨.global, [⟨.hwAddress, [2]⟩], [], [whole], none, []⟩

/-- The topology in which the whole block is reserved, and in which the mode decides about that. -/
def reservingIn (mode : ReservationMode) : Topology :=
  { (Topology.build (delegatingParts mode []) 1).toOption.getD .empty with
    reservations := (ReservationIndex.empty [.hwAddress]).append wholeReserved }

/-- The topology in which the subnet stays clear of the reservation. -/
def reserving : Topology := reservingIn .global

/-- The reservation is read as that of the second client. -/
theorem ofConfig_reservation :
    Reservation.ofConfig .global (reservation whole) = .ok wholeReserved := by
  have identifiers : Reservation.readIdentifiers
      (Reservation.givenIdentifiers (reservation whole)) = .ok [⟨.hwAddress, [2]⟩] := by
    decide +kernel
  unfold Reservation.ofConfig
  rw [identifiers]
  rfl

/-- The topology is what its configuration is built into. -/
theorem build_reservingIn (mode : ReservationMode) :
    Topology.build (delegatingParts mode [reservation whole]) 1 = .ok (reservingIn mode) := by
  unfold Topology.build
  change (do
    let builder ← Builder.reserveAll .global (fun _ => .ok ()) ⟨.none, .empty [.hwAddress], true⟩
      [reservation whole]
    _ : Except ConfigError Topology) = _
  rw [Builder.reserveAll_singleton ofConfig_reservation]
  rfl

/-- The topology can come into force. -/
theorem accepted_reserving : reserving.Accepted :=
  .inr ⟨delegatingParts .global [reservation whole], 1, build_reservingIn .global⟩

/-- What is known of the subnet. -/
theorem of_mem_reserving : ∀ candidate ∈ (reserving.select (requestBlock 1)).candidates,
    candidate.params.reservationMode = .global ∧
      ∀ pool ∈ candidate.subnet.delegatedPools, pool.family = .v6 ∧
        pool.first.value = 2 ^ 66 ∧ pool.last.value = 2 ^ 66 + 3 * 2 ^ 64 := by decide +kernel

/-- The whole block is set aside in an attempt of the first client. -/
theorem isSetAside_whole {now : Instant} {attempt : Attempt}
    (serves : Serves reserving (requestBlock 1) .commit now attempt) :
    attempt.IsSetAside reserving whole := by
  have mode := (of_mem_reserving attempt.candidate serves.selected).1
  refine ⟨.global, ?_, wholeReserved, ?_, rfl, ?_, ?_⟩
  · unfold Attempt.protectedScope?
    rw [mode]
    rfl
  · change wholeReserved ∈ #[].push wholeReserved
    simp
  · rw [serves.request_eq]
    decide
  · decide

/-- The first client has no reservation. -/
theorem lookup_reserving : reserving.reservations.lookup .global (client 1) = none := by
  change ((ReservationIndex.empty [.hwAddress]).append wholeReserved).lookup .global (client 1) =
    none
  simp [ReservationIndex.lookup, ReservationIndex.append, ReservationIndex.empty, wholeReserved,
    client, ClientIdentifiers.identifier?, ClientIdentifiers.get?]

/-- The second part of the block is available to the first client. -/
theorem isAvailable_reserving {now : Instant} {attempt : Attempt}
    (serves : Serves reserving (requestBlock 1) .commit now attempt) :
    attempt.IsAvailable reserving .none .empty ⟨.v6, 2 ^ 66 + 2 ^ 64, by decide⟩ := by
  have offered : ∀ candidate ∈ (reserving.select (requestBlock 1)).candidates,
      ∃ pool ∈ candidate.subnet.delegatedPools, pool.guard = none ∧
        pool.contains ⟨.v6, 2 ^ 66 + 2 ^ 64, by decide⟩ = true := by decide +kernel
  obtain ⟨pool, listed, unguarded, contained⟩ := offered attempt.candidate serves.selected
  refine ⟨⟨⟨pool, ?_, contained⟩, ?_⟩, rfl, nofun⟩
  · refine List.mem_filter.mpr ⟨?_, ?_⟩
    · unfold Attempt.pools
      rw [serves.request_eq]
      exact listed
    · unfold Pool.serves
      rw [unguarded]
      rfl
  · rintro ⟨scope, -, host, member, -, claimed, -⟩
    have same : host ∈ #[].push wholeReserved := member
    obtain rfl : host = wholeReserved := by simpa using same
    exact absurd claimed (by decide)

/-- No address is fixed for the first client. -/
theorem fixedTarget?_reserving {now : Instant} {attempt : Attempt}
    (serves : Serves reserving (requestBlock 1) .commit now attempt) :
    attempt.fixedTarget? reserving = none := by
  obtain ⟨mode, -⟩ := of_mem_reserving attempt.candidate serves.selected
  unfold Attempt.fixedTarget? Topology.reservation?
  rw [mode, serves.request_eq]
  change (reserving.reservations.lookup .global (client 1)).bind _ = none
  rw [lookup_reserving]
  rfl

/-- What is granted to the first client begins inside the whole block. -/
theorem contains_whole {now : Instant} {attempt : Attempt} {pool : Pool} {before : Store}
    {grant : Grant} (serves : Serves reserving (requestBlock 1) .commit now attempt)
    (sound : IsDynamicGrant reserving attempt pool before grant) :
    whole.contains grant.lease.address = true := by
  have searched := sound.searched
  unfold Attempt.pools at searched
  rw [serves.request_eq] at searched
  obtain ⟨-, known⟩ := of_mem_reserving attempt.candidate serves.selected
  obtain ⟨wide, least, most⟩ := known pool searched
  obtain ⟨family, above, below, -⟩ := Pool.of_contains sound.contained
  have bounds : whole.first.value = 2 ^ 66 ∧ whole.last.value = 2 ^ 67 - 1 := by decide
  simp only [Block.contains, bounds, Bool.and_eq_true, beq_iff_eq, decide_eq_true_iff]
  exact ⟨⟨(family.trans wide).symm, by omega⟩, by omega⟩

/-- The first client is granted a part of the whole block. -/
theorem exists_grant_inside_whole :
    ∃ grant, (State.initial.run (around 0)
        (allocate reserving (requestBlock 1) .commit none)).1 = .ok grant ∧
      grant.kind ≠ .reserved ∧ whole.contains grant.lease.address = true := by
  have part : ∀ subnet ∈ reserving.subnets,
      ∀ pool ∈ subnet.pools ++ subnet.delegatedPools, ¬ pool.spansAll := by decide +kernel
  have selected : (reserving.select (requestBlock 1)).candidates ≠ [] := by decide +kernel
  have owned : ∀ candidate ∈ (reserving.select (requestBlock 1)).candidates,
      ownerIn (requestBlock 1) candidate = some ⟨.hwAddress, [1]⟩ := by decide +kernel
  obtain ⟨candidate, listed⟩ := List.exists_mem_of_ne_nil _ selected
  obtain ⟨attempt, serves, -⟩ := exists_serves listed (owned candidate listed)
  have unreviewed : ∀ request lease mode, (around 0).review request lease mode = true :=
    fun _ _ _ => rfl
  obtain ⟨grant, granted⟩ := exists_grant_of_isAvailable State.initial accepted_reserving part
    unreviewed (fun candidate member => ⟨_, owned candidate member⟩)
    (fun attempt serves => fixedTarget?_reserving serves) serves (isAvailable_reserving serves)
  obtain ⟨owners, found, target, -, servesFound, provides⟩ :=
    exists_of_run_allocate (State.scene_run granted)
  have dynamic := provides.kind_ne_reserved (fixedTarget?_reserving servesFound)
  obtain ⟨pool, sound⟩ := provides.isDynamicGrant servesFound accepted_reserving dynamic
  exact ⟨grant, granted, dynamic, contains_whole servesFound sound⟩

end Sample

/-- The conditions can be met: the whole of a block is reserved for the second client, and the first
client is delegated a proper part of it. -/
theorem reserved_space_apart_of_first_client :
    ∃ grant given, (State.initial.run (Sample.around 0)
        (allocate Sample.reserving (Sample.requestBlock 1) .commit none)).1 = .ok grant ∧
      grant.lease.IsFor given ∧ (given.IsWithin Sample.whole ∨ Sample.whole.IsWithin given) := by
  obtain ⟨grant, granted, dynamic, inside⟩ := Sample.exists_grant_inside_whole
  obtain ⟨attempt, given, serves, -, isFor, apart⟩ :=
    reserved_space_apart Sample.accepted_reserving (Sample.around 0) State.initial granted dynamic
  refine ⟨grant, given, granted, isFor, ?_⟩
  refine (apart Sample.whole (Sample.isSetAside_whole serves)).resolve_left fun away => ?_
  rw [← isFor.first] at inside
  exact away given.first given.contains_first inside

/-- What is granted dynamically is not always apart from what is set aside for others. -/
theorem reserved_block_delegated :
    ¬ ∀ (topology : Topology) (history : List Event) (request : Request) (mode : AllocationMode)
      (limit : Option Nat) (around : Surroundings) (grant : Grant) (attempt : Attempt)
      (given block : Block), topology.Accepted →
      (∀ event ∈ history, event.around.topology = topology) →
      ((State.initial.play history).run around (allocate topology request mode limit)).1 =
        .ok grant → grant.kind ≠ .reserved →
      Serves topology request mode around.now attempt → attempt.subnet.id = grant.subnet →
      grant.lease.IsFor given → attempt.IsSetAside topology block → given.IsApart block := by
  intro apart
  obtain ⟨grant, granted, dynamic, inside⟩ := Sample.exists_grant_inside_whole
  obtain ⟨owners, attempt, target, -, serves, provides⟩ :=
    exists_of_run_allocate (State.scene_run granted)
  obtain ⟨pool, sound⟩ := provides.isDynamicGrant serves Sample.accepted_reserving dynamic
  obtain ⟨given, isFor⟩ := sound.exists_isFor Sample.accepted_reserving serves
  have away := apart Sample.reserving [] (Sample.requestBlock 1) .commit none (Sample.around 0) grant
    attempt given Sample.whole Sample.accepted_reserving
    (fun _ member => absurd member List.not_mem_nil) granted dynamic serves sound.subnet.1.symm
    isFor (Sample.isSetAside_whole serves)
  rw [← isFor.first] at inside
  exact away given.first given.contains_first inside

end Engine

end Leasehold
