import Leasehold.Proofs.Engine.Dynamic
import Leasehold.Proofs.Store.Scan

/-!
# Leases that a client holds

An attempt begins with the addresses of the leases that its client holds in the subnet, of the kind
that it asks for, in the order of the addresses. Such a lease can be renewed when nothing is locked,
a pool that the client may use contains its address, and the address is not reserved for another
client. The attempt then renews the first of the leases that can be renewed
(`exists_first_of_holds`).
-/
namespace Leasehold

open Engine (Surroundings Scene firstAdmitted)

namespace Store

/-- The leases recorded against some identifiers are the records with one of them as owner. -/
theorem mem_flatMap_ofOwner_iff (store : Store) (owners : List Identifier) (lease : Lease) :
    lease ∈ owners.flatMap store.ofOwner ↔ store.get? lease.address = some lease ∧
      ∃ owner ∈ owners, lease.owner = some owner := by
  rw [List.mem_flatMap, ← mem_leases_iff]
  constructor
  · rintro ⟨owner, listed, member⟩
    obtain ⟨stored, owned⟩ := List.mem_filter.mp member
    exact ⟨stored, owner, listed, by simpa [Lease.isOwnedBy] using owned⟩
  · rintro ⟨stored, owner, listed, owned⟩
    exact ⟨owner, listed, List.mem_filter.mpr ⟨stored, by simp [Lease.isOwnedBy, owned]⟩⟩

end Store

/-- A lease is held as long as it is active and not over. -/
theorem Lease.isActive_iff (lease : Lease) (now : Instant) :
    lease.isActive now = true ↔ lease.state = .active ∧ now < lease.expiresAt := by
  unfold isActive isExpired
  rw [Bool.and_eq_true, beq_iff_eq, Bool.not_eq_true', decide_eq_false_iff_not, Nat.not_le]

namespace Attempt

/-- The client holds the lease in the subnet of the attempt, and it is of the kind asked for. -/
structure Holds (attempt : Attempt) (store : Store) (lease : Lease) : Prop where
  /-- The lease is stored. -/
  stored : store.get? lease.address = some lease
  /-- It is held at the instant of the attempt. -/
  active : lease.isActive attempt.now = true
  /-- It is recorded against the client. -/
  owned : lease.owner = some attempt.owner
  /-- It belongs to the subnet. -/
  subnet : lease.subnet = attempt.subnet.id
  /-- It is of the kind that the client asks for. -/
  kind : attempt.isSameKind lease = true

/-- The addresses of the leases that the client holds, as far as it may use them. -/
def renewals (attempt : Attempt) (leases : List Lease) : List Target :=
  (((attempt.ownLeases leases).filter (·.isActive attempt.now)).map (·.address)).filterMap
    attempt.target?

variable {attempt : Attempt} {store : Store} {owners : List Identifier}

/-- The record of a lease which the client itself holds leaves it the address. -/
theorem standing_of_held {lease : Lease} (active : lease.isActive attempt.now = true)
    (owned : lease.owner = some attempt.owner) : attempt.standing (some lease) = .held := by
  have blocks : lease.blocks attempt.now = true := Engine.blocks_of_isActive active
  obtain ⟨state, -⟩ := (lease.isActive_iff attempt.now).mp active
  simp [standing, blocks, state, Lease.isOwnedBy, owned]

/-- Where nothing is locked, a lease that the client holds is in the way of nothing but a
reservation. -/
theorem Holds.admits {topology : Topology} {scene : Scene} (unlocked : scene.locks = .none)
    {lease : Lease} (holds : attempt.Holds scene.store lease) :
    attempt.admits topology scene lease.address =
      !attempt.isKeptForOther topology lease.address := by
  have held := standing_of_held holds.active holds.owned
  simp [Attempt.admits, unlocked, AddressLocks.isLocked, AddressLocks.none, mayHave,
    holds.stored, held]

/-- What the client holds is found among the leases that are read for it. -/
theorem mem_held_iff (listed : attempt.owner ∈ owners) (lease : Lease) :
    lease ∈ (attempt.ownLeases (owners.flatMap store.ofOwner)).filter (·.isActive attempt.now) ↔
      attempt.Holds store lease := by
  unfold ownLeases
  rw [List.mem_filter, List.mem_filter, Store.mem_flatMap_ofOwner_iff]
  constructor
  · rintro ⟨⟨⟨stored, -⟩, own⟩, active⟩
    obtain ⟨⟨subnet, owned⟩, kind⟩ : (lease.subnet = attempt.subnet.id ∧
        lease.owner = some attempt.owner) ∧ attempt.isSameKind lease = true := by
      simpa [Lease.isOwnedBy] using own
    exact ⟨stored, active, owned, subnet, kind⟩
  · intro holds
    refine ⟨⟨⟨holds.stored, attempt.owner, listed, holds.owned⟩, ?_⟩, holds.active⟩
    simp [Lease.isOwnedBy, holds.owned, holds.subnet, holds.kind]

/-- The leases of the client in a subnet are in the order of their addresses: they are recorded
against one identifier, under which they are read once. -/
theorem ascending_ownLeases (attempt : Attempt) (store : Store) (distinct : owners.Nodup) :
    Ascending (attempt.ownLeases (owners.flatMap store.ofOwner)) := by
  unfold ownLeases Ascending
  rw [List.filter_flatMap, List.pairwise_flatMap]
  constructor
  · intro owner listed
    exact (store.ascending.filter _).filter _
  · refine distinct.imp fun {first second} different left inFirst right inSecond => ?_
    obtain ⟨ofFirst, ownLeft⟩ := List.mem_filter.mp inFirst
    obtain ⟨ofSecond, ownRight⟩ := List.mem_filter.mp inSecond
    have owner {lease : Lease} {identifier : Identifier}
        (found : lease ∈ store.ofOwner identifier)
        (own : (lease.subnet == attempt.subnet.id && lease.isOwnedBy attempt.owner &&
          attempt.isSameKind lease) = true) : identifier = attempt.owner := by
      have recorded := (List.mem_filter.mp found).2
      simp only [Lease.isOwnedBy, beq_iff_eq, Bool.and_eq_true] at recorded own
      exact Option.some.inj (recorded.symm.trans own.1.2)
    exact absurd ((owner ofFirst ownLeft).trans (owner ofSecond ownRight).symm) different

/-- An address of a pool is recorded under itself. -/
theorem address_of_target? {address : Address} {target : Target}
    (found : attempt.target? address = some target) : target.address = address := by
  obtain ⟨pool, -, rfl, -⟩ := exists_pool_of_target? found
  rfl

/-- The addresses of the leases that the client holds come in their order. -/
theorem ascending_renewals (attempt : Attempt) (store : Store) (distinct : owners.Nodup) :
    (attempt.renewals (owners.flatMap store.ofOwner)).Pairwise fun left right =>
      left.address.rank < right.address.rank := by
  unfold renewals
  rw [List.pairwise_filterMap, List.pairwise_map]
  refine ((attempt.ascending_ownLeases store distinct).filter _).imp ?_
  intro left right below first foundFirst second foundSecond
  rw [address_of_target? foundFirst, address_of_target? foundSecond]
  exact below

/-- The addresses of the leases that the client holds are suggested before all others. -/
theorem exists_suggestions (attempt : Attempt) (leases : List Lease) :
    ∃ others, attempt.suggestions leases = attempt.renewals leases ++ others := by
  unfold suggestions
  dsimp only
  rw [List.append_assoc, List.filterMap_append]
  exact ⟨_, rfl⟩

end Attempt

namespace Engine

variable {topology : Topology} {attempt : Attempt} {scene : Scene} {owners : List Identifier}

/-- The client holds a lease in a subnet when a record says so that has one of its owners. -/
theorem holdsIn_iff (store : Store) (owners : List Identifier) (now : Instant)
    (candidate : Candidate) :
    holdsIn (owners.flatMap store.ofOwner) now candidate = true ↔
      ∃ lease, store.get? lease.address = some lease ∧ lease.isActive now = true ∧
        lease.subnet = candidate.subnet.id ∧ ∃ owner ∈ owners, lease.owner = some owner := by
  unfold holdsIn
  rw [List.any_eq_true]
  constructor
  · rintro ⟨lease, member, held⟩
    obtain ⟨subnet, active⟩ := (Bool.and_eq_true _ _).mp held
    obtain ⟨stored, owned⟩ := (store.mem_flatMap_ofOwner_iff owners lease).mp member
    exact ⟨lease, stored, active, beq_iff_eq.mp subnet, owned⟩
  · rintro ⟨lease, stored, active, subnet, owned⟩
    refine ⟨lease, (store.mem_flatMap_ofOwner_iff owners lease).mpr ⟨stored, owned⟩, ?_⟩
    simp [subnet, active]

/-- When a lease of the client can be renewed, the attempt finds the address of such a lease, and one
that comes no later. -/
theorem exists_first_of_holds (around : Surroundings) (limit : Option Nat)
    (distinct : owners.Nodup) (listed : attempt.owner ∈ owners) {lease : Lease}
    (holds : attempt.Holds scene.store lease) {target : Target}
    (usable : attempt.target? lease.address = some target)
    (admitted : attempt.admits topology scene lease.address = true) :
    ∃ first found, firstAdmitted topology attempt scene
        (attempt.trials around scene.cursors limit (owners.flatMap scene.store.ofOwner)) =
          some found ∧
      attempt.Holds scene.store first ∧ attempt.target? first.address = some found ∧
      attempt.admits topology scene first.address = true ∧
      first.address.rank ≤ lease.address.rank := by
  let renewals := attempt.renewals (owners.flatMap scene.store.ofOwner)
  have member : target ∈ renewals := by
    refine List.mem_filterMap.mpr ⟨lease.address, List.mem_map_of_mem ?_, usable⟩
    exact (Attempt.mem_held_iff listed lease).mpr holds
  have placed : target.address = lease.address := Attempt.address_of_target? usable
  have admittedTarget : attempt.admits topology scene target.address = true := by
    rw [placed]
    exact admitted
  cases found : firstAdmitted topology attempt scene renewals with
  | none => exact absurd admittedTarget (List.find?_eq_none.mp found target member)
  | some candidate =>
    obtain ⟨admittedFirst, before, after, split, refused⟩ :=
      List.find?_eq_some_iff_append.mp found
    have inside : candidate ∈ renewals := List.mem_of_find?_eq_some found
    obtain ⟨address, held, usableFirst⟩ := List.mem_filterMap.mp inside
    obtain ⟨first, heldFirst, rfl⟩ := List.mem_map.mp held
    have placedFirst : candidate.address = first.address :=
      Attempt.address_of_target? usableFirst
    refine ⟨first, candidate, ?_, (Attempt.mem_held_iff listed first).mp heldFirst, usableFirst,
      ?_, ?_⟩
    · obtain ⟨others, suggested⟩ :=
        attempt.exists_suggestions (owners.flatMap scene.store.ofOwner)
      unfold Attempt.trials firstAdmitted
      rw [suggested, List.append_assoc, List.find?_append]
      change (firstAdmitted topology attempt scene renewals).or _ = _
      rw [found, Option.some_or]
    · rw [← placedFirst]
      exact admittedFirst
    · -- The target is not among those before the first, all of which are refused.
      have ascending : renewals.Pairwise fun left right =>
          left.address.rank < right.address.rank :=
        attempt.ascending_renewals scene.store distinct
      rw [split] at member ascending
      rw [← placedFirst, ← placed]
      rcases List.mem_append.mp member with early | late
      · have passed := refused target early
        rw [admittedTarget] at passed
        exact nomatch passed
      · rcases List.mem_cons.mp late with rfl | later
        · exact Nat.le_refl _
        · obtain ⟨-, tail, -⟩ := List.pairwise_append.mp ascending
          exact Nat.le_of_lt ((List.pairwise_cons.mp tail).1 target later)

end Engine

end Leasehold
