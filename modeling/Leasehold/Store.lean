import Leasehold.Lease

/-!
# The lease store

The store holds at most one record per address, in the order of the addresses. A write says what its
author believes to be stored: nothing, or a record of a certain version. It takes effect only where
that is the case, and gives the record the next version; otherwise the answer is what is stored
instead. Versions start at one, so an author who was told of a version and still finds it knows that
no write came in between, unless the record was deleted and made anew.
-/
namespace Leasehold

/-- What the author of a write believes to be stored for the address. -/
inductive Expectation where
  /-- No record. -/
  | vacant
  /-- A record of the version. -/
  | version (number : Nat)
deriving DecidableEq, Repr

/-- The belief that nothing has changed since a record was read. -/
def Expectation.ofCurrent : Option Lease → Expectation
  | none => .vacant
  | some lease => .version lease.version

/-- What became of a write. -/
inductive WriteOutcome where
  /-- It took effect; this is the record as it is stored now. -/
  | committed (lease : Lease)
  /-- It did not take effect; this is what is stored instead. -/
  | conflict (found : Option Lease)
deriving DecidableEq, Repr

/-- Records in the order of their addresses. -/
def Ascending (leases : List Lease) : Prop :=
  leases.Pairwise fun left right => left.address.rank < right.address.rank

/-- Records of leases, at most one per address. -/
structure Store where
  /-- The records in the order of their addresses. -/
  leases : List Lease
  /-- No address comes twice, and a smaller one comes first. -/
  ascending : Ascending leases

namespace Store

/-- The store without records. -/
def empty : Store := ⟨[], .nil⟩

/-- Put a record in its place, instead of the one of the same address. -/
def place (lease : Lease) : List Lease → List Lease
  | [] => [lease]
  | other :: rest =>
    if lease.address.rank < other.address.rank then lease :: other :: rest
    else if lease.address.rank = other.address.rank then lease :: rest
    else other :: place lease rest

/-- Putting a record in its place brings in no other record. -/
theorem mem_of_mem_place {lease other : Lease} {leases : List Lease}
    (member : other ∈ place lease leases) : other = lease ∨ other ∈ leases := by
  induction leases with
  | nil => simpa [place] using member
  | cons head rest ih =>
    unfold place at member
    split at member
    · simpa using member
    · split at member
      · rcases List.mem_cons.mp member with rfl | inside
        · exact .inl rfl
        · exact .inr (List.mem_cons_of_mem _ inside)
      · rcases List.mem_cons.mp member with rfl | inside
        · exact .inr List.mem_cons_self
        · rcases ih inside with same | old
          · exact .inl same
          · exact .inr (List.mem_cons_of_mem _ old)

/-- A record put in its place leaves the records in order. -/
theorem ascending_place (lease : Lease) {leases : List Lease} (ordered : Ascending leases) :
    Ascending (place lease leases) := by
  induction leases with
  | nil => exact List.pairwise_singleton _ _
  | cons head rest ih =>
    obtain ⟨above, tail⟩ := List.pairwise_cons.mp ordered
    unfold place
    split
    · next before =>
      refine List.pairwise_cons.mpr ⟨fun other member => ?_, ordered⟩
      rcases List.mem_cons.mp member with rfl | inside
      · exact before
      · exact Nat.lt_trans before (above other inside)
    · split
      · next same =>
        refine List.pairwise_cons.mpr ⟨fun other member => ?_, tail⟩
        rw [same]
        exact above other member
      · next notBefore notSame =>
        refine List.pairwise_cons.mpr ⟨fun other member => ?_, ih tail⟩
        rcases mem_of_mem_place member with rfl | inside
        · omega
        · exact above other inside

/-- The store with a record in place of the one of its address. -/
def insert (store : Store) (lease : Lease) : Store :=
  ⟨place lease store.leases, ascending_place lease store.ascending⟩

/-- The store without a record for an address. -/
def erase (store : Store) (address : Address) : Store :=
  ⟨store.leases.filter (·.address ≠ address), store.ascending.filter _⟩

/-- The record of an address. -/
def get? (store : Store) (address : Address) : Option Lease :=
  store.leases.find? (·.address = address)

/-- After a record was put in its place it is the one of its address, and the others are as before.
-/
theorem find?_place (lease : Lease) (leases : List Lease) (address : Address) :
    (place lease leases).find? (·.address = address) =
      if lease.address = address then some lease else leases.find? (·.address = address) := by
  induction leases with
  | nil => by_cases wanted : lease.address = address <;> simp [place, wanted]
  | cons head rest ih =>
    unfold place
    split
    · by_cases wanted : lease.address = address <;> simp [wanted]
    · split
      · next same =>
        have address_eq := Address.rank_injective same
        by_cases wanted : lease.address = address
        · simp [wanted]
        · simp [wanted, address_eq ▸ wanted]
      · next different =>
        by_cases wanted : head.address = address
        · have other : lease.address ≠ address := fun same =>
            different (by rw [same, wanted])
          simp [wanted, other]
        · simp [wanted, ih]

/-- A store with a further record has it under its address, and the others as before. -/
theorem get?_insert (store : Store) (lease : Lease) (address : Address) :
    (store.insert lease).get? address =
      if lease.address = address then some lease else store.get? address :=
  find?_place lease store.leases address

/-- A store without the record of an address has the others as before. -/
theorem get?_erase (store : Store) (erased address : Address) :
    (store.erase erased).get? address =
      if erased = address then none else store.get? address := by
  unfold get? erase
  rw [List.find?_filter]
  split
  · next same =>
    subst same
    simp
  · next different =>
    congr 1
    funext lease
    by_cases wanted : lease.address = address
    · simp [wanted, Ne.symm different]
    · simp [wanted]

/-- Every record that is recorded against an identifier. -/
def ofOwner (store : Store) (owner : Identifier) : List Lease :=
  store.leases.filter (·.isOwnedBy owner)

/-- The version that a write gives its record, when it takes effect. -/
def nextVersion? (expected : Expectation) (current : Option Lease) : Option Nat :=
  match expected, current with
  | .vacant, none => some 1
  | .version number, some lease => if lease.version = number then some (number + 1) else none
  | _, _ => none

/-- Write a record for its address, if what is stored there is what its author believes. -/
def write (store : Store) (lease : Lease) (expected : Expectation) : WriteOutcome × Store :=
  match nextVersion? expected (store.get? lease.address) with
  | none => (.conflict (store.get? lease.address), store)
  | some version =>
    let stored := { lease with version }
    (.committed stored, store.insert stored)

/-- Delete the record of an address. The answer is the record there was. -/
def delete (store : Store) (address : Address) : Option Lease × Store :=
  match store.get? address with
  | none => (none, store)
  | some lease => (some lease, store.erase address)

/-- The records that have to be reclaimed, those that expired first coming first. -/
def scanExpired (store : Store) (most : Nat) (now : Instant) : List Lease :=
  ((store.leases.filter (·.needsReclaim now)).mergeSort
    (fun left right => left.expiresAt ≤ right.expiresAt)).take most

/-- The reclaimed records that expired before an instant. -/
def scanReclaimed (store : Store) (before : Instant) (most : Nat) : List Lease :=
  (store.leases.filter fun lease =>
    lease.state == .reclaimed && lease.expiresAt < before).take most

/-- The number of records of a subnet that are held. -/
def countActive (store : Store) (subnet : SubnetId) (now : Instant) : Nat :=
  (store.leases.filter fun lease => lease.subnet == subnet && lease.isActive now).length

end Store

end Leasehold
