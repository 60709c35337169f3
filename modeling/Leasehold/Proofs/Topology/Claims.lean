import Leasehold.Engine.Attempt
import Leasehold.Proofs.Topology.Accepted

/-!
# Which reservations claim an address

The index of reservations finds those that claim an address by a table, which grows with every
reservation that is inserted. In an accepted topology the table agrees with the reservations
themselves: an address is kept for someone else exactly when a reservation of the scope claims it
and does not belong to the client (`isKeptForOther_iff`).
-/
namespace Leasehold

namespace ReservationIndex

/-- A reservation of the scope claims the address, and is that of another client. -/
def IsForeign (scope : Scope) (address : Address) (ids : ClientIdentifiers) (host : Reservation) :
    Prop :=
  host.scope = scope ∧ address ∈ host.claimed ∧ host.belongsTo ids = false

/-- The table of claims agrees with the reservations. -/
def IsConsistent (index : ReservationIndex) : Prop :=
  ∀ scope address place, place ∈ index.claims scope address ↔
    ∃ host, index.hosts[place]? = some host ∧ host.scope = scope ∧ address ∈ host.claimed

/-- Without reservations nothing is claimed. -/
theorem isConsistent_empty (order : List IdentifierKind) : (empty order).IsConsistent := by
  intro scope address place
  simp [claims, empty]

/-- A claim adds the place of its reservation to those of its address. -/
theorem mem_addClaim_iff (scope other : Scope) (place found : Nat)
    (table : Std.HashMap (Scope × Address) (List Nat)) (claimed address : Address) :
    found ∈ ((addClaim scope place table claimed)[(other, address)]?).getD [] ↔
      found ∈ (table[(other, address)]?).getD [] ∨
        found = place ∧ other = scope ∧ address = claimed := by
  unfold addClaim
  rw [Std.HashMap.getElem?_insert]
  by_cases same : (scope, claimed) = (other, address)
  · obtain ⟨rfl, rfl⟩ := Prod.mk.inj same
    simp
  · have apart : ¬ (other = scope ∧ address = claimed) := by
      rintro ⟨rfl, rfl⟩
      exact same rfl
    rw [if_neg (by simpa using same)]
    simp [apart]

/-- The claims of a reservation add its place to those of all its addresses. -/
theorem mem_addClaims_iff (scope other : Scope) (place found : Nat)
    (table : Std.HashMap (Scope × Address) (List Nat)) (claimed : List Address)
    (address : Address) :
    found ∈ ((claimed.foldl (addClaim scope place) table)[(other, address)]?).getD [] ↔
      found ∈ (table[(other, address)]?).getD [] ∨
        found = place ∧ other = scope ∧ address ∈ claimed := by
  induction claimed generalizing table with
  | nil => simp
  | cons first rest ih =>
    rw [List.foldl_cons, ih, mem_addClaim_iff, List.mem_cons, or_assoc]
    apply or_congr_right
    constructor
    · rintro (⟨here, inScope, same⟩ | ⟨here, inScope, later⟩)
      · exact ⟨here, inScope, .inl same⟩
      · exact ⟨here, inScope, .inr later⟩
    · rintro ⟨here, inScope, same | later⟩
      · exact .inl ⟨here, inScope, same⟩
      · exact .inr ⟨here, inScope, later⟩

/-- A table that agrees with the reservations goes on to do so when one more is added. -/
theorem IsConsistent.append {index : ReservationIndex} (consistent : index.IsConsistent)
    (new : Reservation) : (index.append new).IsConsistent := by
  intro scope address place
  have claims : place ∈ (index.append new).claims scope address ↔
      place ∈ index.claims scope address ∨
        place = index.hosts.size ∧ scope = new.scope ∧ address ∈ new.claimed :=
    mem_addClaims_iff new.scope scope index.hosts.size place index.byAddress new.claimed address
  have host : (index.append new).hosts[place]? =
      if place = index.hosts.size then some new else index.hosts[place]? := Array.getElem?_push
  rw [claims, host, consistent scope address place]
  by_cases last : place = index.hosts.size
  · have beyond : index.hosts[place]? = none := by simp [last]
    simp [last, eq_comm]
  · simp [last]

/-- A table agrees with the reservations after any number of them have been inserted. -/
theorem IsConsistent.extends {first last : ReservationIndex} (consistent : first.IsConsistent)
    (extended : first.Extends last) : last.IsConsistent :=
  Extends.keeps (fun _ consistent => consistent.append _) extended consistent

/-- Where the table agrees with the reservations, an address is reserved for another client when a
reservation says so. -/
theorem IsConsistent.reservedForOther_iff {index : ReservationIndex}
    (consistent : index.IsConsistent) (scope : Scope) (address : Address)
    (ids : ClientIdentifiers) :
    index.reservedForOther scope address ids = true ↔
      ∃ host ∈ index.hosts, IsForeign scope address ids host := by
  unfold reservedForOther
  rw [List.any_eq_true]
  constructor
  · rintro ⟨place, claimed, foreign⟩
    obtain ⟨host, found, inScope, claims⟩ := (consistent scope address place).mp claimed
    rw [found] at foreign
    have other : host.belongsTo ids = false := by simpa using foreign
    exact ⟨host, Array.mem_of_getElem? found, inScope, claims, other⟩
  · rintro ⟨host, member, inScope, claims, other⟩
    obtain ⟨place, found⟩ := Array.mem_iff_getElem?.mp member
    refine ⟨place, (consistent scope address place).mpr ⟨host, found, inScope, claims⟩, ?_⟩
    simp [found, other]

end ReservationIndex

/-- The address is kept for another client: a reservation in the scope that the mode of the subnet
protects claims it, and does not belong to the client. -/
def Attempt.IsReservedForOther (attempt : Attempt) (topology : Topology) (address : Address) :
    Prop :=
  ∃ scope, attempt.protectedScope? = some scope ∧
    ∃ host ∈ topology.reservations.hosts,
      ReservationIndex.IsForeign scope address attempt.request.identifiers host

/-- An attempt in an accepted topology keeps clear of an address exactly when it is reserved for
another client. -/
theorem Attempt.isKeptForOther_iff {topology : Topology} (accepted : topology.Accepted)
    (attempt : Attempt) (address : Address) :
    attempt.isKeptForOther topology address = true ↔
      attempt.IsReservedForOther topology address := by
  obtain ⟨order, extended⟩ := accepted.isBuilt.reservations
  have consistent : topology.reservations.IsConsistent :=
    (ReservationIndex.isConsistent_empty order).extends extended
  unfold isKeptForOther IsReservedForOther
  cases attempt.protectedScope? with
  | none => simp
  | some scope =>
    rw [consistent.reservedForOther_iff]
    simp

end Leasehold
