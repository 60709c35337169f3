import Leasehold.Proofs.Topology.Claims

/-!
# Which reservation an identifier finds

The index finds the reservation of a client by a table of identifiers, which grows with every
reservation that is inserted. No two reservations of a scope share an identifier, so the table of an
accepted topology agrees with the reservations themselves: an identifier finds a reservation of the
scope exactly when the reservation has it (`holder?_eq_some_iff`). What an index answers about a
scope therefore follows from the reservations of that scope, whatever other scopes hold and in
whatever order all of them were inserted (`lookup_eq_of_sharesScope`,
`reservedForOther_eq_of_sharesScope`).
-/
namespace Leasehold.ReservationIndex

/-- The reservation of a scope that an identifier finds. -/
def holder? (index : ReservationIndex) (scope : Scope) (identifier : Identifier) :
    Option Reservation :=
  index.byIdentifier[(scope, identifier)]?.bind (index.hosts[·]?)

/-- A client has the reservation that the first of its identifiers finds, in the order of the index.
-/
theorem lookup_eq_findSome? (index : ReservationIndex) (scope : Scope) (ids : ClientIdentifiers) :
    index.lookup scope ids =
      index.order.findSome? fun kind => (ids.identifier? kind).bind (index.holder? scope) := rfl

/-- The table of identifiers agrees with the reservations. -/
def IsFaithful (index : ReservationIndex) : Prop :=
  ∀ scope identifier place, index.byIdentifier[(scope, identifier)]? = some place ↔
    ∃ host : Reservation, index.hosts[place]? = some host ∧ host.scope = scope ∧
      identifier ∈ host.identifiers

/-- Without reservations no identifier finds one. -/
theorem isFaithful_empty (order : List IdentifierKind) : (empty order).IsFaithful := by
  intro scope identifier place
  simp [empty]

/-- The identifiers of a reservation lead to its place, and others to where they led before. -/
theorem getElem?_insertIdentifiers (scope other : Scope) (place : Nat)
    (table : Std.HashMap (Scope × Identifier) Nat) (identifiers : List Identifier)
    (identifier : Identifier) :
    (identifiers.foldl (fun found new => found.insert (scope, new) place) table)[
        (other, identifier)]? =
      if other = scope ∧ identifier ∈ identifiers then some place
      else table[(other, identifier)]? := by
  induction identifiers generalizing table with
  | nil => simp
  | cons first rest ih =>
    rw [List.foldl_cons, ih, Std.HashMap.getElem?_insert]
    by_cases here : other = scope
    · subst here
      by_cases later : identifier ∈ rest
      · simp [later]
      · by_cases same : identifier = first
        · simp [same]
        · simp [later, same, Ne.symm same]
    · simp [here, Ne.symm here]

/-- A new reservation that shares no identifier has only identifiers that find nothing yet. -/
theorem getElem?_eq_none_of_sharedIdentifier? {index : ReservationIndex} {new : Reservation}
    (apart : index.sharedIdentifier? new = none) {identifier : Identifier}
    (member : identifier ∈ new.identifiers) :
    index.byIdentifier[(new.scope, identifier)]? = none := by
  have absent := List.findSome?_eq_none_iff.mp apart identifier member
  simpa using absent

/-- A table that agrees with the reservations goes on to do so when one is added that shares no
identifier. -/
theorem IsFaithful.append {index : ReservationIndex} (faithful : index.IsFaithful)
    {new : Reservation} (apart : index.sharedIdentifier? new = none) :
    (index.append new).IsFaithful := by
  intro scope identifier place
  have table : (index.append new).byIdentifier[(scope, identifier)]? =
      if scope = new.scope ∧ identifier ∈ new.identifiers then some index.hosts.size
      else index.byIdentifier[(scope, identifier)]? :=
    getElem?_insertIdentifiers new.scope scope _ index.byIdentifier new.identifiers identifier
  have host : (index.append new).hosts[place]? =
      if place = index.hosts.size then some new else index.hosts[place]? := Array.getElem?_push
  rw [table, host]
  by_cases named : scope = new.scope ∧ identifier ∈ new.identifiers
  · obtain ⟨rfl, member⟩ := named
    rw [if_pos ⟨rfl, member⟩]
    by_cases last : place = index.hosts.size
    · simp [last, member]
    · -- The identifier led nowhere before, so no earlier reservation of the scope has it.
      have earlier := faithful new.scope identifier place
      rw [getElem?_eq_none_of_sharedIdentifier? apart member] at earlier
      have none : ¬ ∃ host, index.hosts[place]? = some host ∧ host.scope = new.scope ∧
          identifier ∈ host.identifiers := fun found => nomatch earlier.mpr found
      simp only [last, if_false, none, iff_false, Option.some.injEq]
      exact Ne.symm last
  · rw [if_neg named, faithful scope identifier place]
    by_cases last : place = index.hosts.size
    · have beyond : index.hosts[place]? = none := by simp [last]
      have unnamed : ¬ (new.scope = scope ∧ identifier ∈ new.identifiers) :=
        fun both => named ⟨both.1.symm, both.2⟩
      simp [last, unnamed]
    · simp [last]

/-- A table agrees with the reservations after any number of them have been inserted. -/
theorem IsFaithful.extends {first last : ReservationIndex} (faithful : first.IsFaithful)
    (extended : first.Extends last) : last.IsFaithful :=
  Extends.keeps (fun apart faithful => faithful.append apart) extended faithful

/-- Where the table agrees with the reservations, an identifier finds the reservation that has it. -/
theorem IsFaithful.holder?_eq_some_iff {index : ReservationIndex} (faithful : index.IsFaithful)
    (scope : Scope) (identifier : Identifier) (host : Reservation) :
    index.holder? scope identifier = some host ↔
      host ∈ index.hosts ∧ host.scope = scope ∧ identifier ∈ host.identifiers := by
  unfold holder?
  rw [Option.bind_eq_some_iff]
  constructor
  · rintro ⟨place, led, found⟩
    obtain ⟨other, here, inScope, named⟩ := (faithful scope identifier place).mp led
    obtain rfl : other = host := Option.some.inj (here.symm.trans found)
    exact ⟨Array.mem_of_getElem? found, inScope, named⟩
  · rintro ⟨member, inScope, named⟩
    obtain ⟨place, found⟩ := Array.mem_iff_getElem?.mp member
    exact ⟨place, (faithful scope identifier place).mpr ⟨host, found, inScope, named⟩, found⟩

/-- Two indexes have the same reservations of a scope. -/
def SharesScope (left right : ReservationIndex) (scope : Scope) : Prop :=
  ∀ host : Reservation, host.scope = scope → (host ∈ left.hosts ↔ host ∈ right.hosts)

section SharesScope

variable {left right : ReservationIndex} {scope : Scope} (shares : left.SharesScope right scope)

include shares

/-- A client has one reservation in a scope, whatever else an index holds. -/
theorem lookup_eq_of_sharesScope (order : left.order = right.order) (faithful : left.IsFaithful)
    (others : right.IsFaithful) : left.lookup scope = right.lookup scope := by
  have holders : left.holder? scope = right.holder? scope := by
    funext identifier
    apply Option.ext
    intro host
    rw [faithful.holder?_eq_some_iff, others.holder?_eq_some_iff]
    exact and_congr_left fun ⟨inScope, _⟩ => shares host inScope
  funext ids
  rw [lookup_eq_findSome?, lookup_eq_findSome?, order, holders]

/-- An address of a scope is reserved for another client or not, whatever else an index holds. -/
theorem reservedForOther_eq_of_sharesScope (consistent : left.IsConsistent)
    (others : right.IsConsistent) : left.reservedForOther scope = right.reservedForOther scope := by
  funext address ids
  rw [Bool.eq_iff_iff, consistent.reservedForOther_iff, others.reservedForOther_iff]
  constructor
  · rintro ⟨host, member, foreign⟩
    exact ⟨host, (shares host foreign.1).mp member, foreign⟩
  · rintro ⟨host, member, foreign⟩
    exact ⟨host, (shares host foreign.1).mpr member, foreign⟩

end SharesScope

end Leasehold.ReservationIndex
