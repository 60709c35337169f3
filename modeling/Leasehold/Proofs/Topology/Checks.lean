import Mathlib.Logic.Relation
import Leasehold.Topology.Build

/-!
# Checking subnets one after another

Subnets are checked one after another, those of shared networks last, and their reservations are
collected on the way. What was checked and what was collected is the same for each way of checking
them (`Builder.Checks`): every configured subnet became one, and the reservations of each were read
in its scope. Reservations decide about nothing else. A subnet that passes the check passes it
without its reservations too, whatever was collected before.
-/
namespace Leasehold

/-- What goes on from a success was reached from one. -/
theorem ok_of_bind {ε α β : Type} {first : Except ε α} {rest : α → Except ε β} {result : β}
    (ok : (first >>= rest) = .ok result) :
    ∃ middle, first = .ok middle ∧ rest middle = .ok result := by
  cases first with
  | error error => exact nomatch ok
  | ok middle => exact ⟨middle, rfl, ok⟩

/-- A success goes on. -/
theorem bind_of_ok {ε α β : Type} {first : Except ε α} {middle : α} (ok : first = .ok middle)
    (rest : α → Except ε β) : (first >>= rest) = rest middle := by
  rw [ok]
  rfl

namespace Config

/-- The subnet without its reservations. -/
def Subnet.withoutReservations (entry : Subnet) : Subnet := { entry with reservations := [] }

/-- The shared network without the reservations of its subnets. -/
def Network.withoutReservations (entry : Network) : Network :=
  { entry with subnets := entry.subnets.map Subnet.withoutReservations }

end Config

/-- The parameters are those of a level of a configuration. -/
def Params.IsConfigured (params : Params) : Prop := ∃ entry, params = .ofConfig entry

/-- The subnet is one that checking a configured subnet has led to. -/
def Subnet.IsBuilt (subnet : Subnet) : Prop :=
  ∃ (builder : Builder) (network : Option String) (entry : Config.Subnet) (next : Builder),
    builder.subnet network entry = .ok (subnet, next)

namespace Reservation

/-- The reservation is what one of the configured ones is read as. -/
def IsRead (scope : Scope) (entries : List Config.Reservation) (host : Reservation) : Prop :=
  ∃ entry ∈ entries, ofConfig scope entry = .ok host

/-- A reservation belongs to the scope that it was read in. -/
theorem IsRead.scope_eq {scope : Scope} {entries : List Config.Reservation} {host : Reservation}
    (read : host.IsRead scope entries) : host.scope = scope := by
  obtain ⟨entry, -, read⟩ := read
  unfold ofConfig at read
  split at read
  · exact nomatch read
  · exact nomatch read
  · cases read
    rfl

end Reservation

namespace ReservationIndex

/-- A reservation was inserted into an index. -/
def Inserts (before after : ReservationIndex) : Prop :=
  ∃ new uniqueAddresses, before.insert new uniqueAddresses = .ok after

/-- What is inserted shares no identifier with another reservation, and is added as it is. -/
theorem of_insert {before after : ReservationIndex} {new : Reservation} {uniqueAddresses : Bool}
    (inserted : before.insert new uniqueAddresses = .ok after) :
    before.sharedIdentifier? new = none ∧ after = before.append new := by
  unfold insert at inserted
  split at inserted
  · exact nomatch inserted
  · next apart =>
    split at inserted
    · exact nomatch inserted
    · exact ⟨apart, (Except.ok.inj inserted).symm⟩

/-- Any number of reservations were inserted into an index. -/
abbrev Extends : ReservationIndex → ReservationIndex → Prop := Relation.ReflTransGen Inserts

/-- What adding one reservation that shares no identifier keeps, inserting any number of them keeps.
-/
theorem Extends.keeps {motive : ReservationIndex → Prop}
    (append : ∀ {index new}, index.sharedIdentifier? new = none → motive index →
      motive (index.append new))
    {first last : ReservationIndex} (extended : first.Extends last) (holds : motive first) :
    motive last := by
  induction extended with
  | refl => exact holds
  | tail _ inserted ih =>
    obtain ⟨new, uniqueAddresses, inserted⟩ := inserted
    obtain ⟨apart, rfl⟩ := of_insert inserted
    exact append apart ih

/-- The order in which kinds of identifiers are tried stays as it is. -/
theorem Extends.order_eq {first last : ReservationIndex} (extended : first.Extends last) :
    last.order = first.order :=
  keeps (motive := fun index => index.order = first.order) (fun _ same => same) extended rfl

end ReservationIndex

namespace Builder

/-- Such reservations, and no others, were collected. -/
structure Collects (builder next : Builder) (collected : Reservation → Prop) : Prop where
  /-- They were inserted one by one. -/
  extended : builder.reservations.Extends next.reservations
  /-- They were added to those collected before. -/
  hosts : ∀ host, host ∈ next.reservations.hosts ↔
    host ∈ builder.reservations.hosts ∨ collected host

/-- Some reservations may be collected after others. -/
theorem Collects.trans {builder middle next : Builder} {first others : Reservation → Prop}
    (before : builder.Collects middle first) (after : middle.Collects next others) :
    builder.Collects next fun host => first host ∨ others host where
  extended := before.extended.trans after.extended
  hosts host := by rw [after.hosts host, before.hosts host, or_assoc]

/-- The same reservations may be described in another way. -/
theorem Collects.congr {builder next : Builder} {collected described : Reservation → Prop}
    (collects : builder.Collects next collected) (same : ∀ host, collected host ↔ described host) :
    builder.Collects next described :=
  ⟨collects.extended, fun host => (collects.hosts host).trans (or_congr_right (same host))⟩

/-- Without reservations nothing is collected. -/
theorem Collects.none {builder : Builder} {collected : Reservation → Prop}
    (nothing : ∀ host, ¬ collected host) : builder.Collects builder collected :=
  ⟨.refl, fun host => by simp [nothing host]⟩

/-- Collecting a reservation adds it, and nothing else changes. -/
theorem collects_of_reserve {builder next : Builder} {reservation : Reservation}
    (reserved : builder.reserve reservation = .ok next) :
    builder.Collects next (· = reservation) ∧
      next = { builder with reservations := next.reservations } := by
  unfold reserve at reserved
  split at reserved
  · exact nomatch reserved
  · next index inserted =>
    cases reserved
    refine ⟨⟨.single ⟨reservation, builder.uniqueAddresses, inserted⟩, fun host => ?_⟩, rfl⟩
    obtain ⟨-, rfl⟩ := ReservationIndex.of_insert inserted
    exact Array.mem_push

/-- Collecting the reservations of a scope adds those that the configured ones are read as. -/
theorem collects_of_reserveAll {scope : Scope} {inside : Reservation → Except ConfigError Unit}
    {builder next : Builder} {entries : List Config.Reservation}
    (built : builder.reserveAll scope inside entries = .ok next) :
    builder.Collects next (Reservation.IsRead scope entries) ∧
      next = { builder with reservations := next.reservations } := by
  induction entries generalizing builder with
  | nil =>
    cases built
    exact ⟨.none fun host => by simp [Reservation.IsRead], rfl⟩
  | cons entry rest ih =>
    unfold reserveAll at built
    split at built
    · exact nomatch built
    · next reservation read =>
      split at built
      · exact nomatch built
      · split at built
        · exact nomatch built
        · next after reserved =>
          obtain ⟨first, kept⟩ := collects_of_reserve reserved
          obtain ⟨others, keptOthers⟩ := ih built
          refine ⟨(first.trans others).congr fun host => ?_, ?_⟩
          · simp [Reservation.IsRead, read, eq_comm]
          · rw [keptOthers, kept]

/-- Configured subnets were checked one after another, and their reservations were collected. -/
structure Checks (builder next : Builder) (entries : List Config.Subnet) (subnets : List Subnet) :
    Prop where
  /-- Each of the subnets was checked. -/
  built : ∀ subnet ∈ subnets, subnet.IsBuilt
  /-- Each configured subnet became one. -/
  length : subnets.length = entries.length
  /-- The reservations of each were collected in its scope. -/
  collects : builder.Collects next fun host =>
    ∃ pair ∈ subnets.zip entries, host.IsRead (.subnet pair.1.id) pair.2.reservations

/-- Without subnets nothing is collected. -/
theorem Checks.nil (builder : Builder) : builder.Checks builder [] [] :=
  ⟨fun _ member => absurd member List.not_mem_nil, rfl, .none fun host => by simp⟩

/-- More subnets may be checked after some. -/
theorem Checks.append {builder middle next : Builder} {entries later : List Config.Subnet}
    {first others : List Subnet} (before : builder.Checks middle entries first)
    (after : middle.Checks next later others) :
    builder.Checks next (entries ++ later) (first ++ others) where
  built subnet member := by
    rcases List.mem_append.mp member with early | late
    · exact before.built subnet early
    · exact after.built subnet late
  length := by rw [List.length_append, List.length_append, before.length, after.length]
  collects := by
    refine (before.collects.trans after.collects).congr fun host => ?_
    rw [List.zip_append before.length]
    simp only [List.mem_append, or_and_right, exists_or]

/-- A subnet is checked as it is without its reservations, whatever was collected before. -/
theorem checks_of_subnet {builder next : Builder} {network : Option String}
    {entry : Config.Subnet} {subnet : Subnet}
    (built : builder.subnet network entry = .ok (subnet, next)) :
    builder.Checks next [entry] [subnet] ∧ ∀ index,
      Builder.subnet { builder with reservations := index } network entry.withoutReservations =
        .ok (subnet, { next with reservations := index }) := by
  have checked : subnet.IsBuilt := ⟨builder, network, entry, next, built⟩
  obtain ⟨⟨id, ids⟩, assigned, built⟩ := ok_of_bind built
  obtain ⟨pools, readPools, built⟩ := ok_of_bind built
  obtain ⟨delegated, readDelegated, built⟩ := ok_of_bind built
  obtain ⟨_, apart, built⟩ := ok_of_bind built
  obtain ⟨_, delegatedApart, built⟩ := ok_of_bind built
  obtain ⟨after, reserved, built⟩ := ok_of_bind built
  obtain ⟨collects, kept⟩ := collects_of_reserveAll reserved
  cases built
  refine ⟨⟨by simpa using checked, rfl, ?_⟩, fun index => ?_⟩
  · have same : builder.Collects next _ := ⟨collects.extended, collects.hosts⟩
    exact same.congr fun host => by simp
  · -- No check of a subnet reads what was collected before; it only passes through.
    rw [kept]
    refine (bind_of_ok assigned _).trans ?_
    refine (bind_of_ok readPools _).trans ?_
    refine (bind_of_ok readDelegated _).trans ?_
    refine (bind_of_ok apart _).trans ?_
    exact (bind_of_ok delegatedApart _).trans rfl

/-- Subnets are checked as they are without their reservations. -/
theorem checks_of_subnets {builder next : Builder} {entries : List Config.Subnet}
    {subnets : List Subnet} (built : builder.subnets entries = .ok (subnets, next)) :
    builder.Checks next entries subnets ∧ ∀ index,
      Builder.subnets { builder with reservations := index }
          (entries.map Config.Subnet.withoutReservations) =
        .ok (subnets, { next with reservations := index }) := by
  induction entries generalizing builder next subnets with
  | nil =>
    cases built
    exact ⟨.nil builder, fun index => rfl⟩
  | cons entry rest ih =>
    obtain ⟨⟨first, middle⟩, builtFirst, built⟩ := ok_of_bind built
    obtain ⟨⟨others, last⟩, builtOthers, built⟩ := ok_of_bind built
    cases built
    obtain ⟨checks, bare⟩ := checks_of_subnet builtFirst
    obtain ⟨checksOthers, bareOthers⟩ := ih builtOthers
    refine ⟨checks.append checksOthers, fun index => ?_⟩
    refine (bind_of_ok (bare index) _).trans ?_
    exact (bind_of_ok (bareOthers index) _).trans rfl

/-- The subnets of a shared network are checked as they are without their reservations. -/
theorem checks_of_members {builder next : Builder} {network : String} {authoritative : Bool}
    {expected : Option String} {entries : List Config.Subnet} {subnets : List Subnet}
    (built : builder.members network authoritative expected entries = .ok (subnets, next)) :
    builder.Checks next entries subnets ∧ ∀ index,
      Builder.members { builder with reservations := index } network authoritative expected
          (entries.map Config.Subnet.withoutReservations) =
        .ok (subnets, { next with reservations := index }) := by
  induction entries generalizing builder next expected subnets with
  | nil =>
    cases built
    exact ⟨.nil builder, fun index => rfl⟩
  | cons entry rest ih =>
    obtain ⟨⟨first, middle⟩, builtFirst, built⟩ := ok_of_bind built
    obtain ⟨_, agreed, built⟩ := ok_of_bind built
    obtain ⟨_, authorised, built⟩ := ok_of_bind built
    obtain ⟨⟨others, last⟩, builtOthers, built⟩ := ok_of_bind built
    cases built
    obtain ⟨checks, bare⟩ := checks_of_subnet builtFirst
    obtain ⟨checksOthers, bareOthers⟩ := ih builtOthers
    refine ⟨checks.append checksOthers, fun index => ?_⟩
    refine (bind_of_ok (bare index) _).trans ?_
    refine (bind_of_ok agreed _).trans ?_
    refine (bind_of_ok authorised _).trans ?_
    exact (bind_of_ok (bareOthers index) _).trans rfl

/-- A shared network is checked as it is without the reservations of its subnets. -/
theorem checks_of_network {builder next : Builder} {global : Params} {names : List String}
    {entry : Config.Network} {network : Network}
    (built : builder.network global names entry = .ok (network, next)) :
    network.params.IsConfigured ∧ builder.Checks next entry.subnets network.subnets ∧ ∀ index,
      Builder.network { builder with reservations := index } global names
          entry.withoutReservations =
        .ok (network, { next with reservations := index }) := by
  unfold Builder.network at built
  split at built
  · exact nomatch built
  · next named =>
    split at built
    · exact nomatch built
    · next fresh =>
      obtain ⟨⟨subnets, last⟩, builtMembers, built⟩ := ok_of_bind built
      cases built
      obtain ⟨checks, bare⟩ := checks_of_members builtMembers
      refine ⟨⟨entry.params, rfl⟩, checks, fun index => ?_⟩
      refine (if_neg named).trans ((if_neg fresh).trans ?_)
      exact (bind_of_ok (bare index) _).trans rfl

/-- Shared networks are checked as they are without the reservations of their subnets. -/
theorem checks_of_networks {builder next : Builder} {global : Params} {names : List String}
    {entries : List Config.Network} {networks : List Network}
    (built : builder.networks global names entries = .ok (networks, next)) :
    (∀ network ∈ networks, network.params.IsConfigured) ∧
      builder.Checks next (entries.flatMap (·.subnets)) (networks.flatMap (·.subnets)) ∧
      ∀ index,
        Builder.networks { builder with reservations := index } global names
            (entries.map Config.Network.withoutReservations) =
          .ok (networks, { next with reservations := index }) := by
  induction entries generalizing builder next names networks with
  | nil =>
    cases built
    exact ⟨fun _ member => absurd member List.not_mem_nil, .nil builder, fun index => rfl⟩
  | cons entry rest ih =>
    obtain ⟨⟨first, middle⟩, builtFirst, built⟩ := ok_of_bind built
    obtain ⟨⟨others, last⟩, builtOthers, built⟩ := ok_of_bind built
    cases built
    obtain ⟨configured, checks, bare⟩ := checks_of_network builtFirst
    obtain ⟨configuredOthers, checksOthers, bareOthers⟩ := ih builtOthers
    refine ⟨?_, checks.append checksOthers, fun index => ?_⟩
    · intro network member
      rcases List.mem_cons.mp member with rfl | other
      · exact configured
      · exact configuredOthers network other
    · refine (bind_of_ok (bare index) _).trans ?_
      exact (bind_of_ok (bareOthers index) _).trans rfl

end Builder

end Leasehold
