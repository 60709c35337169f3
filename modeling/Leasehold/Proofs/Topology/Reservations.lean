import Leasehold.Proofs.Topology.Holders

/-!
# What reservations add to a topology

A configuration that is accepted is accepted without its reservations too, and the topology is then
the same but for the reservations in it (`build_withoutReservations`). The reservations of a built
topology are the configured ones, those of each subnet in the scope of its number (`mem_hosts_iff`).
Two topologies whose configurations differ in their reservations only are therefore the same in
everything else (`eq_of_withoutReservations_eq`), and where the configurations have the same
reservations in a scope, so have the topologies (`sharesScope_of_reservationsIn`).
-/
namespace Leasehold

namespace Config

/-- The configuration without any reservations. -/
def withoutReservations (config : Config) : Config :=
  { config with
    reservations := []
    subnets := config.subnets.map Subnet.withoutReservations
    networks := config.networks.map Network.withoutReservations }

/-- Every configured subnet, in the order in which they are checked. -/
def allSubnets (config : Config) : List Subnet :=
  config.subnets ++ config.networks.flatMap (·.subnets)

/-- The configured reservations of a scope, given the subnets that the configured ones became. -/
def reservationsIn (config : Config) (subnets : List Leasehold.Subnet) :
    Scope → List Reservation
  | .global => config.reservations
  | .subnet id =>
    ((subnets.zip config.allSubnets).filter (·.1.id == id)).flatMap (·.2.reservations)

variable (config : Config) (subnets : List Leasehold.Subnet)

/-- A reservation of a subnet is one of those configured for a subnet with its number. -/
theorem mem_reservationsIn_subnet_iff (id : SubnetId) (entry : Reservation) :
    entry ∈ config.reservationsIn subnets (.subnet id) ↔
      ∃ pair ∈ subnets.zip config.allSubnets, pair.1.id = id ∧ entry ∈ pair.2.reservations := by
  unfold reservationsIn
  simp only [List.mem_flatMap, List.mem_filter, beq_iff_eq, and_assoc]

/-- What is read in its own scope is a global reservation, or one of a subnet. -/
theorem isRead_reservationsIn_iff (host : Leasehold.Reservation) :
    host.IsRead host.scope (config.reservationsIn subnets host.scope) ↔
      host.IsRead .global config.reservations ∨
        ∃ pair ∈ subnets.zip config.allSubnets,
          host.IsRead (.subnet pair.1.id) pair.2.reservations := by
  constructor
  · rintro ⟨entry, listed, read⟩
    cases inScope : host.scope with
    | global =>
      rw [inScope] at listed read
      exact .inl ⟨entry, listed, read⟩
    | subnet id =>
      rw [inScope] at listed read
      obtain ⟨pair, member, rfl, inside⟩ :=
        (config.mem_reservationsIn_subnet_iff subnets id entry).mp listed
      exact .inr ⟨pair, member, entry, inside, read⟩
  · rintro (read | ⟨pair, member, read⟩)
    · rw [read.scope_eq]
      exact read
    · rw [read.scope_eq]
      obtain ⟨entry, inside, read⟩ := read
      refine ⟨entry, ?_, read⟩
      exact (config.mem_reservationsIn_subnet_iff subnets _ entry).mpr ⟨pair, member, rfl, inside⟩

end Config

namespace Topology

section Build

variable {config : Config} {generation : Nat} {topology : Topology}

/-- A configuration is built into the same topology without its reservations, but for those. -/
theorem build_withoutReservations (built : build config generation = .ok topology) (other : Nat) :
    build config.withoutReservations other =
      .ok { topology with
        generation := other
        reservations := .empty config.identifierOrder } := by
  obtain ⟨classes, resolved, built⟩ := ok_of_bind built
  dsimp only at built
  split at built
  · exact nomatch built
  · next ordered =>
    obtain ⟨after, reserved, built⟩ := ok_of_bind built
    obtain ⟨⟨plain, middle⟩, builtPlain, built⟩ := ok_of_bind built
    obtain ⟨⟨networks, last⟩, builtNetworks, built⟩ := ok_of_bind built
    obtain ⟨_, checked, built⟩ := ok_of_bind built
    cases built
    have bare := (Builder.checks_of_subnets builtPlain).2 (.empty config.identifierOrder)
    have bareNetworks :=
      (Builder.checks_of_networks builtNetworks).2.2 (.empty config.identifierOrder)
    rw [(Builder.collects_of_reserveAll reserved).2] at bare
    refine (bind_of_ok resolved _).trans ((if_neg ordered).trans ?_)
    refine (bind_of_ok bare _).trans ?_
    refine (bind_of_ok bareNetworks _).trans ?_
    exact (bind_of_ok checked _).trans rfl

/-- From a configuration, all of its reservations are collected, beginning with none. -/
theorem collects_of_build (built : build config generation = .ok topology) :
    ∃ builder next : Builder, builder.reservations = .empty config.identifierOrder ∧
      next.reservations = topology.reservations ∧ builder.Collects next fun host =>
        host.IsRead host.scope (config.reservationsIn topology.subnets host.scope) := by
  obtain ⟨classes, -, built⟩ := ok_of_bind built
  dsimp only at built
  split at built
  · exact nomatch built
  · obtain ⟨after, reserved, built⟩ := ok_of_bind built
    obtain ⟨⟨plain, middle⟩, builtPlain, built⟩ := ok_of_bind built
    obtain ⟨⟨networks, last⟩, builtNetworks, built⟩ := ok_of_bind built
    obtain ⟨_, -, built⟩ := ok_of_bind built
    cases built
    have global := (Builder.collects_of_reserveAll reserved).1
    have subnets := (Builder.checks_of_subnets builtPlain).1.append
      (Builder.checks_of_networks builtNetworks).2.1
    refine ⟨_, last, rfl, rfl, (global.trans subnets.collects).congr fun host => ?_⟩
    exact (config.isRead_reservationsIn_iff _ host).symm

/-- The reservations of a built topology are the configured ones, each in its scope. -/
theorem mem_hosts_iff (built : build config generation = .ok topology) (host : Reservation) :
    host ∈ topology.reservations.hosts ↔
      host.IsRead host.scope (config.reservationsIn topology.subnets host.scope) := by
  obtain ⟨builder, next, empty, last, collects⟩ := collects_of_build built
  rw [← last, collects.hosts host, empty]
  simp [ReservationIndex.empty]

/-- The reservations of a built topology were inserted one by one. -/
theorem extends_of_build (built : build config generation = .ok topology) :
    (ReservationIndex.empty config.identifierOrder).Extends topology.reservations := by
  obtain ⟨builder, next, empty, last, collects⟩ := collects_of_build built
  rw [← empty, ← last]
  exact collects.extended

end Build

section Pair

variable {left right : Config} {former latter : Nat} {topology other : Topology}

/-- Configurations that differ in their reservations only are built into topologies that differ in
those and in the generation only. -/
theorem eq_of_withoutReservations_eq (built : build left former = .ok topology)
    (builtOther : build right latter = .ok other)
    (rest : left.withoutReservations = right.withoutReservations) :
    other = { topology with
      generation := other.generation
      reservations := other.reservations } := by
  have bare := build_withoutReservations built 0
  rw [rest, build_withoutReservations builtOther 0] at bare
  have same := Except.ok.inj bare
  injection same with _ subnets networks global _ classes
  obtain ⟨generation, _, _, _, reservations, _⟩ := other
  obtain ⟨_, _, _, _, _, _⟩ := topology
  dsimp only at subnets networks global classes
  rw [subnets, networks, global, classes]

/-- Where two configurations have the same reservations in a scope, so have the topologies. -/
theorem sharesScope_of_reservationsIn (built : build left former = .ok topology)
    (builtOther : build right latter = .ok other) {scope : Scope}
    (same : ∀ entry, entry ∈ left.reservationsIn topology.subnets scope ↔
      entry ∈ right.reservationsIn other.subnets scope) :
    topology.reservations.SharesScope other.reservations scope := by
  rintro host rfl
  rw [mem_hosts_iff built, mem_hosts_iff builtOther]
  exact exists_congr fun entry => and_congr_left fun _ => same entry

end Pair

end Topology

end Leasehold
