import Leasehold.Proofs.Topology.Checks
import Leasehold.Selection

/-!
# Accepted topologies

A topology that comes into force was built from a configuration: every subnet in it was checked, and
its reservations were collected one by one (`Topology.Accepted.isBuilt`). All parameters in it,
whatever their level, are therefore those of a configuration, where lifetimes are positive, and so
is the lifetime of every lease in every subnet that can be selected.
-/
namespace Leasehold

/-- What is known of a result was reached. -/
theorem ok_of_toOption {ε α β : Type} {outcome : Except ε α} {known : α → β} {value : β}
    (ok : outcome.toOption.map known = some value) :
    ∃ result, outcome = .ok result ∧ known result = value := by
  cases outcome with
  | error error => exact nomatch ok
  | ok result => exact ⟨result, rfl, Option.some.inj ok⟩

/-- The topology can come into force: it is the one without subnets, or was built. -/
def Topology.Accepted (topology : Topology) : Prop :=
  topology = .empty ∨ ∃ config generation, Topology.build config generation = .ok topology

/-- What is built from a configuration can come into force; without it, the topology without subnets
does. -/
theorem Topology.accepted_build (config : Config) (generation : Nat) :
    ((Topology.build config generation).toOption.getD .empty).Accepted := by
  cases built : Topology.build config generation with
  | ok topology => exact .inr ⟨config, generation, built⟩
  | error error => exact .inl rfl

/-- A configured lifetime is positive. -/
theorem Params.pos_of_map_duration {value : Option Seconds} {time : Duration}
    (set : value.map duration = some time) : 0 < time := by
  obtain ⟨count, -, rfl⟩ := Option.map_eq_some_iff.mp set
  exact Nat.mul_pos (by decide) count.positive

/-- A lifetime is positive when the default and both bounds are. -/
theorem LeaseTime.validFor_pos {time : LeaseTime} (fallback : 0 < time.fallback)
    (least : 0 < time.least) (most : 0 < time.most) (requested : Option Duration) :
    0 < time.validFor requested := by
  cases requested with
  | none => exact fallback
  | some wanted =>
    change 0 < if wanted < time.least then time.least else min wanted time.most
    split
    · exact least
    · next above => exact Nat.lt_min.mpr ⟨Nat.lt_of_lt_of_le least (Nat.le_of_not_lt above), most⟩

namespace Inheritance

/-- All levels are those of a configuration. -/
structure IsConfigured (levels : Inheritance) : Prop where
  /-- The level of the subnet. -/
  subnet : levels.subnet.IsConfigured
  /-- The level of the shared network. -/
  network : ∀ params, levels.network = some params → params.IsConfigured
  /-- The global level. -/
  global : levels.global.IsConfigured

/-- What holds of a parameter at every level of a configuration holds of the value found. -/
theorem IsConfigured.of_get? {α : Type} {levels : Inheritance} (configured : levels.IsConfigured)
    {field : Params → Option α} {property : α → Prop}
    (holds : ∀ entry value, field (.ofConfig entry) = some value → property value) {value : α}
    (found : levels.get? field = some value) : property value := by
  have level {params : Params} (configured : params.IsConfigured)
      (set : field params = some value) : property value := by
    obtain ⟨entry, rfl⟩ := configured
    exact holds entry value set
  rcases Option.or_eq_some_iff.mp found with set | ⟨-, further⟩
  · exact level configured.subnet set
  · rcases Option.or_eq_some_iff.mp further with set | ⟨-, set⟩
    · obtain ⟨params, belongs, set⟩ := Option.bind_eq_some_iff.mp set
      exact level (configured.network params belongs) set
    · exact level configured.global set

/-- The lifetimes that hold are positive. -/
theorem IsConfigured.validFor_pos {levels : Inheritance} (configured : levels.IsConfigured)
    (requested : Option Duration) : 0 < levels.resolve.leaseTime.validFor requested := by
  have pos_getD {field : Params → Option Duration} {fallback : Duration}
      (positive : ∀ entry time, field (.ofConfig entry) = some time → 0 < time)
      (default : 0 < fallback) : 0 < (levels.get? field).getD fallback := by
    cases found : levels.get? field with
    | none => exact default
    | some time => exact configured.of_get? positive found
  have valid : 0 < (levels.get? Params.validLifetime).getD defaultValidLifetime :=
    pos_getD (fun _ _ => Params.pos_of_map_duration) (by decide)
  exact LeaseTime.validFor_pos valid (pos_getD (fun _ _ => Params.pos_of_map_duration) valid)
    (pos_getD (fun _ _ => Params.pos_of_map_duration) valid) requested

end Inheritance

/-- A checked subnet has the parameters of its configuration. -/
theorem Subnet.IsBuilt.isConfigured {subnet : Subnet} (built : subnet.IsBuilt) :
    subnet.params.IsConfigured := by
  obtain ⟨builder, network, entry, next, built⟩ := built
  obtain ⟨_, -, built⟩ := ok_of_bind built
  obtain ⟨_, -, built⟩ := ok_of_bind built
  obtain ⟨_, -, built⟩ := ok_of_bind built
  obtain ⟨_, -, built⟩ := ok_of_bind built
  obtain ⟨_, -, built⟩ := ok_of_bind built
  obtain ⟨_, -, built⟩ := ok_of_bind built
  cases built
  exact ⟨entry.params, rfl⟩

namespace Topology

/-- All parameters are those of a configuration. -/
structure IsConfigured (topology : Topology) : Prop where
  /-- Those of the subnets. -/
  subnets : ∀ subnet ∈ topology.subnets, subnet.params.IsConfigured
  /-- Those of the shared networks. -/
  networks : ∀ network ∈ topology.networks, network.params.IsConfigured
  /-- The global ones. -/
  global : topology.global.IsConfigured

/-- What an accepted topology was built from: checked subnets, configured shared networks and global
parameters, and the reservations that were collected. -/
structure IsBuilt (topology : Topology) : Prop where
  /-- Every subnet was checked. -/
  subnets : ∀ subnet ∈ topology.subnets, subnet.IsBuilt
  /-- The parameters of the shared networks were configured. -/
  networks : ∀ network ∈ topology.networks, network.params.IsConfigured
  /-- The global parameters were configured. -/
  global : topology.global.IsConfigured
  /-- The reservations were collected one by one. -/
  reservations : ∃ order, (ReservationIndex.empty order).Extends topology.reservations

/-- An accepted topology was put together by the builder, or has nothing in it. -/
theorem Accepted.isBuilt {topology : Topology} (accepted : topology.Accepted) :
    topology.IsBuilt := by
  rcases accepted with rfl | ⟨config, generation, built⟩
  · exact ⟨fun _ member => absurd member List.not_mem_nil,
      fun _ member => absurd member List.not_mem_nil, ⟨.unset, rfl⟩, [], .refl⟩
  · obtain ⟨_, -, built⟩ := ok_of_bind built
    dsimp only at built
    split at built
    · exact nomatch built
    · obtain ⟨_, reserved, built⟩ := ok_of_bind built
      obtain ⟨⟨plain, _⟩, builtPlain, built⟩ := ok_of_bind built
      obtain ⟨⟨networks, _⟩, builtNetworks, built⟩ := ok_of_bind built
      obtain ⟨_, -, built⟩ := ok_of_bind built
      cases built
      obtain ⟨configured, checksNetworks, -⟩ := Builder.checks_of_networks builtNetworks
      have checks := (Builder.checks_of_subnets builtPlain).1.append checksNetworks
      have collects := (Builder.collects_of_reserveAll reserved).1
      exact ⟨checks.built, configured, ⟨config.params, rfl⟩, config.identifierOrder,
        collects.extended.trans checks.collects.extended⟩

/-- Every parameter of an accepted topology is that of a configuration. -/
theorem Accepted.isConfigured {topology : Topology} (accepted : topology.Accepted) :
    topology.IsConfigured where
  subnets subnet member := (accepted.isBuilt.subnets subnet member).isConfigured
  networks := accepted.isBuilt.networks
  global := accepted.isBuilt.global

/-- The levels of the parameters of a subnet are those of a configuration. -/
theorem IsConfigured.inheritance {topology : Topology} (configured : topology.IsConfigured)
    {subnet : Subnet} (member : subnet ∈ topology.subnets) :
    (topology.inheritance subnet).IsConfigured where
  subnet := configured.subnets subnet member
  network params found := by
    obtain ⟨network, belongs, rfl⟩ := Option.map_eq_some_iff.mp found
    obtain ⟨name, -, first⟩ := Option.bind_eq_some_iff.mp belongs
    exact configured.networks network (List.mem_of_find?_eq_some first)
  global := configured.global

/-- Leases in a subnet of an accepted topology have a positive lifetime. -/
theorem Accepted.validFor_pos {topology : Topology} (accepted : topology.Accepted)
    {subnet : Subnet} (member : subnet ∈ topology.subnets) (requested : Option Duration) :
    0 < (topology.params subnet).leaseTime.validFor requested :=
  (accepted.isConfigured.inheritance member).validFor_pos requested

end Topology

end Leasehold
