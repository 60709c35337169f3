import Mathlib.Data.List.TakeWhile
import Leasehold.Proofs.Engine.Shape
import Leasehold.Proofs.Topology.Numbering

/-!
# Consistency of built topologies

What is built from a configuration is consistent (`Topology.build_consistent`). The numbers of its
subnets are different, and so are the names of its shared networks, so that each is found by its own.
The subnets of a shared network are listed among all subnets as they are, and refer back to that
network. Address pools lie in their subnets and have no address in common, reserved addresses of a
subnet lie in it, and the lifetimes that hold in it are in order.
-/
namespace Leasehold

/-- A text of which something is left without the blanks around it has more than blanks. -/
theorem Text.exists_of_trim {text : List Char} (left : (trim text).isEmpty ≠ true) :
    ∃ c ∈ text, isBlank c = false := by
  by_contra none
  have blank (c : Char) (member : c ∈ text) : isBlank c = true := by
    by_contra other
    exact none ⟨c, member, Bool.eq_false_iff.mpr other⟩
  refine left ?_
  unfold trim
  rw [List.dropWhile_eq_nil_iff.mpr blank]
  rfl

/-- The shared network has a name, and its subnets refer to it. -/
structure Network.IsFormed (network : Network) : Prop where
  /-- The name does not consist of blanks. -/
  named : ∃ c ∈ network.name.toList, Text.isBlank c = false
  /-- The subnets refer to the network by its name. -/
  members : ∀ subnet ∈ network.subnets, subnet.network = some network.name

namespace Builder

/-- A configured shared network becomes one with a new name, and its subnets are checked. -/
theorem runs_of_network {builder next : Builder} {global : Params} {names : List String}
    {entry : Config.Network} {network : Network}
    (built : builder.network global names entry = .ok (network, next)) :
    Runs builder entry.subnets network.subnets next ∧ network.IsFormed ∧
      network.name = entry.name ∧ network.name ∉ names := by
  unfold Builder.network at built
  split at built
  · exact nomatch built
  · next named =>
    split at built
    · exact nomatch built
    · next fresh =>
      obtain ⟨⟨subnets, last⟩, builtMembers, built⟩ := ok_of_bind built
      cases built
      obtain ⟨runs, members⟩ := runs_of_members builtMembers
      exact ⟨runs, ⟨Text.exists_of_trim named, members⟩, rfl, by simpa using fresh⟩

/-- Configured shared networks become shared networks with different names, and their subnets are
checked one after another. -/
theorem runs_of_networks {builder next : Builder} {global : Params} {names : List String}
    {entries : List Config.Network} {networks : List Network}
    (built : builder.networks global names entries = .ok (networks, next)) :
    Runs builder (entries.flatMap (·.subnets)) (networks.flatMap (·.subnets)) next ∧
      (∀ network ∈ networks, network.IsFormed) ∧
      networks.map (·.name) = entries.map (·.name) ∧
      (∀ network ∈ networks, network.name ∉ names) ∧ (networks.map (·.name)).Nodup := by
  induction entries generalizing builder names networks with
  | nil =>
    cases built
    exact ⟨.nil _, fun _ member => absurd member List.not_mem_nil, rfl,
      fun _ member => absurd member List.not_mem_nil, .nil⟩
  | cons entry rest ih =>
    obtain ⟨⟨first, middle⟩, builtFirst, built⟩ := ok_of_bind built
    obtain ⟨⟨others, last⟩, builtOthers, built⟩ := ok_of_bind built
    cases built
    obtain ⟨runs, formed, name, fresh⟩ := runs_of_network builtFirst
    obtain ⟨runsOthers, formedOthers, namesOthers, freshOthers, distinct⟩ := ih builtOthers
    refine ⟨runs.append runsOthers, ?_, ?_, ?_, List.nodup_cons.mpr ⟨fun present => ?_, distinct⟩⟩
    · rintro network (_ | ⟨_, member⟩)
      · exact formed
      · exact formedOthers network member
    · rw [List.map_cons, List.map_cons, name, namesOthers]
    · rintro network (_ | ⟨_, member⟩)
      · exact fresh
      · exact fun earlier => freshOthers network member (List.mem_cons_of_mem _ earlier)
    · obtain ⟨other, member, same⟩ := List.mem_map.mp present
      exact freshOthers other member (same ▸ List.mem_cons_self)

end Builder

namespace Topology

/-- What is built from a configuration is consistent, and every layer that serves requests from it
may rely on that. -/
structure IsConsistent (topology : Topology) (config : Config) : Prop where
  /-- Every configured subnet became one, in the order written. -/
  subnets : topology.subnets.length = config.allSubnets.length ∧
    ∀ pair ∈ topology.subnets.zip config.allSubnets, pair.1.block = pair.2.block.trunc
  /-- No number is zero, and the numbers that were asked for are kept. -/
  kept : ∀ pair ∈ topology.subnets.zip config.allSubnets,
    pair.1.id ≠ 0 ∧ (pair.2.id ≠ 0 → pair.1.id = pair.2.id)
  /-- Numbers are different, and a generated one is above all that were given before it. -/
  numbers : (topology.subnets.zip config.allSubnets).Pairwise fun earlier later =>
    earlier.1.id ≠ later.1.id ∧ (later.2.id = 0 → earlier.1.id < later.1.id)
  /-- Every subnet is found by its number. -/
  found : ∀ subnet ∈ topology.subnets, topology.subnet? subnet.id = some subnet
  /-- The shared networks have the configured names, and these are different. -/
  names : topology.networks.map (·.name) = config.networks.map (·.name) ∧
    (topology.networks.map (·.name)).Nodup
  /-- No name is blank, and every shared network is found by its own. -/
  networks : ∀ network ∈ topology.networks,
    (∃ c ∈ network.name.toList, Text.isBlank c = false) ∧
      topology.network? network.name = some network
  /-- The subnet that a shared network keeps is the one with its number among all subnets, and it
  refers back to that network. -/
  members : ∀ network ∈ topology.networks, ∀ subnet ∈ network.subnets,
    topology.subnet? subnet.id = some subnet ∧ topology.networkOf? subnet = some network
  /-- Address pools begin no later than they end, in one family, and lie in their subnet. -/
  pools : ∀ subnet ∈ topology.subnets, ∀ pool ∈ subnet.pools,
    pool.first.family = pool.last.family ∧ pool.first.value ≤ pool.last.value ∧
      subnet.contains pool.first = true ∧ subnet.contains pool.last = true ∧
      ∀ address, pool.contains address = true → subnet.contains address = true
  /-- The address pools of a subnet have no address in common. -/
  apart : ∀ subnet ∈ topology.subnets, subnet.pools.Pairwise fun left right =>
    ∀ address, ¬ (left.contains address = true ∧ right.contains address = true)
  /-- The addresses that are reserved in a subnet lie in it. -/
  reserved : ∀ subnet ∈ topology.subnets, ∀ host ∈ topology.reservations.hosts,
    host.scope = .subnet subnet.id → ∀ address ∈ host.addresses, subnet.contains address = true
  /-- The lifetimes that hold in a subnet are in order. -/
  lifetimes : ∀ subnet ∈ topology.subnets,
    let time := (topology.params subnet).leaseTime
    time.least ≤ time.fallback ∧ time.fallback ≤ time.most

variable {config : Config} {generation : Nat} {topology : Topology}

/-- The lifetimes that passed the check are in order. -/
theorem isOrdered_of_checkLifetimes (passed : topology.checkLifetimes = .ok ()) {subnet : Subnet}
    (member : subnet ∈ topology.subnets) :
    let time := (topology.params subnet).leaseTime
    time.least ≤ time.fallback ∧ time.fallback ≤ time.most := by
  unfold checkLifetimes at passed
  split at passed
  · exact nomatch passed
  · next clear =>
    have ordered := List.find?_eq_none.mp clear subnet member
    simpa [LeaseTime.isOrdered] using ordered

/-- From a configuration, subnets are checked one after another, beginning without numbers, and then
the lifetimes. -/
theorem runs_of_build (built : build config generation = .ok topology) :
    ∃ (builder next : Builder) (plain : List Subnet), builder.ids = .none ∧
      builder.Runs config.allSubnets topology.subnets next ∧
      topology.subnets = plain ++ topology.networks.flatMap (·.subnets) ∧
      (∀ network ∈ topology.networks, network.IsFormed) ∧
      topology.networks.map (·.name) = config.networks.map (·.name) ∧
      (topology.networks.map (·.name)).Nodup ∧ topology.checkLifetimes = .ok () := by
  obtain ⟨classes, -, built⟩ := ok_of_bind built
  dsimp only at built
  split at built
  · exact nomatch built
  · obtain ⟨after, reserved, built⟩ := ok_of_bind built
    obtain ⟨⟨plain, middle⟩, builtPlain, built⟩ := ok_of_bind built
    obtain ⟨⟨networks, last⟩, builtNetworks, built⟩ := ok_of_bind built
    obtain ⟨_, checked, built⟩ := ok_of_bind built
    cases built
    obtain ⟨runs, formed, names, -, distinct⟩ := Builder.runs_of_networks builtNetworks
    refine ⟨after, last, plain, ?_, (Builder.runs_of_subnets builtPlain).append runs, rfl, formed,
      names, distinct, checked⟩
    rw [(Builder.collects_of_reserveAll reserved).2]

/-- Different subnets have different numbers when all that stand at different places have. -/
theorem nodup_ids {subnets : List Subnet} {entries : List Config.Subnet}
    (length : subnets.length = entries.length)
    (numbers : (subnets.zip entries).Pairwise fun earlier later => earlier.1.id ≠ later.1.id) :
    (subnets.map (·.id)).Nodup := by
  have firsts : (subnets.zip entries).map (·.1.id) = subnets.map (·.id) := by
    conv_rhs => rw [← List.map_fst_zip (Nat.le_of_eq length), List.map_map]
    rfl
  rw [← firsts]
  exact List.pairwise_map.mpr numbers

/-- Every subnet is found by its number. -/
theorem subnet?_eq_some (built : build config generation = .ok topology) {subnet : Subnet}
    (member : subnet ∈ topology.subnets) : topology.subnet? subnet.id = some subnet := by
  obtain ⟨builder, next, plain, start, runs, -⟩ := runs_of_build built
  obtain ⟨-, -, numbers⟩ := runs.numbers (start ▸ SubnetIds.isBounded_none)
  exact find?_eq_some_of_nodup Subnet.id
    (nodup_ids runs.length_eq (numbers.imp And.left)) member

/-- The addresses that are reserved in a subnet lie in it. -/
theorem contains_of_mem_hosts (built : build config generation = .ok topology) {subnet : Subnet}
    (member : subnet ∈ topology.subnets) {host : Reservation}
    (reserved : host ∈ topology.reservations.hosts) (scope : host.scope = .subnet subnet.id)
    {address : Address} (listed : address ∈ host.addresses) : subnet.contains address = true := by
  obtain ⟨builder, next, plain, -, runs, -⟩ := runs_of_build built
  have read := (mem_hosts_iff built host).mp reserved
  rw [scope] at read
  obtain ⟨entry, configured, read⟩ := read
  obtain ⟨pair, zipped, same, inside⟩ :=
    (config.mem_reservationsIn_subnet_iff topology.subnets subnet.id entry).mp configured
  obtain ⟨_, _, _, admits⟩ := runs.exists_admits zipped
  have here := subnet?_eq_some built (List.of_mem_zip zipped).1
  rw [same, subnet?_eq_some built member] at here
  obtain rfl := Option.some.inj here
  exact admits.inside host ⟨entry, inside, read⟩ address listed

/-- What is built from a configuration is consistent. -/
theorem build_consistent (built : build config generation = .ok topology) :
    topology.IsConsistent config := by
  have accepted : topology.Accepted := .inr ⟨config, generation, built⟩
  obtain ⟨builder, next, plain, start, runs, listed, formed, names, distinct, checked⟩ :=
    runs_of_build built
  obtain ⟨kept, -, numbers⟩ := runs.numbers (start ▸ SubnetIds.isBounded_none)
  have foundNetwork (network : Network) (member : network ∈ topology.networks) :
      topology.network? network.name = some network :=
    find?_eq_some_of_nodup Network.name distinct member
  constructor
  · refine ⟨runs.length_eq, fun pair member => ?_⟩
    obtain ⟨_, _, _, admits⟩ := runs.exists_admits member
    exact admits.block
  · exact kept
  · exact numbers
  · exact fun subnet member => subnet?_eq_some built member
  · exact ⟨names, distinct⟩
  · exact fun network member => ⟨(formed network member).named, foundNetwork network member⟩
  · intro network member subnet inside
    have among : subnet ∈ topology.subnets := by
      rw [listed]
      exact List.mem_append_right _ (List.mem_flatMap.mpr ⟨network, member, inside⟩)
    refine ⟨subnet?_eq_some built among, ?_⟩
    unfold networkOf?
    rw [(formed network member).members subnet inside]
    exact foundNetwork network member
  · intro subnet member pool inside
    have checked := accepted.isBuilt.subnets subnet member
    obtain ⟨entry, read⟩ := checked.hasReadPools.addresses pool inside
    obtain ⟨-, ordered, holdsFirst, holdsLast⟩ := Pool.of_ofConfig read
    have family := (Pool.isSound_of_ofConfig read).1.family
    exact ⟨family.symm, ordered, holdsFirst, holdsLast, fun _ => checked.contains inside⟩
  · intro subnet member
    refine (accepted.hasSoundPools member).apart.imp ?_
    rintro left right apart address ⟨inLeft, inRight⟩
    rw [Pool.overlaps_of_contains inLeft inRight] at apart
    exact nomatch apart
  · exact fun subnet member host reserved scope address listed =>
      contains_of_mem_hosts built member reserved scope listed
  · exact fun subnet member => isOrdered_of_checkLifetimes checked member

namespace Sample

/-- The small network with a number that is asked for, beside a shared network with a subnet that
asks for none. -/
def office : Config :=
  let numbered := Engine.Sample.config.subnets.map fun subnet => { subnet with id := 3 }
  let generated := Engine.Sample.config.subnets.map fun subnet => { subnet with id := 0 }
  { Engine.Sample.config with
    subnets := numbered
    networks := [⟨"office", none, generated, .unset⟩] }

end Sample

/-- The condition can be met: of two subnets, one is given the number that it asks for and the other
the next one. -/
theorem build_consistent_of_office :
    ∃ topology, build Sample.office 1 = .ok topology ∧ topology.subnets.map (·.id) = [3, 4] ∧
      topology.IsConsistent Sample.office := by
  have known : (build Sample.office 1).toOption.map (fun topology => topology.subnets.map (·.id)) =
      some [3, 4] := by decide +kernel
  obtain ⟨topology, built, numbers⟩ := ok_of_toOption known
  exact ⟨topology, built, numbers, build_consistent built⟩

end Topology

end Leasehold
