import Leasehold.Proofs.Topology.Consistency

/-!
# Agreement within a shared network

The subnets of a shared network stand in for each other, so they have to agree on the interface that
they are on and on whether the server has the last word. Each is checked against the network and the
subnets before it (`Network.Agrees`). The last word is compared with the value that the network
resolves to, so the resolved values are equal. Interfaces are compared as far as the network and its
subnets name one themselves. What is left is a subnet that names none, in a network that names none:
it is on the global interface, and that may differ from the one that another subnet names
(`Topology.Strays`). Apart from this the resolved interfaces are equal (`Topology.members_agree`).
-/
namespace Leasehold

/-- The subnets agree with their shared network, as far as they set something themselves. -/
structure Network.Agrees (network : Network) (global : Params) : Prop where
  /-- Who has the last word in the network has it in the subnets. -/
  authoritative : ∀ subnet ∈ network.subnets, ∀ own, subnet.params.authoritative = some own →
    own = (network.params.authoritative.or global.authoritative).getD false
  /-- There is one interface for all that name one. -/
  interface : ∃ common, (∀ named, network.params.interface = some named → named = common) ∧
    ∀ subnet ∈ network.subnets, ∀ own, subnet.params.interface = some own → own = common

namespace Builder

/-- An interface that agrees goes on to be expected, and so does the one expected before. -/
theorem of_agreeInterface {network : String} {expected next : Option String} {subnet : Subnet}
    (agreed : agreeInterface network expected subnet = .ok next) :
    (∀ own, subnet.params.interface = some own → next = some own) ∧
      ∀ wanted, expected = some wanted → next = some wanted := by
  unfold agreeInterface at agreed
  split at agreed
  · next silent =>
    cases agreed
    exact ⟨fun own named => absurd (silent.symm.trans named) nofun, fun wanted same => same⟩
  · next found named =>
    cases agreed
    exact ⟨fun own same => named.symm.trans same, nofun⟩
  · next found wanted named =>
    split at agreed
    · next same =>
      cases agreed
      exact ⟨fun own other => same ▸ named.symm.trans other, fun _ same => same⟩
    · exact nomatch agreed

/-- A subnet that agrees sets the value that is expected, or none. -/
theorem of_agreeAuthoritative {network : String} {expected : Bool} {subnet : Subnet}
    (agreed : agreeAuthoritative network expected subnet = .ok ()) {own : Bool}
    (set : subnet.params.authoritative = some own) : own = expected := by
  unfold agreeAuthoritative at agreed
  rw [set] at agreed
  dsimp only at agreed
  split at agreed
  · next same => exact same
  · exact nomatch agreed

/-- The subnets of a shared network that set something themselves set the same. -/
theorem agree_of_members {builder next : Builder} {network : String} {authoritative : Bool}
    {expected : Option String} {entries : List Config.Subnet} {subnets : List Subnet}
    (built : builder.members network authoritative expected entries = .ok (subnets, next)) :
    (∀ subnet ∈ subnets, ∀ own, subnet.params.authoritative = some own → own = authoritative) ∧
      ∃ common, (∀ wanted, expected = some wanted → wanted = common) ∧
        ∀ subnet ∈ subnets, ∀ own, subnet.params.interface = some own → own = common := by
  induction entries generalizing builder expected subnets with
  | nil =>
    cases built
    refine ⟨fun _ member => absurd member List.not_mem_nil, expected.getD "", ?_,
      fun _ member => absurd member List.not_mem_nil⟩
    rintro wanted rfl
    rfl
  | cons entry rest ih =>
    obtain ⟨⟨first, middle⟩, builtFirst, built⟩ := ok_of_bind built
    obtain ⟨after, agreedInterface, built⟩ := ok_of_bind built
    obtain ⟨_, agreedAuthoritative, built⟩ := ok_of_bind built
    obtain ⟨⟨others, last⟩, builtOthers, built⟩ := ok_of_bind built
    cases built
    obtain ⟨names, keeps⟩ := of_agreeInterface agreedInterface
    obtain ⟨authorised, common, expects, agree⟩ := ih builtOthers
    refine ⟨?_, common, fun wanted same => expects wanted (keeps wanted same), ?_⟩
    · rintro subnet (_ | ⟨_, member⟩) own set
      · exact of_agreeAuthoritative agreedAuthoritative set
      · exact authorised subnet member own set
    · rintro subnet (_ | ⟨_, member⟩) own named
      · exact expects own (names own named)
      · exact agree subnet member own named

/-- The subnets of a built network agree with it. -/
theorem agrees_of_network {builder next : Builder} {global : Params} {names : List String}
    {entry : Config.Network} {network : Network}
    (built : builder.network global names entry = .ok (network, next)) :
    network.Agrees global := by
  unfold Builder.network at built
  split at built
  · exact nomatch built
  · split at built
    · exact nomatch built
    · obtain ⟨⟨subnets, last⟩, builtMembers, built⟩ := ok_of_bind built
      cases built
      obtain ⟨authoritative, interface⟩ := agree_of_members builtMembers
      exact ⟨authoritative, interface⟩

/-- The subnets of built networks agree with them. -/
theorem agrees_of_networks {builder next : Builder} {global : Params} {names : List String}
    {entries : List Config.Network} {networks : List Network}
    (built : builder.networks global names entries = .ok (networks, next)) :
    ∀ network ∈ networks, network.Agrees global := by
  induction entries generalizing builder names networks with
  | nil =>
    cases built
    exact fun _ member => absurd member List.not_mem_nil
  | cons entry rest ih =>
    obtain ⟨⟨first, middle⟩, builtFirst, built⟩ := ok_of_bind built
    obtain ⟨⟨others, last⟩, builtOthers, built⟩ := ok_of_bind built
    cases built
    rintro network (_ | ⟨_, member⟩)
    · exact agrees_of_network builtFirst
    · exact ih builtOthers network member

end Builder

namespace Topology

variable {config : Config} {generation : Nat} {topology : Topology} {network : Network}

/-- The subnets of every shared network agree with it. -/
theorem agrees_of_build (built : build config generation = .ok topology)
    (listed : network ∈ topology.networks) : network.Agrees topology.global := by
  obtain ⟨classes, -, built⟩ := ok_of_bind built
  dsimp only at built
  split at built
  · exact nomatch built
  · obtain ⟨after, -, built⟩ := ok_of_bind built
    obtain ⟨⟨plain, middle⟩, -, built⟩ := ok_of_bind built
    obtain ⟨⟨networks, last⟩, builtNetworks, built⟩ := ok_of_bind built
    obtain ⟨_, -, built⟩ := ok_of_bind built
    cases built
    exact Builder.agrees_of_networks builtNetworks network listed

/-- A subnet of a shared network inherits from that network, and then globally. -/
theorem inheritance_of_mem (built : build config generation = .ok topology)
    (listed : network ∈ topology.networks) {subnet : Subnet} (member : subnet ∈ network.subnets) :
    topology.inheritance subnet = ⟨subnet.params, some network.params, topology.global⟩ := by
  obtain ⟨-, -, -, -, -, -, formed, -, distinct, -⟩ := runs_of_build built
  have found : topology.networkOf? subnet = some network := by
    unfold networkOf?
    rw [(formed network listed).members subnet member]
    exact find?_eq_some_of_nodup Network.name distinct listed
  simp [inheritance, found]

/-- Of two subnets of a shared network that names no interface, the first names one. The second
names none, so that it strays to the global interface, and that is another. -/
def Strays (topology : Topology) (network : Network) (first second : Subnet) : Prop :=
  network.params.interface = none ∧ second.params.interface = none ∧
    ∃ own global, first.params.interface = some own ∧
      topology.global.interface = some global ∧ own ≠ global

/-- Who has the last word in a subnet of a shared network has it in that network. -/
theorem authoritative_of_mem (built : build config generation = .ok topology)
    (listed : network ∈ topology.networks) {subnet : Subnet} (member : subnet ∈ network.subnets) :
    (topology.params subnet).authoritative =
      (network.params.authoritative.or topology.global.authoritative).getD false := by
  unfold params
  rw [inheritance_of_mem built listed member]
  change (subnet.params.authoritative.or _).getD false = _
  cases set : subnet.params.authoritative with
  | none => rfl
  | some own => exact (agrees_of_build built listed).authoritative subnet member own set

/-- The interface of a subnet of a shared network is its own, or the one of the network, or else the
global one. -/
theorem interface_of_mem (built : build config generation = .ok topology)
    (listed : network ∈ topology.networks) {subnet : Subnet} (member : subnet ∈ network.subnets) :
    (topology.params subnet).interface =
      subnet.params.interface.or (network.params.interface.or topology.global.interface) := by
  unfold params
  rw [inheritance_of_mem built listed member]
  rfl

/-- A subnet is on the interface that another one names, unless it strays. -/
theorem eq_of_not_strays (built : build config generation = .ok topology)
    (listed : network ∈ topology.networks) {first second : Subnet}
    (inFirst : first ∈ network.subnets) (inSecond : second ∈ network.subnets)
    (settled : ¬ topology.Strays network first second) {left right : String}
    (names : first.params.interface = some left)
    (resolved : (topology.params second).interface = some right) : left = right := by
  obtain ⟨common, ofNetwork, ofSubnet⟩ := (agrees_of_build built listed).interface
  have leftCommon := ofSubnet first inFirst left names
  rw [interface_of_mem built listed inSecond] at resolved
  cases own : second.params.interface with
  | some other =>
    rw [own] at resolved
    obtain rfl : other = right := Option.some.inj resolved
    rw [leftCommon, ofSubnet second inSecond other own]
  | none =>
    cases network' : network.params.interface with
    | some named =>
      rw [own, network'] at resolved
      obtain rfl : named = right := Option.some.inj resolved
      rw [leftCommon, ofNetwork named network']
    | none =>
      rw [own, network'] at resolved
      by_contra differ
      exact settled ⟨network', own, left, right, names, resolved, differ⟩

/-- The subnets of a shared network resolve to the same value for having the last word. They resolve
to the same interface, as far as they resolve to one at all, exactly if none of them strays. -/
theorem members_agree (built : build config generation = .ok topology)
    (listed : network ∈ topology.networks) {first second : Subnet}
    (inFirst : first ∈ network.subnets) (inSecond : second ∈ network.subnets) :
    (topology.params first).authoritative = (topology.params second).authoritative ∧
      ((∀ left right, (topology.params first).interface = some left →
          (topology.params second).interface = some right → left = right) ↔
        ¬ (topology.Strays network first second ∨ topology.Strays network second first)) := by
  have ofFirst := interface_of_mem built listed inFirst
  have ofSecond := interface_of_mem built listed inSecond
  refine ⟨?_, fun agree strays => ?_, fun settled left right atFirst atSecond => ?_⟩
  · rw [authoritative_of_mem built listed inFirst, authoritative_of_mem built listed inSecond]
  · rcases strays with ⟨silent, unnamed, own, global, names, isGlobal, differ⟩ |
      ⟨silent, unnamed, own, global, names, isGlobal, differ⟩
    · refine differ (agree own global ?_ ?_)
      · rw [ofFirst, names, Option.some_or]
      · rw [ofSecond, unnamed, silent, isGlobal, Option.none_or, Option.none_or]
    · refine differ.symm (agree global own ?_ ?_)
      · rw [ofFirst, unnamed, silent, isGlobal, Option.none_or, Option.none_or]
      · rw [ofSecond, names, Option.some_or]
  · obtain ⟨firstStays, secondStays⟩ := not_or.mp settled
    cases named : first.params.interface with
    | some own =>
      rw [ofFirst, named, Option.some_or] at atFirst
      obtain rfl := Option.some.inj atFirst
      exact eq_of_not_strays built listed inFirst inSecond firstStays named atSecond
    | none =>
      cases namedSecond : second.params.interface with
      | some own =>
        rw [ofSecond, namedSecond, Option.some_or] at atSecond
        obtain rfl := Option.some.inj atSecond
        exact (eq_of_not_strays built listed inSecond inFirst secondStays namedSecond atFirst).symm
      | none =>
        rw [ofFirst, named] at atFirst
        rw [ofSecond, namedSecond, atFirst] at atSecond
        exact Option.some.inj atSecond

namespace Sample

/-- A shared network that may name an interface, in a configuration with a global one. Of its two
subnets the first names an interface. -/
def hallway (named : Option String) : Config :=
  let members (id : UInt32) (interface : Option String) : List Config.Subnet :=
    Engine.Sample.config.subnets.map fun subnet =>
      { subnet with id, params := { subnet.params with interface } }
  { Engine.Sample.config with
    params := { Config.Params.unset with interface := some "eth1" }
    subnets := []
    networks := [⟨"hallway", none, members 1 (some "eth0") ++ members 2 none,
      { Config.Params.unset with interface := named }⟩] }

/-- The topology that is built from the configuration. -/
def hallwayTopology (named : Option String) : Topology :=
  (build (hallway named) 1).toOption.getD .empty

/-- The configuration is accepted, whether the network names the interface of its first subnet or
none. -/
theorem build_hallway {named : Option String} (choice : named = none ∨ named = some "eth0") :
    build (hallway named) 1 = .ok (hallwayTopology named) := by
  have known : (build (hallway named) 1).toOption.isSome := by
    rcases choice with rfl | rfl <;> decide +kernel
  unfold hallwayTopology
  generalize build (hallway named) 1 = outcome at known
  cases outcome with
  | error error => exact nomatch known
  | ok topology => rfl

end Sample

/-- The conditions can be met: where the network names the interface of its first subnet, the second
subnet is on it too, and not on the global one. -/
theorem members_agree_of_hallway :
    ∃ network ∈ (Sample.hallwayTopology (some "eth0")).networks,
      ∃ first ∈ network.subnets, ∃ second ∈ network.subnets,
        second.params.interface = none ∧
        (Sample.hallwayTopology (some "eth0")).global.interface = some "eth1" ∧
        ∀ left right,
          ((Sample.hallwayTopology (some "eth0")).params first).interface = some left →
          ((Sample.hallwayTopology (some "eth0")).params second).interface = some right →
          left = right := by
  have known : ∃ network ∈ (Sample.hallwayTopology (some "eth0")).networks,
      network.params.interface = some "eth0" ∧
        (Sample.hallwayTopology (some "eth0")).global.interface = some "eth1" ∧
        ∃ first ∈ network.subnets, ∃ second ∈ network.subnets, second.params.interface = none := by
    decide +kernel
  obtain ⟨network, listed, named, isGlobal, first, inFirst, second, inSecond, unnamed⟩ := known
  refine ⟨network, listed, first, inFirst, second, inSecond, unnamed, isGlobal, ?_⟩
  refine (members_agree (Sample.build_hallway (.inr rfl)) listed inFirst inSecond).2.mpr ?_
  rintro (⟨silent, -⟩ | ⟨silent, -⟩) <;> exact nomatch named.symm.trans silent

/-- Subnets of one shared network may resolve to different interfaces. -/
theorem members_on_different_interfaces :
    ¬ ∀ (config : Config) (generation : Nat) (topology : Topology) (network : Network)
      (first second : Subnet) (left right : String),
      build config generation = .ok topology → network ∈ topology.networks →
      first ∈ network.subnets → second ∈ network.subnets →
      (topology.params first).interface = some left →
      (topology.params second).interface = some right → left = right := by
  intro agree
  have known : ∃ network ∈ (Sample.hallwayTopology none).networks,
      ∃ first ∈ network.subnets, ∃ second ∈ network.subnets,
        ((Sample.hallwayTopology none).params first).interface = some "eth0" ∧
        ((Sample.hallwayTopology none).params second).interface = some "eth1" := by
    decide +kernel
  obtain ⟨network, listed, first, inFirst, second, inSecond, atFirst, atSecond⟩ := known
  have same := agree _ _ _ network first second "eth0" "eth1" (Sample.build_hallway (.inl rfl))
    listed inFirst inSecond atFirst atSecond
  exact absurd same (by decide)

end Topology

end Leasehold
