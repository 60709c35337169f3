import Leasehold.Proofs.Topology.Candidates
import Leasehold.Proofs.Topology.Consistency

/-!
# Which subnets match a request

A subnet may match a request in three ways: by a relay that is listed for it, by containing the most
telling address, or by its interface. A way counts only when no subnet matches in an earlier one
(`mem_directMatches_iff`). The candidates are the subnets that match and their siblings, each once
(`Accepted.mem_candidates_iff`). What a shared network keeps is found among all subnets as it is, so
that no sibling is lost, and leaving out repetitions by number leaves out no subnet.
-/
namespace Leasehold

/-- Subnets outside of shared networks refer to none. -/
theorem Builder.network_of_subnets {builder next : Builder} {entries : List Config.Subnet}
    {subnets : List Subnet} (built : builder.subnets entries = .ok (subnets, next)) :
    ∀ subnet ∈ subnets, subnet.network = none := by
  induction entries generalizing builder subnets with
  | nil =>
    cases built
    exact fun _ member => absurd member List.not_mem_nil
  | cons entry rest ih =>
    obtain ⟨⟨first, middle⟩, builtFirst, built⟩ := ok_of_bind built
    obtain ⟨⟨others, last⟩, builtOthers, built⟩ := ok_of_bind built
    cases built
    rintro subnet (_ | ⟨_, member⟩)
    · exact (admits_of_subnet builtFirst).network
    · exact ih builtOthers subnet member

namespace Topology

section Matching

variable (topology : Topology) (selector : Selector)

/-- Two subnets belong to one shared network. -/
def AreSiblings (left right : Subnet) : Prop :=
  ∃ network ∈ topology.networks, left ∈ network.subnets ∧ right ∈ network.subnets

/-- The relay of a request is one of those that select the subnet. -/
def ListsRelay (subnet : Subnet) : Prop :=
  ∃ relay ∈ (topology.params subnet).relay, selector.relayAddress = some relay

/-- The most telling address of a request lies in the subnet. -/
def HasOrigin (subnet : Subnet) : Prop :=
  ∃ address, selector.address? = some address ∧ subnet.contains address = true

/-- The subnet is on the interface of a request that was not relayed. -/
def IsReached (subnet : Subnet) : Prop :=
  selector.isRelayed = false ∧
    ∃ iface, selector.iface = some iface ∧ (topology.params subnet).interface = some iface

/-- A subnet of the topology matches a request: in one of three ways, and no subnet does in an
earlier one. -/
def Matches (subnet : Subnet) : Prop :=
  topology.ListsRelay selector subnet ∨
    (∀ other ∈ topology.subnets, ¬ topology.ListsRelay selector other) ∧
      (HasOrigin selector subnet ∨
        (∀ other ∈ topology.subnets, ¬ HasOrigin selector other) ∧
          topology.IsReached selector subnet)

variable {topology selector}

/-- The subnets that list the relay of a request. -/
theorem mem_listingRelay_iff {subnet : Subnet} : subnet ∈ topology.listingRelay selector ↔
    subnet ∈ topology.subnets ∧ topology.ListsRelay selector subnet := by
  unfold listingRelay ListsRelay
  cases selector.relayAddress with
  | none => simp
  | some relay => simp [params, Inheritance.resolve]

/-- The subnets that contain the most telling address of a request. -/
theorem mem_containing_iff {subnet : Subnet} : subnet ∈ topology.containing selector ↔
    subnet ∈ topology.subnets ∧ HasOrigin selector subnet := by
  unfold containing HasOrigin
  cases selector.address? with
  | none => simp
  | some address => simp

/-- The subnets on the interface of a request that was not relayed. -/
theorem mem_onInterface_iff {subnet : Subnet} : subnet ∈ topology.onInterface selector ↔
    subnet ∈ topology.subnets ∧ topology.IsReached selector subnet := by
  unfold onInterface IsReached
  cases selector.iface with
  | none => simp
  | some iface => cases selector.isRelayed <;> simp [params, Inheritance.resolve]

/-- Nothing is found where no subnet has what is looked for. -/
theorem eq_nil_iff_of_mem_iff {found subnets : List Subnet} {holds : Subnet → Prop}
    (mem_iff : ∀ subnet, subnet ∈ found ↔ subnet ∈ subnets ∧ holds subnet) :
    found = [] ↔ ∀ subnet ∈ subnets, ¬ holds subnet := by
  rw [List.eq_nil_iff_forall_not_mem]
  exact forall_congr' fun subnet => by rw [mem_iff, not_and]

/-- The subnets that a request selects directly are those that match it. -/
theorem mem_directMatches_iff {subnet : Subnet} : subnet ∈ topology.directMatches selector ↔
    subnet ∈ topology.subnets ∧ topology.Matches selector subnet := by
  have noRelay : topology.listingRelay selector = [] ↔
      ∀ other ∈ topology.subnets, ¬ topology.ListsRelay selector other :=
    eq_nil_iff_of_mem_iff fun _ => mem_listingRelay_iff
  have noOrigin : topology.containing selector = [] ↔
      ∀ other ∈ topology.subnets, ¬ HasOrigin selector other :=
    eq_nil_iff_of_mem_iff fun _ => mem_containing_iff
  unfold directMatches Matches
  split
  · next first others listed =>
    have some_lists : ¬ ∀ other ∈ topology.subnets, ¬ topology.ListsRelay selector other :=
      fun none => List.cons_ne_nil first others (listed ▸ noRelay.mpr none)
    rw [← listed, mem_listingRelay_iff]
    simp only [some_lists, false_and, or_false]
  · next unlisted =>
    have none_lists := noRelay.mp unlisted
    split
    · next first others contained =>
      have some_contains : ¬ ∀ other ∈ topology.subnets, ¬ HasOrigin selector other :=
        fun none => List.cons_ne_nil first others (contained ▸ noOrigin.mpr none)
      rw [← contained, mem_containing_iff]
      refine and_congr_right fun inside => ?_
      simp only [none_lists subnet inside, some_contains, false_and, or_false, false_or]
      exact ⟨fun has => ⟨none_lists, has⟩, And.right⟩
    · next uncontained =>
      have none_contains := noOrigin.mp uncontained
      rw [mem_onInterface_iff]
      refine and_congr_right fun inside => ?_
      simp only [none_lists subnet inside, none_contains subnet inside, false_or]
      exact ⟨fun reached => ⟨none_lists, none_contains, reached⟩, fun ⟨_, _, reached⟩ => reached⟩

/-- What a relayed request matches lists the relay or contains the address that the relay gives. -/
theorem Matches.of_isRelayed (relayed : selector.isRelayed = true) {subnet : Subnet}
    (matching : topology.Matches selector subnet) :
    topology.ListsRelay selector subnet ∨
      ∃ address, selector.linkSelection.or selector.relayAddress = some address ∧
        subnet.contains address = true := by
  have told : selector.address? = selector.linkSelection.or selector.relayAddress := by
    unfold Selector.isRelayed at relayed
    unfold Selector.address?
    cases link : selector.linkSelection with
    | some address => rfl
    | none =>
      cases relay : selector.relayAddress with
      | some address => rfl
      | none => simp [link, relay] at relayed
  rcases matching with lists | ⟨-, ⟨address, given, contains⟩ | ⟨-, unrelayed, -⟩⟩
  · exact .inl lists
  · exact .inr ⟨address, told ▸ given, contains⟩
  · rw [relayed] at unrelayed
    exact nomatch unrelayed

/-- The interface of a relayed request plays no part. -/
theorem directMatches_of_isRelayed (relayed : selector.isRelayed = true) (iface : Option String) :
    topology.directMatches { selector with iface } = topology.directMatches selector := by
  have nothing (other : Option String) :
      topology.onInterface { selector with iface := other } = [] := by
    have stillRelayed : Selector.isRelayed { selector with iface := other } = true := relayed
    unfold onInterface
    split
    · rfl
    · rw [if_pos stillRelayed]
  unfold directMatches
  rw [nothing iface, show topology.onInterface selector = [] from nothing selector.iface]
  rfl

end Matching

/-- Subnets that were kept stay at the front, whatever others come after them. -/
theorem prefix_distinctById_foldl (subnets kept : List Subnet) :
    kept <+: subnets.foldl (fun found subnet =>
      if found.any (·.id == subnet.id) then found else found ++ [subnet]) kept := by
  induction subnets generalizing kept with
  | nil => exact List.prefix_rfl
  | cons head rest ih =>
    rw [List.foldl_cons]
    split
    · exact ih kept
    · exact (List.prefix_append kept [head]).trans (ih _)

/-- The first subnet is kept. -/
theorem head?_distinctById (subnets : List Subnet) :
    (distinctById subnets).head? = subnets.head? := by
  cases subnets with
  | nil => rfl
  | cons head rest =>
    obtain ⟨others, same⟩ := prefix_distinctById_foldl rest [head]
    have kept : distinctById (head :: rest) = [head] ++ others := same.symm
    rw [kept]
    rfl

/-- Of every number a subnet is kept. -/
theorem exists_mem_distinctById {subnets : List Subnet} {subnet : Subnet}
    (member : subnet ∈ subnets) : ∃ kept ∈ distinctById subnets, kept.id = subnet.id := by
  suffices loop : ∀ (rest kept : List Subnet), (∃ old ∈ kept ++ rest, old.id = subnet.id) →
      ∃ old ∈ rest.foldl (fun found subnet =>
        if found.any (·.id == subnet.id) then found else found ++ [subnet]) kept,
        old.id = subnet.id from loop subnets [] ⟨subnet, member, rfl⟩
  intro rest
  induction rest with
  | nil =>
    intro kept ⟨old, inside, same⟩
    exact ⟨old, by simpa using inside, same⟩
  | cons head rest ih =>
    intro kept ⟨old, inside, same⟩
    rw [List.foldl_cons]
    split
    · next present =>
      obtain ⟨earlier, already, equal⟩ := List.any_eq_true.mp present
      apply ih
      rcases List.mem_append.mp inside with before | after
      · exact ⟨old, List.mem_append_left _ before, same⟩
      · rcases List.mem_cons.mp after with rfl | later
        · exact ⟨earlier, List.mem_append_left _ already, (beq_iff_eq.mp equal).trans same⟩
        · exact ⟨old, List.mem_append_right _ later, same⟩
    · exact ih (kept ++ [head]) ⟨old, by simpa using inside, same⟩

namespace Accepted

variable {topology : Topology} (accepted : topology.Accepted)
include accepted

/-- Every subnet is found by its number. -/
theorem subnet?_eq_some {subnet : Subnet} (member : subnet ∈ topology.subnets) :
    topology.subnet? subnet.id = some subnet := by
  rcases accepted with rfl | ⟨config, generation, built⟩
  · exact absurd member List.not_mem_nil
  · exact Topology.subnet?_eq_some built member

/-- A subnet of a shared network is found by its number, and belongs to that network. -/
theorem of_mem_network {network : Network} (listed : network ∈ topology.networks)
    {subnet : Subnet} (member : subnet ∈ network.subnets) :
    topology.subnet? subnet.id = some subnet ∧ topology.networkOf? subnet = some network := by
  rcases accepted with rfl | ⟨config, generation, built⟩
  · exact absurd listed List.not_mem_nil
  · exact (build_consistent built).members network listed subnet member

/-- A subnet refers to the shared network whose subnet it is. -/
theorem networkOf?_eq_some_iff {subnet : Subnet} (member : subnet ∈ topology.subnets)
    {network : Network} : topology.networkOf? subnet = some network ↔
      network ∈ topology.networks ∧ subnet ∈ network.subnets := by
  refine ⟨fun refers => ?_, fun ⟨listed, inside⟩ => (accepted.of_mem_network listed inside).2⟩
  have split : ∃ plain, topology.subnets = plain ++ topology.networks.flatMap (·.subnets) ∧
      ∀ subnet ∈ plain, subnet.network = none := by
    rcases accepted with rfl | ⟨config, generation, built⟩
    · exact ⟨[], rfl, fun _ inside => absurd inside List.not_mem_nil⟩
    · obtain ⟨classes, -, built⟩ := ok_of_bind built
      dsimp only at built
      split at built
      · exact nomatch built
      · obtain ⟨after, -, built⟩ := ok_of_bind built
        obtain ⟨⟨plain, middle⟩, builtPlain, built⟩ := ok_of_bind built
        obtain ⟨⟨networks, last⟩, -, built⟩ := ok_of_bind built
        obtain ⟨_, -, built⟩ := ok_of_bind built
        cases built
        exact ⟨plain, rfl, Builder.network_of_subnets builtPlain⟩
  obtain ⟨plain, listed, unnamed⟩ := split
  rw [listed] at member
  rcases List.mem_append.mp member with outside | inside
  · unfold networkOf? at refers
    rw [unnamed subnet outside] at refers
    exact nomatch refers
  · obtain ⟨other, there, inside⟩ := List.mem_flatMap.mp inside
    obtain rfl := Option.some.inj ((accepted.of_mem_network there inside).2.symm.trans refers)
    exact ⟨there, inside⟩

/-- Siblings of siblings are siblings. -/
theorem areSiblings_trans {first second third : Subnet} (left : topology.AreSiblings first second)
    (right : topology.AreSiblings second third) : topology.AreSiblings first third := by
  obtain ⟨network, listed, inFirst, inSecond⟩ := left
  obtain ⟨other, listedToo, alsoSecond, inThird⟩ := right
  have same := (accepted.of_mem_network listed inSecond).2.symm.trans
    (accepted.of_mem_network listedToo alsoSecond).2
  obtain rfl := Option.some.inj same
  exact ⟨network, listed, inFirst, inThird⟩

/-- A subnet brings along the subnets of its shared network. -/
theorem mem_withSiblings_iff {subnet other : Subnet} (member : subnet ∈ topology.subnets) :
    other ∈ topology.withSiblings subnet ↔ other = subnet ∨ topology.AreSiblings subnet other := by
  unfold withSiblings
  rw [List.mem_cons]
  refine or_congr_right ?_
  cases belongs : topology.networkOf? subnet with
  | none =>
    refine iff_of_false List.not_mem_nil ?_
    rintro ⟨network, listed, inside, -⟩
    exact nomatch belongs.symm.trans (accepted.of_mem_network listed inside).2
  | some network =>
    obtain ⟨listed, inside⟩ := (accepted.networkOf?_eq_some_iff member).mp belongs
    have found : network.subnets.filterMap (topology.subnet? ·.id) = network.subnets :=
      (List.filterMap_congr fun sibling there => (accepted.of_mem_network listed there).1).trans
        List.filterMap_some
    dsimp only
    rw [found]
    refine ⟨fun there => ⟨network, listed, inside, there⟩, ?_⟩
    rintro ⟨another, listedToo, alsoInside, there⟩
    have same := belongs.symm.trans (accepted.of_mem_network listedToo alsoInside).2
    exact Option.some.inj same ▸ there

/-- A request may be served from the subnets that it selects directly and their siblings. -/
theorem mem_candidates_iff {selector : Selector} {subnet : Subnet} :
    subnet ∈ topology.candidates selector ↔ ∃ direct ∈ topology.directMatches selector,
      subnet = direct ∨ topology.AreSiblings direct subnet := by
  have mem_expanded (other : Subnet) :
      other ∈ (topology.directMatches selector).flatMap topology.withSiblings ↔
        ∃ direct ∈ topology.directMatches selector,
          other = direct ∨ topology.AreSiblings direct other := by
    rw [List.mem_flatMap]
    refine exists_congr fun direct => and_congr_right fun selected => ?_
    exact accepted.mem_withSiblings_iff (mem_subnets_of_mem_directMatches selected)
  rw [← mem_expanded]
  refine ⟨mem_of_mem_distinctById, fun member => ?_⟩
  obtain ⟨kept, inside, same⟩ := exists_mem_distinctById member
  -- Both are subnets of the topology, where a number belongs to one subnet only.
  have keptFound := accepted.subnet?_eq_some (mem_subnets_of_mem_candidates inside)
  have found : topology.subnet? subnet.id = some subnet := by
    obtain ⟨direct, selected, rfl | ⟨network, listed, -, there⟩⟩ := (mem_expanded subnet).mp member
    · exact accepted.subnet?_eq_some (mem_subnets_of_mem_directMatches selected)
    · exact (accepted.of_mem_network listed there).1
  rw [same, found] at keptFound
  exact Option.some.inj keptFound ▸ inside

end Accepted

/-- The first candidate of a request is the first subnet that it selects directly. -/
theorem head?_candidates (topology : Topology) (selector : Selector) :
    (topology.candidates selector).head? = topology.firstMatch? selector := by
  unfold candidates firstMatch?
  rw [head?_distinctById]
  cases topology.directMatches selector <;> rfl

end Topology

end Leasehold
