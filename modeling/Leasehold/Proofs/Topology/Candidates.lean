import Leasehold.Selection

/-!
# Where candidates come from

Every candidate that is selected for a request is a subnet of the topology, with the parameters that
hold in it, and no subnet is selected twice. A candidate comes first when it is the first with the
property that is preferred (`prefer_eq_cons`).
-/
namespace Leasehold.Topology

/-- The subnets have different numbers. -/
def DistinctIds (subnets : List Subnet) : Prop :=
  subnets.Pairwise fun left right => left.id ≠ right.id

/-- What is kept of subnets, after those that were kept before them. -/
theorem distinctById_foldl (subnets kept : List Subnet) (distinct : DistinctIds kept) :
    let found := subnets.foldl (fun found subnet =>
      if found.any (·.id == subnet.id) then found else found ++ [subnet]) kept
    DistinctIds found ∧ ∀ subnet ∈ found, subnet ∈ kept ∨ subnet ∈ subnets := by
  induction subnets generalizing kept with
  | nil => exact ⟨distinct, fun _ inside => .inl inside⟩
  | cons head rest ih =>
    by_cases present : kept.any (·.id == head.id) = true
    · obtain ⟨once, origin⟩ := ih kept distinct
      simp only [List.foldl_cons, present, ↓reduceIte]
      refine ⟨once, fun subnet inside => ?_⟩
      rcases origin subnet inside with old | later
      · exact .inl old
      · exact .inr (List.mem_cons_of_mem head later)
    · have longer : DistinctIds (kept ++ [head]) := by
        refine List.pairwise_append.mpr ⟨distinct, List.pairwise_singleton _ _, ?_⟩
        intro old inside last same
        obtain rfl := List.mem_singleton.mp same
        intro equal
        exact present (List.any_eq_true.mpr ⟨old, inside, beq_iff_eq.mpr equal⟩)
      obtain ⟨once, origin⟩ := ih (kept ++ [head]) longer
      simp only [List.foldl_cons, present, Bool.false_eq_true, ↓reduceIte]
      refine ⟨once, fun subnet inside => ?_⟩
      rcases origin subnet inside with old | later
      · rcases List.mem_append.mp old with older | last
        · exact .inl older
        · exact .inr (List.mem_cons.mpr (.inl (List.mem_singleton.mp last)))
      · exact .inr (List.mem_cons_of_mem head later)

/-- Leaving out repetitions adds nothing. -/
theorem mem_of_mem_distinctById {subnets : List Subnet} {subnet : Subnet}
    (member : subnet ∈ distinctById subnets) : subnet ∈ subnets := by
  rcases (distinctById_foldl subnets [] .nil).2 subnet member with nothing | inside
  · exact absurd nothing List.not_mem_nil
  · exact inside

/-- A subnet that a request selects directly belongs to the topology. -/
theorem mem_subnets_of_mem_directMatches {topology : Topology} {selector : Selector}
    {subnet : Subnet} (selected : subnet ∈ topology.directMatches selector) :
    subnet ∈ topology.subnets := by
  have listing (inside : subnet ∈ topology.listingRelay selector) : subnet ∈ topology.subnets := by
    unfold listingRelay at inside
    split at inside
    · exact absurd inside List.not_mem_nil
    · exact (List.mem_filter.mp inside).1
  have containing (inside : subnet ∈ topology.containing selector) :
      subnet ∈ topology.subnets := by
    unfold Topology.containing at inside
    split at inside
    · exact absurd inside List.not_mem_nil
    · exact (List.mem_filter.mp inside).1
  have onInterface (inside : subnet ∈ topology.onInterface selector) :
      subnet ∈ topology.subnets := by
    unfold Topology.onInterface at inside
    split at inside
    · exact absurd inside List.not_mem_nil
    · split at inside
      · exact absurd inside List.not_mem_nil
      · exact (List.mem_filter.mp inside).1
  unfold directMatches at selected
  split at selected
  · next listed => exact listing (listed ▸ selected)
  · split at selected
    · next contained => exact containing (contained ▸ selected)
    · exact onInterface selected

/-- A subnet that a request may be served from belongs to the topology. -/
theorem mem_subnets_of_mem_candidates {topology : Topology} {selector : Selector} {subnet : Subnet}
    (selected : subnet ∈ topology.candidates selector) : subnet ∈ topology.subnets := by
  obtain ⟨first, direct, near⟩ := List.mem_flatMap.mp (mem_of_mem_distinctById selected)
  rcases List.mem_cons.mp near with rfl | sibling
  · exact mem_subnets_of_mem_directMatches direct
  · split at sibling
    · exact absurd sibling List.not_mem_nil
    · obtain ⟨member, -, found⟩ := List.mem_filterMap.mp sibling
      exact List.mem_of_find?_eq_some found

/-- A selected candidate is a subnet that the request matches, with its parameters. -/
theorem exists_candidate_of_mem_select {topology : Topology} {request : Request}
    {candidate : Candidate} (selected : candidate ∈ (topology.select request).candidates) :
    ∃ subnet ∈ topology.candidates request.selector, candidate = topology.candidate subnet := by
  unfold select at selected
  split at selected
  · exact absurd selected List.not_mem_nil
  · next first others matched =>
    have inside := (List.mem_filter.mp selected).1
    rw [← matched] at inside
    obtain ⟨subnet, member, rfl⟩ := List.mem_map.mp inside
    exact ⟨subnet, member, rfl⟩

/-- A selected candidate is a subnet of the topology with its parameters. -/
theorem exists_of_mem_select {topology : Topology} {request : Request} {candidate : Candidate}
    (selected : candidate ∈ (topology.select request).candidates) :
    ∃ subnet ∈ topology.subnets, candidate = topology.candidate subnet := by
  obtain ⟨subnet, member, same⟩ := exists_candidate_of_mem_select selected
  exact ⟨subnet, mem_subnets_of_mem_candidates member, same⟩

/-- Selected candidates are subnets with different numbers. -/
theorem distinct_select (topology : Topology) (request : Request) :
    (topology.select request).candidates.Pairwise fun left right =>
      left.subnet.id ≠ right.subnet.id := by
  have subnets : DistinctIds (topology.candidates request.selector) :=
    (distinctById_foldl _ [] .nil).1
  have mapped : ((topology.candidates request.selector).map topology.candidate).Pairwise
      fun left right => left.subnet.id ≠ right.subnet.id := List.pairwise_map.mpr subnets
  unfold select
  split
  · exact .nil
  · next first others matched =>
    rw [matched] at mapped
    dsimp only
    exact mapped.filter _

/-- A candidate with a property comes first when the property is preferred, if no candidate before it
has the property. -/
theorem prefer_eq_cons {selection : Selection}
    (distinct : selection.candidates.Pairwise fun left right => left.subnet.id ≠ right.subnet.id)
    {wanted : Candidate → Bool} {candidate : Candidate} (member : candidate ∈ selection.candidates)
    (wants : wanted candidate = true)
    (earlier : ∀ other ∈ selection.candidates.takeWhile (·.subnet.id != candidate.subnet.id),
      wanted other = false) :
    ∃ others, (selection.prefer wanted).candidates = candidate :: others := by
  obtain ⟨classes, candidates, global⟩ := selection
  suffices first : ∃ others, candidates.filter wanted = candidate :: others by
    obtain ⟨others, filtered⟩ := first
    refine ⟨others ++ candidates.filter (!wanted ·), ?_⟩
    unfold Selection.prefer
    rw [filtered, List.cons_append]
  dsimp only at distinct member earlier
  induction candidates with
  | nil => exact absurd member List.not_mem_nil
  | cons head rest ih =>
    obtain ⟨different, later⟩ := List.pairwise_cons.mp distinct
    by_cases same : head.subnet.id = candidate.subnet.id
    · have here : head = candidate := by
        rcases List.mem_cons.mp member with here | inside
        · exact here.symm
        · exact absurd same (different candidate inside)
      subst here
      exact ⟨rest.filter wanted, List.filter_cons_of_pos wants⟩
    · have passed : (head.subnet.id != candidate.subnet.id) = true := bne_iff_ne.mpr same
      rw [List.takeWhile_cons, if_pos passed] at earlier
      have unwanted : wanted head = false := earlier head List.mem_cons_self
      have inside : candidate ∈ rest := by
        rcases List.mem_cons.mp member with rfl | inside
        · exact absurd rfl same
        · exact inside
      rw [List.filter_cons_of_neg (by simp [unwanted])]
      exact ih later inside fun other before => earlier other (List.mem_cons_of_mem head before)

end Leasehold.Topology
