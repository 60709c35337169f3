import Leasehold.Proofs.Engine.Outcomes
import Leasehold.Proofs.Engine.Guards
import Leasehold.Proofs.Topology.Agreement
import Leasehold.Proofs.Topology.Matching

/-!
# Selecting subnets for a request

The subnets that match a request are those it selects directly and their siblings. Of these the
classes of the client keep the open ones, in the order they had, and an allocation ends for want of
a subnet exactly when none of them is left (`selection_spec`).
-/
namespace Leasehold

namespace Topology

variable {topology : Topology} {request : Request}

/-- A subnet is open to the classes that contain all of its guards. -/
theorem isOpen_eq_all (topology : Topology) (classes : ClassSet) (subnet : Subnet) :
    topology.isOpen classes subnet = (topology.guards subnet).all classes.contains := by
  unfold isOpen guards ClassSet.allows
  cases subnet.guard <;> cases (topology.networkOf? subnet).bind (·.guard) <;> simp

/-- Where subnets match a request, the classes that decide about them are resolved from what is
known of the client by then. -/
theorem classes_select (matching : topology.candidates request.selector ≠ []) :
    (topology.select request).classes =
      topology.classes.resolve (topology.selectionFacts request) := by
  unfold select selectionFacts matched
  split
  · next unmatched => exact absurd (List.map_eq_nil_iff.mp unmatched) matching
  · next first others found =>
    rw [found]
    dsimp only
    split
    · rfl
    · rfl

/-- The selected candidates are those that are open to the classes, in the order they had. -/
theorem candidates_select (topology : Topology) (request : Request) :
    (topology.select request).candidates =
      ((topology.candidates request.selector).filter fun subnet =>
        (topology.guards subnet).all (topology.select request).classes.contains).map
          topology.candidate := by
  have filtered : (topology.select request).candidates =
      (topology.matched request).filter fun candidate =>
        topology.isOpen (topology.select request).classes candidate.subnet := by
    unfold select matched
    split
    · next unmatched => rw [unmatched, List.filter_nil]
    · next first others found => rw [found]
  rw [filtered, matched, List.filter_map]
  congr 2
  funext subnet
  exact topology.isOpen_eq_all _ subnet

end Topology

namespace Engine

/-- What selecting subnets comes to. The candidates of a request are the subnets that match it and
their siblings, each once, and begin with the first that matches. For a relayed request, what
matches lists the relay or contains the address that it gives, whatever the interface. The selected
ones are those whose guards, their own and that of their shared network, are among the classes of
the selection, and an allocation ends for want of a subnet exactly when there are none, unless the
client presents no identifier. -/
theorem selection_spec {topology : Topology} (accepted : topology.Accepted) (request : Request) :
    let candidates := topology.candidates request.selector
    let selection := topology.select request
    ((candidates.map (·.id)).Nodup ∧
      candidates.head? = topology.firstMatch? request.selector ∧
      (∀ subnet, subnet ∈ candidates ↔ ∃ direct ∈ topology.subnets,
        topology.Matches request.selector direct ∧
          (subnet = direct ∨ topology.AreSiblings direct subnet)) ∧
      ∀ subnet ∈ candidates, ∀ sibling, topology.AreSiblings subnet sibling →
        sibling ∈ candidates) ∧
    (request.selector.isRelayed = true →
      (∀ subnet ∈ candidates, ∃ direct ∈ topology.subnets,
        (topology.ListsRelay request.selector direct ∨ ∃ address,
          request.selector.linkSelection.or request.selector.relayAddress = some address ∧
            direct.contains address = true) ∧
          (subnet = direct ∨ topology.AreSiblings direct subnet)) ∧
      ∀ iface, topology.candidates { request.selector with iface } = candidates) ∧
    (candidates ≠ [] →
      selection.classes = topology.classes.resolve (topology.selectionFacts request)) ∧
    selection.candidates = (candidates.filter fun subnet =>
      (topology.guards subnet).all selection.classes.contains).map topology.candidate ∧
    ∀ mode limit {σ : Type} (answer : (question : Ask) → σ → Reply question × σ) (state : σ),
      ((allocate topology request mode limit).run answer state).1 = .error .noSubnet ↔
        request.identifiers.isEmpty = false ∧
          ∀ subnet ∈ candidates, ∃ guard ∈ topology.guards subnet,
            selection.classes.contains guard = false := by
  intro candidates selection
  have mem_iff (subnet : Subnet) : subnet ∈ candidates ↔ ∃ direct ∈ topology.subnets,
      topology.Matches request.selector direct ∧
        (subnet = direct ∨ topology.AreSiblings direct subnet) := by
    rw [accepted.mem_candidates_iff]
    simp only [Topology.mem_directMatches_iff, and_assoc]
  have kept := topology.candidates_select request
  refine ⟨⟨?once, topology.head?_candidates _, mem_iff, ?closed⟩, fun relayed => ⟨?origin, ?iface⟩,
    Topology.classes_select, kept, fun mode limit _ answer state => ?verdict⟩
  case once => exact List.pairwise_map.mpr (Topology.distinctById_foldl _ [] .nil).1
  case closed =>
    intro subnet member sibling siblings
    obtain ⟨direct, inside, matching, near⟩ := (mem_iff subnet).mp member
    refine (mem_iff sibling).mpr ⟨direct, inside, matching, .inr ?_⟩
    rcases near with rfl | near
    · exact siblings
    · exact accepted.areSiblings_trans near siblings
  case origin =>
    intro subnet member
    obtain ⟨direct, inside, matching, near⟩ := (mem_iff subnet).mp member
    exact ⟨direct, inside, matching.of_isRelayed relayed, near⟩
  case iface =>
    intro iface
    unfold candidates Topology.candidates
    rw [Topology.directMatches_of_isRelayed relayed]
  case verdict =>
    rw [run_allocate_eq_noSubnet_iff, kept, List.map_eq_nil_iff, List.filter_eq_nil_iff]
    simp only [List.all_eq_true, not_forall, Bool.not_eq_true]
    refine and_congr_right fun _ => forall_congr' fun subnet => forall_congr' fun _ => ?_
    exact exists_congr fun guard => exists_prop

namespace Sample

/-- The first client asks for an address through a relay in its subnet. -/
def relayed : Request :=
  { request 1 with selector := ⟨some "lan", some address, none, none, none⟩ }

end Sample

/-- The condition can be met: a relayed request is served from both subnets of a shared network,
though neither is on the interface that it came in on. -/
theorem selection_spec_of_relayed_request :
    let topology := Topology.Sample.hallwayTopology none
    let candidates := topology.candidates Sample.relayed.selector
    candidates.map (·.id) = [1, 2] ∧ (candidates.map (·.id)).Nodup ∧
      candidates.head? = topology.firstMatch? Sample.relayed.selector ∧
      ∀ iface, topology.candidates { Sample.relayed.selector with iface } = candidates := by
  intro topology candidates
  have accepted : topology.Accepted := Topology.accepted_build _ _
  have known : candidates.map (·.id) = [1, 2] := by decide +kernel
  obtain ⟨⟨once, first, -⟩, relayed, -⟩ := selection_spec accepted Sample.relayed
  exact ⟨known, once, first, (relayed rfl).2⟩

end Engine

end Leasehold
