import Leasehold.Proofs.Classes.Membership
import Leasehold.Proofs.Engine.Dynamic

/-!
# Guards of subnets

A subnet is selected by the classes that are resolved from what is known by then: the global
reservation of the client where some candidate consults those, and otherwise nothing about
reservations. Once the subnet is selected, the reservation that applies in it is known, and the
classes that a grant reports are resolved anew. The guards of the subnet and of its shared network
hold of the former (`guards_of_grant`). They hold of the latter where the subnet itself consults
global reservations, and for every guard that does not depend on what has become known in between.
A guard whose test asks whether the client lacks a reservation is met at first, and no longer in the
end (`guard_left_behind`).
-/
namespace Leasehold

namespace Topology

variable {topology : Topology} {request : Request}

/-- The candidates of a request before their guards are looked at. -/
def matched (topology : Topology) (request : Request) : List Candidate :=
  (topology.candidates request.selector).map topology.candidate

/-- What is known about the client of a request when a subnet is selected for it. -/
def selectionFacts (topology : Topology) (request : Request) : ClassFacts :=
  if (topology.matched request).any (·.params.reservationMode.usesGlobal) then
    request.factsWith (topology.reservations.lookup .global request.identifiers)
  else request.facts

/-- A subnet is selected for the client of the request. -/
theorem identifiers_selectionFacts (topology : Topology) (request : Request) :
    (topology.selectionFacts request).identifiers = request.identifiers := by
  unfold selectionFacts
  split <;> rfl

/-- A subnet is selected for the interface that the request came in on. -/
theorem iface_selectionFacts (topology : Topology) (request : Request) :
    (topology.selectionFacts request).iface = request.selector.iface := by
  unfold selectionFacts
  split <;> rfl

/-- The classes that a subnet and its shared network require. -/
def guards (topology : Topology) (subnet : Subnet) : List String :=
  subnet.guard.toList ++ ((topology.networkOf? subnet).bind (·.guard)).toList

/-- A subnet is open to the classes that contain all of its guards. -/
theorem contains_of_isOpen {classes : ClassSet} {subnet : Subnet}
    (opened : topology.isOpen classes subnet = true) {guard : String}
    (required : guard ∈ topology.guards subnet) : classes.contains guard = true := by
  have admits {guards : Option String} (allowed : classes.allows guards = true)
      (listed : guard ∈ guards.toList) : classes.contains guard = true := by
    obtain rfl : guards = some guard := Option.mem_toList.mp listed
    exact allowed
  obtain ⟨own, shared⟩ := (Bool.and_eq_true _ _).mp opened
  rcases List.mem_append.mp required with here | there
  · exact admits own here
  · exact admits shared there

/-- A selected subnet matches the request, and is open to the classes of the selection. -/
theorem of_mem_select {candidate : Candidate}
    (selected : candidate ∈ (topology.select request).candidates) :
    candidate ∈ topology.matched request ∧
      (topology.select request).classes =
        topology.classes.resolve (topology.selectionFacts request) ∧
      topology.isOpen (topology.select request).classes candidate.subnet = true := by
  unfold selectionFacts matched
  unfold select at selected ⊢
  split at selected
  · exact absurd selected List.not_mem_nil
  · next first others found =>
    obtain ⟨inside, opened⟩ := List.mem_filter.mp selected
    rw [found]
    refine ⟨inside, ?_, opened⟩
    dsimp only
    split
    · rfl
    · rfl

/-- In a selected subnet that consults global reservations, the one that applies was known when the
subnet was selected. -/
theorem selectionFacts_of_global {candidate : Candidate}
    (matching : candidate ∈ topology.matched request)
    (mode : candidate.params.reservationMode = .global) :
    topology.selectionFacts request =
      request.factsWith (topology.reservation? candidate request.identifiers) := by
  have consulted :
      (topology.matched request).any (·.params.reservationMode.usesGlobal) = true := by
    refine List.any_eq_true.mpr ⟨candidate, matching, ?_⟩
    rw [mode]
    rfl
  unfold selectionFacts reservation?
  rw [if_pos consulted, mode]
  rfl

end Topology

namespace Engine

section Grant

variable {topology : Topology} {request : Request} {mode : AllocationMode} {limit : Option Nat}

/-- The classes by which a subnet was selected contain its guards and those of its shared network.
The classes that a grant reports are resolved anew, with the reservation that applies in the subnet.
They contain these guards too where the mode of the subnet consults global reservations, and in the
other modes every guard of which no class that is reached from it, built in or assigned by a
reservation, has been added or dropped in between. -/
theorem guards_of_grant (around : Surroundings) (state : State) {grant : Grant}
    (granted : (state.run around (allocate topology request mode limit)).1 = .ok grant) :
    ∃ candidate ∈ (topology.select request).candidates, candidate.subnet.id = grant.subnet ∧
      let selected := topology.selectionFacts request
      let applied := request.factsWith (topology.reservation? candidate request.identifiers)
      (topology.select request).classes = topology.classes.resolve selected ∧
      grant.classes = topology.classes.resolve applied ∧
      ∀ guard ∈ topology.guards candidate.subnet,
        (topology.select request).classes.contains guard = true ∧
        (candidate.params.reservationMode = .global → grant.classes.contains guard = true) ∧
        (selected.initial.AgreeOn (topology.classes.Reaches guard) applied.initial →
          grant.classes.contains guard = true) := by
  obtain ⟨owners, attempt, target, -, serves, provides⟩ :=
    exists_of_run_allocate (State.scene_run granted)
  obtain ⟨inside, resolved, opened⟩ := Topology.of_mem_select serves.selected
  have reported : grant.classes = topology.classes.resolve
      (request.factsWith (topology.reservation? attempt.candidate request.identifiers)) := by
    rw [provides.granted]
    exact serves.classes_eq
  refine ⟨attempt.candidate, serves.selected, provides.subnet.symm, resolved, reported,
    fun guard required => ?_⟩
  have met := Topology.contains_of_isOpen opened required
  refine ⟨met, fun global => ?_, fun agree => ?_⟩
  · rw [reported, ← Topology.selectionFacts_of_global inside global, ← resolved]
    exact met
  · rw [reported, ← ClassTable.contains_resolve_congr
      (topology.identifiers_selectionFacts request) (topology.iface_selectionFacts request) agree,
      ← resolved]
    exact met

end Grant

namespace Sample

/-- The small network with a subnet for clients that are not known to lack a reservation. -/
def guarded : Topology :=
  (Topology.build { config with
    clientClasses := [⟨"fresh", some "not member('UNKNOWN')"⟩]
    subnets := config.subnets.map fun subnet =>
      { subnet with clientClass := some "fresh" } } 1).toOption.getD .empty

/-- Every subnet that is selected for the first client is guarded. -/
theorem guards_guarded : ∀ candidate ∈ (guarded.select (request 1)).candidates,
    "fresh" ∈ guarded.guards candidate.subnet := by decide +kernel

/-- What the first client is granted, and the classes that are reported. -/
theorem run_guarded : (State.initial.run (around 0)
    (allocate guarded (request 1) .commit none)).1.toOption.map (·.classes.names) =
      some ["ALL", "UNKNOWN"] := by decide +kernel

end Sample

/-- The conditions can be met: the first client is granted the only address of a guarded subnet, and
the classes by which the subnet was selected contain the guard. -/
theorem guards_of_grant_of_first_client :
    ∃ grant, (State.initial.run (Sample.around 0)
        (allocate Sample.guarded (Sample.request 1) .commit none)).1 = .ok grant ∧
      (Sample.guarded.select (Sample.request 1)).classes.contains "fresh" = true := by
  obtain ⟨grant, granted, -⟩ := ok_of_toOption Sample.run_guarded
  obtain ⟨candidate, selected, -, -, -, guards⟩ :=
    guards_of_grant (Sample.around 0) State.initial granted
  exact ⟨grant, granted, (guards "fresh" (Sample.guards_guarded candidate selected)).1⟩

/-- The classes that are reported do not always contain the guard of the subnet: that the client
lacks a reservation is not known when the subnet is selected, and is known in the end. -/
theorem guard_left_behind :
    ¬ ∀ (topology : Topology) (history : List Event) (request : Request) (mode : AllocationMode)
      (limit : Option Nat) (around : Surroundings) (grant : Grant), topology.Accepted →
      ((State.initial.play history).run around (allocate topology request mode limit)).1 =
        .ok grant →
      ∃ subnet ∈ topology.subnets, subnet.id = grant.subnet ∧
        ∀ guard ∈ topology.guards subnet, grant.classes.contains guard = true := by
  intro hold
  obtain ⟨grant, granted, reported⟩ := ok_of_toOption Sample.run_guarded
  obtain ⟨subnet, inside, -, guards⟩ := hold Sample.guarded [] (Sample.request 1) .commit none
    (Sample.around 0) grant (Topology.accepted_build _ _) granted
  have required : ∀ subnet ∈ Sample.guarded.subnets,
      "fresh" ∈ Sample.guarded.guards subnet := by decide +kernel
  have contained := guards "fresh" (required subnet inside)
  unfold ClassSet.contains at contained
  rw [reported] at contained
  exact absurd contained (by decide)

end Engine

end Leasehold
