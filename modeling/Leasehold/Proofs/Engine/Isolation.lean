import Leasehold.Proofs.Engine.Reserved
import Leasehold.Proofs.Topology.Reservations

/-!
# Reservations of other scopes

A subnet in global mode consults the global reservations, one in the modes `all` and `outOfPool` its
own, and one in disabled mode none. A request consults what the subnets that it matches consult,
whether or not the classes of the client admit it to them. Reservations of any other scope are out
of its reach: they decide neither which subnets are selected and to which classes the client
belongs, nor what is fixed for the client, nor what is kept from it, nor the name on the lease.
Topologies whose configurations differ in such reservations only carry out the same allocation
(`reservations_out_of_reach`).
-/
namespace Leasehold

/-- In the mode, a subnet consults the reservations of the scope. -/
def ReservationMode.Consults (mode : ReservationMode) (subnet : SubnetId) : Scope → Prop
  | .global => mode = .global
  | .subnet id => id = subnet ∧ (mode = .all ∨ mode = .outOfPool)

namespace ReservationMode

variable {mode : ReservationMode} {subnet : SubnetId}

/-- Where global reservations count, they are consulted. -/
theorem consults_global (uses : mode.usesGlobal = true) : mode.Consults subnet .global := by
  cases mode
  · exact nomatch uses
  · exact nomatch uses
  · rfl
  · exact nomatch uses

/-- Where the reservations of the subnet count, they are consulted. -/
theorem consults_subnet (uses : mode.usesSubnet = true) :
    mode.Consults subnet (.subnet subnet) := by
  cases mode
  · exact nomatch uses
  · exact ⟨rfl, .inr rfl⟩
  · exact nomatch uses
  · exact ⟨rfl, .inl rfl⟩

/-- A subnet stays clear of reservations of a scope that it consults. -/
theorem consults_of_protectedScope? {scope : Scope}
    (guarded : mode.protectedScope? subnet = some scope) : mode.Consults subnet scope := by
  cases mode
  · exact nomatch guarded
  · exact nomatch guarded
  · obtain rfl := Option.some.inj guarded
    rfl
  · obtain rfl := Option.some.inj guarded
    exact ⟨rfl, .inl rfl⟩

end ReservationMode

namespace Topology

/-- Requests from an origin consult the reservations of the scope: a subnet that they match does,
whether or not the client is admitted to it. -/
def Consults (topology : Topology) (selector : Selector) (scope : Scope) : Prop :=
  ∃ subnet ∈ topology.candidates selector,
    (topology.params subnet).reservationMode.Consults subnet.id scope

/-- What a selected subnet consults, the request consults. -/
theorem consults_of_mem_select {topology : Topology} {request : Request} {candidate : Candidate}
    (selected : candidate ∈ (topology.select request).candidates) {scope : Scope}
    (consults : candidate.params.reservationMode.Consults candidate.subnet.id scope) :
    topology.Consults request.selector scope := by
  obtain ⟨subnet, member, rfl⟩ := exists_candidate_of_mem_select selected
  exact ⟨subnet, member, consults⟩

/-- The topology with other reservations, as of another generation. -/
def withReservations (topology : Topology) (generation : Nat) (index : ReservationIndex) :
    Topology :=
  { topology with generation, reservations := index }

section WithReservations

variable (topology : Topology) (generation : Nat) (index : ReservationIndex)

/-- The subnets that a request matches do not depend on reservations. -/
@[simp]
theorem candidates_withReservations :
    (topology.withReservations generation index).candidates = topology.candidates := rfl

/-- Neither do the settings that a subnet is tried with. -/
@[simp]
theorem candidate_withReservations :
    (topology.withReservations generation index).candidate = topology.candidate := rfl

/-- Guards are checked against the classes alone. -/
@[simp]
theorem isOpen_withReservations :
    (topology.withReservations generation index).isOpen = topology.isOpen := rfl

/-- The definitions of classes are kept. -/
@[simp]
theorem classes_withReservations :
    (topology.withReservations generation index).classes = topology.classes := rfl

/-- With one reservation given, a client belongs to the same classes. -/
@[simp]
theorem classesWith_withReservations :
    (topology.withReservations generation index).classesWith = topology.classesWith := rfl

/-- The other reservations are those that are asked. -/
@[simp]
theorem reservations_withReservations :
    (topology.withReservations generation index).reservations = index := rfl

/-- With one reservation given, the attempt at a request is the same. -/
@[simp]
theorem ofReservation_withReservations :
    Attempt.ofReservation (topology.withReservations generation index) =
      Attempt.ofReservation topology := rfl

end WithReservations

/-- About every scope that requests from an origin consult, an index answers as the topology does. -/
structure AnswersAlike (topology : Topology) (index : ReservationIndex) (selector : Selector) :
    Prop where
  /-- Clients have the same reservations. -/
  lookup : ∀ {scope}, topology.Consults selector scope →
    index.lookup scope = topology.reservations.lookup scope
  /-- The same addresses are reserved for others. -/
  reservedForOther : ∀ {scope}, topology.Consults selector scope →
    index.reservedForOther scope = topology.reservations.reservedForOther scope

/-- Topologies that were built from configurations with the same reservations in every scope that is
consulted answer alike. -/
theorem AnswersAlike.of_build {former latter : Config} {generation later : Nat}
    {topology other : Topology} {selector : Selector}
    (built : build former generation = .ok topology) (builtOther : build latter later = .ok other)
    (rest : former.withoutReservations = latter.withoutReservations)
    (same : ∀ scope, topology.Consults selector scope →
      ∀ entry, entry ∈ former.reservationsIn topology.subnets scope ↔
        entry ∈ latter.reservationsIn other.subnets scope) :
    topology.AnswersAlike other.reservations selector := by
  have order : former.withoutReservations.identifierOrder =
      latter.withoutReservations.identifierOrder := congrArg _ rest
  have extended := extends_of_build built
  have extendedOther := extends_of_build builtOther
  have shares {scope : Scope} (consulted : topology.Consults selector scope) :
      topology.reservations.SharesScope other.reservations scope :=
    sharesScope_of_reservationsIn built builtOther (same scope consulted)
  constructor
  · intro scope consulted
    refine (ReservationIndex.lookup_eq_of_sharesScope (shares consulted) ?_ ?_ ?_).symm
    · rw [extended.order_eq, extendedOther.order_eq]
      exact order
    · exact (ReservationIndex.isFaithful_empty _).extends extended
    · exact (ReservationIndex.isFaithful_empty _).extends extendedOther
  · intro scope consulted
    refine (ReservationIndex.reservedForOther_eq_of_sharesScope (shares consulted) ?_ ?_).symm
    · exact (ReservationIndex.isConsistent_empty _).extends extended
    · exact (ReservationIndex.isConsistent_empty _).extends extendedOther

namespace AnswersAlike

variable {topology : Topology} {request : Request} {index : ReservationIndex}
  (alike : topology.AnswersAlike index request.selector) (generation : Nat)

include alike

/-- The same subnets are selected, for the same classes. -/
theorem select_eq :
    (topology.withReservations generation index).select request = topology.select request := by
  -- Global reservations are looked up only when a subnet that matches consults them.
  have global (consulted : ((topology.candidates request.selector).map topology.candidate).any
      (·.params.reservationMode.usesGlobal) = true) :
      index.lookup .global = topology.reservations.lookup .global := by
    obtain ⟨candidate, matched, uses⟩ := List.any_eq_true.mp consulted
    obtain ⟨subnet, member, rfl⟩ := List.mem_map.mp matched
    exact alike.lookup ⟨subnet, member, ReservationMode.consults_global uses⟩
  unfold select
  simp only [candidates_withReservations, candidate_withReservations, isOpen_withReservations,
    classes_withReservations, classesWith_withReservations, reservations_withReservations]
  split
  · rfl
  · next first others matched =>
    rw [matched] at global
    split
    · next consulted => rw [global consulted]
    · rfl

/-- The client has the same reservation in a selected subnet. -/
theorem reservation?_eq {candidate : Candidate}
    (selected : candidate ∈ (topology.select request).candidates) :
    (topology.withReservations generation index).reservation? candidate =
      topology.reservation? candidate := by
  funext ids
  unfold reservation?
  dsimp only [reservations_withReservations]
  split
  · next uses =>
    rw [alike.lookup (consults_of_mem_select selected (ReservationMode.consults_global uses))]
  · split
    · next uses =>
      rw [alike.lookup (consults_of_mem_select selected (ReservationMode.consults_subnet uses))]
    · rfl

/-- The same addresses are kept from the client in a selected subnet. -/
theorem isKeptForOther_eq {attempt : Attempt}
    (selected : attempt.candidate ∈ (topology.select request).candidates) :
    attempt.isKeptForOther (topology.withReservations generation index) =
      attempt.isKeptForOther topology := by
  funext address
  unfold Attempt.isKeptForOther
  split
  · rfl
  · next scope guarded =>
    have consults := ReservationMode.consults_of_protectedScope? guarded
    rw [reservations_withReservations,
      alike.reservedForOther (consults_of_mem_select selected consults)]

end AnswersAlike

end Topology

namespace Engine

variable {left right : Topology} {attempt : Attempt}

section Dynamic

variable (kept : attempt.isKeptForOther left = attempt.isKeptForOther right)

include kept

/-- An address is tried in the same way. -/
theorem tryTarget_congr : tryTarget left attempt = tryTarget right attempt := by
  funext target
  unfold tryTarget
  rw [kept]

/-- So are addresses one after another. -/
theorem tryTargets_congr (busy : Option Address) (targets : List Target) :
    tryTargets left attempt busy targets = tryTargets right attempt busy targets := by
  induction targets generalizing busy with
  | nil => rfl
  | cons target rest ih =>
    unfold tryTargets
    rw [tryTarget_congr kept]
    refine bind_congr fun tried => ?_
    cases tried with
    | granted grant => rfl
    | unavailable => exact ih busy
    | busy => exact ih _

/-- A walk through a pool tries the same candidates in the same way. -/
theorem walkPool_congr (pool : Pool) (walk : PoolWalk) (remaining offset : Nat)
    (busy : Option Address) :
    walkPool left attempt pool walk remaining offset busy =
      walkPool right attempt pool walk remaining offset busy := by
  induction remaining generalizing offset busy with
  | zero => rfl
  | succ remaining ih =>
    unfold walkPool
    cases pool.nth? (walk.index offset) with
    | none => rfl
    | some address =>
      dsimp only
      rw [tryTarget_congr kept]
      refine bind_congr fun tried => ?_
      cases tried with
      | granted grant => rfl
      | unavailable => exact ih _ _
      | busy => exact ih _ _

/-- A search of pools tries the same candidates in the same way. -/
theorem searchPools_congr (limit : Option Nat) (busy : Option Address) (pools : List Pool) :
    searchPools left attempt limit busy pools = searchPools right attempt limit busy pools := by
  induction pools generalizing busy with
  | nil => rfl
  | cons pool rest ih =>
    unfold searchPools
    refine bind_congr fun start => ?_
    dsimp only
    rw [walkPool_congr kept]
    refine bind_congr fun found => ?_
    cases found with
    | granted grant => rfl
    | exhausted busy => exact ih busy

/-- A search of the subnet takes the same course. -/
theorem searchSubnet_congr (limit : Option Nat) (leases : List Lease) :
    searchSubnet left attempt limit leases = searchSubnet right attempt limit leases := by
  unfold searchSubnet
  rw [tryTargets_congr kept]
  refine bind_congr fun found => ?_
  cases found with
  | granted grant => rfl
  | exhausted busy => exact searchPools_congr kept limit busy _

/-- Reservations decide about dynamic allocation by what they keep from the client. -/
theorem allocateDynamic_congr (limit : Option Nat) (leases : List Lease) :
    allocateDynamic left attempt limit leases = allocateDynamic right attempt limit leases := by
  unfold allocateDynamic
  rw [searchSubnet_congr kept]

end Dynamic

section Allocation

variable {topology : Topology} {index : ReservationIndex} {request : Request}
  (alike : topology.AnswersAlike index request.selector) (generation : Nat)
  (mode : AllocationMode) (limit : Option Nat)

include alike

/-- In a selected subnet, an allocation takes the same course. -/
theorem allocateIn_eq (leases : List Lease) {candidate : Candidate}
    (selected : candidate ∈ (topology.select request).candidates) :
    allocateIn (topology.withReservations generation index) request mode limit leases candidate =
      allocateIn topology request mode limit leases candidate := by
  unfold allocateIn
  rw [alike.reservation?_eq generation selected, Topology.ofReservation_withReservations]
  cases ownerIn request candidate with
  | none => rfl
  | some owner =>
    refine bind_congr fun _ => bind_congr fun now => ?_
    dsimp only
    split
    · rfl
    · exact allocateDynamic_congr (alike.isKeptForOther_eq generation selected) limit leases

/-- So it does in selected subnets one after another. -/
theorem allocateAmong_eq (leases : List Lease) (last : SubnetId) (busy : Option Address)
    {candidates : List Candidate}
    (selected : ∀ candidate ∈ candidates, candidate ∈ (topology.select request).candidates) :
    allocateAmong (topology.withReservations generation index) request mode limit leases last busy
        candidates =
      allocateAmong topology request mode limit leases last busy candidates := by
  induction candidates generalizing last busy with
  | nil => rfl
  | cons candidate rest ih =>
    unfold allocateAmong
    rw [allocateIn_eq alike generation mode limit leases (selected candidate List.mem_cons_self)]
    refine bind_congr fun found => ?_
    cases found with
    | granted grant => rfl
    | exhausted skipped =>
      exact ih _ _ fun other member => selected other (List.mem_cons_of_mem candidate member)

/-- The request is served in the same way. -/
theorem serve_eq :
    serve (topology.withReservations generation index) request mode limit =
      serve topology request mode limit := by
  unfold serve
  rw [alike.select_eq generation]
  split
  · rfl
  · dsimp only
    split
    · rfl
    · unfold allocateSelected
      split
      · rfl
      · refine bind_congr fun leases => bind_congr fun now => ?_
        apply allocateAmong_eq alike
        -- Candidates are preferred in another order, but they are the selected ones.
        exact fun candidate member => (mem_prefer_iff _ _ candidate).mp member

/-- An allocation is the same task with reservations that answer alike about the consulted scopes. -/
theorem allocate_eq :
    allocate (topology.withReservations generation index) request mode limit =
      allocate topology request mode limit := by
  unfold allocate
  rw [serve_eq alike]

end Allocation

/-- Reservations out of the reach of a request do not touch it: where two configurations differ in
their reservations only, and have the same ones in every scope that the request consults, an
allocation has the same result under both, and leaves the same state. -/
theorem reservations_out_of_reach {former latter : Config} {generation later : Nat}
    {topology other : Topology} {request : Request}
    (built : Topology.build former generation = .ok topology)
    (builtOther : Topology.build latter later = .ok other)
    (rest : former.withoutReservations = latter.withoutReservations)
    (same : ∀ scope, topology.Consults request.selector scope →
      ∀ entry, entry ∈ former.reservationsIn topology.subnets scope ↔
        entry ∈ latter.reservationsIn other.subnets scope)
    (mode : AllocationMode) (limit : Option Nat) (around : Surroundings) (state : State) :
    state.run around (allocate topology request mode limit) =
      state.run around (allocate other request mode limit) := by
  have alike : topology.AnswersAlike other.reservations request.selector :=
    .of_build built builtOther rest same
  have differs : other = topology.withReservations other.generation other.reservations :=
    Topology.eq_of_withoutReservations_eq built builtOther rest
  rw [differs, allocate_eq alike]

namespace Sample

/-- The topology in which nothing is reserved. -/
def unreserved (mode : ReservationMode) : Topology :=
  (reservingIn mode).withReservations 1 (.empty [.hwAddress])

/-- The topology is what its configuration is built into. -/
theorem build_unreserved (mode : ReservationMode) :
    Topology.build (delegatingParts mode []) 1 = .ok (unreserved mode) :=
  Topology.build_withoutReservations (build_reservingIn mode) 1

end Sample

/-- The conditions can be met: a block that the subnet delegates from is reserved for the second
client, but globally, while the subnet consults its own reservations. -/
theorem reservations_out_of_reach_of_first_client :
    Sample.whole ∈ Sample.wholeReserved.blocks ∧
    Sample.wholeReserved ∈ (Sample.reservingIn .all).reservations.hosts ∧
    State.initial.run (Sample.around 0)
        (allocate (Sample.reservingIn .all) (Sample.requestBlock 1) .commit none) =
      State.initial.run (Sample.around 0)
        (allocate (Sample.unreserved .all) (Sample.requestBlock 1) .commit none) := by
  refine ⟨by decide, ?_, ?_⟩
  · change Sample.wholeReserved ∈ #[].push Sample.wholeReserved
    simp
  · apply reservations_out_of_reach (Sample.build_reservingIn .all) (Sample.build_unreserved .all) rfl
    intro scope consulted entry
    obtain ⟨subnet, matched, consults⟩ := consulted
    have mode : ∀ subnet ∈ (Sample.reservingIn .all).candidates (Sample.requestBlock 1).selector,
        ((Sample.reservingIn .all).params subnet).reservationMode = .all := by decide +kernel
    rw [mode subnet matched] at consults
    cases scope with
    | global => exact nomatch consults
    | subnet id => exact Iff.rfl

end Engine

end Leasehold
