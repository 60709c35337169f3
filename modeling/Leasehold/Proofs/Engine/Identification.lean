import Leasehold.Proofs.Engine.Outcomes
import Leasehold.Proofs.Engine.Exhaustion

/-!
# Which clients count as unidentified

Leases are recorded against an identifier of the client, its owner, and which one that is may depend
on the subnet: a client identifier is passed over in a subnet that does not go by it. An allocation
takes the client for unidentified when it presents no identifier, when it has an owner in none of the
selected subnets, and when it presents a client identifier on which these subnets disagree and
nothing that they agree on. In the last case it has an owner in some of them, and yet is turned away
from all. In every other case it is served wherever there is an address for it
(`missingIdentifier_spec`).
-/
namespace Leasehold

open Engine (Surroundings Scene)

/-- A client has no owner when it presents neither a unique identifier nor a hardware address, and a
client identifier only where that does not count. -/
theorem ClientIdentifiers.owner?_eq_none_iff (ids : ClientIdentifiers) (matchClientId : Bool) :
    ids.owner? matchClientId = none ↔
      ids.duid = none ∧ ids.hwAddress = none ∧ (matchClientId = true → ids.clientId = none) := by
  unfold owner?
  cases matchClientId <;> simp [identifier?, get?, and_comm]

/-- There is an address for the client in an attempt: the one that is fixed for it can be had, or
none is fixed, and a walk through a pool comes to one that is available. -/
inductive Attempt.HasAddress (attempt : Attempt) (topology : Topology) (around : Surroundings)
    (scene : Scene) (limit : Option Nat) : Prop where
  /-- The reservation of the client fixes an address, which is not locked or taken. -/
  | fixed {target : Target} (fixed : attempt.fixedTarget? topology = some target)
    (free : scene.locks.isLocked target.address = false)
    (may : attempt.mayHave (scene.store.get? target.address) = true) :
    attempt.HasAddress topology around scene limit
  /-- No address is fixed, and one that is tried is available. -/
  | pooled {pool : Pool} {target : Target} (unfixed : attempt.fixedTarget? topology = none)
    (eligible : pool ∈ attempt.eligiblePools)
    (tried : target ∈ attempt.poolTrials around scene.cursors limit pool)
    (available : attempt.IsAvailable topology scene.locks scene.store target.address) :
    attempt.HasAddress topology around scene limit

namespace Engine

open Watched (LacksOwner)

variable {topology : Topology} {request : Request} {mode : AllocationMode} {limit : Option Nat}

/-- The candidates disagree on whether the client identifier counts, and the client presents nothing
else that a lease could be recorded against. -/
structure CountsInPart (request : Request) (candidates : List Candidate) : Prop where
  /-- The client presents its client identifier. -/
  presented : request.identifiers.clientId ≠ none
  /-- It presents no unique identifier. -/
  duid : request.identifiers.duid = none
  /-- It presents no hardware address. -/
  hwAddress : request.identifiers.hwAddress = none
  /-- A candidate goes by the client identifier. -/
  counts : ∃ candidate ∈ candidates, candidate.params.matchClientId = true
  /-- A candidate does not. -/
  ignored : ∃ candidate ∈ candidates, candidate.params.matchClientId = false

/-- A client lacks an owner in a candidate when it has one in none, or when the candidates disagree on
the only identifier that could be its owner. -/
theorem lacksOwner_iff (candidates : List Candidate) :
    LacksOwner request candidates ↔
      (candidates ≠ [] ∧ ∀ candidate ∈ candidates, ownerIn request candidate = none) ∨
        CountsInPart request candidates := by
  have lacks (candidate : Candidate) : ownerIn request candidate = none ↔ _ :=
    request.identifiers.owner?_eq_none_iff candidate.params.matchClientId
  constructor
  · rintro ⟨candidate, inside, unowned⟩
    by_cases nowhere : ∀ candidate ∈ candidates, ownerIn request candidate = none
    · exact .inl ⟨List.ne_nil_of_mem inside, nowhere⟩
    · push Not at nowhere
      obtain ⟨other, insideOther, owned⟩ := nowhere
      obtain ⟨duid, hwAddress, unused⟩ := (lacks candidate).mp unowned
      -- What makes the difference between the two can only be whether the client identifier counts.
      have decides : other.params.matchClientId = true ∧ request.identifiers.clientId ≠ none := by
        rw [Ne, lacks other] at owned
        push Not at owned
        exact owned duid hwAddress
      have ignored : candidate.params.matchClientId = false :=
        Bool.eq_false_iff.mpr fun counts => decides.2 (unused counts)
      exact .inr ⟨decides.2, duid, hwAddress, ⟨other, insideOther, decides.1⟩,
        ⟨candidate, inside, ignored⟩⟩
  · rintro (⟨selected, nowhere⟩ | part)
    · obtain ⟨candidate, inside⟩ := List.exists_mem_of_ne_nil _ selected
      exact ⟨candidate, inside, nowhere candidate inside⟩
    · obtain ⟨candidate, inside, ignored⟩ := part.ignored
      refine ⟨candidate, inside, (lacks candidate).mpr ⟨part.duid, part.hwAddress, fun counts => ?_⟩⟩
      exact absurd (ignored.symm.trans counts) Bool.false_ne_true

section Runs

variable {σ : Type} {answer : (question : Ask) → σ → Reply question × σ} {state : σ}

/-- Serving a client that lacks an owner in a selected subnet comes to nothing. -/
theorem serve_of_lacksOwner (lacks : LacksOwner request (topology.select request).candidates) :
    serve topology request mode limit = fail .missingIdentifier := by
  have unknown : owners? request (topology.select request).candidates = none := by
    obtain ⟨candidate, inside, unowned⟩ := lacks
    refine Option.eq_none_iff_forall_ne_some.mpr fun owners known => ?_
    obtain ⟨owner, owned⟩ := (owners?_isSome_iff _).mp ⟨owners, known⟩ candidate inside
    exact nomatch unowned.symm.trans owned
  unfold serve
  split
  · rfl
  · dsimp only
    split
    · next unselected =>
      obtain ⟨candidate, inside, -⟩ := lacks
      rw [unselected] at inside
      exact absurd inside List.not_mem_nil
    · unfold allocateSelected
      rw [unknown]

/-- An allocation takes the client for unidentified exactly when it presents no identifier or lacks
an owner in a selected subnet, however its questions are answered. -/
theorem run_allocate_eq_missingIdentifier_iff :
    ((allocate topology request mode limit).run answer state).1 = .error .missingIdentifier ↔
      request.identifiers.isEmpty = true ∨
        LacksOwner request (topology.select request).candidates := by
  constructor
  · intro failed
    have reached := reached_of_watched (@Watched.keeps_allocate topology request mode limit) answer
      state
    rw [failed] at reached
    cases reached.2 with
    | anonymous unidentified => exact .inl unidentified
    | failed fails =>
      cases fails with
      | trouble found => exact nomatch found
      | unidentified lacks => exact .inr lacks
  · intro unidentified
    have served : serve topology request mode limit = fail .missingIdentifier := by
      rcases unidentified with anonymous | lacks
      · unfold serve
        rw [anonymous, if_pos rfl]
      · exact serve_of_lacksOwner lacks
    unfold allocate
    rw [served]
    rfl

end Runs

section Served

variable {around : Surroundings} {scene : Scene} {attempt : Attempt} {leases : List Lease}

/-- Where no fixed address is taken, an attempt chooses an address or finds nothing. -/
theorem chooses_or_exhausts (untaken : ∀ target, attempt.fixedTarget? topology = some target →
      scene.locks.isLocked target.address = false ∧
        attempt.mayHave (scene.store.get? target.address) = true) :
    (∃ target kind, Chooses topology attempt around scene limit leases target kind) ∨
      Exhausts topology attempt around scene limit leases := by
  cases fixed : attempt.fixedTarget? topology with
  | some target =>
    obtain ⟨free, may⟩ := untaken target fixed
    exact .inl ⟨target, _, .fixed fixed free may⟩
  | none =>
    cases found : firstAdmitted topology attempt scene
      (attempt.trials around scene.cursors limit leases) with
    | some target => exact .inl ⟨target, _, .found fixed found⟩
    | none => exact .inr ⟨fixed, found⟩

variable (accepted : topology.Accepted)
  (unreviewed : ∀ request lease mode, around.review request lease mode = true)
  (untaken : ∀ attempt target, Serves topology request mode around.now attempt →
    attempt.fixedTarget? topology = some target →
    scene.locks.isLocked target.address = false ∧
      attempt.mayHave (scene.store.get? target.address) = true)
include accepted

/-- Without a limit there is an address for the client where one is available, in pools that do not
span all addresses. -/
theorem hasAddress_of_isAvailable (serves : Serves topology request mode around.now attempt)
    (part : ∀ pool ∈ attempt.pools, ¬ pool.spansAll)
    (unfixed : attempt.fixedTarget? topology = none) {address : Address}
    (available : attempt.IsAvailable topology scene.locks scene.store address) :
    attempt.HasAddress topology around scene none := by
  obtain ⟨pool, eligible, contained⟩ := available.usable.pooled
  have member := (List.mem_filter.mp eligible).1
  have visited := (Pool.mem_visited_iff (serves.isSound accepted member) (part pool member)
    (attempt.walkStart around scene.cursors pool) address).mpr contained
  exact .pooled unfixed eligible (List.mem_map_of_mem visited) available

/-- A subnet in which there is an address for the client is not exhausted. -/
theorem not_exhausts_of_hasAddress (has : attempt.HasAddress topology around scene limit) :
    ¬ Exhausts topology attempt around scene limit leases := by
  intro exhausts
  cases has with
  | fixed fixed => exact nomatch exhausts.unfixed.symm.trans fixed
  | @pooled pool target unfixed eligible tried available =>
    have member : target ∈ attempt.trials around scene.cursors limit leases :=
      List.mem_append_right _ (List.mem_flatMap.mpr ⟨pool, eligible, tried⟩)
    have admitted : attempt.admits topology scene target.address = true :=
      (Attempt.admits_iff accepted available.usable.pooled).mpr available
    exact List.find?_eq_none.mp exhausts.nothing target member admitted

include unreviewed untaken

/-- Going through candidates, in all of which the client has an owner, gives it a lease when there is
an address for it in one. -/
theorem exists_grant_among {last : SubnetId} {busy : Option Address} {candidates : List Candidate}
    (owned : ∀ candidate ∈ candidates,
      ∃ made, Serves topology request mode around.now made ∧ made.candidate = candidate)
    (serving : ServesIn topology request mode around.now candidates attempt)
    (has : attempt.HasAddress topology around scene limit) :
    ∃ grant, (scene.run around
      (allocateAmong topology request mode limit leases last busy candidates)).1 = .ok grant := by
  induction candidates generalizing last busy with
  | nil => exact absurd serving.member List.not_mem_nil
  | cons candidate rest ih =>
    obtain ⟨made, serves, rfl⟩ := owned candidate List.mem_cons_self
    unfold allocateAmong
    rcases chooses_or_exhausts fun target => untaken made target serves with
      ⟨target, kind, chosen⟩ | exhausts
    · obtain ⟨cursors, ran⟩ := run_allocateIn_of_chooses serves chosen
      rw [Attempt.given_eq unreviewed] at ran
      rw [Scene.run_bind_ok ran]
      exact ⟨_, rfl⟩
    · rw [Scene.run_bind_ok (run_allocateIn_of_exhausts serves exhausts)]
      refine ih (fun other member => owned other (List.mem_cons_of_mem _ member)) ?_
      -- The address is not in this subnet, so it is in one of the others.
      rcases List.mem_cons.mp serving.member with same | later
      · obtain rfl := serving.serves.eq_of_candidate serves same
        exact absurd exhausts (not_exhausts_of_hasAddress accepted has)
      · exact ⟨serving.serves, later⟩

end Served

/-- However its questions are answered, an allocation takes the client for unidentified exactly when
it presents no identifier, when it has an owner in none of the selected subnets, or when they
disagree on the only identifier that could be its owner. Where they do not so disagree, and leases
are not reviewed and no fixed address is taken, the client is served when there is an address for it
in a selected subnet in which it has an owner. -/
theorem missingIdentifier_spec (topology : Topology) (request : Request) (mode : AllocationMode)
    (limit : Option Nat) :
    let candidates := (topology.select request).candidates
    (∀ {σ : Type} (answer : (question : Ask) → σ → Reply question × σ) (state : σ),
      ((allocate topology request mode limit).run answer state).1 = .error .missingIdentifier ↔
        request.identifiers.isEmpty = true ∨
        (candidates ≠ [] ∧ ∀ candidate ∈ candidates, ownerIn request candidate = none) ∨
        CountsInPart request candidates) ∧
    (topology.Accepted → ¬ CountsInPart request candidates →
      ∀ (around : Surroundings) (state : State),
        (∀ request lease mode, around.review request lease mode = true) →
        (∀ attempt target, Serves topology request mode around.now attempt →
          attempt.fixedTarget? topology = some target →
          state.locks.isLocked target.address = false ∧
            attempt.mayHave (state.store.get? target.address) = true) →
        ∀ attempt, Serves topology request mode around.now attempt →
          attempt.HasAddress topology around state.scene limit →
          ∃ grant, (state.run around (allocate topology request mode limit)).1 = .ok grant) := by
  intro candidates
  constructor
  · intro σ answer state
    rw [run_allocate_eq_missingIdentifier_iff, lacksOwner_iff]
  · intro accepted agreed around state unreviewed untaken attempt serves has
    have owned (candidate : Candidate) (inside : candidate ∈ candidates) :
        ∃ owner, ownerIn request candidate = some owner := by
      refine Option.ne_none_iff_exists'.mp fun unowned => ?_
      rcases (lacksOwner_iff _).mp ⟨candidate, inside, unowned⟩ with ⟨-, nowhere⟩ | part
      · exact nomatch (nowhere _ serves.selected).symm.trans serves.owned
      · exact agreed part
    obtain ⟨owners, known⟩ := (owners?_isSome_iff candidates).mpr owned
    obtain ⟨first, others, selected⟩ :=
      List.exists_cons_of_ne_nil (List.ne_nil_of_mem serves.selected)
    rw [(state.run_scene around _).1, run_allocate, run_serve selected known]
    refine exists_grant_among accepted unreviewed untaken (fun candidate member => ?_)
      ⟨serves, (mem_prefer_iff _ _ _).mpr serves.selected⟩ has
    have listed := (mem_prefer_iff _ _ candidate).mp member
    obtain ⟨owner, owns⟩ := owned candidate listed
    exact exists_serves listed owns

namespace Sample

/-- A shared network of two subnets, of which only the first goes by client identifiers. -/
def corridor : Config :=
  let members (id : UInt32) (matchClientId : Bool) : List Config.Subnet :=
    config.subnets.map fun subnet =>
      { subnet with id, params := { subnet.params with matchClientId := some matchClientId } }
  { config with
    subnets := []
    networks := [⟨"corridor", none, members 1 true ++ members 2 false, .unset⟩] }

/-- The topology that is built from the configuration. -/
def corridorTopology : Topology := (Topology.build corridor 1).toOption.getD .empty

/-- The surroundings in the network. -/
def inCorridor : Surroundings := { around 5 with topology := corridorTopology }

/-- A client that presents its client identifier, and may present a hardware address besides. -/
def presenting (hwAddress : Option Bytes) : Request :=
  { Sample.request 1 with identifiers := ⟨hwAddress, none, some [1], none⟩ }

/-- The first subnet, as it is selected for either client. -/
def corridorCandidate : Candidate :=
  (corridorTopology.select (presenting none)).candidates.head (by decide +kernel)

/-- The attempt that is made there. -/
def corridorAttempt (hwAddress : Option Bytes) : Attempt :=
  .ofReservation corridorTopology corridorCandidate (presenting hwAddress) .commit
    ⟨.clientId, [1]⟩
    (corridorTopology.reservation? corridorCandidate (presenting hwAddress).identifiers) 5

/-- Both clients have an owner in the first subnet. -/
theorem serves_corridorAttempt {hwAddress : Option Bytes}
    (choice : hwAddress = none ∨ hwAddress = some [1]) :
    Serves corridorTopology (presenting hwAddress) .commit 5 (corridorAttempt hwAddress) := by
  have selected : corridorCandidate ∈
      (corridorTopology.select (presenting hwAddress)).candidates := by
    rcases choice with rfl | rfl <;> decide +kernel
  have owned : ownerIn (presenting hwAddress) corridorCandidate = some ⟨.clientId, [1]⟩ := by
    rcases choice with rfl | rfl <;> decide +kernel
  exact ⟨selected, owned, rfl⟩

/-- The only address there is available to both, as long as nobody has it. -/
theorem isAvailable_corridorAttempt {hwAddress : Option Bytes}
    (choice : hwAddress = none ∨ hwAddress = some [1]) :
    (corridorAttempt hwAddress).IsAvailable corridorTopology State.initial.locks
      State.initial.store address := by
  have accepted : corridorTopology.Accepted := Topology.accepted_build _ _
  have pooled : ∃ pool ∈ (corridorAttempt hwAddress).eligiblePools,
      pool.contains address = true := by
    rcases choice with rfl | rfl <;> decide +kernel
  have admitted : (corridorAttempt hwAddress).admits corridorTopology State.initial.scene
      address = true := by
    rcases choice with rfl | rfl <;> decide +kernel
  exact (Attempt.admits_iff accepted pooled).mp admitted

/-- No address is fixed for anyone. -/
theorem fixedTarget?_corridor {hwAddress : Option Bytes}
    (choice : hwAddress = none ∨ hwAddress = some [1]) {attempt : Attempt}
    (serves : Serves corridorTopology (presenting hwAddress) .commit 5 attempt) :
    attempt.fixedTarget? corridorTopology = none := by
  have disabled : ∀ candidate ∈ (corridorTopology.select (presenting hwAddress)).candidates,
      candidate.params.reservationMode = .disabled := by
    rcases choice with rfl | rfl <;> decide +kernel
  simp [Attempt.fixedTarget?, Topology.reservation?, disabled _ serves.selected,
    ReservationMode.usesGlobal, ReservationMode.usesSubnet]

end Sample

/-- The conditions can be met: where the subnets disagree on the client identifier, a client that
presents a hardware address as well is served. -/
theorem missingIdentifier_spec_of_both_identifiers :
    ¬ CountsInPart (Sample.presenting (some [1]))
        (Sample.corridorTopology.select (Sample.presenting (some [1]))).candidates ∧
      ∃ grant, (State.initial.run Sample.inCorridor
        (allocate Sample.corridorTopology (Sample.presenting (some [1])) .commit none)).1 =
          .ok grant := by
  have accepted : Sample.corridorTopology.Accepted := Topology.accepted_build _ _
  have agreed : ¬ CountsInPart (Sample.presenting (some [1]))
      (Sample.corridorTopology.select (Sample.presenting (some [1]))).candidates :=
    fun part => nomatch part.hwAddress
  have serves := Sample.serves_corridorAttempt (.inr rfl)
  have unfixed {attempt : Attempt} := @Sample.fixedTarget?_corridor _ (.inr rfl) attempt
  have part : ∀ pool ∈ (Sample.corridorAttempt (some [1])).pools, ¬ pool.spansAll := by
    decide +kernel
  have has : (Sample.corridorAttempt (some [1])).HasAddress Sample.corridorTopology
      Sample.inCorridor State.initial.scene none :=
    hasAddress_of_isAvailable accepted serves part (unfixed serves)
      (Sample.isAvailable_corridorAttempt (.inr rfl))
  refine ⟨agreed, (missingIdentifier_spec _ _ _ none).2 accepted agreed Sample.inCorridor
    State.initial (fun _ _ _ => rfl) (fun attempt target serving fixed => ?_) _ serves has⟩
  exact nomatch (unfixed serving).symm.trans fixed

/-- A client may be taken for unidentified, and not be served, though it has an owner in a selected
subnet in which an address is available. -/
theorem unidentified_despite_owner :
    ¬ ∀ (topology : Topology) (request : Request) (mode : AllocationMode) (around : Surroundings)
      (state : State) (attempt : Attempt) (address : Address), topology.Accepted →
      (∀ request lease mode, around.review request lease mode = true) →
      Serves topology request mode around.now attempt →
      attempt.IsAvailable topology state.locks state.store address →
      (state.run around (allocate topology request mode none)).1 ≠ .error .missingIdentifier := by
  intro identified
  have accepted : Sample.corridorTopology.Accepted := Topology.accepted_build _ _
  have lacks : LacksOwner (Sample.presenting none)
      (Sample.corridorTopology.select (Sample.presenting none)).candidates := by
    unfold LacksOwner
    decide +kernel
  exact identified Sample.corridorTopology (Sample.presenting none) .commit Sample.inCorridor
    State.initial (Sample.corridorAttempt none) Sample.address accepted (fun _ _ _ => rfl)
    (Sample.serves_corridorAttempt (.inl rfl)) (Sample.isAvailable_corridorAttempt (.inl rfl))
    (run_allocate_eq_missingIdentifier_iff.mpr (.inr lacks))

end Engine

end Leasehold
