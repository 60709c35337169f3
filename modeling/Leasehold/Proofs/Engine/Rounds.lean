import Leasehold.Proofs.Engine.Trials

/-!
# From one subnet to the next

An allocation on its own goes through the selected subnets, those in which the client holds a lease
first (`run_serve`). In each of them it gives the client the address that its attempt chooses
(`run_allocateIn_of_chooses`), or finds that the address which is fixed for the client is taken, or
finds nothing (`run_allocateIn_of_exhausts`). Unless it chooses an address, the scene stays as it is.
-/
namespace Leasehold

open Engine (Surroundings Scene)

/-- The address that the reservation of the client fixes. -/
def Attempt.fixedTarget? (attempt : Attempt) (topology : Topology) : Option Target :=
  (topology.reservation? attempt.candidate attempt.request.identifiers).bind attempt.fixed?

namespace Engine

variable {topology : Topology} {request : Request} {mode : AllocationMode} {limit : Option Nat}
  {leases : List Lease} {attempt : Attempt} {around : Surroundings} {scene : Scene}

/-- An attempt that serves a request is an attempt at it. -/
theorem Serves.request_eq {now : Instant} (serves : Serves topology request mode now attempt) :
    attempt.request = request := by
  rw [serves.made]
  rfl

/-- The classes of an attempt are resolved with the reservation that applies in its subnet. -/
theorem Serves.classes_eq {now : Instant} (serves : Serves topology request mode now attempt) :
    attempt.classes = topology.classesWith request
      (topology.reservation? attempt.candidate request.identifiers) := by
  rw [serves.made]
  rfl

/-- Where no address is fixed for the client, one is searched for. -/
theorem run_allocateIn_of_unfixed (serves : Serves topology request mode around.now attempt)
    (unfixed : attempt.fixedTarget? topology = none) :
    scene.run around (allocateIn topology request mode limit leases attempt.candidate) =
      scene.run around (allocateDynamic topology attempt limit leases) := by
  unfold Attempt.fixedTarget? at unfixed
  rw [serves.request_eq] at unfixed
  unfold allocateIn
  rw [serves.owned]
  dsimp only
  rw [Scene.run_report_bind, Scene.run_clock_bind, ← serves.made, unfixed]

/-- Where an address is fixed for the client, it is the only one that is tried. -/
theorem run_allocateIn_of_fixed (serves : Serves topology request mode around.now attempt)
    {target : Target} (fixed : attempt.fixedTarget? topology = some target) :
    scene.run around (allocateIn topology request mode limit leases attempt.candidate) =
      ((scene.run around (tryFixed attempt target)).1.map .granted,
        (scene.run around (tryFixed attempt target)).2) := by
  unfold Attempt.fixedTarget? at fixed
  rw [serves.request_eq] at fixed
  unfold allocateIn
  rw [serves.owned]
  dsimp only
  rw [Scene.run_report_bind, Scene.run_clock_bind, ← serves.made, fixed]
  dsimp only
  unfold allocateFixed
  rw [Scene.run_report_bind, Scene.run_bind, Scene.run_attempt]
  match scene.run around (tryFixed attempt target) with
  | (.ok grant, after) => rfl
  | (.error error, after) => rfl

/-- The attempt comes to an address in one of two ways: it is fixed for the client and free, or none
is fixed and it is the first that is admitted. -/
inductive Chooses (topology : Topology) (attempt : Attempt) (around : Surroundings) (scene : Scene)
    (limit : Option Nat) (leases : List Lease) : Target → GrantKind → Prop where
  /-- The reservation of the client fixes the address. -/
  | fixed {target : Target} (fixed : attempt.fixedTarget? topology = some target)
    (free : scene.locks.isLocked target.address = false)
    (may : attempt.mayHave (scene.store.get? target.address) = true) :
    Chooses topology attempt around scene limit leases target .reserved
  /-- The address is the first of the subnet that is admitted. -/
  | found {target : Target} (unfixed : attempt.fixedTarget? topology = none)
    (first : firstAdmitted topology attempt scene
      (attempt.trials around scene.cursors limit leases) = some target) :
    Chooses topology attempt around scene limit leases target
      (attempt.kindOf (scene.store.get? target.address))

/-- The chosen address is given to the client. -/
theorem run_allocateIn_of_chooses (serves : Serves topology request mode around.now attempt)
    {target : Target} {kind : GrantKind}
    (chosen : Chooses topology attempt around scene limit leases target kind) :
    let record := scene.store.get? target.address
    ∃ cursors,
      scene.run around (allocateIn topology request mode limit leases attempt.candidate) =
        ((attempt.given around target kind record).map .granted,
          ⟨attempt.storeAfter around target record scene.store, scene.locks, cursors⟩) := by
  cases chosen with
  | fixed fixed free may =>
    refine ⟨scene.cursors, ?_⟩
    rw [run_allocateIn_of_fixed serves fixed, Scene.run_tryFixed_of_free free may]
  | found unfixed first =>
    rw [run_allocateIn_of_unfixed serves unfixed]
    exact (resolves_allocateDynamic limit leases).finds first

/-- The attempt finds nothing: no address is fixed for the client, and none is admitted. -/
structure Exhausts (topology : Topology) (attempt : Attempt) (around : Surroundings)
    (scene : Scene) (limit : Option Nat) (leases : List Lease) : Prop where
  /-- The client has no reservation that fixes an address. -/
  unfixed : attempt.fixedTarget? topology = none
  /-- No address of the subnet is admitted. -/
  nothing : firstAdmitted topology attempt scene
    (attempt.trials around scene.cursors limit leases) = none

/-- A subnet in which nothing is found is exhausted. -/
theorem run_allocateIn_of_exhausts (serves : Serves topology request mode around.now attempt)
    (exhausts : Exhausts topology attempt around scene limit leases) :
    scene.run around (allocateIn topology request mode limit leases attempt.candidate) =
      (.ok (.exhausted (firstBusy topology attempt scene
        (attempt.trials around scene.cursors limit leases))), scene) := by
  rw [run_allocateIn_of_unfixed serves exhausts.unfixed]
  exact (resolves_allocateDynamic limit leases).exhausts exhausts.nothing

/-- There are three ways for an attempt to end: it chooses an address, it finds the address that is
fixed for the client taken, or its subnet is exhausted. -/
theorem run_allocateIn_cases (serves : Serves topology request mode around.now attempt) :
    (∃ target kind, Chooses topology attempt around scene limit leases target kind) ∨
      (∃ error, scene.run around
        (allocateIn topology request mode limit leases attempt.candidate) =
          (.error error, scene)) ∨
      Exhausts topology attempt around scene limit leases := by
  cases fixed : attempt.fixedTarget? topology with
  | some target =>
    have fails (taken : scene.locks.isLocked target.address = true ∨
        attempt.mayHave (scene.store.get? target.address) = false) :
        ∃ error, scene.run around
          (allocateIn topology request mode limit leases attempt.candidate) =
            (.error error, scene) := by
      obtain ⟨error, ran⟩ := Scene.run_tryFixed_of_not_free taken
      refine ⟨error, ?_⟩
      rw [run_allocateIn_of_fixed serves fixed, ran]
      rfl
    cases locked : scene.locks.isLocked target.address with
    | true => exact .inr (.inl (fails (.inl locked)))
    | false =>
      cases may : attempt.mayHave (scene.store.get? target.address) with
      | true => exact .inl ⟨target, .reserved, .fixed fixed locked may⟩
      | false => exact .inr (.inl (fails (.inr may)))
  | none =>
    cases found : firstAdmitted topology attempt scene
      (attempt.trials around scene.cursors limit leases) with
    | some target => exact .inl ⟨target, _, .found fixed found⟩
    | none => exact .inr (.inr ⟨fixed, found⟩)

/-- What is granted in a subnet was chosen by its attempt, and approved. -/
structure Provides (topology : Topology) (attempt : Attempt) (around : Surroundings)
    (scene : Scene) (limit : Option Nat) (leases : List Lease) (target : Target)
    (grant : Grant) (after : Scene) : Prop where
  /-- The address was chosen. -/
  chosen : Chooses topology attempt around scene limit leases target grant.kind
  /-- The review let the lease through. -/
  approved : attempt.isApproved around target (scene.store.get? target.address) = true
  /-- The grant is the one for that address. -/
  granted : grant = attempt.grantOf target grant.kind (scene.store.get? target.address)
  /-- The store is the one after that. -/
  store : after.store =
    attempt.storeAfter around target (scene.store.get? target.address) scene.store
  /-- The locks are as they were. -/
  locks : after.locks = scene.locks

/-- The lease that is granted is that of the attempt. -/
theorem Provides.exists_lease {target : Target} {grant : Grant} {after : Scene}
    (provides : Provides topology attempt around scene limit leases target grant after) :
    ∃ version, grant.lease = attempt.lease target version := by
  rw [provides.granted]
  exact attempt.exists_issued target _

/-- The subnet that is reported is that of the attempt. -/
theorem Provides.subnet {target : Target} {grant : Grant} {after : Scene}
    (provides : Provides topology attempt around scene limit leases target grant after) :
    grant.subnet = attempt.subnet.id := by
  rw [provides.granted]
  rfl

/-- It is for the address that was chosen. -/
theorem Provides.address {target : Target} {grant : Grant} {after : Scene}
    (provides : Provides topology attempt around scene limit leases target grant after) :
    grant.lease.address = target.address := by
  obtain ⟨version, lease⟩ := provides.exists_lease
  rw [lease]
  rfl

/-- Where no address is fixed for the client, a grant does not count as reserved. -/
theorem Provides.kind_ne_reserved {target : Target} {grant : Grant} {after : Scene}
    (provides : Provides topology attempt around scene limit leases target grant after)
    (unfixed : attempt.fixedTarget? topology = none) : grant.kind ≠ .reserved := by
  have chosen := provides.chosen
  generalize grant.kind = kind at chosen ⊢
  cases chosen with
  | fixed fixed =>
    rw [unfixed] at fixed
    exact nomatch fixed
  | found => exact Attempt.kindOf_ne_reserved _

/-- A grant in a subnet is what its attempt provides. -/
theorem provides_of_run_granted (serves : Serves topology request mode around.now attempt)
    {grant : Grant} {after : Scene}
    (ran : scene.run around (allocateIn topology request mode limit leases attempt.candidate) =
      (.ok (.granted grant), after)) :
    ∃ target, Provides topology attempt around scene limit leases target grant after := by
  rcases run_allocateIn_cases serves with ⟨target, kind, chosen⟩ | ⟨error, failed⟩ | exhausts
  · obtain ⟨cursors, given⟩ := run_allocateIn_of_chooses serves chosen
    rw [ran] at given
    obtain ⟨outcome, rfl⟩ := Prod.mk.inj given
    unfold Attempt.given at outcome
    split at outcome
    · next approved =>
      obtain rfl := Search.granted.inj (Except.ok.inj outcome)
      exact ⟨target, chosen, approved, rfl, rfl, rfl⟩
    · exact nomatch outcome
  · rw [ran] at failed
    exact nomatch failed
  · rw [run_allocateIn_of_exhausts serves exhausts] at ran
    exact nomatch ran

/-- The attempt that is made in a selected subnet. -/
theorem exists_serves {candidate : Candidate} {owner : Identifier} {now : Instant}
    (selected : candidate ∈ (topology.select request).candidates)
    (owned : ownerIn request candidate = some owner) :
    ∃ attempt, Serves topology request mode now attempt ∧ attempt.candidate = candidate :=
  ⟨.ofReservation topology candidate request mode owner
    (topology.reservation? candidate request.identifiers) now, ⟨selected, owned, rfl⟩, rfl⟩

/-- A subnet that turns out to be exhausted is one in which nothing is found, and leaves the scene as
it was. -/
theorem exhausts_of_run (serves : Serves topology request mode around.now attempt)
    {busy : Option Address} {after : Scene}
    (ran : scene.run around (allocateIn topology request mode limit leases attempt.candidate) =
      (.ok (.exhausted busy), after)) :
    Exhausts topology attempt around scene limit leases ∧ after = scene := by
  rcases run_allocateIn_cases serves with ⟨target, kind, chosen⟩ | ⟨error, failed⟩ | exhausts
  · obtain ⟨cursors, given⟩ := run_allocateIn_of_chooses serves chosen
    rw [ran] at given
    obtain ⟨outcome, -⟩ := Prod.mk.inj given
    unfold Attempt.given at outcome
    split at outcome <;> cases outcome
  · rw [ran] at failed
    exact nomatch failed
  · rw [run_allocateIn_of_exhausts serves exhausts] at ran
    exact ⟨exhausts, (Prod.mk.inj ran).2.symm⟩

/-- The leases recorded against identifiers are read from the store. -/
theorem run_leasesOf (owners : List Identifier) :
    scene.run around (leasesOf owners) = (.ok (owners.flatMap scene.store.ofOwner), scene) := by
  induction owners with
  | nil => rfl
  | cons owner rest ih =>
    unfold leasesOf
    rw [Scene.run_getLeases_bind, Scene.run_bind_ok ih]
    rfl

/-- The owners of the client are those that it has in the candidates. -/
theorem mem_owners?_iff {candidates : List Candidate} {owners : List Identifier}
    (known : owners? request candidates = some owners) (owner : Identifier) :
    owner ∈ owners ↔ ∃ candidate ∈ candidates, ownerIn request candidate = some owner := by
  obtain ⟨found, mapped, rfl⟩ := Option.map_eq_some_iff.mp known
  rw [mem_firstOccurrences]
  clear known
  induction candidates generalizing found with
  | nil =>
    obtain rfl : [] = found := Option.some.inj mapped
    simp
  | cons candidate rest ih =>
    rw [List.mapM_cons] at mapped
    obtain ⟨first, owned, mapped⟩ := Option.bind_eq_some_iff.mp mapped
    obtain ⟨others, mappedOthers, same⟩ := Option.bind_eq_some_iff.mp mapped
    obtain rfl : first :: others = found := Option.some.inj same
    rw [List.mem_cons, ih others mappedOthers]
    simp [owned, eq_comm]

/-- The owners of the client are listed once. -/
theorem nodup_owners? {candidates : List Candidate} {owners : List Identifier}
    (known : owners? request candidates = some owners) : owners.Nodup := by
  obtain ⟨found, -, rfl⟩ := Option.map_eq_some_iff.mp known
  exact nodup_firstOccurrences found

/-- The owner of an attempt is one of the client. -/
theorem Serves.owner_mem {now : Instant} (serves : Serves topology request mode now attempt)
    {owners : List Identifier}
    (known : owners? request (topology.select request).candidates = some owners) :
    attempt.owner ∈ owners :=
  (mem_owners?_iff known attempt.owner).mpr ⟨_, serves.selected, serves.owned⟩

/-- The owners of the client are known when it has one in every candidate, and only then. -/
theorem owners?_isSome_iff (candidates : List Candidate) :
    (∃ owners, owners? request candidates = some owners) ↔
      ∀ candidate ∈ candidates, ∃ owner, ownerIn request candidate = some owner := by
  have known : (∃ owners, owners? request candidates = some owners) ↔
      ∃ found, candidates.mapM (ownerIn request) = some found := by
    constructor
    · rintro ⟨owners, known⟩
      obtain ⟨found, mapped, -⟩ := Option.map_eq_some_iff.mp known
      exact ⟨found, mapped⟩
    · rintro ⟨found, mapped⟩
      exact ⟨firstOccurrences found, congrArg _ mapped⟩
  rw [known]
  clear known
  induction candidates with
  | nil => simp
  | cons candidate rest ih =>
    have step : (∃ found, (candidate :: rest).mapM (ownerIn request) = some found) ↔
        (∃ owner, ownerIn request candidate = some owner) ∧
          ∃ found, rest.mapM (ownerIn request) = some found := by
      rw [List.mapM_cons]
      cases ownerIn request candidate <;> cases rest.mapM (ownerIn request) <;> simp
    rw [List.forall_mem_cons]
    exact step.trans (and_congr_right fun _ => ih)

/-- Which candidates are preferred does not change which there are. -/
theorem mem_prefer_iff (selection : Selection) (wanted : Candidate → Bool) (candidate : Candidate) :
    candidate ∈ (selection.prefer wanted).candidates ↔ candidate ∈ selection.candidates := by
  unfold Selection.prefer
  rw [List.mem_append, List.mem_filter, List.mem_filter]
  cases wanted candidate <;> simp

/-- A client that has an owner presents an identifier. -/
theorem isEmpty_of_owner {candidate : Candidate} {owner : Identifier}
    (owned : ownerIn request candidate = some owner) : request.identifiers.isEmpty = false := by
  obtain ⟨identifiers, selector, hint, lifetime, kind, hostname⟩ := request
  obtain ⟨hwAddress, duid, clientId, circuitId⟩ := identifiers
  cases hwAddress <;> cases duid <;> cases clientId <;>
    simp_all [ownerIn, ClientIdentifiers.owner?, ClientIdentifiers.identifier?,
      ClientIdentifiers.get?, ClientIdentifiers.isEmpty]

/-- Serving a request goes through the selected subnets, when the owners of the client are known. -/
theorem serve_of_selected {owners : List Identifier} {first : Candidate} {others : List Candidate}
    (selected : (topology.select request).candidates = first :: others)
    (known : owners? request (topology.select request).candidates = some owners) :
    serve topology request mode limit = (do
      let leases ← leasesOf owners
      let preferred := (topology.select request).prefer (holdsIn leases (← clock))
      allocateAmong topology request mode limit leases first.subnet.id none
        preferred.candidates) := by
  have member : first ∈ (topology.select request).candidates := by
    rw [selected]
    exact List.mem_cons_self
  obtain ⟨owner, owned⟩ := (owners?_isSome_iff _).mp ⟨owners, known⟩ first member
  unfold serve
  rw [isEmpty_of_owner owned, if_neg Bool.false_ne_true]
  dsimp only
  split
  · next none => exact absurd (none.symm.trans selected) (List.cons_ne_nil _ _).symm
  · next head tail same =>
    obtain rfl : head = first := (List.cons.inj (same.symm.trans selected)).1
    unfold allocateSelected
    rw [known]

/-- Serving a request on its own goes through the subnets with the leases that are stored. -/
theorem run_serve {owners : List Identifier} {first : Candidate} {others : List Candidate}
    (selected : (topology.select request).candidates = first :: others)
    (known : owners? request (topology.select request).candidates = some owners) :
    let leases := owners.flatMap scene.store.ofOwner
    scene.run around (serve topology request mode limit) =
      scene.run around (allocateAmong topology request mode limit leases first.subnet.id none
        ((topology.select request).prefer (holdsIn leases around.now)).candidates) := by
  rw [serve_of_selected selected known, Scene.run_bind_ok (run_leasesOf owners),
    Scene.run_clock_bind]

/-- Counting how an allocation ended does not change what it achieves. -/
theorem run_allocate :
    scene.run around (allocate topology request mode limit) =
      scene.run around (serve topology request mode limit) := by
  unfold allocate
  rw [Scene.run_bind, Scene.run_attempt]
  simp

end Engine

end Leasehold
