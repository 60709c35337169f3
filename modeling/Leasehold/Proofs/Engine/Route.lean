import Leasehold.Proofs.Engine.Rounds

/-!
# The way to an address

Until an allocation gives the client an address or fails, the scene stays as it is. Every subnet is
therefore searched in the scene that the allocation began in. An allocation comes to an address by
way of subnets in which nothing is found (`LeadsTo`): what it grants lies at the end of such a way
(`exists_leadsTo_of_run_allocate`), and what lies at the end of one is granted
(`run_allocate_of_leadsTo`).
-/
namespace Leasehold.Engine

variable {topology : Topology} {request : Request} {mode : AllocationMode} {limit : Option Nat}
  {leases : List Lease} {attempt : Attempt} {around : Surroundings} {scene : Scene}
  {target : Target} {kind : GrantKind}

/-- An allocation that goes through candidates comes to an address: the attempt in one of them
chooses it, and those in the candidates before find nothing. -/
inductive LeadsTo (topology : Topology) (request : Request) (mode : AllocationMode)
    (around : Surroundings) (scene : Scene) (limit : Option Nat) (leases : List Lease) :
    List Candidate → Attempt → Target → GrantKind → Prop where
  /-- The attempt in the first candidate chooses the address. -/
  | here {attempt : Attempt} {target : Target} {kind : GrantKind} {rest : List Candidate}
    (serves : Serves topology request mode around.now attempt)
    (chosen : Chooses topology attempt around scene limit leases target kind) :
    LeadsTo topology request mode around scene limit leases (attempt.candidate :: rest) attempt
      target kind
  /-- The attempt in the first candidate finds nothing, and the others lead to the address. -/
  | later {first attempt : Attempt} {target : Target} {kind : GrantKind} {rest : List Candidate}
    (serves : Serves topology request mode around.now first)
    (exhausts : Exhausts topology first around scene limit leases)
    (leads : LeadsTo topology request mode around scene limit leases rest attempt target kind) :
    LeadsTo topology request mode around scene limit leases (first.candidate :: rest) attempt
      target kind

/-- The attempt at the end of the way serves the request. -/
theorem LeadsTo.serves {candidates : List Candidate}
    (leads : LeadsTo topology request mode around scene limit leases candidates attempt target
      kind) : Serves topology request mode around.now attempt := by
  induction leads with
  | here serves => exact serves
  | later _ _ _ ih => exact ih

/-- The address at the end of the way is granted, when the review lets the lease through. -/
theorem run_allocateAmong_of_leadsTo {candidates : List Candidate} {last : SubnetId}
    {busy : Option Address}
    (leads : LeadsTo topology request mode around scene limit leases candidates attempt target
      kind)
    (approved : attempt.isApproved around target (scene.store.get? target.address) = true) :
    (scene.run around (allocateAmong topology request mode limit leases last busy candidates)).1 =
      .ok (attempt.grantOf target kind (scene.store.get? target.address)) := by
  induction leads generalizing last busy with
  | here serves chosen =>
    obtain ⟨cursors, ran⟩ := run_allocateIn_of_chooses serves chosen
    unfold Attempt.given at ran
    rw [if_pos approved] at ran
    unfold allocateAmong
    rw [Scene.run_bind_ok ran]
    rfl
  | later serves exhausts _ ih =>
    unfold allocateAmong
    rw [Scene.run_bind_ok (run_allocateIn_of_exhausts serves exhausts)]
    exact ih approved

/-- What is granted in one of several subnets lies at the end of the way through them. -/
theorem exists_leadsTo_of_run_allocateAmong {last : SubnetId} {busy : Option Address}
    {candidates : List Candidate}
    (serves : ∀ candidate ∈ candidates,
      ∃ attempt, Serves topology request mode around.now attempt ∧ attempt.candidate = candidate)
    {grant : Grant} {after : Scene}
    (ran : scene.run around (allocateAmong topology request mode limit leases last busy candidates) =
      (.ok grant, after)) :
    ∃ attempt target,
      LeadsTo topology request mode around scene limit leases candidates attempt target
        grant.kind ∧
      Provides topology attempt around scene limit leases target grant after := by
  induction candidates generalizing last busy with
  | nil => cases busy <;> exact nomatch ran
  | cons candidate rest ih =>
    obtain ⟨attempt, serving, rfl⟩ := serves candidate List.mem_cons_self
    obtain ⟨found, middle, here, there⟩ := Scene.ok_of_run_bind ran
    cases found with
    | granted given =>
      obtain ⟨same, rfl⟩ := Prod.mk.inj there
      obtain rfl := Except.ok.inj same
      obtain ⟨target, provides⟩ := provides_of_run_granted serving here
      exact ⟨attempt, target, .here serving provides.chosen, provides⟩
    | exhausted skipped =>
      obtain ⟨exhausts, rfl⟩ := exhausts_of_run serving here
      obtain ⟨found, target, leads, provides⟩ :=
        ih (fun other member => serves other (List.mem_cons_of_mem _ member)) there
      exact ⟨found, target, .later serving exhausts leads, provides⟩

/-- The candidates in the order in which an allocation goes through them, for a client with the
owners. -/
def preferred (topology : Topology) (request : Request) (store : Store) (now : Instant)
    (owners : List Identifier) : List Candidate :=
  ((topology.select request).prefer (holdsIn (owners.flatMap store.ofOwner) now)).candidates

/-- An allocation grants the address that its way leads to, when the review lets the lease
through. -/
theorem run_allocate_of_leadsTo {owners : List Identifier}
    (known : owners? request (topology.select request).candidates = some owners)
    (leads : LeadsTo topology request mode around scene limit
      (owners.flatMap scene.store.ofOwner)
      (preferred topology request scene.store around.now owners) attempt target kind)
    (approved : attempt.isApproved around target (scene.store.get? target.address) = true) :
    (scene.run around (allocate topology request mode limit)).1 =
      .ok (attempt.grantOf target kind (scene.store.get? target.address)) := by
  obtain ⟨head, tail, selected⟩ :=
    List.exists_cons_of_ne_nil (List.ne_nil_of_mem leads.serves.selected)
  rw [run_allocate, run_serve selected known]
  exact run_allocateAmong_of_leadsTo leads approved

/-- An allocation whose first preferred subnet provides an address grants it. -/
theorem run_allocate_of_first {owners : List Identifier}
    (serves : Serves topology request mode around.now attempt)
    (known : owners? request (topology.select request).candidates = some owners)
    (first : ∃ others,
      preferred topology request scene.store around.now owners = attempt.candidate :: others)
    (chosen : Chooses topology attempt around scene limit (owners.flatMap scene.store.ofOwner)
      target kind)
    (approved : attempt.isApproved around target (scene.store.get? target.address) = true) :
    (scene.run around (allocate topology request mode limit)).1 =
      .ok (attempt.grantOf target kind (scene.store.get? target.address)) := by
  obtain ⟨others, split⟩ := first
  refine run_allocate_of_leadsTo known ?_ approved
  rw [split]
  exact .here serves chosen

/-- An allocation that is granted has gone through the selected subnets. -/
theorem exists_owners_of_run_serve {grant : Grant} {after : Scene}
    (ran : scene.run around (serve topology request mode limit) = (.ok grant, after)) :
    ∃ owners first others, (topology.select request).candidates = first :: others ∧
      owners? request (topology.select request).candidates = some owners := by
  unfold serve at ran
  split at ran
  · exact nomatch ran
  · dsimp only at ran
    split at ran
    · exact nomatch ran
    · next first others selected =>
      unfold allocateSelected at ran
      split at ran
      · exact nomatch ran
      · next owners known => exact ⟨owners, first, others, selected, known⟩

/-- What an allocation grants lies at the end of its way through the selected subnets. -/
theorem exists_leadsTo_of_run_allocate {grant : Grant} {after : Scene}
    (ran : scene.run around (allocate topology request mode limit) = (.ok grant, after)) :
    ∃ owners attempt target,
      owners? request (topology.select request).candidates = some owners ∧
        LeadsTo topology request mode around scene limit (owners.flatMap scene.store.ofOwner)
          (preferred topology request scene.store around.now owners) attempt target grant.kind ∧
        Provides topology attempt around scene limit (owners.flatMap scene.store.ofOwner) target
          grant after := by
  rw [run_allocate] at ran
  obtain ⟨owners, first, others, selected, known⟩ := exists_owners_of_run_serve ran
  rw [run_serve selected known] at ran
  have serves (candidate : Candidate)
      (member : candidate ∈ preferred topology request scene.store around.now owners) :
      ∃ attempt, Serves topology request mode around.now attempt ∧
        attempt.candidate = candidate := by
    have inside := (mem_prefer_iff _ _ candidate).mp member
    obtain ⟨owner, owned⟩ := (owners?_isSome_iff _).mp ⟨owners, known⟩ candidate inside
    exact exists_serves inside owned
  obtain ⟨attempt, target, leads, provides⟩ := exists_leadsTo_of_run_allocateAmong serves ran
  exact ⟨owners, attempt, target, known, leads, provides⟩

/-- What an allocation grants is what an attempt in a selected subnet provides. -/
theorem exists_of_run_allocate {grant : Grant} {after : Scene}
    (ran : scene.run around (allocate topology request mode limit) = (.ok grant, after)) :
    ∃ owners attempt target,
      owners? request (topology.select request).candidates = some owners ∧
        Serves topology request mode around.now attempt ∧
        Provides topology attempt around scene limit (owners.flatMap scene.store.ofOwner) target
          grant after := by
  obtain ⟨owners, attempt, target, known, leads, provides⟩ := exists_leadsTo_of_run_allocate ran
  exact ⟨owners, attempt, target, known, leads.serves, provides⟩

end Leasehold.Engine
