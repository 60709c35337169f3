import Leasehold.Engine.Allocate
import Leasehold.Proofs.Engine.Steady

/-!
# An allocation as a search

Apart from trying addresses an allocation changes no record, and announces no change. What trying
one address reaches is therefore what the whole allocation reaches: when each try, from an idle
condition, ends in what is wanted of a grant, in the idle condition again or in what an error may
leave, so does the allocation (`keeps_allocate`). An allocation that finds nothing in a subnet
leaves the idle condition.

The addresses that are tried come from attempts in the selected subnets: the one that a reservation
fixes, and those of the pools that the client may use.
-/
namespace Leasehold

/-- The error says that a lease was turned down. -/
def EngineError.isRefusal : EngineError → Bool
  | .turnedDown _ => true
  | _ => false

/-- A failure of the repository turns nothing down. -/
theorem EngineError.isRefusal_ofRepository (error : RepositoryError) :
    (ofRepository error).isRefusal = false := by
  cases error <;> rfl

/-- The address belongs to a pool that the client may use, and is recorded as the pool says. -/
def Attempt.IsEligible (attempt : Attempt) (target : Target) : Prop :=
  ∃ pool ∈ attempt.eligiblePools, ∃ address, target = ofPool pool address ∧
    (pool.contains address ∨ ∃ index, pool.nth? index = some address)

/-- An address that the client may use is recorded as the pool says that contains it. -/
theorem Attempt.exists_pool_of_target? {attempt : Attempt} {address : Address} {target : Target}
    (found : attempt.target? address = some target) :
    ∃ pool ∈ attempt.eligiblePools, target = ofPool pool address ∧
      pool.contains address = true := by
  obtain ⟨pool, first, rfl⟩ := Option.map_eq_some_iff.mp found
  have contained : pool.contains address = true := by simpa using List.find?_some first
  exact ⟨pool, List.mem_of_find?_eq_some first, rfl, contained⟩

/-- Suggested addresses belong to pools that the client may use. -/
theorem Attempt.isEligible_of_mem_suggestions {attempt : Attempt} {leases : List Lease}
    {target : Target} (suggested : target ∈ attempt.suggestions leases) :
    attempt.IsEligible target := by
  obtain ⟨address, -, found⟩ := List.mem_filterMap.mp suggested
  obtain ⟨pool, usable, same, contained⟩ := exists_pool_of_target? found
  exact ⟨pool, usable, address, same, .inl contained⟩

namespace Engine

variable {σ α : Type} {terms : Terms Ask Reply σ}

/-- An attempt that serving a request makes at an instant: in one of the selected subnets, with what
the subnet knows about the client. -/
structure Serves (topology : Topology) (request : Request) (mode : AllocationMode) (now : Instant)
    (attempt : Attempt) : Prop where
  /-- Its subnet was selected. -/
  selected : attempt.candidate ∈ (topology.select request).candidates
  /-- It is made for the client. -/
  owned : ownerIn request attempt.candidate = some attempt.owner
  /-- It is made with the reservation that applies, at the instant. -/
  made : attempt = .ofReservation topology attempt.candidate request mode attempt.owner
    (topology.reservation? attempt.candidate request.identifiers) now

/-- What trying an address reaches: what is wanted of a grant, or the idle condition. -/
def tried (given : Grant → σ → Prop) (idle : σ → Prop) : Tried → σ → Prop
  | .granted grant => given grant
  | .unavailable | .busy => idle

/-- What searching a subnet reaches: what is wanted of a grant, or the idle condition. -/
def searched (given : Grant → σ → Prop) (idle : σ → Prop) : Search → σ → Prop
  | .granted grant => given grant
  | .exhausted _ => idle

section Subnet

variable {topology : Topology} {attempt : Attempt} {given : Grant → σ → Prop} {idle : σ → Prop}
  {bad : EngineError → σ → Prop} (idleCalm : Calm terms idle)
  (givenCalm : ∀ grant, Calm terms (given grant))
include idleCalm givenCalm

/-- Either outcome of a search is calm. -/
theorem searched_calm (found : Search) : Calm terms (searched given idle found) := by
  cases found with
  | granted grant => exact givenCalm grant
  | exhausted busy => exact idleCalm

/-- A search that is over has reached what its last step has. -/
theorem keeps_found {found : Search} {state : σ} (reached : searched given idle found state) :
    (pure found : Task Search).Keeps terms (concluding (searched given idle) bad) state :=
  fun _ meanwhile => (searched_calm idleCalm givenCalm found).spared meanwhile reached

/-- Trying addresses one after another reaches what trying each of them reaches. -/
theorem keeps_tryTargets {targets : List Target} {busy : Option Address} {state : σ}
    (tries : ∀ target ∈ targets, ∀ state, idle state →
      (tryTarget topology attempt target).Keeps terms (concluding (tried given idle) bad) state)
    (holds : idle state) :
    (tryTargets topology attempt busy targets).Keeps terms (concluding (searched given idle) bad)
      state := by
  induction targets generalizing busy state with
  | nil => exact keeps_found idleCalm givenCalm holds
  | cons target rest ih =>
    have others := fun other member => tries other (List.mem_cons_of_mem target member)
    refine (tries target List.mem_cons_self state holds).bind fun result last reached => ?_
    cases result with
    | granted grant => exact keeps_found idleCalm givenCalm reached
    | unavailable => exact ih others reached
    | busy => exact ih others reached

variable (tries : ∀ target, attempt.IsEligible target → ∀ state, idle state →
  (tryTarget topology attempt target).Keeps terms (concluding (tried given idle) bad) state)
include tries

/-- Walking through a pool that the client may use reaches what trying its addresses reaches. -/
theorem keeps_walkPool {pool : Pool} (usable : pool ∈ attempt.eligiblePools) (walk : PoolWalk)
    {remaining offset : Nat} {busy : Option Address} {state : σ} (holds : idle state) :
    (walkPool topology attempt pool walk remaining offset busy).Keeps terms
      (concluding (searched given idle) bad) state := by
  induction remaining generalizing offset busy state with
  | zero => exact keeps_found idleCalm givenCalm holds
  | succ remaining ih =>
    unfold walkPool
    split
    · exact keeps_found idleCalm givenCalm holds
    · next address visited =>
      have eligible : attempt.IsEligible (Attempt.ofPool pool address) :=
        ⟨pool, usable, address, rfl, .inr ⟨_, visited⟩⟩
      refine (tries _ eligible state holds).bind fun result last reached => ?_
      cases result with
      | granted grant =>
        refine (givenCalm grant).query_bind rfl reached fun _ later stillReached => ?_
        exact keeps_found idleCalm givenCalm stillReached
      | unavailable => exact ih reached
      | busy => exact ih reached

/-- Searching pools that the client may use reaches what trying their addresses reaches. -/
theorem keeps_searchPools {pools : List Pool}
    (usable : ∀ pool ∈ pools, pool ∈ attempt.eligiblePools)
    {limit : Option Nat} {busy : Option Address} {state : σ} (holds : idle state) :
    (searchPools topology attempt limit busy pools).Keeps terms
      (concluding (searched given idle) bad) state := by
  induction pools generalizing busy state with
  | nil => exact keeps_found idleCalm givenCalm holds
  | cons pool rest ih =>
    have start : (walkStart attempt pool).Keeps terms (concluding (fun _ => idle) bad) state := by
      unfold walkStart
      split <;> exact idleCalm.query rfl holds
    refine start.bind fun first later stillHolds => ?_
    have first_usable := usable pool List.mem_cons_self
    refine (keeps_walkPool idleCalm givenCalm tries first_usable _ stillHolds).bind
      fun found last reached => ?_
    cases found with
    | granted grant => exact keeps_found idleCalm givenCalm reached
    | exhausted busy =>
      exact ih (fun other member => usable other (List.mem_cons_of_mem pool member)) reached

/-- Searching a subnet reaches what trying its addresses reaches. -/
theorem keeps_searchSubnet {limit : Option Nat} {leases : List Lease} {state : σ}
    (holds : idle state) :
    (searchSubnet topology attempt limit leases).Keeps terms
      (concluding (searched given idle) bad) state := by
  have suggested : (tryTargets topology attempt none (attempt.suggestions leases)).Keeps terms
      (concluding (searched given idle) bad) state :=
    keeps_tryTargets idleCalm givenCalm
      (fun target member => tries target (Attempt.isEligible_of_mem_suggestions member)) holds
  refine suggested.bind fun found last reached => ?_
  cases found with
  | granted grant => exact keeps_found idleCalm givenCalm reached
  | exhausted busy =>
    exact keeps_searchPools idleCalm givenCalm tries (fun _ member => member) reached

/-- Finding an address for the client reaches what trying addresses reaches. -/
theorem keeps_allocateDynamic (badCalm : ∀ error, Calm terms (bad error)) {limit : Option Nat}
    {leases : List Lease} {state : σ} (holds : idle state) :
    (allocateDynamic topology attempt limit leases).Keeps terms
      (concluding (searched given idle) bad) state := by
  refine idleCalm.report_bind rfl holds fun later stillHolds => ?_
  have searches : (searchSubnet topology attempt limit leases).Keeps terms
      (concluding (searched given idle) bad) later :=
    keeps_searchSubnet idleCalm givenCalm tries stillHolds
  refine searches.attempt.bind fun result last reached => ?_
  cases result with
  | error error =>
    exact (badCalm error).report_bind rfl reached fun _ still => (badCalm error).failed error still
  | ok found =>
    cases found with
    | granted grant =>
      exact (givenCalm grant).report_bind rfl reached fun _ still =>
        keeps_found idleCalm givenCalm still
    | exhausted busy =>
      exact idleCalm.report_bind rfl reached fun _ still => keeps_found idleCalm givenCalm still

end Subnet

section Allocation

variable {topology : Topology} {request : Request} {mode : AllocationMode} {now : Instant}
  {given : Grant → σ → Prop} {idle : σ → Prop} {bad : EngineError → σ → Prop}

/-- What an allocation needs to know to reach what is wanted of a grant or else what its error may
leave: the time does not change, all conditions are calm, and trying an address, whether it is fixed
for the client or belongs to a pool that the client may use, reaches it from the idle condition.
That condition is one that errors may leave, except where a lease was turned down. -/
structure Reaches (terms : Terms Ask Reply σ) (topology : Topology) (request : Request)
    (mode : AllocationMode) (now : Instant) (given : Grant → σ → Prop) (idle : σ → Prop)
    (bad : EngineError → σ → Prop) : Prop where
  /-- It is the same time whenever the task asks. -/
  clock : ∀ {before reply after}, terms.answers .clock before reply after → reply = now
  /-- The idle condition is calm. -/
  idleCalm : Calm terms idle
  /-- What is wanted of a grant is calm. -/
  givenCalm : ∀ grant, Calm terms (given grant)
  /-- What an error may leave is calm. -/
  badCalm : ∀ error, Calm terms (bad error)
  /-- An error may leave the idle condition, unless it says that a lease was turned down. -/
  stayed : ∀ error, error.isRefusal = false → ∀ state, idle state → bad error state
  /-- Trying the address that a reservation fixes reaches what is wanted. -/
  fixed : ∀ attempt, Serves topology request mode now attempt → ∀ target,
    (topology.reservation? attempt.candidate request.identifiers).bind attempt.fixed? =
      some target → ∀ state, idle state → (tryFixed attempt target).Keeps terms
        (concluding given bad) state
  /-- Trying an address of a pool reaches what is wanted. -/
  dynamic : ∀ attempt, Serves topology request mode now attempt → ∀ target,
    attempt.IsEligible target → ∀ state, idle state → (tryTarget topology attempt target).Keeps
      terms (concluding (tried given idle) bad) state

namespace Reaches

variable (reaches : Reaches terms topology request mode now given idle bad)
include reaches

/-- An allocation may fail while it is idle, unless a lease was turned down. -/
theorem failed {error : EngineError} (kept : error.isRefusal = false)
    {good : α → σ → Prop} {state : σ} (holds : idle state) :
    (fail error : Task α).Keeps terms (concluding good bad) state :=
  (reaches.badCalm error).failed error (reaches.stayed error kept state holds)

/-- Giving the client the address that its reservation fixes reaches what trying it reaches. -/
theorem keeps_allocateFixed {attempt : Attempt} {target : Target} {state : σ}
    (tries : ∀ state, idle state →
      (tryFixed attempt target).Keeps terms (concluding given bad) state)
    (holds : idle state) :
    (allocateFixed attempt target).Keeps terms (concluding (searched given idle) bad) state := by
  refine reaches.idleCalm.report_bind rfl holds fun later stillHolds => ?_
  refine (tries later stillHolds).attempt.bind fun result last reached => ?_
  cases result with
  | ok grant =>
    exact (reaches.givenCalm grant).report_bind rfl reached fun _ still =>
      keeps_found reaches.idleCalm reaches.givenCalm still
  | error error =>
    exact (reaches.badCalm error).report_bind rfl reached fun _ still =>
      (reaches.badCalm error).failed error still

/-- Serving a request in a selected subnet reaches what is wanted. -/
theorem keeps_allocateIn {limit : Option Nat} {leases : List Lease} {candidate : Candidate}
    (selected : candidate ∈ (topology.select request).candidates) {state : σ}
    (holds : idle state) :
    (allocateIn topology request mode limit leases candidate).Keeps terms
      (concluding (searched given idle) bad) state := by
  unfold allocateIn
  split
  · exact reaches.failed rfl holds
  · next owner owned =>
    refine reaches.idleCalm.report_bind rfl holds fun later stillHolds => ?_
    refine reaches.idleCalm.clock_bind reaches.clock stillHolds fun last idleLast => ?_
    have serves : Serves topology request mode now (.ofReservation topology candidate request
        mode owner (topology.reservation? candidate request.identifiers) now) :=
      ⟨selected, owned, rfl⟩
    dsimp only
    split
    · next target fixes =>
      exact reaches.keeps_allocateFixed (reaches.fixed _ serves target fixes) idleLast
    · exact keeps_allocateDynamic reaches.idleCalm reaches.givenCalm
        (reaches.dynamic _ serves) reaches.badCalm idleLast

/-- Serving a request in some of the selected subnets reaches what is wanted. -/
theorem keeps_allocateAmong {limit : Option Nat} {leases : List Lease} {last : SubnetId}
    {busy : Option Address} {candidates : List Candidate}
    (selected : ∀ candidate ∈ candidates, candidate ∈ (topology.select request).candidates)
    {state : σ} (holds : idle state) :
    (allocateAmong topology request mode limit leases last busy candidates).Keeps terms
      (concluding given bad) state := by
  induction candidates generalizing last busy state with
  | nil => cases busy <;> exact reaches.failed rfl holds
  | cons candidate rest ih =>
    have here : (allocateIn topology request mode limit leases candidate).Keeps terms
        (concluding (searched given idle) bad) state :=
      reaches.keeps_allocateIn (selected candidate List.mem_cons_self) holds
    refine here.bind fun found next reached => ?_
    cases found with
    | granted grant => exact fun _ meanwhile => (reaches.givenCalm grant).spared meanwhile reached
    | exhausted skipped =>
      exact ih (fun other member => selected other (List.mem_cons_of_mem candidate member)) reached

/-- Reading the leases recorded against identifiers leaves an allocation idle. -/
theorem keeps_leasesOf (owners : List Identifier) {state : σ} (holds : idle state) :
    (leasesOf owners).Keeps terms (concluding (fun _ => idle) bad) state := by
  induction owners generalizing state with
  | nil => exact reaches.idleCalm.done _ holds
  | cons owner rest ih =>
    have failing (error : RepositoryError) (last : σ) (idleLast : idle last) :
        bad (.ofRepository error) last :=
      reaches.stayed _ (EngineError.isRefusal_ofRepository error) last idleLast
    refine (reaches.idleCalm.call_concluding rfl failing holds).bind
      fun found later stillHolds => ?_
    exact (ih stillHolds).bind fun others last idleLast => reaches.idleCalm.done _ idleLast

/-- Serving a request in the selected subnets reaches what is wanted. -/
theorem keeps_allocateSelected {limit : Option Nat} (first : Candidate) {state : σ}
    (holds : idle state) :
    (allocateSelected topology request mode limit (topology.select request) first).Keeps terms
      (concluding given bad) state := by
  unfold allocateSelected
  split
  · exact reaches.failed rfl holds
  · next owners owned =>
    refine (reaches.keeps_leasesOf owners holds).bind fun leases later stillHolds => ?_
    refine reaches.idleCalm.query_bind rfl stillHolds fun instant last idleLast => ?_
    refine reaches.keeps_allocateAmong (fun candidate member => ?_) idleLast
    rcases List.mem_append.mp member with held | other
    · exact (List.mem_filter.mp held).1
    · exact (List.mem_filter.mp other).1

/-- Serving a request reaches what is wanted. -/
theorem keeps_serve {limit : Option Nat} {state : σ} (holds : idle state) :
    (serve topology request mode limit).Keeps terms (concluding given bad) state := by
  unfold serve
  split
  · exact reaches.failed rfl holds
  · dsimp only
    split
    · exact reaches.failed rfl holds
    · exact reaches.keeps_allocateSelected _ holds

/-- An allocation reaches what is wanted of its grant, or what its error may leave. -/
theorem keeps_allocate {limit : Option Nat} {state : σ} (holds : idle state) :
    (allocate topology request mode limit).Keeps terms (concluding given bad) state := by
  refine (reaches.keeps_serve holds).attempt.bind fun result last reached => ?_
  have calm : Calm terms (concluding given bad result) := by
    cases result with
    | ok grant => exact reaches.givenCalm grant
    | error error => exact reaches.badCalm error
  refine calm.count_bind rfl reached fun later still => ?_
  exact Program.Keeps.ofExcept fun final meanwhile => calm.spared meanwhile still

end Reaches

end Allocation

end Engine

end Leasehold
