import Leasehold.Proofs.Engine.Rounds

/-!
# How an allocation ends, whatever it is told

What an allocation records and what it fails with follow from how it is put together, whatever its
questions are answered with: the repository may fail at any call, time may pass, and others may
change the store and the locks between any two questions. A lease is recorded as active by the last
call alone, and it is the lease that the client is given; an allocation that fails has recorded none
(`recordedIn_allocate`). Its error tells where it failed: trying addresses comes into trouble only,
and that no subnet is left is said before any address is tried (`run_allocate_eq_noSubnet_iff`).
-/
namespace Leasehold

/-- The error is one that trying an address may end in. -/
def EngineError.isTrouble : EngineError → Bool
  | .reservationConflict _ _ | .lostRace _ | .unavailable _ | .repository _ | .turnedDown _ => true
  | .noSubnet | .missingIdentifier | .poolExhausted _ | .leaseNotFound _ => false

/-- A failure of the repository is such an error. -/
theorem EngineError.isTrouble_ofRepository (error : RepositoryError) :
    (ofRepository error).isTrouble = true := by
  cases error <;> rfl

/-- The leases that go on record with an outcome: that of a grant which is committed. -/
def AllocationMode.recorded (mode : AllocationMode) : Except EngineError Grant → List Lease
  | .ok grant =>
    match mode with
    | .offer => []
    | .commit => [grant.lease]
  | .error _ => []

namespace Program

variable {Ask : Type} {Reply : Ask → Type} {ε α σ : Type}

/-- The questions of a run, each with its reply. -/
def transcript (answer : (question : Ask) → σ → Reply question × σ) :
    Program Ask Reply ε α → σ → List (Sigma Reply)
  | .done _, _ => []
  | .fail _, _ => []
  | .ask question next, state =>
    ⟨question, (answer question state).1⟩ ::
      (next (answer question state).1).transcript answer (answer question state).2

end Program

namespace Engine

variable {α : Type}

/-- The lease that is recorded as active when a question gets a reply. -/
def Ask.recorded? (question : Ask) (reply : Reply question) : Option Lease :=
  match question, reply with
  | .repository (.write lease _), .ok (.committed stored) =>
    if lease.state = .active then some stored else none
  | _, _ => none

/-- The leases that were recorded as active, given what was asked and replied. -/
def recordedIn (transcript : List (Sigma Reply)) : List Lease :=
  transcript.flatMap fun ⟨question, reply⟩ => (question.recorded? reply).toList

/-- Only a write records a lease. -/
theorem Ask.recorded?_eq_none {question : Ask} (harmless : question.isChange = false)
    (reply : Reply question) : question.recorded? reply = none := by
  cases question with
  | repository call =>
    cases call with
    | write => exact nomatch harmless
    | _ => rfl
  | _ => rfl

/-- The terms of a task of which it is watched what leases it records as active. It may be told
anything. -/
def watched : Terms Ask Reply (List Lease) where
  answers question before reply after := after = before ++ (question.recorded? reply).toList
  rely := Eq
  allowed _ _ := True
  rely_refl _ := rfl
  rely_trans := Eq.trans

/-- Every condition on the leases that were recorded is steady. -/
theorem steady_watched (condition : List Lease → Prop) : Steady watched condition where
  spared same holds := same ▸ holds
  kept {question before reply after} harmless holds answered := by
    have same : after = before ++ (question.recorded? reply).toList := answered
    rw [Ask.recorded?_eq_none (Ask.isChange_of_not_isHeeded harmless), Option.toList_none,
      List.append_nil] at same
    exact ⟨trivial, same ▸ holds⟩

/-- What a watched task reaches is reached by its run, with the leases that its transcript tells of.
-/
theorem reached_of_watched {task : Task α} {goal : Except EngineError α → List Lease → Prop}
    {before : List Lease} (keeps : task.Keeps watched goal before) {σ : Type}
    (answer : (question : Ask) → σ → Reply question × σ) (state : σ) :
    goal (task.run answer state).1 (before ++ recordedIn (task.transcript answer state)) := by
  induction task generalizing before state with
  | done result => exact (List.append_nil before).symm ▸ keeps before rfl
  | fail error => exact (List.append_nil before).symm ▸ keeps before rfl
  | ask question next ih =>
    have following := (keeps before rfl (answer question state).1 _ rfl).2
    have rest := ih _ following (answer question state).2
    rw [List.append_assoc] at rest
    exact rest

/-- How a question may be answered from a store: a call is served from it or fails without an
effect, and every other question leaves the store as it is. -/
inductive AnsweredFrom (store : Store) : (question : Ask) → Reply question → Store → Prop where
  /-- A call is served. -/
  | served (call : RepositoryCall) :
      AnsweredFrom store (.repository call) (.ok (store.answer call).1) (store.answer call).2
  /-- A call fails. -/
  | failed (call : RepositoryCall) (error : RepositoryError) :
      AnsweredFrom store (.repository call) (.error error) store
  /-- The question is not for the repository. -/
  | other {question : Ask} (reply : Reply question) (apart : ∀ call, question ≠ .repository call) :
      AnsweredFrom store question reply store

/-- An active record that is in the store after a question was there before, or the question
recorded it. -/
theorem AnsweredFrom.mem_or_recorded {before after : Store} {question : Ask}
    {reply : Reply question} (answered : AnsweredFrom before question reply after) {lease : Lease}
    (member : lease ∈ after.leases) (active : lease.state = .active) :
    lease ∈ before.leases ∨ question.recorded? reply = some lease := by
  cases answered with
  | failed call error => exact .inl member
  | other reply apart => exact .inl member
  | served call =>
    cases call with
    | write written expected =>
      dsimp only [Store.answer] at member ⊢
      cases next : Store.nextVersion? expected (before.get? written.address) with
      | none =>
        rw [Store.write_of_unmet next] at member
        exact .inl member
      | some version =>
        rw [Store.write_of_met next] at member ⊢
        rcases Store.mem_of_mem_place member with rfl | old
        · exact .inr (if_pos active)
        · exact .inl old
    | delete address =>
      dsimp only [Store.answer, Store.delete] at member
      split at member
      · exact .inl member
      · exact .inl (List.mem_filter.mp member).1
    | _ => exact .inl member

/-- Questions are answered from a store that nobody else changes. -/
abbrev AnswersFrom {σ : Type} (store : σ → Store)
    (answer : (question : Ask) → σ → Reply question × σ) : Prop :=
  ∀ question state, AnsweredFrom (store state) question (answer question state).1
    (store (answer question state).2)

/-- An active record that is in the store after a task was there before, or the task recorded it. -/
theorem mem_or_recordedIn {σ : Type} {store : σ → Store}
    {answer : (question : Ask) → σ → Reply question × σ} (answers : AnswersFrom store answer)
    (task : Task α) (state : σ) {lease : Lease}
    (member : lease ∈ (store (task.run answer state).2).leases) (active : lease.state = .active) :
    lease ∈ (store state).leases ∨ lease ∈ recordedIn (task.transcript answer state) := by
  induction task generalizing state with
  | done result => exact .inl member
  | fail error => exact .inl member
  | ask question next ih =>
    rcases ih _ _ member with before | later
    · rcases (answers question state).mem_or_recorded before active with old | recorded
      · exact .inl old
      · refine .inr (List.mem_append_left _ ?_)
        exact Option.mem_toList.mpr recorded
    · exact .inr (List.mem_append_right _ later)

namespace Watched

/-- A task that fails has recorded nothing, and its error is one of those that it may fail with. -/
def unrecorded (may : EngineError → Prop) (error : EngineError) (recorded : List Lease) : Prop :=
  recorded = [] ∧ may error

/-- A task may fail with one of these errors while it has recorded nothing. -/
theorem keeps_failed {may : EngineError → Prop} {good : α → List Lease → Prop}
    {error : EngineError} (allowed : may error) :
    (fail error : Task α).Keeps watched (concluding good (unrecorded may)) [] :=
  (steady_watched _).failed error ⟨rfl, allowed⟩

/-- A task that is done has reached what holds then. -/
theorem keeps_done {good : α → List Lease → Prop} {bad : EngineError → List Lease → Prop}
    {result : α} {recorded : List Lease} (reached : good result recorded) :
    (pure result : Task α).Keeps watched (concluding good bad) recorded :=
  fun _ same => same ▸ reached

/-- Where no more errors are possible in one case than in another, what is reached in the one is
reached in the other. -/
theorem keeps_with_more {may more : EngineError → Prop} {good : α → List Lease → Prop}
    {task : Task α} {recorded : List Lease}
    (keeps : task.Keeps watched (concluding good (unrecorded may)) recorded)
    (among : ∀ error, may error → more error) :
    task.Keeps watched (concluding good (unrecorded more)) recorded :=
  keeps.weaken fun {outcome _} reached => by
    cases outcome with
    | ok result => exact reached
    | error error => exact ⟨reached.1, among error reached.2⟩

/-- Nothing was recorded, whatever the result is. -/
abbrev nothing (_ : α) (recorded : List Lease) : Prop := recorded = []

/-- A grant was recorded, as the mode says. -/
abbrev Recorded (mode : AllocationMode) (grant : Grant) (recorded : List Lease) : Prop :=
  recorded = mode.recorded (.ok grant)

/-- What a task is known to have recorded by its outcome is what its transcript tells of. -/
theorem recordedIn_eq {may : EngineError → Prop} {mode : AllocationMode} {task : Task Grant}
    (keeps : task.Keeps watched (concluding (Recorded mode) (unrecorded may)) []) {σ : Type}
    {answer : (question : Ask) → σ → Reply question × σ} {state : σ} :
    recordedIn (task.transcript answer state) = mode.recorded (task.run answer state).1 := by
  have reached := reached_of_watched keeps answer state
  match task.run answer state, reached with
  | (.ok grant, _), recorded => exact recorded
  | (.error error, _), unrecorded => exact unrecorded.1

section Trying

variable {topology : Topology} {attempt : Attempt} {limit : Option Nat}

/-- What trying addresses may leave that fails: it came into trouble. -/
abbrev troubled : EngineError → List Lease → Prop := unrecorded fun error => error.isTrouble = true

/-- A call that changes no record leaves nothing recorded, and may come into trouble. -/
theorem keeps_reading {request : RepositoryCall}
    (harmless : (Ask.repository request).isChange = false) :
    (call request).Keeps watched (concluding nothing troubled) [] :=
  (steady_watched (· = [])).call_concluding harmless
    (fun error _ none => ⟨none, EngineError.isTrouble_ofRepository error⟩) rfl

/-- A write that is committed records an active lease, and otherwise nothing is recorded. -/
theorem keeps_write (lease : Lease) (expected : Expectation) :
    (call (.write lease expected)).Keeps watched
      (concluding (fun outcome recorded => recorded =
        if lease.state = .active then (committed? outcome).toList else []) troubled) [] := by
  rintro _ rfl reply _ rfl
  refine ⟨trivial, ?_⟩
  cases reply with
  | error error => exact keeps_failed (EngineError.isTrouble_ofRepository error)
  | ok outcome =>
    refine keeps_done ?_
    by_cases active : lease.state = .active <;> cases outcome <;>
      simp [Ask.recorded?, committed?, active]

/-- Reclaiming a record records no lease, and may come into trouble with the repository. -/
theorem keeps_reclaim (lease : Lease) :
    (reclaim lease).Keeps watched (concluding nothing troubled) [] :=
  keeps_reclaim_of_write (fun _ => steady_watched _) (keeps_write _ _)

/-- Nor does clearing an address. Its record may be lost meanwhile. -/
theorem keeps_clear (current : Option Lease) :
    (clear attempt current).Keeps watched (concluding nothing troubled) [] := by
  unfold clear
  split
  · exact keeps_done rfl
  · refine (keeps_reclaim _).bind fun result recorded reached => ?_
    subst reached
    cases result with
    | none => exact keeps_failed rfl
    | some reclaimed => exact keeps_done rfl

/-- Recording a lease records the one that is stored then, unless the record of its address was lost
before. -/
theorem keeps_record {lease : Lease} (active : lease.state = .active) (current : Option Lease)
    (renewed : Bool) : (record lease current renewed).Keeps watched
      (concluding (fun stored recorded => recorded = [stored]) troubled) [] := by
  refine (keeps_write lease _).bind fun outcome recorded reached => ?_
  rw [if_pos active] at reached
  subst reached
  cases outcome with
  | conflict found => exact keeps_failed rfl
  | committed stored =>
    have done : Steady watched (· = [stored]) := steady_watched _
    have reports (recorded : List Lease) (reached : recorded = [stored]) :
        (do report (.committed stored); return stored : Task Lease).Keeps watched
          (concluding (fun stored recorded => recorded = [stored]) troubled) recorded :=
      done.report_bind rfl reached fun _ reached => keeps_done reached
    dsimp only
    split
    · exact done.count_bind rfl rfl reports
    · exact reports _ rfl

/-- Giving the client an address records its lease, where it is to be, unless the lease is turned
down or the record is lost. -/
theorem keeps_grant (target : Target) (kind : GrantKind) (current : Option Lease) (renewed : Bool) :
    (grant attempt target kind current renewed).Keeps watched
      (concluding (Recorded attempt.mode) troubled) [] := by
  unfold grant
  refine (keeps_clear current).bind fun current recorded reached => ?_
  refine (steady_watched (· = [])).query_bind rfl reached fun approved recorded reached => ?_
  subst reached
  cases approved with
  | false => exact keeps_failed rfl
  | true =>
    dsimp only [Bool.not_true, Bool.false_eq_true, ↓reduceIte]
    cases attempt.mode with
    | offer => exact keeps_done rfl
    | commit =>
      refine (keeps_record rfl _ _).bind fun stored recorded reached => ?_
      exact keeps_done reached

/-- Reading the record of an address records none. -/
theorem keeps_getLease (address : Address) :
    (call (.getLease address)).Keeps watched (concluding nothing troubled) [] := keeps_reading rfl

/-- So it is where a reservation fixes the address, which may be locked or held by someone else. -/
theorem keeps_tryFixed (target : Target) : (tryFixed attempt target).Keeps watched
    (concluding (Recorded attempt.mode) troubled) [] := by
  refine keeps_holding (steady_watched (· = [])) (fun _ => steady_watched _)
    (fun _ => steady_watched _) rfl ?_ ?_
  · rintro _ rfl
    exact keeps_failed rfl
  · rintro _ rfl
    refine (keeps_getLease target.address).bind fun current recorded reached => ?_
    subst reached
    split
    · exact keeps_grant _ _ _ _
    · exact keeps_grant _ _ _ _
    · exact keeps_failed rfl

/-- So it is where the client may use the address. Nothing is recorded when it is not given it. -/
theorem keeps_tryTarget (target : Target) : (tryTarget topology attempt target).Keeps watched
    (concluding (tried (Recorded attempt.mode) (· = [])) troubled) [] := by
  have grants (kind : GrantKind) (current : Option Lease) (renewed : Bool) :
      (do return .granted (← grant attempt target kind current renewed) : Task Tried).Keeps watched
        (concluding (tried (Recorded attempt.mode) (· = [])) troubled) [] :=
    (keeps_grant _ _ _ _).bind fun grant _ given => by
      rintro _ rfl
      exact given
  unfold tryTarget
  split
  · rintro _ rfl
    rfl
  · refine keeps_holding (steady_watched (· = [])) (fun _ => steady_watched _)
      (fun _ => steady_watched _) rfl ?_ ?_
    · rintro _ rfl _ rfl
      rfl
    · rintro _ rfl
      refine (keeps_getLease target.address).bind fun current recorded reached => ?_
      subst reached
      split
      · exact grants _ _ _
      · exact grants _ _ _
      · rintro _ rfl
        rfl

end Trying

section Serving

variable {topology : Topology} {request : Request} {mode : AllocationMode} {limit : Option Nat}

/-- The client presents no identifier that a lease in one of the candidates is recorded against. -/
def LacksOwner (request : Request) (candidates : List Candidate) : Prop :=
  ∃ candidate ∈ candidates, ownerIn request candidate = none

/-- Some candidate has no identifier when not all have one. -/
theorem lacksOwner_of_owners? {candidates : List Candidate}
    (unknown : owners? request candidates = none) : LacksOwner request candidates := by
  refine Classical.byContradiction fun none_lacks => ?_
  have owned (candidate : Candidate) (inside : candidate ∈ candidates) :
      ∃ owner, ownerIn request candidate = some owner :=
    Option.ne_none_iff_exists'.mp fun unowned => none_lacks ⟨candidate, inside, unowned⟩
  obtain ⟨owners, known⟩ := (owners?_isSome_iff candidates).mpr owned
  exact nomatch unknown.symm.trans known

/-- What serving a request in candidates may fail with: trouble, that no address is left, or that
the client has no identifier for one of them. -/
inductive Fails (request : Request) (candidates : List Candidate) : EngineError → Prop where
  /-- Trying an address came into trouble. -/
  | trouble {error : EngineError} (found : error.isTrouble = true) : Fails request candidates error
  /-- No address is left. -/
  | exhausted (subnet : SubnetId) : Fails request candidates (.poolExhausted subnet)
  /-- The client has no identifier for a candidate. -/
  | unidentified (lacks : LacksOwner request candidates) :
      Fails request candidates .missingIdentifier

/-- What may go wrong among some candidates may go wrong among more. -/
theorem Fails.mono {some more : List Candidate} (among : ∀ candidate ∈ some, candidate ∈ more)
    (error : EngineError) (fails : Fails request some error) : Fails request more error := by
  cases fails with
  | trouble found => exact .trouble found
  | exhausted subnet => exact .exhausted subnet
  | unidentified lacks =>
    obtain ⟨candidate, inside, unowned⟩ := lacks
    exact .unidentified ⟨candidate, among candidate inside, unowned⟩

/-- Serving a request in one subnet records the lease that the client is given there. It may come
into trouble, unless the client has no identifier. -/
theorem keeps_allocateIn (leases : List Lease) (candidate : Candidate) :
    (allocateIn topology request mode limit leases candidate).Keeps watched
      (concluding (searched (Recorded mode) (· = [])) (unrecorded (Fails request [candidate])))
      [] := by
  have idle : Steady watched (· = []) := steady_watched _
  have given (grant : Grant) : Steady watched (Recorded mode grant) := steady_watched _
  have bad (error : EngineError) : Steady watched (troubled error) := steady_watched _
  unfold allocateIn
  split
  · next unowned => exact keeps_failed (.unidentified ⟨candidate, List.mem_cons_self, unowned⟩)
  · next owner owned =>
    refine idle.report_bind rfl rfl fun recorded reached => ?_
    refine idle.query_bind rfl reached fun now recorded reached => ?_
    subst reached
    dsimp only
    refine keeps_with_more ?_ fun _ found => Fails.trouble found
    split
    · next target fixes =>
      refine idle.report_bind rfl rfl fun recorded reached => ?_
      subst reached
      refine (keeps_tryFixed target).attempt.bind fun outcome recorded reached => ?_
      cases outcome with
      | ok grant =>
        exact (given grant).report_bind rfl reached fun _ reached =>
          keeps_found idle.calm (fun grant => (given grant).calm) reached
      | error error =>
        exact (bad error).report_bind rfl reached fun _ reached => (bad error).failed error reached
    · refine keeps_allocateDynamic idle.calm (fun grant => (given grant).calm) ?_
        (fun error => (bad error).calm) rfl
      rintro target - _ rfl
      exact @keeps_tryTarget topology (.ofReservation topology candidate request mode owner _ now)
        target

/-- So does serving it in candidates one after another, until the client is given a lease or all are
exhausted. -/
theorem keeps_allocateAmong (leases : List Lease) (last : SubnetId) (busy : Option Address)
    (candidates : List Candidate) :
    (allocateAmong topology request mode limit leases last busy candidates).Keeps watched
      (concluding (Recorded mode) (unrecorded (Fails request candidates))) [] := by
  induction candidates generalizing last busy with
  | nil =>
    cases busy with
    | some address => exact keeps_failed (.trouble rfl)
    | none => exact keeps_failed (.exhausted last)
  | cons candidate rest ih =>
    have here : (allocateIn topology request mode limit leases candidate).Keeps watched
        (concluding (searched (Recorded mode) (· = []))
          (unrecorded (Fails request (candidate :: rest)))) [] :=
      keeps_with_more (keeps_allocateIn leases candidate) (Fails.mono fun other inside =>
        List.mem_singleton.mp inside ▸ List.mem_cons_self)
    refine here.bind fun found recorded reached => ?_
    cases found with
    | granted grant => exact keeps_done reached
    | exhausted skipped =>
      obtain rfl : recorded = [] := reached
      exact keeps_with_more (ih _ _) (Fails.mono fun _ => List.mem_cons_of_mem candidate)

/-- Reading the leases of the client records none, and may come into trouble with the repository. -/
theorem keeps_leasesOf (owners : List Identifier) :
    (leasesOf owners).Keeps watched (concluding nothing troubled) [] := by
  induction owners with
  | nil => exact keeps_done rfl
  | cons owner rest ih =>
    have reads : (call (.getLeases owner)).Keeps watched (concluding nothing troubled) [] :=
      keeps_reading rfl
    refine reads.bind fun found recorded reached => ?_
    subst reached
    exact ih.bind fun others recorded reached => keeps_done reached

/-- Serving a request in its selected subnets records the lease that the client is given, and fails
with what may go wrong in them. -/
theorem keeps_allocateSelected (selection : Selection) (first : Candidate) :
    (allocateSelected topology request mode limit selection first).Keeps watched
      (concluding (Recorded mode) (unrecorded (Fails request selection.candidates))) [] := by
  unfold allocateSelected
  split
  · next unknown => exact keeps_failed (.unidentified (lacksOwner_of_owners? unknown))
  · next owners known =>
    refine (keeps_with_more (keeps_leasesOf owners) fun _ found => .trouble found).bind
      fun leases recorded reached => ?_
    refine (steady_watched (· = [])).query_bind rfl reached fun now recorded reached => ?_
    subst reached
    exact keeps_with_more (keeps_allocateAmong _ _ _ _)
      (Fails.mono fun candidate => (mem_prefer_iff _ _ candidate).mp)

/-- What an allocation may fail with: that no subnet is left for the client, that the client
presents no identifier at all, or what may go wrong in the subnets that are left. -/
inductive Refuses (topology : Topology) (request : Request) : EngineError → Prop where
  /-- No subnet is left. -/
  | unselected (identified : request.identifiers.isEmpty = false)
      (none : (topology.select request).candidates = []) : Refuses topology request .noSubnet
  /-- The client presents no identifier. -/
  | anonymous (unidentified : request.identifiers.isEmpty = true) :
      Refuses topology request .missingIdentifier
  /-- Something goes wrong in the subnets that are left. -/
  | failed {error : EngineError}
      (fails : Fails request (topology.select request).candidates error) :
      Refuses topology request error

/-- Serving a request records the lease that the client is given. -/
theorem keeps_serve : (serve topology request mode limit).Keeps watched
    (concluding (Recorded mode) (unrecorded (Refuses topology request))) [] := by
  unfold serve
  split
  · next unidentified => exact keeps_failed (.anonymous unidentified)
  · next identified =>
    dsimp only
    split
    · next unselected =>
      exact keeps_failed (.unselected (Bool.eq_false_iff.mpr identified) unselected)
    · exact keeps_with_more (keeps_allocateSelected _ _) fun _ => .failed

/-- An allocation that gives the client a lease has recorded this lease, if it was to, and no other
one. An allocation that fails has recorded none. -/
theorem keeps_allocate : (allocate topology request mode limit).Keeps watched
    (concluding (Recorded mode) (unrecorded (Refuses topology request))) [] := by
  refine keeps_serve.attempt.bind fun outcome recorded reached => ?_
  refine (steady_watched (· = recorded)).count_bind rfl rfl fun _ same => ?_
  subst same
  exact Program.Keeps.ofExcept fun _ same => same ▸ reached

end Serving

end Watched

section Runs

variable {topology : Topology} {request : Request} {mode : AllocationMode} {limit : Option Nat}
  {σ : Type} {answer : (question : Ask) → σ → Reply question × σ} {state : σ}

/-- However its questions are answered, an allocation records the lease of a grant that is
committed, and nothing besides. -/
theorem recordedIn_allocate :
    recordedIn ((allocate topology request mode limit).transcript answer state) =
      mode.recorded ((allocate topology request mode limit).run answer state).1 :=
  Watched.recordedIn_eq Watched.keeps_allocate

/-- An allocation ends for want of a subnet exactly when the client presents some identifier and no
candidate is left, however its questions are answered: nothing else that may go wrong is reported
so. -/
theorem run_allocate_eq_noSubnet_iff :
    ((allocate topology request mode limit).run answer state).1 = .error .noSubnet ↔
      request.identifiers.isEmpty = false ∧ (topology.select request).candidates = [] := by
  constructor
  · intro failed
    have reached := reached_of_watched (@Watched.keeps_allocate topology request mode limit) answer
      state
    rw [failed] at reached
    cases reached.2 with
    | unselected identified none => exact ⟨identified, none⟩
    | failed fails =>
      cases fails with
      | trouble found => exact nomatch found
  · rintro ⟨identified, unselected⟩
    have served : serve topology request mode limit = fail .noSubnet := by
      unfold serve
      rw [identified, if_neg Bool.false_ne_true]
      dsimp only
      rw [unselected]
    unfold allocate
    rw [served]
    rfl

end Runs

end Engine

end Leasehold
