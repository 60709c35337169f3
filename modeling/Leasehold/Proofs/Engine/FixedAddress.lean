import Leasehold.Proofs.Engine.Exhaustion
import Leasehold.Proofs.Engine.Precedence
import Leasehold.Proofs.Engine.Trace

/-!
# What becomes of a fixed address

An allocation that comes to a subnet in which an address is fixed for the client ends there
(`ComesTo.serve`). It asks about nothing but that address from then on (`isAbout_of_mem_questions`),
grants it as reserved when it can be had, and fails with the reason otherwise
(`fixed_address_outcome`).
-/
namespace Leasehold

/-- The record keeps its address from the client: it blocks it, and does not belong to a lease that
the client itself holds. -/
def Attempt.IsBlockedBy (attempt : Attempt) (record : Lease) : Prop :=
  record.blocks attempt.now = true ∧
    ¬ (record.state = .active ∧ record.owner = some attempt.owner)

/-- A client may have an address whose record does not keep it away. -/
theorem Attempt.mayHave_iff_not_isBlockedBy {attempt : Attempt} (record : Option Lease) :
    attempt.mayHave record = true ↔ ∀ old, record = some old → ¬ attempt.IsBlockedBy old := by
  rw [mayHave_iff]
  refine forall₂_congr fun old _ => ?_
  unfold IsBlockedBy
  rw [not_and_not_right]

/-- A record that keeps its address from the client blocks it. -/
theorem Attempt.standing_of_isBlockedBy {attempt : Attempt} {record : Lease}
    (blocked : attempt.IsBlockedBy record) :
    attempt.standing (some record) = .blocked record := by
  obtain ⟨blocks, other⟩ := blocked
  have notHeld : (record.state == .active && record.isOwnedBy attempt.owner) = false := by
    simpa [Lease.isOwnedBy] using other
  simp [standing, blocks, notHeld]

namespace Engine

variable {α β : Type} {around : Surroundings} {scene : Scene}

/-- The question is about the address, or about the time, or it only reports something. -/
inductive Ask.IsAbout (address : Address) : Ask → Prop where
  /-- What time it is. -/
  | clock : IsAbout address .clock
  /-- A report. -/
  | report (notice : Notice) : IsAbout address (.report notice)
  /-- The address is locked. -/
  | lock : IsAbout address (.lock address)
  /-- The address is unlocked. -/
  | unlock : IsAbout address (.unlock address)
  /-- The record of the address is read. -/
  | read : IsAbout address (.repository (.getLease address))
  /-- A record of the address is written. -/
  | write (lease : Lease) (expected : Expectation) (placed : lease.address = address) :
    IsAbout address (.repository (.write lease expected))
  /-- A lease for the address is reviewed. -/
  | review (request : Request) (lease : Lease) (mode : AllocationMode)
    (placed : lease.address = address) : IsAbout address (.review request lease mode)

/-- In no scene does the task ask about another address, or where to find one. -/
def AsksAbout (address : Address) (task : Task α) : Prop :=
  ∀ around scene, ∀ question ∈ Scene.questions around task scene, question.IsAbout address

namespace AsksAbout

variable {address : Address}

/-- A task that is done asks nothing. -/
theorem done (result : α) : AsksAbout address (pure result : Task α) :=
  fun _ _ _ member => absurd member List.not_mem_nil

/-- A task that has failed asks nothing. -/
theorem failed (error : EngineError) : AsksAbout address (fail error : Task α) :=
  fun _ _ _ member => absurd member List.not_mem_nil

/-- A question comes before those that follow from its answer. -/
theorem ask {question : Ask} {next : Reply question → Task α} (about : question.IsAbout address)
    (goesOn : ∀ reply, AsksAbout address (next reply)) :
    AsksAbout address (.ask question next : Task α) := by
  intro around scene other member
  rcases List.mem_cons.mp member with rfl | later
  · exact about
  · exact goesOn _ around _ other later

/-- One task after another. -/
theorem bind {first : Task α} {rest : α → Task β} (begins : AsksAbout address first)
    (goesOn : ∀ result, AsksAbout address (rest result)) :
    AsksAbout address (first >>= rest) := by
  intro around scene question member
  unfold Scene.questions at member
  rw [Scene.trace_bind, List.map_append, List.mem_append] at member
  rcases member with early | late
  · exact begins around scene question early
  · split at late
    · exact goesOn _ around _ question late
    · exact nomatch late

/-- A task whose error is part of its result. -/
theorem attempt {task : Task α} (asks : AsksAbout address task) :
    AsksAbout address (task.attempt : Task (Except EngineError α)) := by
  intro around scene question member
  unfold Scene.questions at member
  rw [Scene.trace_attempt] at member
  exact asks around scene question member

/-- An outcome asks nothing. -/
theorem ofExcept (outcome : Except EngineError α) :
    AsksAbout address (Program.ofExcept outcome : Task α) := by
  cases outcome with
  | ok result => exact done result
  | error error => exact failed error

/-- Work under the lock of the address. -/
theorem holding {busy work : Task α} (whenBusy : AsksAbout address busy)
    (whenFree : AsksAbout address work) : AsksAbout address (holding address busy work) := by
  refine ask .lock fun free => ?_
  cases free with
  | false => exact whenBusy
  | true => exact whenFree.attempt.bind fun outcome => (ask .unlock fun _ => ofExcept outcome)

/-- A call that is about the address. -/
theorem call {request : RepositoryCall} (about : (Ask.repository request).IsAbout address) :
    AsksAbout address (call request) :=
  ask about fun reply => by
    cases reply with
    | ok answer => exact done answer
    | error error => exact failed _

/-- What is read for the address is a record of it. -/
theorem getLease_bind {rest : Option Lease → Task β}
    (goesOn : ∀ found, (∀ lease, found = some lease → lease.address = address) →
      AsksAbout address (rest found)) :
    AsksAbout address (Engine.call (.getLease address) >>= rest) := by
  intro around scene question member
  rcases List.mem_cons.mp member with rfl | later
  · exact .read
  · have placed (lease : Lease) (stored : scene.store.get? address = some lease) :
        lease.address = address := Store.address_of_get? stored
    exact goesOn _ placed around scene question later

/-- A report is about no address. -/
theorem report (notice : Notice) : AsksAbout address (report notice) :=
  ask (.report notice) done

/-- A counter is about no address. -/
theorem count (metric : Metric) (change : Int) : AsksAbout address (count metric change) :=
  report _

/-- The clock is about no address. -/
theorem clock : AsksAbout address clock := ask .clock done

/-- Reclaiming a record of the address. -/
theorem reclaim {lease : Lease} (placed : lease.address = address) :
    AsksAbout address (reclaim lease) := by
  refine (call (.write { lease with state := .reclaimed } _ placed)).bind fun outcome => ?_
  cases outcome with
  | conflict found => exact done none
  | committed stored =>
    have reports : AsksAbout address (do
        Engine.count .reclaimed 1
        Engine.report (.reclaimed stored)
        return some stored : Task (Option Lease)) :=
      (count _ _).bind fun _ => (report _).bind fun _ => done _
    dsimp only
    split
    · exact (count _ _).bind fun _ => reports
    · exact reports

section Grants

variable {attempt : Attempt} {target : Target} {current : Option Lease}

/-- Clearing a record of the address. -/
theorem clear (placed : ∀ lease, current = some lease → lease.address = address) :
    AsksAbout address (clear attempt current) := by
  unfold Engine.clear
  split
  · exact done current
  · next lease overdue =>
    refine (reclaim (placed lease (Attempt.overdue?_eq_some overdue).1)).bind fun result => ?_
    cases result with
    | none => exact failed _
    | some reclaimed => exact done _

/-- Recording a lease for the address. -/
theorem record {lease : Lease} (placed : lease.address = address) (renewed : Bool) :
    AsksAbout address (record lease current renewed) := by
  refine (call (.write lease _ placed)).bind fun outcome => ?_
  cases outcome with
  | conflict found => exact failed _
  | committed stored =>
    have reports : AsksAbout address (do
        Engine.report (.committed stored)
        return stored : Task Lease) := (report _).bind fun _ => done _
    dsimp only
    split
    · exact (count _ _).bind fun _ => reports
    · exact reports

/-- Giving the client an address whose record was read. -/
theorem grant (placed : ∀ lease, current = some lease → lease.address = target.address)
    (kind : GrantKind) (renewed : Bool) :
    AsksAbout target.address (grant attempt target kind current renewed) := by
  refine (clear placed).bind fun current => ?_
  refine (ask (.review _ _ _ rfl) done).bind fun approved => ?_
  cases approved with
  | false => exact failed _
  | true =>
    dsimp only [Bool.not_true, Bool.false_eq_true, ↓reduceIte]
    cases attempt.mode with
    | offer => exact (done _).bind fun _ => done _
    | commit => exact (record rfl renewed).bind fun _ => done _

/-- Trying the address that is fixed for the client. -/
theorem tryFixed (attempt : Attempt) (target : Target) :
    AsksAbout target.address (tryFixed attempt target) := by
  refine holding (failed _) (getLease_bind fun current placed => ?_)
  cases attempt.standing current with
  | free => exact grant placed _ _
  | held => exact grant placed _ _
  | blocked lease => exact failed _

end Grants

end AsksAbout

section Subnet

variable {topology : Topology} {request : Request} {mode : AllocationMode} {attempt : Attempt}
  {limit : Option Nat} {leases : List Lease} {target : Target}

/-- Giving the client the address that is fixed for it asks about nothing else. -/
theorem asksAbout_allocateFixed (attempt : Attempt) (target : Target) :
    AsksAbout target.address (allocateFixed attempt target) := by
  refine (AsksAbout.report _).bind fun _ => ?_
  refine (AsksAbout.tryFixed attempt target).attempt.bind fun result => ?_
  cases result with
  | ok grant => exact (AsksAbout.report _).bind fun _ => .done _
  | error error => exact (AsksAbout.report _).bind fun _ => .failed _

/-- In a subnet in which an address is fixed for the client, that address alone is asked about. -/
theorem isAbout_of_mem_questions (serves : Serves topology request mode around.now attempt)
    (fixed : attempt.fixedTarget? topology = some target) {question : Ask}
    (asked : question ∈ scene.questions around
      (allocateIn topology request mode limit leases attempt.candidate)) :
    question.IsAbout target.address := by
  unfold Attempt.fixedTarget? at fixed
  rw [serves.request_eq] at fixed
  unfold allocateIn Scene.questions at asked
  rw [serves.owned] at asked
  dsimp only at asked
  rw [Scene.trace_report_bind, Scene.trace_clock_bind, ← serves.made, fixed] at asked
  rcases List.mem_cons.mp asked with rfl | asked
  · exact .report _
  rcases List.mem_cons.mp asked with rfl | asked
  · exact .clock
  exact asksAbout_allocateFixed attempt target around scene question asked

/-- Where an address is fixed for the client, an allocation ends with what becomes of that address.
-/
theorem run_allocateAmong_of_fixed (serves : Serves topology request mode around.now attempt)
    (fixed : attempt.fixedTarget? topology = some target) (last : SubnetId)
    (busy : Option Address) (others : List Candidate) :
    let task := allocateAmong topology request mode limit leases last busy
      (attempt.candidate :: others)
    scene.run around task = scene.run around (tryFixed attempt target) ∧
      scene.questions around task = scene.questions around
        (allocateIn topology request mode limit leases attempt.candidate) := by
  unfold allocateAmong Scene.questions
  dsimp only
  rw [Scene.run_bind, Scene.trace_bind, run_allocateIn_of_fixed serves fixed]
  rcases scene.run around (tryFixed attempt target) with ⟨_ | grant, after⟩ <;>
    exact ⟨rfl, congrArg _ (List.append_nil _)⟩

/-- Subnets that turn out to be exhausted are gone through one after another. -/
theorem exists_allocateAmong_of_exhausted {skipped : List Candidate}
    (exhausted : ∀ candidate ∈ skipped, ∃ busy, scene.run around
      (allocateIn topology request mode limit leases candidate) = (.ok (.exhausted busy), scene))
    (last : SubnetId) (busy : Option Address) (others : List Candidate) :
    ∃ last' busy',
      let whole := allocateAmong topology request mode limit leases last busy (skipped ++ others)
      let later := allocateAmong topology request mode limit leases last' busy' others
      scene.run around whole = scene.run around later ∧
        scene.questions around whole = (skipped.flatMap fun candidate => scene.questions around
          (allocateIn topology request mode limit leases candidate)) ++
            scene.questions around later := by
  induction skipped generalizing last busy with
  | nil => exact ⟨last, busy, rfl, rfl⟩
  | cons candidate rest ih =>
    obtain ⟨passed, ran⟩ := exhausted candidate List.mem_cons_self
    -- The subnet and the locked address that are remembered matter only when no subnet is left.
    obtain ⟨last', busy', goesOn, asked⟩ :=
      ih (fun other member => exhausted other (List.mem_cons_of_mem _ member))
        candidate.subnet.id (busy.or passed)
    refine ⟨last', busy', (Scene.run_bind_ok ran).trans goesOn, ?_⟩
    rw [List.flatMap_cons, List.append_assoc, ← asked]
    exact Scene.questions_bind_ok ran

/-- The leases of the client are read once for each of its owners. -/
theorem questions_leasesOf (owners : List Identifier) :
    scene.questions around (leasesOf owners) = owners.map (.repository <| .getLeases ·) := by
  induction owners with
  | nil => rfl
  | cons owner rest ih =>
    rw [List.map_cons, ← ih]
    have later : scene.questions around (do
        let others ← leasesOf rest
        return scene.store.ofOwner owner ++ others) = scene.questions around (leasesOf rest) :=
      (Scene.questions_bind_ok (run_leasesOf rest)).trans (List.append_nil _)
    exact congrArg (Ask.repository (.getLeases owner) :: ·) later

/-- An allocation comes to the subnet of an attempt: those before it, in the order in which the
allocation goes through them, turn out to be exhausted. -/
structure ComesTo (topology : Topology) (request : Request) (mode : AllocationMode)
    (around : Surroundings) (scene : Scene) (limit : Option Nat) (owners : List Identifier)
    (attempt : Attempt) (skipped : List Candidate) : Prop where
  /-- The attempt is made for the request. -/
  serves : Serves topology request mode around.now attempt
  /-- The client has these owners. -/
  known : owners? request (topology.select request).candidates = some owners
  /-- The subnets before that of the attempt. -/
  split : ∃ others, preferred topology request scene.store around.now owners =
    skipped ++ attempt.candidate :: others
  /-- They are exhausted. -/
  exhausted : ∀ candidate ∈ skipped, ∃ busy after, scene.run around
    (allocateIn topology request mode limit (owners.flatMap scene.store.ofOwner) candidate) =
      (.ok (.exhausted busy), after)

section ComesTo

variable {owners : List Identifier} {skipped : List Candidate}
  (comes : ComesTo topology request mode around scene limit owners attempt skipped)
include comes

/-- The subnets before are exhausted in the scene that the allocation begins in, and leave it. -/
theorem ComesTo.exists_busy {candidate : Candidate} (member : candidate ∈ skipped) :
    ∃ busy, scene.run around (allocateIn topology request mode limit
      (owners.flatMap scene.store.ofOwner) candidate) = (.ok (.exhausted busy), scene) := by
  obtain ⟨others, split⟩ := comes.split
  have inside : candidate ∈ preferred topology request scene.store around.now owners := by
    rw [split]
    exact List.mem_append_left _ member
  have selected := (mem_prefer_iff _ _ candidate).mp inside
  obtain ⟨owner, owned⟩ :=
    (owners?_isSome_iff _).mp ⟨owners, comes.known⟩ candidate selected
  obtain ⟨made, serves, rfl⟩ :
      ∃ made, Serves topology request mode around.now made ∧ made.candidate = candidate :=
    exists_serves selected owned
  obtain ⟨busy, after, ran⟩ := comes.exhausted _ member
  -- A subnet that turns out to be exhausted leaves the scene as it was.
  obtain ⟨-, rfl⟩ := exhausts_of_run serves ran
  exact ⟨busy, ran⟩

variable (fixed : attempt.fixedTarget? topology = some target)
include fixed

/-- An allocation that comes to a fixed address ends with what becomes of it, and has asked about no
other since then. -/
theorem ComesTo.serve :
    let questionsIn candidate := scene.questions around (allocateIn topology request mode limit
      (owners.flatMap scene.store.ofOwner) candidate)
    scene.run around (serve topology request mode limit) =
        scene.run around (tryFixed attempt target) ∧
      scene.questions around (serve topology request mode limit) =
        owners.map (.repository <| .getLeases ·) ++
          .clock :: (skipped ++ [attempt.candidate]).flatMap questionsIn := by
  intro questionsIn
  obtain ⟨others, split⟩ := comes.split
  obtain ⟨first, rest, selected⟩ :=
    List.exists_cons_of_ne_nil (List.ne_nil_of_mem comes.serves.selected)
  obtain ⟨last, busy, ran, asked⟩ := exists_allocateAmong_of_exhausted
    (fun candidate member => comes.exists_busy member) first.subnet.id none
    (attempt.candidate :: others)
  rw [← split, (run_allocateAmong_of_fixed comes.serves fixed last busy others).1] at ran
  rw [← split, (run_allocateAmong_of_fixed comes.serves fixed last busy others).2] at asked
  constructor
  · exact (run_serve selected comes.known).trans ran
  · rw [serve_of_selected selected comes.known,
      Scene.questions_bind_ok (run_leasesOf owners), questions_leasesOf]
    refine congrArg (_ ++ .clock :: ·) (asked.trans ?_)
    rw [List.flatMap_append]
    exact congrArg _ (List.append_nil _).symm

end ComesTo

/-- Counting how an allocation ended is the last that it does. -/
theorem questions_allocate :
    scene.questions around (allocate topology request mode limit) =
      scene.questions around (serve topology request mode limit) ++
        [.report (.count (.outcome (outcome mode
          (scene.run around (serve topology request mode limit)).1)) 1)] := by
  have asked : scene.questions around ((serve topology request mode limit).attempt : Task _) =
      scene.questions around (serve topology request mode limit) :=
    congrArg _ (Scene.trace_attempt _ _)
  refine (Scene.questions_bind_ok (Scene.run_attempt scene _)).trans ?_
  rw [asked]
  exact congrArg (_ ++ Ask.report _ :: ·) (congrArg _ (Scene.trace_ofExcept _ _))

/-- How trying a fixed address ends. -/
inductive FixedEnding (attempt : Attempt) (target : Target) (scene : Scene) :
    Except EngineError Grant → Scene → Prop where
  /-- The client is given the address, and no other record changes. -/
  | granted {grant : Grant} {store : Store} (free : scene.locks.isLocked target.address = false)
    (unblocked : ∀ old, scene.store.get? target.address = some old → ¬ attempt.IsBlockedBy old)
    (kind : grant.kind = .reserved) (address : grant.lease.address = target.address)
    (others : ∀ other, other ≠ target.address → store.get? other = scene.store.get? other) :
    FixedEnding attempt target scene (.ok grant) { scene with store := store }
  /-- The address is locked. -/
  | locked (locked : scene.locks.isLocked target.address = true) :
    FixedEnding attempt target scene (.error (.lostRace target.address)) scene
  /-- The record of the address keeps it from the client. -/
  | blocked {old : Lease} (free : scene.locks.isLocked target.address = false)
    (stored : scene.store.get? target.address = some old) (blocked : attempt.IsBlockedBy old) :
    FixedEnding attempt target scene
      (.error (.reservationConflict target.address (holder old))) scene

/-- Trying a fixed address ends in one of these ways, when leases are not reviewed. -/
theorem fixedEnding_of_tryFixed
    (unreviewed : ∀ request lease mode, around.review request lease mode = true)
    (attempt : Attempt) (target : Target) :
    FixedEnding attempt target scene (scene.run around (tryFixed attempt target)).1
      (scene.run around (tryFixed attempt target)).2 := by
  cases locked : scene.locks.isLocked target.address with
  | true =>
    rw [Scene.run_tryFixed_of_locked locked]
    exact .locked locked
  | false =>
    cases may : attempt.mayHave (scene.store.get? target.address) with
    | true =>
      rw [Scene.run_tryFixed_of_free locked may, Attempt.given_eq unreviewed]
      refine .granted locked ((Attempt.mayHave_iff_not_isBlockedBy _).mp may) rfl
        (Attempt.issued_address target _) fun other away => ?_
      cases mode : attempt.mode with
      | offer => rw [Attempt.storeAfter_of_offer mode]
      | commit =>
        rw [Attempt.get?_storeAfter_of_commit mode rfl (unreviewed _ _ _), if_neg away]
    | false =>
      obtain ⟨old, stored, blocked⟩ : ∃ old, scene.store.get? target.address = some old ∧
          attempt.IsBlockedBy old := by
        have refused := mt (Attempt.mayHave_iff_not_isBlockedBy _).mpr (Bool.eq_false_iff.mp may)
        push Not at refused
        exact refused
      have standing : attempt.standing (scene.store.get? target.address) = .blocked old := by
        rw [stored]
        exact Attempt.standing_of_isBlockedBy blocked
      rw [Scene.run_tryFixed_of_blocked locked standing]
      exact .blocked locked stored blocked

namespace FixedEnding

variable {result : Except EngineError Grant} {after : Scene}
  (ending : FixedEnding attempt target scene result after)
include ending

/-- The address is given to the client when it is neither locked nor kept away by its record, and
only then. -/
theorem granted_iff :
    (∃ grant, result = .ok grant ∧ grant.kind = .reserved ∧
        grant.lease.address = target.address) ↔
      scene.locks.isLocked target.address = false ∧
        ∀ old, scene.store.get? target.address = some old → ¬ attempt.IsBlockedBy old := by
  cases ending with
  | granted free unblocked kind address =>
    exact ⟨fun _ => ⟨free, unblocked⟩, fun _ => ⟨_, rfl, kind, address⟩⟩
  | locked locked =>
    constructor
    · rintro ⟨grant, same, -⟩
      cases same
    · rintro ⟨free, -⟩
      rw [locked] at free
      cases free
  | blocked _ stored blocked =>
    constructor
    · rintro ⟨grant, same, -⟩
      cases same
    · rintro ⟨-, unblocked⟩
      exact absurd blocked (unblocked _ stored)

/-- A locked address is not waited for. -/
theorem eq_of_locked (locked : scene.locks.isLocked target.address = true) :
    result = .error (.lostRace target.address) := by
  cases ending with
  | granted free | blocked free =>
    rw [locked] at free
    cases free
  | locked => rfl

/-- A record that keeps the address away is named. -/
theorem eq_of_blocked (free : scene.locks.isLocked target.address = false) {old : Lease}
    (stored : scene.store.get? target.address = some old) (blocked : attempt.IsBlockedBy old) :
    result = .error (.reservationConflict target.address (holder old)) := by
  cases ending with
  | granted _ unblocked => exact absurd blocked (unblocked old stored)
  | locked locked =>
    rw [locked] at free
    cases free
  | blocked _ found =>
    obtain rfl := Option.some.inj (found.symm.trans stored)
    rfl

/-- Nothing else changes. -/
theorem unchanged :
    (∀ other, other ≠ target.address → after.store.get? other = scene.store.get? other) ∧
      after.locks = scene.locks ∧ after.cursors = scene.cursors := by
  cases ending with
  | granted _ _ _ _ others => exact ⟨others, rfl, rfl⟩
  | locked | blocked => exact ⟨fun _ _ => rfl, rfl, rfl⟩

end FixedEnding

end Subnet

/-- An allocation that comes to a subnet in which an address is fixed for the client, while leases
are not reviewed, grants that address as reserved when it is not locked and no record keeps it from
the client. It fails with a lost race when the address is locked, and otherwise names the owner of
the record that keeps it, or the state of a record without an owner. No record of another address
changes, and neither do locks and cursors. After the leases of the client were read, it asks only
what is asked in the subnets that it has come through and in this one, where it asks about nothing
but the address. -/
theorem fixed_address_outcome {topology : Topology} {request : Request} {mode : AllocationMode}
    {limit : Option Nat} {owners : List Identifier} {attempt : Attempt} {skipped : List Candidate}
    {target : Target} (state : State)
    (comes : ComesTo topology request mode around state.scene limit owners attempt skipped)
    (fixed : attempt.fixedTarget? topology = some target)
    (unreviewed : ∀ request lease mode, around.review request lease mode = true) :
    let ended := state.run around (allocate topology request mode limit)
    let questionsIn candidate := state.scene.questions around
      (allocateIn topology request mode limit (owners.flatMap state.store.ofOwner) candidate)
    ((∃ grant, ended.1 = .ok grant ∧ grant.kind = .reserved ∧
        grant.lease.address = target.address) ↔
      state.locks.isLocked target.address = false ∧
        ∀ old, state.store.get? target.address = some old → ¬ attempt.IsBlockedBy old) ∧
    (state.locks.isLocked target.address = true →
      ended.1 = .error (.lostRace target.address)) ∧
    (state.locks.isLocked target.address = false →
      ∀ old, state.store.get? target.address = some old → attempt.IsBlockedBy old →
        ended.1 = .error (.reservationConflict target.address
          ((old.owner.map (·.text)).getD old.state.text))) ∧
    (∀ address, address ≠ target.address →
      ended.2.store.get? address = state.store.get? address) ∧
    ended.2.locks = state.locks ∧ ended.2.cursors = state.cursors ∧
    state.scene.questions around (allocate topology request mode limit) =
      owners.map (.repository <| .getLeases ·) ++
        .clock :: (skipped ++ [attempt.candidate]).flatMap questionsIn ++
          [.report (.count (.outcome (outcome mode ended.1)) 1)] ∧
    ∀ question ∈ questionsIn attempt.candidate, question.IsAbout target.address := by
  intro ended questionsIn
  obtain ⟨result, last⟩ := state.run_scene around (allocate topology request mode limit)
  obtain ⟨served, asked⟩ := comes.serve fixed
  rw [run_allocate, served] at result last
  have ending : FixedEnding attempt target state.scene ended.1 ended.2.scene := by
    rw [result, last]
    exact fixedEnding_of_tryFixed unreviewed attempt target
  obtain ⟨others, locks, cursors⟩ := ending.unchanged
  refine ⟨ending.granted_iff, ending.eq_of_locked,
    fun free old stored blocked => ending.eq_of_blocked free stored blocked, others, locks, cursors,
    ?_, fun question member => isAbout_of_mem_questions comes.serves fixed member⟩
  rw [questions_allocate, asked, served, ← result]
  rfl

/-- The lease of the second client for the address that is reserved for the first. -/
def Sample.leaseOfHome : Lease := { Sample.lease 2 0 1 with address := Sample.home }

/-- The second client has held the address since before it was reserved. -/
def Sample.homeTaken : State :=
  { State.initial with store := Store.empty.insert Sample.leaseOfHome }

/-- The conditions can be met: while the second client holds the address that is reserved for the
first, an allocation for the first fails and names the second. -/
theorem fixed_address_outcome_of_second_client :
    let ended := Sample.homeTaken.run (Sample.around 5)
      (allocate (Sample.roaming [Sample.home, Sample.elsewhere]) (Sample.request 1) .commit none)
    ended.1 = .error (.reservationConflict Sample.home (Identifier.text ⟨.hwAddress, [2]⟩)) ∧
      ∀ address, address ≠ Sample.home →
        ended.2.store.get? address = Sample.homeTaken.store.get? address := by
  intro ended
  have listed : [Sample.home, Sample.elsewhere] ∈ Sample.itineraries := by decide
  have known := Sample.of_mem_roaming _ listed
  obtain ⟨owners, candidate, others, presented, tried, selected⟩ :=
    exists_first_preferred Sample.homeTaken.store (Sample.around 5).now
      (Sample.select_roaming _ listed) fun candidate member => ⟨_, (known candidate member).2.1⟩
  obtain ⟨-, owned, may, -, family, -⟩ := known candidate selected
  obtain ⟨attempt, serves, rfl⟩ : ∃ attempt, Serves (Sample.roaming _) (Sample.request 1) .commit
      (Sample.around 5).now attempt ∧ attempt.candidate = candidate :=
    exists_serves selected owned
  have applies := Sample.reservation?_roaming listed selected
  have decides : (Sample.roamerReserved [Sample.home, Sample.elsewhere]).address?
      attempt.candidate.subnet.family = some Sample.home := by
    rw [family]
    decide
  rcases serves.fixedTarget?_cases rfl applies decides with ⟨-, target, fixes, address⟩ | ⟨cannot, -⟩
  · have comes : ComesTo (Sample.roaming _) (Sample.request 1) .commit (Sample.around 5)
        Sample.homeTaken.scene none owners attempt [] := ⟨serves, presented, ⟨others, tried⟩,
          fun _ inside => absurd inside List.not_mem_nil⟩
    obtain ⟨-, -, refused, unchanged, -⟩ :=
      fixed_address_outcome Sample.homeTaken comes fixes fun _ _ _ => rfl
    have stored : Sample.homeTaken.store.get? Sample.home = some Sample.leaseOfHome := by
      decide +kernel
    have blocked : attempt.IsBlockedBy Sample.leaseOfHome := by
      unfold Attempt.IsBlockedBy
      rw [serves.now_mode.1, serves.owned.symm.trans owned]
      decide
    rw [address] at refused unchanged
    exact ⟨refused rfl _ stored blocked, unchanged⟩
  · exact absurd may cannot

end Engine

end Leasehold
