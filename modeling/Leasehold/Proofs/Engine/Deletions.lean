import Leasehold.Proofs.Engine.Construction
import Leasehold.Proofs.Engine.Operation
import Leasehold.Proofs.Engine.Turns

/-!
# Deletions on a shared store

Engines with locks of their own may share a store. Their tasks take turns on it in any order, each
at an instant of its own. A deletion is not conditional: it takes away whatever is stored. Before it
the same task has read the record, has made no other call since, and what it read has passed the
check of its operation. Whether the record that is taken away is the one that was read depends on
the effects on it in between (`delete_spec`). Locks that are not shared do not prevent such effects,
and so the lease of another client can be deleted (`live_lease_deleted`).
-/
namespace Leasehold.Engine

/-- Engines that share a store. -/
structure Fleet (κ : Type) where
  /-- The store. -/
  store : Store
  /-- The locks, the cursors and the log of each engine. The store of these states is not used. -/
  engines : κ → State

namespace Fleet

variable {κ : Type} [DecidableEq κ]

/-- The state of an engine. -/
def state (fleet : Fleet κ) (engine : κ) : State :=
  { fleet.engines engine with store := fleet.store }

/-- An engine answers a question. -/
def answer (circumstances : κ × Surroundings) (question : Ask) (fleet : Fleet κ) :
    Reply question × Fleet κ :=
  let (engine, around) := circumstances
  let (reply, after) := (fleet.state engine).answer around question
  (reply, ⟨after.store, Function.update fleet.engines engine after⟩)

end Fleet

/-- An operation that is carried out by one of several engines. -/
structure Job (κ : Type) where
  /-- The operation. -/
  operation : Operation
  /-- The topology in force when it begins. -/
  topology : Topology
  /-- The engine. -/
  engine : κ

namespace Job

variable {ι κ : Type}

/-- Some jobs before their first turn on a fleet. -/
def start (jobs : ι → Job κ) (fleet : Fleet κ) : Crew ι Ask Reply EngineError Unit (Fleet κ) :=
  ⟨fun who => (jobs who).operation.task (jobs who).topology, fleet, []⟩

/-- The jobs after they have taken turns, each turn in surroundings of its own. -/
def moment [DecidableEq ι] [DecidableEq κ] (jobs : ι → Job κ) (fleet : Fleet κ)
    (schedule : List (ι × Surroundings)) : Crew ι Ask Reply EngineError Unit (Fleet κ) :=
  (start jobs fleet).play Fleet.answer
    (schedule.map fun (who, around) => (who, (jobs who).engine, around))

end Job

/-- The question is a call on the repository. -/
def Ask.isCall : Ask → Bool
  | .repository _ => true
  | _ => false

/-- What an operation has checked of a record since it was read, before it deletes it: that the
client held it at an instant that the clock has shown since, or that it was reclaimed. Allocations
and declines delete nothing. -/
def Operation.HasChecked {ι : Type} (operation : Operation) (who : ι)
    (since : List (Turn ι Ask Reply)) (record : Lease) : Prop :=
  match operation with
  | release ids _ => ∃ owner instant, ids.Owns owner ∧ record.owner = some owner ∧
      record.isActive instant ∧ ⟨who, .clock, instant⟩ ∈ since
  | sweep _ => record.state = .reclaimed
  | allocate _ _ _ | decline _ _ _ => False

namespace Deletions

variable {ι : Type} {who : ι} {operation : Operation} {address : Address} {record : Lease}
  {since turns after : List (Turn ι Ask Reply)}

/-- A task has read the record of an address, and has made no other call since. -/
structure HasRead (who : ι) (address : Address) (record : Lease)
    (since turns : List (Turn ι Ask Reply)) : Prop where
  /-- It has read the record. -/
  read : ∃ before,
    turns = before ++ ⟨who, .repository (.getLease address), .ok (some record)⟩ :: since
  /-- It has made no other call since. -/
  last : ∀ turn ∈ since, turn.who = who → turn.question.isCall = false

/-- A task has read the record of an address and has checked it. -/
def IsReady (operation : Operation) (who : ι) (address : Address) (record : Lease)
    (turns : List (Turn ι Ask Reply)) : Prop :=
  ∃ since, HasRead who address record since turns ∧ operation.HasChecked who since record

/-- A deletion follows a reading and a check. -/
def IsPrepared (operation : Operation) (who : ι) (turns : List (Turn ι Ask Reply)) : Ask → Prop
  | .repository (.delete address) => ∃ record, IsReady operation who address record turns
  | _ => True

/-- The terms of an operation, which sees the turns: others may take any, and its own deletions are
prepared. -/
def terms (operation : Operation) (who : ι) : Terms Ask Reply (List (Turn ι Ask Reply)) where
  answers question before reply after := after = before ++ [⟨who, question, reply⟩]
  rely before after := ∃ others, after = before ++ others ∧ ∀ turn ∈ others, turn.who ≠ who
  allowed before after := ∃ question reply,
    after = before ++ [⟨who, question, reply⟩] ∧ IsPrepared operation who before question
  rely_refl before := ⟨[], by simp⟩
  rely_trans := by
    rintro first _ _ ⟨earlier, rfl, others⟩ ⟨later, rfl, further⟩
    refine ⟨earlier ++ later, by simp, ?_⟩
    intro turn member
    rcases List.mem_append.mp member with first | second
    · exact others turn first
    · exact further turn second

/-- A check is not undone by further turns. -/
theorem hasChecked_append (checked : operation.HasChecked who since record)
    (more : List (Turn ι Ask Reply)) : operation.HasChecked who (since ++ more) record := by
  cases operation with
  | allocate | decline => exact checked
  | sweep => exact checked
  | release ids address =>
    obtain ⟨owner, instant, owns, owned, held, shown⟩ := checked
    exact ⟨owner, instant, owns, owned, held, List.mem_append_left more shown⟩

/-- Turns of others come after a reading. -/
theorem HasRead.others (reading : HasRead who address record since turns)
    {others : List (Turn ι Ask Reply)} (foreign : ∀ turn ∈ others, turn.who ≠ who) :
    HasRead who address record (since ++ others) (turns ++ others) := by
  obtain ⟨⟨before, rfl⟩, last⟩ := reading
  constructor
  · exact ⟨before, by simp⟩
  · intro turn member own
    rcases List.mem_append.mp member with old | new
    · exact last turn old own
    · exact absurd own (foreign turn new)

/-- A question of the task itself that is not a call comes after a reading. -/
theorem HasRead.own (reading : HasRead who address record since turns) {question : Ask}
    (noCall : question.isCall = false) (reply : Reply question) :
    HasRead who address record (since ++ [⟨who, question, reply⟩])
      (turns ++ [⟨who, question, reply⟩]) := by
  obtain ⟨⟨before, rfl⟩, last⟩ := reading
  constructor
  · exact ⟨before, by simp⟩
  · intro turn member own
    rcases List.mem_append.mp member with old | new
    · exact last turn old own
    · obtain rfl := List.mem_singleton.mp new
      exact noCall

/-- A task that is ready stays so while others take turns. -/
theorem IsReady.later (ready : IsReady operation who address record turns)
    (meanwhile : (terms operation who).rely turns after) :
    IsReady operation who address record after := by
  obtain ⟨since, reading, checked⟩ := ready
  obtain ⟨others, rfl, foreign⟩ := meanwhile
  exact ⟨since ++ others, reading.others foreign, hasChecked_append checked others⟩

/-- Questions other than deletions need no preparation. -/
theorem isPrepared_of_not_delete {question : Ask}
    (other : ∀ address, question ≠ .repository (.delete address)) :
    IsPrepared operation who turns question := by
  unfold IsPrepared
  split
  · next address => exact absurd rfl (other address)
  · trivial

/-- A task may ask any question that is no deletion. -/
theorem keeps_query {question : Ask}
    (other : ∀ address, question ≠ .repository (.delete address)) :
    (query question).Keeps (terms operation who) anyhow turns := by
  intro later meanwhile reply after answered
  exact ⟨⟨question, reply, answered, isPrepared_of_not_delete other⟩, fun _ _ => trivial⟩

/-- A task may make any call that is no deletion. -/
theorem keeps_call {request : RepositoryCall} (other : request.kind ≠ .delete) :
    (call request).Keeps (terms operation who) anyhow turns := by
  intro later meanwhile reply after answered
  have noDelete (address : Address) :
      Ask.repository request ≠ .repository (.delete address) := by
    intro same
    cases same
    exact other rfl
  refine ⟨⟨_, reply, answered, isPrepared_of_not_delete noDelete⟩, ?_⟩
  cases reply <;> exact fun _ _ => trivial

/-- Nothing is steadier than what always holds. -/
theorem steady_true : Steady (terms operation who) fun _ => True where
  spared _ _ := trivial
  kept {question before reply after} harmless _ answered := by
    have noDelete (address : Address) : question ≠ .repository (.delete address) := by
      intro same
      subst same
      exact nomatch harmless
    exact ⟨⟨question, reply, answered, isPrepared_of_not_delete noDelete⟩, trivial⟩

/-- Work under a lock keeps to the terms when it does so without. -/
theorem keeps_holding {α : Type} {busy work : Task α}
    (whenBusy : ∀ turns, busy.Keeps (terms operation who) anyhow turns)
    (whenFree : ∀ turns, work.Keeps (terms operation who) anyhow turns) :
    (holding address busy work).Keeps (terms operation who) anyhow turns :=
  Engine.keeps_holding steady_true (fun _ => steady_true) (fun _ => steady_true) trivial
    (fun later _ => whenBusy later) (fun later _ => whenFree later)

/-- Keeping to the terms is handed on by every way to put tasks together. -/
theorem compositional : Compositional fun {α} (task : Task α) =>
    ∀ turns : List (Turn ι Ask Reply), task.Keeps (terms operation who) anyhow turns where
  done _ _ := fun _ _ => trivial
  failed _ _ := fun _ _ => trivial
  bind first rest turns := (first turns).bind fun result last _ => rest result last
  attempt {α task} keeps turns := by
    have ends : (task.attempt : Task (Except EngineError α)).Keeps (terms operation who)
        (ending anyhow fun _ => True) turns := (keeps turns).attempt
    exact ends.anyhow
  query question plain turns := by
    apply keeps_query
    rintro address rfl
    exact nomatch plain
  call request other turns := keeps_call other
  holding address whenBusy whenFree turns := keeps_holding whenBusy whenFree

/-- A task that is ready may delete the record. -/
theorem keeps_delete (ready : IsReady operation who address record turns) :
    (call (.delete address)).Keeps (terms operation who) anyhow turns := by
  intro later meanwhile reply after answered
  refine ⟨⟨_, reply, answered, record, ready.later meanwhile⟩, ?_⟩
  cases reply <;> exact fun _ _ => trivial

/-- After a task has read a record, it knows the reading that it goes back to. -/
theorem keeps_getLease :
    (call (.getLease address)).Keeps (terms operation who)
      (ending (fun found last => ∀ record, found = some record →
        ∃ since, HasRead who address record since last) (fun _ => True)) turns := by
  intro later meanwhile reply after answered
  refine ⟨⟨_, reply, answered, trivial⟩, ?_⟩
  cases reply with
  | error error => exact fun _ _ => trivial
  | ok found =>
    have told : after = later ++
        [(⟨who, .repository (.getLease address), .ok found⟩ : Turn ι Ask Reply)] := answered
    subst told
    rintro _ ⟨others, rfl, foreign⟩ record rfl
    have reading : HasRead who address record []
        (later ++ [⟨who, .repository (.getLease address), .ok (some record)⟩]) :=
      ⟨⟨later, rfl⟩, fun turn member => absurd member List.not_mem_nil⟩
    exact ⟨_, reading.others foreign⟩

/-- A release deletes what it has read, after it has seen that the client holds it. -/
theorem keeps_release {topology : Topology} {ids : ClientIdentifiers}
    (turns : List (Turn ι Ask Reply)) :
    (release topology ids address).Keeps (terms (.release ids address) who) anyhow turns := by
  refine keeps_holding (fun _ _ _ => trivial) (fun turns => ?_)
  have finds : (ownLease topology ids address).Keeps (terms (.release ids address) who)
      (ending (IsReady (.release ids address) who address) fun _ => True) turns := by
    refine keeps_getLease.bind fun found last known => ?_
    cases found with
    | none => exact fun _ _ => trivial
    | some record =>
      obtain ⟨since, reading⟩ := known record rfl
      dsimp only
      split
      · exact fun _ _ => trivial
      · next owner presented =>
        rintro later ⟨others, rfl, foreign⟩ instant after answered
        refine ⟨⟨.clock, instant, answered, trivial⟩, ?_⟩
        have told : after = (last ++ others) ++ [(⟨who, .clock, instant⟩ : Turn ι Ask Reply)] :=
          answered
        subst told
        change Program.Keeps _ _ (if record.isOwnedBy owner && record.isActive instant then
          pure record else fail (.leaseNotFound address)) _
        split
        · next passed =>
          obtain ⟨owned, held⟩ := (Bool.and_eq_true _ _).mp passed
          have same : record.owner = some owner := by simpa [Lease.isOwnedBy] using owned
          have ready : IsReady (.release ids address) who address record
              ((last ++ others) ++ [⟨who, .clock, instant⟩]) := by
            refine ⟨_, (reading.others foreign).own rfl instant, ?_⟩
            exact ⟨owner, instant, ⟨_, presented⟩, same, held, by simp⟩
          exact fun _ meanwhile => ready.later meanwhile
        · exact fun _ _ => trivial
  refine finds.bind fun record last ready => ?_
  refine (keeps_delete ready).bind fun found last _ => ?_
  cases found with
  | none => exact fun _ _ => trivial
  | some removed =>
    exact compositional.bind (compositional.count _ _)
      (fun _ => compositional.bind (compositional.count _ _) fun _ => compositional.done _) last

/-- A sweep deletes what it has read, after it has seen that it is reclaimed. -/
theorem keeps_sweepReclaimed {settings : SweepSettings} (counts : SweepCounts) (lease : Lease)
    (turns : List (Turn ι Ask Reply)) :
    (sweepReclaimed counts lease).Keeps (terms (.sweep settings) who) anyhow turns := by
  refine keeps_holding (fun _ _ _ => trivial) (fun turns => ?_)
  refine keeps_getLease.bind fun found last known => ?_
  split
  · next unchanged =>
    cases found with
    | none => exact nomatch unchanged
    | some record =>
      obtain ⟨since, reading⟩ := known record rfl
      have reclaimed : record.state = .reclaimed :=
        (by simpa [isUnchanged] using unchanged : record.state = .reclaimed ∧ _).1
      have ready : IsReady (.sweep settings) who lease.address record last :=
        ⟨since, reading, reclaimed⟩
      refine (keeps_delete ready).bind fun removed last _ => ?_
      cases removed with
      | none => exact fun _ _ => trivial
      | some removed =>
        exact compositional.bind (compositional.count _ _) (fun _ => compositional.done _) last
  · exact fun _ _ => trivial

/-- Every deletion of an operation is prepared. -/
theorem keeps_task (operation : Operation) (topology : Topology)
    (turns : List (Turn ι Ask Reply)) :
    (operation.task topology).Keeps (terms operation who) anyhow turns := by
  cases operation with
  | allocate request mode limit =>
    exact compositional.bind compositional.allocate (fun _ => compositional.done _) turns
  | release ids address => exact (keeps_release turns).discard
  | decline ids probation address =>
    exact compositional.bind (compositional.decline probation) (fun _ => compositional.done _) turns
  | sweep settings =>
    have sweeps (now : Instant) : ∀ turns : List (Turn ι Ask Reply),
        (sweep settings now).Keeps (terms (.sweep settings) who) anyhow turns :=
      compositional.sweep keeps_sweepReclaimed settings now
    exact compositional.bind compositional.clock
      (fun now => compositional.bind (sweeps now) fun _ => compositional.done _) turns

section Jobs

variable {κ : Type} [DecidableEq ι] [DecidableEq κ] {jobs : ι → Job κ} {fleet : Fleet κ}
  {schedule : List (ι × Surroundings)}

/-- What holds the jobs together: each keeps to the terms of its operation. -/
def pact (jobs : ι → Job κ) :
    Crew.Pact ι Ask Reply EngineError Unit (Fleet κ) (κ × Surroundings)
      (List (Turn ι Ask Reply)) where
  answer := Fleet.answer
  view _ _ turns := turns
  terms who := terms (jobs who).operation who
  goal _ := anyhow
  answered _ _ _ _ _ := rfl
  compatible who other different _ question state turns := by
    intro _
    refine ⟨_, rfl, ?_⟩
    intro turn member
    obtain rfl := List.mem_singleton.mp member
    exact different

omit [DecidableEq ι] in
/-- Before the first turn every job keeps to its terms. -/
theorem keeps_start (jobs : ι → Job κ) (fleet : Fleet κ) :
    (Job.start jobs fleet).Keeps (pact jobs) :=
  fun who => keeps_task (jobs who).operation (jobs who).topology []

/-- Whatever the schedule, a question that a job is about to ask is prepared. -/
theorem isPrepared_of_asks {who : ι} {question : Ask} {next : Reply question → Task Unit}
    (asks : (Job.moment jobs fleet schedule).programs who = .ask question next)
    (reply : Reply question) :
    IsPrepared (jobs who).operation who (Job.moment jobs fleet schedule).turns question := by
  have own : ((Job.moment jobs fleet schedule).programs who).Keeps
      (terms (jobs who).operation who) anyhow (Job.moment jobs fleet schedule).turns :=
    Crew.play_keeps (pact jobs) (keeps_start jobs fleet) _ who
  rw [asks] at own
  obtain ⟨⟨asked, told, same, prepared⟩, -⟩ :=
    own _ ((terms (jobs who).operation who).rely_refl _) reply _ rfl
  obtain ⟨-, turn⟩ := List.append_inj' same rfl
  obtain rfl : question = asked := congrArg Turn.question (List.cons.inj turn).1
  exact prepared

/-- Whatever the schedule, everything is on record. -/
theorem recorded_moment : Recorded fleet.store (Job.moment jobs fleet schedule).state.store
    (Job.moment jobs fleet schedule).turns := by
  have turn (who : ι) (circumstances : κ × Surroundings) (question : Ask) (last : Fleet κ)
      (turns : List (Turn ι Ask Reply)) (recorded : Recorded fleet.store last.store turns) :
      Recorded fleet.store (Fleet.answer circumstances question last).2.store
        (turns ++ [⟨who, question, (Fleet.answer circumstances question last).1⟩]) := by
    change Recorded fleet.store (last.state circumstances.1).store turns at recorded
    exact recorded.turn who circumstances.2 question
  exact Crew.play_invariant turn (.before_first fleet.store) _

end Jobs

end Deletions

/-- A job that is about to delete the record of an address, after any turns of its own and of other
jobs on whatever engines, has read a record of the address, has made no other call since, and has
checked what it read. The deletion takes away that very record when there was no effect on it in
between. What it takes away has the version that was read exactly then, and when the record was
deleted in between and written as often after that as its version says. -/
theorem delete_spec {ι κ : Type} [DecidableEq ι] [DecidableEq κ] (jobs : ι → Job κ)
    (fleet : Fleet κ) (schedule : List (ι × Surroundings)) {who : ι} {address : Address} {next}
    (asks : (Job.moment jobs fleet schedule).programs who =
      .ask (.repository (.delete address)) next) :
    ∃ before record between,
      (Job.moment jobs fleet schedule).turns = before ++
        ⟨who, .repository (.getLease address), .ok (some record)⟩ :: between ∧
      (∀ turn ∈ between, turn.who = who → turn.question.isCall = false) ∧
      (jobs who).operation.HasChecked who between record ∧
      let effects := (fleet.store.after (callsOf before)).effects address (callsOf between)
      let removed := ((Job.moment jobs fleet schedule).state.store.delete address).1
      (effects = [] → removed = some record) ∧
      (removed.map (·.version) = some record.version ↔ effects = [] ∨
        .deleted ∈ effects ∧ Effect.versionAfter none effects = some record.version) := by
  obtain ⟨record, between, reading, checked⟩ :=
    Deletions.isPrepared_of_asks asks (.error (.backend ""))
  obtain ⟨before, turns⟩ := reading.read
  refine ⟨before, record, between, turns, reading.last, checked, ?_⟩
  have recorded : Recorded fleet.store (Job.moment jobs fleet schedule).state.store
      (Job.moment jobs fleet schedule).turns := Deletions.recorded_moment
  have stored : (fleet.store.after (callsOf before)).get? address = some record :=
    (Except.ok.inj (recorded.each before _ between turns)).symm
  rw [turns] at recorded
  have now : (Job.moment jobs fleet schedule).state.store =
      (fleet.store.after (callsOf before)).after (callsOf between) := recorded.store_since rfl
  have version : (fleet.store.after (callsOf before)).version? address = some record.version :=
    congrArg _ stored
  dsimp only
  rw [Store.delete_fst, now]
  constructor
  · intro spared
    rw [Store.get?_after_of_no_effects spared, stored]
  · have counted := Store.version?_after (fleet.store.after (callsOf before)) address
      (callsOf between)
    rw [version] at counted
    rw [← Effect.versionAfter_eq_iff, ← counted]
    rfl

/-- The record that a task is about to delete. -/
def nextDelete? : Task Unit → Option Address
  | .ask (.repository (.delete address)) _ => some address
  | _ => none

/-- A task that is about to delete a record asks for that next. -/
theorem asks_of_nextDelete? {task : Task Unit} {address : Address}
    (deletes : nextDelete? task = some address) :
    ∃ next, task = .ask (.repository (.delete address)) next := by
  unfold nextDelete? at deletes
  split at deletes
  · cases deletes
    exact ⟨_, rfl⟩
  · exact nomatch deletes

namespace Sample

/-- On one engine the first client gives up the address, and on another the second one takes it. -/
def handover : Bool → Job Bool
  | true => ⟨.release (client 1) address, topology, true⟩
  | false => ⟨.allocate (request 2) .commit none, topology, false⟩

/-- Two engines that have not served a request, on a store with the lease of the first client. -/
def engines : Fleet Bool := ⟨(State.initial.play [leases 1 0]).store, fun _ => .initial⟩

/-- The release locks the address, reads its record and sees that the client holds it. Then the
lease expires, and the allocation runs from its start to its end. -/
def handoverTurns : List (Bool × Surroundings) :=
  List.replicate 3 (true, around 5) ++ List.replicate 30 (false, around expiry)

/-- The two jobs after those turns. -/
def afterHandover : Crew Bool Ask Reply EngineError Unit (Fleet Bool) :=
  Job.moment handover engines handoverTurns

end Sample

/-- After the handover the release has read and checked a record of the first client, and is about
to delete one of the second, because there were effects on the record in between. -/
theorem delete_spec_of_handover :
    nextDelete? (Sample.afterHandover.programs true) = some Sample.address ∧
    (Sample.afterHandover.state.store.delete Sample.address).1 =
      some (Sample.lease 2 Sample.expiry 3) ∧
    ∃ before record between,
      Sample.afterHandover.turns = before ++
        ⟨true, .repository (.getLease Sample.address), .ok (some record)⟩ :: between ∧
      (Sample.handover true).operation.HasChecked true between record ∧
      (Sample.engines.store.after (callsOf before)).effects Sample.address (callsOf between) ≠
        [] := by
  have deletes : nextDelete? (Sample.afterHandover.programs true) = some Sample.address := by
    decide +kernel
  have removed : (Sample.afterHandover.state.store.delete Sample.address).1 =
      some (Sample.lease 2 Sample.expiry 3) := by
    decide +kernel
  refine ⟨deletes, removed, ?_⟩
  obtain ⟨next, asks⟩ := asks_of_nextDelete? deletes
  unfold Sample.afterHandover at asks removed
  obtain ⟨before, record, between, turns, -, checked, untouched, -⟩ :=
    delete_spec Sample.handover Sample.engines Sample.handoverTurns asks
  refine ⟨before, record, between, turns, checked, ?_⟩
  intro spared
  -- Without an effect in between, the first client would own the lease of the second.
  obtain rfl := Option.some.inj (removed.symm.trans (untouched spared))
  obtain ⟨owner, _, ⟨matchClientId, owns⟩, owned, -⟩ := checked
  obtain rfl := Option.some.inj owned
  cases matchClientId <;> exact absurd owns (by decide)

/-- The lease of another client can be deleted. The release has begun while its own client held the
address, on one engine; since then the lease expired and the second client was leased the address on
the other engine. The release, at the next turn, deletes that lease while it is held. -/
theorem live_lease_deleted :
    Sample.afterHandover.hasEnded false ∧
    Sample.afterHandover.state.store.get? Sample.address =
      some (Sample.lease 2 Sample.expiry 3) ∧
    (Sample.lease 2 Sample.expiry 3).isActive Sample.expiry ∧
    (Sample.afterHandover.turn Fleet.answer true
      (true, Sample.around Sample.expiry)).state.store.get? Sample.address = none := by
  decide +kernel

end Leasehold.Engine
