import Leasehold.Proofs.Engine.Operation
import Leasehold.Proofs.Engine.Turns

/-!
# A sweep among other tasks

A sweep lists records first and reclaims them later, and other tasks may do anything in between.
Each of its writes is that of a record as it was listed, and expects the version that was listed
(`keeps_sweep_goesBack`). What such a write replaces therefore depends on the effects on the record
since the listing alone (`sweep_write_spec`): without any, it is the listed record, which is over.

The version does not tell a record from one that was made anew after a deletion. A write of the
sweep is also committed onto such a record when it has been written as often as the listed one,
whatever it says by then.
-/
namespace Leasehold.Engine

variable {ι : Type}

/-- The write that a task is about to ask for. -/
def nextWrite? : Task Unit → Option (Lease × Expectation)
  | .ask (.repository (.write lease expected)) _ => some (lease, expected)
  | _ => none

/-- A task whose next question is a write asks for it. -/
theorem asks_of_nextWrite? {task : Task Unit} {lease : Lease} {expected : Expectation}
    (writes : nextWrite? task = some (lease, expected)) :
    ∃ next, task = .ask (.repository (.write lease expected)) next := by
  unfold nextWrite? at writes
  split at writes
  · cases writes
    exact ⟨_, rfl⟩
  · exact nomatch writes

/-- The sweep and other tasks before their first turn. The sweep is the one without a name. -/
def sweepAmong (settings : SweepSettings) (instant : Instant) (others : ι → Task Unit)
    (state : State) : Crew (Option ι) Ask Reply EngineError Unit State where
  programs
    | none => do let _ ← sweep settings instant
    | some who => others who
  state := state
  turns := []

namespace SweepAmong

variable {settings : SweepSettings} {instant : Instant}

/-- The sweep has listed records that are over. -/
def Listed (settings : SweepSettings) (instant : Instant) (listed : List Lease)
    (turns : List (Turn (Option ι) Ask Reply)) : Prop :=
  ∃ before between, turns =
    before ++ ⟨none, .repository (.scanExpired settings.batch instant), .ok listed⟩ :: between

/-- A write goes back to a record that was listed before: it reclaims the record, and expects the
version that was listed. -/
def GoesBack (settings : SweepSettings) (instant : Instant)
    (turns : List (Turn (Option ι) Ask Reply)) : Ask → Prop
  | .repository (.write lease expected) => ∃ listed snapshot, Listed settings instant listed turns ∧
    snapshot ∈ listed ∧ lease = { snapshot with state := .reclaimed } ∧
      expected = .version snapshot.version
  | _ => True

/-- The terms of the sweep, which sees the turns: others may take any, and its own writes go back to
a listing. -/
def terms (settings : SweepSettings) (instant : Instant) :
    Terms Ask Reply (List (Turn (Option ι) Ask Reply)) where
  answers question before reply after := after = before ++ [⟨none, question, reply⟩]
  rely before after := before <+: after
  allowed before after := ∃ question reply,
    after = before ++ [⟨none, question, reply⟩] ∧ GoesBack settings instant before question
  rely_refl := List.prefix_refl
  rely_trans := List.IsPrefix.trans

variable {listed : List Lease} {turns : List (Turn (Option ι) Ask Reply)}

/-- What was listed once stays listed. -/
theorem Listed.append (holds : Listed settings instant listed turns)
    (more : List (Turn (Option ι) Ask Reply)) :
    Listed settings instant listed (turns ++ more) := by
  obtain ⟨before, between, rfl⟩ := holds
  exact ⟨before, between ++ more, by simp⟩

/-- Turns of others do not undo a listing. -/
theorem Listed.later {after : List (Turn (Option ι) Ask Reply)}
    (holds : Listed settings instant listed turns) (meanwhile : turns <+: after) :
    Listed settings instant listed after := by
  obtain ⟨more, rfl⟩ := meanwhile
  exact holds.append more

/-- A listing is steady. -/
theorem listed_steady :
    Steady (terms (ι := ι) settings instant) (Listed settings instant listed) where
  spared meanwhile holds := holds.later meanwhile
  kept {question before reply after} harmless holds answered := by
    have goesBack : GoesBack settings instant before question := by
      unfold GoesBack
      split
      · exact nomatch harmless
      · trivial
    exact ⟨⟨question, reply, answered, goesBack⟩, answered ▸ holds.append _⟩

/-- A call that goes back to the listing leaves it as it is. -/
theorem keeps_call_listed {request : RepositoryCall}
    (goesBack : ∀ turns : List (Turn (Option ι) Ask Reply), Listed settings instant listed turns →
      GoesBack settings instant turns (.repository request))
    (holds : Listed settings instant listed turns) :
    (call request).Keeps (terms settings instant) (atEnd (Listed settings instant listed))
      turns := by
  intro later meanwhile reply after answered
  have holdsLater := holds.later meanwhile
  have holdsAfter : Listed settings instant listed after := by
    rw [show after = later ++ [⟨none, .repository request, reply⟩] from answered]
    exact holdsLater.append _
  refine ⟨⟨_, reply, answered, goesBack later holdsLater⟩, ?_⟩
  cases reply <;> exact fun last next => holdsAfter.later next

/-- Taking on a listed record goes back to the listing. -/
theorem keeps_sweepExpired_goesBack {lease : Lease} (member : lease ∈ listed)
    {counts : SweepCounts} (holds : Listed settings instant listed turns) :
    (sweepExpired counts lease).Keeps (terms settings instant)
      (atEnd (Listed settings instant listed)) turns := by
  refine keeps_sweepExpired_of_reclaim listed_steady listed_steady id
    (fun later holds => ?_) holds
  exact keeps_reclaim_of_write (fun _ => listed_steady)
    (keeps_call_listed (fun _ holds => ⟨listed, lease, holds, member, rfl, rfl⟩) holds)

/-- Removing a reclaimed record writes nothing. -/
theorem keeps_sweepReclaimed_goesBack {lease : Lease} {counts : SweepCounts}
    (holds : Listed settings instant listed turns) :
    (sweepReclaimed counts lease).Keeps (terms settings instant)
      (atEnd (Listed settings instant listed)) turns := by
  have steady : Steady (terms (ι := ι) settings instant) (Listed settings instant listed) :=
    listed_steady
  refine keeps_holding steady (fun _ => steady) (fun _ => steady) holds
    (fun _ holds => steady.done _ holds) fun later holds => ?_
  refine (steady.call rfl holds).bind fun record last holds => ?_
  split
  · have deletes : (call (.delete lease.address)).Keeps (terms settings instant)
        (atEnd (Listed settings instant listed)) last :=
      keeps_call_listed (fun _ _ => trivial) holds
    refine deletes.bind fun found last holds => ?_
    cases found with
    | none => exact steady.done _ holds
    | some removed => exact steady.count_bind rfl holds fun _ holds => steady.done _ holds
  · exact steady.done _ holds

/-- Every write of a sweep goes back to its listing. -/
theorem keeps_sweep_goesBack (turns : List (Turn (Option ι) Ask Reply)) :
    (sweep settings instant).Keeps (terms settings instant) anyhow turns := by
  intro later meanwhile reply after answered
  refine ⟨⟨_, reply, answered, trivial⟩, ?_⟩
  cases reply with
  | error error => exact fun _ _ => trivial
  | ok listed =>
    have holds : Listed settings instant listed after := ⟨later, [], answered⟩
    have reclaims : (sweepEach sweepExpired .none listed).Keeps (terms settings instant)
        (atEnd (Listed settings instant listed)) after :=
      keeps_sweepEach listed_steady
        (fun _ member _ _ holds => keeps_sweepExpired_goesBack member holds) holds
    have removes (counts : SweepCounts) (last : List (Turn (Option ι) Ask Reply))
        (holds : Listed settings instant listed last) :
        (removeReclaimed settings instant counts).Keeps (terms settings instant)
          (atEnd (Listed settings instant listed)) last :=
      keeps_removeReclaimed listed_steady
        (fun _ _ _ holds => keeps_sweepReclaimed_goesBack holds) holds
    exact (reclaims.bind removes).anyhow

/-- The sweep keeps to its terms, and nothing is asked of the others. -/
def pact (settings : SweepSettings) (instant : Instant) : Crew.Pact (Option ι) Ask Reply EngineError
    Unit State Surroundings (List (Turn (Option ι) Ask Reply)) where
  answer := State.answer
  view _ _ turns := turns
  terms
    | none => terms settings instant
    | some _ => .free
  goal _ := anyhow
  answered who around question state turns := by
    cases who with
    | none => rfl
    | some who => trivial
  compatible who other _ around question state turns := by
    intro _
    cases other with
    | none => exact List.prefix_append turns _
    | some other => trivial

/-- The sweep and the others keep to the pact from the start. -/
theorem keeps_sweepAmong (others : ι → Task Unit) (state : State) :
    (sweepAmong settings instant others state).Keeps (pact settings instant) := by
  intro who
  cases who with
  | none => exact (keeps_sweep_goesBack []).discard
  | some who => exact .free (others who) []

/-- The turns of the sweep and the others are on record. -/
abbrev Recorded (start : Store) (state : State) (turns : List (Turn (Option ι) Ask Reply)) : Prop :=
  Engine.Recorded start state.store turns

/-- The sweep and the others after some turns. -/
def moment [DecidableEq ι] (settings : SweepSettings) (instant : Instant) (others : ι → Task Unit)
    (state : State) (schedule : List (Option ι × Surroundings)) :
    Crew (Option ι) Ask Reply EngineError Unit State :=
  (sweepAmong settings instant others state).play State.answer schedule

variable [DecidableEq ι] {others : ι → Task Unit} {state : State}
  {schedule : List (Option ι × Surroundings)}

/-- Whatever the schedule, everything is on record. -/
theorem recorded_moment : Recorded state.store
    (moment settings instant others state schedule).state
    (moment settings instant others state schedule).turns := by
  apply Crew.play_invariant
  · intro who around question state turns recorded
    exact recorded.turn who around question
  · exact .before_first state.store

/-- Whatever the schedule, a write that the sweep is about to ask for goes back to its listing. -/
theorem goesBack_of_asks {question : Ask} {next : Reply question → Task Unit}
    (asks : (moment settings instant others state schedule).programs none = .ask question next)
    (reply : Reply question) :
    GoesBack settings instant (moment settings instant others state schedule).turns question := by
  have own := Crew.play_keeps (pact settings instant) (keeps_sweepAmong others state) schedule none
  change Program.Keeps _ _ ((moment settings instant others state schedule).programs none) _ at own
  rw [asks] at own
  obtain ⟨⟨asked, told, same, goesBack⟩, -⟩ := own _ (List.prefix_refl _) reply _ rfl
  obtain ⟨-, turn⟩ := List.append_inj' same rfl
  obtain rfl : question = asked := congrArg Turn.question (List.cons.inj turn).1
  exact goesBack

end SweepAmong

/-- A write that the sweep is about to ask for, after any turns of its own and of others, is that of
a record that it has listed, as reclaimed. It takes effect exactly when there was no effect on the
record since, or when the record was deleted since and written as often after that as its version
said. Without an effect, the record that it replaces is the one that was listed, and is over. -/
theorem sweep_write_spec [DecidableEq ι] (settings : SweepSettings) (instant : Instant)
    (others : ι → Task Unit) (state : State) (schedule : List (Option ι × Surroundings))
    {lease : Lease} {expected : Expectation} {next}
    (asks : (SweepAmong.moment settings instant others state schedule).programs none =
      .ask (.repository (.write lease expected)) next) :
    ∃ before listed between snapshot,
      (SweepAmong.moment settings instant others state schedule).turns = before ++
        ⟨none, .repository (.scanExpired settings.batch instant), .ok listed⟩ :: between ∧
      snapshot ∈ listed ∧ lease = { snapshot with state := .reclaimed } ∧
      let now := (SweepAmong.moment settings instant others state schedule).state.store
      let effects := (state.store.after (callsOf before)).effects snapshot.address (callsOf between)
      ((now.write lease expected).1.isCommitted ↔ effects = [] ∨
        .deleted ∈ effects ∧ Effect.versionAfter none effects = some snapshot.version) ∧
      (effects = [] →
        now.get? snapshot.address = some snapshot ∧ snapshot.needsReclaim instant) := by
  obtain ⟨listed, snapshot, ⟨before, between, turns⟩, member, rfl, rfl⟩ :=
    SweepAmong.goesBack_of_asks asks (.error (.backend ""))
  have recorded : SweepAmong.Recorded state.store
      (SweepAmong.moment settings instant others state schedule).state _ :=
    SweepAmong.recorded_moment
  refine ⟨before, listed, between, snapshot, turns, member, rfl, ?_⟩
  have told : listed = (state.store.after (callsOf before)).scanExpired settings.batch instant :=
    Except.ok.inj (recorded.each before _ between turns)
  rw [told] at member
  obtain ⟨stored, ended⟩ := Store.stored_of_mem_scanExpired member
  -- The listing itself leaves the records as they are.
  have now : (SweepAmong.moment settings instant others state schedule).state.store =
      (state.store.after (callsOf before)).after (callsOf between) := by
    rw [recorded.store, turns]
    simp [callsOf, Store.after_append, Store.after_cons, Store.answer]
  dsimp only
  rw [now]
  have listed : (state.store.after (callsOf before)).version? snapshot.address =
      some snapshot.version := congrArg _ stored
  refine ⟨?_, fun spared => ⟨?_, ended⟩⟩
  · rw [Store.write_isCommitted]
    have met := Expectation.met_iff (some snapshot)
      (((state.store.after (callsOf before)).after (callsOf between)).get? snapshot.address)
    refine met.trans ?_
    rw [← Effect.versionAfter_eq_iff, ← listed, ← Store.version?_after, listed]
    rfl
  · rw [Store.get?_after_of_no_effects spared, stored]

namespace Sample

/-- The first client takes the address again and gives it up, and then the second takes it. -/
def takeover : Fin 3 → Operation
  | 0 => .allocate (request 1) .commit none
  | 1 => .release (client 1) address
  | 2 => .allocate (request 2) .commit none

/-- The sweep lists the lease of the first client, the takeover runs from its start to its end, and
the sweep locks the address. -/
def takeoverTurns : List (Option (Fin 3) × Surroundings) :=
  ([none] ++ List.replicate 20 (some 0) ++ List.replicate 10 (some 1) ++
    List.replicate 20 (some 2) ++ [none] : List (Option (Fin 3))).map
      fun who => (who, around expiry)

/-- The sweep of the small network and the takeover after those turns. -/
def afterTakeover : Crew (Option (Fin 3)) Ask Reply EngineError Unit State :=
  SweepAmong.moment ⟨10, none⟩ expiry (fun who => (takeover who).task topology)
    (State.initial.play [leases 1 0]) takeoverTurns

end Sample

/-- After the takeover the sweep is about to write the lease of the first client as reclaimed. That
takes effect because the record was deleted since the listing and has the same version again. -/
theorem sweep_write_spec_of_takeover :
    let reclaimed := { Sample.lease 1 0 1 with state := .reclaimed }
    nextWrite? (Sample.afterTakeover.programs none) = some (reclaimed, .version 1) ∧
    (Sample.afterTakeover.state.store.write reclaimed (.version 1)).1.isCommitted ∧
    ∃ (before between : List (Turn (Option (Fin 3)) Ask Reply)) (snapshot : Lease),
      let listing := (State.initial.play [Sample.leases 1 0]).store.after (callsOf before)
      let effects := listing.effects snapshot.address (callsOf between)
      .deleted ∈ effects ∧ Effect.versionAfter none effects = some snapshot.version := by
  intro reclaimed
  have writes : nextWrite? (Sample.afterTakeover.programs none) =
      some (reclaimed, .version 1) := by decide +kernel
  have committed : (Sample.afterTakeover.state.store.write reclaimed (.version 1)).1.isCommitted :=
    by decide +kernel
  have replaced : Sample.afterTakeover.state.store.get? reclaimed.address =
      some (Sample.lease 2 Sample.expiry 1) := by decide +kernel
  refine ⟨writes, committed, ?_⟩
  obtain ⟨next, asks⟩ := asks_of_nextWrite? writes
  unfold Sample.afterTakeover at asks committed replaced
  obtain ⟨before, listed, between, snapshot, -, -, same, effective, untouched⟩ :=
    sweep_write_spec _ _ _ _ _ asks
  have address : reclaimed.address = snapshot.address := by rw [same]
  rw [address] at replaced
  rcases effective.mp committed with spared | recreated
  · obtain ⟨stored, ended⟩ := untouched spared
    obtain rfl := Option.some.inj (replaced.symm.trans stored)
    exact absurd ended (by decide)
  · exact ⟨before, between, snapshot, recreated⟩

/-- The second case does occur. When the address is given up and taken by another client between the
listing and the write, the record of the new lease has the version that was listed: all operations
have ended and the second client holds the address, and the next turn of the sweep puts the
reclaimed record of the first client in its place. -/
theorem live_lease_reclaimed :
    (∀ who, Sample.afterTakeover.hasEnded (some who)) ∧
    Sample.afterTakeover.state.store.get? Sample.address =
      some (Sample.lease 2 Sample.expiry 1) ∧
    (Sample.lease 2 Sample.expiry 1).isActive Sample.expiry ∧
    (Sample.afterTakeover.turn State.answer none (Sample.around Sample.expiry)).state.store.get?
      Sample.address = some { Sample.lease 1 0 2 with state := .reclaimed } := by
  decide +kernel

end Leasehold.Engine
