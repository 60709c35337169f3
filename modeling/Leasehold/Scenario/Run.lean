import Leasehold.Scenario.World

/-!
# Running a scenario

A step is a program that never fails: whatever goes wrong is part of its answer. A scenario runs its
steps one after another, and keeps for each what was reported meanwhile.
-/
namespace Leasehold.Scenario

/-- A program of a step. -/
abbrev Script (α : Type) := Program Ask Reply Empty α

/-- Ask one question. -/
def query (question : Ask) : Script (Reply question) := Program.question question

/-- A task of the engine, with its error as part of the result. -/
def engine {α : Type} (task : Engine.Task α) : Script (Except EngineError α) :=
  task.attempt.embed .engine fun _ reply => reply

/-- The answer that tells the result of a task. -/
def told {α : Type} (answer : α → Answer) : Except EngineError α → Answer
  | .ok result => answer result
  | .error error => .failed error

/-- Call the repository, and tell the answer. -/
def callAnd (call : RepositoryCall) (answer : call.Answer → Answer) : Script Answer := do
  match ← query (.engine (.repository call)) with
  | .ok result => return answer result
  | .error error => return .callFailed error

/-- What time it is. -/
def clock : Script Instant := query (.engine .clock)

/-- An instant, or now. -/
def orNow : Option Instant → Script Instant
  | some instant => return instant
  | none => clock

/-- The topology in force. -/
def topology : Script Topology := query (.engine .topology)

/-- Sweep as of now, whatever comes of it, and tell the number of records left. -/
def sweepNow (settings : Engine.SweepSettings) : Script Nat := do
  let _ ← engine (Engine.sweep settings (← clock))
  return (← query .store).leases.length

/-- Sweep as often as given, each time after the clock moved on. -/
def sweepEvery (settings : Engine.SweepSettings) (interval : Duration) : Nat → Script (List Nat)
  | 0 => return []
  | ticks + 1 => do
    query (.setClock ((← clock) + interval))
    let size ← sweepNow settings
    return size :: (← sweepEvery settings interval ticks)

/-- What the author of a direct write expects to be stored. -/
def expectation (address : Address) : Belief → Script Expectation
  | .expected expectation => return expectation
  | .current => return .ofCurrent ((← query .store).get? address)

/-- The question is a call of a kind. -/
def isCall (kind : CallKind) : Ask → Bool
  | .engine (.repository call) => call.kind == kind
  | _ => false

mutual

/-- The program of a step. -/
def script (setup : Setup) : Step → Script Answer
  | .commit none => return .unreadable
  | .commit (some config) => do
    match ← query (.commit config) with
    | .ok topology => return .inForce topology
    | .error error => return .refused error
  | .current => return .current (← topology)
  | .setClock now => do
    query (.setClock now)
    return .time now
  | .advanceClock amount => do
    let now := (← clock) + amount
    query (.setClock now)
    return .time now
  | .allocate request mode =>
    return told .granted
      (← engine (Engine.allocate (← topology) request mode setup.limit))
  | .allocateWithRetry request mode policy => do
    let before ← query .waited
    let result ← engine (Engine.allocateWithRetry policy request mode setup.limit)
    return .retried ((← query .waited) - before) result
  | .select request => return .selected ((← topology).select request)
  | .release ids address =>
    return told .lease (← engine (Engine.release (← topology) ids address))
  | .decline ids address =>
    return told .lease (← engine (Engine.decline (← topology) ids setup.probation address))
  | .sweep settings instant =>
    return told .swept (← engine (Engine.sweep settings (← orNow instant)))
  | .sweeper settings interval ticks => do
    let size ← sweepNow settings
    return .sizes (size :: (← sweepEvery settings interval ticks))
  | .put lease belief => do
    callAnd (.write lease (← expectation lease.address belief)) .written
  | .get address => callAnd (.getLease address) .found
  | .delete address => callAnd (.delete address) .deleted
  | .owned owner => callAnd (.getLeases owner) .listed
  | .scanExpired most instant => do callAnd (.scanExpired most (← orNow instant)) .listed
  | .scanReclaimed most before => do callAnd (.scanReclaimed (← orNow before) most) .listed
  | .countActive subnet instant => do callAnd (.countActive subnet (← orNow instant)) .counted
  | .snapshot => return .snapshot (← query .store)
  | .arm fault => do
    query (.arm fault)
    return .nothing
  | .interleave point after outer inner => do
    let (held, result, answers) ←
      Program.holdingBefore (isCall point) (scripts setup inner) after (script setup outer)
    match result with
    | .ok answer => return .interleaved held answer answers

/-- The program of several steps. -/
def scripts (setup : Setup) : List Step → Script (List Answer)
  | [] => return []
  | step :: rest => do
    let answer ← script setup step
    return answer :: (← scripts setup rest)

end

/-- The answer to a step, and what was reported during it. -/
structure Entry where
  /-- The answer. -/
  answer : Answer
  /-- What was reported, in order. -/
  notices : List Notice

/-- Run a step on its own. -/
def runStep (setup : Setup) (step : Step) (world : World) : Entry × World :=
  let quiet := { world with state := { world.state with log := [] } }
  let (result, world) := (script setup step).run (World.answer setup) quiet
  match result with
  | .ok answer => (⟨answer, world.state.log.reverse⟩, world)

/-- Run steps one after another. -/
def runSteps (setup : Setup) (world : World) : List Step → List Entry × World
  | [] => ([], world)
  | step :: rest =>
    let (entry, world) := runStep setup step world
    let (entries, world) := runSteps setup world rest
    (entry :: entries, world)

/-- The outcome of a scenario. -/
structure Record where
  /-- An entry for each step. -/
  entries : List Entry
  /-- The records that are left in the store. -/
  leases : List Lease

/-- Run a scenario from its start. -/
def run (setup : Setup) (start : Instant) (steps : List Step) : Record :=
  let (entries, world) := runSteps setup (.initial start) steps
  ⟨entries, world.state.store.leases⟩

/-- The counts that changed over a scenario, and by how much. -/
def Record.totals (record : Record) : List (Metric × Int) :=
  Notice.totals (record.entries.flatMap (·.notices))

end Leasehold.Scenario
