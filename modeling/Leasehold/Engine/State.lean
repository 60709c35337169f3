import Leasehold.AddressLocks
import Leasehold.Engine.Task

/-!
# The state that tasks share

Tasks of one engine share a store, the locks, the cursors of the pools and a log. Here their
questions are answered from that state and from surroundings that do not change while a task runs:
the time, the review of leases, the random starts and the topology in force. No call fails here.
-/
namespace Leasehold.Engine

/-- What the tasks of an engine share. -/
structure State where
  /-- The records of leases. -/
  store : Store
  /-- The locked addresses. -/
  locks : AddressLocks
  /-- Where the next walks through pools begin. -/
  cursors : PoolCursors
  /-- What was reported, the latest first. -/
  log : List Notice
  /-- How long tasks have waited. -/
  waited : Duration

/-- The state of an engine that has not served a request. -/
def State.initial : State := ⟨.empty, .none, .none, [], 0⟩

/-- What decides about the answers, apart from the state. -/
structure Surroundings where
  /-- What time it is. -/
  now : Instant
  /-- Whether a lease may be handed out for a request. -/
  review : Request → Lease → AllocationMode → Bool
  /-- The candidate picked at random, given the capacity of a pool. -/
  start : Nat → Nat
  /-- The topology in force. -/
  topology : Topology

namespace State

/-- Log a notice. -/
def note (state : State) (notice : Notice) : State := { state with log := notice :: state.log }

/-- Answer a call on the repository from the store. -/
def callStore (state : State) (call : RepositoryCall) : call.Answer × State :=
  let (answer, store) := state.store.answer call
  (answer, { state with store })

/-- Answer a question. -/
def answer (around : Surroundings) : (question : Ask) → State → Reply question × State
  | .repository call, state =>
    let (answer, state) := state.callStore call
    (.ok answer, state)
  | .lock address, state =>
    let (free, locks) := state.locks.lock address
    (free, { state with locks })
  | .unlock address, state => ((), { state with locks := state.locks.unlock address })
  | .clock, state => (around.now, state)
  | .review request lease mode, state =>
    let kept := around.review request lease mode
    (kept, state.note (.reviewed lease mode kept))
  | .cursor key, state => (state.cursors.next key, state)
  | .randomStart capacity, state => (around.start capacity, state)
  | .setCursor key start, state => ((), { state with cursors := state.cursors.set key start })
  | .report notice, state => ((), state.note notice)
  | .topology, state => (around.topology, state)
  | .pause time, state => ((), { state with waited := state.waited + time })

/-- Carry out a task. -/
def run {α : Type} (around : Surroundings) (task : Task α) (state : State) :
    Except EngineError α × State :=
  Program.run (answer around) task state

end State

end Leasehold.Engine
