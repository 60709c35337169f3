import Leasehold.Engine.Error
import Leasehold.Engine.Notice
import Leasehold.PoolWalk
import Leasehold.Program
import Leasehold.Request

/-!
# Tasks of the engine

A task is a program that reaches the repository, the locks, the clock, the cursors of the pools, the
review of leases and the topology in force through questions. Locks are taken through `holding`
alone, which unlocks the address however the work under the lock ends.
-/
namespace Leasehold.Engine

/-- What a task asks. -/
inductive Ask where
  /-- A call on the repository. -/
  | repository (call : RepositoryCall)
  /-- Lock an address; the reply tells whether it was free. -/
  | lock (address : Address)
  /-- Unlock an address. -/
  | unlock (address : Address)
  /-- What time it is. -/
  | clock
  /-- Whether a lease may be handed out. -/
  | review (request : Request) (lease : Lease) (mode : AllocationMode)
  /-- Where the next walk through a pool begins. -/
  | cursor (key : CursorKey)
  /-- A candidate of a pool of that capacity, picked at random. -/
  | randomStart (capacity : Nat)
  /-- Let the next walk through a pool begin at a candidate. -/
  | setCursor (key : CursorKey) (start : Nat)
  /-- Report something. -/
  | report (notice : Notice)
  /-- The topology in force. -/
  | topology
  /-- Wait for some time. -/
  | pause (time : Duration)

/-- What the questions are answered with. -/
abbrev Reply : Ask → Type
  | .repository call => Except RepositoryError call.Answer
  | .lock _ => Bool
  | .unlock _ => Unit
  | .clock => Instant
  | .review _ _ _ => Bool
  | .cursor _ => Nat
  | .randomStart _ => Nat
  | .setCursor _ _ => Unit
  | .report _ => Unit
  | .topology => Topology
  | .pause _ => Unit

/-- A task of the engine. -/
abbrev Task (α : Type) := Program Ask Reply EngineError α

/-- Fail. -/
def fail {α : Type} (error : EngineError) : Task α := Program.fail error

/-- Call the repository. -/
def call (request : RepositoryCall) : Task request.Answer :=
  .ask (.repository request) fun
    | .ok answer => .done answer
    | .error error => fail (.ofRepository error)

/-- Ask one question. -/
def query (ask : Ask) : Task (Reply ask) := Program.question ask

/-- What time it is. -/
def clock : Task Instant := query .clock

/-- Report something. -/
def report (notice : Notice) : Task Unit := query (.report notice)

/-- Change a count. -/
def count (metric : Metric) (change : Int) : Task Unit := report (.count metric change)

/-- Do some work while an address is locked, or something else when it is locked already. -/
def holding {α : Type} (address : Address) (busy work : Task α) : Task α :=
  .ask (.lock address) fun
    | false => busy
    | true => do
      let outcome ← work.attempt
      query (.unlock address)
      Program.ofExcept outcome

end Leasehold.Engine
