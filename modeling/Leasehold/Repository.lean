import Leasehold.Store

/-!
# Calls on a lease repository

The engine does not own the store: it reaches it through a repository, one call at a time, and every
call may fail. A call is a value that says what is asked, so that it can be suspended, counted and
made to fail. A repository that does not fail answers every call from a store.
-/
namespace Leasehold

/-- One call on a repository. -/
inductive RepositoryCall where
  /-- The record of an address. -/
  | getLease (address : Address)
  /-- Every record that is recorded against an identifier. -/
  | getLeases (owner : Identifier)
  /-- Write a record for its address, if what is stored there is what is expected. -/
  | write (lease : Lease) (expected : Expectation)
  /-- Delete the record of an address. -/
  | delete (address : Address)
  /-- The records that have to be reclaimed. -/
  | scanExpired (most : Nat) (now : Instant)
  /-- The reclaimed records that expired before an instant. -/
  | scanReclaimed (before : Instant) (most : Nat)
  /-- The number of records of a subnet that are held. -/
  | countActive (subnet : SubnetId) (now : Instant)
deriving DecidableEq, Repr

/-- The kinds of calls. -/
inductive CallKind where
  /-- Reading the record of an address. -/
  | getLease
  /-- Reading the records of an owner. -/
  | getLeases
  /-- Writing a record. -/
  | write
  /-- Deleting a record. -/
  | delete
  /-- Listing the records that have to be reclaimed. -/
  | scanExpired
  /-- Listing the reclaimed records. -/
  | scanReclaimed
  /-- Counting the records that are held. -/
  | countActive
deriving DecidableEq, Repr

namespace RepositoryCall

/-- The kind of a call. -/
def kind : RepositoryCall → CallKind
  | getLease _ => .getLease
  | getLeases _ => .getLeases
  | write _ _ => .write
  | delete _ => .delete
  | scanExpired _ _ => .scanExpired
  | scanReclaimed _ _ => .scanReclaimed
  | countActive _ _ => .countActive

/-- The address that a call is about. -/
def address? : RepositoryCall → Option Address
  | getLease address => some address
  | write lease _ => some lease.address
  | delete address => some address
  | getLeases _ | scanExpired _ _ | scanReclaimed _ _ | countActive _ _ => none

/-- What a call is answered with. -/
abbrev Answer : RepositoryCall → Type
  | getLease _ => Option Lease
  | getLeases _ => List Lease
  | write _ _ => WriteOutcome
  | delete _ => Option Lease
  | scanExpired _ _ => List Lease
  | scanReclaimed _ _ => List Lease
  | countActive _ _ => Nat

end RepositoryCall

/-- Why a call failed. -/
inductive RepositoryError where
  /-- The repository cannot be reached now, and the call may be tried again. -/
  | transient (reason : String)
  /-- The repository cannot serve the call. -/
  | backend (reason : String)
deriving DecidableEq, Repr

namespace RepositoryError

/-- The wording of each error. -/
def message : RepositoryError → String
  | transient reason => "lease repository temporarily unavailable: " ++ reason
  | backend reason => "lease repository error: " ++ reason

/-- The call may be tried again. -/
def isTransient : RepositoryError → Bool
  | transient _ => true
  | backend _ => false

end RepositoryError

/-- Answer a call from a store. -/
def Store.answer (store : Store) : (call : RepositoryCall) → call.Answer × Store
  | .getLease address => (store.get? address, store)
  | .getLeases owner => (store.ofOwner owner, store)
  | .write lease expected => store.write lease expected
  | .delete address => store.delete address
  | .scanExpired most now => (store.scanExpired most now, store)
  | .scanReclaimed before most => (store.scanReclaimed before most, store)
  | .countActive subnet now => (store.countActive subnet now, store)

end Leasehold
