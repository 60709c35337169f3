import Leasehold.Repository

/-!
# Errors of the engine

The engine never tries a request again by itself. An error says whether trying again may help: it
does after a lost race and while the repository cannot be reached.
-/
namespace Leasehold

/-- Why the engine did not do what it was asked for. -/
inductive EngineError where
  /-- No subnet is left that the client may be served from. -/
  | noSubnet
  /-- The client presents no identifier that a lease can be recorded against. -/
  | missingIdentifier
  /-- Every address that the client may have is taken. -/
  | poolExhausted (subnet : SubnetId)
  /-- The address reserved for the client is held by someone else. -/
  | reservationConflict (address : Address) (holder : String)
  /-- The address is being dealt with elsewhere, or its record changed in the meantime. -/
  | lostRace (address : Address)
  /-- The repository cannot be reached now. -/
  | unavailable (reason : String)
  /-- The repository cannot serve the call. -/
  | repository (reason : String)
  /-- A review of the lease turned it down. -/
  | turnedDown (address : Address)
  /-- The client holds no lease on the address. -/
  | leaseNotFound (address : Address)
deriving DecidableEq, Repr

namespace EngineError

/-- The failure of a call, as an error of the engine. -/
def ofRepository : RepositoryError → EngineError
  | .transient reason => unavailable reason
  | .backend reason => repository reason

/-- The wording of each error. -/
def message : EngineError → String
  | noSubnet => "no eligible subnet for client"
  | missingIdentifier => "client has no usable identifier"
  | poolExhausted subnet => "no free address in subnet " ++ toString subnet.toNat
  | reservationConflict address holder =>
    "reserved address " ++ address.text ++ " is in use by " ++ holder
  | lostRace address => "lost race for " ++ address.text
  | unavailable reason => "lease repository unavailable: " ++ reason
  | repository reason => (RepositoryError.backend reason).message
  | turnedDown address => "lease for " ++ address.text ++ " skipped by hook"
  | leaseNotFound address => "no lease for " ++ address.text ++ " held by client"

/-- Trying again may help. -/
def isRetryable : EngineError → Bool
  | lostRace _ | unavailable _ => true
  | noSubnet | missingIdentifier | poolExhausted _ | reservationConflict _ _ | repository _
  | turnedDown _ | leaseNotFound _ => false

end EngineError

end Leasehold
