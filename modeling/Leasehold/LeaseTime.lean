/-!
# Lifetimes

Times and durations are counted in milliseconds, times from the start of 1970. The lifetimes of a
lease are a valid lifetime and two timers inside it. A requested lifetime is brought into the
configured bounds; a client that requests none gets the default. The timers are the configured ones,
or a half and seven eighths of the valid lifetime, and neither exceeds it.
-/
namespace Leasehold

/-- A length of time in milliseconds. -/
abbrev Duration := Nat

/-- A point in time, in milliseconds since the start of 1970. -/
abbrev Instant := Nat

/-- A whole number of seconds. -/
def seconds (count : Nat) : Duration := 1000 * count

/-- The whole seconds in a length of time. -/
def inSeconds (time : Duration) : Nat := time / 1000

/-- The lifetimes handed to a client. -/
structure Lifetimes where
  /-- How long the lease is valid. -/
  valid : Duration
  /-- When the client renews the lease. -/
  renew : Duration
  /-- When the client looks for any server to extend the lease. -/
  rebind : Duration
deriving DecidableEq, Repr

/-- The lifetimes configured for a subnet. -/
structure LeaseTime where
  /-- The lifetime of a lease for a client that asks for none. -/
  fallback : Duration
  /-- The shortest lifetime. -/
  least : Duration
  /-- The longest lifetime. -/
  most : Duration
  /-- The configured renewal timer. -/
  renew : Option Duration
  /-- The configured rebinding timer. -/
  rebind : Option Duration
deriving DecidableEq, Repr

namespace LeaseTime

/-- The valid lifetime for a request. -/
def validFor (time : LeaseTime) : Option Duration → Duration
  | none => time.fallback
  | some requested => if requested < time.least then time.least else min requested time.most

/-- The lifetimes for a request. -/
def determine (time : LeaseTime) (requested : Option Duration) : Lifetimes :=
  let valid := time.validFor requested
  { valid
    renew := min (time.renew.getD (valid / 2)) valid
    rebind := min (time.rebind.getD (valid * 7 / 8)) valid }

/-- The shortest lifetime is at most the default, and the default at most the longest. -/
def isOrdered (time : LeaseTime) : Bool :=
  time.least ≤ time.fallback && time.fallback ≤ time.most

end LeaseTime

end Leasehold
