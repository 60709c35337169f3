import Leasehold.Config
import Leasehold.LeaseTime

/-!
# Parameters and their inheritance

Subnets, shared networks and the whole configuration carry the same optional parameters. The value
that holds in a subnet is the one set on the subnet itself, or else on its shared network, or else
globally; where none of the three sets it, a fixed default holds.
-/
namespace Leasehold

/-- Parameters set at one level. -/
structure Params where
  /-- The lifetime of a lease for a client that asks for none. -/
  validLifetime : Option Duration
  /-- The shortest lifetime of a lease. -/
  minValidLifetime : Option Duration
  /-- The longest lifetime of a lease. -/
  maxValidLifetime : Option Duration
  /-- When a client renews its lease. -/
  renewTimer : Option Duration
  /-- When a client looks for any server to extend its lease. -/
  rebindTimer : Option Duration
  /-- How host reservations apply. -/
  reservationMode : Option ReservationMode
  /-- The interface that selects the subnet. -/
  interface : Option String
  /-- The relay addresses that select the subnet. -/
  relay : Option (List Address)
  /-- The server has the last word on leases. -/
  authoritative : Option Bool
  /-- Leases may be recorded against the client identifier. -/
  matchClientId : Option Bool
  /-- The order in which candidates are tried. -/
  allocator : Option AllocatorKind
deriving DecidableEq, Repr

namespace Params

/-- Parameters of which none is set. -/
def unset : Params :=
  ⟨none, none, none, none, none, none, none, none, none, none, none⟩

/-- The length of a configured lifetime. -/
def duration (value : Seconds) : Duration := seconds value.value

/-- The parameters of a level of a configuration. -/
def ofConfig (params : Config.Params) : Params where
  validLifetime := params.validLifetime.map duration
  minValidLifetime := params.minValidLifetime.map duration
  maxValidLifetime := params.maxValidLifetime.map duration
  renewTimer := params.renewTimer.map duration
  rebindTimer := params.rebindTimer.map duration
  reservationMode := params.reservationMode
  interface := params.interface
  relay := params.relay
  authoritative := params.authoritative
  matchClientId := params.matchClientId
  allocator := params.allocator

end Params

/-- Every parameter of a subnet, resolved. -/
structure SubnetParams where
  /-- The lifetimes of leases. -/
  leaseTime : LeaseTime
  /-- How host reservations apply. -/
  reservationMode : ReservationMode
  /-- The interface that selects the subnet. -/
  interface : Option String
  /-- The relay addresses that select the subnet. -/
  relay : List Address
  /-- The server has the last word on leases. -/
  authoritative : Bool
  /-- Leases may be recorded against the client identifier. -/
  matchClientId : Bool
  /-- The order in which candidates are tried. -/
  allocator : AllocatorKind
deriving DecidableEq, Repr

/-- The lifetime of leases where none is configured: two hours. -/
def defaultValidLifetime : Duration := seconds 7200

/-- The levels at which a parameter of a subnet may be set, the nearest first. -/
structure Inheritance where
  /-- The parameters of the subnet itself. -/
  subnet : Params
  /-- The parameters of its shared network, if it has one. -/
  network : Option Params
  /-- The global parameters. -/
  global : Params

namespace Inheritance

/-- The value of a parameter at the nearest level that sets it. -/
def get? {α : Type} (levels : Inheritance) (field : Params → Option α) : Option α :=
  (field levels.subnet).or ((levels.network.bind field).or (field levels.global))

/-- Every parameter at the nearest level that sets it, or its default. The bounds of the lifetime
default to the lifetime that holds without a request. -/
def resolve (levels : Inheritance) : SubnetParams :=
  let valid := (levels.get? Params.validLifetime).getD defaultValidLifetime
  { leaseTime := {
      fallback := valid
      least := (levels.get? Params.minValidLifetime).getD valid
      most := (levels.get? Params.maxValidLifetime).getD valid
      renew := levels.get? Params.renewTimer
      rebind := levels.get? Params.rebindTimer }
    reservationMode := (levels.get? Params.reservationMode).getD .all
    interface := levels.get? Params.interface
    relay := (levels.get? Params.relay).getD []
    authoritative := (levels.get? Params.authoritative).getD false
    matchClientId := (levels.get? Params.matchClientId).getD true
    allocator := (levels.get? Params.allocator).getD .iterative }

end Inheritance

end Leasehold
