import Leasehold.Address

/-!
# Scopes and modes

Host reservations live in one global scope or in the scope of one subnet. How they apply to a subnet
is decided by its reservation mode, and the order in which the candidates of a pool are tried by its
allocator.
-/
namespace Leasehold

/-- The number of a subnet. -/
abbrev SubnetId := UInt32

/-- The part of the reservations that one belongs to. -/
inductive Scope where
  /-- Reservations that serve every subnet that consults them. -/
  | global
  /-- Reservations of one subnet. -/
  | subnet (id : SubnetId)
deriving DecidableEq, Repr, Hashable

/-- How messages name a scope. -/
def Scope.text : Scope → String
  | .global => "global"
  | .subnet id => "subnet " ++ toString id.toNat

/-- How host reservations apply to a subnet. -/
inductive ReservationMode where
  /-- No reservation is used. -/
  | disabled
  /-- Reservations of the subnet are used, but dynamic allocation does not stay clear of them. -/
  | outOfPool
  /-- Only global reservations are used. -/
  | global
  /-- Reservations of the subnet are used, and dynamic allocation stays clear of them. -/
  | all
deriving DecidableEq, Repr

namespace ReservationMode

/-- The name of each mode. -/
def text : ReservationMode → String
  | disabled => "disabled"
  | outOfPool => "out-of-pool"
  | global => "global"
  | all => "all"

/-- Every mode, in the order in which a configuration may number them. -/
def choices : List ReservationMode := [disabled, outOfPool, global, all]

/-- The mode with a name. -/
def ofText? : String → Option ReservationMode
  | "disabled" => some disabled
  | "out-of-pool" => some outOfPool
  | "global" => some global
  | "all" => some all
  | _ => none

/-- How summaries name a mode. -/
def label : ReservationMode → String
  | disabled => "Disabled"
  | outOfPool => "OutOfPool"
  | global => "Global"
  | all => "All"

/-- Reservations of the subnet are consulted. -/
def usesSubnet : ReservationMode → Bool
  | outOfPool | all => true
  | disabled | global => false

/-- Global reservations are consulted. -/
def usesGlobal : ReservationMode → Bool
  | global => true
  | disabled | outOfPool | all => false

/-- A reserved address outside every pool may be handed out. -/
def allowsOutOfPool : ReservationMode → Bool
  | outOfPool | all => true
  | disabled | global => false

/-- The scope whose reservations dynamic allocation stays clear of. -/
def protectedScope? (mode : ReservationMode) (subnet : SubnetId) : Option Scope :=
  match mode with
  | all => some (.subnet subnet)
  | global => some .global
  | disabled | outOfPool => none

end ReservationMode

/-- The order in which the candidates of a pool are tried. -/
inductive AllocatorKind where
  /-- Start after the candidate handed out last. -/
  | iterative
  /-- Start at a candidate picked at random. -/
  | random
deriving DecidableEq, Repr

namespace AllocatorKind

/-- The name of each order. -/
def text : AllocatorKind → String
  | iterative => "iterative"
  | random => "random"

/-- Both orders, in the order in which a configuration may number them. -/
def choices : List AllocatorKind := [iterative, random]

/-- The order with a name. -/
def ofText? : String → Option AllocatorKind
  | "iterative" => some iterative
  | "random" => some random
  | _ => none

/-- How summaries name an order. -/
def label : AllocatorKind → String
  | iterative => "Iterative"
  | random => "Random"

end AllocatorKind

end Leasehold
