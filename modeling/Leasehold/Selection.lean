import Leasehold.Request

/-!
# Selecting the subnets for a client

The subnets that a request may be served from are narrowed down to those that the classes of the
client admit it to. When one of them consults global reservations, the global reservation of the
client is looked up first, so that the classes it assigns can open or close a subnet. The first
subnet that is left is preferred, and the others stand by.
-/
namespace Leasehold

/-- A subnet that an allocation can be tried in. -/
structure Candidate where
  /-- The subnet. -/
  subnet : Subnet
  /-- Its parameters. -/
  params : SubnetParams
deriving DecidableEq, Repr

/-- The outcome of a selection. -/
structure Selection where
  /-- The classes that decided about the subnets. -/
  classes : ClassSet
  /-- The subnets that are left, in order of preference. -/
  candidates : List Candidate
  /-- The global reservation of the client, if one was looked up and found. -/
  global : Option Reservation
deriving DecidableEq, Repr

namespace Selection

/-- Put the candidates with a property before the others, each in the order they had. -/
def prefer (selection : Selection) (wanted : Candidate → Bool) : Selection :=
  { selection with
    candidates := selection.candidates.filter wanted ++
      selection.candidates.filter (!wanted ·) }

end Selection

namespace Topology

/-- A subnet as a candidate. -/
def candidate (topology : Topology) (subnet : Subnet) : Candidate :=
  ⟨subnet, topology.params subnet⟩

/-- The classes admit the client to a subnet and to the shared network it belongs to. -/
def isOpen (topology : Topology) (classes : ClassSet) (subnet : Subnet) : Bool :=
  classes.allows subnet.guard &&
    classes.allows ((topology.networkOf? subnet).bind (·.guard))

/-- The reservation of a client that applies in a candidate. -/
def reservation? (topology : Topology) (candidate : Candidate) (ids : ClientIdentifiers) :
    Option Reservation :=
  let mode := candidate.params.reservationMode
  if mode.usesGlobal then topology.reservations.lookup .global ids
  else if mode.usesSubnet then topology.reservations.lookup (.subnet candidate.subnet.id) ids
  else none

/-- The classes of the client of a request, once it is known whether it has a reservation. -/
def classesWith (topology : Topology) (request : Request) (reservation : Option Reservation) :
    ClassSet :=
  topology.classes.resolve (request.factsWith reservation)

/-- Select the subnets for a request. -/
def select (topology : Topology) (request : Request) : Selection :=
  match (topology.candidates request.selector).map topology.candidate with
  | [] => ⟨.empty, [], none⟩
  | first :: others =>
    let matched := first :: others
    let consulted := matched.any (·.params.reservationMode.usesGlobal)
    let global :=
      if consulted then topology.reservations.lookup .global request.identifiers else none
    let classes :=
      if consulted then topology.classesWith request global
      else topology.classes.resolve request.facts
    { classes
      candidates := matched.filter fun candidate => topology.isOpen classes candidate.subnet
      global }

end Topology

end Leasehold
