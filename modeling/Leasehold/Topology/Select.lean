import Leasehold.Topology

/-!
# Which subnets a request may be served from

What the network layer knows about the origin of a request selects subnets: first those that list
the relay that passed the request on, then those that contain the most telling address, and for a
request that was not relayed those on the receiving interface. Each subnet found brings along the
other subnets of its shared network.
-/
namespace Leasehold

/-- Where a request came from. -/
structure Selector where
  /-- The receiving interface. -/
  iface : Option String
  /-- The relay closest to the client. -/
  relayAddress : Option Address
  /-- The link that the relay asked for. -/
  linkSelection : Option Address
  /-- The address that the client says it has. -/
  clientAddress : Option Address
  /-- The address of the receiving interface. -/
  localAddress : Option Address
deriving DecidableEq, Repr

namespace Selector

/-- The request was passed on by a relay. -/
def isRelayed (selector : Selector) : Bool :=
  selector.relayAddress.isSome || selector.linkSelection.isSome

/-- The address that tells most about the origin of a request. -/
def address? (selector : Selector) : Option Address :=
  selector.linkSelection.or
    (selector.relayAddress.or (selector.clientAddress.or selector.localAddress))

end Selector

namespace Topology

/-- The subnets that list the relay of a request. -/
def listingRelay (topology : Topology) (selector : Selector) : List Subnet :=
  match selector.relayAddress with
  | none => []
  | some relay => topology.subnets.filter fun subnet =>
    (((topology.inheritance subnet).get? Params.relay).getD []).contains relay

/-- The subnets that contain the most telling address of a request. -/
def containing (topology : Topology) (selector : Selector) : List Subnet :=
  match selector.address? with
  | none => []
  | some address => topology.subnets.filter (·.contains address)

/-- The subnets on the interface of a request that was not relayed. -/
def onInterface (topology : Topology) (selector : Selector) : List Subnet :=
  match selector.iface with
  | none => []
  | some iface =>
    if selector.isRelayed then []
    else topology.subnets.filter fun subnet =>
      (topology.inheritance subnet).get? Params.interface == some iface

/-- The subnets that a request selects directly. -/
def directMatches (topology : Topology) (selector : Selector) : List Subnet :=
  match topology.listingRelay selector with
  | subnet :: rest => subnet :: rest
  | [] =>
    match topology.containing selector with
    | subnet :: rest => subnet :: rest
    | [] => topology.onInterface selector

/-- The first subnet that a request selects directly. -/
def firstMatch? (topology : Topology) (selector : Selector) : Option Subnet :=
  (topology.directMatches selector).head?

/-- A subnet and the other subnets of its shared network. -/
def withSiblings (topology : Topology) (subnet : Subnet) : List Subnet :=
  subnet :: (match topology.networkOf? subnet with
    | none => []
    | some network => network.subnets.filterMap fun sibling => topology.subnet? sibling.id)

/-- The subnets without those whose number came before. -/
def distinctById (subnets : List Subnet) : List Subnet :=
  subnets.foldl (fun found subnet =>
    if found.any (·.id == subnet.id) then found else found ++ [subnet]) []

/-- The subnets that a request may be served from, each once, in order of preference. -/
def candidates (topology : Topology) (selector : Selector) : List Subnet :=
  distinctById ((topology.directMatches selector).flatMap topology.withSiblings)

end Topology

end Leasehold
