import Leasehold.Config
import Leasehold.Json

/-!
# Writing configurations

The form in which a configuration is written back is the one it is read in. Parameters stand in the
mapping of their level and are left out where they are not set; every other optional field is
written as null where it is absent, and fields with a default are always written. Durations are
written in seconds.
-/
namespace Leasehold.Config

/-- An address as a text. -/
def addressJson (address : Address) : Json := .text address.text

/-- A block as a text. -/
def blockJson (block : Block) : Json := .text block.text

/-- A list of values. -/
def listJson {α : Type} (encode : α → Json) (items : List α) : Json := .list (items.map encode)

/-- A number of 32 bits. -/
def wordJson (value : UInt32) : Json := .number value.toNat

/-- A lifetime in seconds. -/
def secondsJson (seconds : Seconds) : Json := .number seconds.value

/-- The relay addresses of a level. -/
def relayJson (addresses : List Address) : Json :=
  .object [("ip_addresses", listJson addressJson addresses)]

/-- The parameters that are set at a level. -/
def Params.fields (params : Params) : List (String × Json) :=
  Json.present "valid_lifetime" secondsJson params.validLifetime ++
  Json.present "min_valid_lifetime" secondsJson params.minValidLifetime ++
  Json.present "max_valid_lifetime" secondsJson params.maxValidLifetime ++
  Json.present "renew_timer" secondsJson params.renewTimer ++
  Json.present "rebind_timer" secondsJson params.rebindTimer ++
  Json.present "reservation_mode" (fun mode => .text mode.text) params.reservationMode ++
  Json.present "interface" .text params.interface ++
  Json.present "relay" relayJson params.relay ++
  Json.present "authoritative" .bool params.authoritative ++
  Json.present "match_client_id" .bool params.matchClientId ++
  Json.present "allocator" (fun kind => .text kind.text) params.allocator

/-- A pool. -/
def Pool.json (pool : Pool) : Json := .object [
  ("pool", .text pool.pool),
  ("client_class", Json.ofOption .text pool.clientClass),
  ("id", Json.ofOption wordJson pool.id)]

/-- A pool of delegated blocks. -/
def DelegatedPool.json (pool : DelegatedPool) : Json := .object [
  ("prefix", blockJson pool.block),
  ("delegated_len", .number pool.delegatedLength.toNat),
  ("client_class", Json.ofOption .text pool.clientClass),
  ("id", Json.ofOption wordJson pool.id)]

/-- A host reservation. -/
def Reservation.json (reservation : Reservation) : Json := .object [
  ("hw_address", Json.ofOption .text reservation.hwAddress),
  ("duid", Json.ofOption .text reservation.duid),
  ("client_id", Json.ofOption .text reservation.clientId),
  ("circuit_id", Json.ofOption .text reservation.circuitId),
  ("ip_address", Json.ofOption addressJson reservation.ipAddress),
  ("ip_addresses", listJson addressJson reservation.ipAddresses),
  ("prefixes", listJson blockJson reservation.blocks),
  ("hostname", Json.ofOption .text reservation.hostname),
  ("client_classes", listJson .text reservation.clientClasses)]

/-- A client class. -/
def ClientClass.json (definition : ClientClass) : Json := .object [
  ("name", .text definition.name),
  ("test", Json.ofOption .text definition.test)]

/-- A subnet. -/
def Subnet.json (subnet : Subnet) : Json := .object ([
  ("id", wordJson subnet.id),
  ("subnet", blockJson subnet.block),
  ("pools", listJson Pool.json subnet.pools),
  ("pd_pools", listJson DelegatedPool.json subnet.delegatedPools),
  ("client_class", Json.ofOption .text subnet.clientClass),
  ("reservations", listJson Reservation.json subnet.reservations)] ++ subnet.params.fields)

/-- A shared network. -/
def Network.json (network : Network) : Json := .object ([
  ("name", .text network.name),
  ("client_class", Json.ofOption .text network.clientClass),
  ("subnets", listJson Subnet.json network.subnets)] ++ network.params.fields)

/-- A configuration. -/
def json (config : Config) : Json := .object (config.params.fields ++ [
  ("host_reservation_identifiers",
    listJson (fun kind => .text kind.text) config.identifierOrder),
  ("ip_reservations_unique", .bool config.uniqueAddresses),
  ("client_classes", listJson ClientClass.json config.clientClasses),
  ("reservations", listJson Reservation.json config.reservations),
  ("subnets", listJson Subnet.json config.subnets),
  ("shared_networks", listJson Network.json config.networks)])

end Leasehold.Config
