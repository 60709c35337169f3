import Leasehold.Proofs.Config.Faithful
import Leasehold.Proofs.Json.Reading

/-!
# Configurations are written and read back

Every part of a configuration is decoded from what was written, from the pools up to the whole
(`parse?_json`). The parameters of a level share the object of that level: none of their names is
one of the level's own, and a parameter that is not set is left out.
-/
namespace Leasehold.Config

open Json

/-- Relay addresses are read back. -/
theorem faithful_relay : Faithful 2 relayJson relay? := by
  refine Faithful.record (fun _ => by simp) (fun addresses fields holds => ?_)
    fun enough addresses => ?_
  · exact faithful_address.list.defaulted? [] (holds.find _ (by decide))
  · simp [faithful_address.list.readable enough]

/-- Pools are read back. -/
theorem faithful_pool : Faithful 1 Pool.json Pool.ofNode? := by
  refine Faithful.record (fun _ => by simp) (fun pool fields holds => ?_) fun enough pool => ?_
  · have range : fields.required? "pool" Node.text? = some pool.pool :=
      faithful_text.required? (holds.find _ (by decide))
    have guard : fields.optional? "client_class" Node.text? = some pool.clientClass :=
      faithful_text.optional? (holds.find _ (by decide))
    have id : fields.optional? "id" word? = some pool.id :=
      faithful_word.optional? (holds.find _ (by decide))
    simp [range, guard, id]
  · simp [faithful_text.readable, faithful_text.readable_ofOption, faithful_word.readable_ofOption]

/-- Pools of delegated blocks are read back. -/
theorem faithful_delegatedPool : Faithful 1 DelegatedPool.json DelegatedPool.ofNode? := by
  refine Faithful.record (fun _ => by simp) (fun pool fields holds => ?_) fun enough pool => ?_
  · have block : fields.required? "prefix" block? = some pool.block :=
      faithful_block.required? (holds.find _ (by decide))
    have length : fields.required? "delegated_len" byte? = some pool.delegatedLength :=
      faithful_byte.required? (holds.find _ (by decide))
    have guard : fields.optional? "client_class" Node.text? = some pool.clientClass :=
      faithful_text.optional? (holds.find _ (by decide))
    have id : fields.optional? "id" word? = some pool.id :=
      faithful_word.optional? (holds.find _ (by decide))
    simp [block, length, guard, id]
  · simp [faithful_block.readable, faithful_byte.readable enough, faithful_text.readable_ofOption,
      faithful_word.readable_ofOption]

/-- Host reservations are read back. -/
theorem faithful_reservation : Faithful 2 Reservation.json Reservation.ofNode? := by
  refine Faithful.record (fun _ => by simp) (fun reservation fields holds => ?_)
    fun enough reservation => ?_
  · have hwAddress : fields.optional? "hw_address" Node.text? = some reservation.hwAddress :=
      faithful_text.optional? (holds.find _ (by decide))
    have duid : fields.optional? "duid" Node.text? = some reservation.duid :=
      faithful_text.optional? (holds.find _ (by decide))
    have clientId : fields.optional? "client_id" Node.text? = some reservation.clientId :=
      faithful_text.optional? (holds.find _ (by decide))
    have circuitId : fields.optional? "circuit_id" Node.text? = some reservation.circuitId :=
      faithful_text.optional? (holds.find _ (by decide))
    have ipAddress : fields.optional? "ip_address" address? = some reservation.ipAddress :=
      faithful_address.optional? (holds.find _ (by decide))
    have ipAddresses : fields.defaulted? "ip_addresses" [] (·.list? address?) =
        some reservation.ipAddresses :=
      faithful_address.list.defaulted? [] (holds.find _ (by decide))
    have blocks : fields.defaulted? "prefixes" [] (·.list? block?) = some reservation.blocks :=
      faithful_block.list.defaulted? [] (holds.find _ (by decide))
    have hostname : fields.optional? "hostname" Node.text? = some reservation.hostname :=
      faithful_text.optional? (holds.find _ (by decide))
    have clientClasses : fields.defaulted? "client_classes" [] (·.list? Node.text?) =
        some reservation.clientClasses :=
      faithful_text.list.defaulted? [] (holds.find _ (by decide))
    simp [hwAddress, duid, clientId, circuitId, ipAddress, ipAddresses, blocks, hostname,
      clientClasses]
  · simp [faithful_text.readable_ofOption, faithful_address.readable_ofOption,
      faithful_address.list.readable enough, faithful_block.list.readable enough,
      faithful_text.list.readable enough]

/-- Client classes are read back. -/
theorem faithful_clientClass : Faithful 1 ClientClass.json ClientClass.ofNode? := by
  refine Faithful.record (fun _ => by simp) (fun definition fields holds => ?_)
    fun enough definition => ?_
  · have name : fields.required? "name" Node.text? = some definition.name :=
      faithful_text.required? (holds.find _ (by decide))
    have test : fields.optional? "test" Node.text? = some definition.test :=
      faithful_text.optional? (holds.find _ (by decide))
    simp [name, test]
  · simp [faithful_text.readable, faithful_text.readable_ofOption]

namespace Params

/-- The parameters that are set have the names of parameters, in their order. -/
theorem sublist_names (params : Params) : (params.fields.map Prod.fst).Sublist names := by
  have single {α : Type} (name : String) (encode : α → Json) (value : Option α) :
      ((present name encode value).map Prod.fst).Sublist [name] := by
    cases value <;> simp [present]
  simp only [fields, List.map_append]
  exact single "valid_lifetime" _ _
    |>.append (single "min_valid_lifetime" _ _)
    |>.append (single "max_valid_lifetime" _ _)
    |>.append (single "renew_timer" _ _)
    |>.append (single "rebind_timer" _ _)
    |>.append (single "reservation_mode" _ _)
    |>.append (single "interface" _ _)
    |>.append (single "relay" _ _)
    |>.append (single "authoritative" _ _)
    |>.append (single "match_client_id" _ _)
    |>.append (single "allocator" _ _)

/-- Parameters are read back from what was written under their names. -/
theorem ofFields?_of_holds {params : Params} {fields : Node.Fields}
    (holds : Holds fields names params.fields) : ofFields? fields = some params := by
  have decoded {α : Type} {levels : Nat} {name : String} {encode : α → Json}
      {decode : Node → Option α} {value : Option α} (faithful : Faithful levels encode decode)
      (known : name ∈ names) (written : params.fields.lookup name = value.map encode) :
      fields.optional? name decode = some value :=
    faithful.optional?_present holds.mapping (by rw [holds.find name known, written])
  have validLifetime : fields.optional? "valid_lifetime" Seconds.ofNode? =
      some params.validLifetime :=
    decoded faithful_seconds (by decide) (by simp [Params.fields, List.lookup_append])
  have minValidLifetime : fields.optional? "min_valid_lifetime" Seconds.ofNode? =
      some params.minValidLifetime :=
    decoded faithful_seconds (by decide) (by simp [Params.fields, List.lookup_append])
  have maxValidLifetime : fields.optional? "max_valid_lifetime" Seconds.ofNode? =
      some params.maxValidLifetime :=
    decoded faithful_seconds (by decide) (by simp [Params.fields, List.lookup_append])
  have renewTimer : fields.optional? "renew_timer" Seconds.ofNode? = some params.renewTimer :=
    decoded faithful_seconds (by decide) (by simp [Params.fields, List.lookup_append])
  have rebindTimer : fields.optional? "rebind_timer" Seconds.ofNode? = some params.rebindTimer :=
    decoded faithful_seconds (by decide) (by simp [Params.fields, List.lookup_append])
  have reservationMode : fields.optional? "reservation_mode"
      (·.settledChoice? ReservationMode.choices ReservationMode.ofText?) =
        some params.reservationMode :=
    decoded faithful_reservationMode (by decide) (by simp [Params.fields, List.lookup_append])
  have interface : fields.optional? "interface" Node.text? = some params.interface :=
    decoded faithful_text (by decide) (by simp [Params.fields, List.lookup_append])
  have relay : fields.optional? "relay" relay? = some params.relay :=
    decoded faithful_relay (by decide) (by simp [Params.fields, List.lookup_append])
  have authoritative : fields.optional? "authoritative" Node.bool? = some params.authoritative :=
    decoded faithful_bool (by decide) (by simp [Params.fields, List.lookup_append])
  have matchClientId : fields.optional? "match_client_id" Node.bool? = some params.matchClientId :=
    decoded faithful_bool (by decide) (by simp [Params.fields, List.lookup_append])
  have allocator : fields.optional? "allocator"
      (·.settledChoice? AllocatorKind.choices AllocatorKind.ofText?) = some params.allocator :=
    decoded faithful_allocatorKind (by decide) (by simp [Params.fields, List.lookup_append])
  simp [ofFields?, validLifetime, minValidLifetime, maxValidLifetime, renewTimer, rebindTimer,
    reservationMode, interface, relay, authoritative, matchClientId, allocator]

/-- Parameters take as many levels as relay addresses do. -/
theorem readable {room : Nat} (enough : 2 ≤ room) (params : Params) :
    ∀ field ∈ params.fields, Readable room field.2 := by
  have flat := Nat.zero_le room
  simp only [fields, List.forall_mem_append, and_assoc]
  exact ⟨faithful_seconds.readable_present flat _ _, faithful_seconds.readable_present flat _ _,
    faithful_seconds.readable_present flat _ _, faithful_seconds.readable_present flat _ _,
    faithful_seconds.readable_present flat _ _, faithful_reservationMode.readable_present flat _ _,
    faithful_text.readable_present flat _ _, faithful_relay.readable_present enough _ _,
    faithful_bool.readable_present flat _ _, faithful_bool.readable_present flat _ _,
    faithful_allocatorKind.readable_present flat _ _⟩

/-- A name that no parameter has is not among those of the parameters that are set. -/
theorem not_mem_of_apart {other : List String} (apart : ∀ name ∈ names, name ∉ other)
    (params : Params) : ∀ name ∈ other, name ∉ params.fields.map Prod.fst :=
  fun name known member => apart name (params.sublist_names.mem member) known

end Params

/-- Subnets are read back. -/
theorem faithful_subnet : Faithful 4 Subnet.json Subnet.ofNode? := by
  have apart : ∀ name ∈ Params.names, name ∉ Subnet.names := by decide
  refine Faithful.shared apart (fun subnet => ?_) (fun subnet own second held heldSecond => ?_)
    fun {room} enough subnet => ?_
  · rw [List.map_append]
    have distinct : (Subnet.names ++ Params.names).Nodup := by decide
    exact distinct.sublist (subnet.params.sublist_names.append_left _)
  · have params := Params.ofFields?_of_holds (heldSecond.right apart)
    have holds := held.left (subnet.params.not_mem_of_apart apart)
    have id : own.defaulted? "id" 0 word? = some subnet.id :=
      faithful_word.defaulted? 0 (holds.find _ (by decide))
    have block : own.required? "subnet" block? = some subnet.block :=
      faithful_block.required? (holds.find _ (by decide))
    have pools : own.defaulted? "pools" [] (·.list? Pool.ofNode?) = some subnet.pools :=
      faithful_pool.list.defaulted? [] (holds.find _ (by decide))
    have delegatedPools : own.defaulted? "pd_pools" [] (·.list? DelegatedPool.ofNode?) =
        some subnet.delegatedPools :=
      faithful_delegatedPool.list.defaulted? [] (holds.find _ (by decide))
    have guard : own.optional? "client_class" Node.text? = some subnet.clientClass :=
      faithful_text.optional? (holds.find _ (by decide))
    have reservations : own.defaulted? "reservations" [] (·.list? Reservation.ofNode?) =
        some subnet.reservations :=
      faithful_reservation.list.defaulted? [] (holds.find _ (by decide))
    simp [id, block, pools, delegatedPools, guard, reservations, params]
  · have inner : 2 ≤ room := by omega
    rw [List.forall_mem_append]
    refine ⟨?_, subnet.params.readable inner⟩
    simp [faithful_word.readable, faithful_block.readable, faithful_pool.list.readable inner,
      faithful_delegatedPool.list.readable inner, faithful_text.readable_ofOption,
      faithful_reservation.list.readable enough]

/-- Shared networks are read back. -/
theorem faithful_network : Faithful 6 Network.json Network.ofNode? := by
  have apart : ∀ name ∈ Params.names, name ∉ Network.names := by decide
  refine Faithful.shared apart (fun network => ?_) (fun network own second held heldSecond => ?_)
    fun {room} enough network => ?_
  · rw [List.map_append]
    have distinct : (Network.names ++ Params.names).Nodup := by decide
    exact distinct.sublist (network.params.sublist_names.append_left _)
  · have params := Params.ofFields?_of_holds (heldSecond.right apart)
    have holds := held.left (network.params.not_mem_of_apart apart)
    have name : own.required? "name" Node.text? = some network.name :=
      faithful_text.required? (holds.find _ (by decide))
    have guard : own.optional? "client_class" Node.text? = some network.clientClass :=
      faithful_text.optional? (holds.find _ (by decide))
    have subnets : own.defaulted? "subnets" [] (·.list? Subnet.ofNode?) = some network.subnets :=
      faithful_subnet.list.defaulted? [] (holds.find _ (by decide))
    simp [name, guard, subnets, params]
  · have inner : 2 ≤ room := by omega
    rw [List.forall_mem_append]
    refine ⟨?_, network.params.readable inner⟩
    simp [faithful_text.readable, faithful_text.readable_ofOption,
      faithful_subnet.list.readable enough]

/-- Configurations are read back. -/
theorem faithful_config : Faithful 8 json ofNode? := by
  have apart : ∀ name ∈ Params.names, name ∉ names := by decide
  refine Faithful.shared apart (fun config => ?_) (fun config own second held heldSecond => ?_)
    fun {room} enough config => ?_
  · rw [List.map_append]
    have distinct : (Params.names ++ names).Nodup := by decide
    exact distinct.sublist (config.params.sublist_names.append_right _)
  · have params := Params.ofFields?_of_holds (heldSecond.left apart)
    have holds := held.right (config.params.not_mem_of_apart apart)
    have identifierOrder : own.defaulted? "host_reservation_identifiers" defaultIdentifierOrder
        (·.list? (·.choice? IdentifierKind.ofText?)) = some config.identifierOrder :=
      faithful_identifierKind.list.defaulted? _ (holds.find _ (by decide))
    have uniqueAddresses : own.defaulted? "ip_reservations_unique" true Node.bool? =
        some config.uniqueAddresses :=
      faithful_bool.defaulted? true (holds.find _ (by decide))
    have clientClasses : own.defaulted? "client_classes" [] (·.list? ClientClass.ofNode?) =
        some config.clientClasses :=
      faithful_clientClass.list.defaulted? [] (holds.find _ (by decide))
    have reservations : own.defaulted? "reservations" [] (·.list? Reservation.ofNode?) =
        some config.reservations :=
      faithful_reservation.list.defaulted? [] (holds.find _ (by decide))
    have subnets : own.defaulted? "subnets" [] (·.list? Subnet.ofNode?) = some config.subnets :=
      faithful_subnet.list.defaulted? [] (holds.find _ (by decide))
    have networks : own.defaulted? "shared_networks" [] (·.list? Network.ofNode?) =
        some config.networks :=
      faithful_network.list.defaulted? [] (holds.find _ (by decide))
    simp [params, identifierOrder, uniqueAddresses, clientClasses, reservations, subnets, networks]
  · have listed : 1 ≤ room ∧ 2 ≤ room ∧ 3 ≤ room ∧ 5 ≤ room := by omega
    rw [List.forall_mem_append]
    refine ⟨config.params.readable listed.2.1, ?_⟩
    simp [faithful_identifierKind.list.readable listed.1, faithful_bool.readable,
      faithful_clientClass.list.readable listed.2.1,
      faithful_reservation.list.readable listed.2.2.1,
      faithful_subnet.list.readable listed.2.2.2, faithful_network.list.readable enough]

/-- A configuration that was written as JSON, on one line or on several, is read back as it was. -/
theorem parse?_json (config : Config) :
    parse? .json (String.ofList config.json.compact) = some config ∧
      parse? .json config.json.pretty = some config := by
  have readable : Readable maxDepth config.json := faithful_config.readable (by decide) config
  have decoded := faithful_config.back config
  constructor
  · simp [parse?, TextFormat.decode?, read?_compact readable, decoded]
  · simp [parse?, TextFormat.decode?, read?_pretty readable, decoded]

end Leasehold.Config
