import Mathlib.Data.List.Perm.Basic
import Leasehold.Proofs.Topology.Consistency
import Leasehold.Proofs.Topology.Holders

/-!
# Precedence of reserved addresses

A client whose reservation fixes an address is never given another one in the first subnet that is
tried: it is granted that address, or the allocation fails. What a reservation fixes is decided by
its first address of the family of the subnet. Reservations of a subnet have only addresses that the
subnet may hand out, so that this one is as good as any other. A global reservation may begin with an
address of another subnet, and its later addresses are then passed over
(`reserved_address_wins`, `reserved_address_passed_over`).
-/
namespace Leasehold

open Engine (Surroundings)

/-- What a lookup finds is one of the reservations of the scope. -/
theorem ReservationIndex.IsFaithful.of_lookup {index : ReservationIndex}
    (faithful : index.IsFaithful) {scope : Scope} {ids : ClientIdentifiers} {host : Reservation}
    (found : index.lookup scope ids = some host) : host ∈ index.hosts ∧ host.scope = scope := by
  rw [lookup_eq_findSome?] at found
  obtain ⟨kind, -, found⟩ := List.exists_of_findSome?_eq_some found
  obtain ⟨identifier, -, held⟩ := Option.bind_eq_some_iff.mp found
  obtain ⟨member, inScope, -⟩ := (faithful.holder?_eq_some_iff scope identifier host).mp held
  exact ⟨member, inScope⟩

/-- A reservation with an address of a family has a first one. -/
theorem Reservation.exists_address? {reservation : Reservation} {address : Address}
    (listed : address ∈ reservation.addresses) :
    ∃ first ∈ reservation.addresses, reservation.address? address.family = some first := by
  obtain ⟨first, found⟩ : ∃ first, reservation.address? address.family = some first :=
    Option.isSome_iff_exists.mp (List.find?_isSome.mpr ⟨address, listed, beq_self_eq_true _⟩)
  exact ⟨first, List.mem_of_find?_eq_some found, found⟩

/-- The subnet may hand out an address that is reserved: the address lies in it, and in one of its
pools unless the mode allows others. -/
def Candidate.MayHandOut (candidate : Candidate) (address : Address) : Prop :=
  candidate.subnet.contains address = true ∧
    ((∃ pool ∈ candidate.subnet.pools, pool.contains address = true) ∨
      candidate.params.reservationMode.allowsOutOfPool = true)

/-- Whether a subnet may hand out an address can be computed. -/
instance (candidate : Candidate) (address : Address) : Decidable (candidate.MayHandOut address) :=
  inferInstanceAs (Decidable (_ ∧ _))

/-- A reservation fixes its first address of the family of the subnet, if the subnet may hand that
out, and no other address. -/
theorem Attempt.fixed?_cases {attempt : Attempt} {reservation : Reservation} {first : Address}
    (asks : attempt.request.kind = .address)
    (found : reservation.address? attempt.subnet.family = some first) :
    (attempt.candidate.MayHandOut first ∧
        ∃ target, attempt.fixed? reservation = some target ∧ target.address = first) ∨
      ¬ attempt.candidate.MayHandOut first ∧ attempt.fixed? reservation = none := by
  have reserved : attempt.reserved? reservation = some (first, attempt.addressLength) := by
    unfold reserved?
    rw [asks, found]
    rfl
  have pools : attempt.pools = attempt.candidate.subnet.pools := by
    unfold Attempt.pools
    rw [asks]
    rfl
  have inPool : (attempt.pools.find? (·.contains first)).isSome = true ↔
      ∃ pool ∈ attempt.candidate.subnet.pools, pool.contains first = true := by
    rw [List.find?_isSome, pools]
  have passes : ((attempt.request.kind == .block || attempt.subnet.contains first) &&
      ((attempt.pools.find? (·.contains first)).isSome ||
        attempt.candidate.params.reservationMode.allowsOutOfPool)) = true ↔
      attempt.candidate.MayHandOut first := by
    rw [Bool.and_eq_true, Bool.or_eq_true, Bool.or_eq_true, inPool, asks]
    exact and_congr_left fun _ => or_iff_right (by decide)
  unfold fixed?
  rw [reserved]
  dsimp only
  split
  · next holds => exact .inl ⟨passes.mp holds, _, rfl, rfl⟩
  · next fails => exact .inr ⟨fun may => fails (passes.mpr may), rfl⟩

namespace Topology

variable {topology : Topology} {request : Request} {candidate : Candidate}
  {reservation : Reservation}

/-- The reservation that applies in a subnet is a global one or one of the subnet, as the mode says.
-/
theorem Accepted.of_reservation? (accepted : topology.Accepted) {ids : ClientIdentifiers}
    (applies : topology.reservation? candidate ids = some reservation) :
    reservation ∈ topology.reservations.hosts ∧
      (candidate.params.reservationMode = .global ∧ reservation.scope = .global ∨
        candidate.params.reservationMode.usesSubnet = true ∧
          reservation.scope = .subnet candidate.subnet.id) := by
  obtain ⟨order, extended⟩ := accepted.isBuilt.reservations
  have faithful := (ReservationIndex.isFaithful_empty order).extends extended
  unfold reservation? at applies
  dsimp only at applies
  cases mode : candidate.params.reservationMode with
  | disabled =>
    rw [mode] at applies
    exact nomatch applies
  | global =>
    rw [mode] at applies
    obtain ⟨reserved, scope⟩ := faithful.of_lookup applies
    exact ⟨reserved, .inl ⟨rfl, scope⟩⟩
  | outOfPool | all =>
    rw [mode] at applies
    obtain ⟨reserved, scope⟩ := faithful.of_lookup applies
    exact ⟨reserved, .inr ⟨rfl, scope⟩⟩

/-- A subnet that does not consult global reservations may hand out every address that the
reservation of a client has. -/
theorem Accepted.mayHandOut (accepted : topology.Accepted)
    (selected : candidate ∈ (topology.select request).candidates) {ids : ClientIdentifiers}
    (applies : topology.reservation? candidate ids = some reservation)
    (own : candidate.params.reservationMode ≠ .global) {address : Address}
    (listed : address ∈ reservation.addresses) : candidate.MayHandOut address := by
  obtain ⟨reserved, ⟨global, -⟩ | ⟨consults, scope⟩⟩ := accepted.of_reservation? applies
  · exact absurd global own
  · obtain ⟨subnet, member, rfl⟩ := exists_of_mem_select selected
    refine ⟨?_, .inr ?_⟩
    · rcases accepted with rfl | ⟨config, generation, built⟩
      · exact absurd member List.not_mem_nil
      · exact contains_of_mem_hosts built member reserved scope listed
    · generalize (topology.candidate subnet).params.reservationMode = mode at consults
      cases mode with
      | disabled | global => exact nomatch consults
      | outOfPool | all => rfl

end Topology

namespace Engine

section Precedence

variable {topology : Topology} {request : Request} {mode : AllocationMode} {limit : Option Nat}
  {attempt : Attempt} {around : Surroundings} {scene : Scene} {leases : List Lease}

/-- The way to an address ends in one of the candidates. -/
theorem LeadsTo.candidate_mem {candidates : List Candidate} {target : Target} {kind : GrantKind}
    (leads : LeadsTo topology request mode around scene limit leases candidates attempt target
      kind) : attempt.candidate ∈ candidates := by
  induction leads with
  | here => exact List.mem_cons_self
  | later _ _ _ ih => exact List.mem_cons_of_mem _ ih

/-- The way ends in the first candidate when an address is fixed for the client there. -/
theorem LeadsTo.candidate_eq_of_fixed {candidate : Candidate} {others : List Candidate}
    {target : Target} {kind : GrantKind}
    (leads : LeadsTo topology request mode around scene limit leases (candidate :: others) attempt
      target kind)
    (fixed : ∀ first, Serves topology request mode around.now first →
      first.candidate = candidate → first.fixedTarget? topology ≠ none) :
    attempt.candidate = candidate := by
  cases leads with
  | here => rfl
  | later serves exhausts => exact absurd exhausts.unfixed (fixed _ serves rfl)

/-- No subnet is tried twice. -/
theorem distinct_preferred (topology : Topology) (request : Request) (store : Store)
    (now : Instant) (owners : List Identifier) :
    (preferred topology request store now owners).Pairwise fun left right =>
      left.subnet.id ≠ right.subnet.id := by
  have same := List.filter_append_perm (holdsIn (owners.flatMap store.ofOwner) now)
    (topology.select request).candidates
  exact (same.pairwise_iff fun different => different.symm).mpr
    (Topology.distinct_select topology request)

/-- Where an address is fixed for the client, it is the one that is granted. -/
theorem Provides.reserved_of_fixed {target fixed : Target} {grant : Grant} {after : Scene}
    (provides : Provides topology attempt around scene limit leases target grant after)
    (fixes : attempt.fixedTarget? topology = some fixed) :
    grant.kind = .reserved ∧ grant.lease.address = fixed.address := by
  have chosen := provides.chosen
  have address := provides.address
  generalize grant.kind = kind at chosen
  cases chosen with
  | fixed same =>
    obtain rfl := Option.some.inj (same.symm.trans fixes)
    exact ⟨rfl, address⟩
  | found unfixed =>
    rw [unfixed] at fixes
    exact nomatch fixes

/-- What the reservation of the client fixes in a subnet is its first address of the family, if the
subnet may hand that out. -/
theorem Serves.fixedTarget?_cases {now : Instant}
    (serves : Serves topology request mode now attempt) (asks : request.kind = .address)
    {reservation : Reservation} {first : Address}
    (applies : topology.reservation? attempt.candidate request.identifiers = some reservation)
    (decides : reservation.address? attempt.candidate.subnet.family = some first) :
    (attempt.candidate.MayHandOut first ∧
        ∃ fixed, attempt.fixedTarget? topology = some fixed ∧ fixed.address = first) ∨
      ¬ attempt.candidate.MayHandOut first ∧ attempt.fixedTarget? topology = none := by
  unfold Attempt.fixedTarget?
  rw [serves.request_eq, applies]
  exact Attempt.fixed?_cases (serves.request_eq ▸ asks) decides

/-- Reserved addresses take precedence. A client asks for an address, and in the first subnet that is
tried it has a reservation with an address that the subnet may hand out. The first address of the
reservation in the family of the subnet decides. Outside the global mode the subnet may hand it out
as well; when it may, the client is granted that address as reserved, whatever else is free, or
nothing. Otherwise nothing that is granted in the subnet counts as reserved. -/
theorem reserved_address_wins (accepted : topology.Accepted) (around : Surroundings)
    (state : State) {owners : List Identifier} {candidate : Candidate} {others : List Candidate}
    {reservation : Reservation} {address : Address} {grant : Grant}
    (known : owners? request (topology.select request).candidates = some owners)
    (tried : preferred topology request state.store around.now owners = candidate :: others)
    (asks : request.kind = .address)
    (applies : topology.reservation? candidate request.identifiers = some reservation)
    (listed : address ∈ reservation.addresses) (usable : candidate.MayHandOut address)
    (granted : (state.run around (allocate topology request mode limit)).1 = .ok grant) :
    ∃ first ∈ reservation.addresses,
      reservation.address? candidate.subnet.family = some first ∧
      (candidate.params.reservationMode ≠ .global → candidate.MayHandOut first) ∧
      (candidate.MayHandOut first →
        grant.kind = .reserved ∧ grant.lease.address = first ∧
          grant.subnet = candidate.subnet.id) ∧
      (¬ candidate.MayHandOut first → grant.subnet = candidate.subnet.id →
        grant.kind ≠ .reserved) := by
  have family : address.family = candidate.subnet.family :=
    ((Block.contains_iff _ _).mp usable.1).1
  obtain ⟨first, member, decides⟩ := Reservation.exists_address? listed
  rw [family] at decides
  have ahead : candidate ∈ preferred topology request state.store around.now owners := by
    rw [tried]
    exact List.mem_cons_self
  have selected := (mem_prefer_iff _ _ candidate).mp ahead
  obtain ⟨presented, attempt, target, same, leads, provides⟩ :=
    exists_leadsTo_of_run_allocate (State.scene_run granted)
  obtain rfl := Option.some.inj (same.symm.trans known)
  have distinct := distinct_preferred topology request state.store around.now presented
  change LeadsTo topology request mode around state.scene limit _
    (preferred topology request state.store around.now presented) attempt target grant.kind at leads
  rw [tried] at leads distinct
  refine ⟨first, member, decides, fun own => accepted.mayHandOut selected applies own member, ?_, ?_⟩
  · intro may
    have here : attempt.candidate = candidate := by
      refine leads.candidate_eq_of_fixed fun other serves here unfixed => ?_
      subst here
      rcases serves.fixedTarget?_cases asks applies decides with ⟨-, fixed, fixes, -⟩ | ⟨cannot, -⟩
      · exact nomatch unfixed.symm.trans fixes
      · exact cannot may
    subst here
    rcases leads.serves.fixedTarget?_cases asks applies decides with
      ⟨-, fixed, fixes, rfl⟩ | ⟨cannot, -⟩
    · obtain ⟨kind, address⟩ := provides.reserved_of_fixed fixes
      exact ⟨kind, address, provides.subnet⟩
    · exact absurd may cannot
  · intro cannot inSubnet
    have here : attempt.candidate = candidate := by
      rcases List.mem_cons.mp leads.candidate_mem with here | later
      · exact here
      · have apart := (List.pairwise_cons.mp distinct).1 _ later
        exact absurd (inSubnet.symm.trans provides.subnet) apart
    subst here
    rcases leads.serves.fixedTarget?_cases asks applies decides with ⟨may, -⟩ | ⟨-, unfixed⟩
    · exact absurd may cannot
    · exact provides.kind_ne_reserved unfixed

/-- When subnets are selected and the client has an owner in each, one of them is tried first. -/
theorem exists_first_preferred (store : Store) (now : Instant)
    (selected : (topology.select request).candidates ≠ [])
    (owned : ∀ candidate ∈ (topology.select request).candidates,
      ∃ owner, ownerIn request candidate = some owner) :
    ∃ owners candidate others,
      owners? request (topology.select request).candidates = some owners ∧
        preferred topology request store now owners = candidate :: others ∧
        candidate ∈ (topology.select request).candidates := by
  obtain ⟨owners, known⟩ := (owners?_isSome_iff _).mpr owned
  obtain ⟨any, listed⟩ := List.exists_mem_of_ne_nil _ selected
  have ahead : any ∈ preferred topology request store now owners :=
    (mem_prefer_iff _ _ any).mpr listed
  obtain ⟨candidate, others, tried⟩ := List.exists_cons_of_ne_nil (List.ne_nil_of_mem ahead)
  have first : candidate ∈ preferred topology request store now owners := by
    rw [tried]
    exact List.mem_cons_self
  exact ⟨owners, candidate, others, known, tried, (mem_prefer_iff _ _ candidate).mp first⟩

end Precedence

namespace Sample

/-- An address of the small network. -/
def home : Address := ⟨.v4, 167772171, by decide⟩

/-- An address of another network. -/
def elsewhere : Address := ⟨.v4, 167837701, by decide⟩

/-- The first client has the addresses reserved, wherever it turns up. -/
def roamer (addresses : List Address) : Config.Reservation :=
  ⟨some "01", none, none, none, none, addresses, [], none, []⟩

/-- The reservation as it is read. -/
def roamerReserved (addresses : List Address) : Reservation :=
  ⟨.global, [⟨.hwAddress, [1]⟩], Reservation.appendNew [] addresses, [], none, []⟩

/-- The small network with two addresses and global reservations. -/
def roamingConfig (reservations : List Config.Reservation) : Config :=
  { config with
    reservations
    subnets := config.subnets.map fun subnet =>
      { subnet with
        pools := [⟨"10.0.0.10-10.0.0.11", none, none⟩]
        params := { Config.Params.unset with
          reservationMode := some .global
          interface := some "lan" } } }

/-- The topology in which the first client has the addresses reserved. -/
def roaming (addresses : List Address) : Topology :=
  { (Topology.build (roamingConfig []) 1).toOption.getD .empty with
    reservations := (ReservationIndex.empty [.hwAddress]).append (roamerReserved addresses) }

/-- The reservation is read as that of the first client. -/
theorem ofConfig_roamer (addresses : List Address) :
    Reservation.ofConfig .global (roamer addresses) = .ok (roamerReserved addresses) := by
  have identifiers : Reservation.readIdentifiers
      (Reservation.givenIdentifiers (roamer [])) = .ok [⟨.hwAddress, [1]⟩] := by decide +kernel
  have same : Reservation.givenIdentifiers (roamer addresses) =
      Reservation.givenIdentifiers (roamer []) := rfl
  unfold Reservation.ofConfig
  rw [same, identifiers]
  rfl

/-- The topology is what its configuration is built into. -/
theorem accepted_roaming (addresses : List Address) : (roaming addresses).Accepted := by
  refine .inr ⟨roamingConfig [roamer addresses], 1, ?_⟩
  unfold Topology.build
  change (do
    let builder ← Builder.reserveAll .global (fun _ => .ok ()) ⟨.none, .empty [.hwAddress], true⟩
      [roamer addresses]
    _ : Except ConfigError Topology) = _
  rw [Builder.reserveAll_singleton (ofConfig_roamer addresses)]
  rfl

/-- The first client has the reservation. -/
theorem lookup_roaming (addresses : List Address) :
    (roaming addresses).reservations.lookup .global (client 1) =
      some (roamerReserved addresses) := by
  change ((ReservationIndex.empty [.hwAddress]).append (roamerReserved addresses)).lookup .global
    (client 1) = some (roamerReserved addresses)
  simp [ReservationIndex.lookup, ReservationIndex.append, ReservationIndex.empty, roamerReserved,
    client, ClientIdentifiers.identifier?, ClientIdentifiers.get?]

/-- The two ways to list the addresses. -/
def itineraries : List (List Address) := [[home, elsewhere], [elsewhere, home]]

/-- A subnet is selected for the first client, however the addresses are listed. -/
theorem select_roaming : ∀ addresses ∈ itineraries,
    ((roaming addresses).select (request 1)).candidates ≠ [] := by decide +kernel

/-- What is known of the subnet. -/
theorem of_mem_roaming : ∀ addresses ∈ itineraries,
    ∀ candidate ∈ ((roaming addresses).select (request 1)).candidates,
      candidate.params.reservationMode = .global ∧
        ownerIn (request 1) candidate = some ⟨.hwAddress, [1]⟩ ∧
        candidate.MayHandOut home ∧ ¬ candidate.MayHandOut elsewhere ∧
        candidate.subnet.family = .v4 ∧
        ∃ pool ∈ candidate.subnet.pools, pool.guard = none ∧ pool.contains home = true := by
  decide +kernel

/-- The reservation applies in the subnet. -/
theorem reservation?_roaming {addresses : List Address} (listed : addresses ∈ itineraries)
    {candidate : Candidate}
    (selected : candidate ∈ ((roaming addresses).select (request 1)).candidates) :
    (roaming addresses).reservation? candidate (request 1).identifiers =
      some (roamerReserved addresses) := by
  obtain ⟨mode, -⟩ := of_mem_roaming addresses listed candidate selected
  unfold Topology.reservation?
  rw [mode]
  exact lookup_roaming addresses

/-- The client is granted something, and not as reserved, when its first address is of another
network. -/
theorem exists_grant_roaming :
    ∃ grant, (State.initial.run (around 0)
        (allocate (roaming [elsewhere, home]) (request 1) .commit none)).1 = .ok grant ∧
      grant.kind ≠ .reserved := by
  have listed : [elsewhere, home] ∈ itineraries := by decide
  have known := of_mem_roaming [elsewhere, home] listed
  have part : ∀ subnet ∈ (roaming [elsewhere, home]).subnets,
      ∀ pool ∈ subnet.pools ++ subnet.delegatedPools, ¬ pool.spansAll := by decide +kernel
  have unfixed (attempt : Attempt)
      (serves : Serves (roaming [elsewhere, home]) (request 1) .commit (around 0).now attempt) :
      attempt.fixedTarget? (roaming [elsewhere, home]) = none := by
    obtain ⟨-, -, -, cannot, family, -⟩ := known attempt.candidate serves.selected
    have decides : (roamerReserved [elsewhere, home]).address? attempt.candidate.subnet.family =
        some elsewhere := by
      rw [family]
      decide
    have applies := reservation?_roaming listed serves.selected
    rcases serves.fixedTarget?_cases rfl applies decides with ⟨may, -⟩ | ⟨-, unfixed⟩
    · exact absurd may cannot
    · exact unfixed
  obtain ⟨candidate, selected⟩ := List.exists_mem_of_ne_nil _ (select_roaming _ listed)
  obtain ⟨-, owned, -, -, -, pool, inside, unguarded, contained⟩ := known candidate selected
  obtain ⟨attempt, serves, rfl⟩ := exists_serves selected owned
  have available : attempt.IsAvailable (roaming [elsewhere, home]) .none .empty home := by
    refine ⟨⟨⟨pool, List.mem_filter.mpr ⟨?_, ?_⟩, contained⟩, ?_⟩, rfl, nofun⟩
    · unfold Attempt.pools
      rw [serves.request_eq]
      exact inside
    · unfold Pool.serves
      rw [unguarded]
      rfl
    · rintro ⟨scope, -, host, member, -, -, other⟩
      have same : host ∈ #[].push (roamerReserved [elsewhere, home]) := member
      obtain rfl : host = roamerReserved [elsewhere, home] := by simpa using same
      rw [serves.request_eq] at other
      exact absurd other (by decide)
  have unreviewed : ∀ request lease mode, (around 0).review request lease mode = true :=
    fun _ _ _ => rfl
  obtain ⟨grant, granted⟩ := exists_grant_of_isAvailable State.initial (accepted_roaming _) part
    unreviewed (fun candidate member => ⟨_, (known candidate member).2.1⟩) unfixed serves
    available
  obtain ⟨owners, found, target, -, servesFound, provides⟩ :=
    exists_of_run_allocate (State.scene_run granted)
  exact ⟨grant, granted, provides.kind_ne_reserved (unfixed found servesFound)⟩

end Sample

/-- The conditions can be met: a client with a reserved address of the subnet is granted it, although
another one is free. -/
theorem reserved_address_wins_of_first_client :
    ∃ grant, (State.initial.run (Sample.around 0)
        (allocate (Sample.roaming [Sample.home, Sample.elsewhere]) (Sample.request 1) .commit
          none)).1 = .ok grant ∧
      grant.kind = .reserved ∧ grant.lease.address = Sample.home := by
  have listed : [Sample.home, Sample.elsewhere] ∈ Sample.itineraries := by decide
  have known := Sample.of_mem_roaming _ listed
  obtain ⟨owners, candidate, others, presented, tried, selected⟩ :=
    exists_first_preferred State.initial.store (Sample.around 0).now
      (Sample.select_roaming _ listed) fun candidate member => ⟨_, (known candidate member).2.1⟩
  obtain ⟨-, owned, may, -, family, -⟩ := known candidate selected
  obtain ⟨attempt, serves, rfl⟩ := exists_serves selected owned
  have applies := Sample.reservation?_roaming listed selected
  have decides : (Sample.roamerReserved [Sample.home, Sample.elsewhere]).address?
      attempt.candidate.subnet.family = some Sample.home := by
    rw [family]
    decide
  rcases serves.fixedTarget?_cases rfl applies decides with ⟨-, fixed, fixes, -⟩ | ⟨cannot, -⟩
  · have granted : (State.initial.scene.run (Sample.around 0)
        (allocate (Sample.roaming [Sample.home, Sample.elsewhere]) (Sample.request 1) .commit
          none)).1 = .ok _ :=
      run_allocate_of_first serves presented ⟨others, tried⟩ (.fixed fixes rfl rfl) rfl
    rw [← (State.initial.run_scene (Sample.around 0) _).1] at granted
    obtain ⟨first, -, decided, -, wins, -⟩ := reserved_address_wins (Sample.accepted_roaming _)
      (Sample.around 0) State.initial presented tried rfl applies (by decide) may granted
    obtain rfl := Option.some.inj (decided.symm.trans decides)
    obtain ⟨kind, address, -⟩ := wins may
    exact ⟨_, granted, kind, address⟩
  · exact absurd may cannot

/-- A reserved address that the subnet may hand out does not always win: it is passed over when the
global reservation of the client begins with an address of another network. -/
theorem reserved_address_passed_over :
    ¬ ∀ (topology : Topology) (history : List Event) (request : Request) (mode : AllocationMode)
      (limit : Option Nat) (around : Surroundings) (owners : List Identifier)
      (candidate : Candidate) (others : List Candidate) (reservation : Reservation)
      (address : Address) (grant : Grant), topology.Accepted →
      (∀ event ∈ history, event.around.topology = topology) →
      owners? request (topology.select request).candidates = some owners →
      preferred topology request (State.initial.play history).store around.now owners =
        candidate :: others →
      request.kind = .address →
      topology.reservation? candidate request.identifiers = some reservation →
      address ∈ reservation.addresses → candidate.MayHandOut address →
      ((State.initial.play history).run around (allocate topology request mode limit)).1 =
        .ok grant →
      grant.kind = .reserved ∧ grant.lease.address ∈ reservation.addresses := by
  intro wins
  have listed : [Sample.elsewhere, Sample.home] ∈ Sample.itineraries := by decide
  have known := Sample.of_mem_roaming _ listed
  obtain ⟨grant, granted, dynamic⟩ := Sample.exists_grant_roaming
  obtain ⟨owners, candidate, others, presented, tried, selected⟩ :=
    exists_first_preferred State.initial.store (Sample.around 0).now
      (Sample.select_roaming _ listed) fun candidate member => ⟨_, (known candidate member).2.1⟩
  obtain ⟨-, -, may, -⟩ := known candidate selected
  have reserved := wins (Sample.roaming [Sample.elsewhere, Sample.home]) [] (Sample.request 1)
    .commit none (Sample.around 0) owners candidate others _ Sample.home grant
    (Sample.accepted_roaming _) (fun _ member => absurd member List.not_mem_nil) presented tried rfl
    (Sample.reservation?_roaming listed selected) (by decide) may granted
  exact dynamic reserved.1

end Engine

end Leasehold
