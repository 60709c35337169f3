import Leasehold.Proofs.Engine.Exclusivity
import Leasehold.Proofs.Engine.Holdings

/-!
# Choosing an address again

Other clients do not touch the leases of a client, as long as these are not over. When an attempt is
made again it therefore finds the leases that the client held before, and the one that it was granted
then. The address of that lease was the first that the client could have, and is the first that it
can renew (`Repeats.chooses_again`). Its subnet is the first to be searched, unless the client holds
a lease in an earlier one (`Repeats.prefers`).
-/
namespace Leasehold

open Engine (Surroundings Scene)

/-- No identifier is presented by both clients. -/
def ClientIdentifiers.AreStrangers (left right : ClientIdentifiers) : Prop :=
  ∀ identifier, left.presents identifier = true → ¬ right.presents identifier = true

/-- The attempt as it is made at another instant. -/
def Attempt.postpone (attempt : Attempt) (instant : Instant) : Attempt :=
  { attempt with now := instant }

namespace Engine

variable {topology : Topology} {request : Request} {mode : AllocationMode} {limit : Option Nat}
  {attempt : Attempt} {around again : Surroundings} {grant : Grant} {target : Target}

/-- A lease that is active after a history, in which nobody took part that it could be recorded
against, was stored before. -/
theorem State.get?_of_get?_play {state : State} {history : List Event} {address : Address}
    {lease : Lease} (stored : (state.play history).store.get? address = some lease)
    (active : lease.state = .active)
    (others : ∀ event ∈ history, ∀ owner, lease.owner = some owner →
      ¬ event.operation.Owns owner) :
    state.store.get? address = some lease := by
  induction history generalizing state with
  | nil => exact stored
  | cons event rest ih =>
    have next : (state.carryOut event).store.get? address = some lease :=
      ih stored fun other member => others other (List.mem_cons_of_mem event member)
    exact Moves.get?_before_of_active_of_chain (state.carryOut_moves event) next active
      (others event List.mem_cons_self)

/-- An attempt can be made at any instant. -/
theorem Serves.postpone {now : Instant} (serves : Serves topology request mode now attempt)
    (instant : Instant) :
    Serves topology request mode instant (attempt.postpone instant) where
  selected := serves.selected
  owned := serves.owned
  made := congrArg (·.postpone instant) serves.made

/-- The client of a request owns the leases of its attempts. -/
theorem Serves.owns {now : Instant} (serves : Serves topology request mode now attempt) :
    request.identifiers.Owns attempt.owner := ⟨_, serves.owned⟩

/-- Blocks that the client is given in the subnet of a grant are recognized as such: they are shorter
than single addresses. -/
def IsRecognizable (topology : Topology) (request : Request) (grant : Grant) : Prop :=
  request.kind = .block → ∀ candidate ∈ (topology.select request).candidates,
    candidate.subnet.id = grant.subnet → grant.lease.length < candidate.subnet.family.width

/-- The client holds a lease in a selected subnet that comes before the one of a grant. -/
def HoldsEarlier (topology : Topology) (request : Request) (store : Store) (now : Instant)
    (grant : Grant) : Prop :=
  ∃ candidate ∈ (topology.select request).candidates.takeWhile (·.subnet.id != grant.subnet),
    ∃ lease, store.get? lease.address = some lease ∧ lease.isActive now = true ∧
      lease.subnet = candidate.subnet.id ∧
      ∃ owner, request.identifiers.Owns owner ∧ lease.owner = some owner

/-- What has become of the leases of a client after a grant: the lease of the grant is still stored,
and no lease has been added. -/
structure Undisturbed (request : Request) (grant : Grant) (after later : Store) : Prop where
  /-- The lease of the grant is stored. -/
  kept : later.get? grant.lease.address = some grant.lease
  /-- Active leases of the client were stored right after the grant. -/
  old : ∀ {lease : Lease} {owner : Identifier}, later.get? lease.address = some lease →
    lease.state = .active → lease.owner = some owner → request.identifiers.Owns owner →
    after.get? lease.address = some lease

/-- Strangers do not disturb the leases of a client, as long as the lease of the grant is not over. -/
theorem undisturbed_play {state : State} {between : List Event} {owner : Identifier}
    (stored : state.store.get? grant.lease.address = some grant.lease)
    (active : grant.lease.state = .active) (owned : grant.lease.owner = some owner)
    (owns : request.identifiers.Owns owner)
    (strangers : ∀ event ∈ between, ∀ ids, event.operation.client? = some ids →
      request.identifiers.AreStrangers ids)
    (meanwhile : ∀ event ∈ between, event.around.now < grant.lease.expiresAt) :
    Undisturbed request grant state.store (state.play between).store := by
  have apart (event : Event) (member : event ∈ between) (owner : Identifier)
      (own : request.identifiers.Owns owner) : ¬ event.operation.Owns owner := by
    rintro ⟨ids, asks, others⟩
    exact strangers event member ids asks owner own.presents others.presents
  constructor
  · refine State.get?_play_of_blocks stored (fun event member => ?_) fun event member other same => ?_
    · have early := meanwhile event member
      simpa [Lease.blocks, active, Lease.isExpired] using early
    · obtain rfl := Option.some.inj (owned.symm.trans same)
      exact apart event member _ owns
  · intro lease other storedLater activeLease ownedLease own
    refine State.get?_of_get?_play storedLater activeLease fun event member found same => ?_
    obtain rfl := Option.some.inj (ownedLease.symm.trans same)
    exact apart event member _ own

/-- An address of the pools is recorded as a lease of the kind that the client asks for. -/
theorem Serves.isSameKind_of_mem_trials {now : Instant}
    (serves : Serves topology request mode now attempt) (accepted : topology.Accepted)
    {cursors : PoolCursors} {leases : List Lease}
    (member : target ∈ attempt.trials around cursors limit leases)
    (recognizable : request.kind = .block → target.length < attempt.subnet.family.width)
    (version : Nat) : attempt.isSameKind (attempt.lease target version) = true := by
  obtain ⟨pool, eligible, same, -⟩ :=
    Attempt.exists_pool_of_mem_trials (fun pool => serves.isSound accepted) member
  have searched : pool ∈ attempt.pools := (List.mem_filter.mp eligible).1
  change (decide (target.length < attempt.subnet.family.width) ==
    (attempt.request.kind == .block)) = true
  unfold Attempt.pools at searched
  cases kind : attempt.request.kind with
  | address =>
    rw [kind] at searched
    obtain ⟨-, addresses, family⟩ := (serves.hasSoundPools accepted).addresses pool searched
    have length : target.length = attempt.subnet.family.width := by
      rw [same, ← family]
      simp [Attempt.ofPool, Pool.leaseLength, addresses]
    simp [length]
  | block =>
    rw [serves.request_eq] at kind
    simp [recognizable kind]

/-- A request is made again that an attempt has provided a grant for, before the lease of the grant is
over. Nothing is locked either time, and the client has been left undisturbed in between. -/
structure Repeats (topology : Topology) (request : Request) (limit : Option Nat)
    (owners : List Identifier) (attempt : Attempt) (target : Target) (around again : Surroundings)
    (scene after later : Scene) (grant : Grant) : Prop where
  /-- The attempt was made for the request. -/
  serves : Serves topology request .commit around.now attempt
  /-- The client has these owners. -/
  known : owners? request (topology.select request).candidates = some owners
  /-- The attempt provided the grant. -/
  provides : Provides topology attempt around scene limit (owners.flatMap scene.store.ofOwner)
    target grant after
  /-- The request is made again later. -/
  forward : around.now ≤ again.now
  /-- The lease is not over. -/
  inTime : again.now < grant.lease.expiresAt
  /-- Others have not touched the leases of the client. -/
  undisturbed : Undisturbed request grant after.store later.store
  /-- Nothing was locked. -/
  unlocked : scene.locks = .none
  /-- Nothing is locked. -/
  unlockedLater : later.locks = .none

namespace Repeats

variable {owners : List Identifier} {scene after later : Scene}
  (repeats : Repeats topology request limit owners attempt target around again scene after later
    grant)
include repeats

/-- The lease of the grant is still held by the client. -/
theorem isHeld : grant.lease.isActive again.now = true ∧ grant.lease.owner = some attempt.owner := by
  obtain ⟨version, lease⟩ := repeats.provides.exists_lease
  have active : grant.lease.state = .active := by rw [lease]; rfl
  rw [Lease.isActive_iff]
  exact ⟨⟨active, repeats.inTime⟩, by rw [lease]; rfl⟩

/-- What is stored for the address is the lease of the grant. -/
theorem stored : later.store.get? target.address = some grant.lease := by
  have kept := repeats.undisturbed.kept
  rw [repeats.provides.address] at kept
  exact kept

/-- To the client the address is one that it holds. -/
theorem standing :
    (attempt.postpone again.now).standing (later.store.get? target.address) = .held := by
  obtain ⟨active, owned⟩ := repeats.isHeld
  rw [repeats.stored]
  exact Attempt.standing_of_held active owned

/-- What the client holds later, besides the lease of the grant, it held when that was granted. -/
theorem holds_before {lease : Lease}
    (holds : (attempt.postpone again.now).Holds later.store lease)
    (different : lease.address ≠ grant.lease.address) : attempt.Holds scene.store lease := by
  obtain ⟨made, commits⟩ := repeats.serves.now_mode
  obtain ⟨active, alive⟩ := (lease.isActive_iff again.now).mp holds.active
  have before : after.store.get? lease.address = some lease :=
    repeats.undisturbed.old holds.stored active holds.owned repeats.serves.owns
  rw [repeats.provides.get?_after commits, if_neg different] at before
  have held : lease.isActive attempt.now = true := by
    rw [lease.isActive_iff, made]
    exact ⟨active, Nat.lt_of_le_of_lt repeats.forward alive⟩
  exact ⟨before, held, holds.owned, holds.subnet, holds.kind⟩

variable (accepted : topology.Accepted)
  (first : firstAdmitted topology attempt scene
    (attempt.trials around scene.cursors limit (owners.flatMap scene.store.ofOwner)) = some target)
include accepted first

/-- A lease that was found for the client is later among those that it holds in the subnet, if it can
be recognized. -/
theorem holds_again (recognizable : IsRecognizable topology request grant) :
    (attempt.postpone again.now).Holds later.store grant.lease := by
  obtain ⟨version, lease⟩ := repeats.provides.exists_lease
  obtain ⟨active, owned⟩ := repeats.isHeld
  have subnet : attempt.subnet.id = grant.subnet := repeats.provides.subnet.symm
  have length : grant.lease.length = target.length := by rw [lease]; rfl
  have shorter (block : request.kind = .block) :
      target.length < attempt.subnet.family.width := by
    rw [← length]
    exact recognizable block attempt.candidate repeats.serves.selected subnet
  have kind : attempt.isSameKind grant.lease = true := by
    rw [lease]
    exact repeats.serves.isSameKind_of_mem_trials accepted (of_firstAdmitted first).1 shorter
      version
  exact ⟨repeats.undisturbed.kept, active, owned, by rw [lease]; rfl, kind⟩

/-- An address that was found for the client is the first that it can renew later. Were there an
earlier one, the client would have held its lease before, and would have renewed that. -/
theorem finds_again (holds : (attempt.postpone again.now).Holds later.store grant.lease) :
    firstAdmitted topology (attempt.postpone again.now) later
      ((attempt.postpone again.now).trials again later.cursors limit
        (owners.flatMap later.store.ofOwner)) = some target := by
  have placed := repeats.provides.address
  have distinct := nodup_owners? repeats.known
  have listed : attempt.owner ∈ owners := repeats.serves.owner_mem repeats.known
  obtain ⟨member, admittedFirst⟩ := of_firstAdmitted first
  have usable : attempt.target? target.address = some target :=
    repeats.serves.target?_of_mem_trials accepted member
  have usableLater : (attempt.postpone again.now).target? grant.lease.address = some target := by
    rw [placed]
    exact usable
  have admitted : (attempt.postpone again.now).admits topology later grant.lease.address = true := by
    obtain ⟨unkept, -⟩ := Attempt.admits_eq_true_iff.mp admittedFirst
    rw [holds.admits repeats.unlockedLater, placed, Bool.not_eq_true']
    exact unkept
  have listedLater : (attempt.postpone again.now).owner ∈ owners := listed
  obtain ⟨least, found, firstLater, holdsLeast, usableLeast, admittedLeast, below⟩ :=
    exists_first_of_holds again limit distinct listedLater holds usableLater admitted
  have same : least.address = target.address := by
    by_cases here : least.address = grant.lease.address
    · exact here.trans placed
    · have before : attempt.Holds scene.store least := repeats.holds_before holdsLeast here
      have admittedBefore : attempt.admits topology scene least.address = true := by
        rw [holdsLeast.admits repeats.unlockedLater] at admittedLeast
        rw [before.admits repeats.unlocked]
        exact admittedLeast
      obtain ⟨other, foundBefore, firstBefore, -, usableOther, -, above⟩ :=
        exists_first_of_holds around limit distinct listed before usableLeast admittedBefore
      obtain rfl : foundBefore = target := Option.some.inj (firstBefore.symm.trans first)
      rw [placed] at below
      rw [← Attempt.address_of_target? usableOther] at above
      exact Address.rank_injective (Nat.le_antisymm below above)
  rw [same] at usableLeast
  obtain rfl : found = target := Option.some.inj (usableLeast.symm.trans usable)
  exact firstLater

omit first in
/-- The address that was chosen is chosen again. -/
theorem chooses_again
    (recognizable : grant.kind ≠ .reserved → IsRecognizable topology request grant) :
    ∃ kind, (kind = .renewed ∨ kind = .reserved) ∧
      Chooses topology (attempt.postpone again.now) again later limit
        (owners.flatMap later.store.ofOwner) target kind := by
  have standing := repeats.standing
  have chosen := repeats.provides.chosen
  generalize grant.kind = kind at chosen recognizable
  cases chosen with
  | fixed fixed =>
    have free : later.locks.isLocked target.address = false := by
      rw [repeats.unlockedLater]
      rfl
    have may : (attempt.postpone again.now).mayHave (later.store.get? target.address) = true := by
      simp [Attempt.mayHave, standing]
    exact ⟨.reserved, .inr rfl, .fixed fixed free may⟩
  | found unfixed first =>
    have holds := repeats.holds_again accepted first
      (recognizable (Attempt.kindOf_ne_reserved _))
    have found : Chooses topology (attempt.postpone again.now) again later limit
        (owners.flatMap later.store.ofOwner) target
        ((attempt.postpone again.now).kindOf (later.store.get? target.address)) :=
      .found unfixed (repeats.finds_again accepted first holds)
    have renewed : (attempt.postpone again.now).kindOf (later.store.get? target.address) =
        .renewed := by
      simp [Attempt.kindOf, standing]
    rw [renewed] at found
    exact ⟨.renewed, .inl rfl, found⟩

omit accepted first in
/-- The subnet of the grant is searched first, when the client held no lease in an earlier one after
the grant. -/
theorem prefers (notEarlier : ¬ HoldsEarlier topology request after.store again.now grant) :
    ∃ others, ((topology.select request).prefer
      (holdsIn (owners.flatMap later.store.ofOwner) again.now)).candidates =
        attempt.candidate :: others := by
  have subnet : attempt.candidate.subnet.id = grant.subnet := repeats.provides.subnet.symm
  have held : holdsIn (owners.flatMap later.store.ofOwner) again.now attempt.candidate = true := by
    obtain ⟨version, lease⟩ := repeats.provides.exists_lease
    obtain ⟨active, owned⟩ := repeats.isHeld
    have listed : attempt.owner ∈ owners := repeats.serves.owner_mem repeats.known
    rw [holdsIn_iff]
    exact ⟨grant.lease, repeats.undisturbed.kept, active, by rw [lease]; rfl, attempt.owner, listed,
      owned⟩
  refine Topology.prefer_eq_cons (topology.distinct_select request) repeats.serves.selected held ?_
  intro other before
  rw [subnet] at before
  rw [← Bool.not_eq_true]
  intro heldThere
  obtain ⟨lease, stored, active, there, owner, listed, owned⟩ := (holdsIn_iff _ _ _ _).mp heldThere
  obtain ⟨_, -, owns⟩ := (mem_owners?_iff repeats.known owner).mp listed
  have own : request.identifiers.Owns owner := ⟨_, owns⟩
  obtain ⟨state, -⟩ := (lease.isActive_iff again.now).mp active
  have old : after.store.get? lease.address = some lease :=
    repeats.undisturbed.old stored state owned own
  exact notEarlier ⟨other, before, lease, old, active, there, owner, own, owned⟩

end Repeats

end Engine

end Leasehold
