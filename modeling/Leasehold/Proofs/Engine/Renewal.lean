import Mathlib.Algebra.Group.Nat.Defs
import Leasehold.Proofs.Engine.Locks
import Leasehold.Proofs.Engine.Repetition

/-!
# Repeating a request

A client that repeats its request before its lease is over gets the same address again, whatever
other clients have done in between. Two conditions are needed. A delegated block has to be shorter
than the addresses of its subnet, because that is how the leases of the two kinds are told apart; and
the client must not hold a lease, of whichever kind, in a subnet that is selected before the one of
its address, because that subnet is searched first (`renewal_stable`). Without either of them the
client can be moved to another address (`moved_to_another_block`, `moved_to_another_subnet`).
-/
namespace Leasehold.Engine

section Repeating

variable {topology : Topology} {request : Request} {limit : Option Nat} {attempt : Attempt}
  {around again : Surroundings} {grant : Grant} {target : Target}

/-- What is promised of a grant that a client gets when it repeats its request. -/
structure Renews (topology : Topology) (request : Request) (now : Instant)
    (grant renewed : Grant) : Prop where
  /-- The client gets the same address. -/
  address : renewed.lease.address = grant.lease.address
  /-- A block is as long as before. -/
  length : renewed.lease.length = grant.lease.length
  /-- It is not a new lease. -/
  kind : renewed.kind = .renewed ∨ renewed.kind = .reserved
  /-- The lifetimes are those that the request leads to in its subnet. -/
  lifetimes : ∃ candidate ∈ (topology.select request).candidates,
    candidate.subnet.id = renewed.subnet ∧
      renewed.lifetimes = candidate.params.leaseTime.determine request.lifetime
  /-- The lease is valid for that time from the repetition on. -/
  expiresAt : renewed.lease.expiresAt = now + renewed.lifetimes.valid

/-- What an attempt grants at another instant, for the same address, renews the grant. -/
theorem renews_of_postpone {version : Nat} {record : Option Lease} {kind : GrantKind}
    {now instant : Instant} (serves : Serves topology request .commit now attempt)
    (lease : grant.lease = attempt.lease target version)
    (notNew : kind = .renewed ∨ kind = .reserved) :
    Renews topology request instant grant
      ((attempt.postpone instant).grantOf target kind record) := by
  obtain ⟨later, issued⟩ := (attempt.postpone instant).exists_issued target record
  have renewed : ((attempt.postpone instant).grantOf target kind record).lease =
      (attempt.postpone instant).lease target later := issued
  have lifetimes : attempt.lifetimes =
      attempt.candidate.params.leaseTime.determine request.lifetime := by
    unfold Attempt.lifetimes
    rw [serves.request_eq]
  constructor
  · rw [renewed, lease]
    rfl
  · rw [renewed, lease]
    rfl
  · exact notNew
  · exact ⟨attempt.candidate, serves.selected, rfl, lifetimes⟩
  · rw [renewed]
    rfl

/-- A request that is granted and repeated before the lease is over gets the same address again,
with a new lifetime, whatever operations strangers carry out in between. Nothing may be locked, and
no review may turn the lease down. A block has to be recognizable by its length, unless it is
reserved, and the client must not hold a lease in a subnet that is selected before the one of its
address. -/
theorem renewal_stable (accepted : topology.Accepted) {state : State}
    (unlocked : state.locks = .none)
    (granted : (state.run around (allocate topology request .commit limit)).1 = .ok grant)
    {between : List Event}
    (strangers : ∀ event ∈ between, ∀ ids, event.operation.client? = some ids →
      request.identifiers.AreStrangers ids)
    (meanwhile : ∀ event ∈ between, event.around.now < grant.lease.expiresAt)
    (forward : around.now ≤ again.now) (inTime : again.now < grant.lease.expiresAt)
    (unreviewed : ∀ request lease mode, again.review request lease mode = true)
    (recognizable : grant.kind ≠ .reserved → IsRecognizable topology request grant) :
    let after := (state.run around (allocate topology request .commit limit)).2
    ¬ HoldsEarlier topology request after.store again.now grant →
    ∃ renewed, ((after.play between).run again (allocate topology request .commit limit)).1 =
        .ok renewed ∧ Renews topology request again.now grant renewed := by
  intro after notEarlier
  have ran : state.scene.run around (allocate topology request .commit limit) =
      (.ok grant, after.scene) := State.scene_run granted
  obtain ⟨owners, attempt, target, known, serves, provides⟩ := exists_of_run_allocate ran
  obtain ⟨version, lease⟩ := provides.exists_lease
  obtain ⟨-, commits⟩ := serves.now_mode
  have stored : after.store.get? grant.lease.address = some grant.lease := by
    have recorded := provides.get?_after commits grant.lease.address
    rw [if_pos rfl] at recorded
    exact recorded
  have owned : grant.lease.owner = some attempt.owner := by rw [lease]; rfl
  have active : grant.lease.state = .active := by rw [lease]; rfl
  have undisturbed : Undisturbed request grant after.scene.store (after.play between).scene.store :=
    undisturbed_play stored active owned serves.owns strangers meanwhile
  have unlockedLater : (after.play between).scene.locks = .none :=
    (after.locks_play between).trans (provides.locks.trans unlocked)
  have repeats : Repeats topology request limit owners attempt target around again state.scene
      after.scene (after.play between).scene grant :=
    ⟨serves, known, provides, forward, inTime, undisturbed, unlocked, unlockedLater⟩
  obtain ⟨kind, notNew, chosen⟩ := repeats.chooses_again accepted recognizable
  have ranAgain := run_allocate_of_first (serves.postpone again.now) known
    (repeats.prefers notEarlier) chosen (unreviewed _ _ _)
  rw [← ((after.play between).run_scene again (allocate topology request .commit limit)).1]
    at ranAgain
  exact ⟨_, ranAgain, renews_of_postpone serves lease notNew⟩

end Repeating

/-- Two clients of the small network present different hardware addresses. -/
theorem Sample.areStrangers {left right : UInt8} (different : left ≠ right) :
    (client left).AreStrangers (client right) := by
  intro ⟨kind, value⟩ first second
  cases kind with
  | hwAddress =>
    have presented : [left] = value := by
      simpa [client, ClientIdentifiers.presents, ClientIdentifiers.get?] using first
    have alsoPresented : [right] = value := by
      simpa [client, ClientIdentifiers.presents, ClientIdentifiers.get?] using second
    exact different (List.cons.inj (presented.trans alsoPresented.symm)).1
  | _ => simp [client, ClientIdentifiers.presents, ClientIdentifiers.get?] at first

/-- An allocation for another client is one that strangers carry out. -/
theorem Sample.strangers_leases {first second : UInt8} (different : first ≠ second)
    (now : Instant) :
    ∀ event ∈ [leases second now], ∀ ids, event.operation.client? = some ids →
      (request first).identifiers.AreStrangers ids := by
  intro event member ids asks
  obtain rfl := List.mem_singleton.mp member
  obtain rfl := Option.some.inj asks
  exact areStrangers different

/-- The conditions can be met: the first client holds the only address of the small network, the
second one asks for it in vain, and the first renews its lease. -/
theorem renewal_stable_of_first_client :
    let task := allocate Sample.topology (Sample.request 1) .commit none
    let after := (State.initial.run (Sample.around 0) task).2
    ∃ renewed, ((after.play [Sample.leases 2 2]).run (Sample.around 5) task).1 = .ok renewed ∧
      renewed.lease.address = Sample.address ∧
      (renewed.kind = .renewed ∨ renewed.kind = .reserved) := by
  dsimp only
  have known : (State.initial.run (Sample.around 0)
      (allocate Sample.topology (Sample.request 1) .commit none)).1.toOption.map
        (fun grant => (grant.lease, grant.subnet)) = some (Sample.lease 1 0 1, 1) := by
    decide +kernel
  have alone : (Sample.topology.select (Sample.request 1)).candidates.takeWhile
      (·.subnet.id != 1) = [] := by decide +kernel
  obtain ⟨grant, granted, same⟩ := ok_of_toOption known
  obtain ⟨lease, subnet⟩ := Prod.mk.inj same
  have notEarlier (store : Store) : ¬ HoldsEarlier Sample.topology (Sample.request 1) store
      (Sample.around 5).now grant := by
    rintro ⟨candidate, before, -⟩
    rw [subnet, alone] at before
    exact absurd before List.not_mem_nil
  have later : (Sample.around 5).now < grant.lease.expiresAt := by
    rw [lease]
    decide
  have accepted : Sample.topology.Accepted := Topology.accepted_build _ _
  have strangers := Sample.strangers_leases (show (1 : UInt8) ≠ 2 by decide) 2
  have meanwhile : ∀ event ∈ [Sample.leases 2 2], event.around.now < grant.lease.expiresAt := by
    rw [lease]
    decide
  obtain ⟨renewed, ran, renews⟩ := renewal_stable accepted rfl granted strangers meanwhile
    (by decide) later (fun _ _ _ => rfl) (fun _ => nofun) (notEarlier _)
  have address := renews.address
  rw [lease] at address
  exact ⟨renewed, ran, address, renews.kind⟩

/-- What `renewal_stable` says of the address, under another condition on the grant and on the store
right after it. -/
def StableUnder (condition : Topology → Request → Store → Instant → Grant → Prop) : Prop :=
  ∀ (topology : Topology) (state : State) (request : Request) (around again : Surroundings)
    (grant : Grant) (between : List Event),
    topology.Accepted → state.locks = .none →
    (state.run around (allocate topology request .commit none)).1 = .ok grant →
    (∀ event ∈ between, ∀ ids, event.operation.client? = some ids →
      request.identifiers.AreStrangers ids) →
    (∀ event ∈ between, event.around.now < grant.lease.expiresAt) →
    around.now ≤ again.now → again.now < grant.lease.expiresAt →
    (∀ request lease mode, again.review request lease mode = true) →
    let after := (state.run around (allocate topology request .commit none)).2
    condition topology request after.store again.now grant →
    ∃ renewed, ((after.play between).run again (allocate topology request .commit none)).1 =
        .ok renewed ∧ renewed.lease.address = grant.lease.address

namespace Sample

/-- A subnet of the second family from which blocks are delegated. -/
def delegating (id : UInt32) (block : Block) (pools : List Config.Pool) (delegated : Block)
    (length : UInt8) : Config.Subnet where
  id := id
  block := block
  pools := pools
  delegatedPools := [⟨delegated, length, none, none⟩]
  clientClass := none
  reservations := []
  params := { Config.Params.unset with
    reservationMode := some .disabled
    interface := some "lan" }

/-- A block of the second family, by the number of its address. -/
def blockAt (value length : Nat) : Block :=
  ⟨⟨.v6, value % Family.v6.size, Nat.mod_lt _ Family.v6.size_pos⟩, min length Family.v6.width,
    Nat.min_le_right _ _⟩

/-- A subnet that delegates four blocks, which are as long as single addresses. -/
def longBlocks : Topology :=
  (Topology.build { config with
    subnets := [delegating 1 ⟨⟨.v6, 0, by decide⟩, 64, by decide⟩ []
      ⟨⟨.v6, 2 ^ 64, by decide⟩, 126, by decide⟩ 128] } 1).toOption.getD .empty

/-- A network of two subnets that delegate one block each. The first one also has an address to hand
out. -/
def network : Topology :=
  (Topology.build { config with
    subnets := []
    networks := [{
      name := "office"
      clientClass := none
      subnets := [
        delegating 1 ⟨⟨.v6, 0, by decide⟩, 64, by decide⟩ [⟨"::1-::1", none, none⟩]
          ⟨⟨.v6, 2 ^ 66, by decide⟩, 64, by decide⟩ 64,
        delegating 2 ⟨⟨.v6, 2 ^ 64, by decide⟩, 64, by decide⟩ []
          ⟨⟨.v6, 2 ^ 67, by decide⟩, 64, by decide⟩ 64]
      params := .unset }] } 1).toOption.getD .empty

/-- The client asks for a block. -/
def requestBlock (number : UInt8) : Request := { request number with kind := .block }

/-- An operation in the network. -/
def inNetwork (now : Instant) (operation : Operation) : Event :=
  ⟨{ around now with topology := network }, operation⟩

/-- The first client has the address of the first subnet, and the second client its block. -/
def bothServed : State :=
  State.initial.play [inNetwork 0 (.allocate (request 1) .commit none),
    inNetwork 0 (.allocate (requestBlock 2) .commit none)]

/-- The second client gives up the block. -/
def gaveUp : Event := inNetwork 2 (.release (client 2) ⟨.v6, 2 ^ 66, by decide⟩)

end Sample

/-- It is not enough that the client holds no lease in an earlier subnet: a block that is as long as
a single address is not recognized among the leases of the client, and the client is given another
one. -/
theorem moved_to_another_block :
    ¬ StableUnder fun topology request store now grant =>
      ¬ HoldsEarlier topology request store now grant := by
  intro stable
  let task := allocate Sample.longBlocks (Sample.requestBlock 1) .commit none
  have known : (State.initial.run (Sample.around 0) task).1.toOption.map
      (fun grant => (grant.lease.address.value, grant.lease.expiresAt, grant.subnet)) =
        some (2 ^ 64, 7200000, 1) := by
    decide +kernel
  have alone : (Sample.longBlocks.select (Sample.requestBlock 1)).candidates.takeWhile
      (·.subnet.id != 1) = [] := by decide +kernel
  have moved : ((State.initial.run (Sample.around 0) task).2.run
      (Sample.around 5) task).1.toOption.map (·.lease.address.value) = some (2 ^ 64 + 1) := by
    decide +kernel
  obtain ⟨grant, granted, found⟩ := ok_of_toOption known
  obtain ⟨address, rest⟩ := Prod.mk.inj found
  obtain ⟨expires, subnet⟩ := Prod.mk.inj rest
  have notEarlier (store : Store) : ¬ HoldsEarlier Sample.longBlocks (Sample.requestBlock 1) store
      (Sample.around 5).now grant := by
    rintro ⟨candidate, before, -⟩
    rw [subnet, alone] at before
    exact absurd before List.not_mem_nil
  have later : (Sample.around 5).now < grant.lease.expiresAt := by
    rw [expires]
    decide
  have accepted : Sample.longBlocks.Accepted := Topology.accepted_build _ _
  obtain ⟨renewed, ran, same⟩ := stable Sample.longBlocks State.initial (Sample.requestBlock 1)
    (Sample.around 0) (Sample.around 5) grant [] accepted rfl granted
    (fun _ member => absurd member List.not_mem_nil)
    (fun _ member => absurd member List.not_mem_nil) (by decide) later (fun _ _ _ => rfl)
    (notEarlier _)
  change ((State.initial.run (Sample.around 0) task).2.run (Sample.around 5) task).1 = _ at ran
  rw [ran] at moved
  have other : renewed.lease.address.value = 2 ^ 64 + 1 := Option.some.inj moved
  rw [same, address] at other
  exact absurd other (by decide)

/-- It is not enough that blocks are recognized: the client holds an address in the first subnet,
which is therefore searched before the second for the block of the client, and has a block to give
away as soon as another client gives it up. -/
theorem moved_to_another_subnet :
    ¬ StableUnder fun topology request _ _ grant => IsRecognizable topology request grant := by
  intro stable
  let task := allocate Sample.network (Sample.requestBlock 1) .commit none
  have known : (Sample.bothServed.run (Sample.around 0) task).1.toOption.map
      (fun grant => (grant.lease.address.value, grant.lease.expiresAt, grant.lease.length)) =
        some (2 ^ 67, 7200000, 64) := by
    decide +kernel
  have wide : ∀ candidate ∈ (Sample.network.select (Sample.requestBlock 1)).candidates,
      candidate.subnet.family.width = 128 := by decide +kernel
  have moved : (((Sample.bothServed.run (Sample.around 0) task).2.play [Sample.gaveUp]).run
      (Sample.around 5) task).1.toOption.map (·.lease.address.value) = some (2 ^ 66) := by
    decide +kernel
  have unlocked : Sample.bothServed.locks = .none := locks_play_initial _
  have strangers : ∀ event ∈ [Sample.gaveUp], ∀ ids, event.operation.client? = some ids →
      (Sample.requestBlock 1).identifiers.AreStrangers ids := by
    intro event member ids asks
    obtain rfl := List.mem_singleton.mp member
    obtain rfl := Option.some.inj asks
    exact Sample.areStrangers (by decide)
  obtain ⟨grant, granted, found⟩ := ok_of_toOption known
  obtain ⟨address, rest⟩ := Prod.mk.inj found
  obtain ⟨expires, length⟩ := Prod.mk.inj rest
  have recognizable : IsRecognizable Sample.network (Sample.requestBlock 1) grant := by
    intro _ candidate member _
    rw [wide candidate member, length]
    decide
  have meanwhile : ∀ event ∈ [Sample.gaveUp], event.around.now < grant.lease.expiresAt := by
    rw [expires]
    decide
  have later : (Sample.around 5).now < grant.lease.expiresAt := by
    rw [expires]
    decide
  have accepted : Sample.network.Accepted := Topology.accepted_build _ _
  obtain ⟨renewed, ran, same⟩ := stable Sample.network Sample.bothServed (Sample.requestBlock 1)
    (Sample.around 0) (Sample.around 5) grant [Sample.gaveUp] accepted
    unlocked granted strangers meanwhile (by decide) later (fun _ _ _ => rfl) recognizable
  rw [ran] at moved
  have other : renewed.lease.address.value = 2 ^ 66 := Option.some.inj moved
  rw [same, address] at other
  exact absurd other (by decide)

end Leasehold.Engine
