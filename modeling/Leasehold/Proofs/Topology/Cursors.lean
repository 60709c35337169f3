import Leasehold.Proofs.Engine.Priority
import Leasehold.Proofs.Topology.Delegations
import Leasehold.Proofs.Topology.Matching

/-!
# Where the walks through pools begin

A cursor remembers where the next walk through a pool of a subnet begins: behind the candidate that
was handed out last. It goes by the subnet and the first address of the pool, so that it is shared by
an address pool and a pool of delegated blocks which begin at the same address. Whichever of the two
was picked from last decides about both, and nothing else does (`walk_start_spec`). The walks are
those of the engine in a subnet whose allocator is iterative (`run_walkStart_bind`), and the picks
are the steps at which its walks end with a grant (`cursorsAfter_eq_after`).
-/
namespace Leasehold

open Engine (Surroundings Scene walkStart run_walkStart)

/-- A candidate that was handed out. -/
structure Pick where
  /-- The subnet. -/
  subnet : Subnet
  /-- The pool that the candidate belongs to. -/
  pool : Pool
  /-- The number of the candidate in its pool. -/
  index : Nat

namespace Pick

/-- What the cursor of the pool belongs to. -/
def cursorKey (pick : Pick) : CursorKey := pick.pool.cursorKey pick.subnet.id

/-- A candidate of a pool of the topology was handed out. -/
structure IsIn (pick : Pick) (topology : Topology) : Prop where
  /-- The subnet is one of the topology. -/
  member : pick.subnet ∈ topology.subnets
  /-- The pool is one of the subnet. -/
  listed : pick.pool ∈ pick.subnet.pools ++ pick.subnet.delegatedPools
  /-- The number is that of a candidate. -/
  inside : pick.index < pick.pool.capacity

/-- The candidate belongs to the pool. -/
structure IsFrom (pick : Pick) (subnet : Subnet) (pool : Pool) : Prop where
  /-- The subnet is the one of the pool. -/
  subnet : pick.subnet = subnet
  /-- The pool is the same. -/
  pool : pick.pool = pool

/-- The candidate belongs to another pool of the subnet, which begins at the same address. -/
structure IsFromTwin (pick : Pick) (subnet : Subnet) (pool : Pool) : Prop where
  /-- The subnet is the one of the pool. -/
  subnet : pick.subnet = subnet
  /-- The pool is another one. -/
  other : pick.pool ≠ pool
  /-- Both pools begin at the same address. -/
  first : pick.pool.first = pool.first

/-- The candidate belongs to the pool, or to another one that begins at the same address. -/
def MovesCursor (pick : Pick) (subnet : Subnet) (pool : Pool) : Prop :=
  pick.IsFrom subnet pool ∨ pick.IsFromTwin subnet pool

/-- The subnets of an accepted topology are told apart by their numbers, so that a pick moves the
cursor of a pool exactly when it has the key of that cursor. -/
theorem movesCursor_iff {topology : Topology} (accepted : topology.Accepted) {pick : Pick}
    (handedOut : pick.IsIn topology) {subnet : Subnet} (member : subnet ∈ topology.subnets)
    (pool : Pool) : pick.MovesCursor subnet pool ↔ pick.cursorKey = pool.cursorKey subnet.id := by
  constructor
  · rintro (⟨rfl, rfl⟩ | ⟨rfl, -, first⟩)
    · rfl
    · exact Prod.ext rfl first
  · intro same
    obtain ⟨id, first⟩ := Prod.mk.inj same
    have found := accepted.subnet?_eq_some handedOut.member
    rw [id, accepted.subnet?_eq_some member] at found
    have subnet := (Option.some.inj found).symm
    by_cases own : pick.pool = pool
    · exact .inl ⟨subnet, own⟩
    · exact .inr ⟨subnet, own, first⟩

end Pick

namespace Pool

/-- The number after that of a candidate is one, unless it goes round. -/
theorem following_of_lt {pool : Pool} {index : Nat} (inside : index < pool.capacity) :
    pool.following index = if index + 1 = pool.capacity then 0 else index + 1 := by
  unfold following
  by_cases last : index + 1 = pool.capacity
  · rw [if_pos last, if_pos (Nat.le_of_eq last.symm)]
  · have short : ¬ pool.capacity ≤ index + 1 := by omega
    rw [if_neg last, if_neg short]

/-- What follows a candidate is one. -/
theorem following_lt (pool : Pool) (index : Nat) : pool.following index < pool.capacity := by
  have positive := pool.capacity_pos
  unfold following
  split <;> omega

end Pool

/-- Pools of a subnet that begin at the same address hand out different kinds of candidates, unless
they are the same. -/
theorem Subnet.HasSoundPools.handsOutBlocks_eq {subnet : Subnet} (sound : subnet.HasSoundPools)
    {left right : Pool} (inLeft : left ∈ subnet.pools ++ subnet.delegatedPools)
    (inRight : right ∈ subnet.pools ++ subnet.delegatedPools) (different : left ≠ right)
    (first : left.first = right.first) : left.handsOutBlocks = !right.handsOutBlocks := by
  have clash {pools : List Pool} (apart : Pool.AreApart pools)
      (ordered : ∀ pool ∈ pools, pool.IsSound) (leftMember : left ∈ pools)
      (rightMember : right ∈ pools) : False := by
    have containsLeft := Pool.contains_first (ordered left leftMember)
    have containsRight := Pool.contains_first (ordered right rightMember)
    rw [← first] at containsRight
    exact different (apart.eq_of_contains leftMember rightMember containsLeft containsRight)
  have ofAddresses {pool : Pool} (member : pool ∈ subnet.pools) : pool.handsOutBlocks = false := by
    unfold Pool.handsOutBlocks
    rw [(sound.addresses pool member).2.1]
  have ofBlocks {pool : Pool} (member : pool ∈ subnet.delegatedPools) :
      pool.handsOutBlocks = true := by
    obtain ⟨-, ⟨length, kind⟩, -⟩ := sound.blocks pool member
    unfold Pool.handsOutBlocks
    rw [kind]
  rcases List.mem_append.mp inLeft with leftAddresses | leftBlocks <;>
    rcases List.mem_append.mp inRight with rightAddresses | rightBlocks
  · exact (clash sound.apart (fun pool member => (sound.addresses pool member).1) leftAddresses
      rightAddresses).elim
  · rw [ofAddresses leftAddresses, ofBlocks rightBlocks]
    rfl
  · rw [ofBlocks leftBlocks, ofAddresses rightAddresses]
    rfl
  · exact (clash sound.blocksApart (fun pool member => (sound.blocks pool member).1) leftBlocks
      rightBlocks).elim

/-- The candidate that was handed out, when a walk came to the address. -/
def Entry.pick? (entry : Entry) (subnet : Subnet) : Option Pick :=
  entry.step.map fun (pool, index) => ⟨subnet, pool, index⟩

namespace PoolCursors

/-- The cursors after candidates were handed out, one after another. -/
def after (cursors : PoolCursors) (picks : List Pick) : PoolCursors :=
  picks.foldl (fun cursors pick => cursors.picked pick.subnet.id pick.pool pick.index) cursors

/-- The next walk through a pool that goes on where the last one ended. -/
def walk (cursors : PoolCursors) (subnet : SubnetId) (pool : Pool) (limit : Option Nat) : PoolWalk :=
  .ofPool pool (cursors.next (pool.cursorKey subnet)) limit

/-- An attempt in an iterative subnet goes through a pool by the next walk. -/
theorem ofPool_walkStart {attempt : Attempt}
    (iterative : attempt.candidate.params.allocator = .iterative) (around : Surroundings)
    (cursors : PoolCursors) (pool : Pool) (limit : Option Nat) :
    PoolWalk.ofPool pool (attempt.walkStart around cursors pool) limit =
      cursors.walk attempt.subnet.id pool limit := by
  unfold Attempt.walkStart walk
  rw [iterative]

/-- So does the engine when it comes to the pool, whatever it does with the walk. -/
theorem run_walkStart_bind {α : Type} {attempt : Attempt}
    (iterative : attempt.candidate.params.allocator = .iterative) (around : Surroundings)
    (scene : Scene) (pool : Pool) (limit : Option Nat) (rest : PoolWalk → Engine.Task α) :
    scene.run around (walkStart attempt pool >>= fun start => rest (.ofPool pool start limit)) =
      scene.run around (rest (scene.cursors.walk attempt.subnet.id pool limit)) := by
  rw [Scene.run_bind_ok (run_walkStart pool), ofPool_walkStart iterative]

/-- A grant moves the cursors as its pick does. -/
theorem cursorsAfter_eq_after (entry : Entry) (subnet : Subnet) (cursors : PoolCursors) :
    entry.cursorsAfter subnet.id cursors = cursors.after (entry.pick? subnet).toList := by
  unfold Entry.cursorsAfter Entry.pick?
  cases entry.step <;> rfl

/-- Picks that belong to other cursors do not move one. -/
theorem next_after_of_ne {key : CursorKey} (picks : List Pick)
    (others : ∀ pick ∈ picks, pick.cursorKey ≠ key) (cursors : PoolCursors) :
    (cursors.after picks).next key = cursors.next key := by
  induction picks generalizing cursors with
  | nil => rfl
  | cons pick rest ih =>
    have passed : key ≠ pick.cursorKey := (others pick List.mem_cons_self).symm
    have later := ih (fun other member => others other (List.mem_cons_of_mem pick member))
      (cursors.picked pick.subnet.id pick.pool pick.index)
    exact later.trans ((next_set _ _ _ _).trans (if_neg passed))

/-- The last pick that belongs to a cursor says where it is. -/
theorem next_after_of_last (cursors : PoolCursors) (earlier : List Pick) (last : Pick)
    {later : List Pick} (others : ∀ pick ∈ later, pick.cursorKey ≠ last.cursorKey) :
    (cursors.after (earlier ++ last :: later)).next last.cursorKey =
      last.pool.following last.index := by
  unfold after
  rw [List.foldl_append, List.foldl_cons]
  exact (next_after_of_ne later others _).trans ((next_set _ _ _ _).trans (if_pos rfl))

section Walks

variable {topology : Topology} (accepted : topology.Accepted) {picks : List Pick}
  (handedOut : ∀ pick ∈ picks, pick.IsIn topology) {subnet : Subnet}
  (member : subnet ∈ topology.subnets) {pool : Pool}
include accepted handedOut member

/-- A walk begins with the first number as long as no pick has moved the cursor of the pool. -/
theorem start_of_idle (idle : ∀ pick ∈ picks, ¬ pick.MovesCursor subnet pool)
    (limit : Option Nat) : ((none.after picks).walk subnet.id pool limit).start = 0 := by
  have others (pick : Pick) (inside : pick ∈ picks) :
      pick.cursorKey ≠ pool.cursorKey subnet.id :=
    mt (Pick.movesCursor_iff accepted (handedOut pick inside) member pool).mpr (idle pick inside)
  have next := next_after_of_ne picks others none
  exact (congrArg (· % pool.capacity) next).trans (Nat.zero_mod _)

/-- The last pick that has moved the cursor of the pool decides where a walk begins. -/
theorem start_of_last {earlier later : List Pick} {last : Pick}
    (split : picks = earlier ++ last :: later) (moves : last.MovesCursor subnet pool)
    (idle : ∀ pick ∈ later, ¬ pick.MovesCursor subnet pool) (limit : Option Nat) :
    ((none.after picks).walk subnet.id pool limit).start =
      last.pool.following last.index % pool.capacity := by
  subst split
  have inside : last ∈ earlier ++ last :: later := List.mem_append_right _ List.mem_cons_self
  have key : last.cursorKey = pool.cursorKey subnet.id :=
    (Pick.movesCursor_iff accepted (handedOut last inside) member pool).mp moves
  have others (pick : Pick) (behind : pick ∈ later) : pick.cursorKey ≠ last.cursorKey := by
    have listed := handedOut pick (List.mem_append_right _ (List.mem_cons_of_mem last behind))
    rw [key]
    exact mt (Pick.movesCursor_iff accepted listed member pool).mpr (idle pick behind)
  have next := next_after_of_last none earlier last others
  rw [key] at next
  exact congrArg (· % pool.capacity) next

/-- Where the next walk through a pool begins, after candidates of the pools of an accepted topology
were handed out. As long as none of them belongs to the pool or to another one of its subnet that
begins at the same address, this is the first number. Otherwise the last such pick decides. When it
is from the pool itself, the walk begins right behind it, and goes round to the first number after
the last one. When it is from the other pool, the walk begins behind its number there, which is cut
to the capacity of this pool. The other pool hands out blocks when this one hands out addresses, and
addresses when this one hands out blocks. -/
theorem walk_start_spec (listed : pool ∈ subnet.pools ++ subnet.delegatedPools)
    (limit : Option Nat) :
    let start := ((none.after picks).walk subnet.id pool limit).start
    ((∀ pick ∈ picks, ¬ pick.MovesCursor subnet pool) → start = 0) ∧
    (∀ earlier last later, picks = earlier ++ last :: later →
      (∀ pick ∈ later, ¬ pick.MovesCursor subnet pool) →
      (last.IsFrom subnet pool →
        start = if last.index + 1 = pool.capacity then 0 else last.index + 1) ∧
      (last.IsFromTwin subnet pool →
        start = last.pool.following last.index % pool.capacity)) ∧
    ∀ pick ∈ picks, pick.IsFromTwin subnet pool →
      pick.pool.handsOutBlocks = !pool.handsOutBlocks := by
  intro start
  refine ⟨fun idle => start_of_idle accepted handedOut member idle limit,
    fun earlier last later split idle => ⟨fun own => ?_, fun twin => ?_⟩,
    fun pick inside twin => ?_⟩
  · have inside : last ∈ picks := by
      rw [split]
      exact List.mem_append_right _ List.mem_cons_self
    have counted : last.index < pool.capacity := own.pool ▸ (handedOut last inside).inside
    calc start
      _ = last.pool.following last.index % pool.capacity :=
        start_of_last accepted handedOut member split (.inl own) idle limit
      _ = pool.following last.index := by rw [own.pool, Nat.mod_eq_of_lt (pool.following_lt _)]
      _ = _ := Pool.following_of_lt counted
  · exact start_of_last accepted handedOut member split (.inr twin) idle limit
  · have found := (handedOut pick inside).listed
    rw [twin.subnet] at found
    exact (accepted.hasSoundPools member).handsOutBlocks_eq found listed twin.other twin.first

end Walks

end PoolCursors

/-! A subnet with an address pool and a pool of delegated blocks that begin at the same address. -/
namespace Sample

/-- The configuration. -/
def twinPools : Config :=
  { nestedPools with
    subnets := nestedPools.subnets.map fun subnet =>
      { subnet with
        pools := [⟨"::-::f", none, none⟩]
        delegatedPools := [⟨⟨firstWide, 62, by decide⟩, 64, none, none⟩] } }

/-- The topology that is built from the configuration. -/
def twins : Topology := (Topology.build twinPools 1).toOption.getD .empty

/-- The address pool. -/
def addressTwin : Pool := .ofRange firstWide (wide 15 (by decide))

/-- The pool of delegated blocks. -/
def blockTwin : Pool :=
  ⟨none, .blocks 64, firstWide, wide (3 * 2 ^ 64) (by decide), none⟩

/-- The pools are read as they are. -/
theorem exists_twin_subnet : ∃ subnet ∈ twins.subnets,
    subnet.pools = [addressTwin] ∧ subnet.delegatedPools = [blockTwin] := by
  decide +kernel

/-- The second address is followed by another one. -/
theorem following_second : 1 < addressTwin.capacity ∧ addressTwin.following 1 = 2 := by
  decide +kernel

end Sample

namespace PoolCursors

open Sample (twins addressTwin blockTwin)

/-- The conditions can be met: after the first block and then the second address were handed out, the
walk through the addresses begins with the third. -/
theorem walk_start_spec_of_second_address :
    ∃ subnet ∈ twins.subnets,
      let picks : List Pick := [⟨subnet, blockTwin, 0⟩, ⟨subnet, addressTwin, 1⟩]
      ((none.after picks).walk subnet.id addressTwin Option.none).start = 2 := by
  obtain ⟨subnet, member, pools, delegatedPools⟩ := Sample.exists_twin_subnet
  refine ⟨subnet, member, ?_⟩
  intro picks
  have addresses : addressTwin ∈ subnet.pools ++ subnet.delegatedPools := by
    rw [pools]
    exact List.mem_append_left _ List.mem_cons_self
  have blocks : blockTwin ∈ subnet.pools ++ subnet.delegatedPools := by
    rw [delegatedPools]
    exact List.mem_append_right _ List.mem_cons_self
  have handedOut (pick : Pick) (inside : pick ∈ picks) : pick.IsIn twins := by
    rcases List.mem_pair.mp inside with rfl | rfl
    · exact ⟨member, blocks, blockTwin.capacity_pos⟩
    · exact ⟨member, addresses, Sample.following_second.1⟩
  obtain ⟨-, behind, -⟩ :=
    walk_start_spec (Topology.accepted_build _ _) handedOut member addresses Option.none
  have begins := (behind [⟨subnet, blockTwin, 0⟩] ⟨subnet, addressTwin, 1⟩ [] rfl
    (fun _ inside => absurd inside List.not_mem_nil)).1 ⟨rfl, rfl⟩
  exact begins.trans (if_neg (show ¬ 1 + 1 = addressTwin.capacity by decide +kernel))

/-- A walk through a pool from which nothing was handed out does not always begin with the first
number: here it begins with the third one, after the second address of another pool was handed out. -/
theorem start_moved_by_other_pool :
    ¬ ∀ (topology : Topology) (picks : List Pick) (subnet : Subnet) (pool : Pool)
      (limit : Option Nat), topology.Accepted → (∀ pick ∈ picks, pick.IsIn topology) →
      subnet ∈ topology.subnets → pool ∈ subnet.pools ++ subnet.delegatedPools →
      (∀ pick ∈ picks, ¬ pick.IsFrom subnet pool) →
      ((none.after picks).walk subnet.id pool limit).start = 0 := by
  intro apart
  obtain ⟨subnet, member, pools, delegatedPools⟩ := Sample.exists_twin_subnet
  let pick : Pick := ⟨subnet, addressTwin, 1⟩
  have addresses : addressTwin ∈ subnet.pools ++ subnet.delegatedPools := by
    rw [pools]
    exact List.mem_append_left _ List.mem_cons_self
  have blocks : blockTwin ∈ subnet.pools ++ subnet.delegatedPools := by
    rw [delegatedPools]
    exact List.mem_append_right _ List.mem_cons_self
  have other : addressTwin ≠ blockTwin := by decide +kernel
  have first := apart twins [pick] subnet blockTwin Option.none (Topology.accepted_build _ _)
    (List.forall_mem_singleton.mpr ⟨member, addresses, Sample.following_second.1⟩)
    member blocks
    (List.forall_mem_singleton.mpr fun own => other own.pool)
  have next : (none.after [pick]).next pick.cursorKey = 2 :=
    (next_after_of_last none [] pick fun _ inside => absurd inside List.not_mem_nil).trans
      Sample.following_second.2
  have begins : ((none.after [pick]).walk subnet.id blockTwin Option.none).start =
      2 % blockTwin.capacity := congrArg (· % blockTwin.capacity) next
  exact absurd (first.symm.trans begins) (by decide +kernel)

end PoolCursors

end Leasehold
