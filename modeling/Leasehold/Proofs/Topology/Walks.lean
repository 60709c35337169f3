import Mathlib.Data.List.Nodup
import Leasehold.Proofs.Topology.Indexing

/-!
# Walks that come round once

A walk through a pool visits as many numbers as it may, all below the capacity and no two the same:
those from its start on, and after the last one those from zero on (`walk_spec`). Wherever it
begins, a walk that visits as many numbers as the pool has visits every one.

The numbers are computed in 128 bits, and the sum of start and offset need not fit them. What the
walk does then is repeated here by the steps at which the program may stop, of which it stops at
none.
-/
namespace Leasehold

namespace PoolWalk

/-- The number that a walk visits at an offset from its start, by the steps at which the program may
stop. A sum that does not fit 128 bits lies behind the last candidate, too. -/
def wideIndex? (start capacity offset : Nat) : Option Nat :=
  match Wide.add? start offset with
  | some place => if place < capacity then some place else Wide.sub? place capacity
  | none => do Wide.sub? offset (← Wide.sub? capacity start)

/-- The numbers that a walk visits from an offset on, by the steps at which the program may stop. -/
def wideVisits? (start capacity : Nat) : (remaining offset : Nat) → Option (List Nat)
  | 0, _ => some []
  | remaining + 1, offset => do
    let index ← wideIndex? start capacity offset
    let others ← wideVisits? start capacity remaining (← Wide.add? offset 1)
    return index :: others

end PoolWalk

namespace Pool

/-- The numbers that a walk visits, given what its start is computed from, by the steps at which the
program may stop. -/
def wideWalk? (pool : Pool) (start : Nat) (limit : Option Nat) : Option (List Nat) := do
  let capacity ← pool.wideCount? pool.step
  PoolWalk.wideVisits? (start % capacity) capacity (min (limit.getD capacity) capacity) 0

/-- The number after another one, by the steps at which the program may stop. -/
def wideFollowing? (pool : Pool) (index : Nat) : Option Nat :=
  if pool.capacity ≤ min (index + 1) largestWide then some 0 else Wide.add? index 1

end Pool

namespace PoolWalk

variable {start capacity offset : Nat}

/-- The number at an offset is computed. The three cases are a sum below the capacity, one that is
not but fits 128 bits, and one that does not fit. -/
theorem wideIndex?_eq (fits : capacity ≤ largestWide) (begins : start < capacity)
    (inside : offset < capacity) :
    wideIndex? start capacity offset = some ((start + offset) % capacity) := by
  unfold wideIndex?
  by_cases counted : start + offset ≤ largestWide
  · rw [Wide.add?_of_le counted]
    dsimp only
    by_cases ahead : start + offset < capacity
    · rw [if_pos ahead, Nat.mod_eq_of_lt ahead]
    · have behind : capacity ≤ start + offset := Nat.le_of_not_lt ahead
      have less : start + offset - capacity < capacity := by omega
      rw [if_neg ahead, Wide.sub?_of_le behind, Nat.mod_eq_sub_mod behind, Nat.mod_eq_of_lt less]
  · have behind : capacity ≤ start + offset := by omega
    have less : start + offset - capacity < capacity := by omega
    have same : offset - (capacity - start) = start + offset - capacity := by omega
    rw [show Wide.add? start offset = none from if_neg counted]
    dsimp only
    rw [Wide.sub?_of_le (Nat.le_of_lt begins), Option.bind_eq_bind, Option.bind_some,
      Wide.sub?_of_le (show capacity - start ≤ offset by omega), same, Nat.mod_eq_sub_mod behind,
      Nat.mod_eq_of_lt less]

/-- The numbers from an offset on are computed, by induction on how many of them are left. -/
theorem wideVisits?_eq (fits : capacity ≤ largestWide) (begins : start < capacity)
    {remaining : Nat} (within : offset + remaining ≤ capacity) :
    wideVisits? start capacity remaining offset =
      some ((List.range' offset remaining).map fun step => (start + step) % capacity) := by
  induction remaining generalizing offset with
  | zero => rfl
  | succ remaining ih =>
    have inside : offset < capacity := by omega
    have next : offset + 1 ≤ largestWide := by omega
    have others := ih (show offset + 1 + remaining ≤ capacity by omega)
    unfold wideVisits?
    rw [wideIndex?_eq fits begins inside, Wide.add?_of_le next]
    simp only [Option.bind_eq_bind, Option.bind_some, others]
    rfl

/-- A walk does not come to a number twice. -/
theorem index_injective (walk : PoolWalk) {left right : Nat} (first : left < walk.count)
    (second : right < walk.count) (same : walk.index left = walk.index right) : left = right := by
  have := walk.start_lt
  have := walk.count_le
  unfold index at same
  split at same <;> split at same <;> omega

/-- The numbers that a walk visits are different. -/
theorem nodup_indices (walk : PoolWalk) : (walk.indices walk.count).Nodup := by
  unfold indices
  rw [Nat.min_self]
  refine List.Nodup.map_on (fun left first right second same => ?_) List.nodup_range
  exact walk.index_injective (List.mem_range.mp first) (List.mem_range.mp second) same

/-- The numbers that a walk visits are those of candidates. -/
theorem lt_of_mem_indices (walk : PoolWalk) {index : Nat}
    (member : index ∈ walk.indices walk.count) : index < walk.capacity := by
  obtain ⟨step, counted, rfl⟩ := List.mem_map.mp member
  rw [Nat.min_self] at counted
  exact walk.index_lt (List.mem_range.mp counted)

/-- A walk that visits as many numbers as the pool has visits all of them. -/
theorem mem_indices (walk : PoolWalk) (full : walk.count = walk.capacity) {index : Nat}
    (inside : index < walk.capacity) : index ∈ walk.indices walk.count := by
  obtain ⟨step, counted, same⟩ := walk.exists_step full inside
  unfold indices
  rw [Nat.min_self]
  exact List.mem_map.mpr ⟨step, List.mem_range.mpr counted, same⟩

/-- The numbers that a walk through a pool visits follow each other round the pool. -/
theorem indices_ofPool (pool : Pool) (start : Nat) (limit : Option Nat) :
    let walk := ofPool pool start limit
    walk.indices walk.count = (List.range walk.count).map fun step =>
      (start % pool.capacity + step) % pool.capacity := by
  intro walk
  unfold indices
  rw [Nat.min_self]
  apply List.map_congr_left
  intro step counted
  have inside : step < pool.capacity :=
    Nat.lt_of_lt_of_le (List.mem_range.mp counted) walk.count_le
  rw [index_ofPool pool start limit inside, Nat.mod_add_mod]

end PoolWalk

namespace Pool

/-- The number after another one is computed. -/
theorem wideFollowing?_eq (pool : Pool) (index : Nat) :
    pool.wideFollowing? index = some (pool.following index) := by
  have fits := pool.capacity_le_largestWide
  unfold wideFollowing? following
  by_cases last : pool.capacity ≤ index + 1
  · rw [if_pos (Nat.le_min.mpr ⟨last, fits⟩), if_pos last]
  · have counted : index + 1 ≤ largestWide := by omega
    rw [if_neg (fun both => last (Nat.le_min.mp both).1), if_neg last, Wide.add?_of_le counted]

/-- The numbers that a walk visits are computed. -/
theorem wideWalk?_eq {pool : Pool} (ordered : pool.first.value ≤ pool.last.value) (start : Nat)
    (limit : Option Nat) :
    let walk := PoolWalk.ofPool pool start limit
    pool.wideWalk? start limit = some (walk.indices walk.count) := by
  intro walk
  have begins : start % pool.capacity < pool.capacity := Nat.mod_lt _ pool.capacity_pos
  have within : 0 + walk.count ≤ pool.capacity := by
    rw [Nat.zero_add]
    exact walk.count_le
  unfold wideWalk?
  rw [wideCount?_step ordered, PoolWalk.indices_ofPool, List.range_eq_range']
  exact PoolWalk.wideVisits?_eq pool.capacity_le_largestWide begins within

/-- A walk through a pool that begins no later than it ends visits as many numbers as the pool has,
or as it may, which are below the capacity and different: its start, which is computed from any
number, and those that follow it round the pool. When it visits as many as the pool has, it visits
every one. The program stops neither on the way nor where it remembers what comes after a number. -/
theorem walk_spec {pool : Pool} (ordered : pool.first.value ≤ pool.last.value) (start : Nat)
    (limit : Option Nat) :
    let count := min (limit.getD pool.capacity) pool.capacity
    let walk := PoolWalk.ofPool pool start limit
    let visits := walk.indices walk.count
    visits.length = count ∧
    (∀ index ∈ visits, index < pool.capacity) ∧
    visits.Nodup ∧
    (visits = (List.range count).map fun step =>
      (start % pool.capacity + step) % pool.capacity) ∧
    (count = pool.capacity → ∀ index < pool.capacity, index ∈ visits) ∧
    pool.wideWalk? start limit = some visits ∧
    ∀ index, pool.wideFollowing? index = some (pool.following index) := by
  intro count walk visits
  have round : visits = (List.range count).map fun step =>
      (start % pool.capacity + step) % pool.capacity := PoolWalk.indices_ofPool pool start limit
  refine ⟨?_, fun index => walk.lt_of_mem_indices, walk.nodup_indices, round,
    fun full index => walk.mem_indices full, wideWalk?_eq ordered start limit,
    pool.wideFollowing?_eq⟩
  rw [round, List.length_map, List.length_range]

/-- The condition can be met: a walk through all addresses of 128 bits begins with the last number,
and the sum of start and offset does not fit when it comes to its third one. -/
theorem walk_spec_of_all_addresses :
    let pool := Sample.allAddresses
    Wide.add? (largestWide - 1) 2 = none ∧
      pool.wideWalk? (largestWide - 1) (some 3) = some [largestWide - 1, 0, 1] := by
  intro pool
  have ordered : pool.first.value ≤ pool.last.value := Nat.zero_le _
  obtain ⟨-, -, -, round, -, computed, -⟩ := walk_spec ordered (largestWide - 1) (some 3)
  refine ⟨by decide, computed.trans (congrArg some (round.trans ?_))⟩
  decide +kernel

end Pool

end Leasehold
