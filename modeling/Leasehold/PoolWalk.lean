import Leasehold.Pool
import Leasehold.Scope

/-!
# The order in which the candidates of a pool are tried

A walk begins at some candidate of a pool and goes on in order, from the last candidate back to the
first, so that each is visited at most once. Iterative pools begin after the candidate that was
handed out last, which a cursor per subnet and first address of the pool remembers.
-/
namespace Leasehold

/-- A walk through the candidates of a pool. -/
structure PoolWalk where
  /-- The number of the candidate that the walk begins at. -/
  start : Nat
  /-- The number of candidates of the pool. -/
  capacity : Nat
  /-- How many candidates are visited. -/
  count : Nat
  /-- The walk begins at a candidate of the pool. -/
  start_lt : start < capacity
  /-- No candidate is visited twice. -/
  count_le : count ≤ capacity
deriving DecidableEq, Repr

namespace PoolWalk

/-- The walk that begins at a candidate of a pool and visits at most so many. -/
def ofPool (pool : Pool) (start : Nat) (limit : Option Nat) : PoolWalk where
  start := start % pool.capacity
  capacity := pool.capacity
  count := min (limit.getD pool.capacity) pool.capacity
  start_lt := Nat.mod_lt _ pool.capacity_pos
  count_le := Nat.min_le_right _ _

/-- The number of the candidate that is visited after so many others. -/
def index (walk : PoolWalk) (offset : Nat) : Nat :=
  if walk.start + offset < walk.capacity then walk.start + offset
  else walk.start + offset - walk.capacity

/-- A walk visits candidates of its pool. -/
theorem index_lt (walk : PoolWalk) {offset : Nat} (visited : offset < walk.count) :
    walk.index offset < walk.capacity := by
  have := walk.start_lt
  have := walk.count_le
  unfold index
  split <;> omega

/-- The numbers of the first candidates that are visited, at most so many. -/
def indices (walk : PoolWalk) (most : Nat) : List Nat :=
  (List.range (min most walk.count)).map walk.index

end PoolWalk

/-- What a cursor belongs to: a subnet and the first address of a pool. -/
abbrev CursorKey := SubnetId × Address

/-- Where the next walks through pools begin. -/
structure PoolCursors where
  /-- The number of the first candidate, for every pool from which one was handed out. -/
  entries : List (CursorKey × Nat)
deriving DecidableEq, Repr

namespace PoolCursors

/-- Nothing has been handed out. -/
def none : PoolCursors := ⟨[]⟩

/-- Where the next walk begins. -/
def next (cursors : PoolCursors) (key : CursorKey) : Nat := (cursors.entries.lookup key).getD 0

/-- Let the next walk begin at a candidate. -/
def set (cursors : PoolCursors) (key : CursorKey) (start : Nat) : PoolCursors :=
  ⟨(key, start) :: cursors.entries.filter (·.1 != key)⟩

/-- Without the cursor of one key, the cursors of other keys are found as before. -/
theorem lookup_filter (entries : List (CursorKey × Nat)) {key other : CursorKey}
    (different : other ≠ key) :
    (entries.filter (·.1 != key)).lookup other = entries.lookup other := by
  induction entries with
  | nil => rfl
  | cons entry rest ih =>
    obtain ⟨found, start⟩ := entry
    by_cases same : found = key
    · subst same
      have passed : (other == found) = false := beq_false_of_ne different
      simp [List.lookup_cons, passed, ih]
    · have kept : (found != key) = true := bne_iff_ne.mpr same
      simp [List.lookup_cons, kept, ih]

/-- The next walk begins where it was set to begin, and other walks begin where they did. -/
theorem next_set (cursors : PoolCursors) (key other : CursorKey) (start : Nat) :
    (cursors.set key start).next other = if other = key then start else cursors.next other := by
  unfold next set
  split
  · next same => simp [same]
  · next different =>
    have passed : (other == key) = false := beq_false_of_ne different
    simp [List.lookup_cons, passed, lookup_filter _ different]

end PoolCursors

namespace Pool

/-- The cursor of a pool of a subnet. -/
def cursorKey (pool : Pool) (subnet : SubnetId) : CursorKey := (subnet, pool.first)

/-- The candidate after the one with a number, which after the last one is the first. -/
def following (pool : Pool) (index : Nat) : Nat :=
  if pool.capacity ≤ index + 1 then 0 else index + 1

end Pool

namespace PoolCursors

/-- Remember that a candidate of a pool was handed out. -/
def picked (cursors : PoolCursors) (subnet : SubnetId) (pool : Pool) (index : Nat) : PoolCursors :=
  cursors.set (pool.cursorKey subnet) (pool.following index)

end PoolCursors

end Leasehold
