import Leasehold.PoolWalk

/-!
# The candidates of a pool and walks through them

In a sound pool, which begins no later than it ends and keeps to one family, the number of a
candidate and the candidate itself determine each other. Numbers are cut to what fits 128 bits,
which takes a candidate only from a pool that spans every address of 128 bits. A walk without a
limit visits every candidate, wherever it begins (`mem_visited_iff`).
-/
namespace Leasehold

namespace Pool

/-- The pool begins no later than it ends, in one family. -/
structure IsSound (pool : Pool) : Prop where
  /-- Both ends are of one family. -/
  family : pool.last.family = pool.first.family
  /-- The first candidate is not after the last. -/
  ordered : pool.first.value ≤ pool.last.value

/-- The pool begins at the first and ends at the last address of 128 bits. -/
def spansAll (pool : Pool) : Prop := pool.first.value = 0 ∧ pool.last.value = largestWide

/-- Whether a pool spans all addresses can be computed. -/
instance (pool : Pool) : Decidable pool.spansAll :=
  inferInstanceAs (Decidable (_ ∧ _))

/-- Candidates are apart. -/
theorem step_pos (pool : Pool) : 0 < pool.step := by
  unfold step
  cases pool.kind with
  | addresses => exact Nat.one_pos
  | blocks length => exact Nat.two_pow_pos _

/-- An address of either family is at most the largest of 128 bits. -/
theorem value_le_largestWide (address : Address) : address.value ≤ largestWide := by
  have fits := address.value_lt
  have bound : address.family.size ≤ largestWide + 1 := by
    cases address.family <;> decide
  omega

/-- The number of candidates fits 128 bits. -/
theorem capacity_le_largestWide (pool : Pool) : pool.capacity ≤ largestWide := Nat.min_le_right _ _

/-- Candidates are counted in full, except in a pool that spans all addresses. -/
theorem capacity_eq {pool : Pool} (part : ¬ pool.spansAll) :
    pool.capacity = (pool.last.value - pool.first.value) / pool.step + 1 := by
  have fewer : (pool.last.value - pool.first.value) / pool.step ≤
      pool.last.value - pool.first.value := Nat.div_le_self _ _
  have above := value_le_largestWide pool.last
  have some : 0 < largestWide := by decide
  have short : pool.last.value - pool.first.value < largestWide := by
    apply Nat.lt_of_not_le
    intro long
    exact part ⟨by omega, by omega⟩
  unfold capacity
  omega

/-- The candidate with a number lies in the pool, at as many steps from its beginning. -/
theorem bounds_of_lt_capacity {pool : Pool} (sound : pool.IsSound) {index : Nat}
    (inside : index < pool.capacity) :
    pool.first.value + index * pool.step ≤ pool.last.value := by
  have below : index ≤ (pool.last.value - pool.first.value) / pool.step := by
    unfold capacity at inside
    omega
  have reach : index * pool.step ≤ pool.last.value - pool.first.value :=
    (Nat.le_div_iff_mul_le pool.step_pos).mp below
  have := sound.ordered
  omega

/-- Every number below the capacity is that of a candidate. -/
theorem exists_nth? {pool : Pool} (sound : pool.IsSound) {index : Nat}
    (inside : index < pool.capacity) :
    ∃ address, pool.nth? index = some address ∧ address.family = pool.family ∧
      address.value = pool.first.value + index * pool.step := by
  have bound := bounds_of_lt_capacity sound inside
  have fits : pool.first.value + index * pool.step < pool.family.size := by
    have last := pool.last.value_lt
    rw [sound.family] at last
    exact Nat.lt_of_le_of_lt bound last
  refine ⟨⟨pool.family, pool.first.value + index * pool.step, fits⟩, ?_, rfl, rfl⟩
  unfold nth? Address.ofNat?
  rw [if_pos inside, dif_pos fits]

/-- A number leads to a candidate exactly when it is below the capacity. -/
theorem exists_nth?_iff {pool : Pool} (sound : pool.IsSound) (index : Nat) :
    (∃ address, pool.nth? index = some address) ↔ index < pool.capacity := by
  constructor
  · rintro ⟨address, found⟩
    apply Nat.lt_of_not_le
    intro outside
    rw [nth?, if_neg (Nat.not_lt.mpr outside)] at found
    exact nomatch found
  · intro inside
    obtain ⟨address, found, -, -⟩ := exists_nth? sound inside
    exact ⟨address, found⟩

/-- The candidate with a number lies so many steps behind the first, in the range of the pool. -/
theorem of_nth? {pool : Pool} (sound : pool.IsSound) {index : Nat} {address : Address}
    (found : pool.nth? index = some address) :
    address.family = pool.family ∧ address.value = pool.first.value + index * pool.step ∧
      address.value ≤ pool.last.value := by
  have inside : index < pool.capacity := (exists_nth?_iff sound index).mp ⟨address, found⟩
  obtain ⟨other, same, family, value⟩ := exists_nth? sound inside
  obtain rfl : other = address := Option.some.inj (same.symm.trans found)
  have bound := bounds_of_lt_capacity sound inside
  exact ⟨family, value, by omega⟩

/-- An address that lies so many steps behind the first has this number. -/
theorem indexOf?_eq_some {pool : Pool} {index : Nat} {address : Address}
    (family : address.family = pool.family)
    (value : address.value = pool.first.value + index * pool.step)
    (below : address.value ≤ pool.last.value) : pool.indexOf? address = some index := by
  have distance : address.value - pool.first.value = index * pool.step := by omega
  have within : ¬ (address.value < pool.first.value ∨ pool.last.value < address.value) := by omega
  have stepwise : ¬ index * pool.step % pool.step ≠ 0 := by
    rw [Nat.mul_mod_left]
    exact not_not_intro rfl
  unfold indexOf?
  rw [if_neg (not_not_intro family), if_neg within, distance, if_neg stepwise,
    Nat.mul_div_cancel _ pool.step_pos]

/-- A pool contains the candidates that it numbers. -/
theorem contains_of_nth? {pool : Pool} (sound : pool.IsSound) {index : Nat} {address : Address}
    (visited : pool.nth? index = some address) : pool.contains address = true := by
  obtain ⟨family, value, below⟩ := of_nth? sound visited
  unfold contains
  rw [indexOf?_eq_some family value below]
  rfl

/-- A pool contains the address that it begins at. -/
theorem contains_first {pool : Pool} (sound : pool.IsSound) :
    pool.contains pool.first = true := by
  have value : pool.first.value = pool.first.value + 0 * pool.step := by omega
  unfold contains
  rw [indexOf?_eq_some rfl value sound.ordered]
  rfl

/-- What a pool contains says where the address lies. -/
theorem of_contains {pool : Pool} {address : Address} (contained : pool.contains address = true) :
    address.family = pool.family ∧ pool.first.value ≤ address.value ∧
      address.value ≤ pool.last.value ∧ (address.value - pool.first.value) % pool.step = 0 := by
  unfold contains indexOf? at contained
  split at contained
  · simp at contained
  · next family =>
    split at contained
    · simp at contained
    · next within =>
      split at contained
      · simp at contained
      · next stepwise =>
        have family : address.family = pool.family := by simpa using family
        have stepwise : (address.value - pool.first.value) % pool.step = 0 := by simpa using stepwise
        exact ⟨family, by omega, by omega, stepwise⟩

/-- The number of an address that the pool contains is below the capacity, unless the address is the
last of a pool that spans all addresses. -/
theorem index_lt_capacity {pool : Pool} (sound : pool.IsSound) {address : Address}
    (contained : pool.contains address = true) (other : ¬ (pool.spansAll ∧ address = pool.last)) :
    (address.value - pool.first.value) / pool.step < pool.capacity := by
  obtain ⟨family, above, below, -⟩ := of_contains contained
  have last := value_le_largestWide pool.last
  have short : address.value - pool.first.value < largestWide := by
    apply Nat.lt_of_not_le
    intro long
    have begins : pool.first.value = 0 := by omega
    have ends : pool.last.value = largestWide := by omega
    have reaches : address.value = pool.last.value := by omega
    exact other ⟨⟨begins, ends⟩, Address.ext' (family.trans sound.family.symm) reaches⟩
  have fits : (address.value - pool.first.value) / pool.step < largestWide :=
    Nat.lt_of_le_of_lt (Nat.div_le_self _ _) short
  have steps : (address.value - pool.first.value) / pool.step ≤
      (pool.last.value - pool.first.value) / pool.step := Nat.div_le_div_right (by omega)
  unfold capacity
  omega

/-- The number of an address that the pool contains leads to it, with that exception. -/
theorem exists_indexOf?_of_contains {pool : Pool} (sound : pool.IsSound) {address : Address}
    (contained : pool.contains address = true) (other : ¬ (pool.spansAll ∧ address = pool.last)) :
    ∃ index, pool.indexOf? address = some index ∧ pool.nth? index = some address := by
  obtain ⟨family, above, below, stepwise⟩ := of_contains contained
  have back : (address.value - pool.first.value) / pool.step * pool.step =
      address.value - pool.first.value := Nat.div_mul_cancel (Nat.dvd_of_mod_eq_zero stepwise)
  have place : address.value =
      pool.first.value + (address.value - pool.first.value) / pool.step * pool.step := by
    rw [back]
    omega
  obtain ⟨found, leads, foundFamily, value⟩ :=
    exists_nth? sound (index_lt_capacity sound contained other)
  obtain rfl : found = address :=
    Address.ext' (foundFamily.trans family.symm) (value.trans place.symm)
  exact ⟨_, indexOf?_eq_some family place below, leads⟩

/-- An address that a pool contains has a number, unless the pool spans all addresses. -/
theorem exists_index_of_contains {pool : Pool} (sound : pool.IsSound) (part : ¬ pool.spansAll)
    {address : Address} (contained : pool.contains address = true) :
    ∃ index < pool.capacity, pool.nth? index = some address := by
  obtain ⟨index, -, leads⟩ :=
    exists_indexOf?_of_contains sound contained fun last => part last.1
  exact ⟨index, (exists_nth?_iff sound index).mp ⟨address, leads⟩, leads⟩

/-- The candidates of a pool that a walk visits, from one of its steps on. -/
def visited (pool : Pool) (walk : PoolWalk) : (remaining offset : Nat) → List Address
  | 0, _ => []
  | remaining + 1, offset =>
    match pool.nth? (walk.index offset) with
    | none => []
    | some address => address :: pool.visited walk remaining (offset + 1)

/-- A walk visits candidates only. -/
theorem exists_nth?_of_mem_visited {pool : Pool} {walk : PoolWalk} {remaining offset : Nat}
    {address : Address} (member : address ∈ pool.visited walk remaining offset) :
    ∃ index, pool.nth? index = some address := by
  induction remaining generalizing offset with
  | zero => exact absurd member List.not_mem_nil
  | succ remaining ih =>
    unfold visited at member
    split at member
    · exact absurd member List.not_mem_nil
    · next found numbered =>
      rcases List.mem_cons.mp member with rfl | later
      · exact ⟨_, numbered⟩
      · exact ih later

/-- A walk comes to the candidate of each of its steps. -/
theorem mem_visited_of_nth? {pool : Pool} (sound : pool.IsSound) {walk : PoolWalk}
    (ofPool : walk.capacity = pool.capacity) {remaining offset : Nat}
    (within : offset + remaining ≤ walk.count) {step : Nat} (begun : offset ≤ step)
    (ahead : step < offset + remaining) {address : Address}
    (numbered : pool.nth? (walk.index step) = some address) :
    address ∈ pool.visited walk remaining offset := by
  induction remaining generalizing offset with
  | zero => omega
  | succ remaining ih =>
    have inside : walk.index offset < pool.capacity := by
      rw [← ofPool]
      exact walk.index_lt (by omega)
    obtain ⟨first, here, -, -⟩ := exists_nth? sound inside
    unfold visited
    rw [here]
    by_cases now : step = offset
    · subst now
      obtain rfl : first = address := Option.some.inj (here.symm.trans numbered)
      exact List.mem_cons_self
    · exact List.mem_cons_of_mem first (ih (by omega) (by omega) (by omega))

end Pool

/-- A walk that visits as many candidates as the pool has comes to every number. -/
theorem PoolWalk.exists_step (walk : PoolWalk) (full : walk.count = walk.capacity) {index : Nat}
    (inside : index < walk.capacity) : ∃ step < walk.count, walk.index step = index := by
  have start := walk.start_lt
  by_cases ahead : walk.start ≤ index
  · refine ⟨index - walk.start, by omega, ?_⟩
    unfold PoolWalk.index
    rw [if_pos (by omega)]
    omega
  · -- The number lies before the start, where the walk comes after it has wrapped.
    refine ⟨index + walk.capacity - walk.start, by omega, ?_⟩
    unfold PoolWalk.index
    rw [if_neg (by omega)]
    omega

/-- The steps of a walk go round the pool. -/
theorem PoolWalk.index_ofPool (pool : Pool) (start : Nat) (limit : Option Nat) {offset : Nat}
    (inside : offset < pool.capacity) :
    (ofPool pool start limit).index offset = (start + offset) % pool.capacity := by
  have within : start % pool.capacity < pool.capacity := Nat.mod_lt _ pool.capacity_pos
  change (if start % pool.capacity + offset < pool.capacity then start % pool.capacity + offset
    else start % pool.capacity + offset - pool.capacity) = _
  rw [← Nat.mod_add_mod]
  generalize start % pool.capacity = first at within
  split
  · next short => rw [Nat.mod_eq_of_lt short]
  · next long =>
    rw [Nat.mod_eq_sub_mod (Nat.le_of_not_lt long), Nat.mod_eq_of_lt (by omega)]

/-- A walk without a limit visits exactly what the pool contains, wherever it begins. -/
theorem Pool.mem_visited_iff {pool : Pool} (sound : pool.IsSound) (part : ¬ pool.spansAll)
    (start : Nat) (address : Address) :
    let walk := PoolWalk.ofPool pool start none
    address ∈ pool.visited walk walk.count 0 ↔ pool.contains address = true := by
  intro walk
  constructor
  · intro member
    obtain ⟨index, numbered⟩ := exists_nth?_of_mem_visited member
    exact contains_of_nth? sound numbered
  · intro contained
    obtain ⟨index, inside, numbered⟩ := exists_index_of_contains sound part contained
    have full : walk.count = walk.capacity := Nat.min_self _
    obtain ⟨step, counted, same⟩ := walk.exists_step full inside
    rw [← same] at numbered
    exact mem_visited_of_nth? sound rfl (by omega) (Nat.zero_le _) (by omega) numbered

end Leasehold
