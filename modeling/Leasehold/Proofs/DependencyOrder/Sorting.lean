import Mathlib.Data.List.Nodup
import Mathlib.Order.Monotone.Basic
import Leasehold.Proofs.DependencyOrder.Counting

/-!
# Orders of dependency maps

An order of a dependency map has every key once, each after the keys it depends on. Sorting yields an
order (`isOrder_of_sort`), and finds one whenever there is one (`exists_sort_of_isOrder`): of the
keys that are left when none is ready, the first one in any order depends on keys before it only, all
of which have been placed. Whether a map can be sorted therefore depends on the dependencies alone,
and not on when the keys were added. That decides only which order is found: of all orders the least
one, where they first differ the key added earlier comes first (`IsSettled.not_lt_of_isOrder`).
-/
namespace Leasehold.DependencyMap

variable {κ : Type}

/-- In the list, every key stands after the keys it depends on. -/
def Follows (entries : List (κ × List κ)) (order : List κ) : Prop :=
  ∀ before key after, order = before ++ key :: after →
    ∀ dependencies, (key, dependencies) ∈ entries → dependencies ⊆ before

/-- An order of the map has every key once, each after the keys it depends on. -/
structure IsOrder (map : DependencyMap κ) (order : List κ) : Prop where
  /-- It has the keys of the map. -/
  keys : order.Perm map.keys
  /-- Each stands after the keys it depends on. -/
  follows : Follows map.entries order

namespace IsOrder

variable {map other : DependencyMap κ} {order : List κ}

/-- No key stands twice in an order. -/
theorem nodup (ordered : map.IsOrder order) : order.Nodup :=
  ordered.keys.nodup_iff.mpr map.distinct

/-- An order is one of every map with the same entries. -/
theorem perm (ordered : map.IsOrder order) (same : map.entries.Perm other.entries) :
    other.IsOrder order where
  keys := ordered.keys.trans (same.map Prod.fst)
  follows before key after split dependencies listed :=
    ordered.follows before key after split dependencies (same.mem_iff.mpr listed)

/-- A map that has an order has every key that another one depends on. -/
theorem mem_keys_of_dependency (ordered : map.IsOrder order) {key dependency : κ}
    {dependencies : List κ} (listed : (key, dependencies) ∈ map.entries)
    (depends : dependency ∈ dependencies) : dependency ∈ map.keys := by
  have present : key ∈ order := ordered.keys.mem_iff.mpr (List.mem_map_of_mem listed)
  obtain ⟨before, after, split⟩ := List.append_of_mem present
  have earlier := ordered.follows before key after split dependencies listed depends
  exact ordered.keys.mem_iff.mp (split ▸ List.mem_append_left _ earlier)

/-- The keys before a key in an order make it ready. -/
theorem dependenciesAt_subset (ordered : map.IsOrder order) {position : Fin map.size}
    {before after : List κ} (split : order = before ++ map.keyAt position :: after) :
    map.dependenciesAt position ⊆ before :=
  ordered.follows before _ after split _ ((map.mem_entries_iff _ _).mpr ⟨position, rfl, rfl⟩)

end IsOrder

variable {map : DependencyMap κ}

/-- A key in its turn comes no later than the one that follows the same keys in any order. -/
theorem InTurn.le_of_isOrder {before : List (Fin map.size)} {position next : Fin map.size}
    (turn : map.InTurn before position) {order after : List κ} (ordered : map.IsOrder order)
    (split : order = before.map map.keyAt ++ map.keyAt next :: after) : position ≤ next := by
  have distinct : (before.map map.keyAt ++ map.keyAt next :: after).Nodup := split ▸ ordered.nodup
  refine turn.first next (fun earlier => ?_) (ordered.dependenciesAt_subset split)
  have repeated : map.keyAt next ∈ before.map map.keyAt := List.mem_map_of_mem earlier
  exact (List.nodup_append.mp distinct).2.2 _ repeated _ List.mem_cons_self rfl

namespace IsSettled

variable {placed : List (Fin map.size)}

/-- Every key that has been placed follows those it depends on. -/
theorem follows (settled : map.IsSettled placed) : Follows map.entries (placed.map map.keyAt) := by
  intro before key after split dependencies listed
  obtain ⟨earlier, rest, placedSplit, rfl, restSplit⟩ := List.map_eq_append_iff.mp split
  obtain ⟨position, later, rfl, rfl, rfl⟩ := List.map_eq_cons_iff.mp restSplit
  obtain ⟨same, samePosition, rfl⟩ := (map.mem_entries_iff _ _).mp listed
  rw [map.keyAt_injective samePosition]
  exact (settled.inTurn earlier position later placedSplit).ready

/-- When all keys have been placed, they are in an order. -/
theorem isOrder (settled : map.IsSettled placed) (all : ∀ position, position ∈ placed) :
    map.IsOrder (placed.map map.keyAt) where
  keys := by
    have perm : placed.Perm (List.finRange map.size) :=
      (List.perm_ext_iff_of_nodup settled.nodup (List.nodup_finRange _)).mpr
        fun position => iff_of_true (all position) (List.mem_finRange position)
    rw [← map_keyAt_finRange]
    exact perm.map map.keyAt
  follows := settled.follows

variable [DecidableEq κ]

/-- If the map has an order, then all keys have been placed when none is ready. -/
theorem mem_of_isOrder (settled : map.IsSettled placed) {order : List κ}
    (ordered : map.IsOrder order) (position : Fin map.size) : position ∈ placed := by
  by_contra fresh
  have present : map.keyAt position ∈ order :=
    ordered.keys.mem_iff.mpr ((map.mem_keys_iff _).mpr ⟨position, rfl⟩)
  have waits : map.keyAt position ∉ placed.map map.keyAt := by
    rwa [List.mem_map_of_injective map.keyAt_injective]
  -- Of the keys that have not been placed, take the one that comes first in the order.
  obtain ⟨key, first⟩ : ∃ key, order.find? (· ∉ placed.map map.keyAt) = some key :=
    Option.isSome_iff_exists.mp
      (List.find?_isSome.mpr ⟨map.keyAt position, present, decide_eq_true waits⟩)
  obtain ⟨here, before, after, split, earlier⟩ := List.find?_eq_some_iff_append.mp first
  have known : key ∈ map.keys := ordered.keys.mem_iff.mp (split ▸ by simp)
  obtain ⟨other, rfl⟩ := (map.mem_keys_iff key).mp known
  have unplaced : other ∉ placed := by
    have absent : map.keyAt other ∉ placed.map map.keyAt := of_decide_eq_true here
    rwa [List.mem_map_of_injective map.keyAt_injective] at absent
  refine settled.stuck other unplaced fun dependency depends => ?_
  simpa using earlier dependency (ordered.dependenciesAt_subset split depends)

/-- Of all orders of a map, sorting finds the least: where another one first differs from it, that
one has a key of higher rank, if keys that were added later have higher ranks. -/
theorem not_lt_of_isOrder (settled : map.IsSettled placed) {rank : κ → Nat}
    (ranked : StrictMono fun position => rank (map.keyAt position)) {order : List κ}
    (ordered : map.IsOrder order) : ¬ order.map rank < (placed.map map.keyAt).map rank := by
  intro less
  have all : ∀ position, position ∈ placed := settled.mem_of_isOrder ordered
  have length : order.length = placed.length := by
    rw [ordered.keys.length_eq, ← (settled.isOrder all).keys.length_eq, List.length_map]
  have exact {key : κ} {position : Fin map.size} (known : key ∈ order)
      (same : rank key = rank (map.keyAt position)) : key = map.keyAt position := by
    obtain ⟨other, rfl⟩ := (map.mem_keys_iff key).mp (ordered.keys.mem_iff.mp known)
    rw [ranked.injective same]
  rcases List.lt_iff_exists.mp less with ⟨-, shorter⟩ | ⟨index, inOrder, inPlaced, same, lower⟩
  · simp only [List.length_map] at shorter
    omega
  · -- Up to the first difference both have the same keys.
    simp only [List.length_map] at inOrder inPlaced
    simp only [List.getElem_map] at same lower
    have before : order.take index = (placed.take index).map map.keyAt := by
      refine List.ext_getElem (by simp [length]) fun earlier inFirst inSecond => ?_
      have below : earlier < index := by
        rw [List.length_take] at inFirst
        omega
      simpa using exact (List.getElem_mem _) (same earlier below)
    obtain ⟨next, nextAt⟩ := (map.mem_keys_iff order[index]).mp
      (ordered.keys.mem_iff.mp (List.getElem_mem inOrder))
    have orderSplit :
        order = (placed.take index).map map.keyAt ++ map.keyAt next :: order.drop (index + 1) := by
      rw [← before, nextAt, List.getElem_cons_drop, List.take_append_drop]
    have placedSplit : placed = placed.take index ++ placed[index] :: placed.drop (index + 1) := by
      rw [List.getElem_cons_drop, List.take_append_drop]
    have turn : map.InTurn (placed.take index) placed[index] := settled.inTurn _ _ _ placedSplit
    have higher : rank (map.keyAt placed[index]) ≤ rank (map.keyAt next) :=
      ranked.monotone (turn.le_of_isOrder ordered orderSplit)
    rw [nextAt] at higher
    omega

end IsSettled

variable [DecidableEq κ]

/-- No dependency is missing when every key that another one depends on was added. -/
theorem missing?_eq_none_iff :
    map.missing? = none ↔
      ∀ key dependencies, (key, dependencies) ∈ map.entries → dependencies ⊆ map.keys := by
  unfold missing?
  rw [List.find?_eq_none]
  constructor
  · intro complete key dependencies listed dependency depends
    have wanted : dependency ∈ map.entries.flatMap Prod.snd :=
      List.mem_flatMap.mpr ⟨(key, dependencies), listed, depends⟩
    simpa using complete dependency wanted
  · intro complete dependency wanted
    obtain ⟨⟨key, dependencies⟩, listed, depends⟩ := List.mem_flatMap.mp wanted
    simpa using complete key dependencies listed depends

/-- A map that has an order has every key that another one depends on. -/
theorem missing?_eq_none_of_isOrder {order : List κ} (ordered : map.IsOrder order) :
    map.missing? = none :=
  missing?_eq_none_iff.mpr fun _ _ listed _ depends =>
    ordered.mem_keys_of_dependency listed depends

/-- Sorting fails for want of a key when a dependency is missing, and names it. -/
theorem sort_eq_missing_iff (key : κ) :
    map.sort = .error (.missing key) ↔ map.missing? = some key := by
  cases found : map.missing? with
  | some missing =>
    unfold sort
    rw [found]
    simp
  | none =>
    obtain ⟨placed, -, ⟨-, ends⟩ | ⟨position, -, -, ends⟩⟩ := exists_settled found <;> simp [ends]

/-- Sorting yields an order. -/
theorem isOrder_of_sort {order : List κ} (sorted : map.sort = .ok order) : map.IsOrder order := by
  cases lacks : map.missing? with
  | some key => exact nomatch sorted.symm.trans ((sort_eq_missing_iff key).mpr lacks)
  | none =>
    obtain ⟨placed, settled, ⟨all, ends⟩ | ⟨position, -, -, ends⟩⟩ := exists_settled lacks
    · rw [ends] at sorted
      cases sorted
      exact settled.isOrder all
    · rw [ends] at sorted
      exact nomatch sorted

/-- A map that has an order can be sorted. -/
theorem exists_sort_of_isOrder {order : List κ} (ordered : map.IsOrder order) :
    ∃ sorted, map.sort = .ok sorted := by
  obtain ⟨placed, settled, ⟨-, ends⟩ | ⟨position, fresh, -, -⟩⟩ :=
    exists_settled (missing?_eq_none_of_isOrder ordered)
  · exact ⟨_, ends⟩
  · exact absurd (settled.mem_of_isOrder ordered position) fresh

end Leasehold.DependencyMap
