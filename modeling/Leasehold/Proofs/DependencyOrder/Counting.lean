import Mathlib.Algebra.BigOperators.Group.List.Basic
import Mathlib.Data.Fintype.Card
import Mathlib.Data.List.Nodup
import Leasehold.DependencyOrder

/-!
# Sorting by counting dependencies

Sorting keeps, for every key, the number of its dependencies that have not been placed, and in
ascending order the keys whose number is zero. Placing a key keeps both exact (`IsSound.place`),
however often a key lists another one, so that every key is placed in its turn: it has not been placed
before, its dependencies have, and it is the first such key (`InTurn`). At the end no key is ready any
more (`exists_settled`), and those that still wait are the ones that were not placed.
-/
namespace Leasehold.DependencyMap

variable {κ : Type}

/-- What holds of every item of a list and the items before it, and of one more item and the list,
holds in the list with that item at its end. -/
theorem forall_split_concat {α : Type} {rel : List α → α → Prop} {items : List α} {last : α}
    (inside : ∀ before item after, items = before ++ item :: after → rel before item)
    (atEnd : rel items last) :
    ∀ before item after, items ++ [last] = before ++ item :: after → rel before item := by
  intro before item after split
  rcases List.eq_nil_or_concat after with rfl | ⟨others, final, rfl⟩
  · obtain ⟨rfl, same⟩ := List.append_inj' split rfl
    obtain rfl : last = item := (List.cons.inj same).1
    exact atEnd
  · rw [List.concat_eq_append, ← List.cons_append, ← List.append_assoc] at split
    exact inside before item others (List.append_inj' split rfl).1

/-! Positions -/

/-- The keys are those at the positions, one after another. -/
theorem map_keyAt_finRange (map : DependencyMap κ) :
    (List.finRange map.size).map map.keyAt = map.keys := by
  have entries : (List.finRange map.size).map map.entries.get = map.entries :=
    List.map_get_finRange map.entries
  calc (List.finRange map.size).map map.keyAt
      = ((List.finRange map.size).map map.entries.get).map Prod.fst := by rw [List.map_map]; rfl
    _ = map.keys := by rw [entries]; rfl

/-- Different positions have different keys. -/
theorem keyAt_injective (map : DependencyMap κ) : Function.Injective map.keyAt := by
  intro left right same
  have distinct : ((List.finRange map.size).map map.keyAt).Nodup := by
    rw [map_keyAt_finRange]
    exact map.distinct
  exact List.inj_on_of_nodup_map distinct (List.mem_finRange left) (List.mem_finRange right) same

/-- Every key stands at a position. -/
theorem mem_keys_iff (map : DependencyMap κ) (key : κ) :
    key ∈ map.keys ↔ ∃ position, map.keyAt position = key := by
  rw [← map_keyAt_finRange]
  simp

/-- Every entry stands at a position. -/
theorem mem_entries_iff (map : DependencyMap κ) (key : κ) (dependencies : List κ) :
    (key, dependencies) ∈ map.entries ↔
      ∃ position, map.keyAt position = key ∧ map.dependenciesAt position = dependencies := by
  rw [List.mem_iff_get]
  exact exists_congr fun position => Prod.ext_iff

/-! The turn of a key -/

/-- The dependencies of the key at the position have all been placed. -/
def IsReady (map : DependencyMap κ) (placed : List (Fin map.size)) (position : Fin map.size) :
    Prop :=
  map.dependenciesAt position ⊆ placed.map map.keyAt

/-- It is the turn of the key at the position: of those that have not been placed it is the first that
is ready. -/
structure InTurn (map : DependencyMap κ) (placed : List (Fin map.size)) (position : Fin map.size) :
    Prop where
  /-- It has not been placed. -/
  fresh : position ∉ placed
  /-- Its dependencies have been. -/
  ready : map.IsReady placed position
  /-- No key before it is ready and has not been placed. -/
  first : ∀ other, other ∉ placed → map.IsReady placed other → position ≤ other

/-- Every key was placed in its turn, and no key is ready any more. -/
structure IsSettled (map : DependencyMap κ) (placed : List (Fin map.size)) : Prop where
  /-- No key was placed twice. -/
  nodup : placed.Nodup
  /-- It was the turn of every key that was placed. -/
  inTurn : ∀ before position after, placed = before ++ position :: after →
    map.InTurn before position
  /-- A key that was not placed waits for another one. -/
  stuck : ∀ position, position ∉ placed → ¬ map.IsReady placed position

/-- At first every key waits for all that it lists. -/
theorem waits_beginSorting (map : DependencyMap κ) (position : Fin map.size) :
    map.beginSorting.waits.get position = (map.dependenciesAt position).length :=
  Vector.getElem_ofFn position.isLt

variable [DecidableEq κ]

/-! Dependents -/

/-- Among different items that are repeated, each is found as often as it was repeated. -/
theorem count_flatMap_replicate {α : Type} [DecidableEq α] (times : α → Nat) {items : List α}
    (distinct : items.Nodup) {item : α} (member : item ∈ items) :
    (items.flatMap fun other => List.replicate (times other) other).count item = times item := by
  induction items with
  | nil => exact absurd member List.not_mem_nil
  | cons head rest ih =>
    have different : head ∉ rest := (List.nodup_cons.mp distinct).1
    have later := ih (List.nodup_cons.mp distinct).2
    rw [List.flatMap_cons, List.count_append, List.count_replicate]
    by_cases same : head = item
    · have absent : (rest.flatMap fun other => List.replicate (times other) other).count item = 0 := by
        refine List.count_eq_zero.mpr fun present => ?_
        have found : ∃ other ∈ rest, item ∈ List.replicate (times other) other :=
          List.mem_flatMap.mp present
        obtain ⟨other, inside, repeated⟩ := found
        exact different (same.trans (List.eq_of_mem_replicate repeated) ▸ inside)
      rw [absent, same]
      simp
    · have inside : item ∈ rest := (List.mem_cons.mp member).resolve_left (Ne.symm same)
      rw [later inside]
      simp [same]

/-- A key is listed among the dependents of another one as often as it lists it. -/
theorem count_dependentsOf (map : DependencyMap κ) (position dependent : Fin map.size) :
    (map.dependentsOf position).count dependent =
      (map.dependenciesAt dependent).count (map.keyAt position) :=
  count_flatMap_replicate _ (List.nodup_finRange _) (List.mem_finRange dependent)

/-! Releasing keys -/

namespace Sorting

variable {count : Nat}

/-- A position put in its place is there, and so are the others. -/
theorem mem_insertAscending_iff (position other : Fin count) (positions : List (Fin count)) :
    other ∈ insertAscending position positions ↔ other = position ∨ other ∈ positions := by
  unfold insertAscending
  rcases lt_trichotomy other position with before | rfl | after
  · simp [before, before.ne, before.not_gt]
  · simp
  · simp [after, after.ne', after.not_gt]

/-- A position put in its place leaves the positions in ascending order. -/
theorem ascending_insertAscending (position : Fin count) {positions : List (Fin count)}
    (ascending : positions.Pairwise (· < ·)) :
    (insertAscending position positions).Pairwise (· < ·) := by
  unfold insertAscending
  refine List.pairwise_append.mpr
    ⟨ascending.filter _, List.pairwise_cons.mpr ⟨fun later member => ?_, ascending.filter _⟩,
      fun earlier member later => ?_⟩
  · simpa using List.of_mem_filter member
  · have below : earlier < position := by simpa using List.of_mem_filter member
    rintro (_ | ⟨_, member⟩)
    · exact below
    · have above : position < later := by simpa using List.of_mem_filter member
      exact below.trans above

/-- A released key waits for one dependency less, and no other key for less than before. -/
theorem waits_release (sorting : Sorting count) (position other : Fin count) :
    (sorting.release position).waits.get other =
      sorting.waits.get other - if other = position then 1 else 0 := by
  show (sorting.waits.set position (sorting.waits.get position - 1))[(other : Nat)] = _
  rw [Vector.getElem_set]
  by_cases same : other = position
  · simp [same]
  · have apart : (position : Nat) ≠ other := fun equal => same (Fin.ext equal.symm)
    rw [if_neg apart, if_neg same]
    rfl

/-- A key becomes ready when it is released from the last dependency that it waited for. -/
theorem mem_ready_release_iff (sorting : Sorting count) {position : Fin count}
    (waiting : 0 < sorting.waits.get position) (other : Fin count) :
    other ∈ (sorting.release position).ready ↔
      other ∈ sorting.ready ∨ other = position ∧ sorting.waits.get position = 1 := by
  show other ∈ (if sorting.waits.get position - 1 = 0 then _ else _) ↔ _
  by_cases last : sorting.waits.get position = 1
  · rw [if_pos (by omega), mem_insertAscending_iff]
    simp [last, or_comm]
  · rw [if_neg (by omega)]
    exact (or_iff_left fun here => last here.2).symm

/-- Releasing a key leaves the ready ones in ascending order. -/
theorem ascending_release {sorting : Sorting count} (position : Fin count)
    (ascending : sorting.ready.Pairwise (· < ·)) :
    (sorting.release position).ready.Pairwise (· < ·) := by
  show (if sorting.waits.get position - 1 = 0 then _ else _ : List (Fin count)).Pairwise (· < ·)
  split
  · exact ascending_insertAscending position ascending
  · exact ascending

/-- Releasing keys one after another places none of them. -/
theorem placed_foldl_release (sorting : Sorting count) (released : List (Fin count)) :
    (released.foldl release sorting).placed = sorting.placed := by
  induction released generalizing sorting with
  | nil => rfl
  | cons head rest ih => exact ih (sorting.release head)

/-- Releasing keys one after another leaves the ready ones in ascending order. -/
theorem ascending_foldl_release {sorting : Sorting count} (released : List (Fin count))
    (ascending : sorting.ready.Pairwise (· < ·)) :
    (released.foldl release sorting).ready.Pairwise (· < ·) := by
  induction released generalizing sorting with
  | nil => exact ascending
  | cons head rest ih => exact ih (ascending_release head ascending)

/-- After keys were released one after another, each waits for as many dependencies less as it was
released times. -/
theorem waits_foldl_release (sorting : Sorting count) (released : List (Fin count))
    (position : Fin count) :
    (released.foldl release sorting).waits.get position =
      sorting.waits.get position - released.count position := by
  induction released generalizing sorting with
  | nil => rfl
  | cons head rest ih =>
    rw [List.foldl_cons, ih, waits_release, List.count_cons]
    by_cases same : position = head
    · simp only [same, ↓reduceIte, beq_self_eq_true]
      omega
    · have apart : (head == position) = false := beq_false_of_ne (Ne.symm same)
      simp [same, apart]

/-- A key becomes ready when it is released as many times as it has dependencies to wait for, as long
as no key is released more often than that. -/
theorem mem_ready_foldl_release_iff (sorting : Sorting count) (released : List (Fin count))
    (enough : ∀ position, released.count position ≤ sorting.waits.get position)
    (position : Fin count) :
    position ∈ (released.foldl release sorting).ready ↔ position ∈ sorting.ready ∨
      position ∈ released ∧ sorting.waits.get position = released.count position := by
  induction released generalizing sorting with
  | nil => simp
  | cons head rest ih =>
    have waiting : 0 < sorting.waits.get head := by
      have often := enough head
      rw [List.count_cons_self] at often
      omega
    have left (other : Fin count) : rest.count other ≤ (sorting.release head).waits.get other := by
      have often := enough other
      rw [waits_release]
      by_cases same : other = head
      · subst same
        rw [List.count_cons_self] at often
        rw [if_pos rfl]
        omega
      · rw [List.count_cons_of_ne (Ne.symm same)] at often
        rw [if_neg same]
        omega
    rw [List.foldl_cons, ih (sorting.release head) left, mem_ready_release_iff sorting waiting,
      waits_release, List.mem_cons]
    by_cases same : position = head
    · subst same
      have often := enough position
      rw [List.count_cons_self] at often ⊢
      rw [if_pos rfl]
      have once : sorting.waits.get position - 1 = rest.count position ↔
          sorting.waits.get position = rest.count position + 1 := by omega
      by_cases inside : position ∈ rest
      · have again : 0 < rest.count position := List.count_pos_iff.mpr inside
        have several : sorting.waits.get position ≠ 1 := by omega
        simp only [inside, once, several, and_false, or_false, true_and, true_or]
      · have never : rest.count position = 0 := List.count_eq_zero.mpr inside
        simp only [inside, never, Nat.zero_add, false_and, or_false, true_and]
    · rw [List.count_cons_of_ne (Ne.symm same), if_neg same]
      simp [same]

end Sorting

/-! Dependencies that have not been placed -/

/-- How many dependencies have not been placed, a repeated one counted again. -/
def pending (placed dependencies : List κ) : Nat := dependencies.countP (· ∉ placed)

/-- At first no dependency has been placed. -/
@[simp]
theorem pending_nil (dependencies : List κ) : pending [] dependencies = dependencies.length := by
  simp [pending]

/-- One dependency more is pending unless it has been placed. -/
theorem pending_cons (placed : List κ) (head : κ) (rest : List κ) :
    pending placed (head :: rest) = pending placed rest + if head ∈ placed then 0 else 1 := by
  unfold pending
  rw [List.countP_cons]
  by_cases done : head ∈ placed <;> simp [done]

/-- When a further key is placed, a list waits for it no more, as often as it had it. -/
theorem pending_concat {placed : List κ} {key : κ} (fresh : key ∉ placed) (dependencies : List κ) :
    pending (placed ++ [key]) dependencies + dependencies.count key =
      pending placed dependencies := by
  induction dependencies with
  | nil => rfl
  | cons head rest ih =>
    rw [pending_cons, pending_cons, ← ih]
    by_cases same : head = key
    · subst same
      rw [List.count_cons_self, if_pos (by simp), if_neg fresh]
      omega
    · have alike : head ∈ placed ++ [key] ↔ head ∈ placed := by simp [same]
      rw [List.count_cons_of_ne same, if_congr alike rfl rfl]
      omega

/-- Nothing is pending when every dependency has been placed. -/
theorem pending_eq_zero_iff (placed dependencies : List κ) :
    pending placed dependencies = 0 ↔ dependencies ⊆ placed := by
  unfold pending
  rw [List.countP_eq_zero]
  simp [List.subset_def]

/-- The counts and the ready keys are exact, and every key was placed in its turn. -/
structure IsSound (map : DependencyMap κ) (sorting : Sorting map.size) : Prop where
  /-- No key was placed twice. -/
  nodup : sorting.placed.Nodup
  /-- It was the turn of every key that was placed. -/
  inTurn : ∀ before position after, sorting.placed = before ++ position :: after →
    map.InTurn before position
  /-- Every key waits for its dependencies that have not been placed. -/
  waits : ∀ position, sorting.waits.get position =
    pending (sorting.placed.map map.keyAt) (map.dependenciesAt position)
  /-- The ready keys are those that have not been placed and whose dependencies have. -/
  ready : ∀ position, position ∈ sorting.ready ↔
    position ∉ sorting.placed ∧ map.IsReady sorting.placed position
  /-- The first of them comes first. -/
  ascending : sorting.ready.Pairwise (· < ·)

namespace IsSound

variable {map : DependencyMap κ} {sorting : Sorting map.size}

/-- Nothing has been placed at first. -/
theorem begin (map : DependencyMap κ) : map.IsSound map.beginSorting where
  nodup := .nil
  inTurn before position after split := absurd split (by simp [beginSorting])
  waits position := (waits_beginSorting map position).trans (pending_nil _).symm
  ready position := by
    have waiting : position ∈ map.beginSorting.ready ↔ map.beginSorting.waits.get position = 0 := by
      show position ∈ (List.finRange map.size).filter (map.beginSorting.waits.get · = 0) ↔ _
      simp only [List.mem_filter, List.mem_finRange, true_and, decide_eq_true_eq]
    rw [waiting, waits_beginSorting, List.length_eq_zero_iff]
    simp [beginSorting, IsReady]
  ascending := (List.pairwise_lt_finRange _).filter _

/-- A key waits for nothing when it is ready. -/
theorem waits_eq_zero_iff (sound : map.IsSound sorting) (position : Fin map.size) :
    sorting.waits.get position = 0 ↔ map.IsReady sorting.placed position := by
  rw [sound.waits, pending_eq_zero_iff]
  rfl

/-- The dependencies of a key that was placed had been placed before. -/
theorem isReady_of_mem_placed (sound : map.IsSound sorting) {position : Fin map.size}
    (placed : position ∈ sorting.placed) : map.IsReady sorting.placed position := by
  obtain ⟨before, after, split⟩ := List.append_of_mem placed
  have ready : map.IsReady before position := (sound.inTurn before position after split).ready
  intro dependency depends
  rw [split, List.map_append]
  exact List.mem_append_left _ (ready depends)

/-- A key lists another one that has not been placed no more often than it waits. -/
theorem count_dependentsOf_le (sound : map.IsSound sorting) {position : Fin map.size}
    (fresh : position ∉ sorting.placed) (dependent : Fin map.size) :
    (map.dependentsOf position).count dependent ≤ sorting.waits.get dependent := by
  have unplaced : map.keyAt position ∉ sorting.placed.map map.keyAt := by
    rwa [List.mem_map_of_injective map.keyAt_injective]
  rw [sound.waits, count_dependentsOf, ← pending_concat unplaced]
  exact Nat.le_add_left _ _

/-- The others are the ready keys besides the first one. -/
theorem mem_others_iff (sound : map.IsSound sorting) {position : Fin map.size}
    {others : List (Fin map.size)} (first : sorting.ready = position :: others)
    (other : Fin map.size) : other ∈ others ↔ other ≠ position ∧ other ∈ sorting.ready := by
  have ascending : (position :: others).Pairwise (· < ·) := first ▸ sound.ascending
  rw [first, List.mem_cons]
  constructor
  · intro later
    have above : position < other := (List.pairwise_cons.mp ascending).1 other later
    exact ⟨ne_of_gt above, .inr later⟩
  · exact fun ready => ready.2.resolve_left ready.1

/-- It is the turn of the first ready key. -/
theorem inTurn_of_ready (sound : map.IsSound sorting) {position : Fin map.size}
    {others : List (Fin map.size)} (first : sorting.ready = position :: others) :
    map.InTurn sorting.placed position where
  fresh := ((sound.ready position).mp (first ▸ List.mem_cons_self)).1
  ready := ((sound.ready position).mp (first ▸ List.mem_cons_self)).2
  first other fresh ready := by
    have member : other ∈ position :: others := first ▸ (sound.ready other).mpr ⟨fresh, ready⟩
    have ascending : (position :: others).Pairwise (· < ·) := first ▸ sound.ascending
    rcases List.mem_cons.mp member with rfl | later
    · exact le_refl other
    · exact le_of_lt ((List.pairwise_cons.mp ascending).1 other later)

/-- When the first ready key is placed, every key waits for as many dependencies less as it lists
that key. -/
theorem waits_place (sound : map.IsSound sorting) {position : Fin map.size}
    (fresh : position ∉ sorting.placed) (others : List (Fin map.size)) (other : Fin map.size) :
    (map.place sorting position others).waits.get other =
        sorting.waits.get other - (map.dependentsOf position).count other ∧
      (map.place sorting position others).waits.get other =
        pending ((sorting.placed ++ [position]).map map.keyAt) (map.dependenciesAt other) := by
  have unplaced : map.keyAt position ∉ sorting.placed.map map.keyAt := by
    rwa [List.mem_map_of_injective map.keyAt_injective]
  have released : (map.place sorting position others).waits.get other =
      sorting.waits.get other - (map.dependentsOf position).count other :=
    Sorting.waits_foldl_release _ _ _
  refine ⟨released, ?_⟩
  have before := pending_concat unplaced (map.dependenciesAt other)
  rw [released, sound.waits, count_dependentsOf, List.map_append, List.map_singleton]
  omega

/-- When the first ready key is placed, a key becomes ready when it waited for nothing else. -/
theorem mem_ready_place_iff (sound : map.IsSound sorting) {position : Fin map.size}
    {others : List (Fin map.size)} (first : sorting.ready = position :: others)
    (other : Fin map.size) :
    other ∈ (map.place sorting position others).ready ↔
      other ∉ sorting.placed ++ [position] ∧
        (map.place sorting position others).waits.get other = 0 := by
  have turn : map.InTurn sorting.placed position := sound.inTurn_of_ready first
  have enough := sound.count_dependentsOf_le turn.fresh
  have often : (map.dependentsOf position).count other ≤ sorting.waits.get other := enough other
  have released : other ∈ (map.place sorting position others).ready ↔ other ∈ others ∨
      other ∈ map.dependentsOf position ∧
        sorting.waits.get other = (map.dependentsOf position).count other :=
    Sorting.mem_ready_foldl_release_iff
      { sorting with ready := others, placed := sorting.placed ++ [position] } _ enough other
  have left : (map.place sorting position others).waits.get other = 0 ↔
      sorting.waits.get other = (map.dependentsOf position).count other := by
    rw [(sound.waits_place turn.fresh others other).1]
    omega
  rw [released, left, List.mem_append, List.mem_singleton]
  by_cases dependent : other ∈ map.dependentsOf position
  · -- It waited for the key that is placed, so it was not ready and has not been placed.
    have waited : 0 < sorting.waits.get other :=
      Nat.lt_of_lt_of_le (List.count_pos_iff.mpr dependent) often
    have unready : ¬ map.IsReady sorting.placed other := by
      rw [← sound.waits_eq_zero_iff]
      omega
    have fresh : other ∉ sorting.placed := fun placed => unready (sound.isReady_of_mem_placed placed)
    have apart : other ≠ position := fun same => unready (same ▸ turn.ready)
    have notAmong : other ∉ others := fun among =>
      unready ((sound.ready other).mp ((sound.mem_others_iff first other).mp among).2).2
    simp [dependent, fresh, apart, notAmong]
  · -- It did not wait for that key, so it is ready if it was.
    have never : (map.dependentsOf position).count other = 0 := List.count_eq_zero.mpr dependent
    rw [sound.mem_others_iff first, sound.ready, ← sound.waits_eq_zero_iff, never]
    simp only [dependent, false_and, or_false, not_or]
    exact ⟨fun known => ⟨⟨known.2.1, known.1⟩, known.2.2⟩,
      fun known => ⟨known.1.2, known.1.1, known.2⟩⟩

/-- Placing the first ready key keeps the counts and the ready keys exact. -/
theorem place (sound : map.IsSound sorting) {position : Fin map.size}
    {others : List (Fin map.size)} (first : sorting.ready = position :: others) :
    map.IsSound (map.place sorting position others) := by
  have turn : map.InTurn sorting.placed position := sound.inTurn_of_ready first
  have ascending : (position :: others).Pairwise (· < ·) := first ▸ sound.ascending
  have placed : (map.place sorting position others).placed = sorting.placed ++ [position] :=
    Sorting.placed_foldl_release _ _
  have waits (other : Fin map.size) : (map.place sorting position others).waits.get other =
      pending ((map.place sorting position others).placed.map map.keyAt)
        (map.dependenciesAt other) := by
    rw [placed]
    exact (sound.waits_place turn.fresh others other).2
  refine ⟨?_, ?_, waits, fun other => ?_, ?_⟩
  · rw [placed]
    exact List.nodup_append.mpr ⟨sound.nodup, by simp, by
      rintro earlier member later (_ | ⟨_, ⟨⟩⟩) rfl
      exact turn.fresh member⟩
  · rw [placed]
    exact forall_split_concat sound.inTurn turn
  · rw [sound.mem_ready_place_iff first, waits, pending_eq_zero_iff, ← placed]
    rfl
  · exact Sorting.ascending_foldl_release _ (List.pairwise_cons.mp ascending).2

/-- Placing keys until none is ready keeps the counts and the ready keys exact. -/
theorem placeAll (sound : map.IsSound sorting) (fuel : Nat) :
    map.IsSound (map.placeAll fuel sorting) := by
  induction fuel generalizing sorting with
  | zero => exact sound
  | succ fuel ih =>
    unfold DependencyMap.placeAll
    split
    · exact sound
    · next position others first => exact ih (sound.place first)

/-- With fuel for every key that has not been placed, keys are placed until none is ready. -/
theorem ready_placeAll (sound : map.IsSound sorting) {fuel : Nat}
    (enough : map.size ≤ sorting.placed.length + fuel) :
    (map.placeAll fuel sorting).ready = [] := by
  induction fuel generalizing sorting with
  | zero =>
    refine List.eq_nil_iff_forall_not_mem.mpr fun position ready => ?_
    have fresh : position ∉ sorting.placed := ((sound.ready position).mp ready).1
    have longer : (position :: sorting.placed).length ≤ Fintype.card (Fin map.size) :=
      (List.nodup_cons.mpr ⟨fresh, sound.nodup⟩).length_le_card
    rw [List.length_cons, Fintype.card_fin] at longer
    omega
  | succ fuel ih =>
    unfold DependencyMap.placeAll
    split
    · next none => exact none
    · next position others first =>
      refine ih (sound.place first) ?_
      have placed : (map.place sorting position others).placed = sorting.placed ++ [position] :=
        Sorting.placed_foldl_release _ _
      rw [placed, List.length_append, List.length_singleton]
      omega

end IsSound

/-- Sorting that came to its end names the first key that still waits, if there is one. -/
theorem sort_eq (map : DependencyMap κ) (complete : map.missing? = none) :
    map.sort =
      (Fin.find? fun position =>
        0 < (map.placeAll map.size map.beginSorting).waits.get position).elim
        (.ok ((map.placeAll map.size map.beginSorting).placed.map map.keyAt))
        fun position => .error (.cycle (map.keyAt position)) := by
  unfold sort
  rw [complete, Fin.find?_eq_find?_finRange]
  dsimp only
  split
  · next position first =>
    rw [first]
    rfl
  · next none =>
    rw [none]
    rfl

/-- When no dependency is missing, keys are placed until none is ready. The answer is all of them,
or else the first one that was not placed. -/
theorem exists_settled {map : DependencyMap κ} (complete : map.missing? = none) :
    ∃ placed, map.IsSettled placed ∧
      ((∀ position, position ∈ placed) ∧ map.sort = .ok (placed.map map.keyAt) ∨
        ∃ position, position ∉ placed ∧ (∀ other, other ∉ placed → position ≤ other) ∧
          map.sort = .error (.cycle (map.keyAt position))) := by
  have sound : map.IsSound (map.placeAll map.size map.beginSorting) :=
    (IsSound.begin map).placeAll map.size
  have finished : (map.placeAll map.size map.beginSorting).ready = [] :=
    (IsSound.begin map).ready_placeAll (Nat.le_add_left _ _)
  have sorts := map.sort_eq complete
  generalize map.placeAll map.size map.beginSorting = sorted at sound finished sorts
  have stuck (position : Fin map.size) (fresh : position ∉ sorted.placed) :
      ¬ map.IsReady sorted.placed position := by
    intro ready
    have member : position ∈ sorted.ready := (sound.ready position).mpr ⟨fresh, ready⟩
    rw [finished] at member
    exact absurd member List.not_mem_nil
  have waits (position : Fin map.size) :
      0 < sorted.waits.get position ↔ position ∉ sorted.placed := by
    rw [Nat.pos_iff_ne_zero, ne_eq, sound.waits_eq_zero_iff]
    exact ⟨fun unready placed => unready (sound.isReady_of_mem_placed placed), stuck position⟩
  refine ⟨sorted.placed, ⟨sound.nodup, sound.inTurn, stuck⟩, ?_⟩
  cases found : Fin.find? fun position => decide (0 < sorted.waits.get position) with
  | none =>
    refine .inl ⟨fun position => ?_, by rw [sorts, found]; rfl⟩
    have idle : ¬ 0 < sorted.waits.get position :=
      of_decide_eq_false (Fin.eq_false_of_find?_eq_none found position)
    rwa [waits, not_not] at idle
  | some position =>
    have waiting : 0 < sorted.waits.get position :=
      of_decide_eq_true (Fin.eq_true_of_find?_eq_some found)
    refine .inr ⟨position, (waits position).mp waiting, fun other fresh => ?_, by rw [sorts, found]; rfl⟩
    by_contra before
    have idle : ¬ 0 < sorted.waits.get other :=
      of_decide_eq_false (Fin.eq_false_of_find?_eq_some_of_lt found other (not_le.mp before))
    exact idle ((waits other).mpr fresh)

end Leasehold.DependencyMap
