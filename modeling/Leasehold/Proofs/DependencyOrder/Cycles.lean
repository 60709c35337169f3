import Mathlib.Data.Fintype.EquivFin
import Mathlib.Logic.Relation
import Mathlib.Order.WellFounded
import Leasehold.Proofs.DependencyOrder.Additions
import Leasehold.Proofs.DependencyOrder.Sorting

/-!
# Dependencies that lead to a cycle

A key is not placed exactly when its dependencies lead to a cycle (`IsSettled.not_mem_iff`): placed
keys depend on keys placed before them, and a key that is not placed depends on another such key, of
which there are finitely many. The key that a failure names is the first one that was added of those
that lead to a cycle (`Additions.cycle_key_spec`). It need not be on a cycle itself.
-/
namespace Leasehold

/-- From the item, one comes to an item that is related to itself over one or more steps. -/
def LeadsToCycle {α : Type} (rel : α → α → Prop) (item : α) : Prop :=
  ∃ other, Relation.ReflTransGen rel item other ∧ Relation.TransGen rel other other

/-- An item that is on a cycle leads to it. -/
theorem LeadsToCycle.of_cycle {α : Type} {rel : α → α → Prop} {item : α}
    (cycle : Relation.TransGen rel item item) : LeadsToCycle rel item :=
  ⟨item, .refl, cycle⟩

/-- A cycle is one of every relation that holds where this one does. -/
theorem LeadsToCycle.lift {α β : Type} {rel : α → α → Prop} {other : β → β → Prop} (f : α → β)
    (related : ∀ left right, rel left right → other (f left) (f right)) {item : α}
    (leads : LeadsToCycle rel item) : LeadsToCycle other (f item) := by
  obtain ⟨last, path, cycle⟩ := leads
  exact ⟨f last, path.lift f related, cycle.lift f related⟩

/-- Of finitely many items, those that are each related to another one of them lead to a cycle. -/
theorem leadsToCycle_of_closed {α : Type} [Finite α] {rel : α → α → Prop} {inside : α → Prop}
    (closed : ∀ item, inside item → ∃ next, inside next ∧ rel item next) {start : α}
    (member : inside start) : LeadsToCycle rel start := by
  by_contra none
  -- Where no cycle is reached, going on is well-founded, and some item is the last.
  let goesOn (next item : α) : Prop := Relation.ReflTransGen rel start item ∧ rel item next
  have acyclic (item : α) : ¬ Relation.TransGen goesOn item item := by
    intro cycle
    have reached : Relation.ReflTransGen rel start item := by
      obtain ⟨last, -, final⟩ := Relation.TransGen.tail'_iff.mp cycle
      exact final.1
    have back : Relation.TransGen (Function.swap rel) item item :=
      cycle.lift id fun _ _ step => step.2
    exact none ⟨item, reached, Relation.transGen_swap.mp back⟩
  have irreflexive : Std.Irrefl (Relation.TransGen goesOn) := ⟨acyclic⟩
  have founded : WellFounded (Relation.TransGen goesOn) :=
    Finite.wellFounded_of_trans_of_irrefl (Relation.TransGen goesOn)
  obtain ⟨last, ⟨reached, within⟩, final⟩ := founded.has_min
    {item | Relation.ReflTransGen rel start item ∧ inside item} ⟨start, .refl, member⟩
  obtain ⟨next, nextWithin, related⟩ := closed last within
  exact final next ⟨reached.tail related, nextWithin⟩ (.single ⟨reached, related⟩)

namespace DependencyMap

variable {κ : Type} {map : DependencyMap κ} {order : List κ}

/-- A key that leads to a cycle depends on another one. -/
theorem mem_keys_of_leadsToCycle {key : κ} (leads : LeadsToCycle map.DependsOn key) :
    key ∈ map.keys := by
  obtain ⟨other, path, cycle⟩ := leads
  have onward : Relation.TransGen map.DependsOn key other := Relation.TransGen.trans_right path cycle
  obtain ⟨next, depends, -⟩ := Relation.TransGen.head'_iff.mp onward
  exact depends.mem_keys

variable [DecidableEq κ]

/-- A key that stands in a list after all that it depends on stands after each of them. -/
theorem Follows.idxOf_lt (follows : Follows map.entries order) {key dependency : κ}
    (depends : map.DependsOn key dependency) (present : key ∈ order) :
    dependency ∈ order ∧ order.idxOf dependency < order.idxOf key := by
  obtain ⟨dependencies, listed, inside⟩ := depends
  obtain ⟨before, after, split, first⟩ := List.eq_append_cons_of_mem present
  have earlier : dependency ∈ before := follows before key after split dependencies listed inside
  refine ⟨split ▸ List.mem_append_left _ earlier, ?_⟩
  rw [split, List.idxOf_append_of_mem earlier, List.idxOf_append_of_notMem first,
    List.idxOf_cons_self]
  exact List.idxOf_lt_length_of_mem earlier

/-- Keys that stand after all that they depend on do not lead to a cycle. -/
theorem Follows.not_leadsToCycle (follows : Follows map.entries order) {key : κ}
    (present : key ∈ order) : ¬ LeadsToCycle map.DependsOn key := by
  have descends {left right : κ} (path : Relation.TransGen map.DependsOn left right)
      (inside : left ∈ order) : right ∈ order ∧ order.idxOf right < order.idxOf left := by
    induction path with
    | single depends => exact follows.idxOf_lt depends inside
    | tail _ depends ih =>
      have next := follows.idxOf_lt depends ih.1
      exact ⟨next.1, next.2.trans ih.2⟩
  rintro ⟨other, path, cycle⟩
  have reached : other ∈ order := by
    rcases Relation.reflTransGen_iff_eq_or_transGen.mp path with rfl | path
    · exact present
    · exact (descends path present).1
  exact Nat.lt_irrefl _ (descends cycle reached).2

/-- When no dependency is missing, the keys that are not placed are those that lead to a cycle. -/
theorem IsSettled.not_mem_iff {placed : List (Fin map.size)} (settled : map.IsSettled placed)
    (complete : map.missing? = none) (position : Fin map.size) :
    position ∉ placed ↔ LeadsToCycle map.DependsOn (map.keyAt position) := by
  constructor
  · intro fresh
    let waitsFor (left right : Fin map.size) : Prop :=
      map.DependsOn (map.keyAt left) (map.keyAt right)
    have closed (item : Fin map.size) (left : item ∉ placed) :
        ∃ next, next ∉ placed ∧ waitsFor item next := by
      have unready : ¬ map.dependenciesAt item ⊆ placed.map map.keyAt := settled.stuck item left
      simp only [List.subset_def, not_forall] at unready
      obtain ⟨dependency, depends, unplaced⟩ := unready
      have listed := (map.mem_entries_iff _ _).mpr ⟨item, rfl, rfl⟩
      obtain ⟨next, rfl⟩ :=
        (map.mem_keys_iff dependency).mp (missing?_eq_none_iff.mp complete _ _ listed depends)
      exact ⟨next, fun inside => unplaced (List.mem_map_of_mem inside),
        (map.dependsOn_keyAt_iff item _).mpr depends⟩
    exact (leadsToCycle_of_closed closed fresh).lift map.keyAt fun _ _ depends => depends
  · intro leads inside
    exact settled.follows.not_leadsToCycle (List.mem_map_of_mem inside) leads

/-- A failure for a cycle comes only when no dependency is missing. It names the first of the keys that
lead to a cycle. -/
theorem exists_of_sort_eq_cycle {key : κ} (failed : map.sort = .error (.cycle key)) :
    map.missing? = none ∧ ∃ position, map.keyAt position = key ∧ LeadsToCycle map.DependsOn key ∧
      ∀ other, LeadsToCycle map.DependsOn (map.keyAt other) → position ≤ other := by
  have complete : map.missing? = none := by
    cases lacks : map.missing? with
    | none => rfl
    | some missing => exact nomatch failed.symm.trans ((sort_eq_missing_iff missing).mpr lacks)
  obtain ⟨placed, settled, ⟨-, ends⟩ | ⟨position, fresh, first, ends⟩⟩ := exists_settled complete
  · rw [ends] at failed
    exact nomatch failed
  · obtain rfl : map.keyAt position = key := by
      rw [ends] at failed
      simpa using failed
    refine ⟨complete, position, rfl, (settled.not_mem_iff complete position).mp fresh, ?_⟩
    exact fun other leads => first other ((settled.not_mem_iff complete other).mpr leads)

end DependencyMap

namespace Additions

variable {κ : Type} [DecidableEq κ]

/-- The key that a failure names leads to a cycle, and every other key that does was first added no
earlier. -/
theorem cycle_key_spec {additions : Additions κ} {key : κ}
    (failed : additions.toMap.sort = .error (.cycle key)) :
    key ∈ additions.keys ∧ LeadsToCycle additions.DependsOn key ∧
      ∀ other, LeadsToCycle additions.DependsOn other →
        additions.firstAdded key ≤ additions.firstAdded other := by
  rw [← additions.dependsOn_toMap]
  obtain ⟨-, position, rfl, leads, first⟩ := DependencyMap.exists_of_sort_eq_cycle failed
  refine ⟨?_, leads, fun other leadsToo => ?_⟩
  · exact (additions.mem_keys_toMap_iff _).mp (DependencyMap.mem_keys_of_leadsToCycle leads)
  · obtain ⟨later, rfl⟩ := (additions.toMap.mem_keys_iff other).mp
      (DependencyMap.mem_keys_of_leadsToCycle leadsToo)
    exact additions.strictMono_firstAdded.monotone (first later leadsToo)

namespace Sample

/-- A key that waits for two others, which wait for each other. -/
def waitingForCycle : Additions String := [("a", ["b"]), ("b", ["c"]), ("c", ["b"])]

end Sample

/-- The condition can be met: a key that depends on a cycle was added before those on it. -/
theorem cycle_key_spec_of_waiting :
    Sample.waitingForCycle.toMap.sort = .error (.cycle "a") ∧
      "a" ∈ Sample.waitingForCycle.keys ∧
        LeadsToCycle Sample.waitingForCycle.DependsOn "a" ∧
          ∀ other, LeadsToCycle Sample.waitingForCycle.DependsOn other →
            Sample.waitingForCycle.firstAdded "a" ≤ Sample.waitingForCycle.firstAdded other :=
  have failed : Sample.waitingForCycle.toMap.sort = .error (.cycle "a") := by decide
  ⟨failed, cycle_key_spec failed⟩

/-- The key that a failure names takes part in no cycle when it was added before those that do. -/
theorem reported_off_cycle :
    Sample.waitingForCycle.toMap.sort = .error (.cycle "a") ∧
      ¬ Relation.TransGen Sample.waitingForCycle.DependsOn "a" "a" := by
  refine ⟨by decide, fun cycle => ?_⟩
  obtain ⟨last, -, -, dependencies, ⟨before, after, split, -⟩, depends⟩ :=
    Relation.TransGen.tail'_iff.mp cycle
  have listed : (last, dependencies) ∈ Sample.waitingForCycle := split ▸ by simp
  have absent : ∀ addition ∈ Sample.waitingForCycle, "a" ∉ addition.2 := by decide
  exact absent _ listed depends

end Additions

end Leasehold
