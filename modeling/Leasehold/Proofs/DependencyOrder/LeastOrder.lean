import Mathlib.Data.List.Perm.Basic
import Leasehold.Proofs.DependencyOrder.Cycles

/-!
# The least order of keys that were added

What sorting answers can be told from the additions alone (`Additions.sort_toMap_spec`). It fails
for want of a key exactly when some key depends on one that was never added, and otherwise for a cycle
exactly when there is one. In all other cases it answers with the least of the lists that have every
key once and after the keys it depends on, by the places at which keys were first added.
-/
namespace Leasehold

namespace DependencyMap

variable {κ : Type} [DecidableEq κ] {map : DependencyMap κ}

/-- The missing dependency is one of a key, and was not added. -/
theorem exists_dependsOn_of_missing? {missing : κ} (found : map.missing? = some missing) :
    missing ∉ map.keys ∧ ∃ key, map.DependsOn key missing := by
  unfold missing? at found
  obtain ⟨absent, before, after, split, -⟩ := List.find?_eq_some_iff_append.mp found
  have wanted : missing ∈ map.entries.flatMap Prod.snd := split ▸ by simp
  obtain ⟨⟨key, dependencies⟩, listed, depends⟩ := List.mem_flatMap.mp wanted
  exact ⟨of_decide_eq_true absent, key, dependencies, listed, depends⟩

end DependencyMap

namespace Additions

variable {κ : Type} [DecidableEq κ] {additions : Additions κ} {order : List κ}

/-- Some key depends on one that was never added. -/
def LacksKey (additions : Additions κ) : Prop :=
  ∃ key dependency, additions.DependsOn key dependency ∧ dependency ∉ additions.keys

/-- Some key depends on itself over other keys. -/
def HasCycle (additions : Additions κ) : Prop := ∃ key, Relation.TransGen additions.DependsOn key key

/-- The list has every key that was added once, each after the keys it depends on. -/
structure Arranges (additions : Additions κ) (order : List κ) : Prop where
  /-- No key stands twice. -/
  nodup : order.Nodup
  /-- The keys are those that were added. -/
  keys : ∀ key, key ∈ order ↔ key ∈ additions.keys
  /-- Before a key stand those it depends on. -/
  follows : ∀ before key after, order = before ++ key :: after →
    ∀ dependency, additions.DependsOn key dependency → dependency ∈ before

/-- The list is arranged, and no arranged list is lexicographically less, by the places at which keys
were first added. -/
def ArrangesLeast (additions : Additions κ) (order : List κ) : Prop :=
  additions.Arranges order ∧ ∀ other, additions.Arranges other →
    ¬ other.map additions.firstAdded < order.map additions.firstAdded

/-- The orders of the map are the arranged lists. -/
theorem isOrder_toMap_iff : additions.toMap.IsOrder order ↔ additions.Arranges order := by
  constructor
  · intro ordered
    refine ⟨ordered.nodup, fun key => ?_, fun before key after split dependency depends => ?_⟩
    · rw [ordered.keys.mem_iff, mem_keys_toMap_iff]
    · obtain ⟨dependencies, listed, inside⟩ := additions.dependsOn_iff.mp depends
      exact ordered.follows before key after split dependencies listed inside
  · intro arranged
    refine ⟨?_, fun before key after split dependencies listed dependency inside => ?_⟩
    · refine (List.perm_ext_iff_of_nodup arranged.nodup additions.toMap.distinct).mpr fun key => ?_
      rw [arranged.keys]
      exact (additions.mem_keys_toMap_iff key).symm
    · exact arranged.follows before key after split dependency
        (additions.dependsOn_iff.mpr ⟨dependencies, listed, inside⟩)

/-- A dependency is missing from the map when some key depends on one that was never added. -/
theorem missing?_toMap_eq_none_iff : additions.toMap.missing? = none ↔ ¬ additions.LacksKey := by
  rw [DependencyMap.missing?_eq_none_iff]
  constructor
  · rintro complete ⟨key, dependency, depends, absent⟩
    obtain ⟨dependencies, listed, inside⟩ := additions.dependsOn_iff.mp depends
    exact absent ((additions.mem_keys_toMap_iff _).mp (complete key dependencies listed inside))
  · intro complete key dependencies listed dependency inside
    by_contra absent
    rw [mem_keys_toMap_iff] at absent
    exact complete
      ⟨key, dependency, additions.dependsOn_iff.mpr ⟨dependencies, listed, inside⟩, absent⟩

/-- Sorting fails for want of a key when some key depends on one that was never added. -/
theorem exists_sort_eq_missing_iff (additions : Additions κ) :
    (∃ missing, additions.toMap.sort = .error (.missing missing)) ↔ additions.LacksKey := by
  simp only [DependencyMap.sort_eq_missing_iff]
  rw [← Option.ne_none_iff_exists', ne_eq, missing?_toMap_eq_none_iff, not_not]

/-- The key that sorting fails for want of was never added, and some key depends on it. -/
theorem of_sort_eq_missing {missing : κ} (failed : additions.toMap.sort = .error (.missing missing)) :
    missing ∉ additions.keys ∧ ∃ key, additions.DependsOn key missing := by
  have found := (DependencyMap.sort_eq_missing_iff missing).mp failed
  obtain ⟨absent, key, depends⟩ := DependencyMap.exists_dependsOn_of_missing? found
  rw [mem_keys_toMap_iff] at absent
  exact ⟨absent, key, additions.dependsOn_iff.mpr depends⟩

/-- With no key lacking, sorting fails for a cycle when there is one. -/
theorem exists_sort_eq_cycle (complete : ¬ additions.LacksKey) (cyclic : additions.HasCycle) :
    ∃ key, additions.toMap.sort = .error (.cycle key) := by
  obtain ⟨key, cycle⟩ := cyclic
  have complete := missing?_toMap_eq_none_iff.mpr complete
  obtain ⟨placed, settled, outcome⟩ := DependencyMap.exists_settled complete
  have leads : LeadsToCycle additions.toMap.DependsOn key := by
    rw [additions.dependsOn_toMap]
    exact .of_cycle cycle
  obtain ⟨position, rfl⟩ := (additions.toMap.mem_keys_iff key).mp
    (DependencyMap.mem_keys_of_leadsToCycle leads)
  have left : position ∉ placed := (settled.not_mem_iff complete position).mpr leads
  rcases outcome with ⟨all, -⟩ | ⟨first, -, -, ends⟩
  · exact absurd (all position) left
  · exact ⟨_, ends⟩

/-- What sorting answers with is the least arranged list. -/
theorem arrangesLeast_of_sort (sorted : additions.toMap.sort = .ok order) :
    additions.ArrangesLeast order := by
  have ordered := DependencyMap.isOrder_of_sort sorted
  refine ⟨isOrder_toMap_iff.mp ordered, fun other arranged => ?_⟩
  have complete := DependencyMap.missing?_eq_none_of_isOrder ordered
  obtain ⟨placed, settled, ⟨-, ends⟩ | ⟨position, -, -, ends⟩⟩ :=
    DependencyMap.exists_settled complete
  · rw [ends] at sorted
    cases sorted
    exact settled.not_lt_of_isOrder additions.strictMono_firstAdded (isOrder_toMap_iff.mpr arranged)
  · rw [ends] at sorted
    exact nomatch sorted

/-- Sorting fails for want of a key exactly when some key depends on one that was never added, and
then names such a one. Otherwise it fails for a cycle exactly when there is one. In all other cases,
and only then, it answers with the least arranged list. -/
theorem sort_toMap_spec (additions : Additions κ) :
    ((∃ missing, additions.toMap.sort = .error (.missing missing)) ↔ additions.LacksKey) ∧
      (∀ missing, additions.toMap.sort = .error (.missing missing) →
        missing ∉ additions.keys ∧ ∃ key, additions.DependsOn key missing) ∧
      ((∃ key, additions.toMap.sort = .error (.cycle key)) ↔
        ¬ additions.LacksKey ∧ additions.HasCycle) ∧
      ((∃ order, additions.toMap.sort = .ok order ∧ additions.ArrangesLeast order) ↔
        ¬ additions.LacksKey ∧ ¬ additions.HasCycle) := by
  have lacks := additions.exists_sort_eq_missing_iff
  have fails {key : κ} (failed : additions.toMap.sort = .error (.cycle key)) :
      ¬ additions.LacksKey ∧ additions.HasCycle := by
    obtain ⟨complete, -, -, ⟨other, -, cycle⟩, -⟩ := DependencyMap.exists_of_sort_eq_cycle failed
    rw [additions.dependsOn_toMap] at cycle
    exact ⟨missing?_toMap_eq_none_iff.mp complete, other, cycle⟩
  refine ⟨lacks, fun missing => of_sort_eq_missing, ⟨?_, ?_⟩, ?_, ?_⟩
  · rintro ⟨key, failed⟩
    exact fails failed
  · rintro ⟨complete, cyclic⟩
    exact exists_sort_eq_cycle complete cyclic
  · rintro ⟨order, sorted, -⟩
    have complete : ¬ additions.LacksKey := by
      intro lacking
      obtain ⟨missing, failed⟩ := lacks.mpr lacking
      exact nomatch sorted.symm.trans failed
    refine ⟨complete, fun cyclic => ?_⟩
    obtain ⟨key, failed⟩ := exists_sort_eq_cycle complete cyclic
    exact nomatch sorted.symm.trans failed
  · rintro ⟨complete, acyclic⟩
    cases answer : additions.toMap.sort with
    | ok order => exact ⟨order, rfl, arrangesLeast_of_sort answer⟩
    | error failure =>
      cases failure with
      | missing missing => exact absurd (lacks.mp ⟨missing, answer⟩) complete
      | cycle key => exact absurd (fails answer).2 acyclic

/-- Of keys that could come next, the one that was added first does. -/
example :
    (toMap [("d", ["b", "c", "e"]), ("a", []), ("c", ["a"]), ("e", ["a", "c"]), ("b", ["a"])]).sort =
      .ok ["a", "c", "e", "b", "d"] := by decide

end Additions

end Leasehold
