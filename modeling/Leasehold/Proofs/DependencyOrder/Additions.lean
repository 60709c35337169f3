import Leasehold.FirstOccurrences
import Leasehold.Proofs.DependencyOrder.Counting

/-!
# Keys added one after another

What a dependency map says after any sequence of additions can be told from the sequence. A key
depends on what it was last added with, itself excepted (`Additions.dependsOn_toMap`), and keys
stand in the order in which they were added first (`Additions.strictMono_firstAdded`).
-/
namespace Leasehold

namespace DependencyMap

variable {κ : Type}

/-- A key of the map depends on those that it lists. -/
def DependsOn (map : DependencyMap κ) (key dependency : κ) : Prop :=
  ∃ dependencies, (key, dependencies) ∈ map.entries ∧ dependency ∈ dependencies

/-- Between positions, dependencies are those of the keys there. -/
theorem dependsOn_keyAt_iff (map : DependencyMap κ) (position : Fin map.size) (dependency : κ) :
    map.DependsOn (map.keyAt position) dependency ↔ dependency ∈ map.dependenciesAt position := by
  constructor
  · rintro ⟨dependencies, listed, depends⟩
    obtain ⟨other, same, rfl⟩ := (map.mem_entries_iff _ _).mp listed
    rwa [← map.keyAt_injective same]
  · intro depends
    exact ⟨_, (map.mem_entries_iff _ _).mpr ⟨position, rfl, rfl⟩, depends⟩

/-- What depends on a key is a key. -/
theorem DependsOn.mem_keys {map : DependencyMap κ} {key dependency : κ}
    (depends : map.DependsOn key dependency) : key ∈ map.keys := by
  obtain ⟨dependencies, listed, -⟩ := depends
  exact List.mem_map_of_mem listed

variable [DecidableEq κ]

/-- When the dependencies of a key are replaced, it has the new ones, and other keys have theirs. -/
theorem mem_replace_iff {key : κ} {dependencies : List κ} {entries : List (κ × List κ)}
    (distinct : (entries.map Prod.fst).Nodup) (present : key ∈ entries.map Prod.fst)
    (other : κ) (listed : List κ) :
    (other, listed) ∈ replace key dependencies entries ↔
      other = key ∧ listed = dependencies ∨ other ≠ key ∧ (other, listed) ∈ entries := by
  induction entries with
  | nil => exact absurd present List.not_mem_nil
  | cons entry rest ih =>
    obtain ⟨head, old⟩ := entry
    rw [List.map_cons, List.nodup_cons] at distinct
    unfold replace
    by_cases same : head = key
    · subst same
      have apart : (other, listed) ∈ rest → other ≠ head := by
        rintro inside rfl
        exact distinct.1 (List.mem_map.mpr ⟨_, inside, rfl⟩)
      rw [if_pos rfl, List.mem_cons, List.mem_cons, Prod.mk.injEq, Prod.mk.injEq]
      constructor
      · rintro (⟨rfl, rfl⟩ | inside)
        · exact .inl ⟨rfl, rfl⟩
        · exact .inr ⟨apart inside, .inr inside⟩
      · rintro (⟨rfl, rfl⟩ | ⟨different, ⟨rfl, -⟩ | inside⟩)
        · exact .inl ⟨rfl, rfl⟩
        · exact absurd rfl different
        · exact .inr inside
    · have later : key ∈ rest.map Prod.fst := (List.mem_cons.mp present).resolve_left (Ne.symm same)
      rw [if_neg same, List.mem_cons, List.mem_cons, ih distinct.2 later, Prod.mk.injEq]
      constructor
      · rintro (⟨rfl, rfl⟩ | ⟨rfl, rfl⟩ | ⟨different, inside⟩)
        · exact .inr ⟨same, .inl ⟨rfl, rfl⟩⟩
        · exact .inl ⟨rfl, rfl⟩
        · exact .inr ⟨different, .inr inside⟩
      · rintro (⟨rfl, rfl⟩ | ⟨different, ⟨rfl, rfl⟩ | inside⟩)
        · exact .inr (.inl ⟨rfl, rfl⟩)
        · exact .inl ⟨rfl, rfl⟩
        · exact .inr (.inr ⟨different, inside⟩)

/-- After an addition the key has the dependencies that it was added with, itself excepted, and other
keys have theirs. -/
theorem mem_entries_add_iff (map : DependencyMap κ) (key : κ) (dependencies : List κ) (other : κ)
    (listed : List κ) :
    (other, listed) ∈ (map.add key dependencies).entries ↔
      other = key ∧ listed = dependencies.filter (· ≠ key) ∨
        other ≠ key ∧ (other, listed) ∈ map.entries := by
  unfold add
  by_cases present : key ∈ map.keys
  · rw [dif_pos present]
    exact mem_replace_iff map.distinct present other listed
  · have apart : (other, listed) ∈ map.entries → other ≠ key := by
      rintro inside rfl
      exact present (List.mem_map_of_mem inside)
    rw [dif_neg present, List.mem_append, List.mem_singleton, Prod.mk.injEq, or_comm]
    exact or_congr_right ⟨fun inside => ⟨apart inside, inside⟩, And.right⟩

end DependencyMap

/-- Of two items that occur in a list, the first occurrences have the earlier one first. -/
theorem pairwise_idxOf_firstOccurrences {α : Type} [DecidableEq α] (items : List α) :
    (firstOccurrences items).Pairwise fun earlier later =>
      items.idxOf earlier < items.idxOf later := by
  induction items using List.reverseRecOn with
  | nil => exact .nil
  | append_singleton items last ih =>
    have kept : (firstOccurrences items).Pairwise fun earlier later =>
        (items ++ [last]).idxOf earlier < (items ++ [last]).idxOf later := by
      refine ih.imp_of_mem fun {earlier later} first second before => ?_
      rw [mem_firstOccurrences] at first second
      rwa [List.idxOf_append_of_mem first, List.idxOf_append_of_mem second]
    have longer : firstOccurrences (items ++ [last]) =
        if last ∈ firstOccurrences items then firstOccurrences items
        else firstOccurrences items ++ [last] := by
      unfold firstOccurrences
      rw [List.foldl_append]
      rfl
    rw [longer]
    by_cases present : last ∈ firstOccurrences items
    · rwa [if_pos present]
    · rw [if_neg present]
      refine List.pairwise_append.mpr ⟨kept, List.pairwise_singleton _ _, fun earlier first => ?_⟩
      rw [mem_firstOccurrences] at first present
      rintro later (_ | ⟨_, ⟨⟩⟩)
      rw [List.idxOf_append_of_mem first, List.idxOf_append_of_notMem present]
      exact Nat.lt_of_lt_of_le (List.idxOf_lt_length_of_mem first) (Nat.le_add_right _ _)

/-- Keys to be added one after another, each with its dependencies. -/
abbrev Additions (κ : Type) := List (κ × List κ)

namespace Additions

variable {κ : Type}

/-- The keys, each as often as it is added. -/
def keys (additions : Additions κ) : List κ := additions.map Prod.fst

/-- The key is added with the dependencies, and not again after that. -/
def LastAdded (additions : Additions κ) (key : κ) (dependencies : List κ) : Prop :=
  ∃ before after : Additions κ,
    additions = before ++ (key, dependencies) :: after ∧ key ∉ after.keys

/-- A key depends on the other keys that it was last added with. -/
def DependsOn (additions : Additions κ) (key dependency : κ) : Prop :=
  dependency ≠ key ∧
    ∃ dependencies, additions.LastAdded key dependencies ∧ dependency ∈ dependencies

/-- After one more addition the key was last added with that one, and other keys as before. -/
theorem lastAdded_concat_iff (additions : Additions κ) (key : κ) (dependencies : List κ) (other : κ)
    (listed : List κ) :
    LastAdded (additions ++ [(key, dependencies)]) other listed ↔
      other = key ∧ listed = dependencies ∨ other ≠ key ∧ additions.LastAdded other listed := by
  constructor
  · rintro ⟨before, after, split, last⟩
    rcases List.eq_nil_or_concat after with rfl | ⟨others, final, rfl⟩
    · obtain ⟨-, same⟩ := List.append_inj' split rfl
      cases same
      exact .inl ⟨rfl, rfl⟩
    · rw [List.concat_eq_append, ← List.cons_append, ← List.append_assoc] at split
      obtain ⟨rfl, same⟩ := List.append_inj' split rfl
      cases same
      have apart : other ≠ key ∧ other ∉ keys others := by simpa [keys, not_or, and_comm] using last
      exact .inr ⟨apart.1, before, others, rfl, apart.2⟩
  · rintro (⟨rfl, rfl⟩ | ⟨different, before, after, rfl, last⟩)
    · exact ⟨additions, [], rfl, List.not_mem_nil⟩
    · refine ⟨before, after ++ [(key, dependencies)], by simp, ?_⟩
      unfold keys at last ⊢
      simp [last, different]

variable [DecidableEq κ]

/-- At which place in the sequence a key is added first. -/
def firstAdded (additions : Additions κ) (key : κ) : Nat := additions.keys.idxOf key

/-- The map after all additions. -/
def toMap (additions : Additions κ) : DependencyMap κ :=
  additions.foldl (fun map addition => map.add addition.1 addition.2) .empty

/-- One more addition is made to the map after those before it. -/
theorem toMap_concat (additions : Additions κ) (key : κ) (dependencies : List κ) :
    toMap (additions ++ [(key, dependencies)]) = additions.toMap.add key dependencies := by
  unfold toMap
  rw [List.foldl_append]
  rfl

/-- A key has the dependencies that it was last added with, itself excepted. -/
theorem mem_entries_toMap_iff (additions : Additions κ) (key : κ) (listed : List κ) :
    (key, listed) ∈ additions.toMap.entries ↔
      ∃ dependencies, additions.LastAdded key dependencies ∧
        listed = dependencies.filter (· ≠ key) := by
  induction additions using List.reverseRecOn with
  | nil =>
    constructor
    · exact fun listed => absurd listed List.not_mem_nil
    · rintro ⟨dependencies, ⟨before, after, split, -⟩, -⟩
      exact absurd split (by simp)
  | append_singleton additions addition ih =>
    obtain ⟨added, dependencies⟩ := addition
    rw [toMap_concat, DependencyMap.mem_entries_add_iff, ih]
    simp only [lastAdded_concat_iff]
    by_cases same : key = added
    · subst same
      simp
    · simp [same]

/-- In the map a key depends on the other keys that it was last added with. -/
theorem dependsOn_toMap (additions : Additions κ) :
    additions.toMap.DependsOn = additions.DependsOn := by
  funext key dependency
  refine propext ?_
  unfold DependencyMap.DependsOn
  simp only [mem_entries_toMap_iff]
  constructor
  · rintro ⟨_, ⟨dependencies, added, rfl⟩, depends⟩
    obtain ⟨inside, different⟩ := List.mem_filter.mp depends
    exact ⟨of_decide_eq_true different, dependencies, added, inside⟩
  · rintro ⟨different, dependencies, added, inside⟩
    exact ⟨_, ⟨dependencies, added, rfl⟩, List.mem_filter.mpr ⟨inside, decide_eq_true different⟩⟩

/-- A key depends on those that it lists in the map. -/
theorem dependsOn_iff (additions : Additions κ) {key dependency : κ} :
    additions.DependsOn key dependency ↔
      ∃ dependencies, (key, dependencies) ∈ additions.toMap.entries ∧ dependency ∈ dependencies := by
  rw [← dependsOn_toMap]
  rfl

/-- The keys of the map are those that were added, in the order in which they were added first. -/
theorem keys_toMap (additions : Additions κ) :
    additions.toMap.keys = firstOccurrences additions.keys := by
  induction additions using List.reverseRecOn with
  | nil => rfl
  | append_singleton additions addition ih =>
    obtain ⟨added, dependencies⟩ := addition
    rw [toMap_concat, DependencyMap.keys_add, ih]
    unfold firstOccurrences keys
    rw [List.map_append, List.foldl_append]
    rfl

/-- A key is in the map when it was added. -/
theorem mem_keys_toMap_iff (additions : Additions κ) (key : κ) :
    key ∈ additions.toMap.keys ↔ key ∈ additions.keys := by
  rw [keys_toMap, mem_firstOccurrences]

/-- A key stands later in the map when it was first added later. -/
theorem strictMono_firstAdded (additions : Additions κ) :
    StrictMono fun position => additions.firstAdded (additions.toMap.keyAt position) := by
  have sorted : additions.toMap.keys.Pairwise fun earlier later =>
      additions.firstAdded earlier < additions.firstAdded later := by
    rw [keys_toMap]
    exact pairwise_idxOf_firstOccurrences additions.keys
  rw [← DependencyMap.map_keyAt_finRange, List.pairwise_map] at sorted
  intro earlier later before
  simpa using List.pairwise_iff_getElem.mp sorted earlier later (by simp) (by simp) before

end Additions

end Leasehold

