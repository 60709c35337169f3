import Leasehold.Text.Quoted

/-!
# Ordering keys by their dependencies

A dependency map holds keys and, for each, the keys that have to come before it. Sorting lists every
key once, each after all it depends on; of the keys that could come next, the one added first does.
For that it counts how many dependencies every key still waits for. Sorting fails when a key depends
on one that was never added, and otherwise when some keys wait for each other; then it names the first
of the keys that could not be placed.
-/
namespace Leasehold

/-- Keys in the order they were added, each with the keys it depends on. -/
structure DependencyMap (κ : Type) where
  /-- The keys, each with its dependencies. -/
  entries : List (κ × List κ)
  /-- No key comes twice. -/
  distinct : (entries.map Prod.fst).Nodup

/-- Why the keys of a map have no order. -/
inductive OrderError (κ : Type) where
  /-- Keys wait for each other, so that this key could not be placed. -/
  | cycle (key : κ)
  /-- A dependency that was never added. -/
  | missing (key : κ)
deriving DecidableEq, Repr

/-- The wording of each error. -/
def OrderError.message : OrderError String → String
  | .cycle key => "cycle detected in dependency map at " ++ Text.quoted key
  | .missing key => "entry " ++ Text.quoted key ++ " not found in dependency map"

namespace DependencyMap

variable {κ : Type} [DecidableEq κ]

/-- The map without keys. -/
def empty : DependencyMap κ := ⟨[], .nil⟩

/-- The keys in the order they were added. -/
def keys (map : DependencyMap κ) : List κ := map.entries.map Prod.fst

/-- Replace the dependencies of a key that is in the list of entries. -/
def replace (key : κ) (dependencies : List κ) : List (κ × List κ) → List (κ × List κ)
  | [] => []
  | (other, old) :: rest =>
    if other = key then (key, dependencies) :: rest
    else (other, old) :: replace key dependencies rest

/-- Replacing the dependencies of a key changes no key. -/
theorem keys_replace (key : κ) (dependencies : List κ) (entries : List (κ × List κ)) :
    (replace key dependencies entries).map Prod.fst = entries.map Prod.fst := by
  induction entries with
  | nil => rfl
  | cons entry rest ih =>
    obtain ⟨other, old⟩ := entry
    unfold replace
    split
    · next same => simp [same]
    · simp [ih]

/-- Add a key with its dependencies, or give a key that was added before new ones. A key does not
depend on itself. -/
def add (map : DependencyMap κ) (key : κ) (dependencies : List κ) : DependencyMap κ :=
  let others := dependencies.filter (· ≠ key)
  if present : key ∈ map.keys then
    ⟨replace key others map.entries, by rw [keys_replace]; exact map.distinct⟩
  else
    ⟨map.entries ++ [(key, others)], by
      rw [List.map_append]
      refine List.nodup_append.mpr
        ⟨map.distinct, by simp, fun other inside last found same => ?_⟩
      have added : other = key := same.trans (List.mem_singleton.mp found)
      exact present (added ▸ inside)⟩

/-- A key that is added is a key, and it comes last unless it was one already. -/
theorem keys_add (map : DependencyMap κ) (key : κ) (dependencies : List κ) :
    (map.add key dependencies).keys = if key ∈ map.keys then map.keys else map.keys ++ [key] := by
  unfold add
  by_cases present : key ∈ map.keys
  · rw [dif_pos present, if_pos present]
    exact keys_replace key _ map.entries
  · rw [dif_neg present, if_neg present]
    exact List.map_append

/-- The first dependency, in the order of the keys and then of their dependencies, that is no key.
-/
def missing? (map : DependencyMap κ) : Option κ :=
  (map.entries.flatMap Prod.snd).find? (· ∉ map.keys)

/-- The number of keys. -/
abbrev size (map : DependencyMap κ) : Nat := map.entries.length

/-- The key at a position in the order in which keys were added. -/
def keyAt (map : DependencyMap κ) (position : Fin map.size) : κ := (map.entries.get position).1

/-- What the key at a position depends on, in the order and as often as it was listed. -/
def dependenciesAt (map : DependencyMap κ) (position : Fin map.size) : List κ :=
  (map.entries.get position).2

/-- The positions of the keys that list the key at a position, each as often as it does. -/
def dependentsOf (map : DependencyMap κ) (position : Fin map.size) : List (Fin map.size) :=
  (List.finRange map.size).flatMap fun dependent =>
    List.replicate ((map.dependenciesAt dependent).count (map.keyAt position)) dependent

/-- Keys in the course of sorting, given by their positions. -/
structure Sorting (count : Nat) where
  /-- How many dependencies of each key have not been placed, a repeated one counted again. -/
  waits : Vector Nat count
  /-- The keys that could be placed next, in ascending order. -/
  ready : List (Fin count)
  /-- The keys that have been placed, in their order. -/
  placed : List (Fin count)

namespace Sorting

/-- Put a position in its place among positions in ascending order. -/
def insertAscending {count : Nat} (position : Fin count) (positions : List (Fin count)) :
    List (Fin count) :=
  positions.filter (· < position) ++ position :: positions.filter (position < ·)

/-- A key has one dependency less to wait for, and is ready once it waits for none. -/
def release {count : Nat} (sorting : Sorting count) (position : Fin count) : Sorting count :=
  let left := sorting.waits.get position - 1
  { sorting with
    waits := sorting.waits.set position left
    ready := if left = 0 then insertAscending position sorting.ready else sorting.ready }

end Sorting

/-- Before any key is placed, each waits for all that it lists. -/
def beginSorting (map : DependencyMap κ) : Sorting map.size :=
  let waits := .ofFn fun position => (map.dependenciesAt position).length
  { waits, ready := (List.finRange map.size).filter (waits.get · = 0), placed := [] }

/-- Place the first ready key, after which the others are ready, and release those that list it. -/
def place (map : DependencyMap κ) (sorting : Sorting map.size) (position : Fin map.size)
    (others : List (Fin map.size)) : Sorting map.size :=
  (map.dependentsOf position).foldl Sorting.release
    { sorting with ready := others, placed := sorting.placed ++ [position] }

/-- Place keys until none is ready. No key is placed twice, so that fuel for every key will do. -/
def placeAll (map : DependencyMap κ) : Nat → Sorting map.size → Sorting map.size
  | 0, sorting => sorting
  | fuel + 1, sorting =>
    match sorting.ready with
    | [] => sorting
    | position :: others => map.placeAll fuel (map.place sorting position others)

/-- Every key once, each after the keys it depends on. -/
def sort (map : DependencyMap κ) : Except (OrderError κ) (List κ) :=
  match map.missing? with
  | some key => .error (.missing key)
  | none =>
    let sorted := map.placeAll map.size map.beginSorting
    match (List.finRange map.size).find? (0 < sorted.waits.get ·) with
    | some position => .error (.cycle (map.keyAt position))
    | none => .ok (sorted.placed.map map.keyAt)

end DependencyMap

end Leasehold
