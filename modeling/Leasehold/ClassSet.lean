/-!
# Sets of class names

The classes that a client belongs to are listed in the order of their names, each once, however they
were found.
-/
namespace Leasehold

/-- A set of class names. -/
structure ClassSet where
  /-- The names in ascending order. -/
  names : List String
  /-- No name comes twice, and a smaller one comes first. -/
  ascending : names.Pairwise (· < ·)
deriving DecidableEq, Repr

namespace ClassSet

/-- The set without names. -/
def empty : ClassSet := ⟨[], .nil⟩

/-- The name belongs to the set. -/
def contains (set : ClassSet) (name : String) : Bool := set.names.contains name

/-- Put a name in its place among names in ascending order. -/
def place (name : String) : List String → List String
  | [] => [name]
  | other :: rest =>
    if name = other then other :: rest
    else if name < other then name :: other :: rest
    else other :: place name rest

/-- Putting a name in its place adds that name and no other. -/
theorem mem_place (name other : String) (names : List String) :
    other ∈ place name names ↔ other = name ∨ other ∈ names := by
  induction names with
  | nil => simp [place]
  | cons head rest ih =>
    unfold place
    split
    · next same => subst same; simp
    · split
      · simp
      · simp only [List.mem_cons, ih]
        constructor
        · rintro (rfl | rfl | member)
          · exact .inr (.inl rfl)
          · exact .inl rfl
          · exact .inr (.inr member)
        · rintro (rfl | rfl | member)
          · exact .inr (.inl rfl)
          · exact .inl rfl
          · exact .inr (.inr member)

/-- A name put in its place leaves the names in ascending order. -/
theorem ascending_place (name : String) {names : List String}
    (ordered : names.Pairwise (· < ·)) : (place name names).Pairwise (· < ·) := by
  induction names with
  | nil => exact List.pairwise_singleton _ _
  | cons head rest ih =>
    obtain ⟨above, tail⟩ := List.pairwise_cons.mp ordered
    unfold place
    split
    · exact ordered
    · next different =>
      split
      · next before =>
        refine List.pairwise_cons.mpr ⟨fun other member => ?_, ordered⟩
        rcases List.mem_cons.mp member with rfl | inside
        · exact before
        · exact String.lt_trans before (above other inside)
      · next notBefore =>
        have after : head < name := by
          by_cases before : head < name
          · exact before
          · exact absurd
              (String.le_antisymm (String.not_lt.mp before) (String.not_lt.mp notBefore)) different
        refine List.pairwise_cons.mpr ⟨fun other member => ?_, ih tail⟩
        rcases (mem_place name other rest).mp member with rfl | inside
        · exact after
        · exact above other inside

/-- The set with a further name. -/
def insert (set : ClassSet) (name : String) : ClassSet :=
  ⟨place name set.names, ascending_place name set.ascending⟩

/-- The set of the given names. -/
def ofList (names : List String) : ClassSet := names.foldl insert empty

/-- The set admits a client through a guard: there is no guard, or its class is in the set. -/
def allows (set : ClassSet) (guard : Option String) : Bool :=
  match guard with
  | none => true
  | some name => set.contains name

/-- The names in square brackets. -/
def text (set : ClassSet) : String := "[" ++ String.intercalate ", " set.names ++ "]"

/-- A set with a further name contains that name and its own. -/
theorem contains_insert (set : ClassSet) (name other : String) :
    (set.insert name).contains other = (other == name || set.contains other) := by
  simp only [contains, insert]
  rw [Bool.eq_iff_iff]
  simp [mem_place]

end ClassSet

end Leasehold
