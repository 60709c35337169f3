/-!
# Lists without repetitions
-/
namespace Leasehold

/-- Where no two items have one key, each is found by its own. -/
theorem find?_eq_some_of_nodup {α κ : Type} [BEq κ] [LawfulBEq κ] (key : α → κ) {items : List α}
    (distinct : (items.map key).Nodup) {item : α} (member : item ∈ items) :
    items.find? (key · == key item) = some item := by
  induction items with
  | nil => exact absurd member List.not_mem_nil
  | cons head rest ih =>
    obtain ⟨different, distinct⟩ := List.nodup_cons.mp distinct
    rcases List.mem_cons.mp member with rfl | later
    · exact List.find?_cons_of_pos (beq_self_eq_true _)
    · have passed : (key head == key item) = false := by
        refine beq_eq_false_iff_ne.mpr fun same => different ?_
        rw [same]
        exact List.mem_map_of_mem later
      rw [List.find?_cons, passed]
      exact ih distinct later

/-- The items of a list without later repetitions. -/
def firstOccurrences {α : Type} [DecidableEq α] (items : List α) : List α :=
  items.foldl (fun found item => if item ∈ found then found else found ++ [item]) []

/-- The items that are kept from a list, after those that were kept before it. -/
theorem firstOccurrences_foldl {α : Type} [DecidableEq α] (items kept : List α)
    (distinct : kept.Nodup) :
    let found := items.foldl
      (fun found item => if item ∈ found then found else found ++ [item]) kept
    found.Nodup ∧ ∀ item, item ∈ found ↔ item ∈ kept ∨ item ∈ items := by
  induction items generalizing kept with
  | nil => simpa using distinct
  | cons head rest ih =>
    by_cases present : head ∈ kept
    · obtain ⟨once, same⟩ := ih kept distinct
      refine ⟨by simpa [present] using once, fun item => ?_⟩
      simp only [List.foldl_cons, present, ↓reduceIte, same, List.mem_cons]
      constructor
      · rintro (old | later)
        · exact .inl old
        · exact .inr (.inr later)
      · rintro (old | rfl | later)
        · exact .inl old
        · exact .inl present
        · exact .inr later
    · have longer : (kept ++ [head]).Nodup := by
        refine List.nodup_append.mpr ⟨distinct, by simp, fun other inside last found same => ?_⟩
        exact present (same.trans (List.mem_singleton.mp found) ▸ inside)
      obtain ⟨once, same⟩ := ih (kept ++ [head]) longer
      refine ⟨by simpa [present] using once, fun item => ?_⟩
      simp only [List.foldl_cons, present, ↓reduceIte, same, List.mem_append, List.mem_cons,
        List.not_mem_nil, or_false, or_assoc]

/-- What is kept after other items is what would be kept without them, less these items. -/
theorem firstOccurrences_foldl_eq {α : Type} [DecidableEq α] (items kept : List α) :
    items.foldl (fun found item => if item ∈ found then found else found ++ [item]) kept =
      kept ++ (firstOccurrences items).filter (· ∉ kept) := by
  induction items generalizing kept with
  | nil => exact (List.append_nil kept).symm
  | cons head rest ih =>
    have first : firstOccurrences (head :: rest) =
        head :: (firstOccurrences rest).filter (· ∉ [head]) := ih [head]
    rw [List.foldl_cons, first]
    by_cases present : head ∈ kept
    · rw [if_pos present, ih, List.filter_cons_of_neg (by simpa using present), List.filter_filter]
      refine congrArg (kept ++ ·) (List.filter_congr fun item _ => ?_)
      by_cases same : item = head
      · simp [same, present]
      · simp [same]
    · rw [if_neg present, ih, List.filter_cons_of_pos (by simpa using present), List.filter_filter,
        List.append_assoc]
      simp [not_or, Bool.and_comm]

/-- Of two lists in a row, the second adds the items that are not in the first. -/
theorem firstOccurrences_append {α : Type} [DecidableEq α] (items others : List α) :
    firstOccurrences (items ++ others) =
      firstOccurrences items ++ (firstOccurrences others).filter (· ∉ firstOccurrences items) := by
  rw [firstOccurrences, List.foldl_append]
  exact firstOccurrences_foldl_eq others (firstOccurrences items)

/-- The list without later repetitions has the same items. -/
theorem mem_firstOccurrences {α : Type} [DecidableEq α] (items : List α) (item : α) :
    item ∈ firstOccurrences items ↔ item ∈ items := by
  have same := (firstOccurrences_foldl items [] .nil).2 item
  simpa [firstOccurrences] using same

/-- The list without later repetitions has none. -/
theorem nodup_firstOccurrences {α : Type} [DecidableEq α] (items : List α) :
    (firstOccurrences items).Nodup :=
  (firstOccurrences_foldl items [] .nil).1

end Leasehold
