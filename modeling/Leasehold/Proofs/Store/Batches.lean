import Leasehold.Proofs.Engine.Swept

/-!
# Which records a scan takes

A scan takes the first of the records that it is about, at most so many (`AreFirst`): of those that
have to be reclaimed the ones that expired first, and of those that were reclaimed the ones with the
smallest addresses. Records that expired at the same instant come in the order of their addresses,
because sorting leaves items that it does not tell apart as they were (`pairwise_mergeSort_of`).
-/
namespace Leasehold

/-- The first of some items, at most so many, in an order. -/
def AreFirst {α : Type} (before : α → α → Prop) (most : Nat) (all first : List α) : Prop :=
  ∃ others, (first ++ others).Perm all ∧ (first ++ others).Pairwise before ∧
    first.length = min most all.length

section Order

variable {α : Type} {before : α → α → Prop}

/-- What is taken from the front of a list in order are its first items. -/
theorem areFirst_take {all sorted : List α} (same : sorted.Perm all)
    (ordered : sorted.Pairwise before) (most : Nat) :
    AreFirst before most all (sorted.take most) := by
  refine ⟨sorted.drop most, ?_, ?_, ?_⟩
  · rw [List.take_append_drop]
    exact same
  · rw [List.take_append_drop]
    exact ordered
  · rw [List.length_take, same.length_eq]

/-- The first items are among all. -/
theorem AreFirst.mem {most : Nat} {all first : List α} (taken : AreFirst before most all first)
    {item : α} (member : item ∈ first) : item ∈ all := by
  obtain ⟨others, same, -, -⟩ := taken
  exact same.subset (List.mem_append_left others member)

/-- The first items are listed once when all are. -/
theorem AreFirst.nodup {most : Nat} {all first : List α} (taken : AreFirst before most all first)
    (once : all.Nodup) : first.Nodup := by
  obtain ⟨others, same, -, -⟩ := taken
  exact (same.nodup_iff.mpr once).of_append_left

/-- Items that sorting does not tell apart stay in the order in which they were. -/
theorem pairwise_mergeSort_of (le : α → α → Bool)
    (trans : ∀ first second third, le first second → le second third → le first third)
    (total : ∀ left right, le left right || le right left) {items : List α}
    (ordered : items.Pairwise before) :
    (items.mergeSort le).Pairwise fun left right =>
      le left right = true ∧ (le right left = true → before left right) := by
  induction ordered with
  | nil => simp
  | @cons head rest ahead _ ih =>
    obtain ⟨front, back, whole, without, later⟩ := List.mergeSort_cons trans total head rest
    have sorted : (front ++ head :: back).Pairwise fun left right => le left right = true := by
      rw [← whole]
      exact List.pairwise_mergeSort trans total (head :: rest)
    have inside (other : α) (member : other ∈ back) : other ∈ rest := by
      have listed : other ∈ rest.mergeSort le := by
        rw [without]
        exact List.mem_append_right front member
      exact List.mem_mergeSort.mp listed
    rw [without, List.pairwise_append] at ih
    rw [whole]
    rw [List.pairwise_append, List.pairwise_cons] at sorted ⊢
    obtain ⟨-, ⟨first, -⟩, across⟩ := sorted
    obtain ⟨fronts, backs, between⟩ := ih
    refine ⟨fronts, ⟨fun other member => ⟨first other member, fun _ => ?_⟩, backs⟩, ?_⟩
    · exact ahead other (inside other member)
    · intro left member right among
      rcases List.mem_cons.mp among with rfl | behind
      · refine ⟨across left member right List.mem_cons_self, fun back => ?_⟩
        have never := later left member
        rw [back] at never
        exact absurd never Bool.false_ne_true
      · exact between left member right behind

end Order

namespace Lease

/-- The address of the record comes first. -/
def IsBelow (left right : Lease) : Prop := left.address.rank < right.address.rank

/-- The record expired first, or at the same instant with the address that comes first. -/
def ExpiresBefore (left right : Lease) : Prop :=
  left.expiresAt < right.expiresAt ∨ left.expiresAt = right.expiresAt ∧ left.IsBelow right

end Lease

namespace Store

variable (store : Store)

/-- The reclaimed records that expired before an instant, in the order of their addresses. -/
def lapsed (before : Instant) : List Lease :=
  store.leases.filter fun lease => lease.state == .reclaimed && lease.expiresAt < before

/-- These are the stored records that are reclaimed and expired before the instant. -/
theorem mem_lapsed_iff (before : Instant) (lease : Lease) :
    lease ∈ store.lapsed before ↔ store.get? lease.address = some lease ∧
      lease.state = .reclaimed ∧ lease.expiresAt < before := by
  rw [lapsed, List.mem_filter, mem_leases_iff]
  simp

/-- A scan lists the first records to be reclaimed. -/
theorem areFirst_scanExpired (most : Nat) (now : Instant) :
    AreFirst Lease.ExpiresBefore most (store.overdue now) (store.scanExpired most now) := by
  have ordered : (store.overdue now).Pairwise Lease.IsBelow := store.ascending.filter _
  have sorted := pairwise_mergeSort_of
    (fun left right => decide (left.expiresAt ≤ right.expiresAt))
    (fun first second third => by simpa using Nat.le_trans)
    (fun left right => by simpa using Nat.le_total left.expiresAt right.expiresAt) ordered
  refine areFirst_take (List.mergeSort_perm _ _) (sorted.imp fun {left right} listed => ?_) most
  obtain ⟨earlier, ties⟩ := listed
  simp only [decide_eq_true_eq] at earlier ties
  rcases Nat.lt_or_eq_of_le earlier with sooner | same
  · exact .inl sooner
  · exact .inr ⟨same, ties (Nat.le_of_eq same.symm)⟩

/-- A scan lists the first reclaimed records. -/
theorem areFirst_scanReclaimed (before : Instant) (most : Nat) :
    AreFirst Lease.IsBelow most (store.lapsed before) (store.scanReclaimed before most) :=
  areFirst_take (.refl _) (store.ascending.filter _) most

end Store

end Leasehold
