import Mathlib.Data.List.Sort
import Leasehold.Store

/-!
# What a scan lists

The records of a store are in the order of their addresses, so each of them is the one that is found
for its address. A scan therefore lists records as they are stored, and only those that it is about.
-/
namespace Leasehold

section Ascending

variable {leases others : List Lease}

/-- No record is listed twice in the order of the addresses. -/
theorem Ascending.nodup (ascends : Ascending leases) : leases.Nodup :=
  ascends.imp fun {left right} before same => by
    rw [same] at before
    exact Nat.lt_irrefl _ before

/-- There is one way to list records in the order of their addresses. -/
theorem Ascending.eq_of_mem_iff (ascends : Ascending leases) (others_ascend : Ascending others)
    (same : ∀ lease, lease ∈ leases ↔ lease ∈ others) : leases = others :=
  ((List.perm_ext_iff_of_nodup ascends.nodup others_ascend.nodup).mpr same).eq_of_pairwise
    (fun _ _ _ _ before after => absurd after (Nat.lt_asymm before)) ascends others_ascend

end Ascending

namespace Store

/-- A record of the store is the one that is found for its address. -/
theorem get?_of_mem {store : Store} {lease : Lease} (member : lease ∈ store.leases) :
    store.get? lease.address = some lease := by
  obtain ⟨leases, ascending⟩ := store
  unfold get?
  induction leases with
  | nil => exact absurd member List.not_mem_nil
  | cons head rest ih =>
    obtain ⟨above, ordered⟩ := List.pairwise_cons.mp ascending
    rcases List.mem_cons.mp member with rfl | inside
    · simp
    · have other : head.address ≠ lease.address := by
        intro same
        have below := above lease inside
        rw [same] at below
        exact Nat.lt_irrefl _ below
      simpa [other] using ih ordered inside

/-- The records of the store are those that are found for their addresses. -/
theorem mem_leases_iff (store : Store) (lease : Lease) :
    lease ∈ store.leases ↔ store.get? lease.address = some lease :=
  ⟨get?_of_mem, List.mem_of_find?_eq_some⟩

/-- No record is in the store twice. -/
theorem nodup_leases (store : Store) : store.leases.Nodup := store.ascending.nodup

/-- Stores with the same record for every address are the same. -/
theorem ext_get? {left right : Store} (same : ∀ address, left.get? address = right.get? address) :
    left = right := by
  have leases : left.leases = right.leases :=
    left.ascending.eq_of_mem_iff right.ascending fun lease => by
      rw [mem_leases_iff, mem_leases_iff, same]
  obtain ⟨records, ascending⟩ := left
  obtain rfl : records = right.leases := leases
  rfl

/-- A record that is listed to be reclaimed is stored, and has to be reclaimed. -/
theorem stored_of_mem_scanExpired {store : Store} {most : Nat} {now : Instant} {lease : Lease}
    (listed : lease ∈ store.scanExpired most now) :
    store.get? lease.address = some lease ∧ lease.needsReclaim now := by
  have sorted := List.mem_of_mem_take listed
  obtain ⟨member, ended⟩ := List.mem_filter.mp (List.mem_mergeSort.mp sorted)
  exact ⟨get?_of_mem member, ended⟩

end Store

end Leasehold
