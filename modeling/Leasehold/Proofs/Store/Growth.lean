import Leasehold.Proofs.Store.Effects

/-!
# Stores that only grow

As long as nothing is deleted, a record stays as it is or gets a higher version. What was read once
then identifies itself: a write that expects it is committed only if it is still there.
-/
namespace Leasehold

/-- The version of what is stored for an address, which is zero as long as there is no record. -/
def recordVersion (record : Option Lease) : Nat := (record.map (·.version)).getD 0

/-- The record of an address is what it was, or has a higher version. -/
def Grown (before after : Option Lease) : Prop :=
  after = before ∨ recordVersion before < recordVersion after

namespace Grown

/-- A record that stays has grown. -/
theorem refl (record : Option Lease) : Grown record record := .inl rfl

/-- A record that grows goes on growing. -/
theorem trans {first second third : Option Lease} (earlier : Grown first second)
    (later : Grown second third) : Grown first third := by
  rcases earlier with rfl | below
  · exact later
  · rcases later with rfl | above
    · exact .inr below
    · exact .inr (Nat.lt_trans below above)

/-- What is stored is what was read, when a write that expects it is committed. -/
theorem eq_of_met {read current : Option Lease} (grown : Grown read current)
    (met : (Store.nextVersion? (.ofCurrent read) current).isSome) : current = read := by
  rcases grown with same | above
  · exact same
  · have version := (Expectation.met_iff read current).mp met
    unfold recordVersion at above
    rw [version] at above
    exact absurd above (Nat.lt_irrefl _)

end Grown

namespace Store

/-- Every record of a store has stayed or got a higher version. -/
def Grows (before after : Store) : Prop :=
  ∀ address, Grown (before.get? address) (after.get? address)

/-- A store that stays has grown. -/
theorem Grows.refl (store : Store) : store.Grows store := fun _ => .refl _

/-- A store that grows goes on growing. -/
theorem Grows.trans {first second third : Store} (earlier : first.Grows second)
    (later : second.Grows third) : first.Grows third :=
  fun address => (earlier address).trans (later address)

/-- A write lets the store grow, whether it is committed or not. -/
theorem grows_write (store : Store) (lease : Lease) (expected : Expectation) :
    store.Grows (store.write lease expected).2 := by
  intro address
  rw [get?_write]
  cases met : nextVersion? expected (store.get? lease.address) with
  | none => exact .refl _
  | some version =>
    dsimp only
    by_cases same : lease.address = address
    · subst same
      have above : recordVersion (store.get? lease.address) < version := by
        rw [nextVersion?_eq_some met]
        exact Nat.lt_succ_self _
      rw [if_pos rfl]
      exact .inr above
    · rw [if_neg same]
      exact .refl _

/-- The record of an address is for that address. -/
theorem address_of_get? {store : Store} {address : Address} {lease : Lease}
    (stored : store.get? address = some lease) : lease.address = address := by
  simpa using List.find?_some stored

end Store

end Leasehold
