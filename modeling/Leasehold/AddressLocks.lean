import Leasehold.Address

/-!
# Locks on addresses

Between reading the record of an address and writing it, the address is locked. Nobody waits for a
lock: an address that is locked is passed over.
-/
namespace Leasehold

/-- The addresses that are locked. -/
structure AddressLocks where
  /-- The locked addresses, the last locked first. -/
  held : List Address
  /-- No address is locked twice. -/
  distinct : held.Nodup
deriving DecidableEq, Repr

namespace AddressLocks

/-- No address is locked. -/
def none : AddressLocks := ⟨[], .nil⟩

/-- The address is locked. -/
def isLocked (locks : AddressLocks) (address : Address) : Bool := locks.held.contains address

/-- Lock an address unless it is locked already. The answer is whether it was free. -/
def lock (locks : AddressLocks) (address : Address) : Bool × AddressLocks :=
  if locked : locks.isLocked address then (false, locks)
  else
    (true, ⟨address :: locks.held, List.nodup_cons.mpr ⟨fun member =>
      locked (List.contains_iff_mem.mpr member), locks.distinct⟩⟩)

/-- Unlock an address. -/
def unlock (locks : AddressLocks) (address : Address) : AddressLocks :=
  ⟨locks.held.filter (· ≠ address), locks.distinct.filter _⟩

/-- Locking an address locks it, and no other. -/
theorem isLocked_lock (locks : AddressLocks) (address other : Address) :
    (locks.lock address).2.isLocked other = (other == address || locks.isLocked other) := by
  unfold lock
  split
  · next locked =>
    by_cases same : other = address
    · subst same; simp [locked]
    · simp [same]
  · simp [isLocked, Bool.beq_eq_decide_eq]

/-- Unlocking an address unlocks it, and no other. -/
theorem isLocked_unlock (locks : AddressLocks) (address other : Address) :
    (locks.unlock address).isLocked other = (other != address && locks.isLocked other) := by
  rw [Bool.eq_iff_iff]
  simp [isLocked, unlock, and_comm]

end AddressLocks

end Leasehold
