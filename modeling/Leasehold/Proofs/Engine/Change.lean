import Mathlib.Logic.Relation
import Leasehold.Engine.GiveUp
import Leasehold.Proofs.Store.Growth

/-!
# The life cycle of a record

There are six ways for a task to change the record of an address at an instant. Which of them are
open depends on what is stored: a free address is leased, a lease is renewed, declined or released
by its owner while it is held, a record that is over is reclaimed, and a reclaimed one is removed.
A record that blocks its address is therefore changed by nobody but the owner who holds it.
-/
namespace Leasehold

/-- Leases of the client can be recorded against the identifier. -/
def ClientIdentifiers.Owns (ids : ClientIdentifiers) (owner : Identifier) : Prop :=
  ∃ matchClientId, ids.owner? matchClientId = some owner

/-- A client presents the identifier that its leases are recorded against. -/
theorem ClientIdentifiers.Owns.presents {ids : ClientIdentifiers} {owner : Identifier}
    (owns : ids.Owns owner) : ids.presents owner := by
  have of_identifier? {kind : IdentifierKind} (found : ids.identifier? kind = some owner) :
      ids.presents owner := by
    obtain ⟨value, presented, rfl⟩ := Option.map_eq_some_iff.mp found
    simpa [ClientIdentifiers.presents] using presented
  obtain ⟨matchClientId, found⟩ := owns
  rcases Option.or_eq_some_iff.mp found with duid | ⟨-, found⟩
  · exact of_identifier? duid
  · rcases Option.or_eq_some_iff.mp found with clientId | ⟨-, hwAddress⟩
    · cases matchClientId with
      | false => exact nomatch clientId
      | true => exact of_identifier? clientId
    · exact of_identifier? hwAddress

namespace Engine

/-- A change of a record at an instant, on behalf of a client that has the owner identifiers. -/
inductive Change (now : Instant) (own : Identifier → Prop) :
    Option Lease → Option Lease → Prop where
  /-- The address was vacant, or its record reclaimed, and is handed to the client. -/
  | leased {before : Option Lease} {lease : Lease} {owner : Identifier}
    (free : ∀ old, before = some old → old.state = .reclaimed) (active : lease.state = .active)
    (seen : lease.lastSeen = now) (owned : lease.owner = some owner) (mine : own owner)
    (next : lease.version = recordVersion before + 1) : Change now own before (some lease)
  /-- The client holds the address, and its lease is extended. -/
  | renewed {old lease : Lease} {owner : Identifier} (held : old.isActive now)
    (ownedBefore : old.owner = some owner) (mine : own owner) (active : lease.state = .active)
    (seen : lease.lastSeen = now) (owned : lease.owner = some owner)
    (next : lease.version = old.version + 1) : Change now own (some old) (some lease)
  /-- The record is over and is reclaimed, with everything else as it was. -/
  | reclaimed {old : Lease} (ended : old.needsReclaim now) :
    Change now own (some old) (some { old with state := .reclaimed, version := old.version + 1 })
  /-- The client holds the address and found it in use by someone else. -/
  | declined {old : Lease} {owner : Identifier} (probation : Duration) (held : old.isActive now)
    (ownedBefore : old.owner = some owner) (mine : own owner) :
    Change now own (some old)
      (some { declinedLease old now probation with version := old.version + 1 })
  /-- The client holds the address and gives it up. -/
  | released {old : Lease} {owner : Identifier} (held : old.isActive now)
    (ownedBefore : old.owner = some owner) (mine : own owner) : Change now own (some old) none
  /-- The record was reclaimed and is not kept any longer. -/
  | removed {old : Lease} (ended : old.state = .reclaimed) : Change now own (some old) none

/-- A lease that is held blocks its address. -/
theorem blocks_of_isActive {lease : Lease} {now : Instant} (held : lease.isActive now) :
    lease.blocks now := by
  obtain ⟨active, alive⟩ := (Bool.and_eq_true _ _).mp held
  simpa [Lease.blocks, beq_iff_eq.mp active] using alive

/-- A record that blocks its address is changed by the owner who holds it, or not at all. -/
theorem Change.held_of_blocks {now : Instant} {own : Identifier → Prop} {old : Lease}
    {after : Option Lease} (change : Change now own (some old) after) (blocks : old.blocks now) :
    old.isActive now ∧ ∃ owner, old.owner = some owner ∧ own owner := by
  have notReclaimed : old.state ≠ .reclaimed := by
    intro ended
    simp [Lease.blocks, ended] at blocks
  cases change with
  | leased free => exact absurd (free old rfl) notReclaimed
  | renewed held owned mine => exact ⟨held, _, owned, mine⟩
  | reclaimed ended =>
    cases state : old.state <;> simp_all [Lease.blocks, Lease.needsReclaim]
  | declined probation held owned mine => exact ⟨held, _, owned, mine⟩
  | released held owned mine => exact ⟨held, _, owned, mine⟩
  | removed ended => exact absurd ended notReclaimed

/-- A change that leaves a lease active is made by its owner. -/
theorem Change.owner_of_active {now : Instant} {own : Identifier → Prop} {before : Option Lease}
    {lease : Lease} (change : Change now own before (some lease))
    (active : lease.state = .active) : ∃ owner, lease.owner = some owner ∧ own owner := by
  cases change with
  | leased _ _ _ owned mine => exact ⟨_, owned, mine⟩
  | renewed _ _ mine _ _ owned => exact ⟨_, owned, mine⟩
  | reclaimed => exact nomatch active
  | declined => exact nomatch active

/-- Every record of a store has stayed or was changed in one of the ways open to the client. -/
def Moves (now : Instant) (own : Identifier → Prop) (before after : Store) : Prop :=
  ∀ address, after.get? address = before.get? address ∨
    Change now own (before.get? address) (after.get? address)

namespace Moves

variable {now : Instant} {own : Identifier → Prop} {store before after : Store}

/-- Nothing has to change. -/
theorem refl (now : Instant) (own : Identifier → Prop) (store : Store) :
    Moves now own store store := fun _ => .inl rfl

/-- A record that blocks its address stays, unless it is held by one of the owners. -/
theorem get?_of_blocks (moves : Moves now own before after) {address : Address} {record : Lease}
    (stored : before.get? address = some record) (blocks : record.blocks now)
    (other : ∀ owner, record.isActive now → record.owner = some owner → ¬ own owner) :
    after.get? address = some record := by
  rcases moves address with same | change
  · rw [same, stored]
  · rw [stored] at change
    obtain ⟨held, owner, owned, mine⟩ := change.held_of_blocks blocks
    exact absurd mine (other owner held owned)

/-- A record that blocks its address stays over any number of changes, unless it is held by one of
the owners. -/
theorem get?_of_blocks_of_chain (chain : Relation.ReflTransGen (Moves now own) before after)
    {address : Address} {record : Lease} (stored : before.get? address = some record)
    (blocks : record.blocks now)
    (other : ∀ owner, record.isActive now → record.owner = some owner → ¬ own owner) :
    after.get? address = some record := by
  induction chain with
  | refl => exact stored
  | tail _ moves ih => exact moves.get?_of_blocks ih blocks other

/-- A lease that is active after any number of changes, and is that of none of the owners, was stored
before them. -/
theorem get?_before_of_active_of_chain (chain : Relation.ReflTransGen (Moves now own) before after)
    {address : Address} {lease : Lease} (stored : after.get? address = some lease)
    (active : lease.state = .active) (other : ∀ owner, lease.owner = some owner → ¬ own owner) :
    before.get? address = some lease := by
  induction chain with
  | refl => exact stored
  | tail _ moves ih =>
    rcases moves address with same | change
    · rw [stored] at same
      exact ih same.symm
    · rw [stored] at change
      obtain ⟨owner, owned, mine⟩ := change.owner_of_active active
      exact absurd mine (other owner owned)

/-- A write is such a change where it is committed, and none where it is not. -/
theorem of_write {lease : Lease} {expected : Expectation}
    (change : ∀ version, Store.nextVersion? expected (store.get? lease.address) = some version →
      Change now own (store.get? lease.address) (some { lease with version })) :
    Moves now own store (store.write lease expected).2 := by
  intro address
  rw [Store.get?_write]
  cases met : Store.nextVersion? expected (store.get? lease.address) with
  | none => exact .inl rfl
  | some version =>
    dsimp only
    by_cases same : lease.address = address
    · subst same
      rw [if_pos rfl]
      exact .inr (change version met)
    · rw [if_neg same]
      exact .inl rfl

/-- A deletion is such a change where there is a record, and none where there is not. -/
theorem of_delete {erased : Address}
    (change : ∀ old, store.get? erased = some old → Change now own (some old) none) :
    Moves now own store (store.delete erased).2 := by
  intro address
  rw [Store.get?_delete]
  by_cases same : erased = address
  · subst same
    rw [if_pos rfl]
    cases stored : store.get? erased with
    | none => exact .inl rfl
    | some old => exact .inr (change old stored)
  · rw [if_neg same]
    exact .inl rfl

end Moves

end Engine

end Leasehold
