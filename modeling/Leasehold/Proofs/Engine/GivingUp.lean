import Leasehold.Proofs.Engine.Ledger

/-!
# What giving up a lease does to the records

A client gives up only what it holds. Its lease is read under the lock of the address and, with the
store to itself, the task finds it there when it deletes the record or replaces it.
-/
namespace Leasehold

namespace Engine

open Ledger

variable {topology : Topology} {ids : ClientIdentifiers} {address : Address} {now : Instant}
  {own : Identifier → Prop} {ledger : Ledger}

/-- The lease on an address is stored, and the client holds it. -/
structure Holds (now : Instant) (own : Identifier → Prop) (address : Address) (lease : Lease)
    (ledger : Ledger) : Prop where
  /-- The lease is stored. -/
  stored : ledger.store.get? address = some lease
  /-- It is held. -/
  held : lease.isActive now
  /-- It is recorded against the client. -/
  owned : ∃ owner, lease.owner = some owner ∧ own owner

/-- A task finds the lease on an address only where its client holds it. -/
theorem keeps_ownLease (mine : ∀ owner, ids.Owns owner → own owner) :
    (ownLease topology ids address).Keeps (alone now now own)
      (ending (Holds now own address) (fun _ => True)) ledger := by
  refine (keeps_call_alone (.refl now own _)).bind fun record last told => ?_
  obtain ⟨rfl, same⟩ := Prod.mk.inj told
  cases stored : ledger.store.get? address with
  | none => exact fun _ _ => trivial
  | some lease =>
    dsimp only
    split
    · exact fun _ _ => trivial
    · next owner presented =>
      refine (steady_alone (fun last => last.store = ledger.store)).clock_bind Answers.clock same
        fun later kept => ?_
      split
      · next passed =>
        obtain ⟨owned, held⟩ := (Bool.and_eq_true _ _).mp passed
        have holds : Holds now own address lease later :=
          ⟨by rw [kept, stored], held, owner, by simpa [Lease.isOwnedBy] using owned,
            mine owner ⟨_, presented⟩⟩
        exact fun _ same => same ▸ holds
      · exact fun _ _ => trivial

/-- Releasing an address changes nothing but the lease that the client holds on it. -/
theorem keeps_release (mine : ∀ owner, ids.Owns owner → own owner) :
    (release topology ids address).Keeps (alone now now own) anyhow ledger := by
  have idle : Steady (alone now now own) fun _ => True := steady_alone _
  refine keeps_holding idle (fun _ => idle) (fun _ => idle) trivial (fun _ _ _ _ => trivial)
    fun later _ => ?_
  refine (keeps_ownLease mine).bind fun lease last holds => ?_
  have moves : Moves now own last.store (last.store.answer (.delete address)).2 := by
    refine .of_delete fun old stored => ?_
    obtain rfl := Option.some.inj (holds.stored.symm.trans stored)
    obtain ⟨owner, owned, mine⟩ := holds.owned
    exact .released holds.held owned mine
  refine (keeps_call_alone moves).bind fun found last _ => ?_
  cases found with
  | none => exact fun _ _ => trivial
  | some lease =>
    exact idle.count_bind rfl trivial fun _ _ =>
      idle.count_bind rfl trivial fun _ _ => idle.done _ trivial

/-- Declining an address changes nothing but the lease that the client holds on it. -/
theorem keeps_decline {probation : Duration} (mine : ∀ owner, ids.Owns owner → own owner) :
    (decline topology ids probation address).Keeps (alone now now own) anyhow ledger := by
  have idle : Steady (alone now now own) fun _ => True := steady_alone _
  refine keeps_holding idle (fun _ => idle) (fun _ => idle) trivial (fun _ _ _ _ => trivial)
    fun later _ => ?_
  refine (keeps_ownLease mine).bind fun lease last holds => ?_
  refine (steady_alone (Holds now own address lease)).clock_bind Answers.clock holds
    fun last holds => ?_
  have moves : Moves now own last.store (last.store.answer
      (.write (declinedLease lease now probation) (.version lease.version))).2 := by
    obtain rfl := Store.address_of_get? holds.stored
    refine .of_write fun version met => ?_
    have stored : last.store.get? (declinedLease lease now probation).address = some lease :=
      holds.stored
    rw [stored] at met ⊢
    obtain rfl := Store.nextVersion?_eq_some met
    obtain ⟨owner, owned, mine⟩ := holds.owned
    exact .declined probation holds.held owned mine
  refine (keeps_call_alone moves).bind fun outcome last _ => ?_
  cases outcome with
  | conflict found => exact fun _ _ => trivial
  | committed stored =>
    exact idle.count_bind rfl trivial fun _ _ =>
      idle.count_bind rfl trivial fun _ _ => idle.done _ trivial

end Engine

end Leasehold
