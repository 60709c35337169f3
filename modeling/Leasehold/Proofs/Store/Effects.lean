import Leasehold.Repository

/-!
# What calls do to a record

Of all the calls on a store only two have an effect on the record of an address: a write that is
committed, and a deletion that finds something. The version of a record follows from the effects
alone. Writing counts it on, and deleting makes the count start over, so that the version tells how
often the record was written since it was last deleted, and nothing about the records before.

A write that expects what was read earlier is therefore committed in two cases: when there was no
effect in between, and when the record was deleted, made anew and written until it had the same
version again (`Store.write_ofCurrent_spec`).
-/
namespace Leasehold

/-- What a call can do to the record of an address. -/
inductive Effect where
  /-- It was written. -/
  | written
  /-- It was deleted. -/
  | deleted
deriving DecidableEq, Repr

namespace Effect

/-- The version of the record after an effect, given the one before; there is none without a record.
-/
def version : Option Nat → Effect → Option Nat
  | before, written => some (before.getD 0 + 1)
  | _, deleted => none

/-- The version of the record after one effect after another. -/
def versionAfter (start : Option Nat) (effects : List Effect) : Option Nat :=
  effects.foldl version start

/-- Without a deletion the version goes up by one with every effect. -/
theorem versionAfter_of_written {effects : List Effect} (start : Nat)
    (kept : .deleted ∉ effects) :
    versionAfter (some start) effects = some (start + effects.length) := by
  induction effects generalizing start with
  | nil => rfl
  | cons effect rest ih =>
    obtain ⟨first, others⟩ := not_or.mp (mt List.mem_cons.mpr kept)
    cases effect with
    | deleted => exact absurd rfl first
    | written =>
      have step : versionAfter (some start) (.written :: rest) =
          versionAfter (some (start + 1)) rest := rfl
      rw [step, ih (start + 1) others, List.length_cons]
      congr 1
      omega

/-- After a deletion the version before it does not matter. -/
theorem versionAfter_of_deleted {effects : List Effect} (start : Option Nat)
    (lost : .deleted ∈ effects) : versionAfter start effects = versionAfter none effects := by
  induction effects generalizing start with
  | nil => exact absurd lost List.not_mem_nil
  | cons effect rest ih =>
    cases effect with
    | deleted => rfl
    | written =>
      have later : .deleted ∈ rest := by simpa using lost
      have step (before : Option Nat) : versionAfter before (.written :: rest) =
          versionAfter (some (before.getD 0 + 1)) rest := rfl
      rw [step, step, ih _ later, ← ih (some ((none : Option Nat).getD 0 + 1)) later]

/-- A version comes back only when nothing happened, or when the record was deleted and has been
written as often since as the version says. -/
theorem versionAfter_eq_iff (start : Option Nat) (effects : List Effect) :
    versionAfter start effects = start ↔
      effects = [] ∨ .deleted ∈ effects ∧ versionAfter none effects = start := by
  by_cases lost : .deleted ∈ effects
  · have some : effects ≠ [] := List.ne_nil_of_mem lost
    simp [versionAfter_of_deleted start lost, lost, some]
  · cases effects with
    | nil => simp [versionAfter]
    | cons effect rest =>
      obtain ⟨first, others⟩ := not_or.mp (mt List.mem_cons.mpr lost)
      cases effect with
      | deleted => exact absurd rfl first
      | written =>
        have counted : versionAfter start (.written :: rest) =
            some (start.getD 0 + 1 + rest.length) := versionAfter_of_written _ others
        rw [counted]
        have above : some (start.getD 0 + 1 + rest.length) ≠ start := by
          cases start with
          | none => simp
          | some number =>
            intro same
            have := Option.some.inj same
            simp only [Option.getD_some] at this
            omega
        simp [above, lost]

end Effect

/-- The write took effect. -/
def WriteOutcome.isCommitted : WriteOutcome → Bool
  | committed _ => true
  | conflict _ => false

/-- The effect of an answered call on the record of an address. -/
def RepositoryCall.effect? (address : Address) : (call : RepositoryCall) → call.Answer →
    Option Effect
  | write lease _, outcome =>
    if lease.address = address ∧ outcome.isCommitted then some .written else none
  | delete other, found => if other = address ∧ found.isSome then some .deleted else none
  | _, _ => none

/-- The expectation that nothing has changed is met by every record of the same version, and by the
absence of a record where there was none. -/
theorem Expectation.met_iff (read current : Option Lease) :
    (Store.nextVersion? (.ofCurrent read) current).isSome ↔
      current.map (·.version) = read.map (·.version) := by
  cases read <;> cases current <;> simp [Expectation.ofCurrent, Store.nextVersion?]

namespace Store

/-- The version of the record of an address. -/
def version? (store : Store) (address : Address) : Option Nat :=
  (store.get? address).map (·.version)

/-- The store after calls have been answered from it one after another. -/
def after (store : Store) (calls : List RepositoryCall) : Store :=
  calls.foldl (fun store call => (store.answer call).2) store

/-- The store after a call and others is the one after the others, from where the call has led. -/
theorem after_cons (store : Store) (call : RepositoryCall) (rest : List RepositoryCall) :
    store.after (call :: rest) = (store.answer call).2.after rest := rfl

/-- The store after some calls and others is the one after the others, from where the first have
led. -/
theorem after_append (store : Store) (first rest : List RepositoryCall) :
    store.after (first ++ rest) = (store.after first).after rest := List.foldl_append

/-- What calls do to the record of an address, one after another. -/
def effects (store : Store) (address : Address) : List RepositoryCall → List Effect
  | [] => []
  | call :: rest =>
    (call.effect? address (store.answer call).1).toList ++
      (store.answer call).2.effects address rest

/-- A write whose expectation is not met is answered with what is stored. -/
theorem write_of_unmet {store : Store} {lease : Lease} {expected : Expectation}
    (unmet : nextVersion? expected (store.get? lease.address) = none) :
    store.write lease expected = (.conflict (store.get? lease.address), store) := by
  unfold write
  rw [unmet]

/-- A write whose expectation is met puts its record, with the next version, in its place. -/
theorem write_of_met {store : Store} {lease : Lease} {expected : Expectation} {version : Nat}
    (met : nextVersion? expected (store.get? lease.address) = some version) :
    store.write lease expected =
      (.committed { lease with version }, store.insert { lease with version }) := by
  unfold write
  rw [met]

/-- A write is committed when its expectation is met. -/
theorem write_isCommitted (store : Store) (lease : Lease) (expected : Expectation) :
    (store.write lease expected).1.isCommitted =
      (nextVersion? expected (store.get? lease.address)).isSome := by
  cases met : nextVersion? expected (store.get? lease.address) with
  | none => rw [write_of_unmet met]; rfl
  | some version => rw [write_of_met met]; rfl

/-- A write that is committed puts its record, with the next version, in place of the one of the
address; otherwise everything stays. -/
theorem get?_write (store : Store) (lease : Lease) (expected : Expectation) (address : Address) :
    (store.write lease expected).2.get? address =
      match nextVersion? expected (store.get? lease.address) with
      | none => store.get? address
      | some version =>
        if lease.address = address then some { lease with version } else store.get? address := by
  cases met : nextVersion? expected (store.get? lease.address) with
  | none => rw [write_of_unmet met]
  | some version =>
    rw [write_of_met met]
    exact get?_insert store { lease with version } address

/-- A deletion is answered with the record that it takes away. -/
theorem delete_fst (store : Store) (address : Address) :
    (store.delete address).1 = store.get? address := by
  unfold delete
  cases store.get? address <;> rfl

/-- A deletion takes away the record of its address alone. -/
theorem get?_delete (store : Store) (erased address : Address) :
    (store.delete erased).2.get? address =
      if erased = address then none else store.get? address := by
  unfold delete
  cases found : store.get? erased with
  | some lease => exact get?_erase store erased address
  | none =>
    by_cases same : erased = address
    · simpa [same] using same ▸ found
    · simp [same]

/-- The version that a write gives a record is the one after the version it had. -/
theorem nextVersion?_eq_some {expected : Expectation} {current : Option Lease} {version : Nat}
    (met : nextVersion? expected current = some version) :
    version = (current.map (·.version)).getD 0 + 1 := by
  cases expected <;> cases current <;> simp_all [nextVersion?]

/-- A call without an effect on the record of an address leaves it as it is. -/
theorem get?_answer_of_no_effect {store : Store} {address : Address} {call : RepositoryCall}
    (spared : call.effect? address (store.answer call).1 = none) :
    (store.answer call).2.get? address = store.get? address := by
  cases call with
  | write lease expected =>
    simp only [answer, get?_write]
    simp only [RepositoryCall.effect?, answer, write_isCommitted] at spared
    cases met : nextVersion? expected (store.get? lease.address) with
    | none => rfl
    | some version =>
      have other : lease.address ≠ address := by simpa [met] using spared
      simp [other]
  | delete erased =>
    simp only [answer, get?_delete]
    simp only [RepositoryCall.effect?, answer] at spared
    by_cases same : erased = address
    · subst same
      have absent : store.get? erased = none := by
        cases found : store.get? erased with
        | none => rfl
        | some lease => simp [delete, found] at spared
      simp [absent]
    · simp [same]
  | _ => rfl

/-- A call with an effect on the record of an address changes its version as the effect says. -/
theorem version?_answer_of_effect {store : Store} {address : Address} {call : RepositoryCall}
    {effect : Effect} (touched : call.effect? address (store.answer call).1 = some effect) :
    (store.answer call).2.version? address = effect.version (store.version? address) := by
  cases call with
  | write lease expected =>
    simp only [RepositoryCall.effect?, answer, write_isCommitted] at touched
    simp only [version?, answer, get?_write]
    cases met : nextVersion? expected (store.get? lease.address) with
    | none => simp [met] at touched
    | some version =>
      obtain ⟨rfl, rfl⟩ : lease.address = address ∧ Effect.written = effect := by
        simpa [met] using touched
      simp [Effect.version, nextVersion?_eq_some met]
  | delete erased =>
    obtain ⟨⟨rfl, -⟩, rfl⟩ : (erased = address ∧ _) ∧ Effect.deleted = effect := by
      simpa [RepositoryCall.effect?] using touched
    simp [version?, answer, get?_delete, Effect.version]
  | _ => simp [RepositoryCall.effect?] at touched

/-- Calls without an effect on the record of an address leave it as it is. -/
theorem get?_after_of_no_effects {store : Store} {address : Address}
    {calls : List RepositoryCall} (spared : store.effects address calls = []) :
    (store.after calls).get? address = store.get? address := by
  induction calls generalizing store with
  | nil => rfl
  | cons call rest ih =>
    obtain ⟨first, others⟩ := List.append_eq_nil_iff.mp spared
    have kept := get?_answer_of_no_effect (Option.toList_eq_nil_iff.mp first)
    exact (ih others).trans kept

/-- The version of a record follows from the version it had and the effects since. -/
theorem version?_after (store : Store) (address : Address) (calls : List RepositoryCall) :
    (store.after calls).version? address =
      Effect.versionAfter (store.version? address) (store.effects address calls) := by
  induction calls generalizing store with
  | nil => rfl
  | cons call rest ih =>
    have goesOn := ih (store.answer call).2
    cases touched : call.effect? address (store.answer call).1 with
    | none =>
      have kept : (store.answer call).2.version? address = store.version? address :=
        congrArg _ (get?_answer_of_no_effect touched)
      simpa [after_cons, effects, touched, kept] using goesOn
    | some effect =>
      have changed := version?_answer_of_effect touched
      simpa [after_cons, effects, touched, changed, Effect.versionAfter] using goesOn

/-- A write that is not committed leaves the store as it is, and tells what is stored. -/
theorem write_conflict {store : Store} {lease : Lease} {expected : Expectation}
    {found : Option Lease} (conflict : (store.write lease expected).1 = .conflict found) :
    found = store.get? lease.address ∧ (store.write lease expected).2 = store := by
  cases met : nextVersion? expected (store.get? lease.address) with
  | none =>
    rw [write_of_unmet met] at conflict ⊢
    exact ⟨(WriteOutcome.conflict.inj conflict).symm, rfl⟩
  | some version =>
    rw [write_of_met met] at conflict
    exact nomatch conflict

/-- A write that expects what was read of a record earlier is committed exactly when there was no
effect on the record in between, or when it was deleted in between and has been written as often
since as its version said. A write that is not committed leaves the store as it is, and tells what
is stored. -/
theorem write_ofCurrent_spec (read : Store) (between : List RepositoryCall) (lease : Lease) :
    let effects := read.effects lease.address between
    let now := read.after between
    let answer := now.write lease (.ofCurrent (read.get? lease.address))
    (answer.1.isCommitted ↔ effects = [] ∨
      .deleted ∈ effects ∧ Effect.versionAfter none effects = read.version? lease.address) ∧
    ∀ found, answer.1 = .conflict found → found = now.get? lease.address ∧ answer.2 = now := by
  refine ⟨?_, fun found conflict => write_conflict conflict⟩
  rw [write_isCommitted, Expectation.met_iff, ← Effect.versionAfter_eq_iff, ← version?_after]
  rfl

/-- The second case does occur: a record that is deleted and made anew gets the version back that it
had, and the write that expects the old record replaces the new one. -/
theorem committed_onto_recreated :
    ¬ ∀ (read : Store) (between : List RepositoryCall) (lease : Lease),
      ((read.after between).write lease (.ofCurrent (read.get? lease.address))).1.isCommitted →
        read.effects lease.address between = [] := by
  intro untouched
  let lease := Lease.vacant ⟨.v4, 0, by decide⟩ 32 1
  let read := Store.empty.after [.write lease .vacant]
  have spared := untouched read [.delete lease.address, .write lease .vacant] lease (by decide)
  exact absurd spared (by decide)

end Store

end Leasehold
