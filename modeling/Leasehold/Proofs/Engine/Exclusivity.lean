import Leasehold.Proofs.Engine.Operation

/-!
# Held addresses are safe

A record that blocks its address, because its lease is held or because it is on probation, outlives
every operation at an instant at which it blocks. Only the client that holds the lease can change
it; a record on probation has no holder, so that nobody can. This is so in every state that an
engine can reach, whatever the topologies in force, and a sweep spares what blocks at the instant it
is given even if the clock shows another one.
-/
namespace Leasehold.Engine

/-- An operation at an instant at which a record blocks its address leaves the record as it is,
unless it is that of the client that holds the lease. -/
theorem State.get?_carryOut_of_blocks {state : State} {address : Address} {record : Lease}
    (stored : state.store.get? address = some record) {event : Event}
    (blocks : record.blocks event.around.now) :
    (state.carryOut event).store.get? address = some record ∨
      record.state = .active ∧ ∃ owner, record.owner = some owner ∧ event.operation.Owns owner := by
  by_cases mine : record.state = .active ∧
      ∃ owner, record.owner = some owner ∧ event.operation.Owns owner
  · exact .inr mine
  · left
    refine Moves.get?_of_blocks_of_chain (state.carryOut_moves event) stored blocks
      fun owner held owned owns => mine ⟨?_, owner, owned, owns⟩
    obtain ⟨active, -⟩ := (Bool.and_eq_true _ _).mp held
    exact beq_iff_eq.mp active

/-- A sweep as of an instant at which a record blocks its address leaves the record as it is. -/
theorem State.get?_sweep_of_blocks {state : State} {address : Address} {record : Lease}
    (stored : state.store.get? address = some record) {instant : Instant}
    (blocks : record.blocks instant) (around : Surroundings) (settings : SweepSettings) :
    (state.run around (sweep settings instant)).2.store.get? address = some record := by
  have chain : Relation.ReflTransGen (Moves instant fun _ => False) state.store
      (state.run around (sweep settings instant)).2.store := run_moves keeps_sweep
  exact Moves.get?_of_blocks_of_chain chain stored blocks fun _ _ _ => id

/-- A record outlives a whole history of operations, when each is carried out at an instant at which
it blocks its address, and none is that of a client that its lease is recorded against. -/
theorem State.get?_play_of_blocks {state : State} {address : Address} {record : Lease}
    (stored : state.store.get? address = some record) {history : List Event}
    (blocks : ∀ event ∈ history, record.blocks event.around.now)
    (others : ∀ event ∈ history, ∀ owner, record.owner = some owner →
      ¬ event.operation.Owns owner) :
    (state.play history).store.get? address = some record := by
  induction history generalizing state with
  | nil => exact stored
  | cons event rest ih =>
    have next : (state.carryOut event).store.get? address = some record := by
      rcases get?_carryOut_of_blocks stored (blocks event List.mem_cons_self) with same | mine
      · exact same
      · obtain ⟨-, owner, owned, owns⟩ := mine
        exact absurd owns (others event List.mem_cons_self owner owned)
    exact ih next (fun other member => blocks other (List.mem_cons_of_mem event member))
      (fun other member => others other (List.mem_cons_of_mem event member))

/-- Exclusivity, in every state that can be reached: an operation leaves a record that blocks its
address as it is, unless the lease is held by the client of the operation; a sweep leaves it as it
is when it blocks at the instant of the sweep; and nobody changes a record on probation. -/
theorem exclusivity (history : List Event) (address : Address) (record : Lease)
    (stored : (State.initial.play history).store.get? address = some record) :
    (∀ event : Event, record.blocks event.around.now →
      (State.initial.play (history ++ [event])).store.get? address = some record ∨
        record.state = .active ∧
          ∃ owner, record.owner = some owner ∧ event.operation.Owns owner) ∧
    (∀ instant around settings, record.blocks instant →
      ((State.initial.play history).run around (sweep settings instant)).2.store.get? address =
        some record) ∧
    ∀ event : Event, record.state = .declined → record.blocks event.around.now →
      (State.initial.play (history ++ [event])).store.get? address = some record := by
  have next (event : Event) : State.initial.play (history ++ [event]) =
      (State.initial.play history).carryOut event := List.foldl_concat ..
  refine ⟨fun event blocks => ?_, fun instant around settings blocks => ?_,
    fun event declined blocks => ?_⟩
  · rw [next]
    exact State.get?_carryOut_of_blocks stored blocks
  · exact State.get?_sweep_of_blocks stored blocks around settings
  · rw [next]
    rcases State.get?_carryOut_of_blocks stored blocks with same | ⟨active, -⟩
    · exact same
    · rw [declined] at active
      exact nomatch active

/-- The conditions can be met: a second client that asks for the only address, which the first
holds, leaves the lease as it is. -/
theorem exclusivity_of_first_client :
    (State.initial.play [Sample.leases 1 0]).store.get? Sample.address = some (Sample.lease 1 0 1) ∧
      (State.initial.play [Sample.leases 1 0, Sample.leases 2 5]).store.get? Sample.address =
        some (Sample.lease 1 0 1) := by
  have stored : (State.initial.play [Sample.leases 1 0]).store.get? Sample.address =
      some (Sample.lease 1 0 1) := by decide +kernel
  obtain ⟨operations, -, -⟩ := exclusivity [Sample.leases 1 0] Sample.address _ stored
  refine ⟨stored, ?_⟩
  rcases operations (Sample.leases 2 5) (by decide) with same | ⟨-, owner, owned, mine⟩
  · exact same
  · obtain ⟨_, asks, matchClientId, owns⟩ := mine
    rw [← Option.some.inj asks, ← owned] at owns
    cases matchClientId <;> exact absurd owns (by decide)

end Leasehold.Engine
