import Leasehold.Engine.State
import Leasehold.Proofs.Program.Crew
import Leasehold.Proofs.Store.Effects

/-!
# Turns on record

When tasks take turns on one store, the calls among their turns tell everything about the records:
the store is the one after those calls, and each call was answered from what the earlier ones had
left. What happened to a record between two turns can therefore be read off the turns in between.
-/
namespace Leasehold.Engine

variable {ι : Type}

/-- The calls on the repository among some turns. -/
def callsOf (turns : List (Turn ι Ask Reply)) : List RepositoryCall :=
  turns.filterMap fun turn =>
    match turn.question with
    | .repository call => some call
    | _ => none

/-- The turn was answered from the store. -/
def FaithfulTo (store : Store) : Turn ι Ask Reply → Prop
  | ⟨_, .repository call, reply⟩ => reply = .ok (store.answer call).1
  | _ => True

/-- The records follow from the turns, and each turn was answered from what the earlier ones had
left. -/
structure Recorded (start now : Store) (turns : List (Turn ι Ask Reply)) : Prop where
  /-- The records follow from the turns. -/
  store : now = start.after (callsOf turns)
  /-- Each turn was answered from what the earlier ones had left. -/
  each : ∀ earlier turn later, turns = earlier ++ turn :: later →
    FaithfulTo (start.after (callsOf earlier)) turn

namespace Recorded

variable {start : Store}

/-- Before the first turn everything is on record. -/
theorem before_first (start : Store) : Recorded start start ([] : List (Turn ι Ask Reply)) := by
  constructor
  · rfl
  · intro earlier turn later split
    simp at split

/-- A further turn is on record too. -/
theorem turn {state : State} {turns : List (Turn ι Ask Reply)}
    (recorded : Recorded start state.store turns) (who : ι) (around : Surroundings)
    (question : Ask) :
    Recorded start (state.answer around question).2.store
      (turns ++ [⟨who, question, (state.answer around question).1⟩]) := by
  constructor
  · have calls : callsOf (turns ++ [⟨who, question, (state.answer around question).1⟩]) =
        callsOf turns ++ callsOf [⟨who, question, (state.answer around question).1⟩] :=
      List.filterMap_append
    rw [calls, Store.after_append, ← recorded.store]
    cases question <;> rfl
  · intro earlier turn later split
    rcases List.eq_nil_or_concat later with rfl | ⟨before, last, rfl⟩
    · obtain ⟨rfl, same⟩ := List.append_inj' split rfl
      obtain rfl := (List.cons.inj same).1
      rw [← recorded.store]
      cases question <;> first | rfl | trivial
    · rw [List.concat_eq_append, ← List.cons_append, ← List.append_assoc] at split
      exact recorded.each earlier turn before (List.append_inj_left' split rfl)

/-- The store after a reading is the one that was read from, after the calls since. -/
theorem store_since {now : Store} {before between : List (Turn ι Ask Reply)} {who : ι}
    {call : RepositoryCall} {reply : Reply (.repository call)}
    (recorded : Recorded start now (before ++ ⟨who, .repository call, reply⟩ :: between))
    (reads : ((start.after (callsOf before)).answer call).2 = start.after (callsOf before)) :
    now = (start.after (callsOf before)).after (callsOf between) := by
  have calls : callsOf (before ++ ⟨who, .repository call, reply⟩ :: between) =
      callsOf before ++ call :: callsOf between := by
    simp [callsOf]
  rw [recorded.store, calls, Store.after_append, Store.after_cons, reads]

end Recorded

end Leasehold.Engine
