import Mathlib.Logic.Function.Basic
import Leasehold.Proofs.Program.Keeps

/-!
# Programs that take turns

A crew is any number of programs that share a state. In a turn one of them asks its next question,
which is answered at once; a schedule says who takes the turns, in any order, and in which
circumstances each turn is taken. The turns are kept on record.

When no turn of one program makes a change that another cannot put up with, every program goes on
keeping to its own terms, whatever the schedule (`Crew.play_keeps`).
-/
namespace Leasehold

/-- One question of one program, with its reply. -/
structure Turn (ι Ask : Type) (Reply : Ask → Type) where
  /-- The program that asked. -/
  who : ι
  /-- What it asked. -/
  question : Ask
  /-- What it was told. -/
  reply : Reply question

/-- Programs that share a state. -/
structure Crew (ι Ask : Type) (Reply : Ask → Type) (ε α σ : Type) where
  /-- What each of the programs has left to do. -/
  programs : ι → Program Ask Reply ε α
  /-- The state that they share. -/
  state : σ
  /-- The turns taken so far, the latest last. -/
  turns : List (Turn ι Ask Reply)

namespace Crew

variable {ι Ask : Type} {Reply : Ask → Type} {ε α σ κ ρ : Type}

/-- A program asks its next question in the given circumstances. One that has ended does nothing. -/
def turn [DecidableEq ι] (answer : κ → (question : Ask) → σ → Reply question × σ)
    (crew : Crew ι Ask Reply ε α σ) (who : ι) (circumstances : κ) : Crew ι Ask Reply ε α σ :=
  match crew.programs who with
  | .done _ | .fail _ => crew
  | .ask question next =>
    let (reply, state) := answer circumstances question crew.state
    { programs := Function.update crew.programs who (next reply)
      state
      turns := crew.turns ++ [⟨who, question, reply⟩] }

/-- Turns are taken one after another. -/
def play [DecidableEq ι] (answer : κ → (question : Ask) → σ → Reply question × σ)
    (crew : Crew ι Ask Reply ε α σ) (schedule : List (ι × κ)) : Crew ι Ask Reply ε α σ :=
  schedule.foldl (fun crew (who, circumstances) => crew.turn answer who circumstances) crew

/-- A program of a crew is done, or has failed. -/
def hasEnded (crew : Crew ι Ask Reply ε α σ) (who : ι) : Bool :=
  match crew.programs who with
  | .done _ | .fail _ => true
  | .ask _ _ => false

/-- What holds together a crew: each program has terms and a goal of its own, and sees the shared
state and the turns in its own way. -/
structure Pact (ι Ask : Type) (Reply : Ask → Type) (ε α σ κ ρ : Type) where
  /-- How questions are answered in given circumstances. -/
  answer : κ → (question : Ask) → σ → Reply question × σ
  /-- What each program sees. -/
  view : ι → σ → List (Turn ι Ask Reply) → ρ
  /-- The terms of each program. -/
  terms : ι → Terms Ask Reply ρ
  /-- The goal of each program. -/
  goal : ι → Except ε α → ρ → Prop
  /-- The questions of a program are answered as its terms say. -/
  answered : ∀ who circumstances question state turns,
    (terms who).answers question (view who state turns) (answer circumstances question state).1
      (view who (answer circumstances question state).2
        (turns ++ [⟨who, question, (answer circumstances question state).1⟩]))
  /-- The changes that a program is allowed to make are among those that the others put up with. -/
  compatible : ∀ who other, who ≠ other → ∀ circumstances question state turns,
    let (reply, after) := answer circumstances question state
    let turns' := turns ++ [⟨who, question, reply⟩]
    (terms who).allowed (view who state turns) (view who after turns') →
      (terms other).rely (view other state turns) (view other after turns')

/-- Every program of a crew keeps to its terms. -/
def Keeps (pact : Pact ι Ask Reply ε α σ κ ρ) (crew : Crew ι Ask Reply ε α σ) : Prop :=
  ∀ who, (crew.programs who).Keeps (pact.terms who) (pact.goal who)
    (pact.view who crew.state crew.turns)

/-- A program of a crew that is done has reached its goal. -/
theorem Keeps.goal_of_done {pact : Pact ι Ask Reply ε α σ κ ρ} {crew : Crew ι Ask Reply ε α σ}
    (keeps : crew.Keeps pact) {who : ι} {result : α} (ended : crew.programs who = .done result) :
    pact.goal who (.ok result) (pact.view who crew.state crew.turns) := by
  have own := keeps who
  rw [ended] at own
  exact own _ ((pact.terms who).rely_refl _)

/-- A program of a crew that has failed has reached its goal. -/
theorem Keeps.goal_of_failed {pact : Pact ι Ask Reply ε α σ κ ρ} {crew : Crew ι Ask Reply ε α σ}
    (keeps : crew.Keeps pact) {who : ι} {error : ε} (ended : crew.programs who = .fail error) :
    pact.goal who (.error error) (pact.view who crew.state crew.turns) := by
  have own := keeps who
  rw [ended] at own
  exact own _ ((pact.terms who).rely_refl _)

variable [DecidableEq ι]

/-- A turn leaves every program keeping to its terms: the one that took it by its own terms, and the
others because they put up with the change. -/
theorem turn_keeps (pact : Pact ι Ask Reply ε α σ κ ρ) {crew : Crew ι Ask Reply ε α σ}
    (keeps : crew.Keeps pact) (who : ι) (circumstances : κ) :
    (crew.turn pact.answer who circumstances).Keeps pact := by
  unfold turn
  split
  · exact keeps
  · exact keeps
  · next question next asks =>
    have own := keeps who
    rw [asks] at own
    obtain ⟨change, following⟩ := own _ ((pact.terms who).rely_refl _) _ _
      (pact.answered who circumstances question crew.state crew.turns)
    intro other
    by_cases same : other = who
    · subst same
      simpa using following
    · simp only [Function.update_of_ne same]
      exact (keeps other).of_rely (pact.compatible who other (Ne.symm same) circumstances question
        crew.state crew.turns change)

/-- Whatever the schedule, every program keeps to its terms. -/
theorem play_keeps (pact : Pact ι Ask Reply ε α σ κ ρ) {crew : Crew ι Ask Reply ε α σ}
    (keeps : crew.Keeps pact) (schedule : List (ι × κ)) :
    (crew.play pact.answer schedule).Keeps pact := by
  induction schedule generalizing crew with
  | nil => exact keeps
  | cons entry rest ih => exact ih (turn_keeps pact keeps entry.1 entry.2)

/-- A condition on the shared state and the turns that every answered question keeps holds whatever
the schedule. -/
theorem play_invariant {answer : κ → (question : Ask) → σ → Reply question × σ}
    {fixed : σ → List (Turn ι Ask Reply) → Prop}
    (kept : ∀ who circumstances question state turns, fixed state turns →
      fixed (answer circumstances question state).2
        (turns ++ [⟨who, question, (answer circumstances question state).1⟩]))
    {crew : Crew ι Ask Reply ε α σ} (holds : fixed crew.state crew.turns)
    (schedule : List (ι × κ)) :
    fixed (crew.play answer schedule).state (crew.play answer schedule).turns := by
  induction schedule generalizing crew with
  | nil => exact holds
  | cons entry rest ih =>
    have next : fixed (crew.turn answer entry.1 entry.2).state
        (crew.turn answer entry.1 entry.2).turns := by
      unfold turn
      split
      · exact holds
      · exact holds
      · exact kept _ _ _ _ _ holds
    exact ih next

end Crew

end Leasehold
