import Mathlib.Logic.Relation
import Leasehold.Program

/-!
# Programs that keep to terms

What a program does is judged question by question. The terms of a program say which replies its
questions may get, what others may do to the state meanwhile, and which changes its own questions
are allowed to make. A program keeps to its terms, towards a goal, when every question it asks makes
an allowed change, whatever it was told before and whatever others did, and when it ends in
accordance with the goal, which goes on to hold whatever others do.

The rules go along the shape of a program. Two of them tie the judgement to runs: a run of a program
on its own makes allowed changes only and reaches the goal (`Keeps.run`), and a condition that
neither others nor the allowed changes break may be added to every goal (`Keeps.frame`).
-/
namespace Leasehold

/-- What a program can count on, and what it may do. -/
structure Terms (Ask : Type) (Reply : Ask → Type) (σ : Type) where
  /-- A question asked in a state may get a reply, which leaves another state. -/
  answers : (question : Ask) → σ → Reply question → σ → Prop
  /-- Others may turn a state into another. -/
  rely : σ → σ → Prop
  /-- The program may turn a state into another by one of its questions. -/
  allowed : σ → σ → Prop
  /-- Others may do nothing. -/
  rely_refl : ∀ state, rely state state
  /-- Others may do one thing after another. -/
  rely_trans : ∀ {first second third}, rely first second → rely second third → rely first third

/-- A goal that says one thing of a result and another of an error. -/
def concluding {ε α σ : Type} (good : α → σ → Prop) (bad : ε → σ → Prop) : Except ε α → σ → Prop
  | .ok result, state => good result state
  | .error error, state => bad error state

/-- A goal that says one thing of a result and the same of every error. -/
abbrev ending {ε α σ : Type} (good : α → σ → Prop) (bad : σ → Prop) : Except ε α → σ → Prop :=
  concluding good fun _ => bad

/-- A goal that says the same of every end. -/
abbrev atEnd {ε α σ : Type} (condition : σ → Prop) : Except ε α → σ → Prop :=
  ending (fun _ => condition) condition

/-- A goal that every end reaches. -/
abbrev anyhow {ε α σ : Type} : Except ε α → σ → Prop := ending (fun _ _ => True) fun _ => True

/-- The terms of a program of which nothing is asked, and which counts on nothing. -/
def Terms.free {Ask : Type} {Reply : Ask → Type} {σ : Type} : Terms Ask Reply σ where
  answers _ _ _ _ := True
  rely _ _ := True
  allowed _ _ := True
  rely_refl _ := trivial
  rely_trans _ _ := trivial

namespace Program

variable {Ask : Type} {Reply : Ask → Type} {ε δ α β σ τ : Type}

/-- From a state on, the program makes allowed changes only, and ends in accordance with a goal. -/
def Keeps (terms : Terms Ask Reply σ) (goal : Except ε α → σ → Prop) :
    Program Ask Reply ε α → σ → Prop
  | .done result, state => ∀ later, terms.rely state later → goal (.ok result) later
  | .fail error, state => ∀ later, terms.rely state later → goal (.error error) later
  | .ask question next, state => ∀ later, terms.rely state later →
    ∀ reply after, terms.answers question later reply after →
      terms.allowed later after ∧ (next reply).Keeps terms goal after

namespace Keeps

variable {terms : Terms Ask Reply σ} {goal : Except ε α → σ → Prop}

/-- A program keeps to its terms also after others have done something. -/
theorem of_rely {program : Program Ask Reply ε α} {state later : σ}
    (keeps : program.Keeps terms goal state) (meanwhile : terms.rely state later) :
    program.Keeps terms goal later := by
  cases program with
  | done result => exact fun last next => keeps last (terms.rely_trans meanwhile next)
  | fail error => exact fun last next => keeps last (terms.rely_trans meanwhile next)
  | ask question next =>
    exact fun last following => keeps last (terms.rely_trans meanwhile following)

/-- A goal may be weakened, and so may terms: fewer replies and less interference are to be reckoned
with, or more is allowed. -/
theorem mono {weaker : Terms Ask Reply σ} {goal' : Except ε α → σ → Prop}
    {program : Program Ask Reply ε α} {state : σ} (keeps : program.Keeps terms goal state)
    (answers : ∀ {question before reply after}, weaker.answers question before reply after →
      terms.answers question before reply after)
    (rely : ∀ {before after}, weaker.rely before after → terms.rely before after)
    (allowed : ∀ {before after}, terms.allowed before after → weaker.allowed before after)
    (reached : ∀ {outcome last}, goal outcome last → goal' outcome last) :
    program.Keeps weaker goal' state := by
  induction program generalizing state with
  | done result => exact fun later meanwhile => reached (keeps later (rely meanwhile))
  | fail error => exact fun later meanwhile => reached (keeps later (rely meanwhile))
  | ask question next ih =>
    intro later meanwhile reply after answered
    obtain ⟨change, rest⟩ := keeps later (rely meanwhile) reply after (answers answered)
    exact ⟨allowed change, ih reply rest⟩

/-- A weaker goal is reached too. -/
theorem weaken {goal' : Except ε α → σ → Prop} {program : Program Ask Reply ε α} {state : σ}
    (keeps : program.Keeps terms goal state)
    (reached : ∀ {outcome last}, goal outcome last → goal' outcome last) :
    program.Keeps terms goal' state :=
  keeps.mono id id id reached

/-- A program may be judged by its terms alone. -/
theorem anyhow {program : Program Ask Reply ε α} {state : σ}
    (keeps : program.Keeps terms goal state) : program.Keeps terms anyhow state :=
  keeps.weaken fun {outcome _} _ => by cases outcome <;> exact True.intro

/-- Every program keeps to the terms that ask for nothing. -/
theorem free (program : Program Ask Reply ε α) (state : σ) :
    program.Keeps .free Leasehold.anyhow state := by
  induction program generalizing state with
  | done result => exact fun _ _ => trivial
  | fail error => exact fun _ _ => trivial
  | ask question next ih => exact fun _ _ reply after _ => ⟨trivial, ih reply after⟩

/-- A program that is done keeps to its terms when the goal holds and others cannot break it. -/
theorem done {result : α} {state : σ}
    (reached : ∀ later, terms.rely state later → goal (.ok result) later) :
    (pure result : Program Ask Reply ε α).Keeps terms goal state := reached

/-- One program after another: the second goes on from what the first has reached. -/
theorem bind {first : Program Ask Reply ε α} {rest : α → Program Ask Reply ε β}
    {middle good bad} {state : σ} (begins : first.Keeps terms (concluding middle bad) state)
    (goesOn : ∀ result last, middle result last →
      (rest result).Keeps terms (concluding good bad) last) :
    (first >>= rest).Keeps terms (concluding good bad) state := by
  induction first generalizing state with
  | done result => exact goesOn result state (begins state (terms.rely_refl state))
  | fail error => exact begins
  | ask question next ih =>
    intro later meanwhile reply after answered
    obtain ⟨change, following⟩ := begins later meanwhile reply after answered
    exact ⟨change, ih reply following⟩

/-- A program whose result is of no interest keeps to the same terms. -/
theorem discard {program : Program Ask Reply ε α} {state : σ}
    (keeps : program.Keeps terms goal state) :
    (do let _ ← program : Program Ask Reply ε Unit).Keeps terms Leasehold.anyhow state :=
  keeps.anyhow.bind fun _ _ _ _ _ => trivial

/-- A program whose error is part of its result reaches the same goal, and does not fail. -/
theorem attempt {program : Program Ask Reply ε α} {state : σ} {bad : δ → σ → Prop}
    (keeps : program.Keeps terms goal state) :
    (program.attempt : Program Ask Reply δ (Except ε α)).Keeps terms (concluding goal bad)
      state := by
  induction program generalizing state with
  | done result => exact keeps
  | fail error => exact keeps
  | ask question next ih =>
    intro later meanwhile reply after answered
    obtain ⟨change, following⟩ := keeps later meanwhile reply after answered
    exact ⟨change, ih reply following⟩

/-- A program that only restores an outcome reaches every goal that the outcome meets for good. -/
theorem ofExcept {outcome : Except ε α} {state : σ}
    (reached : ∀ later, terms.rely state later → goal outcome later) :
    (Program.ofExcept outcome : Program Ask Reply ε α).Keeps terms goal state := by
  cases outcome <;> exact reached

/-- A single question reaches what its replies meet for good. -/
theorem question {asked : Ask} {state : σ}
    {goal : Except ε (Reply asked) → σ → Prop}
    (reached : ∀ later, terms.rely state later → ∀ reply after,
      terms.answers asked later reply after → terms.allowed later after ∧
        ∀ last, terms.rely after last → goal (.ok reply) last) :
    (Program.question asked : Program Ask Reply ε (Reply asked)).Keeps terms goal state := reached

/-- A condition that holds at first, and that neither others nor allowed changes break, holds at the
end as well. -/
theorem frame {program : Program Ask Reply ε α} {state : σ} (fixed : σ → Prop)
    (keeps : program.Keeps terms goal state) (holds : fixed state)
    (spared : ∀ {before after}, terms.rely before after → fixed before → fixed after)
    (kept : ∀ {before after}, terms.allowed before after → fixed before → fixed after) :
    program.Keeps terms (fun outcome last => goal outcome last ∧ fixed last) state := by
  induction program generalizing state with
  | done result =>
    exact fun later meanwhile => ⟨keeps later meanwhile, spared meanwhile holds⟩
  | fail error =>
    exact fun later meanwhile => ⟨keeps later meanwhile, spared meanwhile holds⟩
  | ask question next ih =>
    intro later meanwhile reply after answered
    obtain ⟨change, following⟩ := keeps later meanwhile reply after answered
    exact ⟨change, ih reply following (kept change (spared meanwhile holds))⟩

/-- A program that keeps to its terms, run on its own, reaches its goal by allowed changes. The
states of the run are `τ`, and `sees` says how the terms see them. -/
theorem run {program : Program Ask Reply ε α} {state : σ}
    {answer : (question : Ask) → τ → Reply question × τ} {sees : τ → σ → Prop}
    (faithful : ∀ question actual seen, sees actual seen → ∃ after,
      terms.answers question seen (answer question actual).1 after ∧
        sees (answer question actual).2 after)
    (keeps : program.Keeps terms goal state) {actual : τ} (seen : sees actual state) :
    ∃ last, sees (program.run answer actual).2 last ∧ goal (program.run answer actual).1 last ∧
      Relation.ReflTransGen terms.allowed state last := by
  induction program generalizing state actual with
  | done result => exact ⟨state, seen, keeps state (terms.rely_refl state), .refl⟩
  | fail error => exact ⟨state, seen, keeps state (terms.rely_refl state), .refl⟩
  | ask question next ih =>
    obtain ⟨after, answered, seenAfter⟩ := faithful question actual state seen
    obtain ⟨change, following⟩ := keeps state (terms.rely_refl state) _ after answered
    obtain ⟨last, seenLast, reached, changes⟩ := ih _ following seenAfter
    exact ⟨last, seenLast, reached, .head change changes⟩

end Keeps

end Program

end Leasehold
