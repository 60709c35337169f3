/-!
# Programs that ask questions

A program is what the engine does for one request, as a value: it is done with a result, has failed,
or asks a question and goes on from the reply. Everything the engine shares with others (the lease
repository, the locks, the clock) lies behind questions, so a program can be run against any
surroundings, and it can be held before any of its questions while other programs run.

`run` answers the questions one after another from a state. `holdingBefore` suspends a program
before one of its questions, runs another in between, and then goes on.
-/
namespace Leasehold

/-- A program that asks questions, and ends with a result or an error. -/
inductive Program (Ask : Type) (Reply : Ask → Type) (ε α : Type) where
  /-- The program is done. -/
  | done (result : α)
  /-- The program has failed. -/
  | fail (error : ε)
  /-- The program asks a question and goes on from the reply. -/
  | ask (question : Ask) (next : Reply question → Program Ask Reply ε α)

namespace Program

variable {Ask : Type} {Reply : Ask → Type} {ε δ α β σ : Type}

/-- A program that asks one question and is done with the reply. -/
def question (ask : Ask) : Program Ask Reply ε (Reply ask) := .ask ask .done

/-- The program that is done with a result, or has failed. -/
def ofExcept : Except ε α → Program Ask Reply ε α
  | .ok result => .done result
  | .error error => .fail error

/-- Go on from the result of a program. -/
def bind (first : Program Ask Reply ε α) (rest : α → Program Ask Reply ε β) :
    Program Ask Reply ε β :=
  match first with
  | .done result => rest result
  | .fail error => .fail error
  | .ask question next => .ask question fun reply => (next reply).bind rest

/-- A program goes on from the result of another one. -/
instance : Monad (Program Ask Reply ε) where
  pure := .done
  bind := bind

/-- The program with its error, if there is one, as part of its result. -/
def attempt : Program Ask Reply ε α → Program Ask Reply δ (Except ε α)
  | .done result => .done (.ok result)
  | .fail error => .done (.error error)
  | .ask question next => .ask question fun reply => (next reply).attempt

/-- Run a program: the questions are answered one after another, and each answer may change the
state. -/
def run (answer : (question : Ask) → σ → Reply question × σ) :
    Program Ask Reply ε α → σ → Except ε α × σ
  | .done result, state => (.ok result, state)
  | .fail error, state => (.error error, state)
  | .ask question next, state =>
    let (reply, state) := answer question state
    (next reply).run answer state

/-- The program among more questions, of which it asks those that are given for its own. -/
def embed {Ask' : Type} {Reply' : Ask' → Type} (into : Ask → Ask')
    (reply : (question : Ask) → Reply' (into question) → Reply question) :
    Program Ask Reply ε α → Program Ask' Reply' ε α
  | .done result => .done result
  | .fail error => .fail error
  | .ask question next =>
    .ask (into question) fun answer => (next (reply question answer)).embed into reply

/-- Run a program up to one of its questions: the first that is wanted after so many wanted ones
have been passed. There another program runs from its start to its end, and then the first goes on
from the question. When the program ends before, the other runs after it. The result tells whether
the program was held. -/
def holdingBefore (wanted : Ask → Bool) (inner : Program Ask Reply δ β) (after : Nat) :
    Program Ask Reply ε α → Program Ask Reply δ (Bool × Except ε α × β)
  | .done result => inner.bind fun found => .done (false, .ok result, found)
  | .fail error => inner.bind fun found => .done (false, .error error, found)
  | .ask question next =>
    if wanted question then
      match after with
      | 0 => inner.bind fun found =>
        (attempt (.ask question next)).bind fun result => .done (true, result, found)
      | after + 1 => .ask question fun reply => holdingBefore wanted inner after (next reply)
    else .ask question fun reply => holdingBefore wanted inner after (next reply)

/-- Running a program that goes on from another is running one after the other. -/
theorem run_bind (answer : (question : Ask) → σ → Reply question × σ)
    (first : Program Ask Reply ε α) (rest : α → Program Ask Reply ε β) (state : σ) :
    (first.bind rest).run answer state =
      match first.run answer state with
      | (.ok result, state) => (rest result).run answer state
      | (.error error, state) => (.error error, state) := by
  induction first generalizing state with
  | done result => rfl
  | fail error => rfl
  | ask question next ih => exact ih _ _

/-- A program runs in the same way when its error is made part of its result. -/
theorem run_attempt (answer : (question : Ask) → σ → Reply question × σ)
    (program : Program Ask Reply ε α) (state : σ) :
    (program.attempt : Program Ask Reply δ (Except ε α)).run answer state =
      (.ok (program.run answer state).1, (program.run answer state).2) := by
  induction program generalizing state with
  | done result => rfl
  | fail error => rfl
  | ask question next ih => exact ih _ _

end Program

end Leasehold
