import Mathlib.Algebra.Group.Nat.Defs
import Leasehold.Engine.Retry
import Leasehold.Proofs.Engine.Outcomes
import Leasehold.Proofs.Engine.Setback

/-!
# Trying an allocation again

An allocation that is tried again makes one try after another, each on the topology that is in force
then, and waits before each further try. It stops at the first try that ends in a grant or in an
error that trying again does not help with, and otherwise after as many tries as its policy allows.
Whatever goes wrong on the way, over all tries together no lease goes on record except the one that
is given to the client at last, if it is to be recorded (`retry_spec`).
-/
namespace Leasehold

/-- The proceedings of a program: how it ended, what was asked and replied, and what state it left.
-/
structure Proceedings (Ask : Type) (Reply : Ask → Type) (ε α σ : Type) where
  /-- How it ended. -/
  outcome : Except ε α
  /-- The questions, each with its reply. -/
  transcript : List (Sigma Reply)
  /-- The state that it left. -/
  last : σ

section Programs

variable {Ask : Type} {Reply : Ask → Type} {ε δ α β σ : Type}

/-- The proceedings of a program from a state on. -/
def Program.proceedings (answer : (question : Ask) → σ → Reply question × σ)
    (program : Program Ask Reply ε α) (state : σ) : Proceedings Ask Reply ε α σ :=
  ⟨(program.run answer state).1, program.transcript answer state, (program.run answer state).2⟩

/-- Proceedings with some questions before their own. -/
def Proceedings.after (these : Proceedings Ask Reply ε α σ) (asked : List (Sigma Reply)) :
    Proceedings Ask Reply ε α σ :=
  { these with transcript := asked ++ these.transcript }

/-- Questions may be put before others. -/
theorem Proceedings.after_after (these : Proceedings Ask Reply ε α σ)
    (asked before : List (Sigma Reply)) :
    (these.after asked).after before = these.after (before ++ asked) :=
  congrArg (mk these.outcome · these.last) (List.append_assoc ..).symm

/-- A program that goes on from how another ended asks its questions after those of the other. -/
theorem Program.proceedings_attempt_bind (answer : (question : Ask) → σ → Reply question × σ)
    (first : Program Ask Reply ε α) (rest : Except ε α → Program Ask Reply δ β) (state : σ) :
    let begun := first.proceedings answer state
    (first.attempt >>= rest).proceedings answer state =
      ((rest begun.outcome).proceedings answer begun.last).after begun.transcript := by
  induction first generalizing state with
  | done result => rfl
  | fail error => rfl
  | ask question next ih =>
    have following := ih (answer question state).1 (answer question state).2
    exact (congrArg (Proceedings.after · [⟨question, (answer question state).1⟩]) following).trans
      (Proceedings.after_after ..)

end Programs

namespace Engine

section Tries

variable {σ : Type} (policy : RetryPolicy) (request : Request) (mode : AllocationMode)
  (limit : Option Nat) (answer : (question : Ask) → σ → Reply question × σ)

/-- The proceedings of a try of an allocation. -/
abbrev Try (σ : Type) := Proceedings Ask Reply EngineError Grant σ

/-- A try after which another may help. -/
def Try.mayBeRepeated (done : Try σ) : Bool :=
  match done.outcome with
  | .ok _ => false
  | .error error => error.isRetryable

/-- A try of an allocation, on the topology that is in force. -/
def tryOnce (state : σ) : Try σ :=
  let (topology, after) := answer .topology state
  ((allocate topology request mode limit).proceedings answer after).after [⟨.topology, topology⟩]

/-- A try after so many others, each of which is followed by a wait. The first of them has the given
number. -/
def tryAfter (number : Nat) (state : σ) : Nat → Try σ
  | 0 => tryOnce request mode limit answer state
  | others + 1 =>
    let done := tryOnce request mode limit answer state
    tryAfter (number + 1) (answer (.pause (policy.delay number)) done.last).2 others

/-- What follows a try after which more may be made: another one after a wait, where that may help.
-/
def afterTry (more number : Nat) : Except EngineError Grant → Task Grant
  | .ok grant => return grant
  | .error error =>
    if error.isRetryable then do
      query (.pause (policy.delay number))
      retry policy request mode limit more (number + 1)
    else fail error

/-- A try that another follows runs on until after the wait. -/
def Try.transcriptWithPause (done : Try σ) (pause : Duration) : List (Sigma Reply) :=
  done.transcript ++ [⟨.pause pause, ()⟩]

/-- Tries are made one after another: one more is made when it may help and more may be made, and
only then. -/
structure TriesAgain (more number : Nat) (state : σ) (others : Nat) : Prop where
  /-- No more tries are made than may be. -/
  within : others ≤ more
  /-- After every try but the last another might help. -/
  repeated : ∀ earlier < others,
    (tryAfter policy request mode limit answer number state earlier).mayBeRepeated = true
  /-- It might also after the last, but then no more may be made. -/
  ended : (tryAfter policy request mode limit answer number state others).mayBeRepeated = true →
    others = more
  /-- The tries run with their waits in between, and the last decides. -/
  proceedings : (retry policy request mode limit more number).proceedings answer state =
    (tryAfter policy request mode limit answer number state others).after
      ((List.range others).flatMap fun earlier =>
        (tryAfter policy request mode limit answer number state earlier).transcriptWithPause
          (policy.delay (number + earlier)))

variable {policy request mode limit answer}

/-- A try that may be followed by another is followed by what its outcome asks for. -/
theorem proceedings_retry_eq_afterTry {more number : Nat} {state : σ} {done : Try σ}
    (first : tryOnce request mode limit answer state = done) :
    (retry policy request mode limit (more + 1) number).proceedings answer state =
      ((afterTry policy request mode limit more number done.outcome).proceedings answer
        done.last).after done.transcript := by
  subst first
  let topology := (answer .topology state).1
  have tried := Program.proceedings_attempt_bind answer (allocate topology request mode limit)
    (afterTry policy request mode limit more number) (answer .topology state).2
  calc (retry policy request mode limit (more + 1) number).proceedings answer state
    _ = (((allocate topology request mode limit).attempt >>=
          afterTry policy request mode limit more number).proceedings answer
            (answer .topology state).2).after [⟨.topology, topology⟩] := rfl
    _ = _ := by
      rw [tried, Proceedings.after_after]
      rfl

/-- No other try follows one where it does not help. -/
theorem proceedings_retry_of_ended {more number : Nat} {state : σ} {done : Try σ}
    (first : tryOnce request mode limit answer state = done) (ended : done.mayBeRepeated = false) :
    (retry policy request mode limit (more + 1) number).proceedings answer state = done := by
  rw [proceedings_retry_eq_afterTry first]
  obtain ⟨outcome, transcript, last⟩ := done
  have stops : (afterTry policy request mode limit more number outcome).proceedings answer last =
      ⟨outcome, [], last⟩ := by
    cases outcome with
    | ok grant => rfl
    | error error =>
      have fails : afterTry policy request mode limit more number (.error error) = fail error :=
        if_neg (Bool.eq_false_iff.mp ended)
      rw [fails]
      rfl
  exact (congrArg (Proceedings.after · transcript) stops).trans
    (congrArg (Proceedings.mk outcome · last) (List.append_nil transcript))

/-- Another try follows one, after a wait, where it may help. -/
theorem proceedings_retry_of_repeated {more number : Nat} {state : σ} {done : Try σ}
    (first : tryOnce request mode limit answer state = done)
    (repeated : done.mayBeRepeated = true) :
    (retry policy request mode limit (more + 1) number).proceedings answer state =
      ((retry policy request mode limit more (number + 1)).proceedings answer
        (answer (.pause (policy.delay number)) done.last).2).after
          (done.transcriptWithPause (policy.delay number)) := by
  rw [proceedings_retry_eq_afterTry first]
  obtain ⟨outcome, transcript, last⟩ := done
  cases outcome with
  | ok grant => exact nomatch repeated
  | error error =>
    have again : afterTry policy request mode limit more number (.error error) = (do
        query (.pause (policy.delay number))
        retry policy request mode limit more (number + 1)) := if_pos repeated
    let following := (retry policy request mode limit more (number + 1)).proceedings answer
      (answer (.pause (policy.delay number)) last).2
    rw [again]
    exact following.after_after [⟨.pause (policy.delay number), ()⟩] transcript

/-- However many tries may be made, they follow one another. -/
theorem exists_triesAgain (more number : Nat) (state : σ) :
    ∃ others, TriesAgain policy request mode limit answer more number state others := by
  induction more generalizing number state with
  | zero => exact ⟨0, Nat.le_refl 0, nofun, fun _ => rfl, rfl⟩
  | succ more ih =>
    cases repeats : (tryOnce request mode limit answer state).mayBeRepeated with
    | false =>
      refine ⟨0, Nat.zero_le _, nofun, fun again => ?_, proceedings_retry_of_ended rfl repeats⟩
      exact nomatch repeats.symm.trans again
    | true =>
      -- The tries that are left begin in the state after the wait, with the next number.
      obtain ⟨others, follows⟩ := ih (number + 1)
        (answer (.pause (policy.delay number)) (tryOnce request mode limit answer state).last).2
      refine ⟨others + 1, Nat.succ_le_succ follows.within, fun earlier before => ?_,
        fun again => congrArg Nat.succ (follows.ended again), ?_⟩
      · cases earlier with
        | zero => exact repeats
        | succ earlier => exact follows.repeated earlier (Nat.lt_of_succ_lt_succ before)
      · rw [proceedings_retry_of_repeated rfl repeats, follows.proceedings, Proceedings.after_after,
          List.range_succ_eq_map, List.flatMap_cons, List.flatMap_map]
        simp only [Nat.add_assoc, Nat.add_comm 1, Nat.add_zero]
        rfl

/-- Over all tries together the lease of the grant goes on record, if it is to, and no other. -/
theorem keeps_retry (more number : Nat) :
    (retry policy request mode limit more number).Keeps watched
      (concluding (Watched.Recorded mode) (Watched.unrecorded fun _ => True)) [] := by
  have idle : Steady watched (· = []) := steady_watched _
  have tries (topology : Topology) : (allocate topology request mode limit).Keeps watched
      (concluding (Watched.Recorded mode) (Watched.unrecorded fun _ => True)) [] :=
    Watched.keeps_with_more Watched.keeps_allocate fun _ _ => trivial
  induction more generalizing number with
  | zero =>
    refine idle.query_bind rfl rfl fun topology recorded none => ?_
    subst none
    exact tries topology
  | succ more ih =>
    refine idle.query_bind rfl rfl fun topology recorded none => ?_
    subst none
    refine (tries topology).attempt.bind fun outcome recorded reached => ?_
    cases outcome with
    | ok grant => exact Watched.keeps_done reached
    | error error =>
      obtain ⟨rfl, -⟩ := reached
      dsimp only
      split
      · refine idle.query_bind rfl rfl fun _ recorded none => ?_
        subst none
        exact ih (number + 1)
      · exact Watched.keeps_failed trivial

end Tries

/-- An allocation that is tried again makes at least one try and at most as many as its policy
allows. Each try but the last ended in an error that trying again may help with, and so did the last
only where no more were allowed; the last decides how the whole ends. Before each further try it
waits twice as long as before, as far as the factor and the time can be counted.

However its questions are answered, the only lease that it records as active, over all tries
together, is the one of its grant, in case it is to be committed. Where the repository serves its
calls from a store or fails without an effect, no other active record comes into that store. -/
theorem retry_spec {σ : Type} (policy : RetryPolicy) (request : Request) (mode : AllocationMode)
    (limit : Option Nat) (answer : (question : Ask) → σ → Reply question × σ) (state : σ) :
    let nth := tryAfter policy request mode limit answer 1 state
    let whole := (allocateWithRetry policy request mode limit).proceedings answer state
    (∃ others, others + 1 ≤ max 1 policy.attempts ∧
      (∀ earlier < others, (nth earlier).mayBeRepeated = true) ∧
      ((nth others).mayBeRepeated = true → others + 1 = max 1 policy.attempts) ∧
      whole = (nth others).after ((List.range others).flatMap fun earlier =>
        (nth earlier).transcriptWithPause (policy.delay (earlier + 1)))) ∧
    (∀ earlier, policy.delay (earlier + 1) =
      min (policy.backoff * min (2 ^ earlier) largestWord) RetryPolicy.longestWait) ∧
    recordedIn whole.transcript = mode.recorded whole.outcome ∧
    ∀ store : σ → Store, AnswersFrom store answer →
      ∀ lease ∈ (store whole.last).leases, lease.state = .active →
        lease ∈ (store state).leases ∨ lease ∈ mode.recorded whole.outcome := by
  intro nth whole
  have recorded : recordedIn whole.transcript = mode.recorded whole.outcome :=
    Watched.recordedIn_eq (keeps_retry _ _)
  refine ⟨?_, fun _ => rfl, recorded, fun store answers lease member active => ?_⟩
  · obtain ⟨others, follows⟩ := @exists_triesAgain σ policy request mode limit answer
      (policy.attempts - 1) 1 state
    have within := follows.within
    refine ⟨others, by omega, follows.repeated, fun again => ?_, ?_⟩
    · have all := follows.ended again
      omega
    · have tried := follows.proceedings
      simp only [Nat.add_comm 1] at tried
      exact tried
  · rw [← recorded]
    exact mem_or_recordedIn answers _ state member active

/-- A repository that fails some calls without an effect answers from the store of the engine. -/
theorem State.answersFrom_answerDuring (around : Surroundings) (outage : Outage) :
    AnswersFrom (·.1.store) (State.answerDuring around outage) := by
  rintro question ⟨state, calls⟩
  cases question with
  | repository call =>
    cases fails : outage calls with
    | some error =>
      simp only [State.answerDuring, fails]
      exact .failed call error
    | none =>
      simp only [State.answerDuring, fails]
      exact .served call
  | _ => exact .other _ fun _ same => by cases same

namespace Sample

/-- The fourth call finds the repository out of reach. -/
def outage : Outage := fun calls => if calls = 3 then some (.transient "down") else none

end Sample

/-- The lease of the first client is over. Its record is reclaimed for the second client, and the
repository fails when the new lease is to be recorded; the second try records it. -/
theorem retry_spec_of_outage :
    let whole := (allocateWithRetry ⟨3, 100⟩ (Sample.request 2) .commit none).proceedings
      (State.answerDuring (Sample.around Sample.expiry) Sample.outage) (Sample.taken, 0)
    whole.last.1.waited = 100 ∧
      recordedIn whole.transcript = [Sample.lease 2 Sample.expiry 3] ∧
      ∀ lease ∈ whole.last.1.store.leases, lease.state = .active →
        lease ∈ Sample.taken.store.leases ∨ lease = Sample.lease 2 Sample.expiry 3 := by
  intro whole
  have leased : AllocationMode.commit.recorded whole.outcome =
      [Sample.lease 2 Sample.expiry 3] := by decide +kernel
  obtain ⟨-, -, recorded, news⟩ := retry_spec ⟨3, 100⟩ (Sample.request 2) .commit none
    (State.answerDuring (Sample.around Sample.expiry) Sample.outage) (Sample.taken, 0)
  refine ⟨by decide +kernel, recorded.trans leased, fun lease member active => ?_⟩
  rw [← List.mem_singleton, ← leased]
  exact news (·.1.store) (State.answersFrom_answerDuring _ _) lease member active

end Engine

end Leasehold
