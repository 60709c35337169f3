import Leasehold.Engine.Reclaim
import Leasehold.Proofs.Program.Keeps

/-!
# Conditions that only changes of records can break

Most questions of a task change no record: it reads, takes the time, reports, locks and unlocks. A
condition is steady when neither others nor such questions break it. A task goes on meeting a steady
condition, without further argument, up to the next write or deletion, and it may do its work under
a lock.

Some conditions are about what was announced as well. Announcements follow the changes that they are
about, so these conditions are calm only: the notices that announce a change may break them too.
-/
namespace Leasehold

/-- The notice announces that a record was changed. -/
def Notice.isAnnouncement : Notice → Bool
  | .committed _ | .reclaimed _ => true
  | .count (.outcome _) _ => false
  | .count _ _ => true
  | .reviewed _ _ _ | .phase _ _ _ => false

namespace Engine

/-- The question asks for a record to be written or deleted. -/
def Ask.isChange : Ask → Bool
  | .repository (.write _ _) => true
  | .repository (.delete _) => true
  | _ => false

/-- The question changes a record, or it reports a notice that is heeded. -/
def Ask.isHeeded (heeded : Notice → Bool) : Ask → Bool
  | .report notice => heeded notice
  | question => question.isChange

/-- Where no notice is heeded, a question that does not count changes no record. -/
theorem Ask.isChange_of_not_isHeeded {question : Ask} {heeded : Notice → Bool}
    (harmless : question.isHeeded heeded = false) : question.isChange = false := by
  cases question with
  | report notice => rfl
  | _ => exact harmless

variable {σ α β : Type} {terms : Terms Ask Reply σ}

/-- A condition that neither others nor questions break, unless these change a record or report a
notice that is heeded. The other questions are allowed where it is met. -/
structure SteadyUnless (heeded : Notice → Bool) (terms : Terms Ask Reply σ)
    (condition : σ → Prop) : Prop where
  /-- Others do not break it. -/
  spared : ∀ {before after}, terms.rely before after → condition before → condition after
  /-- Questions that are not heeded do not break it, and are allowed. -/
  kept : ∀ {question before reply after}, question.isHeeded heeded = false → condition before →
    terms.answers question before reply after → terms.allowed before after ∧ condition after

/-- A condition that only questions for a change can break. -/
abbrev Steady (terms : Terms Ask Reply σ) (condition : σ → Prop) : Prop :=
  SteadyUnless (fun _ => false) terms condition

/-- A condition that only questions for a change and announcements can break. -/
abbrev Calm (terms : Terms Ask Reply σ) (condition : σ → Prop) : Prop :=
  SteadyUnless Notice.isAnnouncement terms condition

/-- A steady condition is calm. -/
theorem Steady.calm {condition : σ → Prop} (steady : Steady terms condition) :
    Calm terms condition where
  spared := steady.spared
  kept {question _ _ _} harmless := steady.kept (by
    have spared := question.isChange_of_not_isHeeded harmless
    cases question with
    | report notice => rfl
    | _ => exact spared)

namespace SteadyUnless

variable {condition : σ → Prop} {heeded : Notice → Bool}

/-- A steady condition is still met when a task is done. -/
theorem done (steady : SteadyUnless heeded terms condition) {bad : EngineError → σ → Prop}
    (result : α) {state : σ} (holds : condition state) :
    (pure result : Task α).Keeps terms (concluding (fun _ => condition) bad) state :=
  fun _ meanwhile => steady.spared meanwhile holds

/-- A steady condition is still met when a task has failed. -/
theorem failed {bad : EngineError → σ → Prop} {good : α → σ → Prop} (error : EngineError)
    (steady : SteadyUnless heeded terms (bad error)) {state : σ} (holds : bad error state) :
    (fail error : Task α).Keeps terms (concluding good bad) state :=
  fun _ meanwhile => steady.spared meanwhile holds

/-- A steady condition is met after a question that is not heeded. -/
theorem query (steady : SteadyUnless heeded terms condition) {question : Ask}
    (harmless : question.isHeeded heeded = false) {bad : EngineError → σ → Prop} {state : σ}
    (holds : condition state) :
    (query question).Keeps terms (concluding (fun _ => condition) bad) state := by
  apply Program.Keeps.question
  intro later meanwhile reply after answered
  obtain ⟨allowed, holdsAfter⟩ := steady.kept harmless (steady.spared meanwhile holds) answered
  exact ⟨allowed, fun last next => steady.spared next holdsAfter⟩

/-- A task may take the time first, where it is known what time it is. -/
theorem clock_bind (steady : SteadyUnless heeded terms condition) {now : Instant}
    (told : ∀ {before reply after}, terms.answers .clock before reply after → reply = now)
    {rest : Instant → Task β} {goal} {state : σ} (holds : condition state)
    (goesOn : ∀ later, condition later → (rest now).Keeps terms goal later) :
    (clock >>= rest).Keeps terms goal state := by
  intro later meanwhile reply after answered
  obtain ⟨allowed, holdsAfter⟩ := steady.kept rfl (steady.spared meanwhile holds) answered
  obtain rfl := told answered
  exact ⟨allowed, goesOn after holdsAfter⟩

/-- A task may ask a question that is not heeded first. -/
theorem query_bind (steady : SteadyUnless heeded terms condition) {question : Ask}
    (harmless : question.isHeeded heeded = false) {rest : Reply question → Task β} {good bad}
    {state : σ} (holds : condition state)
    (goesOn : ∀ reply later, condition later →
      (rest reply).Keeps terms (concluding good bad) later) :
    (Engine.query question >>= rest).Keeps terms (concluding good bad) state :=
  (steady.query harmless holds).bind goesOn

/-- A task may report something that is not heeded first. -/
theorem report_bind (steady : SteadyUnless heeded terms condition) {notice : Notice}
    (harmless : heeded notice = false) {rest : Unit → Task β} {good bad} {state : σ}
    (holds : condition state)
    (goesOn : ∀ later, condition later → (rest ()).Keeps terms (concluding good bad) later) :
    (report notice >>= rest).Keeps terms (concluding good bad) state :=
  steady.query_bind (show (Ask.report notice).isHeeded heeded = false from harmless) holds
    fun _ => goesOn

/-- A task may take a count that is not heeded first. -/
theorem count_bind (steady : SteadyUnless heeded terms condition) {metric : Metric} {change : Int}
    (harmless : heeded (.count metric change) = false) {rest : Unit → Task β} {good bad}
    {state : σ} (holds : condition state)
    (goesOn : ∀ later, condition later → (rest ()).Keeps terms (concluding good bad) later) :
    (count metric change >>= rest).Keeps terms (concluding good bad) state :=
  steady.report_bind harmless holds goesOn

/-- A call that changes no record meets a steady condition, or what that condition means when the
repository fails. -/
theorem call_concluding (steady : SteadyUnless heeded terms condition) {request : RepositoryCall}
    (harmless : (Ask.repository request).isHeeded heeded = false) {bad : EngineError → σ → Prop}
    (failing : ∀ error last, condition last → bad (.ofRepository error) last) {state : σ}
    (holds : condition state) :
    (Engine.call request).Keeps terms (concluding (fun _ => condition) bad) state := by
  intro later meanwhile reply after answered
  obtain ⟨allowed, holdsAfter⟩ := steady.kept harmless (steady.spared meanwhile holds) answered
  refine ⟨allowed, ?_⟩
  cases reply with
  | ok answer => exact fun last next => steady.spared next holdsAfter
  | error error => exact fun last next => failing error last (steady.spared next holdsAfter)

/-- A call that changes no record meets a steady condition, also when the repository fails. -/
theorem call (steady : SteadyUnless heeded terms condition) {request : RepositoryCall}
    (harmless : (Ask.repository request).isHeeded heeded = false) {state : σ}
    (holds : condition state) : (call request).Keeps terms (atEnd condition) state :=
  steady.call_concluding harmless (fun _ _ => id) holds

end SteadyUnless

/-- Work under a lock reaches what it reaches without: locking comes before it, and unlocking breaks
none of its conditions. -/
theorem keeps_holding {heeded : Notice → Bool} {idle : σ → Prop} {good : α → σ → Prop}
    {bad : EngineError → σ → Prop} (idleSteady : SteadyUnless heeded terms idle)
    (goodSteady : ∀ result, SteadyUnless heeded terms (good result))
    (badSteady : ∀ error, SteadyUnless heeded terms (bad error)) {address : Address}
    {busy work : Task α} {state : σ} (holds : idle state)
    (whenBusy : ∀ later, idle later → busy.Keeps terms (concluding good bad) later)
    (whenFree : ∀ later, idle later → work.Keeps terms (concluding good bad) later) :
    (holding address busy work).Keeps terms (concluding good bad) state := by
  intro later meanwhile free after answered
  obtain ⟨allowed, idleAfter⟩ := idleSteady.kept rfl (idleSteady.spared meanwhile holds) answered
  refine ⟨allowed, ?_⟩
  cases free with
  | false => exact whenBusy after idleAfter
  | true =>
    refine (whenFree after idleAfter).attempt.bind fun outcome last reached => ?_
    have unlocked : SteadyUnless heeded terms (concluding good bad outcome) := by
      cases outcome with
      | ok result => exact goodSteady result
      | error error => exact badSteady error
    refine unlocked.query_bind rfl reached fun _ next stillReached => ?_
    exact Program.Keeps.ofExcept fun final meanwhile => unlocked.spared meanwhile stillReached

/-- The record that a write has left, when it is committed. -/
def committed? : WriteOutcome → Option Lease
  | .committed stored => some stored
  | .conflict _ => none

/-- Reclaiming a record reaches what writing it as reclaimed reaches: nothing else that it does
changes a record. -/
theorem keeps_reclaim_of_write {lease : Lease} {reached : Option Lease → σ → Prop}
    {bad : EngineError → σ → Prop} (steady : ∀ result, Steady terms (reached result)) {state : σ}
    (writes : (call (.write { lease with state := .reclaimed } (.version lease.version))).Keeps
      terms (concluding (fun outcome => reached (committed? outcome)) bad) state) :
    (reclaim lease).Keeps terms (concluding reached bad) state := by
  refine writes.bind fun outcome last holds => ?_
  cases outcome with
  | conflict found => exact fun _ meanwhile => (steady none).spared meanwhile holds
  | committed stored =>
    have reports (last : σ) (holds : reached (some stored) last) :
        (do count .reclaimed 1; report (.reclaimed stored); return some stored :
          Task (Option Lease)).Keeps terms (concluding reached bad) last :=
      (steady (some stored)).count_bind rfl holds fun _ holds =>
        (steady (some stored)).report_bind rfl holds fun _ holds =>
          fun _ meanwhile => (steady (some stored)).spared meanwhile holds
    dsimp only
    split
    · exact (steady (some stored)).count_bind rfl holds reports
    · exact reports last holds

end Engine

end Leasehold
