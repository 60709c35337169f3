import Leasehold.Proofs.Engine.Operation
import Leasehold.Proofs.Program.Crew
import Leasehold.Proofs.Topology.Accepted
import Leasehold.Proofs.Topology.Candidates

/-!
# Clients that race for addresses

Any number of clients ask one engine for leases at the same instant, and their allocations take
turns in any order, one question at a time. Each works on what it has read, which others may have
changed since; what saves it is that a write is committed only on what was read, and that nobody
touches a lease that another client holds. Every lease that is handed out is therefore still there
in the end, and no address is handed out twice (`Race.play_exclusive`).
-/
namespace Leasehold

namespace Engine

open Ledger

/-- A lease of an attempt in an accepted topology is held from the instant of the attempt on. -/
theorem Serves.isActive_lease {topology : Topology} {request : Request} {mode : AllocationMode}
    {now : Instant} {attempt : Attempt} (accepted : topology.Accepted)
    (serves : Serves topology request mode now attempt) (target : Target) (version : Nat) :
    (attempt.lease target version).isActive now := by
  obtain ⟨subnet, member, candidate⟩ := Topology.exists_of_mem_select serves.selected
  have positive : 0 < attempt.lifetimes.valid := by
    have := accepted.validFor_pos member attempt.request.lifetime
    simpa [Attempt.lifetimes, candidate, Topology.candidate, LeaseTime.determine] using this
  have active : (attempt.lease target version).state = .active := rfl
  have later : now < (attempt.lease target version).expiresAt := by
    rw [← serves.now_mode.1]
    exact Nat.lt_add_of_pos_right positive
  simp [Lease.isActive, Lease.isExpired, active, later]

/-- A client that takes part in a race. -/
structure Contender where
  /-- The topology in force when its allocation begins. -/
  topology : Topology
  /-- That topology could come into force. -/
  accepted : topology.Accepted
  /-- What the client asks for. -/
  request : Request
  /-- How many candidates of each pool are tried. -/
  limit : Option Nat

/-- Clients that ask one engine for leases at the same instant. -/
structure Race (ι : Type) where
  /-- The instant. -/
  now : Instant
  /-- Whether a lease may be handed out. -/
  review : Request → Lease → AllocationMode → Bool
  /-- The clients. -/
  contenders : ι → Contender
  /-- No two clients present a common identifier. -/
  apart : ∀ who other, who ≠ other → ∀ identifier,
    (contenders who).request.identifiers.presents identifier →
      ¬ (contenders other).request.identifiers.presents identifier

namespace Race

variable {ι : Type} (race : Race ι)

/-- The identifiers that leases of a client are recorded against. -/
def Owns (who : ι) (owner : Identifier) : Prop :=
  (race.contenders who).request.identifiers.Owns owner

/-- No lease is recorded against two of the clients. -/
theorem owns_apart {who other : ι} (different : who ≠ other) {owner : Identifier}
    (owns : race.Owns who owner) : ¬ race.Owns other owner :=
  fun otherOwns => race.apart who other different owner owns.presents otherOwns.presents

/-- How questions are answered, given the random starts of walks through pools. -/
def answer (starts : Nat → Nat) (question : Ask) (state : State) : Reply question × State :=
  state.answer ⟨race.now, race.review, starts, .empty⟩ question

/-- The allocation of a client. -/
def allocation (who : ι) : Task Grant :=
  let contender := race.contenders who
  allocate contender.topology contender.request .commit contender.limit

variable [DecidableEq ι]

/-- The leases that a client was handed in some turns. -/
def granted (who : ι) (turns : List (Turn ι Ask Reply)) : List Lease :=
  (turns.filter (·.who = who)).filterMap fun turn => handedOut? turn.question turn.reply

/-- A client's own turn adds what it hands out to what the client was handed. -/
theorem granted_own (who : ι) (turns : List (Turn ι Ask Reply)) (question : Ask)
    (reply : Reply question) : granted who (turns ++ [⟨who, question, reply⟩]) =
      granted who turns ++ (handedOut? question reply).toList := by
  cases handed : handedOut? question reply <;> simp [granted, handed]

/-- The turn of another client adds nothing. -/
theorem granted_other {who other : ι} (different : who ≠ other)
    (turns : List (Turn ι Ask Reply)) (question : Ask) (reply : Reply question) :
    granted other (turns ++ [⟨who, question, reply⟩]) = granted other turns := by
  simp [granted, different]

/-- What holds the allocations together: each ends with a lease that is recorded, or has handed out
nothing. -/
def pact : Crew.Pact ι Ask Reply EngineError Grant State (Nat → Nat) Ledger where
  answer := race.answer
  view who state turns := ofState state (granted who turns)
  terms who := sharing race.now race.now (race.Owns who)
  goal who := ending (Given (race.contenders who).topology (race.contenders who).request .commit
    race.now (race.Owns who) []) (HasGranted [])
  answered who starts question state turns := by
    rw [granted_own]
    exact answers_ofState ⟨race.now, race.review, starts, .empty⟩ question state _
  compatible who other different starts question state turns := by
    intro change
    exact {
      granted := granted_other different turns question _
      grows := change.2
      spared := fun stored held owned mine =>
        change.1.get?_of_blocks stored (blocks_of_isActive held) fun owner _ same owns =>
          race.owns_apart different owns (Option.some.inj (owned.symm.trans same) ▸ mine) }

/-- The allocations before their first turn. -/
def start (state : State) : Crew ι Ask Reply EngineError Grant State :=
  ⟨race.allocation, state, []⟩

/-- The allocations after some turns. -/
def play (state : State) (schedule : List (ι × (Nat → Nat))) :
    Crew ι Ask Reply EngineError Grant State :=
  (race.start state).play race.answer schedule

/-- Whatever the turns, every allocation keeps to its terms. -/
theorem play_keeps (state : State) (schedule : List (ι × (Nat → Nat))) :
    (race.play state schedule).Keeps race.pact := by
  refine Crew.play_keeps race.pact (fun who => ?_) schedule
  exact keeps_allocate_sharing (fun owner owns => owns) ⟨rfl⟩

/-- What a client was given is recorded: its lease is held, and recorded against the client. -/
theorem recorded_of_done {state : State} {schedule : List (ι × (Nat → Nat))} {who : ι}
    {grant : Grant} (done : (race.play state schedule).programs who = .done grant) :
    (race.play state schedule).state.store.get? grant.lease.address = some grant.lease ∧
      grant.lease.isActive race.now ∧
        ∃ owner, grant.lease.owner = some owner ∧ race.Owns who owner := by
  have given : Given (race.contenders who).topology (race.contenders who).request .commit race.now
      (race.Owns who) [] grant _ :=
    (race.play_keeps state schedule).goal_of_done done
  obtain ⟨attempt, target, version, serves, lease⟩ := given.provided
  have held : grant.lease.isActive race.now := by
    rw [lease]
    exact serves.isActive_lease (race.contenders who).accepted target version
  have owned : grant.lease.owner = some attempt.owner := by
    rw [lease]
    rfl
  have mine : race.Owns who attempt.owner := ⟨_, serves.owned⟩
  exact ⟨(given.committed rfl).held _ held owned mine, held, attempt.owner, owned, mine⟩

/-- Whatever the state that they start from and the order of their turns: what each client was given
is recorded as its own active lease, no two clients were given the same address, and an allocation
that failed has written no active record. -/
theorem play_exclusive (state : State) (schedule : List (ι × (Nat → Nat))) :
    let finish := race.play state schedule
    (∀ who grant, finish.programs who = .done grant →
      finish.state.store.get? grant.lease.address = some grant.lease ∧
        grant.lease.state = .active ∧
          ∃ owner, grant.lease.owner = some owner ∧ race.Owns who owner) ∧
    (∀ who other, who ≠ other → ∀ grant otherGrant, finish.programs who = .done grant →
      finish.programs other = .done otherGrant →
        grant.lease.address ≠ otherGrant.lease.address) ∧
    ∀ who error, finish.programs who = .fail error → ∀ turn ∈ finish.turns, turn.who = who →
      handedOut? turn.question turn.reply = none := by
  intro finish
  refine ⟨fun who grant done => ?_,
    fun who other different grant otherGrant done otherDone same => ?_,
    fun who error failed turn taken own => ?_⟩
  · obtain ⟨stored, held, owner, owned, mine⟩ := race.recorded_of_done done
    obtain ⟨active, -⟩ := (Bool.and_eq_true _ _).mp held
    exact ⟨stored, beq_iff_eq.mp active, owner, owned, mine⟩
  · obtain ⟨stored, -, owner, owned, mine⟩ := race.recorded_of_done done
    obtain ⟨otherStored, -, otherOwner, otherOwned, otherMine⟩ := race.recorded_of_done otherDone
    rw [same] at stored
    have lease := Option.some.inj (stored.symm.trans otherStored)
    rw [lease, otherOwned] at owned
    obtain rfl := Option.some.inj owned
    exact race.owns_apart different mine otherMine
  · have nothing : HasGranted [] _ :=
      (race.play_keeps state schedule).goal_of_failed failed
    have none_handed := List.filterMap_eq_nil_iff.mp nothing.same
    exact none_handed turn (List.mem_filter.mpr ⟨taken, by simpa using own⟩)

end Race

/-- Two clients race for the only address of the small network. -/
def Sample.race : Race Bool where
  now := 0
  review _ _ _ := true
  contenders who :=
    ⟨Sample.topology, Topology.accepted_build _ _, Sample.request (if who then 1 else 2), none⟩
  apart := by
    rintro (_ | _) (_ | _) different ⟨kind, value⟩ first second
    all_goals cases kind <;> simp_all [ClientIdentifiers.presents, ClientIdentifiers.get?,
      Sample.request, Sample.client]
    all_goals exact absurd (first.trans second.symm) (by decide)

/-- They take thirty turns each. -/
def Sample.turns : List (Bool × (Nat → Nat)) :=
  (List.replicate 30 [(true, id), (false, id)]).flatten

/-- Taking turns, the first client is given the address, and the second finds it taken. -/
theorem Race.play_exclusive_of_pair :
    let finish := Sample.race.play State.initial Sample.turns
    (∃ grant, finish.programs true = .done grant ∧
      finish.state.store.get? grant.lease.address = some grant.lease) ∧
    ∃ error, finish.programs false = .fail error ∧ ∀ turn ∈ finish.turns, turn.who = false →
      handedOut? turn.question turn.reply = none := by
  have exclusive := Sample.race.play_exclusive State.initial Sample.turns
  have ended : (match (Sample.race.play State.initial Sample.turns).programs true,
      (Sample.race.play State.initial Sample.turns).programs false with
    | .done _, .fail _ => true
    | _, _ => false) = true := by decide +kernel
  generalize Sample.race.play State.initial Sample.turns = finish at exclusive ended ⊢
  obtain ⟨recorded, -, idle⟩ := exclusive
  split at ended
  · next grant error first second =>
    exact ⟨⟨grant, first, (recorded true grant first).1⟩, error, second, idle false error second⟩
  · exact nomatch ended

end Engine

end Leasehold
