import Leasehold.Proofs.Engine.Rounds

/-!
# Two allocations side by side

Two allocations serve the same request under the same topology, each on its own, perhaps in
different modes and with different stores. They go the same way as long as they agree on every
address that they try, on the addresses that the leases of the client suggest, and on the subnets
that these leases prefer. In the end both are granted an address, or both fail with the same error
(`Lockstep.allocate`). What they have in common then is what trying an address leaves in common.
-/
namespace Leasehold

/-- The attempt in another mode. -/
def Attempt.inMode (attempt : Attempt) (mode : AllocationMode) : Attempt := { attempt with mode }

/-- An attempt is made in its own mode. -/
theorem Attempt.inMode_self (attempt : Attempt) : attempt.inMode attempt.mode = attempt := rfl

namespace Engine

variable {α α' β β' : Type} {around : Surroundings}

/-- Two runs end together: with results that have something in common, or with the same error. -/
def Together (good : α → Scene → α' → Scene → Prop) (bad : Scene → Scene → Prop) :
    Except EngineError α × Scene → Except EngineError α' × Scene → Prop
  | (.ok result, last), (.ok result', last') => good result last result' last'
  | (.error error, last), (.error error', last') => error = error' ∧ bad last last'
  | _, _ => False

namespace Together

variable {good : β → Scene → β' → Scene → Prop} {bad : Scene → Scene → Prop}
  {scene scene' : Scene}

/-- Two tasks after two others go on from what these have in common. -/
theorem bind {middle : α → Scene → α' → Scene → Prop} {first : Task α} {first' : Task α'}
    {rest : α → Task β} {rest' : α' → Task β'}
    (begins : Together middle bad (scene.run around first) (scene'.run around first'))
    (goOn : ∀ result last result' last', middle result last result' last' →
      Together good bad (last.run around (rest result)) (last'.run around (rest' result'))) :
    Together good bad (scene.run around (first >>= rest))
      (scene'.run around (first' >>= rest')) := by
  rw [Scene.run_bind, Scene.run_bind]
  match scene.run around first, scene'.run around first', begins with
  | (.ok result, last), (.ok result', last'), common => exact goOn result last result' last' common
  | (.error error, last), (.error error', last'), common => exact common

/-- What two results have in common may be seen in what they are wrapped in. -/
theorem map {common : α → Scene → α' → Scene → Prop} {wrap : α → β} {wrap' : α' → β'}
    {ran : Except EngineError α × Scene} {ran' : Except EngineError α' × Scene}
    (together : Together common bad ran ran')
    (wraps : ∀ result last result' last', common result last result' last' →
      good (wrap result) last (wrap' result') last') :
    Together good bad (ran.1.map wrap, ran.2) (ran'.1.map wrap', ran'.2) := by
  match ran, ran', together with
  | (.ok result, last), (.ok result', last'), shared => exact wraps _ _ _ _ shared
  | (.error error, last), (.error error', last'), shared => exact shared

/-- Two runs that end together have both ended well, or have failed with the same error. -/
theorem ok_or_error {outcome : Except EngineError β} {outcome' : Except EngineError β'}
    (together : Together good bad (outcome, scene) (outcome', scene')) :
    (∃ result result', outcome = .ok result ∧ outcome' = .ok result' ∧
      good result scene result' scene') ∨
    ∃ error, outcome = .error error ∧ outcome' = .error error ∧ bad scene scene' := by
  match outcome, outcome', together with
  | .ok result, .ok result', common => exact .inl ⟨result, result', rfl, rfl, common⟩
  | .error error, .error _, ⟨rfl, common⟩ => exact .inr ⟨error, rfl, rfl, common⟩

end Together

/-- Two attempts at an address have ended alike: with grants that have something in common, or else
with the scenes as they were. -/
inductive TriedAlike (grants : Grant → Scene → Grant → Scene → Prop) (start start' : Scene) :
    Tried → Scene → Tried → Scene → Prop where
  /-- Both were granted the address. -/
  | granted {grant grant' : Grant} {last last' : Scene} (common : grants grant last grant' last') :
    TriedAlike grants start start' (.granted grant) last (.granted grant') last'
  /-- It was for neither of them. -/
  | unavailable : TriedAlike grants start start' .unavailable start .unavailable start'
  /-- Both found it locked. -/
  | busy : TriedAlike grants start start' .busy start .busy start'

/-- Two searches of a subnet have ended alike. -/
inductive SearchedAlike (grants : Grant → Scene → Grant → Scene → Prop) (start start' : Scene) :
    Search → Scene → Search → Scene → Prop where
  /-- Both were granted an address. -/
  | granted {grant grant' : Grant} {last last' : Scene} (common : grants grant last grant' last') :
    SearchedAlike grants start start' (.granted grant) last (.granted grant') last'
  /-- Both found none, and passed over the same address. -/
  | exhausted (busy : Option Address) :
    SearchedAlike grants start start' (.exhausted busy) start (.exhausted busy) start'

section Tries

variable {topology : Topology} {attempt attempt' : Attempt} {target : Target}
  {start start' : Scene} {grants : Grant → Scene → Grant → Scene → Prop}
  {bad : Scene → Scene → Prop} (locks : start'.locks = start.locks)
  (standing : attempt'.standing (start'.store.get? target.address) =
    attempt.standing (start.store.get? target.address))
  (gives : ∀ kind, Together grants bad
    (attempt.given around target kind (start.store.get? target.address),
      ⟨attempt.storeAfter around target (start.store.get? target.address) start.store,
        start.locks, start.cursors⟩)
    (attempt'.given around target kind (start'.store.get? target.address),
      ⟨attempt'.storeAfter around target (start'.store.get? target.address) start'.store,
        start'.locks, start'.cursors⟩))
include locks standing gives

/-- A fixed address is tried alike where both may have it or neither may. -/
theorem together_tryFixed (stays : bad start start') :
    Together grants bad (start.run around (tryFixed attempt target))
      (start'.run around (tryFixed attempt' target)) := by
  cases locked : start.locks.isLocked target.address with
  | true =>
    rw [Scene.run_tryFixed_of_locked locked, Scene.run_tryFixed_of_locked (locks ▸ locked)]
    exact ⟨rfl, stays⟩
  | false =>
    have free' : start'.locks.isLocked target.address = false := locks ▸ locked
    cases mine : attempt.standing (start.store.get? target.address) with
    | blocked lease =>
      rw [mine] at standing
      rw [Scene.run_tryFixed_of_blocked locked mine,
        Scene.run_tryFixed_of_blocked free' standing]
      exact ⟨rfl, stays⟩
    | free | held =>
      rw [mine] at standing
      rw [Scene.run_tryFixed_of_free locked (by simp [Attempt.mayHave, mine]),
        Scene.run_tryFixed_of_free free' (by simp [Attempt.mayHave, standing])]
      exact gives .reserved

/-- Another address is tried alike where it is kept from both or from neither. -/
theorem together_tryTarget (kept : attempt'.isKeptForOther topology target.address =
    attempt.isKeptForOther topology target.address) :
    Together (TriedAlike grants start start') bad
      (start.run around (tryTarget topology attempt target))
      (start'.run around (tryTarget topology attempt' target)) := by
  have may : attempt'.mayHave (start'.store.get? target.address) =
      attempt.mayHave (start.store.get? target.address) := by
    unfold Attempt.mayHave
    rw [standing]
  have kind : attempt'.kindOf (start'.store.get? target.address) =
      attempt.kindOf (start.store.get? target.address) := by
    unfold Attempt.kindOf
    rw [standing]
  have passes : attempt'.passesOver topology start' target.address =
      attempt.passesOver topology start target.address := by
    unfold Attempt.passesOver
    rw [kept, locks]
  have admits : attempt'.admits topology start' target.address =
      attempt.admits topology start target.address := by
    unfold Attempt.admits
    rw [kept, locks, may]
  cases admitted : attempt.admits topology start target.address with
  | true =>
    have ran' : start'.run around (tryTarget topology attempt' target) = _ :=
      Scene.run_tryTarget_of_admits (admits.trans admitted)
    rw [Scene.run_tryTarget_of_admits admitted, ran', kind]
    exact (gives _).map fun _ _ _ _ common => .granted common
  | false =>
    rw [Scene.run_tryTarget_of_not_admits admitted,
      Scene.run_tryTarget_of_not_admits (admits.trans admitted), passes]
    cases attempt.passesOver topology start target.address with
    | true => exact .busy
    | false => exact .unavailable

end Tries

/-- The attempt in another mode is one that serves the request in that mode. -/
theorem Serves.inMode {topology : Topology} {request : Request} {mode : AllocationMode}
    {now : Instant} {attempt : Attempt} (serves : Serves topology request mode now attempt)
    (other : AllocationMode) : Serves topology request other now (attempt.inMode other) :=
  ⟨serves.selected, serves.owned, congrArg (·.inMode other) serves.made⟩

/-- What two allocations have to agree on, from the scenes that they start in. -/
structure Lockstep (topology : Topology) (request : Request) (mode mode' : AllocationMode)
    (around : Surroundings) (start start' : Scene)
    (grants : Grant → Scene → Grant → Scene → Prop) (bad : Scene → Scene → Prop) : Prop where
  /-- Walks through pools begin alike. -/
  cursors : start.cursors = start'.cursors
  /-- An allocation may fail right away. -/
  stays : bad start start'
  /-- Grants still have in common what they had when both move the same cursor. -/
  moves : ∀ {grant last grant' last'}, grants grant last grant' last' → ∀ key number,
    grants grant { last with cursors := last.cursors.set key number }
      grant' { last' with cursors := last'.cursors.set key number }
  /-- The leases of the client prefer the same subnets. -/
  prefers : ∀ (owners : List Identifier) candidate,
    holdsIn (owners.flatMap start.store.ofOwner) around.now candidate =
      holdsIn (owners.flatMap start'.store.ofOwner) around.now candidate
  /-- They suggest the same addresses. -/
  suggests : ∀ attempt, Serves topology request mode around.now attempt →
    ∀ owners : List Identifier, attempt.suggestions (owners.flatMap start.store.ofOwner) =
      attempt.suggestions (owners.flatMap start'.store.ofOwner)
  /-- Both come to the same end with an address that a reservation fixes. -/
  fixed : ∀ attempt, Serves topology request mode around.now attempt → ∀ target,
    Together grants bad (start.run around (tryFixed attempt target))
      (start'.run around (tryFixed (attempt.inMode mode') target))
  /-- Both come to the same end with any other address. -/
  dynamic : ∀ attempt, Serves topology request mode around.now attempt → ∀ target,
    Together (TriedAlike grants start start') bad
      (start.run around (tryTarget topology attempt target))
      (start'.run around (tryTarget topology (attempt.inMode mode') target))

namespace Lockstep

variable {topology : Topology} {request : Request} {mode mode' : AllocationMode}
  {start start' : Scene} {grants : Grant → Scene → Grant → Scene → Prop}
  {bad : Scene → Scene → Prop} {attempt : Attempt} {limit : Option Nat}
  (lockstep : Lockstep topology request mode mode' around start start' grants bad)
include lockstep

/-- Both may fail with the same error while nothing was done. -/
theorem failed {good : α → Scene → α' → Scene → Prop} (error : EngineError) :
    Together good bad (start.run around (fail error : Task α))
      (start'.run around (fail error : Task α')) := ⟨rfl, lockstep.stays⟩

/-- Addresses are tried alike. -/
theorem tryTargets (serves : Serves topology request mode around.now attempt)
    (targets : List Target) (busy : Option Address) :
    Together (SearchedAlike grants start start') bad
      (start.run around (Engine.tryTargets topology attempt busy targets))
      (start'.run around (Engine.tryTargets topology (attempt.inMode mode') busy targets)) := by
  induction targets generalizing busy with
  | nil => exact .exhausted busy
  | cons target rest ih =>
    refine (lockstep.dynamic attempt serves target).bind fun result last result' last' alike => ?_
    cases alike with
    | granted common => exact .granted common
    | unavailable => exact ih busy
    | busy => exact ih (busy.or (some target.address))

/-- Pools are walked through alike. -/
theorem walkPool (serves : Serves topology request mode around.now attempt) (pool : Pool)
    (walk : PoolWalk) (remaining offset : Nat) (busy : Option Address) :
    Together (SearchedAlike grants start start') bad
      (start.run around (Engine.walkPool topology attempt pool walk remaining offset busy))
      (start'.run around
        (Engine.walkPool topology (attempt.inMode mode') pool walk remaining offset busy)) := by
  induction remaining generalizing offset busy with
  | zero => exact .exhausted busy
  | succ remaining ih =>
    unfold Engine.walkPool
    cases pool.nth? (walk.index offset) with
    | none => exact .exhausted busy
    | some address =>
      refine (lockstep.dynamic attempt serves (Attempt.ofPool pool address)).bind
        fun result last result' last' alike => ?_
      cases alike with
      | granted common => exact .granted (lockstep.moves common _ _)
      | unavailable => exact ih (offset + 1) busy
      | busy => exact ih (offset + 1) (busy.or (some address))

/-- Pools are searched alike. -/
theorem searchPools (serves : Serves topology request mode around.now attempt)
    (pools : List Pool) (busy : Option Address) :
    Together (SearchedAlike grants start start') bad
      (start.run around (Engine.searchPools topology attempt limit busy pools))
      (start'.run around
        (Engine.searchPools topology (attempt.inMode mode') limit busy pools)) := by
  induction pools generalizing busy with
  | nil => exact .exhausted busy
  | cons pool rest ih =>
    have begins : (attempt.inMode mode').walkStart around start'.cursors pool =
        attempt.walkStart around start.cursors pool := by
      rw [lockstep.cursors]
      rfl
    unfold Engine.searchPools
    rw [Scene.run_bind_ok (run_walkStart pool), Scene.run_bind_ok (run_walkStart pool), begins]
    refine (lockstep.walkPool serves pool _ _ _ busy).bind fun found last found' last' alike => ?_
    cases alike with
    | granted common => exact .granted common
    | exhausted busy => exact ih busy

/-- Subnets are searched alike. -/
theorem allocateDynamic (serves : Serves topology request mode around.now attempt)
    (owners : List Identifier) :
    Together (SearchedAlike grants start start') bad
      (start.run around (Engine.allocateDynamic topology attempt limit
        (owners.flatMap start.store.ofOwner)))
      (start'.run around (Engine.allocateDynamic topology (attempt.inMode mode') limit
        (owners.flatMap start'.store.ofOwner))) := by
  rw [run_allocateDynamic, run_allocateDynamic]
  have suggested : (attempt.inMode mode').suggestions (owners.flatMap start'.store.ofOwner) =
      attempt.suggestions (owners.flatMap start.store.ofOwner) :=
    (lockstep.suggests attempt serves owners).symm
  unfold searchSubnet
  rw [suggested]
  refine (lockstep.tryTargets serves _ none).bind fun found last found' last' alike => ?_
  cases alike with
  | granted common => exact .granted common
  | exhausted busy => exact lockstep.searchPools serves attempt.eligiblePools busy

/-- A request is served alike in one subnet. -/
theorem allocateIn {candidate : Candidate}
    (selected : candidate ∈ (topology.select request).candidates) (owners : List Identifier) :
    Together (SearchedAlike grants start start') bad
      (start.run around (Engine.allocateIn topology request mode limit
        (owners.flatMap start.store.ofOwner) candidate))
      (start'.run around (Engine.allocateIn topology request mode' limit
        (owners.flatMap start'.store.ofOwner) candidate)) := by
  cases owned : ownerIn request candidate with
  | none =>
    unfold Engine.allocateIn
    rw [owned]
    exact lockstep.failed _
  | some owner =>
    obtain ⟨attempt, serves, rfl⟩ : ∃ attempt,
        Serves topology request mode around.now attempt ∧ attempt.candidate = candidate :=
      exists_serves selected owned
    have serves' := serves.inMode mode'
    cases fixed : attempt.fixedTarget? topology with
    | none =>
      have ran' : start'.run around (Engine.allocateIn topology request mode' limit
          (owners.flatMap start'.store.ofOwner) attempt.candidate) =
            start'.run around (Engine.allocateDynamic topology (attempt.inMode mode') limit
              (owners.flatMap start'.store.ofOwner)) := run_allocateIn_of_unfixed serves' fixed
      rw [run_allocateIn_of_unfixed serves fixed, ran']
      exact lockstep.allocateDynamic serves owners
    | some target =>
      have ran' : start'.run around (Engine.allocateIn topology request mode' limit
          (owners.flatMap start'.store.ofOwner) attempt.candidate) =
            ((start'.run around (tryFixed (attempt.inMode mode') target)).1.map .granted,
              (start'.run around (tryFixed (attempt.inMode mode') target)).2) :=
        run_allocateIn_of_fixed serves' fixed
      rw [run_allocateIn_of_fixed serves fixed, ran']
      exact (lockstep.fixed attempt serves target).map fun _ _ _ _ common => .granted common

/-- A request is served alike in one subnet after another. -/
theorem allocateAmong (owners : List Identifier) {last : SubnetId} {busy : Option Address}
    {candidates : List Candidate}
    (selected : ∀ candidate ∈ candidates, candidate ∈ (topology.select request).candidates) :
    Together grants bad
      (start.run around (Engine.allocateAmong topology request mode limit
        (owners.flatMap start.store.ofOwner) last busy candidates))
      (start'.run around (Engine.allocateAmong topology request mode' limit
        (owners.flatMap start'.store.ofOwner) last busy candidates)) := by
  induction candidates generalizing last busy with
  | nil => cases busy <;> exact lockstep.failed _
  | cons candidate rest ih =>
    refine (lockstep.allocateIn (selected candidate List.mem_cons_self) owners).bind
      fun found last found' last' alike => ?_
    cases alike with
    | granted common => exact common
    | exhausted skipped =>
      exact ih fun other member => selected other (List.mem_cons_of_mem candidate member)

/-- Two allocations that agree on what they come across end together. -/
theorem allocate :
    Together grants bad (start.run around (Engine.allocate topology request mode limit))
      (start'.run around (Engine.allocate topology request mode' limit)) := by
  rw [run_allocate, run_allocate]
  unfold serve
  cases request.identifiers.isEmpty with
  | true => exact lockstep.failed _
  | false =>
    rw [if_neg Bool.false_ne_true, if_neg Bool.false_ne_true]
    dsimp only
    split
    · exact lockstep.failed _
    · next first others selected =>
      unfold allocateSelected
      cases owners? request (topology.select request).candidates with
      | none => exact lockstep.failed _
      | some owners =>
        dsimp only
        rw [Scene.run_bind_ok (run_leasesOf owners), Scene.run_bind_ok (run_leasesOf owners),
          Scene.run_clock_bind, Scene.run_clock_bind]
        have preferred : holdsIn (owners.flatMap start'.store.ofOwner) around.now =
            holdsIn (owners.flatMap start.store.ofOwner) around.now :=
          funext fun candidate => (lockstep.prefers owners candidate).symm
        rw [preferred]
        exact lockstep.allocateAmong owners fun candidate member =>
          (mem_prefer_iff _ _ candidate).mp member

end Lockstep

end Engine

end Leasehold
