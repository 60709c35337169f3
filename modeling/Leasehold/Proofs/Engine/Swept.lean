import Leasehold.Proofs.Engine.Trial
import Leasehold.Proofs.Store.Scan

/-!
# Records that are over and records that were reclaimed

A record that is over means the same to a client as the record that it becomes when it is reclaimed.
It blocks nobody and is held by nobody, before as after; it suggests its address to the client that
held it last; and an allocation that takes the address goes on from the same version, whoever
reclaims the record. Here this is said of one record (`Lease.swept`), of a store (`Store.swept`),
and of all that an attempt reads from either.
-/
namespace Leasehold

namespace Lease

variable (now : Instant) (lease : Lease)

/-- The record, once it was reclaimed where that is due. -/
def swept : Lease := if lease.needsReclaim now then Attempt.reclaimed lease else lease

variable {now lease}

/-- A record that is over is reclaimed. -/
theorem swept_of_over (ended : lease.needsReclaim now = true) :
    lease.swept now = Attempt.reclaimed lease := if_pos ended

/-- A record that is not over stays as it is. -/
theorem swept_of_not_over (current : lease.needsReclaim now = false) : lease.swept now = lease :=
  if_neg (Bool.not_eq_true _ ▸ current)

variable (now lease)

/-- Nothing of a record that is reclaimed changes but its state and its version. -/
theorem swept_eq :
    lease.swept now = { lease with
      state := (lease.swept now).state
      version := (lease.swept now).version } := by
  unfold swept
  split <;> rfl

/-- The address is kept. -/
@[simp]
theorem swept_address : (lease.swept now).address = lease.address := by rw [swept_eq]

/-- The length is kept. -/
@[simp]
theorem swept_length : (lease.swept now).length = lease.length := by rw [swept_eq]

/-- The client is kept. -/
@[simp]
theorem swept_owner : (lease.swept now).owner = lease.owner := by rw [swept_eq]

/-- The subnet is kept. -/
@[simp]
theorem swept_subnet : (lease.swept now).subnet = lease.subnet := by rw [swept_eq]

/-- The instant is kept at which the client was heard of. -/
@[simp]
theorem swept_lastSeen : (lease.swept now).lastSeen = lease.lastSeen := by rw [swept_eq]

/-- Nothing is left to reclaim. -/
@[simp]
theorem needsReclaim_swept : (lease.swept now).needsReclaim now = false := by
  cases ended : lease.needsReclaim now with
  | true => rw [swept_of_over ended]; rfl
  | false => rw [swept_of_not_over ended, ended]

/-- Sweeping once is enough. -/
@[simp]
theorem swept_swept : (lease.swept now).swept now = lease.swept now :=
  swept_of_not_over (needsReclaim_swept now lease)

/-- A record that is over is not held, and keeps its address from nobody. -/
theorem not_blocks_of_over {lease : Lease} (ended : lease.needsReclaim now = true) :
    lease.blocks now = false ∧ lease.isActive now = false := by
  unfold needsReclaim at ended
  unfold blocks isActive
  cases state : lease.state <;> simp_all

/-- The client holds the lease afterwards when it held it before. -/
@[simp]
theorem isActive_swept : (lease.swept now).isActive now = lease.isActive now := by
  cases ended : lease.needsReclaim now with
  | true =>
    rw [swept_of_over ended, (not_blocks_of_over now ended).2]
    rfl
  | false => rw [swept_of_not_over ended]

/-- The address is kept from others afterwards when it was before. -/
@[simp]
theorem blocks_swept : (lease.swept now).blocks now = lease.blocks now := by
  cases ended : lease.needsReclaim now with
  | true =>
    rw [swept_of_over ended, (not_blocks_of_over now ended).1]
    rfl
  | false => rw [swept_of_not_over ended]

/-- A record that blocks an address is not over. -/
theorem swept_of_blocks (blocking : lease.blocks now = true) : lease.swept now = lease := by
  apply swept_of_not_over
  by_contra ended
  rw [(not_blocks_of_over now (Bool.not_eq_false _ ▸ ended)).1] at blocking
  exact Bool.false_ne_true blocking

end Lease

namespace Store

variable (store : Store) (now : Instant)

/-- The records that have to be reclaimed, in the order of their addresses. -/
def overdue : List Lease := store.leases.filter (·.needsReclaim now)

/-- The store once every record was reclaimed for which that is due. -/
def swept : Store where
  leases := store.leases.map (·.swept now)
  ascending := List.pairwise_map.mpr (store.ascending.imp fun before => by simpa using before)

/-- What is stored for an address is swept. -/
theorem get?_swept (address : Address) :
    (store.swept now).get? address = (store.get? address).map (·.swept now) := by
  unfold get? swept
  rw [List.find?_map]
  simp only [Function.comp_def, Lease.swept_address]

/-- The records of a client are swept where they are. -/
theorem ofOwner_swept (owner : Identifier) :
    (store.swept now).ofOwner owner = (store.ofOwner owner).map (·.swept now) := by
  unfold ofOwner swept
  rw [List.filter_map]
  simp [Function.comp_def, Lease.isOwnedBy]

/-- So are those of several clients. -/
theorem flatMap_ofOwner_swept (owners : List Identifier) :
    owners.flatMap (store.swept now).ofOwner =
      (owners.flatMap store.ofOwner).map (·.swept now) := by
  rw [List.map_flatMap]
  exact congrArg owners.flatMap (funext (store.ofOwner_swept now))

/-- The address has no record that is over. -/
def IsClear (address : Address) : Prop :=
  ∀ old, store.get? address = some old → old.needsReclaim now = false

variable {store now} in
/-- The record of an address stays as it is when it is not over. -/
theorem IsClear.get?_swept {address : Address} (clear : store.IsClear now address) :
    (store.swept now).get? address = store.get? address := by
  rw [Store.get?_swept]
  cases stored : store.get? address with
  | none => rfl
  | some lease => exact congrArg some (Lease.swept_of_not_over (clear lease stored))

/-- A store in which nothing is over stays as it is. -/
theorem swept_of_overdue_nil (settled : store.overdue now = []) : store.swept now = store := by
  refine ext_get? fun address => IsClear.get?_swept fun lease stored => ?_
  have absent : lease ∉ store.overdue now := settled ▸ List.not_mem_nil
  simpa [overdue, mem_leases_iff, address_of_get? stored, stored] using absent

/-- A record may be swept before or after it is stored. -/
theorem swept_insert (lease : Lease) :
    (store.insert lease).swept now = (store.swept now).insert (lease.swept now) := by
  apply ext_get?
  intro address
  rw [get?_swept, get?_insert, get?_insert, get?_swept, Lease.swept_address]
  split <;> rfl

/-- A record is overdue when it is stored and is over. -/
theorem mem_overdue_iff (lease : Lease) :
    lease ∈ store.overdue now ↔
      store.get? lease.address = some lease ∧ lease.needsReclaim now = true := by
  rw [overdue, List.mem_filter, mem_leases_iff]

/-- A scan that lists as many records as are overdue lists all of them. -/
theorem mem_scanExpired_of_mem_overdue {most : Nat} {lease : Lease}
    (whole : (store.overdue now).length ≤ most) (member : lease ∈ store.overdue now) :
    lease ∈ store.scanExpired most now := by
  unfold scanExpired
  rw [List.take_of_length_le (by rw [List.length_mergeSort]; exact whole)]
  exact List.mem_mergeSort.mpr member

/-- No record is listed twice as overdue. -/
theorem nodup_overdue : (store.overdue now).Nodup := store.nodup_leases.filter _

/-- A swept store has no overdue records. -/
@[simp]
theorem overdue_swept : (store.swept now).overdue now = [] := by
  simp [overdue, swept, List.filter_map, Function.comp_def]

variable {store now}

/-- Reclaiming a record changes what is stored for its address only. -/
theorem get?_insert_reclaimed (old : Lease) (address : Address) :
    (store.insert (Attempt.reclaimed old)).get? address =
      if old.address = address then some (Attempt.reclaimed old) else store.get? address :=
  get?_insert store _ address

/-- A record that is reclaimed is no longer overdue, and no other record becomes so. -/
theorem overdue_insert_reclaimed {old : Lease} (stored : store.get? old.address = some old)
    (ended : old.needsReclaim now = true) :
    (store.overdue now).Perm (old :: (store.insert (Attempt.reclaimed old)).overdue now) := by
  have settled : (Attempt.reclaimed old).needsReclaim now = false := rfl
  have gone : old ∉ (store.insert (Attempt.reclaimed old)).overdue now := by
    rw [mem_overdue_iff, get?_insert_reclaimed, if_pos rfl]
    rintro ⟨same, -⟩
    rw [← Option.some.inj same, settled] at ended
    exact Bool.false_ne_true ended
  refine (List.perm_ext_iff_of_nodup (store.nodup_overdue now)
    (List.nodup_cons.mpr ⟨gone, nodup_overdue _ now⟩)).mpr fun lease => ?_
  rw [List.mem_cons, mem_overdue_iff, mem_overdue_iff, get?_insert_reclaimed]
  by_cases here : old.address = lease.address
  · rw [if_pos here, ← here, stored]
    constructor
    · rintro ⟨same, -⟩
      exact .inl (Option.some.inj same).symm
    · rintro (rfl | ⟨same, due⟩)
      · exact ⟨rfl, ended⟩
      · rw [← Option.some.inj same, settled] at due
        exact absurd due Bool.false_ne_true
  · rw [if_neg here]
    constructor
    · exact .inr
    · rintro (rfl | listed)
      · exact absurd rfl here
      · exact listed

/-- After a record was to be reclaimed it is no longer overdue, whether it was still stored or not, and
no other record becomes so. -/
theorem mem_overdue_of_write {old lease : Lease}
    (later : old ∈ (store.write { lease with state := .reclaimed }
      (.version lease.version)).2.overdue now) : old ∈ store.overdue now ∧ old ≠ lease := by
  rw [mem_overdue_iff, get?_write] at later
  obtain ⟨stored, ended⟩ := later
  rw [mem_overdue_iff]
  split at stored
  · next unmet =>
    refine ⟨⟨stored, ended⟩, ?_⟩
    rintro rfl
    have met : nextVersion? (.version old.version) (some old) = none := stored ▸ unmet
    simp [nextVersion?] at met
  · next version met =>
    split at stored
    · rw [← Option.some.inj stored] at ended
      exact absurd ended Bool.false_ne_true
    · next other => exact ⟨⟨stored, ended⟩, fun same => other (congrArg Lease.address same).symm⟩

/-- A lease that is not over, in place of a record that is not, leaves the same records overdue. -/
theorem overdue_insert {lease : Lease} (current : lease.needsReclaim now = false)
    (clear : store.IsClear now lease.address) :
    ((store.insert lease).overdue now).Perm (store.overdue now) := by
  refine (List.perm_ext_iff_of_nodup (nodup_overdue _ now) (store.nodup_overdue now)).mpr
    fun other => ?_
  rw [mem_overdue_iff, mem_overdue_iff, get?_insert]
  by_cases here : lease.address = other.address
  · rw [if_pos here, ← here]
    constructor
    · rintro ⟨same, ended⟩
      rw [← Option.some.inj same, current] at ended
      exact absurd ended Bool.false_ne_true
    · rintro ⟨stored, ended⟩
      rw [clear other stored] at ended
      exact absurd ended Bool.false_ne_true
  · rw [if_neg here]

/-- Whether a record that is over was reclaimed before does not show once every record is. -/
theorem swept_insert_reclaimed {old : Lease} (stored : store.get? old.address = some old)
    (ended : old.needsReclaim now = true) :
    (store.insert (Attempt.reclaimed old)).swept now = store.swept now := by
  apply ext_get?
  intro address
  rw [get?_swept, get?_swept, get?_insert_reclaimed]
  split
  · next here =>
    rw [← here, stored]
    exact congrArg some (Lease.swept_of_over ended).symm
  · rfl

end Store

namespace Attempt

variable {attempt : Attempt}

/-- The record of an address as an allocation finds it that is about to be recorded. -/
theorem clearedRecord_of_commit (commits : attempt.mode = .commit) (current : Option Lease) :
    attempt.clearedRecord current = current.map (·.swept attempt.now) := by
  unfold clearedRecord overdue?
  rw [commits]
  cases current with
  | none => rfl
  | some lease =>
    cases ended : lease.needsReclaim attempt.now with
    | true => simp [Option.filter, ended, Lease.swept_of_over ended]
    | false => simp [Option.filter, ended, Lease.swept_of_not_over ended]

/-- It is found alike by whoever it was reclaimed. -/
theorem clearedRecord_swept (commits : attempt.mode = .commit) (current : Option Lease) :
    attempt.clearedRecord (current.map (·.swept attempt.now)) = attempt.clearedRecord current := by
  rw [clearedRecord_of_commit commits, clearedRecord_of_commit commits, Option.map_map]
  simp [Function.comp_def]

/-- A record means the same for the client before and after it is reclaimed. -/
theorem standing_swept (current : Option Lease) :
    attempt.standing (current.map (·.swept attempt.now)) = attempt.standing current := by
  cases current with
  | none => rfl
  | some lease =>
    unfold standing
    dsimp only [Option.map_some]
    rw [Lease.blocks_swept]
    cases blocking : lease.blocks attempt.now with
    | false => rfl
    | true => rw [Lease.swept_of_blocks _ _ blocking]

/-- The records of a client suggest the same addresses. -/
theorem suggestions_swept (leases : List Lease) :
    attempt.suggestions (leases.map (·.swept attempt.now)) = attempt.suggestions leases := by
  have own : attempt.ownLeases (leases.map (·.swept attempt.now)) =
      (attempt.ownLeases leases).map (·.swept attempt.now) := by
    simp [ownLeases, List.filter_map, Function.comp_def, Lease.isOwnedBy, isSameKind]
  have parts {keep : Lease → Bool} (same : ∀ lease, keep (lease.swept attempt.now) = keep lease)
      (own : List Lease) :
      (own.map (·.swept attempt.now)).filter keep =
        (own.filter keep).map (·.swept attempt.now) := by
    rw [List.filter_map]
    simp only [Function.comp_def, same]
  have sorted (own : List Lease) :
      (own.map (·.swept attempt.now)).mergeSort (fun left right => right.lastSeen ≤ left.lastSeen) =
        (own.mergeSort fun left right => right.lastSeen ≤ left.lastSeen).map
          (·.swept attempt.now) :=
    (List.map_mergeSort fun left _ right _ => by simp).symm
  have addresses (own : List Lease) :
      (own.map (·.swept attempt.now)).map (·.address) = own.map (·.address) := by
    simp [Function.comp_def]
  unfold suggestions
  rw [own]
  dsimp only
  rw [parts (by simp), parts (by simp), sorted, addresses, addresses]

end Attempt

/-- The records of a client prefer the same subnets. -/
theorem Engine.holdsIn_swept (leases : List Lease) (now : Instant) (candidate : Candidate) :
    holdsIn (leases.map (·.swept now)) now candidate = holdsIn leases now candidate := by
  simp [holdsIn, List.any_map, Function.comp_def]

end Leasehold
