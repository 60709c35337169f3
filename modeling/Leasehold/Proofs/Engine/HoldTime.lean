import Leasehold.Proofs.Engine.Annals
import Leasehold.Proofs.Engine.Gauge
import Leasehold.Proofs.Engine.SweepEffect

/-!
# How long reclaimed records are kept

The annals of a history tell since when a record has been reclaimed (`ReclaimedSince`). A sweep
removes reclaimed records that have been over for longer than the hold time, and a record is not
always reclaimed as soon as it is over: it may wait for a sweep for any time, and the sweep that
reclaims it at last goes on to remove it. So a record that is removed has been reclaimed for the hold
time only where it was reclaimed early enough (`hold_time_spec`).
-/
namespace Leasehold

/-- Changes can be cut anywhere. -/
theorem Replays.exists_of_append {first last : Address → Option Lease}
    {front back : List RecordChange} (replays : Replays first (front ++ back) last) :
    ∃ middle, Replays first front middle ∧ Replays middle back last := by
  induction front generalizing first with
  | nil => exact ⟨first, rfl, replays⟩
  | cons change rest ih =>
    obtain ⟨before, goesOn⟩ := replays
    obtain ⟨middle, left, right⟩ := ih goesOn
    exact ⟨middle, ⟨before, left⟩, right⟩

namespace Engine

/-- The changes of the record of an address, in order. -/
def changesAt (entries : List (Event × RecordChange)) (address : Address) :
    List (Event × RecordChange) :=
  entries.filter fun entry => entry.2.address = address

/-- The record is that of a lease that was reclaimed. -/
def IsReclaimed (record : Option Lease) : Prop :=
  ∃ lease, record = some lease ∧ lease.state = .reclaimed

/-- By the changes so far, the record of an address has been reclaimed ever since an instant: a change
not later than the instant left it so, and so did every change that came after. -/
def ReclaimedSince (entries : List (Event × RecordChange)) (address : Address) (instant : Instant) :
    Prop :=
  ∃ front entry back, changesAt entries address = front ++ entry :: back ∧
    entry.1.around.now ≤ instant ∧ ∀ change ∈ entry :: back, IsReclaimed change.2.after

/-- Changes of one record lead from what it is at first to what it is at last. -/
def Follows (first : Option Lease) : List (Event × RecordChange) → Option Lease → Prop
  | [], last => last = first
  | entry :: rest, last => entry.2.before = first ∧ Follows entry.2.after rest last

variable {entries front back : List (Event × RecordChange)} {first last : Option Lease}

/-- Changes of records change each of them in order. -/
theorem follows_of_replays {records ending : Address → Option Lease}
    (replays : Replays records (entries.map (·.2)) ending) (address : Address) :
    Follows (records address) (changesAt entries address) (ending address) := by
  induction entries generalizing records with
  | nil => exact congrFun replays address
  | cons entry rest ih =>
    obtain ⟨before, goesOn⟩ := replays
    have later := ih goesOn
    unfold changesAt
    by_cases here : entry.2.address = address
    · subst here
      rw [Function.update_self] at later
      rw [List.filter_cons_of_pos (by simp)]
      exact ⟨before.symm, later⟩
    · rw [Function.update_of_ne (Ne.symm here)] at later
      rw [List.filter_cons_of_neg (by simpa using here)]
      exact later

/-- Changes of one record can be cut anywhere. -/
theorem Follows.exists_of_append (follows : Follows first (front ++ back) last) :
    ∃ middle, Follows first front middle ∧ Follows middle back last := by
  induction front generalizing first with
  | nil => exact ⟨first, rfl, follows⟩
  | cons entry rest ih =>
    obtain ⟨before, goesOn⟩ := follows
    obtain ⟨middle, left, right⟩ := ih goesOn
    exact ⟨middle, ⟨before, left⟩, right⟩

/-- A record becomes reclaimed from one that is over. -/
theorem LifeCycle.exists_of_reclaimed {now : Instant} {operation : Operation}
    {before : Option Lease} {lease : Lease} (lawful : LifeCycle now operation before (some lease))
    (reclaimed : lease.state = .reclaimed) :
    ∃ old, before = some old ∧ old.needsReclaim now = true ∧ lease = Attempt.reclaimed old := by
  cases lawful with
  | leased _ _ active | leasedAgain _ _ _ active | renewed _ _ _ _ active =>
    rw [reclaimed] at active
    exact nomatch active
  | reclaimed ended | swept ended => exact ⟨_, rfl, ended, rfl⟩
  | declined => exact nomatch reclaimed

/-- A record that was reclaimed is not reclaimed again. -/
theorem LifeCycle.not_isReclaimed {now : Instant} {operation : Operation}
    {before after : Option Lease} (lawful : LifeCycle now operation before after)
    (reclaimed : IsReclaimed after) : ¬ IsReclaimed before := by
  obtain ⟨lease, rfl, state⟩ := reclaimed
  obtain ⟨old, rfl, ended, -⟩ := lawful.exists_of_reclaimed state
  rintro ⟨other, same, settled⟩
  obtain rfl := Option.some.inj same
  simp [Lease.needsReclaim, settled] at ended

/-- A record that is reclaimed became so by its last change, and has been so since then and not for
longer. -/
theorem exists_since {address : Address} {old : Lease}
    (follows : Follows none (changesAt entries address) (some old))
    (lawful : ∀ entry ∈ entries,
      LifeCycle entry.1.around.now entry.1.operation entry.2.before entry.2.after)
    (reclaimed : old.state = .reclaimed) :
    ∃ entry ∈ entries, entry.2.after = some old ∧
      ∀ instant, ReclaimedSince entries address instant ↔ entry.1.around.now ≤ instant := by
  rcases List.eq_nil_or_concat (changesAt entries address) with none | ⟨front, entry, split⟩
  · rw [none] at follows
    exact nomatch follows
  rw [List.concat_eq_append] at split
  have member : entry ∈ entries := by
    have inside : entry ∈ changesAt entries address := by simp [split]
    exact (List.mem_filter.mp inside).1
  obtain ⟨middle, -, leads⟩ := (split ▸ follows).exists_of_append
  have after : entry.2.after = some old := leads.2.symm
  refine ⟨entry, member, after, fun instant => ⟨?_, fun early => ?_⟩⟩
  · rintro ⟨others, found, back, cut, early, stays⟩
    -- A change after the one that was found would reclaim a record that is reclaimed.
    cases back with
    | nil =>
      obtain ⟨-, same⟩ := List.append_inj' (split.symm.trans cut) rfl
      obtain rfl := List.singleton_inj.mp same
      exact early
    | cons next rest =>
      have inside : next ∈ changesAt entries address := by simp [cut]
      obtain ⟨between, -, -, before, -⟩ := (cut ▸ follows).exists_of_append
      have again := (lawful next (List.mem_filter.mp inside).1).not_isReclaimed
        (stays next (by simp))
      rw [before] at again
      exact absurd (stays found List.mem_cons_self) again
  · refine ⟨front, entry, [], split, early, fun change only => ?_⟩
    rw [List.mem_singleton.mp only]
    exact ⟨old, after, reclaimed⟩

namespace State

variable {state : State} {history : List Event} {event : Event} {change : RecordChange}
  {settings : SweepSettings}

/-- Every change of a history is one that its event makes in some state. -/
theorem exists_of_mem_annals (member : (event, change) ∈ state.annals history) :
    ∃ before : State, change ∈ before.changesOf event := by
  induction history generalizing state with
  | nil => exact absurd member List.not_mem_nil
  | cons first rest ih =>
    rcases List.mem_append.mp member with here | later
    · obtain ⟨other, made, same⟩ := List.mem_map.mp here
      obtain ⟨rfl, rfl⟩ := Prod.mk.inj same
      exact ⟨state, made⟩
    · exact ih later

/-- The changes of a history come in the order of their instants when its events do. -/
theorem pairwise_annals
    (forward : history.Pairwise fun left right => left.around.now ≤ right.around.now) :
    (state.annals history).Pairwise fun left right => left.1.around.now ≤ right.1.around.now := by
  induction history generalizing state with
  | nil => exact .nil
  | cons first rest ih =>
    obtain ⟨ahead, forward⟩ := List.pairwise_cons.mp forward
    refine List.pairwise_append.mpr ⟨?_, ih forward, ?_⟩
    · exact List.pairwise_map.mpr (List.pairwise_of_forall fun _ _ => Nat.le_refl _)
    · rintro left inLeft ⟨later, made⟩ inRight
      obtain ⟨change, -, rfl⟩ := List.mem_map.mp inLeft
      exact ahead later (lifeCycle_of_mem_annals inRight).1

/-- The changes of a sweep are those of its task at the instant of the clock. -/
theorem changesOf_sweep (sweeps : event.operation = .sweep settings) :
    state.changesOf event =
      state.journal event.around (Engine.sweep settings event.around.now) := by
  obtain ⟨counts, expired, middle, held, after, ran, -⟩ :=
    Engine.exists_sweeps event.around settings event.around.now state.scene
  unfold changesOf
  rw [sweeps, journal_eq_changes, journal_eq_changes]
  refine (Scene.changes_bind_ok ran).trans ?_
  exact List.append_nil _

/-- What a sweep removes had been reclaimed, and had been over for longer than the hold time. -/
theorem exists_of_removed (made : change ∈ state.changesOf event)
    (sweeps : event.operation = .sweep settings) (removed : change.after = none) :
    ∃ hold old, settings.hold = some hold ∧ change.before = some old ∧ old.state = .reclaimed ∧
      old.expiresAt + hold < event.around.now := by
  obtain ⟨counts, expired, middle, held, -, once, -⟩ :=
    state.exists_sweeps event.around settings event.around.now
  rw [changesOf_sweep sweeps, once.made] at made
  rcases List.mem_append.mp made with reclaimed | gone
  · obtain ⟨lease, -, rfl⟩ := List.mem_map.mp reclaimed
    exact nomatch removed
  · obtain ⟨lease, member, rfl⟩ := List.mem_map.mp gone
    have listed : lease ∈ held := (List.mem_filter.mp member).1
    cases limited : settings.hold with
    | none =>
      rw [once.keeps limited] at listed
      exact absurd listed List.not_mem_nil
    | some hold =>
      obtain ⟨-, reclaimed, lapsed⟩ :=
        (middle.mem_lapsed_iff _ lease).mp ((once.lapsed hold limited).mem listed)
      exact ⟨hold, lease, rfl, rfl, reclaimed, Nat.add_lt_of_lt_sub lapsed⟩

/-- A record that a change finds was not found to be over by whoever stored it. -/
theorem ne_expiredReclaimable_of_annals {earlier later : List (Event × RecordChange)} {old : Lease}
    (made : initial.annals history = earlier ++ (event, change) :: later)
    (before : change.before = some old) : old.state ≠ .expiredReclaimable := by
  have replays := initial.replays_annals history
  rw [made, List.map_append] at replays
  obtain ⟨records, first, found, -⟩ := replays.exists_of_append
  refine first.forall (motive := fun lease => lease.state ≠ .expiredReclaimable)
    (fun _ _ none => nomatch none) (fun other inside lease after => ?_) change.address old
    (found.trans before)
  obtain ⟨⟨maker, _⟩, member, rfl⟩ := List.mem_map.mp inside
  have lawful := (lifeCycle_of_mem_annals (made ▸ List.mem_append_left _ member)).2
  rw [after] at lawful
  exact lawful.ne_expiredReclaimable

end State

/-- A record that a sweep removes had been reclaimed ever since one of the changes before, which came
when the record was over, and not since any earlier instant. It had been over for longer than the
hold time, but that does not mean that it had been reclaimed for the hold time: this is so exactly
when it was reclaimed that long ago. -/
theorem hold_time_spec (history : List Event)
    (forward : history.Pairwise fun left right => left.around.now ≤ right.around.now)
    {earlier later : List (Event × RecordChange)} {event : Event} {removal : RecordChange}
    {settings : SweepSettings}
    (made : State.initial.annals history = earlier ++ (event, removal) :: later)
    (sweeps : event.operation = .sweep settings) (removed : removal.after = none) :
    ∃ hold old since,
      settings.hold = some hold ∧
      removal.before = some old ∧ old.state = .reclaimed ∧
      old.expiresAt + hold < event.around.now ∧
      old.expiresAt ≤ since ∧ since ≤ event.around.now ∧
      (∀ instant, ReclaimedSince earlier removal.address instant ↔ since ≤ instant) ∧
      ((∃ instant, instant + hold ≤ event.around.now ∧
          ReclaimedSince earlier removal.address instant) ↔ since + hold ≤ event.around.now) := by
  have member : (event, removal) ∈ State.initial.annals history := by simp [made]
  obtain ⟨state, inside⟩ := State.exists_of_mem_annals member
  obtain ⟨hold, old, limited, before, reclaimed, lapsed⟩ :=
    State.exists_of_removed inside sweeps removed
  have replays := State.initial.replays_annals history
  rw [made, List.map_append] at replays
  obtain ⟨records, first, found, -⟩ := replays.exists_of_append
  have follows : Follows none (changesAt earlier removal.address) (some old) := by
    rw [← before, ← found]
    exact follows_of_replays first removal.address
  have lawful (entry : Event × RecordChange) (inside : entry ∈ earlier) :
      LifeCycle entry.1.around.now entry.1.operation entry.2.before entry.2.after :=
    (State.lifeCycle_of_mem_annals (made ▸ List.mem_append_left _ inside)).2
  obtain ⟨entry, listed, after, exactly⟩ := exists_since follows lawful reclaimed
  have past : entry.1.around.now ≤ event.around.now := by
    have ordered : (State.initial.annals history).Pairwise fun left right =>
        left.1.around.now ≤ right.1.around.now := State.pairwise_annals forward
    rw [made, List.pairwise_append] at ordered
    exact ordered.2.2 entry listed (event, removal) List.mem_cons_self
  have ended : old.expiresAt ≤ entry.1.around.now := by
    have step := lawful entry listed
    rw [after] at step
    obtain ⟨prior, held, due, rfl⟩ := step.exists_of_reclaimed reclaimed
    obtain ⟨front, back, split⟩ := List.append_of_mem listed
    have reached : State.initial.annals history =
        front ++ (entry.1, entry.2) :: (back ++ (event, removal) :: later) := by
      rw [made, split]
      simp
    have known : prior.state ≠ .expiredReclaimable :=
      State.ne_expiredReclaimable_of_annals reached held
    unfold Lease.needsReclaim at due
    change prior.expiresAt ≤ entry.1.around.now
    cases state : prior.state <;> simp_all [Lease.isExpired]
  refine ⟨hold, old, entry.1.around.now, limited, before, reclaimed, lapsed, ended, past, exactly, ?_⟩
  constructor
  · rintro ⟨instant, early, since⟩
    exact Nat.le_trans (Nat.add_le_add_right ((exactly instant).mp since) hold) early
  · exact fun early => ⟨entry.1.around.now, early, (exactly _).mpr (Nat.le_refl _)⟩

namespace Sample

/-- Reclaimed records are to be kept for an hour. -/
def hourly : SweepSettings := ⟨1, some (seconds 3600)⟩

/-- More than an hour after the first lease is over. -/
def late : Instant := expiry + seconds 4000

/-- The first client is leased the address, and no sweep comes for more than an hour after the lease
is over. -/
def sweptLate : List Event := [leases 1 0, ⟨around late, .sweep hourly⟩]

/-- The lease is recorded. -/
def recorded : RecordChange := ⟨address, none, some (lease 1 0 1)⟩

/-- The lease is reclaimed. -/
def reclaimed : RecordChange :=
  ⟨address, some (lease 1 0 1), some (Attempt.reclaimed (lease 1 0 1))⟩

/-- The reclaimed record is removed. -/
def removed : RecordChange := ⟨address, some (Attempt.reclaimed (lease 1 0 1)), none⟩

/-- The sweep reclaims the lease, and removes its record right after. -/
theorem exists_annals_sweptLate :
    ∃ first second third : Event,
      State.initial.annals sweptLate =
        [(first, recorded), (second, reclaimed)] ++ (third, removed) :: [] ∧
      second.around.now = late ∧ third.around.now = late ∧ third.operation = .sweep hourly := by
  have shown : (State.initial.annals sweptLate).map
        (fun entry => (entry.1.around.now, entry.1.operation, entry.2)) =
      [(0, .allocate (request 1) .commit none, recorded),
        (late, .sweep hourly, reclaimed), (late, .sweep hourly, removed)] := by decide +kernel
  obtain ⟨⟨first, _⟩, entries, made, one, shown⟩ := List.map_eq_cons_iff.mp shown
  obtain ⟨⟨second, _⟩, entries, rfl, two, shown⟩ := List.map_eq_cons_iff.mp shown
  obtain ⟨⟨third, _⟩, entries, rfl, three, shown⟩ := List.map_eq_cons_iff.mp shown
  obtain rfl := List.map_eq_nil_iff.mp shown
  simp only [Prod.mk.injEq] at one two three
  obtain ⟨-, -, rfl⟩ := one
  obtain ⟨instant, -, rfl⟩ := two
  obtain ⟨last, sweeps, rfl⟩ := three
  exact ⟨first, second, third, made, instant, last, sweeps⟩

/-- The clock does not go back. -/
theorem pairwise_sweptLate :
    sweptLate.Pairwise fun left right => left.around.now ≤ right.around.now := by
  simp [sweptLate, leases, around]

end Sample

/-- The conditions can be met: a sweep that comes late removes the only record of the small network,
which it has just reclaimed. -/
theorem hold_time_spec_of_late_sweep :
    ∃ event earlier since, State.initial.annals Sample.sweptLate =
        earlier ++ (event, Sample.removed) :: [] ∧
      (∀ instant, ReclaimedSince earlier Sample.address instant ↔ since ≤ instant) ∧
      (Sample.lease 1 0 1).expiresAt ≤ since := by
  obtain ⟨first, second, third, made, -, -, sweeps⟩ := Sample.exists_annals_sweptLate
  obtain ⟨hold, old, since, -, before, -, -, ended, -, exactly, -⟩ :=
    hold_time_spec Sample.sweptLate Sample.pairwise_sweptLate made sweeps rfl
  obtain rfl := Option.some.inj before
  exact ⟨third, _, since, made, exactly, ended⟩

/-- A record that a sweep removes has not always been reclaimed for the hold time: the sweep may have
reclaimed it itself. -/
theorem removed_without_hold :
    ¬ ∀ (history : List Event) (earlier later : List (Event × RecordChange)) (event : Event)
      (removal : RecordChange) (settings : SweepSettings) (hold : Duration),
      (history.Pairwise fun left right => left.around.now ≤ right.around.now) →
      State.initial.annals history = earlier ++ (event, removal) :: later →
      event.operation = .sweep settings → settings.hold = some hold → removal.after = none →
      ∃ instant, instant + hold ≤ event.around.now ∧
        ReclaimedSince earlier removal.address instant := by
  intro honoured
  obtain ⟨first, second, third, made, instant, last, sweeps⟩ := Sample.exists_annals_sweptLate
  obtain ⟨since, early, front, entry, back, split, begun, stays⟩ :=
    honoured Sample.sweptLate _ [] third Sample.removed Sample.hourly (seconds 3600)
      Sample.pairwise_sweptLate made sweeps rfl rfl
  have listed : entry ∈ changesAt [(first, Sample.recorded), (second, Sample.reclaimed)]
      Sample.removed.address := by simp [split]
  rcases List.mem_cons.mp (List.mem_filter.mp listed).1 with rfl | other
  · obtain ⟨lease, same, state⟩ := stays _ List.mem_cons_self
    obtain rfl := Option.some.inj same
    exact nomatch state
  · obtain rfl := List.mem_singleton.mp other
    rw [last] at early
    rw [instant] at begun
    have again : Sample.late + seconds 3600 ≤ Sample.late :=
      Nat.le_trans (Nat.add_le_add_right begun _) early
    exact absurd again (by decide)

end Engine

end Leasehold
