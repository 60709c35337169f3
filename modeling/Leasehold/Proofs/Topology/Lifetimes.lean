import Leasehold.Proofs.Topology.Consistency

/-!
# Lifetimes in order

The lifetimes that a client is given in a built topology are in order (`lifetimes_in_order`). A
requested lifetime is brought into the bounds, which the check of the topology has found in order,
and no configured lifetime is so long that seven eighths of it could not be computed. So the program
stops at none of the steps at which it could (`LeaseTime.determine?_eq_some_iff`).

Both timers are cut to the valid lifetime. Configured timers are used as they are apart from that, so
they are in the order in which they were configured, and rebinding may come before renewal.
-/
namespace Leasehold

/-- The longest length of time that can be counted: a number of seconds of 64 bits, and all but one
millisecond of another second. -/
def longestTime : Duration := seconds (largestLong + 1) - 1

/-- Seven times the longest lifetime that can be configured is still counted. -/
theorem seven_mul_le_longestTime {time : Duration} (configured : time ≤ seconds largestWord) :
    7 * time ≤ longestTime :=
  Nat.le_trans (Nat.mul_le_mul_left 7 configured) (by decide)

namespace LeaseTime

/-- The wanted time brought into the bounds. The program stops here when the bounds are crossed. -/
def clamp? (least most wanted : Duration) : Option Duration :=
  if least ≤ most then some (if wanted < least then least else min wanted most) else none

/-- A multiple of a time. The program stops here when it is too long to be counted. -/
def multiple? (factor : Nat) (time : Duration) : Option Duration :=
  if factor * time ≤ longestTime then some (factor * time) else none

/-- The valid lifetime for a request, unless the program stops. -/
def validFor? (time : LeaseTime) : Option Duration → Option Duration
  | none => some time.fallback
  | some wanted => clamp? time.least time.most wanted

/-- The rebinding timer in force, before it is cut to the valid lifetime, unless the program stops.
Seven eighths of the valid lifetime are computed only when no timer is configured. -/
def rebinding? (time : LeaseTime) (valid : Duration) : Option Duration :=
  match time.rebind with
  | some timer => some timer
  | none => (multiple? 7 valid).map (· / 8)

/-- The lifetimes for a request, by the steps at which the program may stop. -/
def determine? (time : LeaseTime) (requested : Option Duration) : Option Lifetimes := do
  let valid ← time.validFor? requested
  let rebind ← time.rebinding? valid
  return { valid, renew := min (time.renew.getD (valid / 2)) valid, rebind := min rebind valid }

/-- The renewal timer in force, before it is cut to the valid lifetime. -/
def renewal (time : LeaseTime) (valid : Duration) : Duration := time.renew.getD (valid / 2)

/-- The rebinding timer in force, before it is cut to the valid lifetime. -/
def rebinding (time : LeaseTime) (valid : Duration) : Duration := time.rebind.getD (valid * 7 / 8)

/-- The lifetimes that clients are given are in order. -/
structure IsOrderly (time : LeaseTime) : Prop where
  /-- The program stops at no step. -/
  determined : ∀ requested, time.determine? requested = some (time.determine requested)
  /-- The valid lifetime is within the bounds. -/
  bounded : ∀ requested,
    time.least ≤ (time.determine requested).valid ∧ (time.determine requested).valid ≤ time.most
  /-- Without a request it is the configured default. -/
  default : (time.determine none).valid = time.fallback
  /-- A request within the bounds is granted as it is. -/
  granted : ∀ wanted, time.least ≤ wanted → wanted ≤ time.most →
    (time.determine (some wanted)).valid = wanted
  /-- Whoever requests more is not given less. -/
  monotone : ∀ shorter longer, shorter ≤ longer →
    (time.determine (some shorter)).valid ≤ (time.determine (some longer)).valid
  /-- No timer exceeds the valid lifetime. -/
  timers : ∀ requested,
    (time.determine requested).renew ≤ (time.determine requested).valid ∧
      (time.determine requested).rebind ≤ (time.determine requested).valid
  /-- Without configured timers, renewal comes no later than rebinding. -/
  derived : time.renew = none → time.rebind = none → ∀ requested,
    (time.determine requested).renew ≤ (time.determine requested).rebind
  /-- With configured timers, it does so exactly if the timers in force are in this order, or the
  rebinding timer is cut to the valid lifetime. -/
  configured : ∀ requested,
    (time.determine requested).renew ≤ (time.determine requested).rebind ↔
      time.renewal (time.determine requested).valid ≤ time.rebinding (time.determine requested).valid ∨
        (time.determine requested).valid ≤ time.rebinding (time.determine requested).valid

variable {time : LeaseTime}

/-- The valid lifetime is within bounds that are in order. -/
theorem validFor_mem (shortest : time.least ≤ time.fallback) (longest : time.fallback ≤ time.most)
    (requested : Option Duration) :
    time.least ≤ time.validFor requested ∧ time.validFor requested ≤ time.most := by
  cases requested with
  | none => exact ⟨shortest, longest⟩
  | some wanted =>
    have ordered : time.least ≤ time.most := Nat.le_trans shortest longest
    change time.least ≤ (if wanted < time.least then time.least else min wanted time.most) ∧
      (if wanted < time.least then time.least else min wanted time.most) ≤ time.most
    split
    · exact ⟨Nat.le_refl _, ordered⟩
    · next above => exact ⟨Nat.le_min.mpr ⟨Nat.le_of_not_lt above, ordered⟩, Nat.min_le_right _ _⟩

/-- A request within the bounds is the valid lifetime. -/
theorem validFor_of_mem {wanted : Duration} (above : time.least ≤ wanted)
    (below : wanted ≤ time.most) : time.validFor (some wanted) = wanted := by
  change (if wanted < time.least then time.least else min wanted time.most) = wanted
  rw [if_neg (Nat.not_lt.mpr above), Nat.min_eq_left below]

/-- The valid lifetime grows with the request. -/
theorem validFor_mono (ordered : time.least ≤ time.most) {shorter longer : Duration}
    (grows : shorter ≤ longer) :
    time.validFor (some shorter) ≤ time.validFor (some longer) := by
  change (if shorter < time.least then time.least else min shorter time.most) ≤
    if longer < time.least then time.least else min longer time.most
  by_cases below : longer < time.least
  · rw [if_pos below, if_pos (Nat.lt_of_le_of_lt grows below)]
  · rw [if_neg below]
    split
    · exact Nat.le_min.mpr ⟨Nat.le_of_not_lt below, ordered⟩
    · exact Nat.le_min.mpr
        ⟨Nat.le_trans (Nat.min_le_left _ _) grows, Nat.min_le_right _ _⟩

/-- The valid lifetime is found unless a request meets crossed bounds. -/
theorem validFor?_eq_some_iff {requested : Option Duration} {valid : Duration} :
    time.validFor? requested = some valid ↔
      (requested = none ∨ time.least ≤ time.most) ∧ time.validFor requested = valid := by
  cases requested with
  | none => simp [validFor?, validFor]
  | some wanted =>
    unfold validFor? clamp? validFor
    by_cases ordered : time.least ≤ time.most
    · simp [ordered]
    · simp [ordered]

/-- The rebinding timer is found unless one is to be computed from a lifetime that cannot be counted
seven times. -/
theorem rebinding?_eq_some_iff {valid timer : Duration} :
    time.rebinding? valid = some timer ↔
      (time.rebind ≠ none ∨ 7 * valid ≤ longestTime) ∧ time.rebinding valid = timer := by
  unfold rebinding? rebinding
  cases time.rebind with
  | some timer => simp
  | none =>
    unfold multiple?
    by_cases counted : 7 * valid ≤ longestTime
    · simp [counted, Nat.mul_comm valid 7]
    · simp [counted]

/-- The steps lead to the lifetimes and to nothing else. The program stops only where a request meets
crossed bounds, or where the valid lifetime cannot be counted seven times and has to be. -/
theorem determine?_eq_some_iff {requested : Option Duration} {lifetimes : Lifetimes} :
    time.determine? requested = some lifetimes ↔
      (requested = none ∨ time.least ≤ time.most) ∧
        (time.rebind ≠ none ∨ 7 * time.validFor requested ≤ longestTime) ∧
        time.determine requested = lifetimes := by
  unfold determine?
  rw [Option.bind_eq_bind, Option.bind_eq_some_iff]
  simp only [validFor?_eq_some_iff, Option.bind_eq_some_iff, rebinding?_eq_some_iff]
  constructor
  · rintro ⟨valid, ⟨within, rfl⟩, rebind, ⟨counted, rfl⟩, found⟩
    exact ⟨within, counted, Option.some.inj found⟩
  · rintro ⟨within, counted, rfl⟩
    exact ⟨_, ⟨within, rfl⟩, _, ⟨counted, rfl⟩, rfl⟩

/-- Two timers that are cut to the same lifetime are in order if they were before, or if the later
one is cut. -/
theorem min_le_min_iff {first second valid : Nat} :
    min first valid ≤ min second valid ↔ first ≤ second ∨ valid ≤ second := by
  omega

/-- A half is at most seven eighths. -/
theorem half_le_seven_eighths (valid : Nat) : valid / 2 ≤ valid * 7 / 8 := by
  omega

/-- Without configured timers, the timers in force are in order. -/
theorem renewal_le_rebinding (renew : time.renew = none) (rebind : time.rebind = none)
    (valid : Duration) : time.renewal valid ≤ time.rebinding valid := by
  rw [renewal, rebinding, renew, rebind]
  exact half_le_seven_eighths valid

/-- Lifetimes are in order when the bounds are and the longest can be counted seven times. -/
theorem isOrderly_of_mem (shortest : time.least ≤ time.fallback)
    (longest : time.fallback ≤ time.most) (counted : 7 * time.most ≤ longestTime) :
    time.IsOrderly := by
  have ordered : time.least ≤ time.most := Nat.le_trans shortest longest
  have inside := validFor_mem shortest longest
  constructor
  · intro requested
    have enough : 7 * time.validFor requested ≤ longestTime :=
      Nat.le_trans (Nat.mul_le_mul_left 7 (inside requested).2) counted
    exact determine?_eq_some_iff.mpr ⟨.inr ordered, .inr enough, rfl⟩
  · exact inside
  · rfl
  · exact fun wanted above below => validFor_of_mem above below
  · exact fun shorter longer grows => validFor_mono ordered grows
  · exact fun requested => ⟨Nat.min_le_right _ _, Nat.min_le_right _ _⟩
  · exact fun renew rebind requested =>
      min_le_min_iff.mpr (.inl (renewal_le_rebinding renew rebind _))
  · exact fun requested => min_le_min_iff

end LeaseTime

/-- A configured lifetime is at most the longest that 32 bits can count. -/
theorem Params.le_of_map_duration {value : Option Seconds} {time : Duration}
    (set : value.map duration = some time) : time ≤ seconds largestWord := by
  obtain ⟨count, -, rfl⟩ := Option.map_eq_some_iff.mp set
  exact Nat.mul_le_mul_left 1000 count.bounded

/-- The longest lifetime that holds is at most the longest that 32 bits can count. -/
theorem Inheritance.IsConfigured.most_le {levels : Inheritance} (configured : levels.IsConfigured) :
    levels.resolve.leaseTime.most ≤ seconds largestWord := by
  have le_getD {field : Params → Option Duration} {fallback : Duration}
      (small : ∀ entry time, field (.ofConfig entry) = some time → time ≤ seconds largestWord)
      (default : fallback ≤ seconds largestWord) :
      (levels.get? field).getD fallback ≤ seconds largestWord := by
    cases found : levels.get? field with
    | none => exact default
    | some time => exact configured.of_get? small found
  have valid : (levels.get? Params.validLifetime).getD defaultValidLifetime ≤ seconds largestWord :=
    le_getD (fun _ _ => Params.le_of_map_duration) (by decide)
  exact le_getD (fun _ _ => Params.le_of_map_duration) valid

namespace Topology

/-- The lifetimes that clients are given in the subnets of a built topology are in order. -/
theorem lifetimes_in_order {config : Config} {generation : Nat} {topology : Topology}
    (built : build config generation = .ok topology) {subnet : Subnet}
    (member : subnet ∈ topology.subnets) : (topology.params subnet).leaseTime.IsOrderly := by
  have accepted : topology.Accepted := .inr ⟨config, generation, built⟩
  have small : (topology.params subnet).leaseTime.most ≤ seconds largestWord :=
    (accepted.isConfigured.inheritance member).most_le
  obtain ⟨_, _, _, -, -, -, -, -, -, checked⟩ := runs_of_build built
  obtain ⟨shortest, longest⟩ := isOrdered_of_checkLifetimes checked member
  exact LeaseTime.isOrderly_of_mem shortest longest (seven_mul_le_longestTime small)

namespace Sample

/-- Ten minutes as the lifetime, with a renewal timer and a rebinding timer before it. -/
def early : Config :=
  { Engine.Sample.config with
    params := { Config.Params.unset with
      validLifetime := some ⟨600, by decide, by decide⟩
      renewTimer := some ⟨500, by decide, by decide⟩
      rebindTimer := some ⟨100, by decide, by decide⟩ } }

/-- The lifetimes that hold in the subnet. -/
def earlyTime : LeaseTime :=
  ⟨seconds 600, seconds 600, seconds 600, some (seconds 500), some (seconds 100)⟩

/-- The configuration is accepted, and the timers hold in its subnet as they were configured. -/
theorem build_early : ∃ topology subnet, build early 1 = .ok topology ∧
    subnet ∈ topology.subnets ∧ (topology.params subnet).leaseTime = earlyTime := by
  have known : (build early 1).toOption.map (fun topology =>
      decide (∃ subnet ∈ topology.subnets, (topology.params subnet).leaseTime = earlyTime)) =
        some true := by
    decide +kernel
  obtain ⟨topology, built, holds⟩ := ok_of_toOption known
  obtain ⟨subnet, member, time⟩ := of_decide_eq_true holds
  exact ⟨topology, subnet, built, member, time⟩

end Sample

/-- The conditions can be met, also by timers that are configured the other way round. -/
theorem lifetimes_in_order_of_early_rebinding : Sample.earlyTime.IsOrderly := by
  obtain ⟨topology, subnet, built, member, time⟩ := Sample.build_early
  rw [← time]
  exact lifetimes_in_order built member

/-- Rebinding may come before renewal. -/
theorem rebinding_before_renewal :
    ¬ ∀ (config : Config) (generation : Nat) (topology : Topology) (subnet : Subnet)
      (requested : Option Duration), build config generation = .ok topology →
      subnet ∈ topology.subnets →
      ((topology.params subnet).leaseTime.determine requested).renew ≤
        ((topology.params subnet).leaseTime.determine requested).rebind := by
  intro ordered
  obtain ⟨topology, subnet, built, member, time⟩ := Sample.build_early
  have claimed := ordered _ _ topology subnet none built member
  rw [time] at claimed
  exact absurd claimed (by decide)

end Topology

end Leasehold
