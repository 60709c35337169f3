import Leasehold.Proofs.Topology.Delegations

/-!
# The numbers of candidates

In a pool of an accepted topology the numbers below the capacity and the candidates determine each
other (`numbering_spec`): the numbers follow the order of the addresses, and every candidate has the
number that leads to it. Only the last address of a pool that spans every address of 128 bits has
none, because the number of candidates is cut to what fits 128 bits.

The program computes all of this with numbers of 128 bits and stops where a result does not fit. The
computations are repeated here by these steps, and shown to reach what they compute. Two pools are
left out, for which the program stops when it reads them (`Pool.wideLast?_eq_none_iff`).
-/
namespace Leasehold

/-! Operations on numbers of 128 bits. Where the result is none of them, the program stops. -/
namespace Wide

/-- The sum of two numbers. -/
def add? (left right : Nat) : Option Nat :=
  if left + right ≤ largestWide then some (left + right) else none

/-- The difference of two numbers. -/
def sub? (left right : Nat) : Option Nat := if right ≤ left then some (left - right) else none

/-- The product of two numbers. -/
def mul? (left right : Nat) : Option Nat :=
  if left * right ≤ largestWide then some (left * right) else none

/-- The number in which the bit at a place is set and no other. -/
def bit? (place : Nat) : Option Nat := if place < 128 then some (2 ^ place) else none

variable {left right place : Nat}

/-- A sum that fits 128 bits is computed. -/
theorem add?_of_le (fits : left + right ≤ largestWide) : add? left right = some (left + right) :=
  if_pos fits

/-- A difference that is not below zero is computed. -/
theorem sub?_of_le (ordered : right ≤ left) : sub? left right = some (left - right) :=
  if_pos ordered

/-- A product that fits 128 bits is computed. -/
theorem mul?_of_le (fits : left * right ≤ largestWide) : mul? left right = some (left * right) :=
  if_pos fits

/-- A bit at one of 128 places is set. -/
theorem bit?_of_lt (inside : place < 128) : bit? place = some (2 ^ place) := if_pos inside

/-- No bit is set beyond these places. -/
theorem bit?_of_le (beyond : 128 ≤ place) : bit? place = none := if_neg (Nat.not_lt.mpr beyond)

end Wide

/-- A block without leading bits begins with the first of all addresses. -/
theorem Block.firstValue_eq_zero {block : Block} (none : block.length = 0) :
    block.firstValue = 0 := by
  have ends := block.firstValue_add_span_le
  have span : block.span = block.family.size := by
    unfold Block.span
    rw [none]
    rfl
  omega

namespace Pool

/-- The distance between two candidates, by the steps at which the program may stop. -/
def wideStep? (pool : Pool) : Option Nat :=
  match pool.kind with
  | .addresses => some 1
  | .blocks length => do Wide.bit? (← Wide.sub? 128 length)

/-- The number of candidates that are a step apart, by the steps at which the program may stop. -/
def wideCount? (pool : Pool) (step : Nat) : Option Nat := do
  let span ← Wide.sub? pool.last.value pool.first.value
  return min (span / step + 1) largestWide

/-- The capacity, by the steps at which the program may stop. -/
def wideCapacity? (pool : Pool) : Option Nat := do pool.wideCount? (← pool.wideStep?)

/-- The candidate with a number, by the steps at which the program may stop. -/
def wideNth? (pool : Pool) (index : Nat) : Option (Option Address) := do
  let capacity ← pool.wideCapacity?
  if index < capacity then
    let distance ← Wide.mul? index (← pool.wideStep?)
    let value ← Wide.add? pool.first.value distance
    return Address.ofNat? pool.family value
  else return none

/-- The number of a candidate, by the steps at which the program may stop. -/
def wideIndexOf? (pool : Pool) (address : Address) : Option (Option Nat) :=
  if address.family ≠ pool.family then some none
  else if address.value < pool.first.value ∨ pool.last.value < address.value then some none
  else do
    let distance ← Wide.sub? address.value pool.first.value
    let step ← pool.wideStep?
    return if distance % step ≠ 0 then none else some (distance / step)

/-- The number of the last address at which a part of a block begins, for parts of a length, by the
steps at which the program may stop. -/
def wideLast? (whole : Block) (length : Nat) : Option Nat := do
  let step ← Wide.bit? (← Wide.sub? 128 length)
  let count ← Wide.bit? (← Wide.sub? length whole.length)
  let distance ← Wide.mul? (← Wide.sub? count 1) step
  Wide.add? whole.firstValue distance

/-- The pool does not hand out blocks that are as long as all addresses of 128 bits, nor blocks
longer than an address. -/
def HasLength (pool : Pool) : Prop :=
  ∀ length, pool.kind = .blocks length → 0 < length ∧ length ≤ 128

/-- The numbers and the candidates of a pool determine each other, and the program stops at no step
where it computes the ones from the others. -/
structure IsNumbered (pool : Pool) : Prop where
  /-- A number leads to a candidate exactly when it is below the capacity. -/
  defined : ∀ index, (∃ address, pool.nth? index = some address) ↔ index < pool.capacity
  /-- Candidates follow each other in the order of their numbers. -/
  ascending : ∀ {left right : Nat} {first second : Address}, left < right →
    pool.nth? left = some first → pool.nth? right = some second → first.value < second.value
  /-- Candidates lie in the range of the pool. -/
  within : ∀ {index : Nat} {address : Address}, pool.nth? index = some address →
    address.family = pool.family ∧ pool.first.value ≤ address.value ∧
      address.value ≤ pool.last.value
  /-- The number that leads to a candidate is the number of the candidate. -/
  numbered : ∀ {index : Nat} {address : Address}, pool.nth? index = some address →
    pool.indexOf? address = some index
  /-- The number of an address that the pool contains leads to it, unless the address is the last of
  an address pool that spans all addresses of 128 bits. -/
  reached : ∀ {address : Address}, pool.contains address = true →
    ((∃ index, pool.indexOf? address = some index ∧ pool.nth? index = some address) ↔
      ¬ (pool.kind = .addresses ∧ pool.spansAll ∧ address = pool.last))
  /-- The distance between candidates is computed. -/
  wideStep : pool.wideStep? = some pool.step
  /-- The capacity is computed. -/
  wideCapacity : pool.wideCapacity? = some pool.capacity
  /-- Candidates are computed. -/
  wideNth : ∀ index, pool.wideNth? index = some (pool.nth? index)
  /-- The numbers of candidates are computed. -/
  wideIndexOf : ∀ address, pool.wideIndexOf? address = some (pool.indexOf? address)

variable {pool : Pool}

section Arithmetic

variable (sound : pool.IsSound) (long : pool.HasLength)

include long in
/-- The distance between candidates fits 128 bits. -/
theorem wideStep?_eq : pool.wideStep? = some pool.step := by
  unfold wideStep? step
  cases kind : pool.kind with
  | addresses => rfl
  | blocks length =>
    obtain ⟨positive, short⟩ := long length kind
    have inside : 128 - length < 128 := by omega
    change (Wide.sub? 128 length).bind Wide.bit? = _
    rw [Wide.sub?_of_le short]
    exact Wide.bit?_of_lt inside

omit sound long in
/-- Candidates are counted without a difference below zero. -/
theorem wideCount?_step (ordered : pool.first.value ≤ pool.last.value) :
    pool.wideCount? pool.step = some pool.capacity := by
  unfold wideCount?
  rw [Wide.sub?_of_le ordered]
  rfl

include sound long

/-- The capacity is computed in numbers of 128 bits. -/
theorem wideCapacity?_eq : pool.wideCapacity? = some pool.capacity := by
  unfold wideCapacity?
  rw [wideStep?_eq long]
  exact wideCount?_step sound.ordered

/-- So is the candidate with a number: it is never computed beyond the last one. -/
theorem wideNth?_eq (index : Nat) : pool.wideNth? index = some (pool.nth? index) := by
  unfold wideNth? nth?
  rw [wideCapacity?_eq sound long, wideStep?_eq long]
  by_cases inside : index < pool.capacity
  · have reach := bounds_of_lt_capacity sound inside
    have last := value_le_largestWide pool.last
    have product : index * pool.step ≤ largestWide := by omega
    have sum : pool.first.value + index * pool.step ≤ largestWide := by omega
    simp only [Option.bind_eq_bind, Option.bind_some, if_pos inside, Wide.mul?_of_le product,
      Wide.add?_of_le sum]
    rfl
  · simp only [Option.bind_eq_bind, Option.bind_some, if_neg inside]
    rfl

omit sound in
/-- So is the number of a candidate. -/
theorem wideIndexOf?_eq (address : Address) :
    pool.wideIndexOf? address = some (pool.indexOf? address) := by
  unfold wideIndexOf? indexOf?
  by_cases family : address.family ≠ pool.family
  · rw [if_pos family, if_pos family]
  · rw [if_neg family, if_neg family]
    by_cases outside : address.value < pool.first.value ∨ pool.last.value < address.value
    · rw [if_pos outside, if_pos outside]
    · rw [if_neg outside, if_neg outside]
      have above : pool.first.value ≤ address.value := by omega
      rw [Wide.sub?_of_le above, wideStep?_eq long]
      rfl

end Arithmetic

/-- No number leads to the last address of an address pool that spans all addresses. -/
theorem nth?_ne_last (sound : pool.IsSound) (addresses : pool.kind = .addresses)
    (all : pool.spansAll) (index : Nat) : pool.nth? index ≠ some pool.last := by
  intro found
  have inside : index < pool.capacity := (exists_nth?_iff sound index).mp ⟨_, found⟩
  obtain ⟨-, value, -⟩ := of_nth? sound found
  obtain ⟨begins, ends⟩ := all
  have step : pool.step = 1 := by
    unfold Pool.step
    rw [addresses]
  have cut := pool.capacity_le_largestWide
  rw [step, begins, ends] at value
  omega

/-- The numbers and the candidates of a sound pool determine each other when its blocks have a length
and are not all addresses of 128 bits. -/
theorem IsSound.isNumbered (sound : pool.IsSound) (long : pool.HasLength)
    (part : ∀ length, pool.kind = .blocks length → ¬ pool.spansAll) : pool.IsNumbered where
  defined := exists_nth?_iff sound
  ascending {left right first second} before numbersFirst numbersSecond := by
    obtain ⟨-, firstValue, -⟩ := of_nth? sound numbersFirst
    obtain ⟨-, secondValue, -⟩ := of_nth? sound numbersSecond
    have further : left * pool.step < right * pool.step :=
      Nat.mul_lt_mul_of_pos_right before pool.step_pos
    omega
  within {index address} found := by
    obtain ⟨family, value, below⟩ := of_nth? sound found
    exact ⟨family, by omega, below⟩
  numbered {index address} found := by
    obtain ⟨family, value, below⟩ := of_nth? sound found
    exact indexOf?_eq_some family value below
  reached {address} contained := by
    constructor
    · rintro ⟨index, -, found⟩ ⟨addresses, all, rfl⟩
      exact nth?_ne_last sound addresses all index found
    · intro other
      apply exists_indexOf?_of_contains sound contained
      rintro ⟨all, last⟩
      cases kind : pool.kind with
      | addresses => exact other ⟨kind, all, last⟩
      | blocks length => exact part length kind all
  wideStep := wideStep?_eq long
  wideCapacity := wideCapacity?_eq sound long
  wideNth := wideNth?_eq sound long
  wideIndexOf := wideIndexOf?_eq long

/-- Blocks of more than one address do not end with the last of all addresses. -/
theorem largestWide_ne_mul_two_pow {length : Nat} (shorter : length < 128) (count : Nat) :
    count * 2 ^ (128 - length) ≠ largestWide := by
  intro all
  have even : 2 ∣ count * 2 ^ (128 - length) :=
    Nat.dvd_mul_left_of_dvd (Nat.pow_dvd_pow 2 (show 1 ≤ 128 - length by omega)) count
  rw [all] at even
  exact absurd even (by decide)

/-- Single addresses of a block are all addresses only when the block has no leading bits. -/
theorem eq_zero_of_single_addresses {length : Nat} (all : 2 ^ (128 - length) - 1 = largestWide) :
    length = 0 := by
  have positive : 1 ≤ 2 ^ (128 - length) := Nat.one_le_two_pow
  have counted : 2 ^ (128 - length) = 2 ^ 128 := by
    have cut : largestWide = 2 ^ 128 - 1 := rfl
    omega
  have same : 128 - length = 128 := (Nat.pow_right_inj (by decide)).mp counted
  omega

section Delegated

variable {entry : Config.DelegatedPool} (read : ofDelegated entry = .ok pool)
include read

/-- Blocks that are delegated have a length when they are not all addresses of 128 bits. -/
theorem hasLength_of_ofDelegated (long : pool.kind ≠ .blocks 0) : pool.HasLength := by
  obtain ⟨-, -, fits, last, -, -, rfl⟩ := of_ofDelegated read
  intro length kind
  obtain rfl : entry.delegatedLength.toNat = length := PoolKind.blocks.inj kind
  have positive : entry.delegatedLength.toNat ≠ 0 := fun none => long (congrArg PoolKind.blocks none)
  exact ⟨Nat.pos_of_ne_zero positive, fits⟩

/-- They are all addresses together only when they are single addresses. -/
theorem not_spansAll_of_ofDelegated (part : ¬ (pool.kind = .blocks 128 ∧ pool.spansAll)) :
    ¬ pool.spansAll := by
  obtain ⟨-, -, fits, last, -, value, rfl⟩ := of_ofDelegated read
  intro all
  obtain ⟨begins, ends⟩ := all
  change entry.block.trunc.firstValue = 0 at begins
  change last.value = largestWide at ends
  by_cases single : entry.delegatedLength.toNat = 128
  · exact part ⟨congrArg PoolKind.blocks single, begins, ends⟩
  · rw [ends, begins, Nat.zero_add] at value
    exact largestWide_ne_mul_two_pow (by omega) _ value.symm

/-- Single addresses that are all addresses together are those of the block without leading bits. -/
theorem isWhole_iff_of_ofDelegated : pool.kind = .blocks 128 ∧ pool.spansAll ↔
    entry.block.length = 0 ∧ entry.delegatedLength.toNat = 128 := by
  obtain ⟨-, -, -, last, -, value, rfl⟩ := of_ofDelegated read
  constructor
  · rintro ⟨kind, begins, ends⟩
    have single : entry.delegatedLength.toNat = 128 := PoolKind.blocks.inj kind
    change entry.block.trunc.firstValue = 0 at begins
    change last.value = largestWide at ends
    rw [begins, single, ends, Nat.zero_add, Nat.sub_self, Nat.pow_zero, Nat.mul_one] at value
    exact ⟨eq_zero_of_single_addresses value.symm, single⟩
  · rintro ⟨undivided, single⟩
    have whole : entry.block.trunc.length = 0 := undivided
    have begins := Block.firstValue_eq_zero whole
    rw [begins, whole, single] at value
    exact ⟨congrArg PoolKind.blocks single, begins, value⟩

/-- The last candidate is computed in numbers of 128 bits when the pool is read. -/
theorem wideLast?_eq (long : pool.kind ≠ .blocks 0)
    (part : ¬ (pool.kind = .blocks 128 ∧ pool.spansAll)) :
    wideLast? entry.block.trunc entry.delegatedLength.toNat = some pool.last.value := by
  have positive := hasLength_of_ofDelegated read long
  rw [isWhole_iff_of_ofDelegated read] at part
  change ¬ (entry.block.trunc.length = 0 ∧ entry.delegatedLength.toNat = 128) at part
  obtain ⟨wide, longer, fits, last, -, value, rfl⟩ := of_ofDelegated read
  have below := value_le_largestWide last
  generalize entry.block.trunc = whole at *
  generalize entry.delegatedLength.toNat = length at *
  have nonzero : 0 < length := (positive length rfl).1
  have counted : length - whole.length < 128 := by omega
  have one : 1 ≤ 2 ^ (length - whole.length) := Nat.one_le_two_pow
  have distance : (2 ^ (length - whole.length) - 1) * 2 ^ (128 - length) ≤ largestWide := by omega
  have sum : whole.firstValue + (2 ^ (length - whole.length) - 1) * 2 ^ (128 - length) ≤
      largestWide := by omega
  unfold wideLast?
  simp only [Option.bind_eq_bind, Wide.sub?_of_le fits, Wide.sub?_of_le longer, Option.bind_some,
    Wide.bit?_of_lt (show 128 - length < 128 by omega), Wide.bit?_of_lt counted,
    Wide.sub?_of_le one, Wide.mul?_of_le distance, Wide.add?_of_le sum, value]

/-- For two entries the last candidate is not computed in numbers of 128 bits: for all addresses as
one block, where the distance does not fit, and for all addresses as single ones, where their number
does not. -/
theorem wideLast?_eq_none_iff :
    wideLast? entry.block.trunc entry.delegatedLength.toNat = none ↔
      entry.delegatedLength.toNat = 0 ∨
        entry.block.length = 0 ∧ entry.delegatedLength.toNat = 128 := by
  constructor
  · intro stops
    refine Decidable.byContradiction fun others => ?_
    obtain ⟨positive, part⟩ := not_or.mp others
    have long : pool.kind ≠ .blocks 0 := by
      obtain ⟨-, -, -, -, -, -, rfl⟩ := of_ofDelegated read
      exact fun none => positive (PoolKind.blocks.inj none)
    rw [wideLast?_eq read long (mt (isWhole_iff_of_ofDelegated read).mp part)] at stops
    exact nomatch stops
  · unfold wideLast?
    have beyond : Wide.bit? (128 - 0) = none := Wide.bit?_of_le (Nat.le_refl 128)
    rintro (none | ⟨undivided, single⟩)
    · rw [none, Wide.sub?_of_le (Nat.zero_le 128), Option.bind_eq_bind, Option.bind_some, beyond]
      rfl
    · have whole : entry.block.trunc.length = 0 := undivided
      have alone : Wide.bit? (128 - 128) = some 1 := Wide.bit?_of_lt (by decide)
      rw [single, whole, Wide.sub?_of_le (Nat.le_refl 128), Wide.sub?_of_le (Nat.zero_le 128)]
      simp only [Option.bind_eq_bind, Option.bind_some, alone, beyond, Option.bind_none]

end Delegated

end Pool

/-- The numbers and the candidates of a pool of an accepted topology determine each other, and where
blocks are delegated, the last one was computed when the pool was read. Left out are blocks that are
as long as all addresses, and single addresses that are all delegated. -/
theorem numbering_spec {topology : Topology} (accepted : topology.Accepted) {subnet : Subnet}
    (member : subnet ∈ topology.subnets) {pool : Pool}
    (listed : pool ∈ subnet.pools ++ subnet.delegatedPools) (long : pool.kind ≠ .blocks 0)
    (part : ¬ (pool.kind = .blocks 128 ∧ pool.spansAll)) :
    pool.IsNumbered ∧ (pool ∈ subnet.delegatedPools → ∃ entry, Pool.ofDelegated entry = .ok pool ∧
      Pool.wideLast? entry.block.trunc entry.delegatedLength.toNat = some pool.last.value) := by
  have sound := accepted.hasSoundPools member
  have readPools := (accepted.isBuilt.subnets subnet member).hasReadPools
  have delegated (inside : pool ∈ subnet.delegatedPools) :
      ∃ entry, Pool.ofDelegated entry = .ok pool ∧
        Pool.wideLast? entry.block.trunc entry.delegatedLength.toNat = some pool.last.value := by
    obtain ⟨entry, read⟩ := readPools.blocks pool inside
    exact ⟨entry, read, Pool.wideLast?_eq read long part⟩
  refine ⟨?_, delegated⟩
  rcases List.mem_append.mp listed with addresses | blocks
  · obtain ⟨ordered, kind, -⟩ := sound.addresses pool addresses
    have different (length : Nat) : pool.kind ≠ .blocks length := by
      rw [kind]
      exact nofun
    exact ordered.isNumbered (fun length same => absurd same (different length))
      fun length same => absurd same (different length)
  · obtain ⟨ordered, -, -⟩ := sound.blocks pool blocks
    obtain ⟨entry, read, -⟩ := delegated blocks
    exact ordered.isNumbered (Pool.hasLength_of_ofDelegated read long)
      fun _ _ => Pool.not_spansAll_of_ofDelegated read part

/-! A subnet of all addresses of 128 bits, with a pool of all of them. -/
namespace Sample

/-- The configuration. -/
def wholeSpace : Config :=
  { nestedPools with
    subnets := nestedPools.subnets.map fun subnet =>
      { subnet with
        block := ⟨firstWide, 0, by decide⟩
        pools := [⟨"::/0", none, none⟩]
        delegatedPools := [] } }

/-- The pool. -/
def allAddresses : Pool := .ofRange firstWide (wide (2 ^ 128 - 1) (by decide))

/-- The topology that is built from the configuration. -/
def whole : Topology := (Topology.build wholeSpace 1).toOption.getD .empty

/-- The pool is read as it is. -/
theorem exists_whole_subnet : ∃ subnet ∈ whole.subnets, subnet.pools = [allAddresses] := by
  decide +kernel

end Sample

/-- The conditions can be met: the pool of all addresses is numbered, and its last address is the
exception. -/
theorem numbering_spec_of_all_addresses : Sample.allAddresses.IsNumbered ∧
    Sample.allAddresses.contains Sample.allAddresses.last = true ∧
    ¬ ∃ index, Sample.allAddresses.indexOf? Sample.allAddresses.last = some index ∧
      Sample.allAddresses.nth? index = some Sample.allAddresses.last := by
  obtain ⟨subnet, member, pools⟩ := Sample.exists_whole_subnet
  have listed : Sample.allAddresses ∈ subnet.pools ++ subnet.delegatedPools := by
    rw [pools]
    exact List.mem_append_left _ List.mem_cons_self
  obtain ⟨isNumbered, -⟩ := numbering_spec (Topology.accepted_build _ _) member listed
    (by decide) (by decide)
  have contained : Sample.allAddresses.contains Sample.allAddresses.last = true := by decide +kernel
  refine ⟨isNumbered, contained, fun found => ?_⟩
  exact (isNumbered.reached contained).mp found ⟨rfl, ⟨rfl, rfl⟩, rfl⟩

end Leasehold
