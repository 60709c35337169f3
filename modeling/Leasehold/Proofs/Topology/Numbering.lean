import Leasehold.Proofs.Topology.Checks

/-!
# Numbers of subnets

Subnets are numbered one after another. A subnet that asks for a number gets it, and any other subnet
gets one above all that were given before; no number is given twice (`SubnetIds.gives_of_assign`).
What one subnet is checked for (`Builder.Admits`) holds of all of them, whether they stand in a shared
network or not (`Builder.Runs`), and so the numbers of all subnets are different
(`Builder.Runs.numbers`).
-/
namespace Leasehold

namespace SubnetIds

/-- No number that was given is zero, or above the highest one. -/
def IsBounded (ids : SubnetIds) : Prop := ∀ id ∈ ids.used, id ≠ 0 ∧ id ≤ ids.highest

/-- At first no number was given. -/
theorem isBounded_none : none.IsBounded := fun _ given => absurd given List.not_mem_nil

/-- A subnet is given a number. -/
structure Gives (ids : SubnetIds) (requested : UInt32) (id : SubnetId) (next : SubnetIds) : Prop
    where
  /-- It is not zero. -/
  nonzero : id ≠ 0
  /-- It was not given before. -/
  fresh : id ∉ ids.used
  /-- It is the one that is asked for, if one is. -/
  kept : requested ≠ 0 → id = requested
  /-- Otherwise it is above all that were given before. -/
  above : requested = 0 → ∀ other ∈ ids.used, other < id
  /-- It counts as given from then on. -/
  used : next.used = id :: ids.used
  /-- The numbers stay in their bounds. -/
  bounded : next.IsBounded

/-- The number above the highest one is not zero, and above every number up to the highest. -/
theorem lt_succ_of_le {highest : SubnetId} (room : highest.toNat < largestWord) :
    highest + 1 ≠ 0 ∧ ∀ other ≤ highest, other < highest + 1 := by
  have value : (highest + 1).toNat = highest.toNat + 1 := by
    have bound : largestWord + 1 = 2 ^ 32 := by decide
    rw [UInt32.toNat_add]
    exact Nat.mod_eq_of_lt (by change highest.toNat + 1 < 2 ^ 32; omega)
  refine ⟨fun zero => ?_, fun other below => ?_⟩
  · rw [zero] at value
    exact nomatch value
  · rw [UInt32.lt_iff_toNat_lt, value]
    exact Nat.lt_succ_of_le (UInt32.le_iff_toNat_le.mp below)

/-- A subnet is given the number it asks for, or one above all that were given before. -/
theorem gives_of_assign {ids next : SubnetIds} {requested : UInt32} {id : SubnetId}
    (bounded : ids.IsBounded) (assigned : ids.assign requested = .ok (id, next)) :
    ids.Gives requested id next := by
  have raised (chosen : id ≠ 0) : IsBounded
      ⟨id :: ids.used, if ids.highest < id then id else ids.highest⟩ := by
    intro other member
    rcases List.mem_cons.mp member with rfl | earlier
    · refine ⟨chosen, ?_⟩
      dsimp only
      split
      · exact UInt32.le_refl _
      · next below => exact UInt32.not_lt.mp below
    · obtain ⟨nonzero, below⟩ := bounded other earlier
      refine ⟨nonzero, ?_⟩
      dsimp only
      split
      · next higher => exact UInt32.le_of_lt (UInt32.lt_of_le_of_lt below higher)
      · exact below
  unfold assign at assigned
  dsimp only at assigned
  split at assigned
  · exact nomatch assigned
  · next chosen choice =>
    split at assigned
    · exact nomatch assigned
    · next unused =>
      cases assigned
      have fresh : id ∉ ids.used := by simpa using unused
      split at choice
      · next none =>
        split at choice
        · next room =>
          cases choice
          obtain ⟨nonzero, above⟩ := lt_succ_of_le room
          exact ⟨nonzero, fresh, fun asks => absurd none asks,
            fun _ other earlier => above other (bounded other earlier).2, rfl, raised nonzero⟩
        · exact nomatch choice
      · next asks =>
        cases choice
        exact ⟨asks, fresh, fun _ => rfl, fun none => absurd none asks, rfl, raised asks⟩

end SubnetIds

namespace Builder

/-- The reservations that are collected have passed the check. -/
theorem inside_of_reserveAll {scope : Scope} {inside : Reservation → Except ConfigError Unit}
    {builder next : Builder} {entries : List Config.Reservation}
    (built : builder.reserveAll scope inside entries = .ok next) {host : Reservation}
    (read : host.IsRead scope entries) : inside host = .ok () := by
  obtain ⟨entry, member, read⟩ := read
  induction entries generalizing builder with
  | nil => exact absurd member List.not_mem_nil
  | cons first rest ih =>
    unfold reserveAll at built
    split at built
    · cases built
    · next reservation readFirst =>
      split at built
      · cases built
      · next passed =>
        split at built
        · cases built
        · rcases List.mem_cons.mp member with rfl | later
          · obtain rfl : reservation = host := Except.ok.inj (readFirst.symm.trans read)
            exact passed
          · exact ih built later

/-- The addresses of a reservation that has passed the check lie in the block. -/
theorem contains_of_checkInside {id : SubnetId} {block : Block} {host : Reservation}
    (passed : checkInside id block host = .ok ()) {address : Address}
    (reserved : address ∈ host.addresses) : block.contains address = true := by
  unfold checkInside at passed
  split at passed
  · exact nomatch passed
  · next clear =>
    have inside := List.find?_eq_none.mp clear address reserved
    simpa using inside

/-- A configured subnet becomes one. -/
structure Admits (builder next : Builder) (network : Option String) (entry : Config.Subnet)
    (subnet : Subnet) : Prop where
  /-- It is given a number. -/
  assigned : builder.ids.assign entry.id = .ok (subnet.id, next.ids)
  /-- Its block is given by the first address. -/
  block : subnet.block = entry.block.trunc
  /-- It belongs to the shared network that it stands in. -/
  network : subnet.network = network
  /-- The addresses that it reserves lie in it. -/
  inside : ∀ host : Reservation, host.IsRead (.subnet subnet.id) entry.reservations →
    ∀ address ∈ host.addresses, subnet.contains address = true

/-- What a subnet is checked for. -/
theorem admits_of_subnet {builder next : Builder} {network : Option String}
    {entry : Config.Subnet} {subnet : Subnet}
    (built : builder.subnet network entry = .ok (subnet, next)) :
    builder.Admits next network entry subnet := by
  obtain ⟨⟨id, ids⟩, assigned, built⟩ := ok_of_bind built
  obtain ⟨pools, -, built⟩ := ok_of_bind built
  obtain ⟨delegated, -, built⟩ := ok_of_bind built
  obtain ⟨_, -, built⟩ := ok_of_bind built
  obtain ⟨_, -, built⟩ := ok_of_bind built
  obtain ⟨after, reserved, built⟩ := ok_of_bind built
  have kept := (collects_of_reserveAll reserved).2
  cases built
  refine ⟨?_, rfl, rfl, fun host read address listed => ?_⟩
  · rw [kept]
    exact assigned
  · exact contains_of_checkInside (inside_of_reserveAll reserved read) listed

/-- Configured subnets become subnets one after another, each in some shared network or in none. -/
inductive Runs : Builder → List Config.Subnet → List Subnet → Builder → Prop where
  /-- No subnet is configured. -/
  | nil (builder : Builder) : Runs builder [] [] builder
  /-- The first subnet is admitted, and then the others. -/
  | cons {builder middle next : Builder} {network : Option String} {entry : Config.Subnet}
      {subnet : Subnet} {entries : List Config.Subnet} {subnets : List Subnet}
      (admits : builder.Admits middle network entry subnet)
      (rest : Runs middle entries subnets next) :
      Runs builder (entry :: entries) (subnet :: subnets) next

namespace Runs

variable {builder middle next : Builder} {entries later : List Config.Subnet}
  {subnets others : List Subnet}

/-- More subnets may follow. -/
theorem append (first : Runs builder entries subnets middle)
    (second : Runs middle later others next) :
    Runs builder (entries ++ later) (subnets ++ others) next := by
  induction first with
  | nil => exact second
  | cons admits _ ih => exact .cons admits (ih second)

/-- Every configured subnet becomes one. -/
theorem length_eq (runs : Runs builder entries subnets next) :
    subnets.length = entries.length := by
  induction runs with
  | nil => rfl
  | cons _ _ ih => rw [List.length_cons, List.length_cons, ih]

/-- Every subnet was admitted. -/
theorem exists_admits (runs : Runs builder entries subnets next) {pair : Subnet × Config.Subnet}
    (member : pair ∈ subnets.zip entries) :
    ∃ before after network, Admits before after network pair.2 pair.1 := by
  induction runs with
  | nil => exact absurd member List.not_mem_nil
  | cons admits _ ih =>
    rcases List.mem_cons.mp member with rfl | later
    · exact ⟨_, _, _, admits⟩
    · exact ih later

/-- The numbers of subnets are not zero, and those that are asked for are given. No number is given
twice, and one that is generated is above all that were given before. -/
theorem numbers (runs : Runs builder entries subnets next) (bounded : builder.ids.IsBounded) :
    (∀ pair ∈ subnets.zip entries, pair.1.id ≠ 0 ∧ (pair.2.id ≠ 0 → pair.1.id = pair.2.id)) ∧
      (∀ pair ∈ subnets.zip entries, pair.1.id ∉ builder.ids.used ∧
        (pair.2.id = 0 → ∀ other ∈ builder.ids.used, other < pair.1.id)) ∧
      (subnets.zip entries).Pairwise fun earlier later =>
        earlier.1.id ≠ later.1.id ∧ (later.2.id = 0 → earlier.1.id < later.1.id) := by
  induction runs with
  | nil => simp
  | @cons builder middle _ _ entry subnet entries subnets admits _ ih =>
    have gives := SubnetIds.gives_of_assign bounded admits.assigned
    obtain ⟨kept, fresh, apart⟩ := ih gives.bounded
    rw [gives.used] at fresh
    rw [List.zip_cons_cons]
    refine ⟨?_, ?_, List.pairwise_cons.mpr ⟨fun pair member => ?_, apart⟩⟩
    · rintro pair (_ | ⟨_, member⟩)
      · exact ⟨gives.nonzero, gives.kept⟩
      · exact kept pair member
    · rintro pair (_ | ⟨_, member⟩)
      · exact ⟨gives.fresh, gives.above⟩
      · obtain ⟨unused, above⟩ := fresh pair member
        exact ⟨fun given => unused (List.mem_cons_of_mem _ given),
          fun none other given => above none other (List.mem_cons_of_mem _ given)⟩
    · obtain ⟨unused, above⟩ := fresh pair member
      exact ⟨fun same => unused (same ▸ List.mem_cons_self),
        fun none => above none _ List.mem_cons_self⟩

end Runs

/-- Subnets outside of shared networks become subnets one after another. -/
theorem runs_of_subnets {builder next : Builder} {entries : List Config.Subnet}
    {subnets : List Subnet} (built : builder.subnets entries = .ok (subnets, next)) :
    Runs builder entries subnets next := by
  induction entries generalizing builder subnets with
  | nil =>
    cases built
    exact .nil _
  | cons entry rest ih =>
    obtain ⟨⟨first, middle⟩, builtFirst, built⟩ := ok_of_bind built
    obtain ⟨⟨others, last⟩, builtOthers, built⟩ := ok_of_bind built
    cases built
    exact .cons (admits_of_subnet builtFirst) (ih builtOthers)

/-- The subnets of a shared network become subnets of that network one after another. -/
theorem runs_of_members {builder next : Builder} {network : String} {authoritative : Bool}
    {expected : Option String} {entries : List Config.Subnet} {subnets : List Subnet}
    (built : builder.members network authoritative expected entries = .ok (subnets, next)) :
    Runs builder entries subnets next ∧ ∀ subnet ∈ subnets, subnet.network = some network := by
  induction entries generalizing builder expected subnets with
  | nil =>
    cases built
    exact ⟨.nil _, fun _ member => absurd member List.not_mem_nil⟩
  | cons entry rest ih =>
    obtain ⟨⟨first, middle⟩, builtFirst, built⟩ := ok_of_bind built
    obtain ⟨_, -, built⟩ := ok_of_bind built
    obtain ⟨_, -, built⟩ := ok_of_bind built
    obtain ⟨⟨others, last⟩, builtOthers, built⟩ := ok_of_bind built
    cases built
    have admits := admits_of_subnet builtFirst
    obtain ⟨runs, belong⟩ := ih builtOthers
    refine ⟨.cons admits runs, ?_⟩
    rintro subnet (_ | ⟨_, member⟩)
    · exact admits.network
    · exact belong subnet member

end Builder

end Leasehold
