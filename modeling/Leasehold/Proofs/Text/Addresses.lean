import Leasehold.AddressText
import Leasehold.Proofs.Text.Digits

/-!
# Addresses and blocks read back

The text of an address is read back from the front of any text, by either of the two rules, as long
as nothing follows that could belong to it. So addresses and blocks are read back from their texts
(`Address.parse?_chars`, `Block.parse?_text`).

An address of 128 bits is printed with its longest run of zero groups left out. The groups in front
of the run and those behind it are read back, and the reader fills in as many zeros as are missing.
-/
namespace Leasehold

namespace AddressText

variable {rule : Strictness} {rest : List Char}

/-- A printed octet is read back. -/
theorem octet?_digits {octet : Nat} (small : octet < 256)
    (halts : Text.Halts Text.Decimal.isDigit rest) :
    octet? rule (Text.Decimal.digits octet ++ rest) = some (octet, rest) := by
  have taken : (Text.Decimal.digits octet ++ rest).takeWhile Text.Decimal.isDigit =
      Text.Decimal.digits octet :=
    Text.takeWhile_append (fun _ => Text.Decimal.isDigit_of_mem_digits) halts
  have left : (Text.Decimal.digits octet ++ rest).dropWhile Text.Decimal.isDigit = rest :=
    Text.dropWhile_append (fun _ => Text.Decimal.isDigit_of_mem_digits) halts
  have short : (Text.Decimal.digits octet).length ≤ 3 :=
    Text.Decimal.length_digits_le (by decide) (by omega)
  have filled := Text.Decimal.digits_ne_nil octet
  unfold octet?
  rw [taken, left, if_neg, if_neg, if_pos (by simpa using small), Text.Decimal.value_digits]
  · intro zeros
    simp only [Bool.and_eq_true, decide_eq_true_eq] at zeros
    exact Text.Decimal.head_digits_ne_zero zeros.1.2 zeros.2
  · simp [filled, short]

/-- Octets are read one after another. -/
theorem octets?_cons {octet count total : Nat} (small : octet < 256) :
    octets? rule (count + 2) total (Text.Decimal.digits octet ++ '.' :: rest) =
      octets? rule (count + 1) (256 * total + octet) rest := by
  have read : octet? rule (Text.Decimal.digits octet ++ '.' :: rest) = some (octet, '.' :: rest) :=
    octet?_digits small (Text.halts_cons.mpr (by decide))
  rw [octets?, read]
  rfl

/-- The last octet is read. -/
theorem octets?_last {octet total : Nat} (small : octet < 256)
    (halts : Text.Halts Text.Decimal.isDigit rest) :
    octets? rule 1 total (Text.Decimal.digits octet ++ rest) = some (256 * total + octet, rest) := by
  rw [octets?, octet?_digits small halts]
  rfl

/-- The octets of a number are read back. -/
theorem v4?_octetText {value : Nat} (small : value < 2 ^ 32)
    (halts : Text.Halts Text.Decimal.isDigit rest) :
    v4? rule (octetText value ++ rest) = some (value, rest) := by
  have bounded (number : Nat) : number % 256 < 256 := Nat.mod_lt _ (by decide)
  simp only [v4?, octetText, List.append_assoc, List.cons_append]
  rw [octets?_cons (bounded _), octets?_cons (bounded _), octets?_cons (bounded _),
    octets?_last (bounded _) halts]
  have joined : 256 * (256 * (256 * (256 * 0 + value >>> 24 % 256) + value >>> 16 % 256) +
      value >>> 8 % 256) + value % 256 = value := by
    simp only [Nat.shiftRight_eq_div_pow]
    omega
  rw [joined]

/-- Nothing that could belong to a group of an address, or to an octet, comes first. -/
def EndsGroup (text : List Char) : Prop :=
  Text.Halts (fun c => Text.Hex.isDigit c || Text.Decimal.isDigit c || c == '.') text

/-- The text does not begin with a group, nor with a colon and a group. -/
def Stops (text : List Char) : Prop :=
  ∀ rule start room, groups rule start room text = ⟨[], false, text⟩

namespace EndsGroup

/-- No hexadecimal digit comes first. -/
theorem halts_hex (ends : EndsGroup rest) : Text.Halts Text.Hex.isDigit rest := by
  intro c first
  have other := ends c first
  simp only [Bool.or_eq_false_iff] at other
  exact other.1.1

/-- No decimal digit comes first. -/
theorem halts_decimal (ends : EndsGroup rest) : Text.Halts Text.Decimal.isDigit rest := by
  intro c first
  have other := ends c first
  simp only [Bool.or_eq_false_iff] at other
  exact other.1.2

/-- No dot comes first. -/
theorem dropStart?_dot (ends : EndsGroup rest) : Text.dropStart? ['.'] rest = none := by
  cases rest with
  | nil => rfl
  | cons c rest =>
    have other := ends c rfl
    simp only [Bool.or_eq_false_iff, beq_eq_false_iff_ne] at other
    exact if_neg fun dot => other.2 dot.symm

end EndsGroup

/-- A text that does not begin with a digit does not begin with four octets. -/
theorem v4?_eq_none_of_halts {text : List Char} (halts : Text.Halts Text.Decimal.isDigit text) :
    v4? rule text = none := by
  have none : octet? rule text = none := by
    have empty : text.takeWhile Text.Decimal.isDigit = [] := by
      cases text with
      | nil => rfl
      | cons c text => simp [Text.halts_cons.mp halts]
    simp [octet?, empty]
  rw [v4?, octets?, none]
  rfl

/-- An octet takes all the digits there are. -/
theorem rest_of_octet? {text : List Char} {octet : Nat}
    (read : octet? rule text = some (octet, rest)) :
    rest = text.dropWhile Text.Decimal.isDigit := by
  unfold octet? at read
  dsimp only at read
  split at read
  · exact nomatch read
  · split at read
    · exact nomatch read
    · split at read
      · exact (congrArg Prod.snd (Option.some.inj read)).symm
      · exact nomatch read

/-- Digits that no dot follows do not begin four octets. -/
theorem v4?_eq_none {front : List Char} (digits : ∀ c ∈ front, Text.Hex.isDigit c = true)
    (ends : EndsGroup rest) : v4? rule (front ++ rest) = none := by
  have noDot : Text.dropStart? ['.'] ((front ++ rest).dropWhile Text.Decimal.isDigit) = none := by
    induction front with
    | nil =>
      have left : ([] ++ rest).dropWhile Text.Decimal.isDigit = rest :=
        Text.dropWhile_append (by simp) ends.halts_decimal
      rw [left]
      exact ends.dropStart?_dot
    | cons c front ih =>
      rw [List.cons_append, List.dropWhile_cons]
      split
      · exact ih fun d member => digits d (List.mem_cons_of_mem _ member)
      · refine if_neg ?_
        rintro rfl
        exact absurd (digits _ List.mem_cons_self) (by decide)
  rw [v4?, octets?]
  cases read : octet? rule (front ++ rest) with
  | none => rfl
  | some found =>
    obtain ⟨octet, left⟩ := found
    rw [← rest_of_octet? read] at noDot
    simp [noDot]

/-- A printed group is read back. -/
theorem group?_toDigits {group : Nat} (small : group < 65536) (ends : EndsGroup rest) :
    group? (Nat.toDigits 16 group ++ rest) = some (group, rest) := by
  have taken : (Nat.toDigits 16 group ++ rest).takeWhile Text.Hex.isDigit =
      Nat.toDigits 16 group :=
    Text.takeWhile_append (fun _ => Text.Hex.isDigit_of_mem_toDigits) ends.halts_hex
  have left : (Nat.toDigits 16 group ++ rest).dropWhile Text.Hex.isDigit = rest :=
    Text.dropWhile_append (fun _ => Text.Hex.isDigit_of_mem_toDigits) ends.halts_hex
  have short : (Nat.toDigits 16 group).length ≤ 4 :=
    (Nat.length_toDigits_le_iff (by decide) (by decide)).mpr small
  have filled : Nat.toDigits 16 group ≠ [] := Nat.toDigits_ne_nil
  unfold group?
  rw [taken, left, if_neg, Text.Hex.value_toDigits]
  simp [filled, short]

/-- The text does not begin with a group. -/
theorem group?_eq_none (halts : Text.Halts Text.Hex.isDigit rest) : group? rest = none := by
  have empty : rest.takeWhile Text.Hex.isDigit = [] := by
    cases rest with
    | nil => rfl
    | cons c rest => simp [Text.halts_cons.mp halts]
  simp [group?, empty]

/-- Groups with a colon in front of each. -/
def colonGroups (groups : List Nat) : List Char :=
  groups.flatMap fun group => ':' :: Nat.toDigits 16 group

/-- The first group is written without a colon. -/
theorem groupText_cons (group : Nat) (others : List Nat) :
    groupText (group :: others) = Nat.toDigits 16 group ++ colonGroups others := by
  induction others generalizing group with
  | nil => simp [groupText, colonGroups, List.intercalate]
  | cons next others ih =>
    have behind : groupText (group :: next :: others) =
        Nat.toDigits 16 group ++ ':' :: groupText (next :: others) := by
      simp [groupText, List.intercalate]
    rw [behind, ih next]
    rfl

/-- What comes behind a group ends it. -/
theorem endsGroup_colonGroups {others : List Nat} (ends : EndsGroup rest) :
    EndsGroup (colonGroups others ++ rest) := by
  cases others with
  | nil => exact ends
  | cons group others => exact Text.halts_cons.mpr (by decide)

/-- A group is read back, and then those that follow it. -/
theorem groups_of_group {start : Bool} {text : List Char} {group : Nat}
    (opened : (if start then some text else Text.dropStart? [':'] text) =
      some (Nat.toDigits 16 group ++ rest))
    (small : group < 65536) (ends : EndsGroup rest) (room : Nat) :
    groups rule start (room + 1) text =
      { groups rule false room rest with
        groups := group :: (groups rule false room rest).groups } := by
  have noOctets : (if room = 0 then none else v4? rule (Nat.toDigits 16 group ++ rest)) = none := by
    rw [v4?_eq_none (fun _ => Text.Hex.isDigit_of_mem_toDigits) ends, ite_self]
  simp only [groups, opened, noOctets, group?_toDigits small ends]

/-- Groups that follow others are read back. -/
theorem groups_colonGroups {others : List Nat} (small : ∀ group ∈ others, group < 65536)
    (ends : EndsGroup rest) (stops : Stops rest) {room : Nat} (fits : others.length ≤ room) :
    groups rule false room (colonGroups others ++ rest) = ⟨others, false, rest⟩ := by
  induction others generalizing room with
  | nil => exact stops rule false room
  | cons group others ih =>
    obtain ⟨room, rfl⟩ : ∃ less, room = less + 1 := ⟨room - 1, by simp at fits; omega⟩
    have opened : (if false then some (colonGroups (group :: others) ++ rest) else
        Text.dropStart? [':'] (colonGroups (group :: others) ++ rest)) =
          some (Nat.toDigits 16 group ++ (colonGroups others ++ rest)) := by
      simp [colonGroups, Text.dropStart?]
    rw [groups_of_group opened (small group List.mem_cons_self) (endsGroup_colonGroups ends),
      ih (fun other member => small other (List.mem_cons_of_mem _ member)) (by simpa using fits)]

/-- Printed groups are read back. -/
theorem groups_groupText {all : List Nat} (small : ∀ group ∈ all, group < 65536)
    (ends : EndsGroup rest) (stops : Stops rest) {room : Nat} (fits : all.length ≤ room) :
    groups rule true room (groupText all ++ rest) = ⟨all, false, rest⟩ := by
  cases all with
  | nil => exact stops rule true room
  | cons group others =>
    obtain ⟨room, rfl⟩ : ∃ less, room = less + 1 := ⟨room - 1, by simp at fits; omega⟩
    have opened : (if true then some (groupText (group :: others) ++ rest) else
        Text.dropStart? [':'] (groupText (group :: others) ++ rest)) =
          some (Nat.toDigits 16 group ++ (colonGroups others ++ rest)) := by
      simp [groupText_cons]
    rw [groups_of_group opened (small group List.mem_cons_self) (endsGroup_colonGroups ends),
      groups_colonGroups (fun other member => small other (List.mem_cons_of_mem _ member)) ends
        stops (by simpa using fits)]

/-- Where no digit stands for a group to begin with, none is read. -/
theorem groups_of_no_group {start : Bool} {text : List Char}
    (none : ∀ inner, (if start then some text else Text.dropStart? [':'] text) = some inner →
      Text.Halts Text.Hex.isDigit inner ∧ Text.Halts Text.Decimal.isDigit inner) (room : Nat) :
    groups rule start room text = ⟨[], false, text⟩ := by
  cases room with
  | zero => rfl
  | succ room =>
    cases opened : (if start then some text else Text.dropStart? [':'] text) with
    | none => simp only [groups, opened]
    | some inner =>
      obtain ⟨noHex, noDecimal⟩ := none inner opened
      have noOctets : (if room = 0 then Option.none else v4? rule inner) = Option.none := by
        rw [v4?_eq_none_of_halts noDecimal, ite_self]
      simp only [groups, opened, noOctets, group?_eq_none noHex]

/-- No group follows at the end of a text. -/
theorem stops_nil : Stops [] := by
  intro rule start room
  refine groups_of_no_group (fun inner opened => ?_) room
  cases start with
  | false => exact nomatch opened
  | true =>
    cases opened
    exact ⟨Text.halts_nil, Text.halts_nil⟩

/-- No group follows in front of a slash. -/
theorem stops_slash : Stops ('/' :: rest) := by
  intro rule start room
  refine groups_of_no_group (fun inner opened => ?_) room
  cases start with
  | false => exact nomatch opened
  | true =>
    cases opened
    exact ⟨Text.halts_cons.mpr (by decide), Text.halts_cons.mpr (by decide)⟩

/-- No group follows in front of two colons. -/
theorem stops_colons : Stops (':' :: ':' :: rest) := by
  intro rule start room
  refine groups_of_no_group (fun inner opened => ?_) room
  cases start <;> cases opened <;>
    exact ⟨Text.halts_cons.mpr (by decide), Text.halts_cons.mpr (by decide)⟩

/-- The groups of a number make up the number. -/
theorem joinGroups_splitGroups {value : Nat} (small : value < 2 ^ 128) :
    joinGroups (splitGroups value) = value := by
  simp only [joinGroups, splitGroups, List.map_cons, List.map_nil, List.foldl_cons, List.foldl_nil,
    Nat.shiftRight_eq_div_pow]
  omega

/-- Every group of a number is one of sixteen bits. -/
theorem lt_of_mem_splitGroups {value group : Nat} (member : group ∈ splitGroups value) :
    group < 65536 := by
  obtain ⟨place, -, rfl⟩ := List.mem_map.mp member
  exact Nat.mod_lt _ (by decide)

/-- A sequence begins with zeros up to the length of its run. -/
theorem eq_replicate_append {all : List Nat} {count : Nat} (within : count ≤ zeroRun all) :
    all = List.replicate count 0 ++ all.drop count := by
  induction count generalizing all with
  | zero => rfl
  | succ count ih =>
    cases all with
    | nil => simp [zeroRun] at within
    | cons group others =>
      by_cases zero : group = 0
      · subst zero
        have inside : count ≤ zeroRun others := by simpa [zeroRun] using within
        rw [List.replicate_succ, List.cons_append, List.drop_succ_cons, ← ih inside]
      · simp [zeroRun, zero] at within

/-- The longest run lies inside the sequence, and consists of zeros. -/
theorem longestRun_spec (all : List Nat) :
    (longestRun all).1 + (longestRun all).2 ≤ all.length ∧
      (longestRun all).2 ≤ zeroRun (all.drop (longestRun all).1) := by
  have inside : ∀ starts : List Nat, (∀ start ∈ starts, start < all.length) →
      ∀ best : Nat × Nat, best.1 + best.2 ≤ all.length ∧ best.2 ≤ zeroRun (all.drop best.1) →
        let last := starts.foldl (fun best start =>
          let found := zeroRun (all.drop start)
          if found > best.2 then (start, found) else best) best
        last.1 + last.2 ≤ all.length ∧ last.2 ≤ zeroRun (all.drop last.1) := by
    intro starts
    induction starts with
    | nil => exact fun _ best holds => holds
    | cons start starts ih =>
      intro bounded best holds
      refine ih (fun other member => bounded other (List.mem_cons_of_mem _ member)) _ ?_
      have first := bounded start List.mem_cons_self
      have length : zeroRun (all.drop start) ≤ (all.drop start).length :=
        (List.takeWhile_prefix _).length_le
      rw [List.length_drop] at length
      dsimp only
      split
      · exact ⟨by simp only; omega, Nat.le_refl _⟩
      · exact holds
  exact inside _ (fun start member => List.mem_range.mp member) (0, 0) (by simp)

/-- The longest run is a run of zeros between the groups in front of it and those behind it. -/
theorem eq_around_longestRun {all : List Nat} {start count : Nat}
    (longest : longestRun all = (start, count)) :
    all = all.take start ++ List.replicate count 0 ++ all.drop (start + count) ∧
      start + count ≤ all.length := by
  obtain ⟨fits, zeros⟩ := longestRun_spec all
  rw [longest] at fits zeros
  have run := eq_replicate_append zeros
  rw [List.drop_drop] at run
  refine ⟨?_, fits⟩
  calc all = all.take start ++ all.drop start := (List.take_append_drop start all).symm
    _ = all.take start ++ (List.replicate count 0 ++ all.drop (start + count)) :=
      congrArg (all.take start ++ ·) run
    _ = _ := (List.append_assoc _ _ _).symm

/-- Groups in front of two colons and groups behind them are read back, with zeros in between. -/
theorem v6?_of_gap {front back : List Nat} (smallFront : ∀ group ∈ front, group < 65536)
    (smallBack : ∀ group ∈ back, group < 65536) {count : Nat} (gap : 0 < count)
    (whole : front.length + count + back.length = 8) (ends : EndsGroup rest) (stops : Stops rest) :
    v6? rule (groupText front ++ ':' :: ':' :: (groupText back ++ rest)) =
      some (joinGroups (front ++ List.replicate count 0 ++ back), rest) := by
  have head : groups rule true 8 (groupText front ++ ':' :: ':' :: (groupText back ++ rest)) =
      ⟨front, false, ':' :: ':' :: (groupText back ++ rest)⟩ :=
    groups_groupText smallFront (Text.halts_cons.mpr (by decide)) stops_colons (by omega)
  have tail : groups rule true (8 - front.length - (if rule.emptyGap then 0 else 1))
      (groupText back ++ rest) = ⟨back, false, rest⟩ :=
    groups_groupText smallBack ends stops (by split <;> omega)
  have missing : front.length ≠ 8 := by omega
  have filled : 8 - front.length - back.length = count := by omega
  simp [v6?, head, missing, Text.dropStart?, tail, filled]

/-- Four octets are read as two groups behind a group. -/
theorem groups_octetText {value : Nat} (small : value < 2 ^ 32)
    (halts : Text.Halts Text.Decimal.isDigit rest) (room : Nat) :
    groups rule false (room + 2) (':' :: (octetText value ++ rest)) =
      ⟨[value / 65536, value % 65536], true, rest⟩ := by
  simp [groups, Text.dropStart?, v4?_octetText small halts]

/-- The number of an address that embeds one of 32 bits is read back. -/
theorem v6?_of_embedded {value : Nat} (embedded : value >>> 32 = 0xffff) (ends : EndsGroup rest) :
    v6? rule (':' :: ':' :: (Nat.toDigits 16 0xffff ++
      ':' :: (octetText (value % 0x100000000) ++ rest))) = some (value, rest) := by
  have low : value % 0x100000000 < 2 ^ 32 := Nat.mod_lt _ (by decide)
  have head : groups rule true 8 (':' :: ':' :: (Nat.toDigits 16 0xffff ++
      ':' :: (octetText (value % 0x100000000) ++ rest))) = ⟨[], false, _⟩ :=
    stops_colons rule true 8
  obtain ⟨room, fits⟩ : ∃ room, 8 - 0 - (if rule.emptyGap then 0 else 1) = room + 2 + 1 := by
    cases rule.emptyGap
    · exact ⟨4, rfl⟩
    · exact ⟨5, rfl⟩
  have tail : groups rule true (room + 2 + 1) (Nat.toDigits 16 0xffff ++
      ':' :: (octetText (value % 0x100000000) ++ rest)) =
        ⟨[0xffff, value % 0x100000000 / 65536, value % 0x100000000 % 65536], true, rest⟩ := by
    rw [groups_of_group rfl (by decide) (Text.halts_cons.mpr (by decide)),
      groups_octetText low ends.halts_decimal]
  have joined : joinGroups ([] ++ List.replicate 5 0 ++
      [0xffff, value % 0x100000000 / 65536, value % 0x100000000 % 65536]) = value := by
    rw [Nat.shiftRight_eq_div_pow] at embedded
    simp only [joinGroups, List.nil_append, List.replicate, List.cons_append, List.foldl_cons,
      List.foldl_nil]
    omega
  have read : v6? rule (':' :: ':' :: (Nat.toDigits 16 0xffff ++
      ':' :: (octetText (value % 0x100000000) ++ rest))) =
        (let tail := groups rule true (8 - 0 - (if rule.emptyGap then 0 else 1))
          (Nat.toDigits 16 0xffff ++ ':' :: (octetText (value % 0x100000000) ++ rest))
        some (joinGroups ([] ++ List.replicate (8 - 0 - tail.groups.length) 0 ++ tail.groups),
          tail.rest)) := by
    rw [v6?, head]
    rfl
  rw [read, fits, tail]
  exact congrArg (fun number => some (number, rest)) joined

/-- Eight groups are read back, whether or not the longest run is left out. -/
theorem v6?_of_groups {all : List Nat} (eight : all.length = 8)
    (small : ∀ group ∈ all, group < 65536) (ends : EndsGroup rest) (stops : Stops rest)
    {start count : Nat} (longest : longestRun all = (start, count)) :
    v6? rule ((if count > 1 then
      groupText (all.take start) ++ [':', ':'] ++ groupText (all.drop (start + count))
      else groupText all) ++ rest) = some (joinGroups all, rest) := by
  split
  · next several =>
    obtain ⟨around, fits⟩ := eq_around_longestRun longest
    have front : ∀ group ∈ all.take start, group < 65536 :=
      fun group member => small group (List.mem_of_mem_take member)
    have back : ∀ group ∈ all.drop (start + count), group < 65536 :=
      fun group member => small group (List.mem_of_mem_drop member)
    have whole : (all.take start).length + count + (all.drop (start + count)).length = 8 := by
      rw [List.length_take, List.length_drop]
      omega
    have read : v6? rule _ = _ := v6?_of_gap front back (by omega) whole ends stops
    rw [← around] at read
    simpa using read
  · have head : groups rule true 8 (groupText all ++ rest) = ⟨all, false, rest⟩ :=
      groups_groupText small ends stops (Nat.le_of_eq eight)
    simp [v6?, head, eight]

/-- The number of an address of 128 bits is read back. -/
theorem v6?_v6Text {value : Nat} (small : value < 2 ^ 128) (ends : EndsGroup rest)
    (stops : Stops rest) : v6? rule (v6Text value ++ rest) = some (value, rest) := by
  unfold v6Text
  split
  · next embedded =>
    have marked : "::ffff:".toList = ':' :: ':' :: (Nat.toDigits 16 0xffff ++ [':']) := by decide
    rw [marked]
    simpa using v6?_of_embedded embedded ends
  · have eight : (splitGroups value).length = 8 := rfl
    have read : v6? rule _ = _ :=
      v6?_of_groups eight (fun _ => lt_of_mem_splitGroups) ends stops rfl
    rw [joinGroups_splitGroups small] at read
    exact read

/-- Printed groups do not begin with four octets. -/
theorem v4?_groupText (all : List Nat) (ends : EndsGroup rest) :
    v4? rule (groupText all ++ rest) = none := by
  cases all with
  | nil => exact v4?_eq_none_of_halts ends.halts_decimal
  | cons group others =>
    rw [groupText_cons, List.append_assoc]
    exact v4?_eq_none (fun _ => Text.Hex.isDigit_of_mem_toDigits) (endsGroup_colonGroups ends)

/-- The text of an address of 128 bits does not begin with four octets. -/
theorem v4?_v6Text (value : Nat) (ends : EndsGroup rest) :
    v4? rule (v6Text value ++ rest) = none := by
  unfold v6Text
  split
  · exact v4?_eq_none_of_halts (Text.halts_cons.mpr (by decide))
  · dsimp only
    split
    · rw [List.append_assoc, List.append_assoc]
      exact v4?_groupText _ (Text.halts_cons.mpr (by decide))
    · exact v4?_groupText _ ends

end AddressText

open AddressText

/-- An address is read back from the front of a text. -/
theorem AddressText.either?_chars (rule : Strictness) (address : Address) {rest : List Char}
    (ends : EndsGroup rest) (stops : Stops rest) :
    either? rule (address.chars ++ rest) = some (address, rest) := by
  obtain ⟨family, value, small⟩ := address
  cases family with
  | v4 =>
    have read : v4? rule (octetText value ++ rest) = some (value, rest) :=
      v4?_octetText small ends.halts_decimal
    simp [either?, Address.chars, read, Address.ofNat?, small]
  | v6 =>
    have read : v6? rule (v6Text value ++ rest) = some (value, rest) := v6?_v6Text small ends stops
    simp [either?, Address.chars, v4?_v6Text value ends, read, Address.ofNat?, small]

/-- An address is read back from its text. -/
theorem Address.parse?_chars (address : Address) : Address.parse? address.chars = some address := by
  have read := either?_chars .address address Text.halts_nil stops_nil
  rw [List.append_nil] at read
  simp [Address.parse?, read]

/-- The length of a block is read back. -/
theorem Block.length?_digits {family : Family} {length : Nat} (fits : length ≤ family.width) :
    Block.length? family (Text.Decimal.digits length) = some length := by
  have filled := Text.Decimal.digits_ne_nil length
  have digits : (Text.Decimal.digits length).all Text.Decimal.isDigit = true :=
    List.all_eq_true.mpr fun _ => Text.Decimal.isDigit_of_mem_digits
  cases family with
  | v4 =>
    have short : (Text.Decimal.digits length).length ≤ 2 :=
      Text.Decimal.length_digits_le (by decide) (Nat.lt_of_le_of_lt fits (by decide))
    simp [Block.length?, filled, digits, Nat.not_lt.mpr short]
  | v6 =>
    have short : (Text.Decimal.digits length).length ≤ 3 :=
      Text.Decimal.length_digits_le (by decide) (Nat.lt_of_le_of_lt fits (by decide))
    simp [Block.length?, filled, digits, Nat.not_lt.mpr short]

/-- A block is read back from its text. -/
theorem Block.parse?_text (block : Block) : Block.parse? block.text.toList = some block := by
  obtain ⟨address, length, fits⟩ := block
  have ends : EndsGroup ('/' :: Text.Decimal.digits length) := Text.halts_cons.mpr (by decide)
  have read := either?_chars .block address ends stops_slash
  simp [Block.parse?, Block.text, read, Text.dropStart?, Block.length?_digits fits, fits]

end Leasehold
