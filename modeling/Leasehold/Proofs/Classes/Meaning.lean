import Mathlib.Data.List.Induction
import Mathlib.Data.List.Sort
import Leasehold.Proofs.Classes.Definitions
import Leasehold.Proofs.Classes.Membership

/-!
# What definitions of client classes mean

The definitions of classes say which classes a client belongs to without an order of evaluation: to
those that are assigned at first, and to those whose tests hold for a client that belongs to just
these classes. A test that asks about its own class is told whether that class is assigned at first.
Resolving the classes along any order of their dependencies yields what the definitions mean
(`ClassTable.IsReadFrom.isMeaning_resolve`), since a test is evaluated when the classes that it asks
about are final (`ClassTable.IsReadFrom.contains_membersAfter`). Accepted definitions mean one set
of classes only (`ClassTable.IsReadFrom.eq_of_isMeaning`), so that the order in which they are
written does not matter (`ClassTable.resolve_perm`).
-/
namespace Leasehold

namespace ClassSet

/-- The set of the given names contains these. -/
theorem contains_ofList (names : List String) (name : String) :
    (ofList names).contains name = true ↔ name ∈ names := by
  suffices added : ∀ set : ClassSet,
      (names.foldl insert set).contains name = true ↔ set.contains name = true ∨ name ∈ names by
    have start : empty.contains name = false := rfl
    rw [ofList, added, start]
    simp
  induction names with
  | nil => simp
  | cons first rest ih =>
    intro set
    rw [List.foldl_cons, ih, contains_insert, Bool.or_eq_true, beq_iff_eq, List.mem_cons,
      or_comm (a := name = first), or_assoc]

/-- Sets that contain the same names are equal. -/
theorem ext_contains {left right : ClassSet}
    (same : ∀ name, left.contains name = right.contains name) : left = right := by
  obtain ⟨names, ascending⟩ := left
  obtain ⟨others, ascendingOthers⟩ := right
  have members (name : String) : name ∈ names ↔ name ∈ others := by
    have agree := Bool.eq_iff_iff.mp (same name)
    simpa only [contains, List.contains_iff_mem] using agree
  obtain rfl := List.Pairwise.eq_of_mem_iff ascending ascendingOthers members
  rfl

end ClassSet

/-- The class is assigned before any test is evaluated. -/
def ClassFacts.Assigns (facts : ClassFacts) (name : String) : Prop :=
  name = allClass ∨ (name = knownClass ∧ facts.known = some true) ∨
    (name = unknownClass ∧ facts.known = some false) ∨ name ∈ facts.reserved

/-- The classes that are there at first are those that are assigned. -/
theorem ClassFacts.contains_initial (facts : ClassFacts) (name : String) :
    facts.initial.contains name = true ↔ facts.Assigns name := by
  unfold initial Assigns
  rw [ClassSet.contains_ofList]
  cases known : facts.known with
  | none => simp
  | some present => cases present <;> simp

/-- What the test of a class sees of a client that belongs to the given classes. Its own class it
sees as assigned at first or not. -/
def ClassFacts.seenBy (facts : ClassFacts) (name : String) (members : ClassSet) : ClientFacts :=
  { facts.seen members with
    isMember := fun asked =>
      if asked = name then facts.initial.contains asked else members.contains asked }

/-- The test is that of a definition with the name. -/
def Config.Tests (entries : List Config.ClientClass) (name : String) (test : Expr) : Prop :=
  ∃ entry ∈ entries, entry.name = name ∧
    ∃ text, entry.test = some text ∧ Expr.parse text = .ok test

/-- The client belongs to the classes that are assigned at first, and to those whose tests hold for
a client that belongs to these classes. -/
def Config.IsMeaning (entries : List Config.ClientClass) (facts : ClassFacts)
    (members : ClassSet) : Prop :=
  ∀ name, members.contains name = true ↔
    facts.Assigns name ∨
      ∃ test, Config.Tests entries name test ∧ test.holds (facts.seenBy name members) = true

/-- Rearranged definitions have the same meaning. -/
theorem Config.IsMeaning.perm {entries others : List Config.ClientClass} {facts : ClassFacts}
    {members : ClassSet} (meaning : Config.IsMeaning entries facts members)
    (perm : entries.Perm others) : Config.IsMeaning others facts members := by
  intro name
  have tests (test : Expr) : Config.Tests others name test ↔ Config.Tests entries name test := by
    unfold Config.Tests
    simp only [perm.mem_iff]
  simp only [tests]
  exact meaning name

namespace ClassTable

variable {table : ClassTable} {entries others : List Config.ClientClass} {facts : ClassFacts}

/-- The classes of a client once the tests of the given ones have been evaluated. -/
def membersAfter (table : ClassTable) (facts : ClassFacts) (names : List String) : ClassSet :=
  names.foldl (table.extend facts) facts.initial

/-- Evaluating the test of one class adds that class if the test holds. -/
theorem contains_extend (members : ClassSet) (name other : String) :
    (table.extend facts members name).contains other = true ↔
      members.contains other = true ∨
        other = name ∧ ∃ test, (table.find? name).bind (·.test) = some test ∧
          test.holds (facts.seen members) = true := by
  unfold extend
  cases (table.find? name).bind (·.test) with
  | none => simp
  | some test =>
    dsimp only
    split
    · next holds => simp [ClassSet.contains_insert, holds, or_comm]
    · next fails => simp [fails]

/-- Evaluating tests keeps the membership in every class that is not evaluated. -/
theorem contains_foldl_extend {names : List String} {other : String} (absent : other ∉ names)
    (members : ClassSet) :
    (names.foldl (table.extend facts) members).contains other = members.contains other := by
  induction names generalizing members with
  | nil => rfl
  | cons name rest ih =>
    obtain ⟨different, absent⟩ := not_or.mp (mt List.mem_cons.mpr absent)
    rw [List.foldl_cons, ih absent, Bool.eq_iff_iff, contains_extend]
    simp [different]

/-- A membership is final before the tests of other classes are evaluated. -/
theorem contains_membersAfter_of_not_mem {before after : List String}
    (split : table.order = before ++ after) {other : String} (absent : other ∉ after) :
    (table.membersAfter facts before).contains other = (table.resolve facts).contains other := by
  unfold resolve
  rw [split, List.foldl_append, contains_foldl_extend absent]
  rfl

/-- A class is still there or not as at first when its own test is evaluated. -/
theorem contains_membersAfter_self (facts : ClassFacts) {before after : List String} {name : String}
    (split : table.order = before ++ name :: after) (once : table.order.Nodup) :
    (table.membersAfter facts before).contains name = facts.initial.contains name := by
  rw [split, List.nodup_middle, List.nodup_cons, List.mem_append, not_or] at once
  exact contains_foldl_extend once.1.1 _

/-- A class that is evaluated once is found at first, or by its test at its place in the order. -/
theorem contains_resolve_iff {before after : List String} {name : String}
    (split : table.order = before ++ name :: after) (once : table.order.Nodup) :
    (table.resolve facts).contains name = true ↔
      facts.initial.contains name = true ∨
        ∃ test, (table.find? name).bind (·.test) = some test ∧
          test.holds (facts.seen (table.membersAfter facts before)) = true := by
  have start := contains_membersAfter_self facts split once
  have resolved : table.resolve facts =
      after.foldl (table.extend facts)
        (table.extend facts (table.membersAfter facts before) name) := by
    unfold resolve membersAfter
    rw [split, List.foldl_append, List.foldl_cons]
  rw [split, List.nodup_middle, List.nodup_cons, List.mem_append, not_or] at once
  rw [resolved, contains_foldl_extend once.1.2, contains_extend, start]
  exact or_congr_right (and_iff_right rfl)

namespace IsReadFrom

/-- The tests of the definitions are those of the classes in the table. -/
theorem tests_iff (read : table.IsReadFrom entries) {name : String} {test : Expr} :
    Config.Tests entries name test ↔
      ∃ definition ∈ table.classes, definition.name = name ∧ definition.test = some test := by
  constructor
  · rintro ⟨entry, written, rfl, tested⟩
    obtain ⟨definition, member, reads⟩ := read.exists_class written
    exact ⟨definition, member, reads.name, (reads.test_eq_some_iff test).mpr tested⟩
  · rintro ⟨definition, member, rfl, tested⟩
    obtain ⟨entry, written, reads⟩ := read.exists_entry member
    exact ⟨entry, written, reads.name.symm, (reads.test_eq_some_iff test).mp tested⟩

/-- The test that is evaluated for a name is that of the definition with the name. -/
theorem test_iff (read : table.IsReadFrom entries) {name : String} {test : Expr} :
    (table.find? name).bind (·.test) = some test ↔ Config.Tests entries name test := by
  rw [read.tests_iff, Option.bind_eq_some_iff]
  constructor
  · rintro ⟨definition, found, tested⟩
    have named := List.find?_some found
    exact ⟨definition, List.mem_of_find?_eq_some found, beq_iff_eq.mp named, tested⟩
  · rintro ⟨definition, member, rfl, tested⟩
    exact ⟨definition, read.find?_eq_some member, tested⟩

/-- No class is evaluated twice. -/
theorem nodup_order (read : table.IsReadFrom entries) : table.order.Nodup :=
  read.ordered.nodup

/-- The classes with a test are evaluated. -/
theorem mem_order_of_tests (read : table.IsReadFrom entries) {name : String} {test : Expr}
    (tests : Config.Tests entries name test) : name ∈ table.order := by
  obtain ⟨definition, member, rfl, -⟩ := read.tests_iff.mp tests
  exact read.order_perm.mem_iff.mpr (List.mem_map_of_mem member)

/-- The classes are evaluated in an order of the names of their definitions. -/
theorem order_perm_names (read : table.IsReadFrom entries) :
    table.order.Perm (entries.map Config.ClientClass.name) := by
  refine read.order_perm.trans (.of_eq ?_)
  have names : List.Forall₂ Eq (entries.map Config.ClientClass.name)
      (table.classes.map ClientClass.name) :=
    List.forall₂_map_left_iff.mpr
      (List.forall₂_map_right_iff.mpr (read.reads.imp fun _ _ reads => reads.name.symm))
  exact (List.forall₂_eq_eq_eq ▸ names).symm

/-- What a test asks about is evaluated before it, or not at all, or is its own class. -/
theorem mentions_before (read : table.IsReadFrom entries) {name asked : String} {test : Expr}
    (tests : Config.Tests entries name test) {before after : List String}
    (split : table.order = before ++ name :: after) (mentioned : asked ∈ test.mentions)
    (other : asked ≠ name) : asked ∈ before ∨ asked ∉ table.order := by
  obtain ⟨definition, member, rfl, tested⟩ := read.tests_iff.mp tests
  exact read.evaluated_before member tested split mentioned other

/-- When a test is evaluated, the memberships that it asks about are final. That in its own class is
still the one that is assigned at first. -/
theorem contains_membersAfter (read : table.IsReadFrom entries) {name asked : String} {test : Expr}
    (tests : Config.Tests entries name test) {before after : List String}
    (split : table.order = before ++ name :: after) (mentioned : asked ∈ test.mentions) :
    (table.membersAfter facts before).contains asked =
      (facts.seenBy name (table.resolve facts)).isMember asked := by
  unfold ClassFacts.seenBy
  dsimp only
  split
  · next own =>
    rw [own]
    exact contains_membersAfter_self facts split read.nodup_order
  · next other =>
    have once := read.nodup_order
    rw [split, List.nodup_append] at once
    refine contains_membersAfter_of_not_mem split fun late => ?_
    rcases read.mentions_before tests split mentioned other with early | absent
    · exact once.2.2 _ early _ late rfl
    · exact absent (split ▸ List.mem_append_right before late)

/-- A test has the value that it has for the final memberships when it is evaluated. -/
theorem holds_membersAfter (read : table.IsReadFrom entries) {name : String} {test : Expr}
    (tests : Config.Tests entries name test) {before after : List String}
    (split : table.order = before ++ name :: after) :
    test.holds (facts.seen (table.membersAfter facts before)) =
      test.holds (facts.seenBy name (table.resolve facts)) :=
  Expr.holds_congr _ fun _ mentioned => read.contains_membersAfter tests split mentioned

/-- Resolving the classes yields what their definitions mean. -/
theorem isMeaning_resolve (read : table.IsReadFrom entries) :
    Config.IsMeaning entries facts (table.resolve facts) := by
  intro name
  rw [← facts.contains_initial]
  by_cases evaluated : name ∈ table.order
  · obtain ⟨before, after, split⟩ := List.append_of_mem evaluated
    rw [contains_resolve_iff split read.nodup_order]
    refine or_congr_right (exists_congr fun test => ?_)
    rw [read.test_iff]
    exact and_congr_right fun tests => by rw [read.holds_membersAfter tests split]
  · have kept : (table.resolve facts).contains name = facts.initial.contains name :=
      contains_foldl_extend evaluated _
    rw [kept]
    refine ⟨.inl, fun assigned => assigned.resolve_right ?_⟩
    rintro ⟨test, tests, -⟩
    exact evaluated (read.mem_order_of_tests tests)

/-- What the definitions mean for a class depends on what they mean for the classes that its test
asks about. -/
theorem contains_congr {left right : ClassSet} (first : Config.IsMeaning entries facts left)
    (second : Config.IsMeaning entries facts right) {name : String}
    (agree : ∀ test, Config.Tests entries name test → ∀ asked ∈ test.mentions, asked ≠ name →
      left.contains asked = right.contains asked) :
    left.contains name = right.contains name := by
  rw [Bool.eq_iff_iff, first name, second name]
  refine or_congr_right (exists_congr fun test => and_congr_right fun tests => ?_)
  have value : test.holds (facts.seenBy name left) = test.holds (facts.seenBy name right) := by
    refine Expr.holds_congr (facts.seenBy name left) fun asked mentioned => ?_
    unfold ClassFacts.seenBy
    dsimp only
    split
    · rfl
    · next other => exact agree test tests asked mentioned other
  rw [value]

/-- Accepted definitions mean one set of classes only. -/
theorem eq_of_isMeaning (read : table.IsReadFrom entries) {left right : ClassSet}
    (first : Config.IsMeaning entries facts left) (second : Config.IsMeaning entries facts right) :
    left = right := by
  have outside (name : String) (absent : name ∉ table.order) :
      left.contains name = right.contains name :=
    contains_congr first second fun _ tests => absurd (read.mem_order_of_tests tests) absent
  -- Along the order of evaluation, a test asks about classes before it, or about such as have none.
  have along (before after : List String) (split : table.order = before ++ after) :
      ∀ name ∈ before, left.contains name = right.contains name := by
    induction before using List.reverseRecOn generalizing after with
    | nil => exact fun name member => absurd member List.not_mem_nil
    | append_singleton before last ih =>
      rw [List.append_assoc, List.singleton_append] at split
      have earlier := ih (last :: after) split
      intro name member
      rcases List.mem_append.mp member with inside | only
      · exact earlier name inside
      · obtain rfl := List.mem_singleton.mp only
        refine contains_congr first second fun test tests asked mentioned other => ?_
        rcases read.mentions_before tests split mentioned other with early | absent
        · exact earlier asked early
        · exact outside asked absent
  refine ClassSet.ext_contains fun name => ?_
  by_cases evaluated : name ∈ table.order
  · exact along table.order [] (List.append_nil _).symm name evaluated
  · exact outside name evaluated

end IsReadFrom

/-- Resolving the classes of accepted definitions yields what these mean for the client, and they
mean nothing else. All tests are evaluated, each once, and one that does not ask about its own class
has the value that it has for the classes in the end. When a test is evaluated, the memberships in
the other classes that it asks about, whether negated or not, are final, and that in its own class
is the one at first. -/
theorem resolve_meaning (accepted : ofConfig entries = .ok table) (facts : ClassFacts) :
    Config.IsMeaning entries facts (table.resolve facts) ∧
      (∀ members, Config.IsMeaning entries facts members → members = table.resolve facts) ∧
      table.order.Perm (entries.map Config.ClientClass.name) ∧
      ∀ name test, Config.Tests entries name test →
        (name ∉ test.mentions →
          test.holds (facts.seenBy name (table.resolve facts)) =
            test.holds (facts.seen (table.resolve facts))) ∧
        ∀ before after, table.order = before ++ name :: after →
          test.holds (facts.seen (table.membersAfter facts before)) =
            test.holds (facts.seenBy name (table.resolve facts)) ∧
          (table.membersAfter facts before).contains name = facts.initial.contains name ∧
          ∀ asked ∈ test.mentions, asked ≠ name →
            (table.membersAfter facts before).contains asked =
              (table.resolve facts).contains asked := by
  have read := isReadFrom_of_ofConfig accepted
  refine ⟨read.isMeaning_resolve, fun members meaning => ?_, read.order_perm_names,
    fun name test tests => ⟨fun foreign => ?_, fun before after split => ⟨?_, ?_, ?_⟩⟩⟩
  · exact read.eq_of_isMeaning meaning read.isMeaning_resolve
  · refine Expr.holds_congr (facts.seenBy name (table.resolve facts)) fun asked mentioned => ?_
    refine if_neg fun own => foreign ?_
    rwa [own] at mentioned
  · exact read.holds_membersAfter tests split
  · exact contains_membersAfter_self facts split read.nodup_order
  · intro asked mentioned other
    rw [read.contains_membersAfter tests split mentioned]
    exact if_neg other

namespace Sample

/-- A class without a test. -/
def near : Config.ClientClass := ⟨"near", none⟩

/-- The class of the clients that do not belong to the first one. -/
def away : Config.ClientClass := ⟨"away", some "not member('near')"⟩

/-- What the two definitions are read as. -/
def nearAndAway : ClassTable :=
  ⟨[⟨"near", none⟩, ⟨"away", some (.not (.member "near"))⟩], ["near", "away"]⟩

/-- What the two definitions are read as, with the denial before what it denies. -/
def awayAndNear : ClassTable :=
  ⟨[⟨"away", some (.not (.member "near"))⟩, ⟨"near", none⟩], ["near", "away"]⟩

/-- The definitions are accepted in either order. -/
theorem ofConfig_near_away :
    ofConfig [near, away] = .ok nearAndAway ∧ ofConfig [away, near] = .ok awayAndNear := by
  decide +kernel

/-- A class whose test denies that class itself. -/
def solo : Config.ClientClass := ⟨"solo", some "not member('solo')"⟩

/-- A client that presents nothing. -/
def stranger : ClassFacts := .unreserved ⟨none, none, none, none⟩ none

end Sample

/-- The condition can be met: a class may be defined before the one that its test denies, and the
classes of a client are what the definitions mean. -/
theorem resolve_meaning_of_denial :
    ofConfig [Sample.away, Sample.near] = .ok Sample.awayAndNear ∧
      Config.IsMeaning [Sample.away, Sample.near] Sample.stranger
        (Sample.awayAndNear.resolve Sample.stranger) :=
  have accepted := Sample.ofConfig_near_away.2
  ⟨accepted, (resolve_meaning accepted Sample.stranger).1⟩

/-- A test that asks about its own class does not see the final membership in it: a class whose test
denies that class is accepted, and the client belongs to it although the test fails for the classes
of the client. -/
theorem own_membership_unseen :
    ¬ ∀ (entries : List Config.ClientClass) (table : ClassTable) (facts : ClassFacts),
      ofConfig entries = .ok table → ∀ name,
        (table.resolve facts).contains name = true ↔
          facts.Assigns name ∨ ∃ test, Config.Tests entries name test ∧
            test.holds (facts.seen (table.resolve facts)) = true := by
  intro hold
  have accepted : ofConfig [Sample.solo] =
      .ok ⟨[⟨"solo", some (.not (.member "solo"))⟩], ["solo"]⟩ := by decide +kernel
  have parsed : Expr.parse "not member('solo')" = .ok (.not (.member "solo")) := by decide +kernel
  have meant := hold [Sample.solo] _ Sample.stranger accepted "solo"
  rcases meant.mp (by decide +kernel) with assigned | ⟨test, ⟨entry, written, -, text, tested, read⟩,
    holds⟩
  · exact absurd ((Sample.stranger.contains_initial "solo").mpr assigned) (by decide +kernel)
  · obtain rfl := List.mem_singleton.mp written
    cases tested
    obtain rfl : Expr.not (.member "solo") = test := Except.ok.inj (parsed.symm.trans read)
    exact absurd holds (by decide +kernel)

/-- The order in which classes are defined does not matter: rearranged definitions are accepted when
the given ones are, and every client belongs to the same classes. -/
theorem resolve_perm (perm : entries.Perm others) :
    ((∃ table, ofConfig entries = .ok table) ↔ ∃ other, ofConfig others = .ok other) ∧
      ∀ table other, ofConfig entries = .ok table → ofConfig others = .ok other →
        ∀ facts, table.resolve facts = other.resolve facts := by
  have accepts {first second : List Config.ClientClass} (same : first.Perm second)
      (accepted : ∃ table, ofConfig first = .ok table) :
      ∃ other, ofConfig second = .ok other := by
    obtain ⟨table, accepted⟩ := accepted
    obtain ⟨other, read⟩ := (isReadFrom_of_ofConfig accepted).exists_of_perm same
    exact exists_ofConfig_of_isReadFrom read
  refine ⟨⟨accepts perm, accepts perm.symm⟩, fun table other accepted acceptedOther facts => ?_⟩
  have read := isReadFrom_of_ofConfig accepted
  have readOther := isReadFrom_of_ofConfig acceptedOther
  exact readOther.eq_of_isMeaning (read.isMeaning_resolve.perm perm) readOther.isMeaning_resolve

/-- The condition can be met: whether a class is defined before or after the one that its test
denies, every client belongs to the same classes. -/
theorem resolve_perm_of_denial :
    [Sample.near, Sample.away].Perm [Sample.away, Sample.near] ∧
      ∀ facts, Sample.nearAndAway.resolve facts = Sample.awayAndNear.resolve facts := by
  have perm : [Sample.near, Sample.away].Perm [Sample.away, Sample.near] := .swap _ _ _
  obtain ⟨first, second⟩ := Sample.ofConfig_near_away
  exact ⟨perm, (resolve_perm perm).2 _ _ first second⟩

end ClassTable

end Leasehold
