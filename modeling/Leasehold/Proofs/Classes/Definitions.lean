import Mathlib.Data.List.Perm.Basic
import Leasehold.ClientClass
import Leasehold.Proofs.DependencyOrder.Sorting

/-!
# Accepted definitions of client classes

Definitions are accepted when none takes the name of a built-in class, no two have one name, every
test can be read, and the classes that a test asks about are defined and can be evaluated before it
(`isReadFrom_of_ofConfig`, `exists_ofConfig_of_isReadFrom`). None of this depends on the order in
which they are written, so that rearranged definitions are accepted as well
(`IsReadFrom.exists_of_perm`).
-/
namespace Leasehold

/-- Where items are related one by one, each item of the first list is related to one of the second.
-/
theorem exists_mem_of_forall₂ {α β : Type} {relation : α → β → Prop} {items : List α}
    {others : List β} (related : List.Forall₂ relation items others) {item : α}
    (member : item ∈ items) : ∃ other ∈ others, relation item other := by
  induction related with
  | nil => exact absurd member List.not_mem_nil
  | @cons _ other _ _ first _ ih =>
    rcases List.mem_cons.mp member with rfl | later
    · exact ⟨other, List.mem_cons_self, first⟩
    · obtain ⟨found, inside, holds⟩ := ih later
      exact ⟨found, List.mem_cons_of_mem other inside, holds⟩

/-- The definition is read as the class. -/
structure Config.ClientClass.Reads (entry : Config.ClientClass)
    (definition : Leasehold.ClientClass) : Prop where
  /-- The name is not that of a built-in class. -/
  custom : isBuiltinClass entry.name = false
  /-- The class has the name. -/
  name : definition.name = entry.name
  /-- The test is what its text is read as. -/
  test : entry.test.mapM Expr.parse = .ok definition.test

/-- What a definition is read as has a test when the definition does, and it is the test that the
text is read as. -/
theorem Config.ClientClass.Reads.test_eq_some_iff {entry : Config.ClientClass}
    {definition : Leasehold.ClientClass} (reads : entry.Reads definition) (test : Expr) :
    definition.test = some test ↔
      ∃ text, entry.test = some text ∧ Expr.parse text = .ok test := by
  have read := reads.test
  cases written : entry.test with
  | none =>
    rw [written] at read
    obtain untested : none = definition.test := Except.ok.inj read
    simp [← untested]
  | some text =>
    rw [written, Option.mapM_some] at read
    cases parsed : Expr.parse text with
    | error error =>
      rw [parsed] at read
      exact nomatch read
    | ok found =>
      rw [parsed] at read
      obtain tested : some found = definition.test := Except.ok.inj read
      simp [← tested, parsed]

namespace ClassTable

/-- One definition is read when it is not built in and can be read, and no class has its name yet. -/
theorem readOne_eq_ok_iff {sofar : List ClientClass} {entry : Config.ClientClass}
    {definition : ClientClass} :
    readOne sofar entry = .ok definition ↔
      entry.Reads definition ∧ definition.name ∉ sofar.map ClientClass.name := by
  constructor
  · intro read
    unfold readOne at read
    split at read
    · exact nomatch read
    · next custom =>
      split at read
      · exact nomatch read
      · next fresh =>
        split at read
        · exact nomatch read
        · next test parsed =>
          cases read
          refine ⟨⟨Bool.eq_false_iff.mpr custom, rfl, parsed⟩, fun present => fresh ?_⟩
          obtain ⟨other, member, same⟩ := List.mem_map.mp present
          exact List.any_eq_true.mpr ⟨other, member, beq_iff_eq.mpr same⟩
  · rintro ⟨⟨custom, name, parsed⟩, fresh⟩
    have unused : sofar.any (·.name == entry.name) = false := by
      rw [name] at fresh
      simpa using fresh
    unfold readOne
    rw [custom, unused, parsed, ← name]
    rfl

/-- Definitions are read one after another, and their names are different. -/
theorem readAll_eq_ok_iff {sofar classes : List ClientClass} {entries : List Config.ClientClass}
    (distinct : (sofar.map ClientClass.name).Nodup) :
    readAll sofar entries = .ok classes ↔
      (classes.map ClientClass.name).Nodup ∧
        ∃ read, List.Forall₂ Config.ClientClass.Reads entries read ∧ classes = sofar ++ read := by
  induction entries generalizing sofar with
  | nil =>
    constructor
    · intro read
      cases read
      exact ⟨distinct, [], .nil, (List.append_nil _).symm⟩
    · rintro ⟨-, read, reads, rfl⟩
      cases reads
      rw [List.append_nil]
      rfl
  | cons entry rest ih =>
    have longer (definition : ClientClass) (fresh : definition.name ∉ sofar.map ClientClass.name) :
        ((sofar ++ [definition]).map ClientClass.name).Nodup := by
      rw [List.map_append]
      refine List.nodup_append.mpr ⟨distinct, List.nodup_singleton _, ?_⟩
      rintro name earlier last only rfl
      rw [List.mem_singleton.mp only] at earlier
      exact fresh earlier
    constructor
    · intro read
      unfold readAll at read
      split at read
      · exact nomatch read
      · next definition readFirst =>
        obtain ⟨reads, fresh⟩ := readOne_eq_ok_iff.mp readFirst
        obtain ⟨once, others, readOthers, rfl⟩ := (ih (longer definition fresh)).mp read
        exact ⟨once, definition :: others, .cons reads readOthers, by simp⟩
    · rintro ⟨once, read, reads, rfl⟩
      cases reads with
      | @cons _ definition _ others readFirst readOthers =>
        have fresh : definition.name ∉ sofar.map ClientClass.name := by
          intro present
          rw [List.map_append] at once
          exact (List.nodup_append.mp once).2.2 _ present _ List.mem_cons_self rfl
        unfold readAll
        rw [readOne_eq_ok_iff.mpr ⟨readFirst, fresh⟩]
        refine (ih (longer definition fresh)).mpr ⟨once, others, readOthers, ?_⟩
        simp

/-- From the start, definitions are read one after another, and their names are different. -/
theorem readAll_nil_eq_ok_iff {classes : List ClientClass} {entries : List Config.ClientClass} :
    readAll [] entries = .ok classes ↔
      (classes.map ClientClass.name).Nodup ∧ List.Forall₂ Config.ClientClass.Reads entries classes := by
  have distinct : (([] : List ClientClass).map ClientClass.name).Nodup := List.nodup_nil
  rw [readAll_eq_ok_iff distinct]
  simp

/-- No test asks about an undefined class when every class that one asks about is defined. -/
theorem undefined?_eq_none_iff {classes : List ClientClass} :
    undefined? classes = none ↔
      ∀ definition ∈ classes, ∀ asked ∈ definition.dependencies,
        asked ∈ classes.map ClientClass.name := by
  unfold undefined?
  simp

/-- Distinct classes wait for the other classes that their tests ask about. -/
theorem entries_dependencyMap {classes : List ClientClass}
    (distinct : (classes.map ClientClass.name).Nodup) :
    (dependencyMap classes).entries =
      classes.map fun definition =>
        (definition.name, definition.dependencies.filter (· ≠ definition.name)) := by
  suffices added : ∀ map : DependencyMap String,
      (∀ definition ∈ classes, definition.name ∉ map.keys) →
      (classes.foldl (fun map definition => map.add definition.name definition.dependencies)
        map).entries = map.entries ++ classes.map fun definition =>
          (definition.name, definition.dependencies.filter (· ≠ definition.name)) from
    added .empty fun definition _ => List.not_mem_nil
  induction classes with
  | nil => simp
  | cons first rest ih =>
    obtain ⟨different, distinct⟩ := List.nodup_cons.mp distinct
    intro map fresh
    have new : first.name ∉ map.keys := fresh first List.mem_cons_self
    have entries : (map.add first.name first.dependencies).entries =
        map.entries ++ [(first.name, first.dependencies.filter (· ≠ first.name))] := by
      unfold DependencyMap.add
      rw [dif_neg new]
    rw [List.foldl_cons, ih distinct _ fun definition later => ?_, entries, List.map_cons,
      List.append_assoc, List.singleton_append]
    rw [DependencyMap.keys_add, if_neg new, List.mem_append, not_or]
    refine ⟨fresh definition (List.mem_cons_of_mem first later), fun same => different ?_⟩
    rw [← List.mem_singleton.mp same]
    exact List.mem_map_of_mem later

/-- The table has the classes that are defined, and an order to evaluate them in. -/
structure IsReadFrom (table : ClassTable) (entries : List Config.ClientClass) : Prop where
  /-- Each definition is read as a class. -/
  reads : List.Forall₂ Config.ClientClass.Reads entries table.classes
  /-- No two classes have one name. -/
  distinct : (table.classes.map ClientClass.name).Nodup
  /-- The classes that tests ask about are defined. -/
  closed : ∀ definition ∈ table.classes, ∀ asked ∈ definition.dependencies,
    asked ∈ table.classes.map ClientClass.name
  /-- Every class is evaluated after those that its test asks about. -/
  ordered : (dependencyMap table.classes).IsOrder table.order

variable {table : ClassTable} {entries others : List Config.ClientClass}

/-- The table of accepted definitions is read from them. -/
theorem isReadFrom_of_ofConfig (accepted : ofConfig entries = .ok table) :
    table.IsReadFrom entries := by
  unfold ofConfig at accepted
  split at accepted
  · exact nomatch accepted
  · next classes read =>
    obtain ⟨distinct, reads⟩ := readAll_nil_eq_ok_iff.mp read
    split at accepted
    · exact nomatch accepted
    · next closed =>
      split at accepted
      · exact nomatch accepted
      · next order sorted =>
        cases accepted
        exact ⟨reads, distinct, undefined?_eq_none_iff.mp closed,
          DependencyMap.isOrder_of_sort sorted⟩

/-- Definitions that a table can be read from are accepted. -/
theorem exists_ofConfig_of_isReadFrom (read : table.IsReadFrom entries) :
    ∃ accepted, ofConfig entries = .ok accepted := by
  obtain ⟨order, sorted⟩ := DependencyMap.exists_sort_of_isOrder read.ordered
  refine ⟨⟨table.classes, order⟩, ?_⟩
  unfold ofConfig
  rw [readAll_nil_eq_ok_iff.mpr ⟨read.distinct, read.reads⟩]
  dsimp only
  rw [undefined?_eq_none_iff.mpr read.closed]
  dsimp only
  rw [sorted]

namespace IsReadFrom

/-- Rearranged definitions define the same classes, and these can be evaluated in the same order. -/
theorem exists_of_perm (read : table.IsReadFrom entries) (perm : entries.Perm others) :
    ∃ other : ClassTable, other.IsReadFrom others := by
  obtain ⟨classes, reads, same⟩ := List.perm_comp_forall₂ perm.symm read.reads
  have names := same.map ClientClass.name
  have distinct := names.nodup_iff.mpr read.distinct
  refine ⟨⟨classes, table.order⟩, reads, distinct, fun definition member asked depends => ?_, ?_⟩
  · exact names.mem_iff.mpr (read.closed definition (same.mem_iff.mp member) asked depends)
  · refine read.ordered.perm ?_
    rw [entries_dependencyMap read.distinct, entries_dependencyMap distinct]
    exact (same.map _).symm

/-- A definition is read as a class of the table. -/
theorem exists_class (read : table.IsReadFrom entries) {entry : Config.ClientClass}
    (member : entry ∈ entries) : ∃ definition ∈ table.classes, entry.Reads definition :=
  exists_mem_of_forall₂ read.reads member

/-- A class of the table is what a definition is read as. -/
theorem exists_entry (read : table.IsReadFrom entries) {definition : ClientClass}
    (member : definition ∈ table.classes) : ∃ entry ∈ entries, entry.Reads definition :=
  exists_mem_of_forall₂ read.reads.flip member

/-- The classes are evaluated each once. -/
theorem order_perm (read : table.IsReadFrom entries) :
    table.order.Perm (table.classes.map ClientClass.name) := by
  have keys := read.ordered.keys
  unfold DependencyMap.keys at keys
  rw [entries_dependencyMap read.distinct, List.map_map] at keys
  exact keys

/-- A class is found by its name. -/
theorem find?_eq_some (read : table.IsReadFrom entries) {definition : ClientClass}
    (member : definition ∈ table.classes) : table.find? definition.name = some definition :=
  find?_eq_some_of_nodup ClientClass.name read.distinct member

/-- The other classes that a test asks about are built in, and never evaluated, or evaluated before
it. -/
theorem evaluated_before (read : table.IsReadFrom entries) {definition : ClientClass}
    (member : definition ∈ table.classes) {test : Expr} (tests : definition.test = some test)
    {before after : List String} (split : table.order = before ++ definition.name :: after)
    {asked : String} (mentioned : asked ∈ test.mentions) (other : asked ≠ definition.name) :
    asked ∈ before ∨ asked ∉ table.order := by
  by_cases builtin : isBuiltinClass asked = true
  · refine .inr fun evaluated => ?_
    obtain ⟨⟨name, _⟩, inside, rfl⟩ := List.mem_map.mp (read.order_perm.mem_iff.mp evaluated)
    obtain ⟨entry, -, reads⟩ := read.exists_entry inside
    have custom := reads.custom
    rw [← reads.name, builtin] at custom
    exact nomatch custom
  · have depends : asked ∈ definition.dependencies := by
      unfold ClientClass.dependencies
      rw [tests]
      exact List.mem_filter.mpr
        ⟨(mem_firstOccurrences _ _).mpr mentioned, by simpa using builtin⟩
    have listed : (definition.name, definition.dependencies.filter (· ≠ definition.name)) ∈
        (dependencyMap table.classes).entries := by
      rw [entries_dependencyMap read.distinct]
      exact List.mem_map_of_mem member
    refine .inl (read.ordered.follows before definition.name after split _ listed ?_)
    exact List.mem_filter.mpr ⟨depends, decide_eq_true other⟩

end IsReadFrom

end ClassTable

end Leasehold
