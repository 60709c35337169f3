import Mathlib.Logic.Relation
import Leasehold.ClientClass

/-!
# What the membership in a class depends on

The value of a test depends on the client and on the membership in the classes that the test
mentions. Classes are resolved one after another from the memberships that are there at first, so
that the membership in one class depends on the first memberships in those classes alone that its
test asks about, directly or through the tests of others. Two resolutions for one client that begin
alike on all of these agree on the class (`ClassTable.contains_resolve_congr`).
-/
namespace Leasehold

/-- The value of an expression depends on no membership but in the classes that it mentions. -/
theorem Expr.eval_congr (facts : ClientFacts) {isMember : String → Bool} {expr : Expr}
    (same : ∀ name ∈ expr.mentions, facts.isMember name = isMember name) :
    expr.eval facts = expr.eval { facts with isMember } := by
  induction expr with
  | string | hex | int | bool | field => rfl
  | member name =>
    have here := same name List.mem_cons_self
    unfold eval
    rw [here]
  | substring value start length ih | not value ih =>
    unfold eval
    rw [ih same]
  | and left right ihLeft ihRight | or left right ihLeft ihRight
  | equal left right ihLeft ihRight | notEqual left right ihLeft ihRight =>
    unfold eval
    rw [ihLeft fun name mentioned => same name (List.mem_append_left _ mentioned),
      ihRight fun name mentioned => same name (List.mem_append_right _ mentioned)]

/-- Whether a test holds depends on no membership but in the classes that it mentions. -/
theorem Expr.holds_congr (facts : ClientFacts) {isMember : String → Bool} {expr : Expr}
    (same : ∀ name ∈ expr.mentions, facts.isMember name = isMember name) :
    expr.holds facts = expr.holds { facts with isMember } := by
  unfold holds
  rw [eval_congr facts same]

/-- Two sets have the same of the given names. -/
def ClassSet.AgreeOn (names : String → Prop) (left right : ClassSet) : Prop :=
  ∀ name, names name → left.contains name = right.contains name

namespace ClassTable

/-- The test of a class mentions another class. -/
def Asks (table : ClassTable) (name other : String) : Prop :=
  ∃ definition test, table.find? name = some definition ∧ definition.test = some test ∧
    other ∈ test.mentions

/-- The test of a class asks about another one, directly or through the tests of others. Every class
counts as reached from itself. -/
abbrev Reaches (table : ClassTable) : String → String → Prop := Relation.ReflTransGen table.Asks

variable {table : ClassTable} {names : String → Prop} {first second : ClassFacts}
  {left right : ClassSet}

/-- Evaluating one class keeps the agreement on names whose tests mention such names only. -/
theorem agreeOn_extend (closed : ∀ name other, names name → table.Asks name other → names other)
    (client : first.identifiers = second.identifiers) (iface : first.iface = second.iface)
    (agree : left.AgreeOn names right) (name : String) :
    (table.extend first left name).AgreeOn names (table.extend second right name) := by
  unfold extend
  cases tested : (table.find? name).bind (·.test) with
  | none => exact agree
  | some test =>
    obtain ⟨definition, found, tests⟩ := Option.bind_eq_some_iff.mp tested
    dsimp only
    intro other listed
    by_cases same : other = name
    · -- The classes that the test mentions are among the names, so that it has one value.
      subst same
      have mentioned (asked : String) (member : asked ∈ test.mentions) :
          left.contains asked = right.contains asked :=
        agree asked (closed other asked listed ⟨definition, test, found, tests, member⟩)
      have seen : second.seen right = { first.seen left with isMember := right.contains } := by
        simp [ClassFacts.seen, client, iface]
      have value : test.holds (first.seen left) = test.holds (second.seen right) := by
        rw [seen]
        exact Expr.holds_congr (first.seen left) mentioned
      rw [value]
      split
      · rw [ClassSet.contains_insert, ClassSet.contains_insert, agree other listed]
      · exact agree other listed
    · have kept (facts : ClassFacts) (members : ClassSet) :
          (if test.holds (facts.seen members) then members.insert name else members).contains
            other = members.contains other := by
        split
        · simp [ClassSet.contains_insert, same]
        · rfl
      rw [kept, kept]
      exact agree other listed

/-- Resolutions that begin alike on names whose tests mention such names only end alike on them. -/
theorem agreeOn_resolve (closed : ∀ name other, names name → table.Asks name other → names other)
    (client : first.identifiers = second.identifiers) (iface : first.iface = second.iface)
    (agree : first.initial.AgreeOn names second.initial) :
    (table.resolve first).AgreeOn names (table.resolve second) := by
  unfold resolve
  generalize first.initial = left at agree
  generalize second.initial = right at agree
  induction table.order generalizing left right with
  | nil => exact agree
  | cons name rest ih =>
    exact ih _ _ (agreeOn_extend closed client iface agree name)

/-- The membership in a class depends on the client and on the first memberships in the classes that
are reached from it. -/
theorem contains_resolve_congr (client : first.identifiers = second.identifiers)
    (iface : first.iface = second.iface) {name : String}
    (agree : first.initial.AgreeOn (table.Reaches name) second.initial) :
    (table.resolve first).contains name = (table.resolve second).contains name :=
  agreeOn_resolve (fun _ _ reached asks => reached.tail asks) client iface agree name .refl

end ClassTable

end Leasehold
