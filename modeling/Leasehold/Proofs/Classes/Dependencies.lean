import Leasehold.Proofs.Classes.Membership

/-!
# What the dependencies of a test cover

A test is evaluated once the memberships in its dependencies are known. The dependencies are
collected by one walk through the test, and evaluation is another one, which may end early. Neither
says here what a test asks about: a place in an expression is the way down to it, told by the number
of the operand at each step, and an expression asks about a class at the places of its memberships
in that class.

The dependencies are the classes that a test asks about at some place, each once, and one that is
asked about further left comes first. No other membership has a say in the value of the test, or in
the error that it ends with (`Expr.dependencies_spec`).
-/
namespace Leasehold

/-- Two clients presented the same facts, and belong to the same of the given classes. -/
structure ClientFacts.AgreeOn (names : List String) (first second : ClientFacts) : Prop where
  /-- The same hardware address. -/
  mac : first.mac = second.mac
  /-- The same client identifier option. -/
  clientId : first.clientId = second.clientId
  /-- The same unique identifier. -/
  duid : first.duid = second.duid
  /-- The same circuit. -/
  circuitId : first.circuitId = second.circuitId
  /-- The same receiving interface. -/
  iface : first.iface = second.iface
  /-- The same of the classes. -/
  isMember : ∀ name ∈ names, first.isMember name = second.isMember name

/-- Clients that agree differ in their memberships only. -/
theorem ClientFacts.AgreeOn.eq_with {names : List String} {first second : ClientFacts}
    (agree : first.AgreeOn names second) :
    second = { first with isMember := second.isMember } := by
  obtain ⟨mac, clientId, duid, circuitId, iface, -⟩ := agree
  simp [mac, clientId, duid, circuitId, iface]

namespace Expr

/-- The expressions that an expression is directly made of, from left to right. -/
def operands : Expr → List Expr
  | string _ | hex _ | int _ | bool _ | member _ | field _ => []
  | substring value _ _ | not value => [value]
  | and left right | or left right | equal left right | notEqual left right => [left, right]

/-- The part of an expression at a place. A place is the way down to a part: at each step, the
number of the operand to go into. Of two places on different ways, the lesser one is further left.
-/
def part? (expr : Expr) : List Nat → Option Expr
  | [] => some expr
  | index :: place => expr.operands[index]?.bind (part? · place)

/-- The expression asks at a place about the membership in a class. -/
def AsksAt (expr : Expr) (place : List Nat) (name : String) : Prop :=
  expr.part? place = some (.member name)

/-- The expression asks somewhere about the membership in a class. -/
def Asks (expr : Expr) (name : String) : Prop := ∃ place, expr.AsksAt place name

/-- The expression asks about a class before it asks about another one for the first time. -/
def AsksBefore (expr : Expr) (name other : String) : Prop :=
  ∃ place, expr.AsksAt place name ∧ ∀ later, expr.AsksAt later other → place < later

variable {expr operand : Expr} {name other : String}

/-- Behind a step down, an expression asks what the operand asks there. -/
theorem asksAt_cons {index : Nat} {place : List Nat} :
    expr.AsksAt (index :: place) name ↔
      ∃ operand, expr.operands[index]? = some operand ∧ operand.AsksAt place name :=
  Option.bind_eq_some_iff

/-- An expression asks about a class when it is a membership in it, or one of its operands asks. -/
theorem asks_iff :
    expr.Asks name ↔ expr = .member name ∨ ∃ operand ∈ expr.operands, operand.Asks name := by
  constructor
  · rintro ⟨_ | ⟨index, place⟩, asked⟩
    · exact .inl (Option.some.inj asked)
    · obtain ⟨operand, here, asked⟩ := asksAt_cons.mp asked
      exact .inr ⟨operand, List.mem_of_getElem? here, place, asked⟩
  · rintro (rfl | ⟨operand, joined, place, asked⟩)
    · exact ⟨[], rfl⟩
    · obtain ⟨index, here⟩ := List.mem_iff_getElem?.mp joined
      exact ⟨index :: place, asksAt_cons.mpr ⟨operand, here, asked⟩⟩

/-- The walk through an expression comes to the classes that it asks about. -/
theorem mem_mentions_iff : name ∈ expr.mentions ↔ expr.Asks name := by
  induction expr with
  | string | hex | int | bool | field =>
    rw [asks_iff]
    simp [mentions, operands]
  | member asked =>
    rw [asks_iff]
    simp [mentions, operands, eq_comm]
  | substring value start length ih | not value ih =>
    rw [asks_iff]
    simp [mentions, operands, ih]
  | and left right ihLeft ihRight | or left right ihLeft ihRight
  | equal left right ihLeft ihRight | notEqual left right ihLeft ihRight =>
    rw [asks_iff]
    simp [mentions, operands, ihLeft, ihRight]

/-- The dependencies of an expression are the classes that it asks about. -/
theorem mem_dependencies_iff : name ∈ expr.dependencies ↔ expr.Asks name :=
  (mem_firstOccurrences expr.mentions name).trans mem_mentions_iff

/-- A class that an operand asks about before another one comes before it in the whole expression
when the operands further left do not ask about the other one. -/
theorem AsksBefore.of_operand (index : Nat) (here : expr.operands[index]? = some operand)
    (before : operand.AsksBefore name other)
    (unasked : ∀ earlier ∈ expr.operands.take index, ¬ earlier.Asks other) :
    expr.AsksBefore name other := by
  obtain ⟨place, asked, first⟩ := before
  refine ⟨index :: place, asksAt_cons.mpr ⟨operand, here, asked⟩, fun later askedLater => ?_⟩
  cases later with
  | nil =>
    -- The whole expression is no membership, since it has an operand.
    obtain rfl : expr = .member other := Option.some.inj askedLater
    exact nomatch here
  | cons position rest =>
    obtain ⟨found, there, askedThere⟩ := asksAt_cons.mp askedLater
    rw [List.cons_lt_cons_iff]
    rcases Nat.lt_trichotomy index position with behind | rfl | ahead
    · exact .inl behind
    · obtain rfl : operand = found := Option.some.inj (here.symm.trans there)
      exact .inr ⟨rfl, first rest askedThere⟩
    · have earlier : found ∈ expr.operands.take index :=
        List.mem_of_getElem? ((List.getElem?_take_of_lt ahead).trans there)
      exact absurd ⟨rest, askedThere⟩ (unasked found earlier)

/-- A class that the first operand asks about before another one comes before it in the whole
expression. -/
theorem AsksBefore.of_first_operand (here : expr.operands[0]? = some operand)
    (before : operand.AsksBefore name other) : expr.AsksBefore name other :=
  before.of_operand 0 here fun _ absent => absurd absent List.not_mem_nil

/-- What is asked about comes before what is not asked about. -/
theorem AsksBefore.of_not_asks (asks : expr.Asks name) (unasked : ¬ expr.Asks other) :
    expr.AsksBefore name other := by
  obtain ⟨place, asked⟩ := asks
  exact ⟨place, asked, fun later askedLater => absurd ⟨later, askedLater⟩ unasked⟩

/-- An expression that joins two others lists its dependencies in order when these do. -/
theorem pairwise_dependencies_of_two {left right : Expr} (two : expr.operands = [left, right])
    (walked : expr.mentions = left.mentions ++ right.mentions)
    (orderedLeft : left.dependencies.Pairwise left.AsksBefore)
    (orderedRight : right.dependencies.Pairwise right.AsksBefore) :
    expr.dependencies.Pairwise expr.AsksBefore := by
  have here : expr.operands[0]? = some left := by rw [two]; rfl
  have there : expr.operands[1]? = some right := by rw [two]; rfl
  have joined : expr.dependencies =
      left.dependencies ++ right.dependencies.filter (· ∉ left.dependencies) := by
    unfold dependencies
    rw [walked, firstOccurrences_append]
  -- A class that the right operand adds is nowhere asked about by the left one.
  have unasked {name : String}
      (added : name ∈ right.dependencies.filter (· ∉ left.dependencies)) : ¬ left.Asks name :=
    mt mem_dependencies_iff.mpr (of_decide_eq_true (List.mem_filter.mp added).2)
  have orderedAdded : (right.dependencies.filter (· ∉ left.dependencies)).Pairwise
      expr.AsksBefore := by
    refine (orderedRight.filter _).imp_of_mem fun _ added before => before.of_operand 1 there ?_
    rw [two]
    exact List.forall_mem_singleton.mpr (unasked added)
  rw [joined, List.pairwise_append]
  refine ⟨orderedLeft.imp (.of_first_operand here), orderedAdded, fun name listed other added => ?_⟩
  have before : left.AsksBefore name other :=
    .of_not_asks (mem_dependencies_iff.mp listed) (unasked added)
  exact before.of_first_operand here

/-- The dependencies are listed in the order in which they are asked about first. -/
theorem pairwise_dependencies (expr : Expr) : expr.dependencies.Pairwise expr.AsksBefore := by
  induction expr with
  | string | hex | int | bool | field => exact .nil
  | member name => exact List.pairwise_singleton _ _
  | substring value start length ih | not value ih => exact ih.imp (.of_first_operand rfl)
  | and left right ihLeft ihRight | or left right ihLeft ihRight
  | equal left right ihLeft ihRight | notEqual left right ihLeft ihRight =>
    exact pairwise_dependencies_of_two rfl rfl ihLeft ihRight

/-- Clients that agree on the dependencies of an expression give it the same value or error. -/
theorem eval_eq_of_agreeOn {first second : ClientFacts}
    (agree : first.AgreeOn expr.dependencies second) : expr.eval first = expr.eval second := by
  rw [agree.eq_with]
  refine eval_congr first fun name mentioned => agree.isMember name ?_
  exact (mem_firstOccurrences expr.mentions name).mpr mentioned

/-- The dependencies of a test cover all memberships that it can see: clients that presented the
same facts and agree on the dependencies give the test the same value or the same error. They are
the classes that the test asks about, each listed once, in the order in which they are asked about
first. -/
theorem dependencies_spec (expr : Expr) :
    (∀ first second : ClientFacts, first.AgreeOn expr.dependencies second →
      expr.eval first = expr.eval second) ∧
    (∀ name, name ∈ expr.dependencies ↔ expr.Asks name) ∧
    expr.dependencies.Nodup ∧
    expr.dependencies.Pairwise expr.AsksBefore :=
  ⟨fun _ _ agree => eval_eq_of_agreeOn agree, fun _ => mem_dependencies_iff,
    nodup_firstOccurrences expr.mentions, pairwise_dependencies expr⟩

/-- The condition can be met: a test that asks twice about the first of two classes has the same
value for clients that differ in a third class. -/
theorem dependencies_spec_of_repeated_class :
    let test : Expr := .and (.member "a") (.or (.member "b") (.not (.member "a")))
    let client (names : List String) : ClientFacts :=
      ⟨none, none, none, none, some "eth0", names.contains⟩
    let first := client ["a", "b"]
    let second := client ["a", "b", "c"]
    test.dependencies = ["a", "b"] ∧ first.AgreeOn test.dependencies second ∧
      first.isMember "c" ≠ second.isMember "c" ∧ test.eval first = test.eval second ∧
      test.AsksBefore "a" "b" := by
  intro test client first second
  have listed : test.dependencies = ["a", "b"] := by decide +kernel
  have agree : first.AgreeOn test.dependencies second :=
    ⟨rfl, rfl, rfl, rfl, rfl, by rw [listed]; decide +kernel⟩
  obtain ⟨covered, -, -, ordered⟩ := dependencies_spec test
  rw [listed] at ordered
  exact ⟨listed, agree, by decide +kernel, covered first second agree,
    List.rel_of_pairwise_cons ordered List.mem_cons_self⟩

end Expr

end Leasehold
