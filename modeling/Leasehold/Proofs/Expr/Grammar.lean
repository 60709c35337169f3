import Leasehold.Expr.Parser

/-!
# The grammar of test expressions

The reader of expressions takes tokens from the front of a sequence, and it counts its steps down.
Here the same is said as a grammar, without a count: which tokens an expression takes, what it reads
as, and which tokens are left. The reader follows the grammar as soon as it has five steps for every
token that the expression takes (`Reads.at?_eq`). What makes up a whole sequence of tokens is read
within the steps that the reader is given (`Reads.ofTokens_eq`).
-/
namespace Leasehold.Expr

/-- The steps that lead from a strength down to an expression without a joining word. -/
def Strength.steps : Strength → Nat
  | or => 4
  | and => 3
  | comparison => 2
  | unary => 1

mutual

/-- An expression whose joining words bind at least as strongly as given stands at the front of the
tokens. -/
inductive Reads : Strength → List Token → Reading → List Token → Prop
  /-- Alternatives. -/
  | or {tokens middle rest : List Token} {left reading : Reading} :
    Reads .and tokens left middle → ReadsOrs left middle reading rest →
      Reads .or tokens reading rest
  /-- Conjunctions. -/
  | and {tokens middle rest : List Token} {left reading : Reading} :
    Reads .comparison tokens left middle → ReadsAnds left middle reading rest →
      Reads .and tokens reading rest
  /-- A value that is compared with nothing. -/
  | single {tokens rest : List Token} {reading : Reading} :
    Reads .unary tokens reading rest → rest.head? ≠ some .equal → rest.head? ≠ some .notEqual →
      Reads .comparison tokens reading rest
  /-- Two values that have to be equal. -/
  | equal {tokens middle rest : List Token} {left right : Reading} :
    Reads .unary tokens left (.equal :: middle) → Reads .comparison middle right rest →
      Reads .comparison tokens (joined .equal left right) rest
  /-- Two values that must not be equal. -/
  | notEqual {tokens middle rest : List Token} {left right : Reading} :
    Reads .unary tokens left (.notEqual :: middle) → Reads .comparison middle right rest →
      Reads .comparison tokens (joined .notEqual left right) rest
  /-- A negation. -/
  | not {tokens rest : List Token} {value : Reading} :
    Reads .unary tokens value rest → Reads .unary (.not :: tokens) (value.map .not) rest
  /-- A truth value. -/
  | bool {rest : List Token} {value : Bool} :
    Reads .unary (.bool value :: rest) (.ok (.bool value)) rest
  /-- A fact about the client. -/
  | field {rest : List Token} {fact : ClientField} :
    Reads .unary (.field fact :: rest) (.ok (.field fact)) rest
  /-- A sequence of bytes. -/
  | hex {rest : List Token} {digits : List Char} :
    Reads .unary (.hex digits :: rest) (byteLiteral digits) rest
  /-- A number. -/
  | int {rest : List Token} {digits : List Char} :
    Reads .unary (.int digits :: rest) ((word digits).map .int) rest
  /-- A text. -/
  | string {rest : List Token} {value : List Char} :
    Reads .unary (.string value :: rest) (.ok (.string (String.ofList value))) rest
  /-- Whether the client belongs to a class. -/
  | member {rest : List Token} {name : List Char} :
    Reads .unary (.member :: .openParen :: .string name :: .closeParen :: rest)
      (.ok (.member (String.ofList name))) rest
  /-- Part of a value, of a length. -/
  | substring {tokens rest : List Token} {value : Reading} {start length : List Char} :
    Reads .or tokens value
        (.comma :: .int start :: .comma :: .int length :: .closeParen :: rest) →
      Reads .unary (.substring :: .openParen :: tokens) (substringOf value start (some length)) rest
  /-- Part of a value, up to its end. -/
  | substringAll {tokens rest : List Token} {value : Reading} {start : List Char} :
    Reads .or tokens value (.comma :: .int start :: .comma :: .all :: .closeParen :: rest) →
      Reads .unary (.substring :: .openParen :: tokens) (substringOf value start none) rest
  /-- An expression in parentheses. -/
  | parens {tokens rest : List Token} {reading : Reading} :
    Reads .or tokens reading (.closeParen :: rest) →
      Reads .unary (.openParen :: tokens) reading rest

/-- Alternatives go on after the ones that have been read. -/
inductive ReadsOrs : Reading → List Token → Reading → List Token → Prop
  /-- There are no more. -/
  | stop {tokens : List Token} {left : Reading} :
    tokens.head? ≠ some .or → ReadsOrs left tokens left tokens
  /-- There is another one. -/
  | more {tokens middle rest : List Token} {left right reading : Reading} :
    Reads .and tokens right middle → ReadsOrs (joined .or left right) middle reading rest →
      ReadsOrs left (.or :: tokens) reading rest

/-- Conjunctions go on after the ones that have been read. -/
inductive ReadsAnds : Reading → List Token → Reading → List Token → Prop
  /-- There are no more. -/
  | stop {tokens : List Token} {left : Reading} :
    tokens.head? ≠ some .and → ReadsAnds left tokens left tokens
  /-- There is another one. -/
  | more {tokens middle rest : List Token} {left right reading : Reading} :
    Reads .comparison tokens right middle → ReadsAnds (joined .and left right) middle reading rest →
      ReadsAnds left (.and :: tokens) reading rest

end

/-- A literal takes its tokens in one step. -/
theorem at?_eq_of_literal {tokens rest : List Token} {reading : Reading}
    (takes : rest.length < tokens.length)
    (reads : ∀ fuel, at? (fuel + 1) .unary tokens = some (reading, rest)) :
    rest.length < tokens.length ∧
      ∀ fuel, 5 * tokens.length + Strength.unary.steps ≤ fuel + 5 * rest.length →
        at? fuel .unary tokens = some (reading, rest) := by
  refine ⟨takes, fun fuel enough => ?_⟩
  obtain ⟨fuel, rfl⟩ : ∃ less, fuel = less + 1 := ⟨fuel - 1, by omega⟩
  exact reads fuel

mutual

/-- An expression takes a token or more, and the reader follows the grammar. -/
theorem Reads.at?_eq {strength : Strength} {tokens rest : List Token} {reading : Reading} :
    Reads strength tokens reading rest → rest.length < tokens.length ∧
      ∀ fuel, 5 * tokens.length + strength.steps ≤ fuel + 5 * rest.length →
        at? fuel strength tokens = some (reading, rest)
  | .or first others => by
    obtain ⟨takes, first⟩ := first.at?_eq
    obtain ⟨leaves, others⟩ := others.ors?_eq
    refine ⟨by omega, fun fuel enough => ?_⟩
    simp only [Strength.steps] at enough first
    obtain ⟨fuel, rfl⟩ : ∃ less, fuel = less + 1 := ⟨fuel - 1, by omega⟩
    simp only [at?, first fuel (by omega)]
    exact others fuel (by omega)
  | .and first others => by
    obtain ⟨takes, first⟩ := first.at?_eq
    obtain ⟨leaves, others⟩ := others.ands?_eq
    refine ⟨by omega, fun fuel enough => ?_⟩
    simp only [Strength.steps] at enough first
    obtain ⟨fuel, rfl⟩ : ∃ less, fuel = less + 1 := ⟨fuel - 1, by omega⟩
    simp only [at?, first fuel (by omega)]
    exact others fuel (by omega)
  | .single value other different => by
    obtain ⟨takes, value⟩ := value.at?_eq
    refine ⟨takes, fun fuel enough => ?_⟩
    simp only [Strength.steps] at enough value
    obtain ⟨fuel, rfl⟩ : ∃ less, fuel = less + 1 := ⟨fuel - 1, by omega⟩
    simp only [at?, value fuel (by omega)]
    dsimp only [Option.bind_eq_bind, Option.bind_some]
    split
    · exact absurd rfl other
    · exact absurd rfl different
    · rfl
  | .equal left right => by
    obtain ⟨takes, left⟩ := left.at?_eq
    obtain ⟨leaves, right⟩ := right.at?_eq
    simp only [Strength.steps, List.length_cons] at takes left right
    refine ⟨by omega, fun fuel enough => ?_⟩
    simp only [Strength.steps] at enough
    obtain ⟨fuel, rfl⟩ : ∃ less, fuel = less + 1 := ⟨fuel - 1, by omega⟩
    simp [at?, left fuel (by omega), right fuel (by omega)]
  | .notEqual left right => by
    obtain ⟨takes, left⟩ := left.at?_eq
    obtain ⟨leaves, right⟩ := right.at?_eq
    simp only [Strength.steps, List.length_cons] at takes left right
    refine ⟨by omega, fun fuel enough => ?_⟩
    simp only [Strength.steps] at enough
    obtain ⟨fuel, rfl⟩ : ∃ less, fuel = less + 1 := ⟨fuel - 1, by omega⟩
    simp [at?, left fuel (by omega), right fuel (by omega)]
  | .not value => by
    obtain ⟨takes, value⟩ := value.at?_eq
    refine ⟨by simp only [List.length_cons]; omega, fun fuel enough => ?_⟩
    simp only [Strength.steps, List.length_cons] at enough value
    obtain ⟨fuel, rfl⟩ : ∃ less, fuel = less + 1 := ⟨fuel - 1, by omega⟩
    simp [at?, value fuel (by omega)]
  | .bool | .field | .hex | .int | .string | .member =>
    at?_eq_of_literal (by simp only [List.length_cons]; omega) fun fuel => by simp [at?]
  | .substring value => by
    obtain ⟨takes, value⟩ := value.at?_eq
    simp only [Strength.steps, List.length_cons] at takes value
    refine ⟨by simp only [List.length_cons]; omega, fun fuel enough => ?_⟩
    simp only [Strength.steps, List.length_cons] at enough
    obtain ⟨fuel, rfl⟩ : ∃ less, fuel = less + 1 := ⟨fuel - 1, by omega⟩
    simp [at?, value fuel (by omega)]
  | .substringAll value => by
    obtain ⟨takes, value⟩ := value.at?_eq
    simp only [Strength.steps, List.length_cons] at takes value
    refine ⟨by simp only [List.length_cons]; omega, fun fuel enough => ?_⟩
    simp only [Strength.steps, List.length_cons] at enough
    obtain ⟨fuel, rfl⟩ : ∃ less, fuel = less + 1 := ⟨fuel - 1, by omega⟩
    simp [at?, value fuel (by omega)]
  | .parens value => by
    obtain ⟨takes, value⟩ := value.at?_eq
    simp only [Strength.steps, List.length_cons] at takes value
    refine ⟨by simp only [List.length_cons]; omega, fun fuel enough => ?_⟩
    simp only [Strength.steps, List.length_cons] at enough
    obtain ⟨fuel, rfl⟩ : ∃ less, fuel = less + 1 := ⟨fuel - 1, by omega⟩
    simp [at?, value fuel (by omega)]

/-- The reader of further alternatives follows the grammar. -/
theorem ReadsOrs.ors?_eq {left reading : Reading} {tokens rest : List Token} :
    ReadsOrs left tokens reading rest → rest.length ≤ tokens.length ∧
      ∀ fuel, 5 * tokens.length + 1 ≤ fuel + 5 * rest.length →
        ors? fuel left tokens = some (reading, rest)
  | .stop other => by
    refine ⟨Nat.le_refl _, fun fuel enough => ?_⟩
    obtain ⟨fuel, rfl⟩ : ∃ less, fuel = less + 1 := ⟨fuel - 1, by omega⟩
    unfold ors?
    split
    · exact absurd rfl other
    · rfl
  | .more next others => by
    obtain ⟨takes, next⟩ := next.at?_eq
    obtain ⟨leaves, others⟩ := others.ors?_eq
    refine ⟨by simp only [List.length_cons]; omega, fun fuel enough => ?_⟩
    simp only [Strength.steps, List.length_cons] at enough next
    obtain ⟨fuel, rfl⟩ : ∃ less, fuel = less + 1 := ⟨fuel - 1, by omega⟩
    simp only [ors?, next fuel (by omega)]
    exact others fuel (by omega)

/-- The reader of further conjunctions follows the grammar. -/
theorem ReadsAnds.ands?_eq {left reading : Reading} {tokens rest : List Token} :
    ReadsAnds left tokens reading rest → rest.length ≤ tokens.length ∧
      ∀ fuel, 5 * tokens.length + 1 ≤ fuel + 5 * rest.length →
        ands? fuel left tokens = some (reading, rest)
  | .stop other => by
    refine ⟨Nat.le_refl _, fun fuel enough => ?_⟩
    obtain ⟨fuel, rfl⟩ : ∃ less, fuel = less + 1 := ⟨fuel - 1, by omega⟩
    unfold ands?
    split
    · exact absurd rfl other
    · rfl
  | .more next others => by
    obtain ⟨takes, next⟩ := next.at?_eq
    obtain ⟨leaves, others⟩ := others.ands?_eq
    refine ⟨by simp only [List.length_cons]; omega, fun fuel enough => ?_⟩
    simp only [Strength.steps, List.length_cons] at enough next
    obtain ⟨fuel, rfl⟩ : ∃ less, fuel = less + 1 := ⟨fuel - 1, by omega⟩
    simp only [ands?, next fuel (by omega)]
    exact others fuel (by omega)

end

/-- An expression that makes up a whole sequence of tokens is read as the grammar says. -/
theorem Reads.ofTokens_eq {tokens : List Token} {reading : Reading}
    (reads : Reads .or tokens reading []) : ofTokens tokens = reading := by
  have settled := reads.at?_eq.2 (5 * tokens.length + 5) (by simp [Strength.steps])
  rw [ofTokens, settled]

end Leasehold.Expr
