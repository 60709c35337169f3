import Leasehold.Proofs.Expr.Grammar
import Leasehold.Proofs.Text.Digits

/-!
# Printing test expressions

An expression is printed as a sequence of tokens, with parentheses around a part only where its
outermost word binds less than its place needs. Of several alternatives, and of several conjunctions,
the first ones are taken together without parentheses, and of several comparisons the last ones.

A part is read back wherever it stands (`readAt_tokens`), so every expression is read back from its
tokens (`ofTokens_tokens`).
-/
namespace Leasehold.Expr

/-- The strength with which the outermost word of an expression binds. -/
def strength : Expr → Strength
  | or _ _ => .or
  | and _ _ => .and
  | equal _ _ | notEqual _ _ => .comparison
  | string _ | hex _ | int _ | bool _ | member _ | field _ | substring _ _ _ | not _ => .unary

/-- The tokens of an expression whose outermost word binds as given, at a place that needs another
strength: in parentheses if the word binds less. -/
def enclosed (needed own : Strength) (tokens : List Token) : List Token :=
  if needed.steps < own.steps then .openParen :: tokens ++ [.closeParen] else tokens

/-- The length of a substring, or the word for everything up to the end. -/
def lengthToken : Option UInt64 → Token
  | none => .all
  | some length => .int (Text.Decimal.digits length.toNat)

/-- The tokens of an expression. -/
def tokens : Expr → List Token
  | string value => [.string value.toList]
  | hex bytes => [.hex (Text.Hex.encode bytes)]
  | int value => [.int (Text.Decimal.digits value.toNat)]
  | bool value => [.bool value]
  | member name => [.member, .openParen, .string name.toList, .closeParen]
  | field fact => [.field fact]
  | substring value start length =>
    .substring :: .openParen :: value.tokens ++
      [.comma, .int (Text.Decimal.digits start.toNat), .comma, lengthToken length, .closeParen]
  | not value => .not :: enclosed .unary value.strength value.tokens
  | and left right =>
    enclosed .and left.strength left.tokens ++
      .and :: enclosed .comparison right.strength right.tokens
  | or left right =>
    enclosed .or left.strength left.tokens ++ .or :: enclosed .and right.strength right.tokens
  | equal left right =>
    enclosed .unary left.strength left.tokens ++
      .equal :: enclosed .comparison right.strength right.tokens
  | notEqual left right =>
    enclosed .unary left.strength left.tokens ++
      .notEqual :: enclosed .comparison right.strength right.tokens

/-- The printed number is read back. -/
theorem word_digits (value : UInt32) : word (Text.Decimal.digits value.toNat) = .ok value := by
  have small : value.toNat ≤ largestWord := Nat.le_of_lt_succ value.toNat_lt
  simp [word, number, small, Except.map]

/-- The printed bound is read back. -/
theorem long_digits (value : UInt64) : long (Text.Decimal.digits value.toNat) = .ok value := by
  have small : value.toNat ≤ largestLong := Nat.le_of_lt_succ value.toNat_lt
  simp [long, number, small, Except.map]

/-- Printed bytes are read back. -/
theorem byteLiteral_encode (bytes : Bytes) :
    byteLiteral (Text.Hex.encode bytes) = .ok (.hex bytes) := by
  rw [byteLiteral, Text.Hex.decode_encode]

/-- A substring is read back from printed bounds. -/
theorem substringOf_digits (value : Expr) (start : UInt64) (length : Option UInt64) :
    substringOf (.ok value) (Text.Decimal.digits start.toNat)
      (length.map fun length => Text.Decimal.digits length.toNat) =
        .ok (.substring value start length) := by
  cases length <;> simp [substringOf, long_digits] <;> rfl

/-- The strength with which a word joins two expressions. -/
def Token.joins? : Token → Option Strength
  | or => some .or
  | and => some .and
  | equal | notEqual => some .comparison
  | _ => none

/-- The tokens do not begin with a word that joins two expressions at least as strongly as given. -/
def Stops (strength : Strength) (tokens : List Token) : Prop :=
  ∀ token ∈ tokens.head?, ∀ own, token.joins? = some own → strength.steps < own.steps

namespace Stops

variable {strength weaker : Strength} {tokens : List Token}

/-- Where an expression stops, one whose words bind more strongly stops too. -/
theorem of_le (stops : Stops weaker tokens) (le : strength.steps ≤ weaker.steps) :
    Stops strength tokens :=
  fun token first own joins => Nat.lt_of_le_of_lt le (stops token first own joins)

/-- A word that binds as strongly is not there. -/
theorem head_ne (stops : Stops strength tokens) {token : Token} {own : Strength}
    (joins : token.joins? = some own) (le : own.steps ≤ strength.steps) :
    tokens.head? ≠ some token :=
  fun first => Nat.not_lt_of_le le (stops token first own joins)

/-- There are no tokens. -/
theorem nil : Stops strength [] := fun _ first => nomatch first

/-- A token that joins nothing comes first. -/
theorem of_joins_none {token : Token} (none : token.joins? = none) :
    Stops strength (token :: tokens) := by
  rintro _ ⟨⟩ own joins
  rw [none] at joins
  exact nomatch joins

/-- A word that binds less comes first. -/
theorem of_joins {token : Token} {own : Strength} (joins : token.joins? = some own)
    (lt : strength.steps < own.steps) : Stops strength (token :: tokens) := by
  rintro _ ⟨⟩ other same
  rw [joins] at same
  cases same
  exact lt

end Stops

/-- The tokens read as the expression at a place that needs the strength, whatever follows there.
Words that join more alternatives or more conjunctions to it may follow. -/
def ReadAt : Strength → List Token → Expr → Prop
  | .unary, front, expr => ∀ rest, Reads .unary (front ++ rest) (.ok expr) rest
  | .comparison, front, expr => ∀ rest, Stops .comparison rest →
    Reads .comparison (front ++ rest) (.ok expr) rest
  | .and, front, expr => ∀ tail reading rest, Stops .comparison tail →
    ReadsAnds (.ok expr) tail reading rest → Reads .and (front ++ tail) reading rest
  | .or, front, expr => ∀ tail reading rest, Stops .and tail →
    ReadsOrs (.ok expr) tail reading rest → Reads .or (front ++ tail) reading rest

namespace ReadAt

variable {front : List Token} {expr : Expr} {own needed : Strength}

/-- An expression without joining words is a comparison with one side. -/
theorem comparison (reads : ReadAt .unary front expr) : ReadAt .comparison front expr :=
  fun rest stops =>
    .single (reads rest) (stops.head_ne rfl (by decide)) (stops.head_ne rfl (by decide))

/-- A comparison is the first of conjunctions that may follow. -/
theorem and (reads : ReadAt .comparison front expr) : ReadAt .and front expr :=
  fun tail _ _ stops others => .and (reads tail stops) others

/-- A conjunction is the first of alternatives that may follow. -/
theorem or (reads : ReadAt .and front expr) : ReadAt .or front expr :=
  fun tail _ _ stops others =>
    .or (reads tail _ tail (stops.of_le (by decide)) (.stop (stops.head_ne rfl (by decide)))) others

/-- An expression may stand where less strength is needed. -/
theorem weaken (reads : ReadAt own front expr) (le : own.steps ≤ needed.steps) :
    ReadAt needed front expr := by
  cases own <;> cases needed <;> first
    | exact reads
    | exact absurd le (by decide)
    | exact reads.comparison
    | exact reads.and
    | exact reads.or
    | exact reads.comparison.and
    | exact reads.and.or
    | exact reads.comparison.and.or

/-- An expression may stand by itself. -/
theorem reads (reads : ReadAt .or front expr) {rest : List Token} (stops : Stops .or rest) :
    Reads .or (front ++ rest) (.ok expr) rest :=
  reads rest _ rest (stops.of_le (by decide)) (.stop (stops.head_ne rfl (by decide)))

/-- An expression may stand anywhere in parentheses, and without them where no more strength is
needed than it has. -/
theorem enclosed (reads : ReadAt own front expr) :
    ReadAt needed (Expr.enclosed needed own front) expr := by
  unfold Expr.enclosed
  split
  · have inside : ReadAt .unary (.openParen :: front ++ [.closeParen]) expr := by
      intro rest
      have whole : ReadAt .or front expr := reads.weaken (by cases own <;> decide)
      rw [List.append_assoc]
      exact .parens (whole.reads (.of_joins_none rfl))
    exact inside.weaken (by cases needed <;> decide)
  · next enough => exact reads.weaken (Nat.le_of_not_lt enough)

end ReadAt

/-- An expression is read back from its tokens, at every place that needs no more strength than it
has. -/
theorem readAt_tokens (expr : Expr) : ReadAt expr.strength expr.tokens expr := by
  induction expr with
  | string value =>
    intro rest
    have read := @Reads.string rest value.toList
    rwa [String.ofList_toList] at read
  | hex bytes =>
    intro rest
    have read := @Reads.hex rest (Text.Hex.encode bytes)
    rwa [byteLiteral_encode] at read
  | int value =>
    intro rest
    have read := @Reads.int rest (Text.Decimal.digits value.toNat)
    rwa [word_digits] at read
  | bool value => exact fun rest => .bool
  | member name =>
    intro rest
    have read := @Reads.member rest name.toList
    rwa [String.ofList_toList] at read
  | field fact => exact fun rest => .field
  | substring value start length ih =>
    intro rest
    have whole : ReadAt .or value.tokens value := ih.weaken (by cases value.strength <;> decide)
    rw [tokens, List.cons_append, List.cons_append, List.append_assoc]
    cases length with
    | none =>
      have read := @Reads.substringAll _ rest _ (Text.Decimal.digits start.toNat)
        (whole.reads (.of_joins_none rfl))
      exact substringOf_digits value start none ▸ read
    | some length =>
      have read := @Reads.substring _ rest _ (Text.Decimal.digits start.toNat)
        (Text.Decimal.digits length.toNat) (whole.reads (.of_joins_none rfl))
      exact substringOf_digits value start (some length) ▸ read
  | not value ih =>
    have operand : ReadAt .unary (enclosed .unary value.strength value.tokens) value := ih.enclosed
    exact fun rest => .not (operand rest)
  | and left right first second =>
    intro tail reading rest stops others
    have begins : ReadAt .and (enclosed .and left.strength left.tokens) left := first.enclosed
    have goesOn : ReadAt .comparison (enclosed .comparison right.strength right.tokens) right :=
      second.enclosed
    rw [tokens, List.append_assoc]
    have joined : Token.joins? .and = some .and := rfl
    exact begins _ _ _ (.of_joins joined (by decide)) (.more (goesOn tail stops) others)
  | or left right first second =>
    intro tail reading rest stops others
    have begins : ReadAt .or (enclosed .or left.strength left.tokens) left := first.enclosed
    have goesOn : ReadAt .and (enclosed .and right.strength right.tokens) right := second.enclosed
    rw [tokens, List.append_assoc]
    have joined : Token.joins? .or = some .or := rfl
    have next : Reads .and (enclosed .and right.strength right.tokens ++ tail) (.ok right) tail :=
      goesOn _ _ _ (stops.of_le (by decide)) (.stop (stops.head_ne rfl (by decide)))
    exact begins _ _ _ (.of_joins joined (by decide)) (.more next others)
  | equal left right first second =>
    intro rest stops
    have begins : ReadAt .unary (enclosed .unary left.strength left.tokens) left := first.enclosed
    have goesOn : ReadAt .comparison (enclosed .comparison right.strength right.tokens) right :=
      second.enclosed
    rw [tokens, List.append_assoc]
    exact .equal (begins _) (goesOn rest stops)
  | notEqual left right first second =>
    intro rest stops
    have begins : ReadAt .unary (enclosed .unary left.strength left.tokens) left := first.enclosed
    have goesOn : ReadAt .comparison (enclosed .comparison right.strength right.tokens) right :=
      second.enclosed
    rw [tokens, List.append_assoc]
    exact .notEqual (begins _) (goesOn rest stops)

/-- Every expression is read back from its tokens. -/
theorem ofTokens_tokens (expr : Expr) : ofTokens expr.tokens = .ok expr := by
  have whole : ReadAt .or expr.tokens expr :=
    expr.readAt_tokens.weaken (by cases expr.strength <;> decide)
  have reads := whole.reads .nil
  rw [List.append_nil] at reads
  exact reads.ofTokens_eq

end Leasehold.Expr
