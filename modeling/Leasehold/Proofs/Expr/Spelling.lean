import Leasehold.Proofs.Expr.Printing

/-!
# Writing test expressions

The tokens of an expression are written one after another, each in one of its spellings, with blanks,
tabs and line ends between them. Most facts about a client have two spellings. A text can be written
only when it holds no quote, and a sequence of bytes only when it is not empty (`isWritable`).

Every expression that can be written is read back from every text that it is written as
(`parse_of_writes`).
-/
namespace Leasehold.Text

/-- A text is split at the first character that is accepted. -/
theorem splitFirst?_append {test : Char → Bool} {front rest : List Char} {c : Char}
    (before : ∀ d ∈ front, test d = false) (here : test c = true) :
    splitFirst? test (front ++ c :: rest) = some (front, rest) := by
  induction front with
  | nil => simp [splitFirst?, here]
  | cons d front ih =>
    have first : test d = false := before d List.mem_cons_self
    simp [splitFirst?, first, ih fun other member => before other (List.mem_cons_of_mem d member)]

/-- When neither of two texts begins with the other, nothing that begins with one of them begins with
the other. -/
theorem dropStart?_append_eq_none {start front : List Char} (rest : List Char)
    (other : dropStart? start front = none) (different : dropStart? front start = none) :
    dropStart? start (front ++ rest) = none := by
  induction start generalizing front with
  | nil => exact nomatch other
  | cons c start ih =>
    cases front with
    | nil => exact nomatch different
    | cons d front =>
      simp only [dropStart?, List.cons_append] at other different ⊢
      split
      · next same => exact ih (by simpa [same] using other) (by simpa [same] using different)
      · rfl

end Leasehold.Text

namespace Leasehold.Expr

namespace Token

/-- A token may be written in this way. -/
inductive Spells : Token → List Char → Prop
  /-- A word or a mark is written as it stands in the table of words. -/
  | word {token : Token} {spelling : List Char} : (spelling, token) ∈ words → Spells token spelling
  /-- A sequence of bytes has a mark in front of its digits. -/
  | hex {digits : List Char} : digits ≠ [] → (∀ c ∈ digits, Text.Hex.isDigit c = true) →
    Spells (.hex digits) ('0' :: 'x' :: digits)
  /-- A number is written with its digits. -/
  | int {digits : List Char} : digits ≠ [] → (∀ c ∈ digits, Text.Decimal.isDigit c = true) →
    Spells (.int digits) digits
  /-- A text stands in quotes. -/
  | string {value : List Char} : '\'' ∉ value → Spells (.string value) ('\'' :: value ++ ['\''])

/-- No word begins another. -/
theorem pairwise_words : words.Pairwise fun left right =>
    Text.dropStart? left.1 right.1 = none ∧ Text.dropStart? right.1 left.1 = none := by
  decide

/-- Whatever follows a word, the word is found. -/
theorem word?_append {token : Token} {spelling : List Char} (listed : (spelling, token) ∈ words)
    (rest : List Char) : word? (spelling ++ rest) = some (token, rest) := by
  unfold word?
  have table := pairwise_words
  revert listed table
  induction words with
  | nil => exact fun listed => nomatch listed
  | cons entry others ih =>
    intro listed table
    obtain ⟨apart, table⟩ := List.pairwise_cons.mp table
    rcases List.mem_cons.mp listed with rfl | later
    · simp [Text.dropStart?_append]
    · obtain ⟨forward, back⟩ := apart _ later
      simp [Text.dropStart?_append_eq_none rest forward back, ih later table]

/-- A word begins with a character that no literal begins with, and that is no space. -/
theorem head_words : ∀ entry ∈ words, ∃ c, entry.1.head? = some c ∧
    c ≠ '\'' ∧ Text.Decimal.isDigit c = false ∧ isSpace c = false := by
  have heads : words.all (fun entry => entry.1.head?.any fun c =>
    c ≠ '\'' && !Text.Decimal.isDigit c && !isSpace c) = true := by decide
  intro entry listed
  have head := List.all_eq_true.mp heads entry listed
  obtain ⟨c, first, differs⟩ := (Option.any_eq_true _ _).mp head
  simp only [Bool.and_eq_true, decide_eq_true_eq, Bool.not_eq_true'] at differs
  exact ⟨c, first, differs.1.1, differs.1.2, differs.2⟩

/-- A text that begins as a literal does begins with no word. -/
theorem word?_eq_none {c : Char} {rest : List Char}
    (literal : c = '\'' ∨ Text.Decimal.isDigit c = true) : word? (c :: rest) = none := by
  unfold word?
  rw [List.findSome?_eq_none_iff]
  intro entry listed
  obtain ⟨first, head, noQuote, noDigit, -⟩ := head_words entry listed
  have differs : first ≠ c := by
    rintro rfl
    rcases literal with quote | digit
    · exact noQuote quote
    · exact absurd digit (by simp [noDigit])
  obtain ⟨spelling, token⟩ := entry
  cases spelling with
  | nil => exact nomatch head
  | cons d spelling =>
    cases head
    simp [Text.dropStart?, differs]

/-- A character that may stand between two tokens is no digit. -/
theorem not_isDigit_of_isSpace {c : Char} (space : isSpace c = true) :
    Text.Decimal.isDigit c = false ∧ Text.Hex.isDigit c = false ∧ c ≠ 'x' := by
  simp only [isSpace, Bool.or_eq_true, decide_eq_true_eq] at space
  rcases space with ((rfl | rfl) | rfl) | rfl <;> decide

/-- Digits are read up to the end of the number. What follows a zero must not turn it into the mark
of bytes. -/
theorem literal?_digits {digits rest : List Char} (filled : digits ≠ [])
    (accepted : ∀ c ∈ digits, Text.Decimal.isDigit c = true)
    (halts : Text.Halts Text.Decimal.isDigit rest) (noMark : Text.Halts (fun c => c = 'x') rest) :
    literal? (digits ++ rest) = some (.int digits, rest) := by
  obtain ⟨c, others, rfl⟩ := List.exists_cons_of_ne_nil filled
  have first : Text.Decimal.isDigit c = true := accepted c List.mem_cons_self
  unfold literal?
  split
  · next quote =>
    cases quote
    exact nomatch first
  · next marked =>
    obtain ⟨rfl, mark⟩ := List.cons.inj marked
    cases others with
    | nil =>
      change rest = _ at mark
      subst mark
      exact absurd (Text.halts_cons.mp noMark) (by decide)
    | cons d others =>
      obtain ⟨rfl, -⟩ := List.cons.inj mark
      exact absurd (accepted _ (List.mem_cons_of_mem _ List.mem_cons_self)) (by decide)
  · rw [Text.takeWhile_append accepted halts, Text.dropWhile_append accepted halts]
    rfl

namespace Spells

variable {token : Token} {spelling : List Char}

/-- A token is written with a character or more, and the first may not stand between two tokens. -/
theorem exists_cons (spells : Spells token spelling) :
    ∃ c rest, spelling = c :: rest ∧ isSpace c = false := by
  cases spells with
  | word listed =>
    obtain ⟨c, head, -, -, noSpace⟩ := head_words _ listed
    obtain ⟨rest, rfl⟩ := List.head?_eq_some_iff.mp head
    exact ⟨c, rest, rfl, noSpace⟩
  | hex filled digits => exact ⟨_, _, rfl, by decide⟩
  | int filled digits =>
    obtain ⟨c, rest, rfl⟩ := List.exists_cons_of_ne_nil filled
    refine ⟨c, rest, rfl, Bool.eq_false_iff.mpr fun space => ?_⟩
    have digit := digits c List.mem_cons_self
    exact absurd digit (by simp [(not_isDigit_of_isSpace space).1])
  | string plain => exact ⟨_, _, rfl, by decide⟩

/-- A token is found in front of a text that is empty or begins with a character that may stand
between two tokens. -/
theorem found (spells : Spells token spelling) {rest : List Char}
    (apart : Text.Halts (fun c => !isSpace c) rest) :
    (word? (spelling ++ rest)).or (literal? (spelling ++ rest)) = some (token, rest) := by
  have stops {test : Char → Bool} (apart' : ∀ c, isSpace c = true → test c = false) :
      Text.Halts test rest := fun c first => apart' c (by simpa using apart c first)
  cases spells with
  | word listed => rw [word?_append listed, Option.some_or]
  | hex filled digits =>
    have halts := stops fun c space => (not_isDigit_of_isSpace space).2.1
    rw [List.cons_append, word?_eq_none (.inr (by decide)), Option.none_or, List.cons_append]
    simp [literal?, Text.takeWhile_append digits halts, Text.dropWhile_append digits halts, filled]
  | int filled digits =>
    have halts := stops fun c space => (not_isDigit_of_isSpace space).1
    have noMark := stops fun c space => decide_eq_false (not_isDigit_of_isSpace space).2.2
    obtain ⟨c, others, rfl⟩ := List.exists_cons_of_ne_nil filled
    have first : Text.Decimal.isDigit c = true := digits c List.mem_cons_self
    rw [List.cons_append, word?_eq_none (.inr first), Option.none_or, ← List.cons_append,
      literal?_digits filled digits halts noMark]
  | @string value plain =>
    have inside : ∀ c ∈ value, decide (c = '\'') = false := by
      rintro c member
      exact decide_eq_false fun quote => plain (quote ▸ member)
    rw [List.append_assoc, List.cons_append, word?_eq_none (.inl rfl), Option.none_or]
    have quote : decide ('\'' = '\'') = true := decide_eq_true rfl
    simp [literal?, Text.splitFirst?_append inside quote]

/-- The token is taken from the front of a text, and the tokens behind it follow. -/
theorem scanWith?_eq (spells : Spells token spelling) {before rest : List Char}
    (space : ∀ c ∈ before, isSpace c = true) (apart : Text.Halts (fun c => !isSpace c) rest)
    (fuel : Nat) :
    scanWith? (fuel + 1) (before ++ (spelling ++ rest)) =
      (scanWith? fuel rest).map (token :: ·) := by
  have found := spells.found apart
  obtain ⟨c, others, rfl, noSpace⟩ := spells.exists_cons
  have skipped : (before ++ (c :: others ++ rest)).dropWhile isSpace = c :: (others ++ rest) :=
    Text.dropWhile_append space (Text.halts_cons.mpr noSpace)
  rw [List.cons_append] at found
  simp only [scanWith?, skipped, found, Option.bind_eq_bind, Option.bind_some]
  cases scanWith? fuel rest <;> rfl

end Spells

end Token

open Token

/-- The tokens are written as the text, with one character or more between any two. -/
inductive Writes : List Token → List Char → Prop
  /-- The last token. -/
  | last {token : Token} {spelling : List Char} : token.Spells spelling → Writes [token] spelling
  /-- A token, and those after it. -/
  | more {token : Token} {tokens : List Token} {spelling gap text : List Char} :
    token.Spells spelling → gap ≠ [] → (∀ c ∈ gap, isSpace c = true) → Writes tokens text →
      Writes (token :: tokens) (spelling ++ gap ++ text)

namespace Writes

variable {tokens : List Token} {text : List Char}

/-- The tokens are found in the text, with any space around it. -/
theorem scanWith?_eq (writes : Writes tokens text) {before after : List Char}
    (spaceBefore : ∀ c ∈ before, isSpace c = true) (spaceAfter : ∀ c ∈ after, isSpace c = true)
    {fuel : Nat} (enough : tokens.length < fuel) :
    scanWith? fuel (before ++ text ++ after) = some tokens := by
  induction writes generalizing before fuel with
  | last spells =>
    have apart : Text.Halts (fun c => !isSpace c) after := fun c first => by
      simp [spaceAfter c (List.mem_of_mem_head? first)]
    have ends := Text.dropWhile_append spaceAfter Text.halts_nil
    rw [List.append_nil] at ends
    obtain ⟨fuel, rfl⟩ : ∃ less, fuel = less + 2 := ⟨fuel - 2, by simp at enough; omega⟩
    rw [List.append_assoc, spells.scanWith?_eq spaceBefore apart]
    simp [scanWith?, ends]
  | more spells filled space writes ih =>
    obtain ⟨fuel, rfl⟩ : ∃ less, fuel = less + 1 := ⟨fuel - 1, by omega⟩
    rw [List.length_cons] at enough
    obtain ⟨c, gap, rfl⟩ := List.exists_cons_of_ne_nil filled
    have apart {rest : List Char} : Text.Halts (fun c => !isSpace c) (c :: gap ++ rest) :=
      Text.halts_cons.mpr (by simp [space c List.mem_cons_self])
    simp only [List.append_assoc]
    rw [spells.scanWith?_eq spaceBefore apart, ← List.append_assoc, ih space (by omega)]
    rfl

/-- There are no more tokens than characters. -/
theorem length_le (writes : Writes tokens text) : tokens.length ≤ text.length := by
  induction writes with
  | last spells =>
    obtain ⟨c, rest, rfl, -⟩ := spells.exists_cons
    simp
  | more spells filled space writes ih =>
    obtain ⟨c, rest, rfl, -⟩ := spells.exists_cons
    simp only [List.length_append, List.length_cons]
    omega

end Writes

/-- The expression can be written: its texts hold no quotes, and its sequences of bytes are not empty.
-/
def isWritable : Expr → Bool
  | string value => !value.toList.contains '\''
  | hex bytes => !bytes.isEmpty
  | member name => !name.toList.contains '\''
  | int _ | bool _ | field _ => true
  | substring value _ _ | not value => value.isWritable
  | and left right | or left right | equal left right | notEqual left right =>
    left.isWritable && right.isWritable

/-- A printed number can be written. -/
theorem spells_digits (number : Nat) :
    (Token.int (Text.Decimal.digits number)).Spells (Text.Decimal.digits number) :=
  .int (Text.Decimal.digits_ne_nil number) fun _ => Text.Decimal.isDigit_of_mem_digits

/-- A word can be written. -/
theorem exists_spells_of_mem {token : Token} (listed : token ∈ words.map Prod.snd) :
    ∃ spelling, token.Spells spelling := by
  obtain ⟨⟨spelling, word⟩, member, same⟩ := List.mem_map.mp listed
  cases same
  exact ⟨spelling, .word member⟩

/-- A text without a quote can be written. -/
theorem exists_spells_string {value : List Char} (plain : (!value.contains '\'') = true) :
    ∃ spelling, (Token.string value).Spells spelling :=
  ⟨_, .string (by simpa using plain)⟩

/-- The length of a substring can be written. -/
theorem exists_spells_length (length : Option UInt64) :
    ∃ spelling, (lengthToken length).Spells spelling := by
  cases length with
  | none => exact exists_spells_of_mem (by decide)
  | some length => exact ⟨_, spells_digits length.toNat⟩

/-- Every token can be written. -/
def AllSpelled (tokens : List Token) : Prop := ∀ token ∈ tokens, ∃ spelling, token.Spells spelling

namespace AllSpelled

variable {tokens others : List Token} {token : Token}

/-- Where there is no token, none lacks a spelling. -/
theorem nil : AllSpelled [] := fun _ member => nomatch member

/-- A token that has a spelling may come in front. -/
theorem cons (first : ∃ spelling, token.Spells spelling) (spelled : AllSpelled tokens) :
    AllSpelled (token :: tokens) :=
  List.forall_mem_cons.mpr ⟨first, spelled⟩

/-- Tokens that can be written may follow others. -/
theorem append (spelled : AllSpelled tokens) (behind : AllSpelled others) :
    AllSpelled (tokens ++ others) :=
  List.forall_mem_append.mpr ⟨spelled, behind⟩

/-- A fixed word may come in front. -/
theorem word (listed : token ∈ words.map Prod.snd) (spelled : AllSpelled tokens) :
    AllSpelled (token :: tokens) :=
  .cons (exists_spells_of_mem listed) spelled

/-- Parentheses can be written, too. -/
theorem enclosed {needed own : Strength} (spelled : AllSpelled tokens) :
    AllSpelled (Expr.enclosed needed own tokens) := by
  unfold Expr.enclosed
  split
  · exact .word (by decide) (spelled.append (.word (by decide) .nil))
  · exact spelled

end AllSpelled

/-- Every token of an expression that can be written can be written. -/
theorem allSpelled_tokens (expr : Expr) (writable : expr.isWritable = true) :
    AllSpelled expr.tokens := by
  induction expr with
  | string value => exact .cons (exists_spells_string writable) .nil
  | hex bytes =>
    have filled : Text.Hex.encode bytes ≠ [] := by
      cases bytes with
      | nil => exact nomatch writable
      | cons byte rest => exact List.cons_ne_nil _ _
    exact .cons ⟨_, .hex filled fun _ => Text.Hex.isDigit_of_mem_encode⟩ .nil
  | int value => exact .cons ⟨_, spells_digits value.toNat⟩ .nil
  | bool value => exact .word (by cases value <;> decide) .nil
  | member name =>
    exact .word (by decide) (.word (by decide)
      (.cons (exists_spells_string writable) (.word (by decide) .nil)))
  | field fact => exact .word (by cases fact <;> decide) .nil
  | substring value start length ih =>
    have bounds : AllSpelled [.comma, .int (Text.Decimal.digits start.toNat), .comma,
        lengthToken length, .closeParen] :=
      .word (by decide) (.cons ⟨_, spells_digits start.toNat⟩
        (.word (by decide) (.cons (exists_spells_length length) (.word (by decide) .nil))))
    exact .append (.word (by decide) (.word (by decide) (ih writable))) bounds
  | not value ih => exact .word (by decide) (ih writable).enclosed
  | and left right first second | or left right first second | equal left right first second
  | notEqual left right first second =>
    obtain ⟨onLeft, onRight⟩ := (Bool.and_eq_true _ _).mp writable
    exact .append (first onLeft).enclosed (.word (by decide) (second onRight).enclosed)

/-- An expression is written with a token or more. -/
theorem tokens_ne_nil (expr : Expr) : expr.tokens ≠ [] := by
  cases expr <;> simp [tokens]

/-- Tokens that can be written can be written one after another. -/
theorem AllSpelled.exists_writes {tokens : List Token} (spelled : AllSpelled tokens)
    (filled : tokens ≠ []) : ∃ text, Writes tokens text := by
  induction tokens with
  | nil => exact absurd rfl filled
  | cons token tokens ih =>
    obtain ⟨spelling, spells⟩ := spelled token List.mem_cons_self
    cases tokens with
    | nil => exact ⟨spelling, .last spells⟩
    | cons next tokens =>
      obtain ⟨text, writes⟩ :=
        ih (fun other member => spelled other (List.mem_cons_of_mem _ member)) (by simp)
      exact ⟨_, .more spells (List.cons_ne_nil ' ' []) (by simp [isSpace]) writes⟩

/-- An expression that can be written is read back from everything that it is written as: with
parentheses only where they are needed, each token in any of its spellings, one or more blanks, tabs
and line ends between any two tokens, and any number of them around the whole. -/
theorem parse_of_writes (expr : Expr) (writable : expr.isWritable = true) :
    (∃ text, Writes expr.tokens text) ∧
      ∀ text before after, Writes expr.tokens text → (∀ c ∈ before, isSpace c = true) →
        (∀ c ∈ after, isSpace c = true) →
          parse (String.ofList (before ++ text ++ after)) = .ok expr := by
  refine ⟨(expr.allSpelled_tokens writable).exists_writes expr.tokens_ne_nil, ?_⟩
  intro text before after writes spaceBefore spaceAfter
  have few : expr.tokens.length < (before ++ text ++ after).length + 1 := by
    have := writes.length_le
    simp only [List.length_append]
    omega
  have scanned : scan? (before ++ text ++ after) = some expr.tokens :=
    writes.scanWith?_eq spaceBefore spaceAfter few
  rw [parse, String.toList_ofList, scanned]
  exact expr.ofTokens_tokens

/-- A comparison of a negated alternative, with parentheses where a negation needs them. -/
theorem parse_of_writes_negation :
    parse "not ( true or false )\t==\r\npkt4.mac" =
      .ok (.equal (.not (.or (.bool true) (.bool false))) (.field .mac)) := by
  have word (spelling : String) {token : Token} (listed : (spelling.toList, token) ∈ words) :
      token.Spells spelling.toList := .word listed
  have more {token : Token} {tokens : List Token} {spelling text : List Char} (gap : String)
      (filled : gap.toList ≠ []) (space : gap.toList.all isSpace = true)
      (spells : token.Spells spelling) (writes : Writes tokens text) :
      Writes (token :: tokens) (spelling ++ gap.toList ++ text) :=
    .more spells filled (List.all_eq_true.mp space) writes
  have writes : Writes (tokens (.equal (.not (.or (.bool true) (.bool false))) (.field .mac)))
      "not ( true or false )\t==\r\npkt4.mac".toList :=
    more " " (by decide) (by decide) (word "not" (by decide)) <|
    more " " (by decide) (by decide) (word "(" (by decide)) <|
    more " " (by decide) (by decide) (word "true" (by decide)) <|
    more " " (by decide) (by decide) (word "or" (by decide)) <|
    more " " (by decide) (by decide) (word "false" (by decide)) <|
    more "\t" (by decide) (by decide) (word ")" (by decide)) <|
    more "\r\n" (by decide) (by decide) (word "==" (by decide)) <|
    .last (word "pkt4.mac" (by decide))
  have read := (parse_of_writes _ rfl).2 _ [] [] writes (by simp) (by simp)
  simpa using read

end Leasehold.Expr
