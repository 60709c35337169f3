import Leasehold.Proofs.Json.Pieces

/-!
# Printed JSON is cut into tokens

A printed value is cut into the same tokens whether it stands on one line or on several
(`spells_compact`, `spells_prettyAt`). What is cut off is stated with everything that may follow
(`Spells`), so that the parts of a value can be put together: blanks add nothing, a mark is a token
of its own, and only a number cares about the character after it.
-/
namespace Leasehold.Json

open Token

mutual

/-- The tokens that a printed value is cut into. -/
def tokens : Json → List Token
  | .null => [.literal .null]
  | .bool value => [.literal (.bool value)]
  | .number value => [.literal (.whole value)]
  | .text value => [.string (some value)]
  | .list items => .openList :: itemsTokens items ++ [.closeList]
  | .object fields => .openObject :: fieldsTokens fields ++ [.closeObject]

/-- The tokens of the items of an array, with commas between them. -/
def itemsTokens : List Json → List Token
  | [] => []
  | [item] => tokens item
  | item :: rest => tokens item ++ .comma :: itemsTokens rest

/-- The tokens of the fields of an object, with commas between them. -/
def fieldsTokens : List (String × Json) → List Token
  | [] => []
  | [(name, value)] => .string (some name) :: .colon :: tokens value
  | (name, value) :: rest =>
    .string (some name) :: .colon :: tokens value ++ .comma :: fieldsTokens rest

end

/-- A value that is read back with as many levels of containers as there is room for: each of its
numbers fits 64 bits. -/
inductive Readable : Nat → Json → Prop where
  /-- Null is readable. -/
  | null {room : Nat} : Readable room .null
  /-- A truth value is readable. -/
  | bool {room : Nat} {value : Bool} : Readable room (.bool value)
  /-- A number of 64 bits is readable. -/
  | number {room value : Nat} (small : value ≤ largestLong) : Readable room (.number value)
  /-- A text is readable. -/
  | text {room : Nat} {value : String} : Readable room (.text value)
  /-- An array takes a level, and its items have one level less. -/
  | list {room : Nat} {items : List Json} (each : ∀ item ∈ items, Readable room item) :
      Readable (room + 1) (.list items)
  /-- An object takes a level, and its values have one level less. -/
  | object {room : Nat} {fields : List (String × Json)}
      (each : ∀ field ∈ fields, Readable room field.2) : Readable (room + 1) (.object fields)

/-- A list that is written item by item, with a mark between them. -/
theorem eq_intercalate {α β : Type} {between : β} {write : α → List β} {all : List α → List β}
    (none : all [] = []) (single : ∀ item, all [item] = write item)
    (more : ∀ item next rest,
      all (item :: next :: rest) = write item ++ between :: all (next :: rest))
    (items : List α) : all items = [between].intercalate (items.map write) := by
  induction items with
  | nil => simpa using none
  | cons item items ih =>
    cases items with
    | nil => simpa using single item
    | cons next items => simp [more, ih, List.intercalate_cons_cons]

/-- The items of an array are printed with commas between them. -/
theorem compactItems_eq (items : List Json) :
    compactItems items = [','].intercalate (items.map compact) :=
  eq_intercalate rfl (fun _ => rfl) (fun _ _ _ => rfl) items

/-- The fields of an object are printed with commas between them. -/
theorem compactFields_eq (fields : List (String × Json)) :
    compactFields fields =
      [','].intercalate (fields.map fun field => quotedText field.1 ++ ':' :: field.2.compact) :=
  eq_intercalate rfl (fun _ => rfl) (fun _ _ _ => by simp [compactFields]) fields

/-- The items of an array are printed each on a line of its own, with commas between them. -/
theorem prettyItems_eq (level : Nat) (items : List Json) :
    prettyItems level items =
      [','].intercalate (items.map fun item => lineBreak level ++ item.prettyAt level) :=
  eq_intercalate rfl (fun _ => rfl) (fun _ _ _ => rfl) items

/-- The fields of an object are printed each on a line of its own, with commas between them. -/
theorem prettyFields_eq (level : Nat) (fields : List (String × Json)) :
    prettyFields level fields =
      [','].intercalate (fields.map fun field =>
        lineBreak level ++ (quotedText field.1 ++ ':' :: ' ' :: field.2.prettyAt level)) :=
  eq_intercalate rfl (fun _ => by simp [prettyFields]) (fun _ _ _ => by simp [prettyFields]) fields

/-- The tokens of the items of an array have commas between them. -/
theorem itemsTokens_eq (items : List Json) :
    itemsTokens items = [.comma].intercalate (items.map tokens) :=
  eq_intercalate rfl (fun _ => rfl) (fun _ _ _ => rfl) items

/-- The tokens of the fields of an object have commas between them. -/
theorem fieldsTokens_eq (fields : List (String × Json)) :
    fieldsTokens fields =
      [.comma].intercalate
        (fields.map fun field => .string (some field.1) :: .colon :: field.2.tokens) :=
  eq_intercalate rfl (fun _ => rfl) (fun _ _ _ => rfl) fields

/-- The character is a token of its own, and cannot be taken for a part of a number. -/
structure Mark (c : Char) (token : Token) : Prop where
  /-- It is not a blank. -/
  solid : isSpace c = false
  /-- It does not continue a number. -/
  apart : isNumeric c = false
  /-- It is cut off the front of a text. -/
  next : ∀ fuel rest, next? fuel (c :: rest) = some (token, rest)

/-- A comma is a mark. -/
theorem mark_comma : Mark ',' .comma := ⟨by decide, by decide, fun _ _ => rfl⟩

/-- A colon is a mark. -/
theorem mark_colon : Mark ':' .colon := ⟨by decide, by decide, fun _ _ => rfl⟩

/-- The start of an array is a mark. -/
theorem mark_openList : Mark '[' .openList := ⟨by decide, by decide, fun _ _ => rfl⟩

/-- The end of an array is a mark. -/
theorem mark_closeList : Mark ']' .closeList := ⟨by decide, by decide, fun _ _ => rfl⟩

/-- The start of an object is a mark. -/
theorem mark_openObject : Mark '\x7b' .openObject := ⟨by decide, by decide, fun _ _ => rfl⟩

/-- The end of an object is a mark. -/
theorem mark_closeObject : Mark '\x7d' .closeObject := ⟨by decide, by decide, fun _ _ => rfl⟩

/-- The text is cut into the tokens, whatever the fuel beyond its length. -/
def Scans (text : List Char) (tokens : List Token) : Prop :=
  ∀ fuel, text.length < fuel → scanWith? fuel text = some tokens

namespace Scans

variable {c : Char} {text rest : List Char} {head : Token} {others : List Token}

/-- There are no tokens in an empty text. -/
theorem nil : Scans [] [] := by
  intro fuel enough
  obtain ⟨fuel, rfl⟩ : ∃ less, fuel = less + 1 := ⟨fuel - 1, by omega⟩
  rfl

/-- A blank adds no token. -/
theorem space (blank : isSpace c = true) (scans : Scans text others) :
    Scans (c :: text) others := by
  intro fuel enough
  rw [List.length_cons] at enough
  obtain ⟨fuel, rfl⟩ : ∃ less, fuel = less + 1 := ⟨fuel - 1, by omega⟩
  have inner := scans (fuel + 1) (by omega)
  simpa [scanWith?, blank] using inner

/-- A token is cut off the front. -/
theorem cut (solid : isSpace c = false)
    (next : ∀ fuel, (c :: text).length < fuel → next? fuel (c :: text) = some (head, rest))
    (shorter : rest.length ≤ text.length) (scans : Scans rest others) :
    Scans (c :: text) (head :: others) := by
  intro fuel enough
  have first := next fuel enough
  rw [List.length_cons] at enough
  obtain ⟨fuel, rfl⟩ : ∃ less, fuel = less + 1 := ⟨fuel - 1, by omega⟩
  have inner := scans fuel (by omega)
  simp [scanWith?, solid, first, inner]

/-- A printed text is cut off the front. -/
theorem quotedText (name : String) (scans : Scans rest others) :
    Scans (Json.quotedText name ++ rest) (.string (some name) :: others) := by
  have shorter : rest.length ≤ (name.toList.flatMap escaped ++ ['"'] ++ rest).length := by
    simp only [List.length_append]
    omega
  exact scans.cut (by decide) (fun _ enough => next?_quotedText name rest enough) shorter

end Scans

/-- The text is cut into the tokens, whatever follows that does not begin like the rest of a
number. -/
def Spells (text : List Char) (tokens : List Token) : Prop :=
  ∀ rest others, Text.Halts isNumeric rest → Scans rest others →
    Scans (text ++ rest) (tokens ++ others)

namespace Spells

variable {c : Char} {text left right : List Char} {head : Token} {tokens first second : List Token}

/-- An empty text has no tokens. -/
theorem nil : Spells [] [] := fun _ _ _ scans => scans

/-- A blank adds no token. -/
theorem space (blank : isSpace c = true) (spells : Spells text tokens) :
    Spells (c :: text) tokens := fun rest others halts scans =>
  (spells rest others halts scans).space blank

/-- A mark is cut off the front. -/
theorem mark (mark : Mark c head) (spells : Spells text tokens) :
    Spells (c :: text) (head :: tokens) := fun rest others halts scans =>
  (spells rest others halts scans).cut mark.solid (fun fuel _ => mark.next fuel _) (Nat.le_refl _)

/-- Two texts are cut one after the other, if the second does not continue a number. -/
theorem append (apart : isNumeric c = false) (front : Spells left first)
    (back : Spells (c :: right) second) : Spells (left ++ c :: right) (first ++ second) := by
  intro rest others halts scans
  have later := back rest others halts scans
  have whole := front _ _ (by simpa using apart) later
  simpa using whole

/-- Pieces with commas between them are cut one after the other. -/
theorem intercalate {α : Type} {print : α → List Char} {cut : α → List Token} {items : List α}
    (each : ∀ item ∈ items, Spells (print item) (cut item)) :
    Spells ([','].intercalate (items.map print)) ([.comma].intercalate (items.map cut)) := by
  induction items with
  | nil => exact nil
  | cons item items ih =>
    have here := each item List.mem_cons_self
    have later := ih fun other member => each other (List.mem_cons_of_mem _ member)
    cases items with
    | nil => simpa using here
    | cons next items =>
      simp only [List.map_cons, List.intercalate_cons_cons, List.append_assoc,
        List.singleton_append] at later ⊢
      exact here.append mark_comma.apart (later.mark mark_comma)

/-- The name of a field and the colon after it are cut off the front. -/
theorem field (name : String) (spells : Spells text tokens) :
    Spells (quotedText name ++ ':' :: text) (.string (some name) :: .colon :: tokens) := by
  intro rest others halts scans
  have later : Scans (':' :: text ++ rest) (.colon :: tokens ++ others) :=
    spells.mark mark_colon rest others halts scans
  simpa using later.quotedText name

/-- A line break adds no token. -/
theorem lineBreak (level : Nat) (spells : Spells text tokens) :
    Spells (Json.lineBreak level ++ text) tokens := by
  have blanks : Spells (List.replicate (2 * level) ' ' ++ text) tokens := by
    induction 2 * level with
    | zero => exact spells
    | succ count ih => exact ih.space (by decide)
  exact blanks.space (by decide)

/-- A printed word without blanks is one token. -/
theorem word (solid : isSpace c = false)
    (next : ∀ fuel rest, next? fuel (c :: text ++ rest) = some (head, rest)) :
    Spells (c :: text) [head] := by
  intro rest others _ scans
  have shorter : rest.length ≤ (text ++ rest).length := by simp
  exact scans.cut solid (fun fuel _ => next fuel rest) shorter

/-- A printed number of 64 bits is one token. -/
theorem digits {value : Nat} (small : value ≤ largestLong) :
    Spells (Text.Decimal.digits value) [.literal (.whole value)] := by
  intro rest others halts scans
  have read := Number.read?_digits small halts
  cases written : Text.Decimal.digits value with
  | nil => exact absurd written (Text.Decimal.digits_ne_nil value)
  | cons c more =>
    have digit : Text.Decimal.isDigit c = true :=
      Text.Decimal.isDigit_of_mem_digits (written ▸ List.mem_cons_self)
    have solid : isSpace c = false := by
      rw [Bool.eq_false_iff]
      intro blank
      simp only [isSpace, Bool.or_eq_true, decide_eq_true_eq] at blank
      rcases blank with ((rfl | rfl) | rfl) | rfl <;> exact absurd digit (by decide)
    have shorter : rest.length ≤ (more ++ rest).length := by simp
    rw [written, List.cons_append] at read
    have next (fuel : Nat) :
        next? fuel (c :: (more ++ rest)) = some (.literal (.whole value), rest) := by
      rw [next?_digit digit, read]
      rfl
    exact scans.cut solid (fun fuel _ => next fuel) shorter

/-- The word for null is one token. -/
theorem null : Spells "null".toList [.literal .null] := word (by decide) fun _ _ => rfl

/-- The word for a truth value is one token. -/
theorem bool (value : Bool) : Spells (Json.bool value).leaf [.literal (.bool value)] := by
  cases value with
  | false => exact word (by decide) fun _ _ => rfl
  | true => exact word (by decide) fun _ _ => rfl

/-- A printed text is one token. -/
theorem quotedText (value : String) : Spells (Json.quotedText value) [.string (some value)] :=
  fun _ _ _ scans => scans.quotedText value

/-- The marks around a container are cut off. -/
theorem enclosed {opening closing : Char} {first last : Token} (opens : Mark opening first)
    (closes : Mark closing last) (spells : Spells text tokens) :
    Spells (opening :: text ++ [closing]) (first :: tokens ++ [last]) :=
  (spells.append closes.apart (nil.mark closes)).mark opens

/-- The mark at the end of a container may stand on a line of its own. -/
theorem enclosed_lineBreak {opening closing : Char} {first last : Token} (level : Nat)
    (opens : Mark opening first) (closes : Mark closing last) (spells : Spells text tokens) :
    Spells (opening :: text ++ Json.lineBreak level ++ [closing]) (first :: tokens ++ [last]) := by
  have finish : Spells (Json.lineBreak level ++ [closing]) [last] :=
    (nil.mark closes).lineBreak level
  rw [List.append_assoc]
  exact (spells.append (by decide) finish).mark opens

end Spells

/-- A value on one line is cut into its tokens. -/
theorem spells_compact {room : Nat} {value : Json} (readable : Readable room value) :
    Spells value.compact value.tokens := by
  induction readable with
  | null => exact .null
  | bool => exact .bool _
  | number small => exact .digits small
  | text => exact .quotedText _
  | list _ each =>
    have items := Spells.intercalate each
    rw [← compactItems_eq, ← itemsTokens_eq] at items
    exact items.enclosed mark_openList mark_closeList
  | object _ each =>
    have fields := Spells.intercalate fun field member => (each field member).field field.1
    rw [← compactFields_eq, ← fieldsTokens_eq] at fields
    exact fields.enclosed mark_openObject mark_closeObject

/-- A value on several lines is cut into the same tokens. -/
theorem spells_prettyAt {room : Nat} {value : Json} (readable : Readable room value) (level : Nat) :
    Spells (value.prettyAt level) value.tokens := by
  induction readable generalizing level with
  | null => exact .null
  | bool => exact .bool _
  | number small => exact .digits small
  | text => exact .quotedText _
  | @list _ items _ each =>
    have lines := Spells.intercalate fun item member =>
      (each item member (level + 1)).lineBreak (level + 1)
    rw [← prettyItems_eq, ← itemsTokens_eq] at lines
    cases items with
    | nil => exact lines.enclosed mark_openList mark_closeList
    | cons item items => exact lines.enclosed_lineBreak level mark_openList mark_closeList
  | @object _ fields _ each =>
    have blank : isSpace ' ' = true := by decide
    have lines := Spells.intercalate fun field member =>
      (((each field member (level + 1)).space blank).field field.1).lineBreak (level + 1)
    rw [← prettyFields_eq, ← fieldsTokens_eq] at lines
    cases fields with
    | nil => exact lines.enclosed mark_openObject mark_closeObject
    | cons field fields => exact lines.enclosed_lineBreak level mark_openObject mark_closeObject

end Leasehold.Json
