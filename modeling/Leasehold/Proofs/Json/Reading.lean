import Leasehold.Proofs.Json.Scanning

/-!
# Printed JSON is read back

The tokens of a value are built into its document, and twice as much fuel as there are tokens is
enough. With the cutting into tokens this reads a printed value back as its document, in either form
(`read?_compact`, `read?_pretty`).
-/
namespace Leasehold.Json

open Token

/-- A value has a token. -/
theorem length_tokens_pos (value : Json) : 0 < value.tokens.length := by
  cases value <;> simp [tokens]

/-- A value does not begin with the end of an array. -/
theorem head_tokens_ne (value : Json) : value.tokens.head? ≠ some .closeList := by
  cases value <;> simp [tokens]

/-- The value is built from its tokens, whatever follows them. -/
def Builds (room : Nat) (value : Json) : Prop :=
  ∀ fuel rest, 2 * value.tokens.length ≤ fuel + 1 →
    value? fuel room (value.tokens ++ rest) = some (value.node, rest)

/-- The items of an array are built up to its end. -/
theorem items?_itemsTokens {room : Nat} {item : Json} {items : List Json}
    (each : ∀ other ∈ item :: items, Builds room other) {fuel : Nat}
    (enough : 2 * (itemsTokens (item :: items)).length ≤ fuel) (rest : List Token) :
    items? fuel room (itemsTokens (item :: items) ++ .closeList :: rest) =
      some (nodeItems (item :: items), rest) := by
  induction items generalizing item fuel with
  | nil =>
    have positive := length_tokens_pos item
    simp only [itemsTokens] at enough ⊢
    obtain ⟨fuel, rfl⟩ : ∃ less, fuel = less + 1 := ⟨fuel - 1, by omega⟩
    have here := each item List.mem_cons_self fuel (.closeList :: rest) (by omega)
    simp [items?, here, nodeItems]
  | cons next items ih =>
    simp only [itemsTokens, List.length_append, List.length_cons] at enough
    obtain ⟨fuel, rfl⟩ : ∃ less, fuel = less + 1 := ⟨fuel - 1, by omega⟩
    have here := each item List.mem_cons_self fuel
      (.comma :: (itemsTokens (next :: items) ++ .closeList :: rest)) (by omega)
    have later := ih (fun other member => each other (List.mem_cons_of_mem _ member))
      (show 2 * (itemsTokens (next :: items)).length ≤ fuel by omega)
    simp [items?, itemsTokens, here, later, nodeItems]

/-- The fields of an object are built up to its end. -/
theorem fields?_fieldsTokens {room : Nat} {field : String × Json} {fields : List (String × Json)}
    (each : ∀ other ∈ field :: fields, Builds room other.2) {fuel : Nat}
    (enough : 2 * (fieldsTokens (field :: fields)).length ≤ fuel) (rest : List Token) :
    fields? fuel room (fieldsTokens (field :: fields) ++ .closeObject :: rest) =
      some (nodeFields (field :: fields), rest) := by
  induction fields generalizing field fuel with
  | nil =>
    simp only [fieldsTokens, List.length_cons] at enough ⊢
    obtain ⟨fuel, rfl⟩ : ∃ less, fuel = less + 1 := ⟨fuel - 1, by omega⟩
    have here := each field List.mem_cons_self fuel (.closeObject :: rest) (by omega)
    simp [fields?, here, nodeFields, textNode]
  | cons next fields ih =>
    simp only [fieldsTokens, List.length_append, List.length_cons] at enough
    obtain ⟨fuel, rfl⟩ : ∃ less, fuel = less + 1 := ⟨fuel - 1, by omega⟩
    have here := each field List.mem_cons_self fuel
      (.comma :: (fieldsTokens (next :: fields) ++ .closeObject :: rest)) (by omega)
    have later := ih (fun other member => each other (List.mem_cons_of_mem _ member))
      (show 2 * (fieldsTokens (next :: fields)).length ≤ fuel by omega)
    simp [fields?, fieldsTokens, here, later, nodeFields, textNode]

/-- An array that does not end at once has items. -/
theorem value?_openList {tokens : List Token} (further : tokens.head? ≠ some .closeList)
    (fuel room : Nat) :
    value? (fuel + 1) (room + 1) (.openList :: tokens) =
      (items? fuel room tokens).map fun (items, rest) => (.list items, rest) := by
  cases tokens with
  | nil => rfl
  | cons head tokens =>
    have other : head ≠ .closeList := fun same => further (by rw [same]; rfl)
    simp [value?, bounded, other]

/-- An object that does not end at once has fields. -/
theorem value?_openObject {tokens : List Token} (further : tokens.head? ≠ some .closeObject)
    (fuel room : Nat) :
    value? (fuel + 1) (room + 1) (.openObject :: tokens) =
      (fields? fuel room tokens).map fun (fields, rest) => (.map fields, rest) := by
  cases tokens with
  | nil => rfl
  | cons head tokens =>
    have other : head ≠ .closeObject := fun same => further (by rw [same]; rfl)
    simp [value?, bounded, other]

/-- The tokens of an object with fields do not begin with its end. -/
theorem head_fieldsTokens_ne (field : String × Json) (fields : List (String × Json))
    (rest : List Token) :
    (fieldsTokens (field :: fields) ++ rest).head? ≠ some .closeObject := by
  cases fields <;> simp [fieldsTokens]

/-- The tokens of an array with items do not begin with its end. -/
theorem head_itemsTokens_ne (item : Json) (items : List Json) (rest : List Token) :
    (itemsTokens (item :: items) ++ rest).head? ≠ some .closeList := by
  obtain ⟨head, more, first⟩ := List.exists_cons_of_length_pos (length_tokens_pos item)
  have other := head_tokens_ne item
  rw [first] at other
  cases items <;> simpa [itemsTokens, first] using other

/-- A value has a token, so there is fuel to begin with. -/
theorem builds_of_succ {room : Nat} {value : Json}
    (build : ∀ fuel rest, 2 * value.tokens.length ≤ fuel + 2 →
      value? (fuel + 1) room (value.tokens ++ rest) = some (value.node, rest)) :
    Builds room value := by
  intro fuel rest enough
  have positive := length_tokens_pos value
  obtain ⟨fuel, rfl⟩ : ∃ less, fuel = less + 1 := ⟨fuel - 1, by omega⟩
  exact build fuel rest enough

/-- A readable value is built from its tokens. -/
theorem builds_of_readable {room : Nat} {value : Json} (readable : Readable room value) :
    Builds room value := by
  induction readable with
  | null => exact builds_of_succ fun _ _ _ => rfl
  | bool => exact builds_of_succ fun _ _ _ => rfl
  | number small => exact builds_of_succ fun _ _ _ => by simp [tokens, value?, node, small]
  | text => exact builds_of_succ fun _ _ _ => rfl
  | @list room items _ each =>
    refine builds_of_succ fun fuel rest enough => ?_
    simp only [tokens, List.length_append, List.length_cons, List.length_nil] at enough
    cases items with
    | nil => rfl
    | cons item items =>
      have fit : 2 * (itemsTokens (item :: items)).length ≤ fuel := by omega
      simp only [tokens, List.cons_append, List.append_assoc, List.nil_append]
      rw [value?_openList (head_itemsTokens_ne item items _), items?_itemsTokens each fit rest]
      rfl
  | @object room fields _ each =>
    refine builds_of_succ fun fuel rest enough => ?_
    simp only [tokens, List.length_append, List.length_cons, List.length_nil] at enough
    cases fields with
    | nil => rfl
    | cons field fields =>
      have fit : 2 * (fieldsTokens (field :: fields)).length ≤ fuel := by omega
      simp only [tokens, List.cons_append, List.append_assoc, List.nil_append]
      rw [value?_openObject (head_fieldsTokens_ne field fields _),
        fields?_fieldsTokens each fit rest]
      rfl

/-- A text that is cut into the tokens of a readable value is read as its document. -/
theorem read?_of_spells {value : Json} {text : List Char} (readable : Readable maxDepth value)
    (spells : Spells text value.tokens) : read? text = some value.node := by
  have scanned : scan? text = some value.tokens := by
    have alone := spells [] [] Text.halts_nil .nil
    rw [List.append_nil, List.append_nil] at alone
    exact alone _ (Nat.lt_succ_self _)
  have built : value? (2 * value.tokens.length + 1) maxDepth value.tokens =
      some (value.node, []) := by
    have alone := builds_of_readable readable (2 * value.tokens.length + 1) [] (by omega)
    rwa [List.append_nil] at alone
  simp [read?, scanned, built]

/-- A readable value on one line is read back. -/
theorem read?_compact {value : Json} (readable : Readable maxDepth value) :
    read? value.compact = some value.node :=
  read?_of_spells readable (spells_compact readable)

/-- A readable value on several lines is read back. -/
theorem read?_pretty {value : Json} (readable : Readable maxDepth value) :
    read? value.pretty.toList = some value.node := by
  rw [pretty, String.toList_ofList]
  exact read?_of_spells readable (spells_prettyAt readable 0)

end Leasehold.Json
