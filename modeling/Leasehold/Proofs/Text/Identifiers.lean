import Mathlib.Data.List.Basic
import Leasehold.Identifier
import Leasehold.Proofs.Text.Digits

/-!
# Identifiers read back

Identifiers are copied from what was printed back into configurations. An identifier that was read is
printed as a text that is read as the same identifier, unless it has no bytes (`parse_spec`). Only two
quotes with nothing between them are read as an identifier without bytes: the text between quotes is
not asked whether it is empty, as digits are.

Bytes are read from any text that spells them (`Spells`): two digits of either letter case for each
byte, any separators between the bytes, and a mark for hexadecimal in front or not.
-/
namespace Leasehold

namespace Text

/-- What is left of an array is listed after what was listed before. -/
theorem toList_loop (array : ByteArray) (place : Nat) (listed : Bytes) :
    ByteArray.toList.loop array place listed = listed.reverse ++ array.data.toList.drop place := by
  fun_induction ByteArray.toList.loop array place listed with
  | case1 place listed inside ih =>
    have inList : place < array.data.toList.length := by
      rw [Array.length_toList]
      exact inside
    have next : array.get! place = array.data.toList[place] := by
      change array.data[place]! = _
      rw [Array.getElem_toList, getElem!_pos array.data place inside]
    rw [ih, List.drop_eq_getElem_cons inList, next, List.reverse_cons, List.append_assoc]
    rfl
  | case2 place listed past =>
    have beyond : array.data.toList.length ≤ place := by
      rw [Array.length_toList]
      exact Nat.le_of_not_lt past
    rw [List.drop_eq_nil_of_le beyond, List.append_nil]

/-- The bytes of a text are those of its characters, one after another. -/
theorem utf8_eq_flatMap (text : List Char) : utf8 text = text.flatMap String.utf8EncodeChar := by
  change ByteArray.toList.loop text.utf8Encode 0 [] = _
  rw [toList_loop, List.reverse_nil, List.nil_append, List.drop_zero, List.utf8Encode,
    List.toList_data_toByteArray]

/-- Only the empty text has no bytes. -/
theorem utf8_eq_nil_iff {text : List Char} : utf8 text = [] ↔ text = [] := by
  cases text with
  | nil => simp [utf8_eq_flatMap]
  | cons c rest =>
    have first : String.utf8EncodeChar c ≠ [] := fun none =>
      absurd (String.length_utf8EncodeChar c) (by rw [none]; exact Nat.ne_of_lt c.utf8Size_pos)
    simp [utf8_eq_flatMap, first]

/-- In a text of characters below 128, each is one byte. -/
theorem utf8_eq_map {text : List Char} (ascii : ∀ c ∈ text, c.toNat < 0x80) :
    utf8 text = text.map fun c => UInt8.ofNat c.toNat := by
  rw [utf8_eq_flatMap]
  induction text with
  | nil => rfl
  | cons c rest ih =>
    have small : c.val ≤ 0x7f := Nat.le_of_lt_succ (ascii c List.mem_cons_self)
    have single : String.utf8EncodeChar c = [UInt8.ofNat c.toNat] :=
      String.utf8EncodeChar_eq_singleton (if_pos small)
    rw [List.flatMap_cons, single, ih fun d member => ascii d (List.mem_cons_of_mem c member)]
    rfl

/-- A text without blanks is trimmed already. -/
theorem trim_eq_self {text : List Char} (plain : ∀ c ∈ text, isBlank c = false) :
    trim text = text := by
  have untouched {part : List Char} (plain : ∀ c ∈ part, isBlank c = false) :
      part.dropWhile isBlank = part := by
    cases part with
    | nil => rfl
    | cons c rest => rw [List.dropWhile_cons_of_neg (by simp [plain c List.mem_cons_self])]
  rw [trim, trimEnd, untouched plain,
    untouched fun c member => plain c (List.mem_reverse.mp member), List.reverse_reverse]

namespace Hex

/-- The character is the digit of the number, in either letter case. -/
def IsDigitOf (c : Char) (value : Nat) : Prop := c = digit value ∨ c = (digit value).toUpper

end Hex

end Text

open Text.Hex

namespace Identifier

/-- The character has no meaning in the text of an identifier other than as a digit or between
digits: it is not a blank, a quote or a part of the mark for hexadecimal. -/
def IsPlain (c : Char) : Prop :=
  Text.isBlank c = false ∧ c ≠ '\'' ∧ c ≠ 'x' ∧ c.toNat < 0x80

/-- Being plain is decidable. -/
instance (c : Char) : Decidable (IsPlain c) := inferInstanceAs (Decidable (_ ∧ _))

/-- The text spells the bytes: two digits of either letter case for each of them, and any separators
between those of one byte and the next. -/
inductive Spells : Bytes → List Char → Prop
  /-- One byte. -/
  | one {byte : UInt8} {high low : Char} (first : IsDigitOf high (byte.toNat / 16))
      (second : IsDigitOf low (byte.toNat % 16)) : Spells [byte] [high, low]
  /-- A byte before others. -/
  | more {byte : UInt8} {high low : Char} {rest : Bytes} {gap text : List Char}
      (first : IsDigitOf high (byte.toNat / 16)) (second : IsDigitOf low (byte.toNat % 16))
      (between : ∀ c ∈ gap, isSeparator c = true) (further : Spells rest text) :
      Spells (byte :: rest) ([high, low] ++ gap ++ text)

/-- Both letter cases of a digit are read as its number, and are plain characters of one byte that
may not stand between digits. -/
theorem of_isDigitOf {c : Char} {value : Nat} (small : value < 16) (spells : IsDigitOf c value) :
    value? (UInt8.ofNat c.toNat).toNat = some value ∧ isSeparator c = false ∧ IsPlain c := by
  have lower : ∀ value < 16, value? (UInt8.ofNat (digit value).toNat).toNat = some value ∧
      isSeparator (digit value) = false ∧ IsPlain (digit value) := by
    decide
  have upper : ∀ value < 16,
      value? (UInt8.ofNat (digit value).toUpper.toNat).toNat = some value ∧
        isSeparator (digit value).toUpper = false ∧ IsPlain (digit value).toUpper := by
    decide
  rcases spells with rfl | rfl
  · exact lower value small
  · exact upper value small

/-- The separators are the colon and the hyphen. -/
theorem eq_of_isSeparator {c : Char} (separator : isSeparator c = true) : c = ':' ∨ c = '-' := by
  simpa [isSeparator] using separator

/-- Separators are plain. -/
theorem isPlain_of_isSeparator {c : Char} (separator : isSeparator c = true) : IsPlain c := by
  rcases eq_of_isSeparator separator with rfl | rfl <;> decide

/-- Separators have no letter case. -/
theorem isSeparator_toUpper {c : Char} (separator : isSeparator c = true) :
    isSeparator c.toUpper = true := by
  rcases eq_of_isSeparator separator with rfl | rfl <;> decide

/-- The halves of a byte are numbers below sixteen. -/
theorem halves_lt (byte : UInt8) : byte.toNat / 16 < 16 ∧ byte.toNat % 16 < 16 := by
  have small : byte.toNat < 256 := byte.toNat_lt
  omega

namespace Spells

variable {bytes : Bytes} {text : List Char}

/-- Only plain characters are used. -/
theorem isPlain (spelled : Spells bytes text) : ∀ c ∈ text, IsPlain c := by
  have digits {byte : UInt8} {high low : Char} (first : IsDigitOf high (byte.toNat / 16))
      (second : IsDigitOf low (byte.toNat % 16)) : ∀ c ∈ [high, low], IsPlain c := by
    rintro c (_ | ⟨_, _ | ⟨_, none⟩⟩)
    · exact (of_isDigitOf (halves_lt byte).1 first).2.2
    · exact (of_isDigitOf (halves_lt byte).2 second).2.2
    · exact nomatch none
  induction spelled with
  | one first second => exact digits first second
  | more first second between further ih =>
    intro c member
    rcases List.mem_append.mp member with front | behind
    · rcases List.mem_append.mp front with digit | separator
      · exact digits first second c digit
      · exact isPlain_of_isSeparator (between c separator)
    · exact ih c behind

/-- The digits of a byte are not separators. -/
theorem filter_digits {byte : UInt8} {high low : Char}
    (first : IsDigitOf high (byte.toNat / 16)) (second : IsDigitOf low (byte.toNat % 16)) :
    [high, low].filter (!isSeparator ·) = [high, low] := by
  simp [(of_isDigitOf (halves_lt byte).1 first).2.1, (of_isDigitOf (halves_lt byte).2 second).2.1]

/-- Nothing is left of the separators between bytes. -/
theorem filter_gap {gap : List Char} (between : ∀ c ∈ gap, isSeparator c = true) :
    gap.filter (!isSeparator ·) = [] :=
  List.filter_eq_nil_iff.mpr fun c member => by simp [between c member]

/-- Two digits of a byte are read as it. -/
theorem decodeFrom_more {byte : UInt8} {high low : Char}
    (first : IsDigitOf high (byte.toNat / 16)) (second : IsDigitOf low (byte.toNat % 16))
    (position : Nat) (behind : Bytes) :
    Text.Hex.decodeFrom position
        (UInt8.ofNat high.toNat :: UInt8.ofNat low.toNat :: behind) =
      (Text.Hex.decodeFrom (position + 2) behind).map (byte :: ·) := by
  have parts : 16 * (byte.toNat / 16) + byte.toNat % 16 = byte.toNat := Nat.div_add_mod _ _
  rw [Text.Hex.decodeFrom, (of_isDigitOf (halves_lt byte).1 first).1,
    (of_isDigitOf (halves_lt byte).2 second).1]
  simp only [parts, UInt8.ofNat_toNat]

/-- Without the separators, two characters are left for each byte. -/
theorem length_filter (spelled : Spells bytes text) :
    (text.filter (!isSeparator ·)).length = 2 * bytes.length := by
  induction spelled with
  | one first second =>
    rw [filter_digits first second]
    rfl
  | more first second between further ih =>
    rw [List.filter_append, List.filter_append, filter_digits first second, filter_gap between,
      List.append_nil, List.length_append, ih]
    simp only [List.length_cons, List.length_nil]
    omega

/-- Without the separators, the digits are read as the bytes. -/
theorem decodeFrom (spelled : Spells bytes text) (position : Nat) :
    Text.Hex.decodeFrom position
      ((text.filter (!isSeparator ·)).map fun c => UInt8.ofNat c.toNat) = .ok bytes := by
  induction spelled generalizing position with
  | one first second =>
    rw [filter_digits first second]
    exact decodeFrom_more first second position []
  | more first second between further ih =>
    rw [List.filter_append, List.filter_append, filter_digits first second, filter_gap between,
      List.append_nil, List.cons_append, List.cons_append, List.nil_append, List.map_cons,
      List.map_cons, decodeFrom_more first second, ih]
    rfl

/-- Digits may be written in capital letters. -/
theorem toUpper (spelled : Spells bytes text) : Spells bytes (text.map Char.toUpper) := by
  have capital {c : Char} {value : Nat} (spells : IsDigitOf c value) (small : value < 16) :
      IsDigitOf c.toUpper value := by
    have again : ∀ value < 16, (digit value).toUpper.toUpper = (digit value).toUpper := by decide
    rcases spells with rfl | rfl
    · exact .inr rfl
    · exact .inr (again value small)
  induction spelled with
  | one first second =>
    exact .one (capital first (halves_lt _).1) (capital second (halves_lt _).2)
  | more first second between further ih =>
    rw [List.map_append, List.map_append]
    refine .more (capital first (halves_lt _).1) (capital second (halves_lt _).2) ?_ ih
    intro c member
    obtain ⟨separator, inside, rfl⟩ := List.mem_map.mp member
    exact isSeparator_toUpper (between separator inside)

/-- Some byte is spelled. -/
theorem ne_nil (spelled : Spells bytes text) : bytes ≠ [] := by
  cases spelled <;> exact List.cons_ne_nil _ _

/-- The digits are read as the bytes, with or without separators between them. -/
theorem decode (spelled : Spells bytes text) :
    Text.Hex.decode (Text.utf8 (text.filter (!isSeparator ·))) = .ok bytes := by
  have ascii : ∀ c ∈ text.filter (!isSeparator ·), c.toNat < 0x80 := fun c member =>
    (spelled.isPlain c (List.mem_filter.mp member).1).2.2.2
  have even : ¬ (Text.utf8 (text.filter (!isSeparator ·))).length % 2 = 1 := by
    rw [Text.utf8_eq_map ascii, List.length_map, spelled.length_filter]
    omega
  rw [Text.Hex.decode, if_neg even, Text.utf8_eq_map ascii]
  exact spelled.decodeFrom 0

end Spells

/-- A text in which nothing belongs to a mark has none at its front. -/
theorem dropMarks_eq_self {text : List Char} (plain : 'x' ∉ text) : dropMarks text = text := by
  unfold dropMarks
  split
  · exact absurd (List.mem_cons_of_mem _ List.mem_cons_self) plain
  · rfl

/-- A text is written in quotes exactly if it consists of them and the text between them. -/
theorem unquoted?_eq_some_iff {text inner : List Char} :
    unquoted? text = some inner ↔ text = '\'' :: (inner ++ ['\'']) := by
  constructor
  · intro quoted
    unfold unquoted? at quoted
    split at quoted
    · next rest =>
      split at quoted
      · next closed =>
        cases quoted
        rw [List.dropLast_append_getLast? _ closed]
      · exact nomatch quoted
    · exact nomatch quoted
  · rintro rfl
    simp [unquoted?]

/-- Digits are read as some byte at least. -/
theorem ne_nil_of_hexValue {text : List Char} {bytes : Bytes} (read : hexValue text = .ok bytes) :
    bytes ≠ [] := by
  unfold hexValue at read
  split at read
  · exact nomatch read
  · exact nomatch read
  · next bytes some _ =>
    cases read
    exact some

/-- A text without blanks and quotes is read in hexadecimal. -/
theorem valueOf_eq_hexValue {text : List Char}
    (bare : ∀ c ∈ text, Text.isBlank c = false ∧ c ≠ '\'') (kind : IdentifierKind) :
    valueOf kind text = hexValue text := by
  have trimmed : Text.trim text = text := Text.trim_eq_self fun c member => (bare c member).1
  have unquoted : unquoted? text = none := by
    rw [Option.eq_none_iff_forall_ne_some]
    intro inner quoted
    rw [unquoted?_eq_some_iff.mp quoted] at bare
    exact (bare '\'' List.mem_cons_self).2 rfl
  unfold valueOf
  dsimp only
  rw [trimmed, unquoted]

/-- A text that spells bytes is read as them, after a mark for hexadecimal or without one. -/
theorem valueOf_of_spells {bytes : Bytes} {text : List Char} (spelled : Spells bytes text)
    (kind : IdentifierKind) :
    valueOf kind text = .ok bytes ∧ valueOf kind ('0' :: 'x' :: text) = .ok bytes := by
  have bare : ∀ c ∈ text, Text.isBlank c = false ∧ c ≠ '\'' := fun c member =>
    ⟨(spelled.isPlain c member).1, (spelled.isPlain c member).2.1⟩
  have bareMarked : ∀ c ∈ '0' :: 'x' :: text, Text.isBlank c = false ∧ c ≠ '\'' := by
    rintro c (_ | ⟨_, _ | ⟨_, member⟩⟩)
    · decide
    · decide
    · exact bare c member
  have unmarked : dropMarks text = text :=
    dropMarks_eq_self fun member => (spelled.isPlain 'x' member).2.2.1 rfl
  have value {written : List Char} (marked : dropMarks written = text) :
      hexValue written = .ok bytes := by
    unfold hexValue
    rw [marked, spelled.decode]
    cases bytes with
    | nil => exact absurd rfl spelled.ne_nil
    | cons byte rest => rfl
  constructor
  · rw [valueOf_eq_hexValue bare]
    exact value unmarked
  · rw [valueOf_eq_hexValue bareMarked]
    exact value unmarked

/-- Bytes are spelled by their printed digits with any separators between them. -/
theorem spells_intercalate {gap : List Char} (between : ∀ c ∈ gap, isSeparator c = true)
    {bytes : Bytes} (some : bytes ≠ []) : Spells bytes (gap.intercalate (bytes.map pair)) := by
  induction bytes with
  | nil => exact absurd rfl some
  | cons byte rest ih =>
    cases rest with
    | nil => exact .one (.inl rfl) (.inl rfl)
    | cons next rest =>
      rw [List.map_cons, List.map_cons, List.intercalate_cons_cons]
      exact .more (.inl rfl) (.inl rfl) between (ih (List.cons_ne_nil next rest))

/-- No identifier is read from the empty text. -/
theorem valueOf_nil (kind : IdentifierKind) : valueOf kind [] = .error .empty := by
  have bytes : Text.utf8 ((dropMarks []).filter (!isSeparator ·)) = [] :=
    Text.utf8_eq_nil_iff.mpr rfl
  have empty : hexValue [] = .error .empty := by
    unfold hexValue
    rw [bytes]
    rfl
  exact empty

/-- What is printed of an identifier is read back exactly if it has bytes. -/
theorem parse_valueText_iff (kind : IdentifierKind) (bytes : Bytes) :
    parse kind (String.ofList (valueText ⟨kind, bytes⟩)) = .ok ⟨kind, bytes⟩ ↔ bytes ≠ [] := by
  unfold parse
  rw [String.toList_ofList]
  by_cases none : bytes = []
  · subst none
    have empty : valueText ⟨kind, []⟩ = [] := rfl
    rw [empty, valueOf_nil]
    simp
  · have colons : ∀ c ∈ [':'], isSeparator c = true := List.forall_mem_singleton.mpr rfl
    have spelled : Spells bytes (valueText ⟨kind, bytes⟩) := spells_intercalate colons none
    rw [(valueOf_of_spells spelled kind).1]
    simp [none]

/-- Which identifiers are read without any byte. -/
theorem eq_nil_iff_of_valueOf {kind : IdentifierKind} {text : List Char} {bytes : Bytes}
    (read : valueOf kind text = .ok bytes) :
    bytes = [] ↔ kind = .circuitId ∧ Text.trim text = ['\'', '\''] := by
  unfold valueOf at read
  dsimp only at read
  split at read
  · next inner quoted =>
    rw [unquoted?_eq_some_iff.mp quoted]
    split at read
    · next circuit =>
      cases read
      rw [Text.utf8_eq_nil_iff]
      constructor
      · rintro rfl
        exact ⟨circuit, rfl⟩
      · rintro ⟨-, same⟩
        simpa using same
    · exact nomatch read
  · next unquoted =>
    constructor
    · exact fun none => absurd none (ne_nil_of_hexValue read)
    · rintro ⟨-, quotes⟩
      rw [quotes] at unquoted
      exact nomatch unquoted

/-- What was read is printed as a text that is read as the same identifier, unless it has no bytes,
which two quotes alone are read as. Every text that spells bytes is read as them, and all bytes are
spelled by their digits in either letter case, with any separators between them. -/
theorem parse_spec (kind : IdentifierKind) :
    (∀ text identifier, parse kind text = .ok identifier →
      identifier.kind = kind ∧
      (identifier.value = [] ↔ kind = .circuitId ∧ Text.trim text.toList = ['\'', '\'']) ∧
      (parse kind (String.ofList identifier.valueText) = .ok identifier ↔ identifier.value ≠ [])) ∧
    (∀ bytes text, Spells bytes text →
      parse kind (String.ofList text) = .ok ⟨kind, bytes⟩ ∧
      parse kind (String.ofList ('0' :: 'x' :: text)) = .ok ⟨kind, bytes⟩) ∧
    ∀ bytes, bytes ≠ [] → ∀ gap : List Char, (∀ c ∈ gap, isSeparator c = true) →
      Spells bytes (gap.intercalate (bytes.map pair)) ∧
      Spells bytes ((gap.intercalate (bytes.map pair)).map Char.toUpper) := by
  refine ⟨fun text identifier read => ?_, fun bytes text spelled => ?_, ?_⟩
  · unfold parse at read
    split at read
    · next bytes value =>
      cases read
      exact ⟨rfl, eq_nil_iff_of_valueOf value, parse_valueText_iff kind bytes⟩
    · exact nomatch read
  · unfold parse
    rw [String.toList_ofList, String.toList_ofList, (valueOf_of_spells spelled kind).1,
      (valueOf_of_spells spelled kind).2]
    exact ⟨rfl, rfl⟩
  · intro bytes some gap between
    have spelled : Spells bytes (gap.intercalate (bytes.map pair)) :=
      spells_intercalate between some
    exact ⟨spelled, spelled.toUpper⟩

/-- The conditions can be met: digits of either letter case after a mark are read, and what is
printed of them is read back. -/
theorem parse_spec_of_marked_digits :
    parse .duid (String.ofList ['0', 'x', '0', '0', '-', '0', 'A']) = .ok ⟨.duid, [0, 10]⟩ ∧
      parse .duid (String.ofList (valueText ⟨.duid, [0, 10]⟩)) = .ok ⟨.duid, [0, 10]⟩ := by
  have spelled : Spells [0, 10] (['0', '0'] ++ ['-'] ++ ['0', 'A']) :=
    .more (.inl rfl) (.inl rfl) (List.forall_mem_singleton.mpr rfl) (.one (.inl rfl) (.inr rfl))
  have read := ((parse_spec .duid).2.1 _ _ spelled).2
  exact ⟨read, ((parse_spec .duid).1 _ _ read).2.2.mpr (List.cons_ne_nil _ _)⟩

/-- Two quotes are read as an identifier without bytes, which cannot be read back. -/
theorem quotes_not_read_back :
    ¬ ∀ (kind : IdentifierKind) (text : String) (identifier : Identifier),
      parse kind text = .ok identifier →
      identifier.value ≠ [] ∧ parse kind (String.ofList identifier.valueText) = .ok identifier := by
  intro readBack
  have value : valueOf .circuitId ['\'', '\''] = .ok [] := by
    change Except.ok (Text.utf8 []) = _
    rw [Text.utf8_eq_nil_iff.mpr rfl]
  have read : parse .circuitId (String.ofList ['\'', '\'']) = .ok ⟨.circuitId, []⟩ := by
    unfold parse
    rw [String.toList_ofList, value]
  exact (readBack _ _ _ read).1 rfl

end Identifier

end Leasehold
