import Leasehold.Config.Decode
import Leasehold.Config.Encode
import Leasehold.Proofs.Document.Records
import Leasehold.Proofs.Text.Addresses

/-!
# Kinds of values that are written and read back

Each kind of value of a configuration has a writer and a decoder. The pair is faithful when every
value is decoded from what was written, and nothing is written as null, which stands for an absent
value. A faithful pair also says how many levels of containers it writes, because only so many are
read.
-/
namespace Leasehold

namespace Json

/-- Every value of a kind is written with at most so many levels of containers, and not as null, and
is decoded from what was written. -/
structure Faithful {α : Type} (levels : Nat) (encode : α → Json) (decode : Node → Option α) :
    Prop where
  /-- A value is decoded from its document. -/
  back : ∀ value, decode (encode value).node = some value
  /-- No value is written as null. -/
  solid : ∀ value, (encode value).node.isNull = false
  /-- A value is read where there is room for its levels. -/
  readable : ∀ {room}, levels ≤ room → ∀ value, Readable room (encode value)

namespace Faithful

variable {α : Type} {levels : Nat} {encode : α → Json} {decode : Node → Option α}

/-- A value that is written as its name is read back if the name is. -/
theorem ofText {print : α → String}
    (back : ∀ value, decode (Node.ofText (print value)) = some value) :
    Faithful 0 (fun value => .text (print value)) decode :=
  ⟨back, fun _ => rfl, fun _ _ => .text⟩

/-- A value that is written as a number is read back if the number is. -/
theorem ofNat {print : α → Nat} (small : ∀ value, print value ≤ largestLong)
    (back : ∀ value, decode (.scalar (.whole (print value)) none) = some value) :
    Faithful 0 (fun value => .number (print value)) decode where
  back value := by simpa [node, small value] using back value
  solid value := by simp [node, small value, Node.isNull]
  readable _ value := .number (small value)

/-- A list of values is read back if each value is. -/
theorem list (faithful : Faithful levels encode decode) :
    Faithful (levels + 1) (Config.listJson encode) (·.list? decode) where
  back values := by
    simp only [Config.listJson, node, Node.list?]
    induction values with
    | nil => rfl
    | cons value values ih => simp [nodeItems, faithful.back, ih]
  solid _ := rfl
  readable {room} enough values := by
    obtain ⟨less, rfl⟩ : ∃ less, room = less + 1 := ⟨room - 1, by omega⟩
    refine .list fun item member => ?_
    obtain ⟨value, _, rfl⟩ := List.mem_map.mp member
    exact faithful.readable (by omega) value

/-- A value that may be absent is written with as many levels. -/
theorem readable_ofOption (faithful : Faithful levels encode decode) {room : Nat}
    (enough : levels ≤ room) (value : Option α) : Readable room (ofOption encode value) := by
  cases value with
  | none => exact .null
  | some value => exact faithful.readable enough value

/-- A field that may be left out is written with as many levels. -/
theorem readable_present (faithful : Faithful levels encode decode) {room : Nat}
    (enough : levels ≤ room) (name : String) (value : Option α) :
    ∀ field ∈ present name encode value, Readable room field.2 := by
  cases value with
  | none => exact fun _ => nofun
  | some value => simpa [present] using faithful.readable enough value

/-- An object takes one level more than its fields. -/
theorem readable_object {written : List (String × Json)}
    (inside : ∀ {room}, levels ≤ room → ∀ field ∈ written, Readable room field.2) {room : Nat}
    (enough : levels + 1 ≤ room) : Readable room (.object written) := by
  obtain ⟨less, rfl⟩ : ∃ less, room = less + 1 := ⟨room - 1, by omega⟩
  exact .object (inside (by omega))

/-- A record is read back from its own object if it is built from what was written under its
names. -/
theorem record {names : List String} {write : α → List (String × Json)}
    {build : Node.Fields → Option α} (distinct : ∀ value, ((write value).map Prod.fst).Nodup)
    (built : ∀ value fields, Holds fields names (write value) → build fields = some value)
    (readable : ∀ {room}, levels ≤ room → ∀ value, ∀ field ∈ write value, Readable room field.2) :
    Faithful (levels + 1) (fun value => .object (write value))
      (fun node => (node.record? names).bind build) where
  back value := by
    obtain ⟨fields, read, holds⟩ := record?_object names (distinct value)
    simp [read, built value fields holds]
  solid _ := rfl
  readable enough value := readable_object (readable · value) enough

/-- A record that shares its object with a second one is read back if both are built from what was
written under their names. -/
theorem shared {names inner : List String} {write : α → List (String × Json)}
    {build : Node.Fields × Node.Fields → Option α} (apart : ∀ name ∈ inner, name ∉ names)
    (distinct : ∀ value, ((write value).map Prod.fst).Nodup)
    (built : ∀ value own second, Holds own names (write value) →
      Holds second inner (write value) → build (own, second) = some value)
    (readable : ∀ {room}, levels ≤ room → ∀ value, ∀ field ∈ write value, Readable room field.2) :
    Faithful (levels + 1) (fun value => .object (write value))
      (fun node => (node.shared? names inner).bind build) where
  back value := by
    obtain ⟨own, second, read, holdsOwn, holdsSecond⟩ := shared?_object (distinct value) apart
    simp [read, built value own second holdsOwn holdsSecond]
  solid _ := rfl
  readable enough value := readable_object (readable · value) enough

variable {fields : Node.Fields} {name : String}

/-- A field that is always written is decoded. -/
theorem required? (faithful : Faithful levels encode decode) {value : α}
    (found : fields.find? name = some (encode value).node) :
    fields.required? name decode = some value := by
  simp [Node.Fields.required?, found, faithful.back]

/-- A field that is always written is decoded, and its default does not matter. -/
theorem defaulted? (faithful : Faithful levels encode decode) {value : α} (fallback : α)
    (found : fields.find? name = some (encode value).node) :
    fields.defaulted? name fallback decode = some value := by
  simp [Node.Fields.defaulted?, found, faithful.back]

/-- A field that is null where it is absent is decoded. -/
theorem optional? (faithful : Faithful levels encode decode) {value : Option α}
    (found : fields.find? name = some (ofOption encode value).node) :
    fields.optional? name decode = some value := by
  cases value with
  | none =>
    simp [Node.Fields.optional?, found, Node.nullable?, ofOption, node, Node.null, Node.isNull]
  | some value =>
    simp [Node.Fields.optional?, found, Node.nullable?, ofOption, faithful.back, faithful.solid]

/-- A field that is left out where it is absent is decoded. -/
theorem optional?_present (faithful : Faithful levels encode decode) {value : Option α}
    (mapping : fields.positional = false)
    (found : fields.find? name = (value.map encode).map node) :
    fields.optional? name decode = some value := by
  cases value with
  | none => simp [Node.Fields.optional?, found, mapping]
  | some value =>
    simp [Node.Fields.optional?, found, Node.nullable?, faithful.back, faithful.solid]

end Faithful

/-- Texts are read back. -/
theorem faithful_text : Faithful 0 .text Node.text? := .ofText fun _ => rfl

/-- Truth values are read back. -/
theorem faithful_bool : Faithful 0 .bool Node.bool? :=
  ⟨fun _ => rfl, fun _ => rfl, fun _ _ => .bool⟩

end Json

namespace Config

open Json

/-- Addresses are read back. -/
theorem faithful_address : Faithful 0 addressJson address? := .ofText fun address => by
  have parsed : Address.parse? address.text.toList = some address := by
    rw [Address.text, String.toList_ofList, Address.parse?_chars]
  exact parsed

/-- Blocks are read back. -/
theorem faithful_block : Faithful 0 blockJson block? := .ofText Block.parse?_text

/-- A number that fits is read back. -/
theorem natural?_whole {largest number : Nat} (small : number ≤ largest) :
    Node.natural? largest (.scalar (.whole number) none) = some number := by
  simp [Node.natural?, small]

/-- Numbers of 32 bits are read back. -/
theorem faithful_word : Faithful 0 wordJson word? := by
  have word (value : UInt32) : value.toNat ≤ largestWord := Nat.le_of_lt_succ value.toNat_lt
  refine .ofNat (fun value => Nat.le_trans (word value) (by decide)) fun value => ?_
  simp [word?, natural?_whole (word value)]

/-- Numbers of 8 bits are read back. -/
theorem faithful_byte : Faithful 0 (fun value : UInt8 => .number value.toNat) byte? := by
  have byte (value : UInt8) : value.toNat ≤ largestByte := Nat.le_of_lt_succ value.toNat_lt
  refine .ofNat (fun value => Nat.le_trans (byte value) (by decide)) fun value => ?_
  simp [byte?, natural?_whole (byte value)]

/-- Lifetimes are read back. -/
theorem faithful_seconds : Faithful 0 secondsJson Seconds.ofNode? := by
  have small (seconds : Seconds) : seconds.value ≤ largestLong :=
    Nat.le_trans seconds.bounded (by decide)
  refine .ofNat small fun seconds => ?_
  simp [Seconds.ofNode?, natural?_whole (small seconds), Seconds.ofNat?, seconds.positive,
    seconds.bounded]

/-- Kinds of identifiers are read back. -/
theorem faithful_identifierKind :
    Faithful 0 (fun kind : IdentifierKind => .text kind.text) (·.choice? IdentifierKind.ofText?) :=
  .ofText fun kind => by cases kind <;> rfl

/-- Modes of reservations are read back. -/
theorem faithful_reservationMode :
    Faithful 0 (fun mode : ReservationMode => .text mode.text)
      (·.settledChoice? ReservationMode.choices ReservationMode.ofText?) :=
  .ofText fun mode => by cases mode <;> rfl

/-- Kinds of allocators are read back. -/
theorem faithful_allocatorKind :
    Faithful 0 (fun kind : AllocatorKind => .text kind.text)
      (·.settledChoice? AllocatorKind.choices AllocatorKind.ofText?) :=
  .ofText fun kind => by cases kind <;> rfl

end Config

end Leasehold
