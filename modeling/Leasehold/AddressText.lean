import Leasehold.Address
import Leasehold.Text.Blank
import Leasehold.Text.Hex

/-!
# The text of addresses and blocks

Addresses of 32 bits are printed as four decimal octets. Addresses of 128 bits are printed as eight
hexadecimal groups in which the longest run of at least two zero groups, and the first of the
longest, is written `::`; an address that embeds a 32-bit one keeps its octets. A block is its
address, a slash and a length. Reading is strict for an address alone: no leading zero in an octet,
and `::` stands for at least one group. The address of a block is read by a laxer rule, which the
record `Strictness` describes.
-/
namespace Leasehold

/-- Two choices on which the reader of an address and the reader of a block differ. -/
structure Strictness where
  /-- An octet may start with a zero that is not its only digit. -/
  leadingZeros : Bool
  /-- The mark `::` may stand for no group at all. -/
  emptyGap : Bool

namespace Strictness

/-- The rule for an address that stands alone. -/
def address : Strictness := ⟨false, false⟩

/-- The rule for the address of a block. -/
def block : Strictness := ⟨true, true⟩

end Strictness

namespace AddressText

/-- Read one octet in decimal from the front of a text. -/
def octet? (rule : Strictness) (text : List Char) : Option (Nat × List Char) :=
  let digits := text.takeWhile Text.Decimal.isDigit
  if digits.isEmpty || digits.length > 3 then none
  else if !rule.leadingZeros && digits.length > 1 && digits.head? = some '0' then none
  else if Text.Decimal.value digits < 256 then
    some (Text.Decimal.value digits, text.dropWhile Text.Decimal.isDigit)
  else none

/-- Read `count` octets with a dot between any two, continuing the number read so far. -/
def octets? (rule : Strictness) : Nat → Nat → List Char → Option (Nat × List Char)
  | 0, total, text => some (total, text)
  | count + 1, total, text => do
    let (octet, rest) ← octet? rule text
    let total := 256 * total + octet
    if count = 0 then some (total, rest)
    else octets? rule count total (← Text.dropStart? ['.'] rest)

/-- Read an address of 32 bits from the front of a text. -/
def v4? (rule : Strictness) (text : List Char) : Option (Nat × List Char) :=
  octets? rule 4 0 text

/-- Read one hexadecimal group from the front of a text. -/
def group? (text : List Char) : Option (Nat × List Char) :=
  let digits := text.takeWhile Text.Hex.isDigit
  if digits.isEmpty || digits.length > 4 then none
  else
    some (digits.foldl (fun total c => 16 * total + (Text.Hex.value? c.toNat).getD 0) 0,
      text.dropWhile Text.Hex.isDigit)

/-- The groups at the front of a text, whether they end in an embedded 32-bit address, and the text
after them. -/
structure Groups where
  /-- The groups in the order written. -/
  groups : List Nat
  /-- The last two groups were written as four octets. -/
  embedded : Bool
  /-- The text that follows. -/
  rest : List Char

/-- Read at most `room` groups with a colon between any two. Four octets may take the place of two
groups, and end the sequence. -/
def groups (rule : Strictness) (start : Bool) : Nat → List Char → Groups
  | 0, text => ⟨[], false, text⟩
  | room + 1, text =>
    match if start then some text else Text.dropStart? [':'] text with
    | none => ⟨[], false, text⟩
    | some inner =>
      match if room = 0 then none else v4? rule inner with
      | some (value, rest) => ⟨[value / 65536, value % 65536], true, rest⟩
      | none =>
        match group? inner with
        | none => ⟨[], false, text⟩
        | some (group, rest) =>
          let found := groups rule false room rest
          { found with groups := group :: found.groups }

/-- The number of eight groups, the most significant first. -/
def joinGroups (groups : List Nat) : Nat :=
  groups.foldl (fun total group => 65536 * total + group) 0

/-- Read an address of 128 bits from the front of a text. -/
def v6? (rule : Strictness) (text : List Char) : Option (Nat × List Char) :=
  let head := groups rule true 8 text
  if head.groups.length = 8 then some (joinGroups head.groups, head.rest)
  else if head.embedded then none
  else
    match Text.dropStart? [':', ':'] head.rest with
    | none => none
    | some rest =>
      let room := 8 - head.groups.length - (if rule.emptyGap then 0 else 1)
      let tail := groups rule true room rest
      let gap := List.replicate (8 - head.groups.length - tail.groups.length) 0
      some (joinGroups (head.groups ++ gap ++ tail.groups), tail.rest)

/-- Read an address of either family from the front of a text. -/
def either? (rule : Strictness) (text : List Char) : Option (Address × List Char) :=
  match v4? rule text with
  | some (value, rest) => (Address.ofNat? .v4 value).map (·, rest)
  | none =>
    match v6? rule text with
    | some (value, rest) => (Address.ofNat? .v6 value).map (·, rest)
    | none => none

/-- The decimal octets of a 32-bit number, with dots between them. -/
def octetText (value : Nat) : List Char :=
  Text.Decimal.digits (value >>> 24 % 256) ++ '.' ::
    (Text.Decimal.digits (value >>> 16 % 256) ++ '.' ::
      (Text.Decimal.digits (value >>> 8 % 256) ++ '.' :: Text.Decimal.digits (value % 256)))

/-- The eight groups of a 128-bit number, the most significant first. -/
def splitGroups (value : Nat) : List Nat :=
  [7, 6, 5, 4, 3, 2, 1, 0].map fun place => value >>> (16 * place) % 0x10000

/-- The number of zero groups at the front of a sequence. -/
def zeroRun (groups : List Nat) : Nat := (groups.takeWhile (· == 0)).length

/-- The start and the length of the longest run of zero groups, the first of them on a tie. -/
def longestRun (groups : List Nat) : Nat × Nat :=
  (List.range groups.length).foldl (fun best start =>
    let found := zeroRun (groups.drop start)
    if found > best.2 then (start, found) else best) (0, 0)

/-- Groups in hexadecimal with colons between them. -/
def groupText (groups : List Nat) : List Char :=
  List.intercalate [':'] (groups.map fun group => Nat.toDigits 16 group)

/-- The text of a 128-bit number. -/
def v6Text (value : Nat) : List Char :=
  if value >>> 32 = 0xffff then "::ffff:".toList ++ octetText (value % 0x100000000)
  else
    let groups := splitGroups value
    let (start, count) := longestRun groups
    if count > 1 then
      groupText (groups.take start) ++ [':', ':'] ++ groupText (groups.drop (start + count))
    else groupText groups

end AddressText

namespace Address

/-- The characters that print an address. -/
def chars (address : Address) : List Char :=
  match address.family with
  | .v4 => AddressText.octetText address.value
  | .v6 => AddressText.v6Text address.value

/-- The text of an address. -/
def text (address : Address) : String := String.ofList address.chars

/-- Read an address that makes up a whole text. -/
def parse? (text : List Char) : Option Address :=
  match AddressText.either? .address text with
  | some (address, []) => some address
  | _ => none

end Address

namespace Block

/-- The text of a block. -/
def text (block : Block) : String :=
  String.ofList (block.address.chars ++ '/' :: Text.Decimal.digits block.length)

/-- Read the length of a block of the family: at most two digits for 32 bits, three for 128. -/
def length? (family : Family) (text : List Char) : Option Nat :=
  let widest := match family with
    | .v4 => 2
    | .v6 => 3
  if text.isEmpty || text.length > widest || !text.all Text.Decimal.isDigit then none
  else some (Text.Decimal.value text)

/-- Read a block that makes up a whole text. -/
def parse? (text : List Char) : Option Block := do
  let (address, rest) ← AddressText.either? .block text
  let digits ← Text.dropStart? ['/'] rest
  let length ← length? address.family digits
  if fits : length ≤ address.family.width then some ⟨address, length, fits⟩ else none

end Block

end Leasehold
