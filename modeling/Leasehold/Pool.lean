import Leasehold.AddressText
import Leasehold.ClassSet

/-!
# Pools and their candidates

A pool is a range of addresses from which leases are handed out dynamically. Every address of an
address pool is a candidate. A pool of delegated blocks has a candidate for every block of its
length, known by the first address of the block. Candidates are numbered from zero in the order of
their addresses.
-/
namespace Leasehold

/-- What a pool hands out. -/
inductive PoolKind where
  /-- Single addresses. -/
  | addresses
  /-- Blocks of the given length. -/
  | blocks (length : Nat)
deriving DecidableEq, Repr

/-- A range of candidates. -/
structure Pool where
  /-- The number recorded on leases from the pool. -/
  id : Option UInt32
  /-- What the pool hands out. -/
  kind : PoolKind
  /-- The first candidate. -/
  first : Address
  /-- The last candidate. -/
  last : Address
  /-- The class that a client must belong to. -/
  guard : Option String
deriving DecidableEq, Repr

namespace Pool

/-- The pool of the addresses of a range. -/
def ofRange (first last : Address) : Pool := ⟨none, .addresses, first, last, none⟩

/-- The family of the candidates. -/
def family (pool : Pool) : Family := pool.first.family

/-- The pool hands out blocks. -/
def handsOutBlocks (pool : Pool) : Bool :=
  match pool.kind with
  | .addresses => false
  | .blocks _ => true

/-- The length recorded on leases from the pool. -/
def leaseLength (pool : Pool) : Nat :=
  match pool.kind with
  | .addresses => pool.family.width
  | .blocks length => length

/-- The distance between two candidates. It fits 128 bits unless the blocks have no leading bits. -/
def step (pool : Pool) : Nat :=
  match pool.kind with
  | .addresses => 1
  | .blocks length => Nat.pow 2 (128 - length)

/-- The number of candidates, which is cut to what fits 128 bits. -/
def capacity (pool : Pool) : Nat :=
  min ((pool.last.value - pool.first.value) / pool.step + 1) largestWide

/-- Every pool has a candidate. -/
theorem capacity_pos (pool : Pool) : 0 < pool.capacity := by
  exact Nat.lt_min.mpr ⟨Nat.succ_pos _, by decide⟩

/-- The candidate with a number. -/
def nth? (pool : Pool) (index : Nat) : Option Address :=
  if index < pool.capacity then Address.ofNat? pool.family (pool.first.value + index * pool.step)
  else none

/-- The number of a candidate. -/
def indexOf? (pool : Pool) (address : Address) : Option Nat :=
  if address.family ≠ pool.family then none
  else if address.value < pool.first.value ∨ pool.last.value < address.value then none
  else if (address.value - pool.first.value) % pool.step ≠ 0 then none
  else some ((address.value - pool.first.value) / pool.step)

/-- The address is a candidate of the pool. -/
def contains (pool : Pool) (address : Address) : Bool := (pool.indexOf? address).isSome

/-- The pool serves a client that belongs to the given classes. -/
def serves (pool : Pool) (classes : ClassSet) : Bool := classes.allows pool.guard

/-- The ranges of two pools have an address in common. -/
def overlaps (left right : Pool) : Bool :=
  left.family == right.family && left.first.value ≤ right.last.value &&
    right.first.value ≤ left.last.value

/-- The range of a pool, with the length of its blocks. -/
def text (pool : Pool) : String :=
  let range := pool.first.text ++ "-" ++ pool.last.text
  match pool.kind with
  | .addresses => range
  | .blocks length => range ++ "/" ++ toString length

end Pool

/-- Why a text is not a range of addresses. -/
inductive RangeFault where
  /-- What stands before the dash is no address. -/
  | badFirst
  /-- What stands behind the dash is no address. -/
  | badLast
  /-- There is no dash, and the text is no block. -/
  | badBlock
deriving DecidableEq, Repr

/-- The wording of each fault. -/
def RangeFault.message : RangeFault → String
  | .badFirst => "bad first address: invalid IP address syntax"
  | .badLast => "bad last address: invalid IP address syntax"
  | .badBlock => "expected \x60first - last\x60 or a prefix: invalid IP address syntax"

/-- Read a range of addresses: two addresses with a dash between them, or a block. -/
def parseRange (text : String) : Except RangeFault (Address × Address) :=
  let trimmed := Text.trim text.toList
  match Text.splitFirst? (· = '-') trimmed with
  | some (before, after) =>
    match Address.parse? (Text.trim before) with
    | none => .error .badFirst
    | some first =>
      match Address.parse? (Text.trim after) with
      | none => .error .badLast
      | some last => .ok (first, last)
  | none =>
    match Block.parse? trimmed with
    | none => .error .badBlock
    | some block => .ok (block.first, block.last)

end Leasehold
