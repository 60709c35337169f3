import Leasehold.Proofs.Topology.Holders

/-!
# Reservations as a plain list

An index of reservations answers as if it searched the plain list of the reservations that it has
accepted (`insertEach_agrees`). A call is rejected exactly when the new reservation has something in
common with one of that list, and then it leaves no trace. Clients, addresses and conflicts are all
looked up in tables that hold places in the list. The table of claims keeps the places of an address
in ascending order, so that the first of them is that of the reservation accepted first
(`IsSorted.lookupAddress_eq`).
-/
namespace Leasehold

namespace Reservation

/-- Two reservations of one scope have an identifier in common. -/
def SharesIdentifier (left right : Reservation) : Prop :=
  left.scope = right.scope ∧ ∃ identifier ∈ right.identifiers, identifier ∈ left.identifiers

/-- Two reservations of one scope claim an address in common. -/
def SharesAddress (left right : Reservation) : Prop :=
  left.scope = right.scope ∧ ∃ address ∈ right.claimed, address ∈ left.claimed

/-- Whether two reservations share an identifier can be computed. -/
instance (left right : Reservation) : Decidable (left.SharesIdentifier right) :=
  inferInstanceAs (Decidable (_ ∧ _))

/-- Whether two reservations share an address can be computed. -/
instance (left right : Reservation) : Decidable (left.SharesAddress right) :=
  inferInstanceAs (Decidable (_ ∧ _))

/-- A new reservation is refused for the sake of another one: they share an identifier or, when
addresses are unique, an address. -/
def Excludes (uniqueAddresses : Bool) (host new : Reservation) : Prop :=
  host.SharesIdentifier new ∨ uniqueAddresses = true ∧ host.SharesAddress new

/-- Whether one reservation excludes another can be computed. -/
instance (uniqueAddresses : Bool) (host new : Reservation) :
    Decidable (host.Excludes uniqueAddresses new) :=
  inferInstanceAs (Decidable (_ ∨ _))

/-- The reservation is one of the scope and has the identifier of a kind that the client presents.
-/
def carries (scope : Scope) (ids : ClientIdentifiers) (kind : IdentifierKind)
    (host : Reservation) : Bool :=
  host.scope == scope &&
    host.identifiers.any fun identifier => identifier.kind == kind && ids.presents identifier

/-- Presenting an identifier of a kind, a reservation has it or not. -/
theorem carries_eq (scope : Scope) (ids : ClientIdentifiers) (kind : IdentifierKind)
    (host : Reservation) :
    host.carries scope ids kind = match ids.identifier? kind with
      | none => false
      | some identifier => host.scope == scope && host.identifiers.contains identifier := by
  have presented (identifier : Identifier) :
      (identifier.kind == kind && ids.presents identifier) =
        decide (ids.identifier? kind = some identifier) := by
    obtain ⟨own, value⟩ := identifier
    rw [Bool.eq_iff_iff]
    by_cases same : own = kind
    · subst same
      simp [ClientIdentifiers.presents, ClientIdentifiers.identifier?]
    · simp [ClientIdentifiers.identifier?, same, Ne.symm same]
  unfold carries
  simp only [presented]
  cases ids.identifier? kind with
  | none => simp
  | some identifier =>
    rw [Bool.eq_iff_iff]
    simp

/-- The reservation is one of the scope and claims the address. -/
def claims (scope : Scope) (address : Address) (host : Reservation) : Bool :=
  host.scope == scope && host.claimed.contains address

/-- A list of reservations with a further one at its end, unless one in the list excludes it. -/
def enlist (hosts : List Reservation) (entry : Reservation × Bool) : List Reservation :=
  if ∃ host ∈ hosts, host.Excludes entry.2 entry.1 then hosts else hosts ++ [entry.1]

end Reservation

namespace ReservationIndex

open Reservation

/-- Insert reservations one after another, each with whether addresses are unique for it. The index
goes on as it was after a call that is rejected. The result is the last index, with the reservations
that were accepted. -/
def insertEach (index : ReservationIndex) :
    List (Reservation × Bool) → ReservationIndex × List Reservation
  | [] => (index, [])
  | (new, uniqueAddresses) :: rest =>
    match index.insert new uniqueAddresses with
    | .error _ => index.insertEach rest
    | .ok next =>
      let (last, accepted) := next.insertEach rest
      (last, new :: accepted)

/-- The places that claim an address are in ascending order. -/
def IsSorted (index : ReservationIndex) : Prop :=
  ∀ scope address, (index.claims scope address).Pairwise (· ≤ ·)

/-- The claims of a reservation put its place behind those of earlier ones, once for each time that
it claims the address. -/
theorem addClaims_eq (scope other : Scope) (place : Nat)
    (table : Std.HashMap (Scope × Address) (List Nat)) (claimed : List Address)
    (address : Address) :
    ((claimed.foldl (addClaim scope place) table)[(other, address)]?).getD [] =
      (table[(other, address)]?).getD [] ++
        if other = scope then List.replicate (claimed.count address) place else [] := by
  induction claimed generalizing table with
  | nil => simp
  | cons first rest ih =>
    have head : ((addClaim scope place table first)[(other, address)]?).getD [] =
        (table[(other, address)]?).getD [] ++
          if other = scope ∧ first = address then [place] else [] := by
      unfold addClaim
      rw [Std.HashMap.getElem?_insert]
      by_cases same : (scope, first) = (other, address)
      · obtain ⟨rfl, rfl⟩ := Prod.mk.inj same
        simp
      · have apart : ¬ (other = scope ∧ first = address) := by
          rintro ⟨rfl, rfl⟩
          exact same rfl
        rw [if_neg (by simpa using same), if_neg apart, List.append_nil]
    rw [List.foldl_cons, ih, head, List.append_assoc]
    by_cases here : other = scope
    · by_cases first_same : first = address
      · simp [here, first_same, List.replicate_succ]
      · simp [here, first_same]
    · simp [here]

/-- Without reservations there is nothing to put in order. -/
theorem isSorted_empty (order : List IdentifierKind) : (empty order).IsSorted := by
  intro scope address
  simp [claims, empty]

/-- The place of a new reservation comes after all others. -/
theorem IsSorted.append {index : ReservationIndex} (sorted : index.IsSorted)
    (consistent : index.IsConsistent) (new : Reservation) : (index.append new).IsSorted := by
  intro scope address
  have grown : (index.append new).claims scope address = index.claims scope address ++
      if scope = new.scope then List.replicate (new.claimed.count address) index.hosts.size
      else [] :=
    addClaims_eq new.scope scope index.hosts.size index.byAddress new.claimed address
  rw [grown, List.pairwise_append]
  refine ⟨sorted scope address, ?_, fun earlier listed later added => ?_⟩
  · split
    · exact List.pairwise_replicate.mpr (.inr (Nat.le_refl _))
    · exact .nil
  · obtain ⟨host, found, -⟩ := (consistent scope address earlier).mp listed
    obtain ⟨inside, -⟩ := Array.getElem?_eq_some_iff.mp found
    split at added
    · obtain rfl := List.eq_of_mem_replicate added
      exact Nat.le_of_lt inside
    · exact absurd added List.not_mem_nil

/-- The tables agree with the reservations, which are those of a plain list. -/
structure Agrees (index : ReservationIndex) (hosts : List Reservation) : Prop where
  /-- The reservations are those of the list. -/
  hosts : index.hosts.toList = hosts
  /-- So are those that identifiers find. -/
  faithful : index.IsFaithful
  /-- So are those that claim addresses. -/
  consistent : index.IsConsistent
  /-- They are found in the order of the list. -/
  sorted : index.IsSorted

namespace Agrees

variable {index : ReservationIndex} {hosts : List Reservation} (agrees : index.Agrees hosts)
include agrees

/-- The reservation at a place is the one that the list has there. -/
theorem getElem?_hosts (place : Nat) : index.hosts[place]? = hosts[place]? := by
  rw [← agrees.hosts, Array.getElem?_toList]

/-- The index has the reservations of the list. -/
theorem mem_hosts_iff (host : Reservation) : host ∈ index.hosts ↔ host ∈ hosts := by
  rw [← agrees.hosts, Array.mem_toList_iff]

/-- The places that claim an address are those of the reservations in the list that do. -/
theorem mem_claims_iff (scope : Scope) (address : Address) (place : Nat) :
    place ∈ index.claims scope address ↔
      ∃ host, hosts[place]? = some host ∧ host.claims scope address = true := by
  rw [agrees.consistent scope address place, agrees.getElem?_hosts]
  simp [Reservation.claims]

/-- An identifier finds the first reservation in the list that has it. -/
theorem holder?_eq (scope : Scope) (identifier : Identifier) :
    index.holder? scope identifier =
      hosts.find? fun host => host.scope == scope && host.identifiers.contains identifier := by
  have holds (host : Reservation) : index.holder? scope identifier = some host ↔
      host ∈ hosts ∧ host.scope = scope ∧ identifier ∈ host.identifiers := by
    rw [agrees.faithful.holder?_eq_some_iff, agrees.mem_hosts_iff]
  cases found : hosts.find? fun host =>
      host.scope == scope && host.identifiers.contains identifier with
  | some host =>
    have has := List.find?_some found
    exact (holds host).mpr ⟨List.mem_of_find?_eq_some found, by simpa using has⟩
  | none =>
    rw [Option.eq_none_iff_forall_ne_some]
    intro host held
    obtain ⟨member, has⟩ := (holds host).mp held
    exact List.find?_eq_none.mp found host member (by simpa using has)

/-- A client has the first reservation in the list that has one of its identifiers, of the first
kind for which there is such a reservation. -/
theorem lookup_eq (scope : Scope) (ids : ClientIdentifiers) :
    index.lookup scope ids =
      index.order.findSome? fun kind => hosts.find? (·.carries scope ids kind) := by
  rw [lookup_eq_findSome?]
  congr 1
  funext kind
  cases presented : ids.identifier? kind with
  | none =>
    have nobody : hosts.find? (·.carries scope ids kind) = none := by
      simp [List.find?_eq_none, carries_eq, presented]
    exact nobody.symm
  | some identifier =>
    simp only [carries_eq, presented]
    exact agrees.holder?_eq scope identifier

/-- An address finds the first reservation in the list that claims it. -/
theorem lookupAddress_eq (scope : Scope) (address : Address) :
    index.lookupAddress scope address = hosts.find? (·.claims scope address) := by
  have sorted := agrees.sorted scope address
  unfold lookupAddress
  cases listed : index.claims scope address with
  | nil =>
    refine (List.find?_eq_none.mpr fun host member claims => ?_).symm
    obtain ⟨place, found⟩ := List.mem_iff_getElem?.mp member
    have claimed := (agrees.mem_claims_iff scope address place).mpr ⟨host, found, claims⟩
    rw [listed] at claimed
    exact absurd claimed List.not_mem_nil
  | cons place others =>
    rw [listed] at sorted
    have member : place ∈ index.claims scope address := listed ▸ List.mem_cons_self
    obtain ⟨host, found, claims⟩ := (agrees.mem_claims_iff scope address place).mp member
    obtain ⟨inside, here⟩ := List.getElem?_eq_some_iff.mp found
    have first : hosts.find? (·.claims scope address) = some host := by
      refine List.find?_eq_some_iff_getElem.mpr ⟨claims, place, inside, here, ?_⟩
      intro earlier before
      rw [Bool.not_eq_true', ← Bool.not_eq_true]
      intro claimsToo
      have listedToo := (agrees.mem_claims_iff scope address earlier).mpr
        ⟨_, List.getElem?_eq_getElem (Nat.lt_trans before inside), claimsToo⟩
      rw [listed] at listedToo
      rcases List.mem_cons.mp listedToo with same | later
      · exact Nat.ne_of_lt before same
      · exact Nat.not_le_of_lt before ((List.pairwise_cons.mp sorted).1 earlier later)
    rw [first, ← found, ← agrees.getElem?_hosts]
    rfl

/-- An address is reserved for another client when a reservation in the list claims it that is not
the client's. -/
theorem reservedForOther_eq (scope : Scope) (address : Address) (ids : ClientIdentifiers) :
    index.reservedForOther scope address ids =
      hosts.any fun host => host.claims scope address && !host.belongsTo ids := by
  rw [Bool.eq_iff_iff, agrees.consistent.reservedForOther_iff, List.any_eq_true]
  refine exists_congr fun host => ?_
  rw [agrees.mem_hosts_iff]
  simp [IsForeign, Reservation.claims, and_assoc]

/-- A new reservation shares no identifier with those of the index when it shares none with those of
the list. -/
theorem sharedIdentifier?_eq_none_iff (new : Reservation) :
    index.sharedIdentifier? new = none ↔ ∀ host ∈ hosts, ¬ host.SharesIdentifier new := by
  unfold sharedIdentifier?
  rw [List.findSome?_eq_none_iff]
  constructor
  · rintro absent host member ⟨inScope, identifier, given, has⟩
    obtain ⟨place, found⟩ := List.mem_iff_getElem?.mp member
    have led := (agrees.faithful new.scope identifier place).mpr
      ⟨host, (agrees.getElem?_hosts place).trans found, inScope, has⟩
    have nothing := absent identifier given
    rw [led] at nothing
    exact nomatch nothing
  · intro apart identifier given
    rw [Option.map_eq_none_iff, Option.eq_none_iff_forall_ne_some]
    intro place led
    obtain ⟨host, found, inScope, has⟩ := (agrees.faithful new.scope identifier place).mp led
    rw [agrees.getElem?_hosts] at found
    exact apart host (List.mem_of_getElem? found) ⟨inScope, identifier, given, has⟩

/-- A new reservation shares no address with those of the index when it shares none with those of
the list. -/
theorem sharedAddress?_eq_none_iff (new : Reservation) :
    index.sharedAddress? new = none ↔ ∀ host ∈ hosts, ¬ host.SharesAddress new := by
  unfold sharedAddress?
  rw [List.findSome?_eq_none_iff]
  constructor
  · rintro absent host member ⟨inScope, address, given, has⟩
    obtain ⟨place, found⟩ := List.mem_iff_getElem?.mp member
    have listed := (agrees.mem_claims_iff new.scope address place).mpr
      ⟨host, found, by simp [Reservation.claims, inScope, has]⟩
    have nothing := absent address given
    rw [Option.map_eq_none_iff, List.head?_eq_none_iff] at nothing
    rw [nothing] at listed
    exact absurd listed List.not_mem_nil
  · intro apart address given
    rw [Option.map_eq_none_iff, List.head?_eq_none_iff, List.eq_nil_iff_forall_not_mem]
    intro place listed
    obtain ⟨host, found, claims⟩ := (agrees.mem_claims_iff new.scope address place).mp listed
    obtain ⟨inScope, has⟩ : host.scope = new.scope ∧ address ∈ host.claimed := by
      simpa [Reservation.claims] using claims
    exact apart host (List.mem_of_getElem? found) ⟨inScope, address, given, has⟩

/-- A new reservation is accepted, and added as it is, when none in the list excludes it. Otherwise
it is rejected. -/
theorem insert_cases (new : Reservation) (uniqueAddresses : Bool) :
    (∃ host ∈ hosts, host.Excludes uniqueAddresses new) ∧
        (∃ error, index.insert new uniqueAddresses = .error error) ∨
      (∀ host ∈ hosts, ¬ host.Excludes uniqueAddresses new) ∧
        index.insert new uniqueAddresses = .ok (index.append new) := by
  by_cases named : ∃ host ∈ hosts, host.SharesIdentifier new
  · obtain ⟨host, member, shares⟩ := named
    refine .inl ⟨⟨host, member, .inl shares⟩, ?_⟩
    cases found : index.sharedIdentifier? new with
    | none => exact absurd shares ((agrees.sharedIdentifier?_eq_none_iff new).mp found host member)
    | some shared => exact ⟨_, by simp only [insert, found]; rfl⟩
  · have unnamed : ∀ host ∈ hosts, ¬ host.SharesIdentifier new :=
      fun host member shares => named ⟨host, member, shares⟩
    have apart := (agrees.sharedIdentifier?_eq_none_iff new).mpr unnamed
    by_cases claimed : uniqueAddresses = true ∧ ∃ host ∈ hosts, host.SharesAddress new
    · obtain ⟨unique, host, member, shares⟩ := claimed
      refine .inl ⟨⟨host, member, .inr ⟨unique, shares⟩⟩, ?_⟩
      cases found : index.sharedAddress? new with
      | none => exact absurd shares ((agrees.sharedAddress?_eq_none_iff new).mp found host member)
      | some shared => exact ⟨_, by simp only [insert, apart, unique, found, if_true]; rfl⟩
    · have unclaimed : (if uniqueAddresses then index.sharedAddress? new else none) = none := by
        split
        · next unique =>
          exact (agrees.sharedAddress?_eq_none_iff new).mpr fun host member shares =>
            claimed ⟨unique, host, member, shares⟩
        · rfl
      refine .inr ⟨fun host member excludes => ?_, by simp only [insert, apart, unclaimed]⟩
      rcases excludes with shares | ⟨unique, shares⟩
      · exact unnamed host member shares
      · exact claimed ⟨unique, host, member, shares⟩

/-- The tables go on to agree with the list when a reservation is added to both. -/
theorem append {new : Reservation} (apart : ∀ host ∈ hosts, ¬ host.SharesIdentifier new) :
    (index.append new).Agrees (hosts ++ [new]) where
  hosts := by rw [← agrees.hosts]; exact Array.toList_push
  faithful := agrees.faithful.append ((agrees.sharedIdentifier?_eq_none_iff new).mpr apart)
  consistent := agrees.consistent.append new
  sorted := agrees.sorted.append agrees.consistent new

end Agrees

/-- Without reservations the tables agree with the empty list. -/
theorem agrees_empty (order : List IdentifierKind) : (empty order).Agrees [] where
  hosts := rfl
  faithful := isFaithful_empty order
  consistent := isConsistent_empty order
  sorted := isSorted_empty order

/-- After any calls the tables agree with the list, to which the accepted reservations have been
added. -/
theorem Agrees.insertEach {index : ReservationIndex} {hosts : List Reservation}
    (agrees : index.Agrees hosts) (entries : List (Reservation × Bool)) :
    (index.insertEach entries).1.Agrees (hosts ++ (index.insertEach entries).2) ∧
      (index.insertEach entries).1 =
        (index.insertEach entries).2.foldl ReservationIndex.append index ∧
      hosts ++ (index.insertEach entries).2 = entries.foldl enlist hosts := by
  induction entries generalizing index hosts with
  | nil => exact ⟨by simpa [ReservationIndex.insertEach] using agrees, rfl, List.append_nil hosts⟩
  | cons entry rest ih =>
    obtain ⟨new, uniqueAddresses⟩ := entry
    rcases agrees.insert_cases new uniqueAddresses with ⟨excluded, error, rejected⟩ | ⟨apart, added⟩
    · have kept : enlist hosts (new, uniqueAddresses) = hosts := if_pos excluded
      rw [List.foldl_cons, kept]
      simpa only [ReservationIndex.insertEach, rejected] using ih agrees
    · have grown : enlist hosts (new, uniqueAddresses) = hosts ++ [new] :=
        if_neg fun ⟨host, member, excludes⟩ => apart host member excludes
      have longer := agrees.append fun host member shares => apart host member (.inl shares)
      obtain ⟨agreesLast, last, listed⟩ := ih longer
      rw [List.foldl_cons, grown, ← listed]
      simp only [ReservationIndex.insertEach, added]
      rw [List.append_assoc] at agreesLast
      exact ⟨agreesLast, last, List.append_cons ..⟩

/-- Reservations that do not exclude one another stay apart while others are admitted among them,
when being excluded for nothing sets them apart. -/
theorem pairwise_foldl_enlist {Apart : Reservation → Reservation → Prop}
    {entries : List (Reservation × Bool)}
    (separates : ∀ new uniqueAddresses, (new, uniqueAddresses) ∈ entries →
      ∀ host : Reservation, ¬ host.Excludes uniqueAddresses new → Apart host new)
    {hosts : List Reservation} (pairwise : hosts.Pairwise Apart) :
    (entries.foldl enlist hosts).Pairwise Apart := by
  induction entries generalizing hosts with
  | nil => exact pairwise
  | cons entry rest ih =>
    refine ih (fun new unique member => separates new unique (.tail _ member)) ?_
    unfold enlist
    split
    · exact pairwise
    · next unexcluded =>
      refine List.pairwise_append.mpr ⟨pairwise, List.pairwise_singleton _ _, ?_⟩
      intro host member new added
      obtain rfl := List.mem_singleton.mp added
      exact separates entry.1 entry.2 List.mem_cons_self host fun excludes =>
        unexcluded ⟨host, member, excludes⟩

/-- Adding reservations leaves the order of the kinds of identifiers as it is. -/
theorem order_foldl_append (index : ReservationIndex) (added : List Reservation) :
    (added.foldl ReservationIndex.append index).order = index.order := by
  induction added generalizing index with
  | nil => rfl
  | cons new rest ih => exact ih (index.append new)

/-- After any calls, the index is what the accepted reservations alone make of the empty one, so
that those that were rejected leave no trace. A reservation is accepted when none accepted before
shares an identifier with it or, if addresses are unique for it, an address. The index then answers
as the list of the accepted ones does. -/
theorem insertEach_agrees (order : List IdentifierKind) (entries : List (Reservation × Bool)) :
    let index := ((empty order).insertEach entries).1
    let accepted := ((empty order).insertEach entries).2
    (index = accepted.foldl ReservationIndex.append (empty order) ∧
        index.hosts.toList = accepted ∧ accepted = entries.foldl enlist []) ∧
      (∀ new uniqueAddresses, (∃ error, index.insert new uniqueAddresses = .error error) ↔
        ∃ host ∈ accepted, host.Excludes uniqueAddresses new) ∧
      (∀ scope ids, index.lookup scope ids =
        order.findSome? fun kind => accepted.find? (·.carries scope ids kind)) ∧
      (∀ scope address, index.lookupAddress scope address =
        accepted.find? (·.claims scope address)) ∧
      (∀ scope address ids, index.reservedForOther scope address ids = true ↔
        ∃ host ∈ accepted, host.claims scope address = true ∧ host.belongsTo ids = false) ∧
      accepted.Pairwise (¬ ·.SharesIdentifier ·) ∧
      ((∀ entry ∈ entries, entry.2 = true) → accepted.Pairwise (¬ ·.SharesAddress ·)) := by
  intro index accepted
  obtain ⟨agrees, built, admitted⟩ := (agrees_empty order).insertEach entries
  rw [List.nil_append] at agrees admitted
  have ordered : index.order = order :=
    (congrArg ReservationIndex.order built).trans (order_foldl_append _ _)
  refine ⟨⟨built, agrees.hosts, admitted⟩, fun new uniqueAddresses => ?rejection,
    fun scope ids => ?byIdentifier, agrees.lookupAddress_eq, fun scope address ids => ?forOthers,
    ?apart, fun unique => ?distinct⟩
  case rejection =>
    rcases agrees.insert_cases new uniqueAddresses with ⟨excluded, rejected⟩ | ⟨apart, added⟩
    · exact iff_of_true rejected excluded
    · refine iff_of_false ?_ fun ⟨host, member, excludes⟩ => apart host member excludes
      rintro ⟨error, rejected⟩
      exact nomatch added.symm.trans rejected
  case byIdentifier => exact (agrees.lookup_eq scope ids).trans (by rw [ordered])
  case forOthers =>
    rw [agrees.reservedForOther_eq scope address ids, List.any_eq_true]
    simp only [Bool.and_eq_true, Bool.not_eq_true']
    rfl
  case apart =>
    rw [show accepted = _ from admitted]
    exact pairwise_foldl_enlist (fun _ _ _ host unexcluded shares => unexcluded (.inl shares)) .nil
  case distinct =>
    rw [show accepted = _ from admitted]
    refine pairwise_foldl_enlist (fun new uniqueAddresses member host unexcluded shares => ?_) .nil
    exact unexcluded (.inr ⟨unique _ member, shares⟩)

namespace Sample

/-- A host that is known by its hardware address, with a reserved address. -/
def host (number value : UInt8) : Reservation where
  scope := .global
  identifiers := [⟨.hwAddress, [number]⟩]
  addresses := [⟨.v4, value.toNat, Nat.lt_trans value.toNat_lt (by decide)⟩]
  blocks := []
  hostname := none
  classes := []

/-- Two hosts with addresses of their own, and a third one that would have that of the second. -/
def hosts : List (Reservation × Bool) := [(host 1 10, true), (host 2 11, true), (host 3 11, true)]

end Sample

/-- The condition can be met: where addresses are unique, the third host is rejected, and the two
others share no address. -/
theorem insertEach_agrees_of_taken_address :
    let index := ((empty [.hwAddress]).insertEach Sample.hosts).1
    let accepted := ((empty [.hwAddress]).insertEach Sample.hosts).2
    accepted = [Sample.host 1 10, Sample.host 2 11] ∧
      index = accepted.foldl ReservationIndex.append (empty [.hwAddress]) ∧
      accepted.Pairwise (¬ ·.SharesAddress ·) := by
  intro index accepted
  obtain ⟨⟨built, -, listed⟩, -, -, -, -, -, distinct⟩ :=
    insertEach_agrees [.hwAddress] Sample.hosts
  have known : Sample.hosts.foldl enlist [] = [Sample.host 1 10, Sample.host 2 11] := by decide
  have unique : ∀ entry ∈ Sample.hosts, entry.2 = true := by decide
  exact ⟨listed.trans known, built, distinct unique⟩

end ReservationIndex

end Leasehold
