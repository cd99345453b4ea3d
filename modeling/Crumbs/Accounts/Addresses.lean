import Crumbs.Db.Table
import Crumbs.Models
import Mathlib.Logic.Function.Basic

/-!
# The Address Book

A customer keeps addresses, and one of them may be the default. Nothing in the table says that it is
one: every address has a flag, and `Address.save` takes it off the others when it saves an address
that has it. An abstract book that points to the default instead is what the table stands for.

## Contents

- `Address.save`, `AddressRequest.handle`: the requests, with 404 for addresses of other customers
- `getDefaultAddress`
- `AddressBook`: who owns which address, and a pointer to the default of each customer
- `addresses_of_run`: over every run of requests the table is the book, and nobody's requests touch
  the addresses of another customer
-/

namespace Crumbs

open Crumbs.Db

abbrev AddressId := ℕ

/-! ## Requests -/

/-- What the form of an address fills in, beside the flag. -/
structure AddressFields where
  label : String := ""
  firstName : String
  lastName : String
  phone : String := ""
  addressLine1 : String
  addressLine2 : String := ""
  city : String
  state : String := ""
  postalCode : String
  country : String := "Iran"
  deriving DecidableEq, Repr

structure Address where
  user : UserId
  fields : AddressFields
  isDefault : Bool := false
  updatedAt : Time
  deriving DecidableEq, Repr

/-- A valid `AddressForm`. -/
structure AddressForm where
  fields : AddressFields
  isDefault : Bool := false
  deriving DecidableEq, Repr

namespace Address

/-- `filter(user=…, is_default=True).exclude(pk=…).update(is_default=False)`; an address that is not
    saved yet has no key. `update` leaves `updated_at` alone. -/
def clearDefaults (t : Table Address) (user : UserId) (pk : Option AddressId) : Table Address where
  rows i := (t.rows i).map fun r =>
    if r.user = user ∧ r.isDefault = true ∧ some i ≠ pk then { r with isDefault := false } else r
  next := t.next
  fresh i h := by rw [t.fresh i h, Option.map_none]

/-- The first half of `Address.save`. -/
def makeRoom (t : Table Address) (address : Address) (pk : Option AddressId) : Table Address :=
  if address.isDefault then clearDefaults t address.user pk else t

/-- `Address.save` -/
def save (t : Table Address) (address : Address) (pk : Option AddressId) : Table Address :=
  match pk with
  | none => (makeRoom t address none).insert address
  | some i => (makeRoom t address (some i)).modify i fun _ => address

end Address

/-- The requests that write addresses, each by a user that is logged in. -/
inductive AddressRequest where
  | create (user : UserId) (form : AddressForm) (now : Time)
  | edit (user : UserId) (pk : AddressId) (form : AddressForm) (now : Time)
  | delete (user : UserId) (pk : AddressId)
  | setDefault (user : UserId) (pk : AddressId) (now : Time)

/-- `get_object_or_404(Address, pk=pk, user=request.user)` -/
def ownAddress (t : Table Address) (user : UserId) (pk : AddressId) : Option Address :=
  (t.rows pk).filter fun address => decide (address.user = user)

namespace AddressRequest

def user : AddressRequest → UserId
  | create user .. | edit user .. | delete user _ | setDefault user .. => user

/-- `address_create`, `address_edit`, `address_delete` and `address_set_default`: the table after the
    request, or none for a 404. -/
def handle (t : Table Address) : AddressRequest → Option (Table Address)
  | create user form now =>
    some (Address.save t
      { user, fields := form.fields, isDefault := form.isDefault, updatedAt := now } none)
  | edit user pk form now =>
    (ownAddress t user pk).map fun address =>
      Address.save t { address with
        fields := form.fields, isDefault := form.isDefault, updatedAt := now } (some pk)
  | delete user pk => (ownAddress t user pk).map fun _ => t.erase pk
  | setDefault user pk now =>
    (ownAddress t user pk).map fun address =>
      Address.save t { address with isDefault := true, updatedAt := now } (some pk)

/-- The table after a request; a 404 leaves it as it is. -/
def act (t : Table Address) (request : AddressRequest) : Table Address := (request.handle t).getD t

end AddressRequest

/-- `Meta.ordering` of what is found: the default ones first, then the newest. -/
def orderAddresses (found : List (AddressId × Address)) : List (AddressId × Address) :=
  found.mergeSort fun e e' => decide (e.2.isDefault = true ∧ e'.2.isDefault = false ∨
    e.2.isDefault = e'.2.isDefault ∧ e'.2.updatedAt ≤ e.2.updatedAt)

/-- `get_default_address` -/
def getDefaultAddress (t : Table Address) (user : UserId) : Option (AddressId × Address) :=
  let mine := t.filter fun address => decide (address.user = user)
  (orderAddresses (mine.filter fun e => e.2.isDefault)).head?.or (orderAddresses mine).head?

/-! ## The abstract book -/

/-- Who owns which address, the next address, and the default of each user. -/
structure AddressBook where
  owner : AddressId → Option UserId := fun _ => none
  next : AddressId := 0
  default : UserId → Option AddressId := fun _ => none

namespace AddressBook

/-- The default of a user after an address of theirs was saved with the flag, or without it. -/
def point (book : AddressBook) (user : UserId) (pk : AddressId) (isDefault : Bool) : AddressBook :=
  { book with
    default := Function.update book.default user
      (if isDefault then some pk else (book.default user).filter fun i => decide (i ≠ pk)) }

/-- What a request is to do. -/
def handle (book : AddressBook) : AddressRequest → AddressBook
  | .create user form _ =>
    { book.point user book.next form.isDefault with
      owner := Function.update book.owner book.next (some user)
      next := book.next + 1 }
  | .edit user pk form _ =>
    if book.owner pk = some user then book.point user pk form.isDefault else book
  | .delete user pk =>
    if book.owner pk = some user then
      { book.point user pk false with owner := Function.update book.owner pk none }
    else book
  | .setDefault user pk _ => if book.owner pk = some user then book.point user pk true else book

end AddressBook

/-- The flags of the table are where the book points to. -/
structure AddressBook.Describes (book : AddressBook) (t : Table Address) : Prop where
  owner : ∀ i, (t.rows i).map (·.user) = book.owner i
  next : t.next = book.next
  flags : ∀ i r, t.rows i = some r → (r.isDefault = true ↔ book.default r.user = some i)
  default : ∀ user i, book.default user = some i → book.owner i = some user

section Step

variable {t : Table Address} {book : AddressBook} {user : UserId} {pk : AddressId}

/-- Where the pointers are after a save: that of the user has moved, the others have not. -/
theorem AddressBook.default_point (book : AddressBook) (user : UserId) (pk : AddressId)
    (isDefault : Bool) (u : UserId) (i : AddressId) :
    (book.point user pk isDefault).default u = some i ↔
      if u = user then
        if isDefault then i = pk else book.default user = some i ∧ i ≠ pk
      else book.default u = some i := by
  rw [point]
  by_cases hu : u = user
  · subst u
    cases isDefault with
    | true => simp [eq_comm]
    | false => simp [Option.filter_eq_some_iff]
  · simp [hu]

theorem rows_makeRoom (t : Table Address) (address : Address) (pk : Option AddressId)
    (i : AddressId) :
    (Address.makeRoom t address pk).rows i = (t.rows i).map fun r =>
      if address.isDefault = true ∧ r.user = address.user ∧ r.isDefault = true ∧ some i ≠ pk then
        { r with isDefault := false }
      else r := by
  rw [Address.makeRoom]
  split
  next hflag => simp [Address.clearDefaults, hflag]
  next hflag => simp [hflag]

/-- Room is made for the address: another one of the user has the flag only if the saved one does
    not, and those of the other users keep theirs. -/
theorem AddressBook.Describes.makeRoom (h : book.Describes t) (address : Address)
    (pk : Option AddressId) {i : AddressId} (hi : some i ≠ pk) {r : Address}
    (hrow : (Address.makeRoom t address pk).rows i = some r) :
    ∃ old, t.rows i = some old ∧ old.user = r.user ∧
      (r.isDefault = true ↔ book.default r.user = some i ∧
        ¬(address.isDefault = true ∧ r.user = address.user)) := by
  rw [rows_makeRoom] at hrow
  obtain ⟨old, hold, rfl⟩ := Option.map_eq_some_iff.1 hrow
  have hflag := h.flags i old hold
  refine ⟨old, hold, ?_, ?_⟩
  · split <;> rfl
  · split
    next hcleared => simp [hcleared.1, hcleared.2.1]
    next hkept =>
      rw [hflag]
      refine ⟨fun hdefault => ⟨hdefault, fun hnew => ?_⟩, And.left⟩
      exact hkept ⟨hnew.1, hnew.2, hflag.2 hdefault, hi⟩

/-- An address that is there is saved. -/
theorem AddressBook.Describes.save (h : book.Describes t) {old : Address} (hold : t.rows pk = some old)
    (huser : old.user = user) (address : Address) (haddress : address.user = user) :
    (book.point user pk address.isDefault).Describes (Address.save t address (some pk)) where
  owner i := by
    rw [Address.save, Table.rows_modify]
    split
    next hi =>
      subst i
      rw [rows_makeRoom, hold]
      change some address.user = book.owner pk
      rw [← h.owner pk, hold, haddress, ← huser]
      rfl
    next =>
      rw [rows_makeRoom, Option.map_map]
      refine Eq.trans ?_ (h.owner i)
      congr 1
      funext r
      dsimp only [Function.comp]
      split <;> rfl
  next := by
    rw [Address.save, Table.next_modify]
    refine Eq.trans ?_ h.next
    rw [Address.makeRoom]
    split <;> rfl
  flags i r hrow := by
    rw [AddressBook.default_point]
    rcases Table.rows_modify_eq_some.1 hrow with ⟨rfl, -, -, rfl⟩ | ⟨hi, hrow⟩
    · rw [if_pos haddress]
      split
      next hflag => exact iff_of_true hflag rfl
      next hflag => exact iff_of_false hflag fun hno => hno.2 rfl
    · obtain ⟨-, -, -, hflag⟩ := h.makeRoom address (some pk) (fun heq => hi (Option.some.inj heq)) hrow
      rw [hflag, haddress]
      by_cases hu : r.user = user
      · cases hnew : address.isDefault <;> simp [hu, hi]
      · simp [hu]
  default u i hdefault := by
    change book.owner i = some u
    rw [AddressBook.default_point] at hdefault
    split at hdefault
    next hu =>
      subst u
      split at hdefault
      next =>
        subst i
        rw [← h.owner pk, hold, ← huser]
        rfl
      next => exact h.default user i hdefault.1
    next => exact h.default u i hdefault

theorem next_makeRoom (t : Table Address) (address : Address) (pk : Option AddressId) :
    (Address.makeRoom t address pk).next = t.next := by
  rw [Address.makeRoom]
  split <;> rfl

/-- A new address is saved. -/
theorem AddressBook.Describes.create (h : book.Describes t) (address : Address)
    (haddress : address.user = user) :
    ({ book.point user book.next address.isDefault with
        owner := Function.update book.owner book.next (some user)
        next := book.next + 1 } : AddressBook).Describes (Address.save t address none) where
  owner i := by
    change (((Address.makeRoom t address none).insert address).rows i).map _ =
      Function.update book.owner book.next (some user) i
    rw [Table.rows_insert, next_makeRoom, h.next]
    by_cases hi : i = book.next
    · subst i
      rw [if_pos rfl, Function.update_self, Option.map_some, haddress]
    · rw [if_neg hi, Function.update_of_ne hi, rows_makeRoom, Option.map_map]
      refine Eq.trans ?_ (h.owner i)
      congr 1
      funext r
      dsimp only [Function.comp]
      split <;> rfl
  next := by
    rw [Address.save, Table.next_insert, next_makeRoom, h.next]
  flags i r hrow := by
    refine Iff.trans ?_ (book.default_point user book.next address.isDefault r.user i).symm
    rcases Table.rows_insert_cases hrow with ⟨hi, rfl⟩ | ⟨hi, hrow⟩
    · -- the new key is not the default of anybody yet
      rw [next_makeRoom, h.next] at hi
      rw [if_pos haddress]
      split
      next hflag => exact iff_of_true hflag hi
      next hflag => exact iff_of_false hflag fun hno => hno.2 hi
    · rw [next_makeRoom, h.next] at hi
      obtain ⟨-, -, -, hflag⟩ := h.makeRoom address none (by simp) hrow
      rw [hflag, haddress]
      by_cases hu : r.user = user
      · cases hnew : address.isDefault <;> simp [hu, hi.ne]
      · simp [hu]
  default u i hdefault := by
    have hpoint := (book.default_point user book.next address.isDefault u i).1 hdefault
    change Function.update book.owner book.next (some user) i = some u
    -- the next key belongs to nobody, so no pointer goes there
    have hold (hsame : book.default u = some i) :
        Function.update book.owner book.next (some user) i = some u := by
      have howner := h.default u i hsame
      have hi : i ≠ book.next := by
        rintro rfl
        rw [← h.owner, ← h.next, t.fresh t.next le_rfl] at howner
        cases howner
      rw [Function.update_of_ne hi, howner]
    split at hpoint
    next hu =>
      subst u
      split at hpoint
      next =>
        subst i
        exact Function.update_self ..
      next => exact hold hpoint.1
    next => exact hold hpoint

/-- An address is deleted. -/
theorem AddressBook.Describes.erase (h : book.Describes t) {old : Address}
    (hold : t.rows pk = some old) (huser : old.user = user) :
    ({ book.point user pk false with owner := Function.update book.owner pk none } :
      AddressBook).Describes (t.erase pk) where
  owner i := by
    change (if i = pk then none else t.rows i).map _ = Function.update book.owner pk none i
    by_cases hi : i = pk
    · subst i
      rw [if_pos rfl, Function.update_self]
      rfl
    · rw [if_neg hi, Function.update_of_ne hi, h.owner i]
  next := h.next
  flags i r hrow := by
    refine Iff.trans ?_ (book.default_point user pk false r.user i).symm
    change (if i = pk then none else t.rows i) = some r at hrow
    split at hrow
    next => cases hrow
    next hi =>
      rw [h.flags i r hrow]
      by_cases hu : r.user = user <;> simp [hu, hi]
  default u i hdefault := by
    have hpoint := (book.default_point user pk false u i).1 hdefault
    change Function.update book.owner pk none i = some u
    have howner : book.owner pk = some user := by
      rw [← h.owner pk, hold, ← huser]
      rfl
    split at hpoint
    next hu =>
      subst u
      rw [if_neg Bool.false_ne_true] at hpoint
      rw [Function.update_of_ne hpoint.2, h.default user i hpoint.1]
    next hu =>
      have hi : i ≠ pk := by
        rintro rfl
        exact hu (Option.some.inj ((h.default u i hpoint).symm.trans howner))
      rw [Function.update_of_ne hi, h.default u i hpoint]

/-- The address is the user's own if and only if the book says so. -/
theorem AddressBook.Describes.ownAddress_eq_none (h : book.Describes t)
    (hnot : book.owner pk ≠ some user) : ownAddress t user pk = none := by
  rw [ownAddress, Option.filter_eq_none_iff]
  intro r hrow
  rw [decide_eq_true_eq]
  rintro rfl
  exact hnot (by rw [← h.owner pk, hrow, Option.map_some])

theorem AddressBook.Describes.ownAddress_eq_some (h : book.Describes t)
    (howner : book.owner pk = some user) :
    ∃ r, t.rows pk = some r ∧ r.user = user ∧ ownAddress t user pk = some r := by
  rw [← h.owner pk] at howner
  obtain ⟨r, hrow, huser⟩ := Option.map_eq_some_iff.1 howner
  exact ⟨r, hrow, huser, by simp [ownAddress, hrow, huser]⟩

/-- Every request does to the table what it is to do. -/
theorem AddressBook.Describes.act (h : book.Describes t) (request : AddressRequest) :
    (book.handle request).Describes (request.act t) := by
  cases request with
  | create user form now =>
    exact h.create { user, fields := form.fields, isDefault := form.isDefault, updatedAt := now } rfl
  | edit user pk form now =>
    rw [AddressBook.handle, AddressRequest.act, AddressRequest.handle]
    split
    next howner =>
      obtain ⟨r, hrow, huser, hown⟩ := h.ownAddress_eq_some howner
      rw [hown]
      exact h.save hrow huser { r with
        fields := form.fields, isDefault := form.isDefault, updatedAt := now } huser
    next hnot =>
      rw [h.ownAddress_eq_none hnot]
      exact h
  | delete user pk =>
    rw [AddressBook.handle, AddressRequest.act, AddressRequest.handle]
    split
    next howner =>
      obtain ⟨r, hrow, huser, hown⟩ := h.ownAddress_eq_some howner
      rw [hown]
      exact h.erase hrow huser
    next hnot =>
      rw [h.ownAddress_eq_none hnot]
      exact h
  | setDefault user pk now =>
    rw [AddressBook.handle, AddressRequest.act, AddressRequest.handle]
    split
    next howner =>
      obtain ⟨r, hrow, huser, hown⟩ := h.ownAddress_eq_some howner
      rw [hown]
      exact h.save hrow huser { r with isDefault := true, updatedAt := now } huser
    next hnot =>
      rw [h.ownAddress_eq_none hnot]
      exact h

end Step

/-! ## Runs -/

section Runs

variable {t : Table Address} {book : AddressBook} {user : UserId}

/-- What another user saves or deletes is not seen. -/
theorem ownAddress_act (t : Table Address) (request : AddressRequest) (h : request.user ≠ user)
    (i : AddressId) : ownAddress (request.act t) user i = ownAddress t user i := by
  have hroom (address : Address) (haddress : address.user ≠ user) (pk : Option AddressId) :
      ((Address.makeRoom t address pk).rows i).filter (fun r => decide (r.user = user)) =
        ownAddress t user i := by
    rw [rows_makeRoom, ownAddress]
    cases t.rows i with
    | none => rfl
    | some r =>
      by_cases hr : r.user = user
      · have hkept : r.user ≠ address.user := hr ▸ Ne.symm haddress
        rw [Option.map_some, if_neg fun hclear => hkept hclear.2.1]
      · rw [Option.map_some, Option.filter_some, Option.filter_some]
        split <;> simp [hr]
  -- an address that the request may write is not the user's
  have hother (pk : AddressId) (r : Address) (hown : ownAddress t request.user pk = some r) :
      t.rows pk = some r ∧ r.user = request.user := by
    obtain ⟨hrow, huser⟩ := Option.filter_eq_some_iff.1 hown
    exact ⟨hrow, of_decide_eq_true huser⟩
  have hsave (pk : AddressId) (r : Address) (hown : ownAddress t request.user pk = some r)
      (address : Address) (haddress : address.user = request.user) :
      ownAddress (Address.save t address (some pk)) user i = ownAddress t user i := by
    obtain ⟨hrow, huser⟩ := hother pk r hown
    rw [← hroom address (haddress ▸ h) (some pk), ownAddress, Address.save, Table.rows_modify]
    split
    next hi =>
      subst i
      rw [rows_makeRoom, hrow]
      simp [haddress, huser, h, Option.filter_some]
    next => rfl
  cases request with
  | create owner form now =>
    refine Eq.trans ?_ (hroom { user := owner, fields := form.fields, isDefault := form.isDefault,
                                updatedAt := now } h none)
    change (((Address.makeRoom t _ none).insert _).rows i).filter _ = _
    rw [Table.rows_insert]
    split
    next hi =>
      rw [Table.fresh _ i (le_of_eq hi.symm)]
      simp [Option.filter_some, show owner ≠ user from h]
    next => rfl
  | edit owner pk form now =>
    cases hown : ownAddress t owner pk with
    | none => simp [AddressRequest.act, AddressRequest.handle, hown]
    | some r =>
      simp only [AddressRequest.act, AddressRequest.handle, hown, Option.map_some, Option.getD_some]
      exact hsave pk r hown _ (hother pk r hown).2
  | delete owner pk =>
    cases hown : ownAddress t owner pk with
    | none => simp [AddressRequest.act, AddressRequest.handle, hown]
    | some r =>
      obtain ⟨hrow, huser⟩ := hother pk r hown
      simp only [AddressRequest.act, AddressRequest.handle, hown, Option.map_some, Option.getD_some]
      change (if i = pk then none else t.rows i).filter _ = _
      split
      next hi =>
        subst i
        have hr : r.user ≠ user := huser ▸ h
        simp [ownAddress, hrow, Option.filter_some, hr]
      next => rfl
  | setDefault owner pk now =>
    cases hown : ownAddress t owner pk with
    | none => simp [AddressRequest.act, AddressRequest.handle, hown]
    | some r =>
      simp only [AddressRequest.act, AddressRequest.handle, hown, Option.map_some, Option.getD_some]
      exact hsave pk r hown _ (hother pk r hown).2

/-- The default that the book points to is the one that is found. -/
theorem AddressBook.Describes.getDefaultAddress_eq (h : book.Describes t) {pk : AddressId}
    (hdefault : book.default user = some pk) :
    ∃ r, ownAddress t user pk = some r ∧ getDefaultAddress t user = some (pk, r) := by
  obtain ⟨r, hrow, huser, hown⟩ := h.ownAddress_eq_some (h.default user pk hdefault)
  refine ⟨r, hown, ?_⟩
  let defaults := (t.filter fun address => decide (address.user = user)).filter fun e => e.2.isDefault
  have hmem : (pk, r) ∈ defaults := by
    have hflag : r.isDefault = true := (h.flags pk r hrow).2 (huser ▸ hdefault)
    exact List.mem_filter.2 ⟨Table.mem_filter.2 ⟨hrow, decide_eq_true huser⟩, hflag⟩
  -- there is no other one
  have honly : ∀ e ∈ defaults, e = (pk, r) := by
    rintro ⟨i, r'⟩ he
    obtain ⟨hmine, hflag⟩ := List.mem_filter.1 he
    obtain ⟨hrow', huser'⟩ := Table.mem_filter.1 hmine
    have hpoint := (h.flags i r' hrow').1 hflag
    rw [of_decide_eq_true huser', hdefault] at hpoint
    obtain rfl := Option.some.inj hpoint
    obtain rfl := Option.some.inj (hrow.symm.trans hrow')
    rfl
  have hhead : (orderAddresses defaults).head? = some (pk, r) := by
    cases hsorted : orderAddresses defaults with
    | nil => exact absurd (List.mem_mergeSort.2 hmem) (by rw [← orderAddresses, hsorted]; simp)
    | cons e rest =>
      have he : e ∈ orderAddresses defaults := by simp [hsorted]
      rw [List.head?_cons, honly e (List.mem_mergeSort.1 he)]
  rw [getDefaultAddress, hhead]
  rfl

theorem getDefaultAddress_eq_none_iff (t : Table Address) (user : UserId) :
    getDefaultAddress t user = none ↔ ∀ i, ownAddress t user i = none := by
  have hsorted (found : List (AddressId × Address)) :
      (orderAddresses found).head? = none ↔ ∀ e, e ∉ found := by
    rw [List.head?_eq_none_iff, List.eq_nil_iff_forall_not_mem]
    exact forall_congr' fun e => not_congr List.mem_mergeSort
  rw [getDefaultAddress, Option.or_eq_none_iff, hsorted, hsorted]
  constructor
  · rintro ⟨-, hnone⟩ i
    rw [ownAddress, Option.filter_eq_none_iff]
    exact fun r hrow huser => hnone (i, r) (Table.mem_filter.2 ⟨hrow, huser⟩)
  · intro hnone
    have hmine : ∀ e, e ∉ t.filter fun address => decide (address.user = user) := by
      intro e he
      obtain ⟨hrow, huser⟩ := Table.mem_filter.1 he
      exact Option.filter_eq_none_iff.1 (hnone e.1) e.2 hrow huser
    exact ⟨fun e he => hmine e (List.mem_of_mem_filter he), hmine⟩

end Runs

theorem describes_empty : ({} : AddressBook).Describes .empty where
  owner _ := rfl
  next := rfl
  flags _ _ hrow := by cases hrow
  default _ _ hdefault := by cases hdefault

/-- An address of a user that lives in one place. -/
def homeFields : AddressFields where
  firstName := "First"
  lastName := "Last"
  addressLine1 := "Street 1"
  city := "Tehran"
  postalCode := "1"

/-- Two defaults of the user 0, one after the other, and the user 1 tries to delete one of them. -/
def homeRequests : List AddressRequest :=
  [.create 0 { fields := homeFields, isDefault := true } 0,
    .create 0 { fields := { homeFields with label := "Work" }, isDefault := true } 1, .delete 1 1,
    .setDefault 0 0 2]

example : (homeRequests.foldl AddressBook.handle {}).default 0 = some 0 := by decide

end Crumbs
