import Crumbs.Text.Search
import Crumbs.Text.Trim

/-!
# Login Identifiers

A visitor logs in with a username or a phone number. The phone numbers of the profiles are looked
up first, and the newest profile with the number decides; only when there is none the identifier is
taken as a username. The profile form takes any text for a phone number, also one that is another
user's phone number or username.

## Contents

- `ProfilePhone`: the phone numbers that the profile form accepts
- `resolveLoginIdentifier`: the username that an identifier stands for
- `Accounts.editPhone`: a user changes the phone number in the profile
- `resolveLoginIdentifier_isolated_iff`: when a username stands for its user, and which edits
  change what an identifier of another user stands for
-/

namespace Crumbs

open Crumbs.Text

/-! ## Users and profiles -/

/-- `str.strip` -/
def stripText (s : String) : String := String.ofList (trim isSpace s.toList)

theorem stripText_stripText (s : String) : stripText (stripText s) = stripText s := by
  rw [stripText, stripText, String.toList_ofList, trim_idem]

/-- A phone number that the profile form accepts: stripped, not too long, without null characters.
It may be empty. -/
structure ProfilePhone where
  text : String
  stripped : stripText text = text
  short : text.length ≤ 30
  no_null : '\x00' ∉ text.toList
  deriving DecidableEq

/-- The `phone` field of `ProfileForm`, on what is sent for it. -/
def ProfilePhone.clean (input : String) : Option ProfilePhone :=
  if h : (stripText input).length ≤ 30 ∧ '\x00' ∉ (stripText input).toList then
    some ⟨stripText input, stripText_stripText input, h.1, h.2⟩
  else none

/-- The form accepts every such number. -/
theorem ProfilePhone.clean_text (phone : ProfilePhone) : clean phone.text = some phone := by
  obtain ⟨text, stripped, short, no_null⟩ := phone
  simp only [clean, stripped, short, no_null, not_false_eq_true, and_self, dite_true]

structure Account where
  id : ℕ
  username : String
  deriving DecidableEq

structure CustomerProfile where
  user : Account
  phone : ProfilePhone
  deriving DecidableEq

/-- The users and their profiles, the newest profile first, as the queries give them. -/
structure AccountBook where
  users : List Account
  profiles : List CustomerProfile
  username_unique : ∀ u ∈ users, ∀ v ∈ users, u.username = v.username → u = v
  user_mem : ∀ profile ∈ profiles, profile.user ∈ users
  one_to_one : (profiles.map (·.user)).Nodup

/-- The profile after `user` has saved the profile form. -/
def CustomerProfile.edit (user : Account) (phone : ProfilePhone) (profile : CustomerProfile) :
    CustomerProfile :=
  if profile.user = user then { profile with phone := phone } else profile

theorem CustomerProfile.edit_of_ne {user : Account} {profile : CustomerProfile}
    (h : profile.user ≠ user) (phone : ProfilePhone) : profile.edit user phone = profile :=
  if_neg h

theorem CustomerProfile.edit_of_eq {user : Account} {profile : CustomerProfile}
    (h : profile.user = user) (phone : ProfilePhone) :
    profile.edit user phone = { profile with phone := phone } :=
  if_pos h

@[simp] theorem CustomerProfile.edit_user (user : Account) (phone : ProfilePhone)
    (profile : CustomerProfile) : (profile.edit user phone).user = profile.user := by
  unfold edit
  split <;> rfl

namespace AccountBook

/-- `CustomerProfile.objects.filter(phone=…).first()` -/
def firstWithPhone (book : AccountBook) (phone : String) : Option CustomerProfile :=
  book.profiles.find? fun profile => profile.phone.text = phone

/-- `user` saves the profile form. -/
def editPhone (book : AccountBook) (user : Account) (phone : ProfilePhone) : AccountBook :=
  { book with
    profiles := book.profiles.map (CustomerProfile.edit user phone)
    user_mem := by
      intro profile hprofile
      obtain ⟨old, hold, rfl⟩ := List.mem_map.1 hprofile
      rw [CustomerProfile.edit_user]
      exact book.user_mem old hold
    one_to_one := by
      have same : (·.user) ∘ CustomerProfile.edit user phone = (·.user) :=
        funext (CustomerProfile.edit_user user phone)
      rw [List.map_map, same]
      exact book.one_to_one }

/-- The profiles that the queries give before the one of `user`. -/
def newerThan (book : AccountBook) (user : Account) : List CustomerProfile :=
  book.profiles.takeWhile fun profile => profile.user ≠ user

end AccountBook

/-- `resolve_login_identifier`; an identifier that is `None` counts as empty. -/
def resolveLoginIdentifier (book : AccountBook) (identifier : String) : String :=
  let normalized := stripText identifier
  if normalized = "" then normalized
  else match book.firstWithPhone normalized with
    | some profile => profile.user.username
    | none => normalized

/-- `LoginForm.clean_username` -/
def LoginForm.cleanUsername (book : AccountBook) (username : String) : String :=
  resolveLoginIdentifier book username

/-! ## The first profile with a phone number, after an edit -/

section Edit

variable {user : Account} {phone : ProfilePhone} {text : String}

/-- The edit sets another number: a profile of somebody else stays the first one. -/
theorem find_edit_of_ne (h : phone.text ≠ text) {profile : CustomerProfile}
    (other : profile.user ≠ user) {l : List CustomerProfile}
    (first : l.find? (fun profile => profile.phone.text = text) = some profile) :
    (l.map (CustomerProfile.edit user phone)).find? (fun profile => profile.phone.text = text) =
      some profile := by
  induction l with
  | nil => cases first
  | cons next l ih =>
    rw [List.map_cons]
    by_cases own : next.user = user
    · -- the edited profile does not have the number, and did not decide before
      have before : ¬ next.phone.text = text := by
        intro same
        rw [List.find?_cons_of_pos (by simpa using same)] at first
        exact other (Option.some.inj first ▸ own)
      rw [List.find?_cons_of_neg (by simpa using before)] at first
      rw [CustomerProfile.edit_of_eq own, List.find?_cons_of_neg (by simpa using h)]
      exact ih first
    · rw [CustomerProfile.edit_of_ne own]
      by_cases same : next.phone.text = text
      · rw [List.find?_cons_of_pos (by simpa using same)] at first ⊢
        exact first
      · rw [List.find?_cons_of_neg (by simpa using same)] at first ⊢
        exact ih first

theorem find_edit_eq_none (h : phone.text ≠ text) {l : List CustomerProfile}
    (none_has : l.find? (fun profile => profile.phone.text = text) = none) :
    (l.map (CustomerProfile.edit user phone)).find? (fun profile => profile.phone.text = text) =
      none := by
  rw [List.find?_eq_none] at none_has ⊢
  intro profile hprofile
  obtain ⟨old, hold, rfl⟩ := List.mem_map.1 hprofile
  by_cases own : old.user = user
  · rw [CustomerProfile.edit_of_eq own]
    simpa using h
  · rw [CustomerProfile.edit_of_ne own]
    exact none_has old hold

/-- A newer profile has the number already: it stays the first one. -/
theorem find_edit_of_newer {l : List CustomerProfile} (newer : ∃ profile ∈
      l.takeWhile (fun profile => profile.user ≠ user), profile.phone.text = text) :
    (l.map (CustomerProfile.edit user phone)).find? (fun profile => profile.phone.text = text) =
      l.find? (fun profile => profile.phone.text = text) := by
  induction l with
  | nil =>
    obtain ⟨_, h, _⟩ := newer
    cases h
  | cons next l ih =>
    by_cases own : next.user = user
    · rw [List.takeWhile_cons_of_neg (by simpa using own)] at newer
      obtain ⟨_, h, _⟩ := newer
      cases h
    · rw [List.map_cons, CustomerProfile.edit_of_ne own]
      by_cases same : next.phone.text = text
      · rw [List.find?_cons_of_pos (by simpa using same),
          List.find?_cons_of_pos (by simpa using same)]
      · rw [List.find?_cons_of_neg (by simpa using same),
          List.find?_cons_of_neg (by simpa using same)]
        refine ih ?_
        rw [List.takeWhile_cons_of_pos (by simpa using own)] at newer
        obtain ⟨profile, h, hphone⟩ := newer
        rcases List.mem_cons.1 h with rfl | later
        · exact absurd hphone same
        · exact ⟨profile, later, hphone⟩

/-- No newer profile has the number: the edited profile becomes the first one. -/
theorem find_edit_of_not_newer {l : List CustomerProfile}
    (older : ∀ profile ∈ l.takeWhile (fun profile => profile.user ≠ user),
      profile.phone.text ≠ phone.text)
    (has_profile : ∃ profile ∈ l, profile.user = user) :
    (l.map (CustomerProfile.edit user phone)).find?
      (fun profile => profile.phone.text = phone.text) = some { user := user, phone := phone } := by
  induction l with
  | nil =>
    obtain ⟨_, h, _⟩ := has_profile
    cases h
  | cons next l ih =>
    rw [List.map_cons]
    by_cases own : next.user = user
    · rw [CustomerProfile.edit_of_eq own, List.find?_cons_of_pos (by simp), own]
    · rw [List.takeWhile_cons_of_pos (by simpa using own)] at older
      have head := older next List.mem_cons_self
      rw [CustomerProfile.edit_of_ne own, List.find?_cons_of_neg (by simpa using head)]
      refine ih (fun profile h => older profile (List.mem_cons_of_mem _ h)) ?_
      obtain ⟨profile, h, huser⟩ := has_profile
      rcases List.mem_cons.1 h with rfl | later
      · exact absurd huser own
      · exact ⟨profile, later, huser⟩

end Edit

/-! ## Isolation -/

namespace AccountBook

variable {book : AccountBook}

/-- The profile that decides what an identifier stands for, if there is one. -/
def decider (book : AccountBook) (identifier : String) : Option CustomerProfile :=
  if stripText identifier = "" then none else book.firstWithPhone (stripText identifier)

/-- The username of `u` is decided by the profile of `u`, or by none and has no blanks around it. -/
def OwnsName (book : AccountBook) (u : Account) : Prop :=
  match book.decider u.username with
  | some profile => profile.user = u
  | none => stripText u.username = u.username

/-- The edit sets the phone number to the identifier, and no newer profile has it already. -/
def TakesOver (book : AccountBook) (user : Account) (phone : ProfilePhone)
    (identifier : String) : Prop :=
  stripText identifier ≠ "" ∧ phone.text = stripText identifier ∧
    ∀ profile ∈ book.newerThan user, profile.phone.text ≠ phone.text

theorem resolveLoginIdentifier_eq (book : AccountBook) (identifier : String) :
    resolveLoginIdentifier book identifier =
      match book.decider identifier with
      | some profile => profile.user.username
      | none => stripText identifier := by
  unfold resolveLoginIdentifier decider
  by_cases blank : stripText identifier = ""
  · simp only [blank, if_true]
  · simp only [blank, if_false]

theorem firstWithPhone_user_mem {text : String} {profile : CustomerProfile}
    (h : book.firstWithPhone text = some profile) : profile.user ∈ book.users :=
  book.user_mem profile (List.mem_of_find?_eq_some h)

theorem decider_user_mem {identifier : String} {profile : CustomerProfile}
    (h : book.decider identifier = some profile) : profile.user ∈ book.users := by
  unfold decider at h
  split at h
  · cases h
  · exact firstWithPhone_user_mem h

theorem username_eq_iff {u v : Account} (hu : u ∈ book.users) (hv : v ∈ book.users) :
    u.username = v.username ↔ u = v :=
  ⟨book.username_unique u hu v hv, fun h => h ▸ rfl⟩

theorem resolve_username_iff {u : Account} (hu : u ∈ book.users) :
    resolveLoginIdentifier book u.username = u.username ↔ book.OwnsName u := by
  rw [resolveLoginIdentifier_eq, OwnsName]
  cases decides : book.decider u.username with
  | none => exact Iff.rfl
  | some profile => exact username_eq_iff (decider_user_mem decides) hu

/-! ### Edits -/

section Edit

variable {v : Account} {phone : ProfilePhone} {identifier : String}

theorem decider_editPhone_of_ne (h : phone.text ≠ stripText identifier)
    (other : ∀ profile, book.decider identifier = some profile → profile.user ≠ v) :
    (book.editPhone v phone).decider identifier = book.decider identifier := by
  unfold decider at other ⊢
  split
  · rfl
  · next some_text =>
    rw [if_neg some_text] at other
    cases first : book.firstWithPhone (stripText identifier) with
    | none => exact find_edit_eq_none h first
    | some profile => exact find_edit_of_ne h (other profile first) first

theorem decider_editPhone_of_newer (newer : ∃ profile ∈ book.newerThan v,
      profile.phone.text = stripText identifier) :
    (book.editPhone v phone).decider identifier = book.decider identifier := by
  unfold decider
  split
  · rfl
  · exact find_edit_of_newer newer

theorem decider_editPhone_of_takesOver (takes : book.TakesOver v phone identifier)
    (has_profile : ∃ profile ∈ book.profiles, profile.user = v) :
    (book.editPhone v phone).decider identifier = some { user := v, phone := phone } := by
  obtain ⟨some_text, same, older⟩ := takes
  rw [decider, if_neg some_text, ← same]
  exact find_edit_of_not_newer older has_profile

/-- An edit in somebody else's profile that does not take the identifier over leaves it as it
is. -/
theorem decider_editPhone_of_not_takesOver (keeps : ¬ book.TakesOver v phone identifier)
    (other : ∀ profile, book.decider identifier = some profile → profile.user ≠ v) :
    (book.editPhone v phone).decider identifier = book.decider identifier := by
  by_cases blank : stripText identifier = ""
  · rw [decider, decider, if_pos blank, if_pos blank]
  · by_cases same : phone.text = stripText identifier
    · refine decider_editPhone_of_newer ?_
      by_contra none_newer
      refine keeps ⟨blank, same, fun profile h hphone => none_newer ⟨profile, h, ?_⟩⟩
      rw [hphone, same]
    · exact decider_editPhone_of_ne same other

theorem resolve_editPhone_iff {u : Account} (hu : u ∈ book.users) (hne : v ≠ u)
    (has_profile : ∃ profile ∈ book.profiles, profile.user = v)
    (resolves : resolveLoginIdentifier book identifier = u.username) :
    resolveLoginIdentifier (book.editPhone v phone) identifier = u.username ↔
      ¬ book.TakesOver v phone identifier := by
  constructor
  · intro after takes
    have hv : v ∈ book.users := by
      obtain ⟨profile, hprofile, rfl⟩ := has_profile
      exact book.user_mem profile hprofile
    rw [resolveLoginIdentifier_eq, decider_editPhone_of_takesOver takes has_profile] at after
    exact hne (book.username_unique v hv u hu after)
  · intro keeps
    -- the profile that decides is the one of `u`, so not the edited one
    have other : ∀ profile, book.decider identifier = some profile → profile.user ≠ v := by
      intro profile decides own
      rw [resolveLoginIdentifier_eq, decides] at resolves
      exact hne (own ▸ (username_eq_iff (decider_user_mem decides) hu).1 resolves)
    rw [resolveLoginIdentifier_eq, decider_editPhone_of_not_takesOver keeps other,
      ← resolveLoginIdentifier_eq, resolves]

end Edit

/-- A user is reached by the own username, and what reaches the user is not changed by what the
others write into their profiles. -/
def Isolated (book : AccountBook) : Prop :=
  ∀ u ∈ book.users, resolveLoginIdentifier book u.username = u.username ∧
    ∀ identifier, resolveLoginIdentifier book identifier = u.username →
      ∀ profile ∈ book.profiles, profile.user ≠ u → ∀ phone : ProfilePhone,
        resolveLoginIdentifier (book.editPhone profile.user phone) identifier = u.username

end AccountBook

/-- The usernames that stand for their users, and the edits that leave an identifier alone. -/
theorem resolveLoginIdentifier_isolated_iff {book : AccountBook} {u : Account}
    (hu : u ∈ book.users) :
    (resolveLoginIdentifier book u.username = u.username ↔ book.OwnsName u) ∧
    ∀ identifier, resolveLoginIdentifier book identifier = u.username →
      ∀ profile ∈ book.profiles, profile.user ≠ u → ∀ phone : ProfilePhone,
        (resolveLoginIdentifier (book.editPhone profile.user phone) identifier = u.username ↔
          ¬ book.TakesOver profile.user phone identifier) :=
  ⟨AccountBook.resolve_username_iff hu, fun _ resolves profile hprofile hne _ =>
    AccountBook.resolve_editPhone_iff hu hne ⟨profile, hprofile, rfl⟩ resolves⟩

/-- Two users, the newer one without a phone number. -/
def sharedBook : AccountBook where
  users := [{ id := 1, username := "sara" }, { id := 2, username := "omid" }]
  profiles :=
    [{ user := { id := 2, username := "omid" }, phone := ⟨"", by decide, by decide, by decide⟩ },
      { user := { id := 1, username := "sara" },
        phone := ⟨"0912", by decide, by decide, by decide⟩ }]
  username_unique := by decide
  user_mem := by decide
  one_to_one := by decide

theorem resolveLoginIdentifier_isolated_iff_shared :
    (resolveLoginIdentifier sharedBook "sara" = "sara" ↔
      sharedBook.OwnsName { id := 1, username := "sara" }) ∧
    ∀ identifier, resolveLoginIdentifier sharedBook identifier = "sara" →
      ∀ profile ∈ sharedBook.profiles, profile.user ≠ { id := 1, username := "sara" } →
        ∀ phone : ProfilePhone,
          (resolveLoginIdentifier (sharedBook.editPhone profile.user phone) identifier = "sara" ↔
            ¬ sharedBook.TakesOver profile.user phone identifier) :=
  resolveLoginIdentifier_isolated_iff (u := { id := 1, username := "sara" }) (by decide)

/-- The newer user takes the other's username for a phone number, and the other's number as
well. -/
theorem resolveLoginIdentifier_not_isolated : ¬ ∀ book : AccountBook, book.Isolated := by
  intro isolated
  obtain ⟨-, keeps⟩ := isolated sharedBook { id := 1, username := "sara" } (by decide)
  have := keeps "sara" (by decide +kernel)
    { user := { id := 2, username := "omid" }, phone := ⟨"", by decide, by decide, by decide⟩ }
    (by decide) (by decide) ⟨"sara", by decide, by decide, by decide⟩
  revert this
  decide +kernel

end Crumbs
