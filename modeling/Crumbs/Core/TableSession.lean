import Crumbs.Text.Search
import Crumbs.Text.Trim

/-!
# The Table of a Guest

A QR code on a table opens the shop with the table's number in the query string. The number is
cleaned, cut to twenty characters and kept in the session, from which every later page reads it
through the same cleaning. The cut comes last, so it can leave a space at the end that the next
cleaning takes away.

## Contents

- `sanitizeTableNumber`: the cleaning of a table number
- `captureTableFromQuery`, `getTableFromSession`: its way through the session
- `sanitizeTableNumber_thrice`: two cleanings are always enough
- `captureTableFromQuery_eq_getTableFromSession_iff`: the values for which one is enough
-/

namespace Crumbs

open Crumbs.Text

/-! ## Characters -/

/-- A table of `str.isprintable` for single characters. It says what is documented of it: on ASCII
these are the characters from the space to the tilde, and of the whitespace only the space. -/
structure PrintableChars where
  isPrintable : Char → Bool
  ascii : ∀ c : Char, c.toNat < 128 → isPrintable c = decide (32 ≤ c.toNat ∧ c.toNat < 127)
  space : ∀ c, isSpace c → isPrintable c → c = ' '

/-- The table that prints ASCII only. -/
def PrintableChars.asciiOnly : PrintableChars where
  isPrintable c := decide (32 ≤ c.toNat ∧ c.toNat < 127)
  ascii _ _ := rfl
  space c hc hp := by
    have range : 32 ≤ c.toNat ∧ c.toNat < 127 := by simpa using hp
    have code : c.toNat = ' '.toNat := by
      simp only [isSpace, List.contains_eq_mem, List.mem_cons, List.not_mem_nil, or_false,
        decide_eq_true_eq] at hc
      show c.toNat = 32
      omega
    exact Char.toNat_inj.1 code

/-! ## The cleaning -/

/-- `MAX_TABLE_LENGTH` -/
def maxTableLength : ℕ := 20

section Sanitize

variable (chars : PrintableChars)

/-- The characters that the cleaning keeps. -/
def keepsTableChar (ch : Char) : Bool :=
  chars.isPrintable ch && !(['\r', '\n', '\t'].contains ch)

/-- `sanitize_table_number`, of a value that is `None` or has the text `str(value)` -/
def sanitizeTableNumber : Option String → String
  | none => ""
  | some value =>
    let text := trim isSpace value.toList
    let text := text.filter (keepsTableChar chars)
    let text := trim isSpace text
    if text.isEmpty then "" else String.ofList (text.take maxTableLength)

/-! ## The session -/

/-- What the session keeps of the table (`SESSION_CAFE_TABLE`), and whether it is to be saved. -/
structure TableSession where
  cafeTableNumber : Option String
  modified : Bool
  deriving DecidableEq, Repr

/-- `set_table_in_session` -/
def setTableInSession (value : String) (_session : TableSession) : TableSession :=
  let table := sanitizeTableNumber chars (some value)
  if table ≠ "" then { cafeTableNumber := some table, modified := true }
  else { cafeTableNumber := none, modified := true }

/-- `get_table_from_session` -/
def getTableFromSession (session : TableSession) : String :=
  sanitizeTableNumber chars (some (session.cafeTableNumber.getD ""))

/-- `clear_table_from_session` -/
def clearTableFromSession (session : TableSession) : TableSession :=
  match session.cafeTableNumber with
  | some _ => { cafeTableNumber := none, modified := true }
  | none => session

/-- `capture_table_from_query`: the query string may have no `table` -/
def captureTableFromQuery (query : Option String) (session : TableSession) :
    String × TableSession :=
  match query with
  | none => (getTableFromSession chars session, session)
  | some value =>
    let table := sanitizeTableNumber chars (some value)
    (table, setTableInSession chars table session)

/-- `sync_table_from_pickup_note` -/
def syncTableFromPickupNote (pickupNote : String) (session : TableSession) : TableSession :=
  setTableInSession chars pickupNote session

/-- `get_checkout_table_initial`, with the one field that it may fill -/
def getCheckoutTableInitial (session : TableSession) : Option String :=
  let table := getTableFromSession chars session
  if table ≠ "" then some table else none

/-! ## What a guest reads -/

/-- The characters of a value that show, without the blanks around them. -/
def PrintableChars.shown (value : Option String) : List Char :=
  trim isSpace ((value.getD "").toList.filter (keepsTableChar chars))

/-- The cut to twenty characters does not fall after a space of the text that shows. -/
def PrintableChars.CutsCleanly (value : Option String) : Prop :=
  (chars.shown value)[maxTableLength - 1]? ≠ some ' '

instance (value : Option String) : Decidable (chars.CutsCleanly value) :=
  inferInstanceAs (Decidable (_ ≠ _))

/-- The first stripping is lost in the second: the cleaning cuts the text that shows. -/
theorem sanitizeTableNumber_toList (value : Option String) :
    (sanitizeTableNumber chars value).toList = (chars.shown value).take maxTableLength := by
  cases value with
  | none => simp [sanitizeTableNumber, PrintableChars.shown]
  | some value =>
    simp only [sanitizeTableNumber, PrintableChars.shown, Option.getD_some, trim_filter_trim]
    split
    · next empty => rw [List.isEmpty_iff.1 empty]; rfl
    · exact String.toList_ofList

theorem trim_shown (value : Option String) :
    trim isSpace (chars.shown value) = chars.shown value :=
  trim_idem isSpace _

theorem keeps_of_mem_shown {value : Option String} {c : Char} (h : c ∈ chars.shown value) :
    keepsTableChar chars c :=
  (List.mem_filter.1 ((trim_sublist isSpace _).subset h)).2

/-- The only blank that shows is the space. -/
theorem isSpace_shown_iff {value : Option String} {c : Char} (h : c ∈ chars.shown value) :
    isSpace c ↔ c = ' ' := by
  constructor
  · intro blank
    have keeps := keeps_of_mem_shown chars h
    rw [keepsTableChar, Bool.and_eq_true] at keeps
    exact chars.space c blank keeps.1
  · rintro rfl
    decide

/-- A second cleaning only takes away the blanks that the cut has left. -/
theorem shown_sanitizeTableNumber (value : Option String) :
    chars.shown (some (sanitizeTableNumber chars value)) =
      trim isSpace ((chars.shown value).take maxTableLength) := by
  have kept : ∀ c ∈ (chars.shown value).take maxTableLength, keepsTableChar chars c :=
    fun c hc => keeps_of_mem_shown chars (List.mem_of_mem_take hc)
  rw [PrintableChars.shown, Option.getD_some, sanitizeTableNumber_toList,
    List.filter_eq_self.2 kept]

theorem sanitizeTableNumber_twice_toList (value : Option String) :
    (sanitizeTableNumber chars (some (sanitizeTableNumber chars value))).toList =
      trim isSpace ((chars.shown value).take maxTableLength) := by
  rw [sanitizeTableNumber_toList, shown_sanitizeTableNumber]
  refine List.take_of_length_le ((trim_sublist isSpace _).length_le.trans ?_)
  exact List.length_take_le _ _

/-- Two cleanings are always enough. -/
theorem sanitizeTableNumber_thrice (value : Option String) :
    sanitizeTableNumber chars (some (sanitizeTableNumber chars
      (some (sanitizeTableNumber chars value)))) =
      sanitizeTableNumber chars (some (sanitizeTableNumber chars value)) := by
  have short : (trim isSpace ((chars.shown value).take maxTableLength)).length ≤ maxTableLength :=
    (trim_sublist isSpace _).length_le.trans (List.length_take_le _ _)
  rw [← String.toList_inj, sanitizeTableNumber_twice_toList, sanitizeTableNumber_twice_toList,
    shown_sanitizeTableNumber, List.take_of_length_le short, trim_idem]

theorem sanitizeTableNumber_twice_iff (value : Option String) :
    sanitizeTableNumber chars (some (sanitizeTableNumber chars value)) =
      sanitizeTableNumber chars value ↔ chars.CutsCleanly value := by
  rw [← String.toList_inj, sanitizeTableNumber_twice_toList, sanitizeTableNumber_toList]
  refine (trim_take_eq_self_iff isSpace (trim_shown chars value) 19).trans ?_
  constructor
  · intro h space
    exact h ' ' space (by decide)
  · intro clean a ha blank
    -- a blank at the cut is the space
    rw [(isSpace_shown_iff chars (List.mem_of_getElem? ha)).1 blank] at ha
    exact clean ha

/-! ## Through the session -/

theorem getTableFromSession_setTableInSession (value : String) (session : TableSession) :
    getTableFromSession chars (setTableInSession chars value session) =
      sanitizeTableNumber chars (some (sanitizeTableNumber chars (some value))) := by
  unfold setTableInSession getTableFromSession
  by_cases empty : sanitizeTableNumber chars (some value) = ""
  · simp only [empty, ne_eq, not_true_eq_false, if_false, Option.getD_none]
  · simp only [empty, ne_eq, not_false_eq_true, if_true, Option.getD_some]

/-- What a later page reads is what the query string gave, cleaned twice. -/
theorem getTableFromSession_captureTableFromQuery (value : String) (session : TableSession) :
    getTableFromSession chars (captureTableFromQuery chars (some value) session).2 =
      sanitizeTableNumber chars (some (sanitizeTableNumber chars (some value))) := by
  rw [captureTableFromQuery, getTableFromSession_setTableInSession, sanitizeTableNumber_thrice]

theorem captureTableFromQuery_eq_getTableFromSession_iff (query : Option String)
    (session : TableSession) :
    (captureTableFromQuery chars query session).1 =
      getTableFromSession chars (captureTableFromQuery chars query session).2 ↔
      chars.CutsCleanly query := by
  cases query with
  | none =>
    simp [captureTableFromQuery, PrintableChars.CutsCleanly, PrintableChars.shown]
  | some value =>
    rw [getTableFromSession_captureTableFromQuery, ← sanitizeTableNumber_twice_iff, eq_comm,
      captureTableFromQuery]

/-- A value is cleaned for good by one cleaning, and the page that captures a query string shows
what later pages show, exactly for the values that the cut does not leave with a space. -/
theorem sanitizeTableNumber_stable_iff (value : Option String) (session : TableSession) :
    (sanitizeTableNumber chars (some (sanitizeTableNumber chars value)) =
      sanitizeTableNumber chars value ↔ chars.CutsCleanly value) ∧
    ((captureTableFromQuery chars value session).1 =
      getTableFromSession chars (captureTableFromQuery chars value session).2 ↔
      chars.CutsCleanly value) :=
  ⟨sanitizeTableNumber_twice_iff chars value,
    captureTableFromQuery_eq_getTableFromSession_iff chars value session⟩

/-- Twenty characters of which the last is a space, and one more. -/
theorem sanitizeTableNumber_unstable :
    ¬ ((∀ value, sanitizeTableNumber .asciiOnly (some (sanitizeTableNumber .asciiOnly value)) =
        sanitizeTableNumber .asciiOnly value) ∨
      ∀ query session, (captureTableFromQuery .asciiOnly query session).1 =
        getTableFromSession .asciiOnly (captureTableFromQuery .asciiOnly query session).2) := by
  have cut : ¬ PrintableChars.asciiOnly.CutsCleanly (some "terrace by the door 4") := by decide
  rintro (stable | same)
  · exact cut ((sanitizeTableNumber_twice_iff _ _).1 (stable _))
  · exact cut ((captureTableFromQuery_eq_getTableFromSession_iff _ _ _).1
      (same _ { cafeTableNumber := none, modified := false }))

/-! ## Over a visit -/

/-- The requests of a visit that touch the table. -/
inductive TableRequest where
  | page (query : Option String)
  | checkout (pickupNote : String)
  | clear
  deriving DecidableEq, Repr

/-- What a request leaves in the session. -/
def TableRequest.handle (session : TableSession) : TableRequest → TableSession
  | page query => (captureTableFromQuery chars query session).2
  | checkout pickupNote => syncTableFromPickupNote chars pickupNote session
  | clear => clearTableFromSession session

/-- The session keeps a cleaned value or none. -/
def TableSession.Cleaned (session : TableSession) : Prop :=
  ∃ value, session.cafeTableNumber.getD "" = sanitizeTableNumber chars value

theorem setTableInSession_cleaned (value : String) (session : TableSession) :
    (setTableInSession chars value session).Cleaned chars := by
  refine ⟨some value, ?_⟩
  unfold setTableInSession
  by_cases empty : sanitizeTableNumber chars (some value) = ""
  · simp only [empty, ne_eq, not_true_eq_false, if_false, Option.getD_none]
  · simp only [empty, ne_eq, not_false_eq_true, if_true, Option.getD_some]

theorem TableRequest.handle_cleaned (request : TableRequest) {session : TableSession}
    (cleaned : session.Cleaned chars) : (request.handle chars session).Cleaned chars := by
  cases request with
  | page query =>
    cases query with
    | none => simpa only [TableRequest.handle, captureTableFromQuery] using cleaned
    | some value =>
      simp only [TableRequest.handle, captureTableFromQuery]
      exact setTableInSession_cleaned chars _ session
  | checkout pickupNote =>
    simp only [TableRequest.handle, syncTableFromPickupNote]
    exact setTableInSession_cleaned chars pickupNote session
  | clear =>
    simp only [TableRequest.handle, clearTableFromSession]
    split
    · exact ⟨none, rfl⟩
    · exact cleaned

theorem TableRequest.run_cleaned (requests : List TableRequest) {session : TableSession}
    (cleaned : session.Cleaned chars) :
    (requests.foldl (TableRequest.handle chars) session).Cleaned chars := by
  induction requests generalizing session with
  | nil => exact cleaned
  | cons request requests ih =>
    rw [List.foldl_cons]
    exact ih (request.handle_cleaned chars cleaned)

/-- At whatever point of a visit, the table that the pages show fills the checkout form, and
sending the form back as it was filled leaves the table as it is. -/
theorem getTableFromSession_sync (requests : List TableRequest) {session : TableSession}
    (cleaned : session.Cleaned chars) :
    let now := requests.foldl (TableRequest.handle chars) session
    getTableFromSession chars
      (syncTableFromPickupNote chars ((getCheckoutTableInitial chars now).getD "") now) =
      getTableFromSession chars now := by
  intro now
  obtain ⟨value, kept⟩ := TableRequest.run_cleaned chars requests cleaned
  have filled : (getCheckoutTableInitial chars now).getD "" = getTableFromSession chars now := by
    unfold getCheckoutTableInitial
    by_cases empty : getTableFromSession chars now = "" <;> simp [empty]
  have shows : getTableFromSession chars now =
      sanitizeTableNumber chars (some (sanitizeTableNumber chars value)) := by
    rw [← kept]
    rfl
  rw [filled, syncTableFromPickupNote, getTableFromSession_setTableInSession, shows,
    sanitizeTableNumber_thrice, sanitizeTableNumber_thrice]

end Sanitize

end Crumbs
