import Crumbs.Text.Json
import Crumbs.Text.Search

/-!
# Scrubbing What Goes to Sentry

Before an event leaves the shop, the values under sensitive keys are replaced, at any depth and in
lists as well. A list inside a list is not searched key by key: it is replaced as a whole when its
printed form contains a sensitive word, and the printed form shows the keys.

## Contents

- `scrubMapping`: the scrubbing of a mapping
- `scrubMapping_hide`: the values under sensitive keys have no influence on the result
- `scrubMapping_idem`: the result is scrubbed already
-/

namespace Crumbs

open Crumbs.Text

/-! ## Sensitive keys -/

/-- The words of `_SENSITIVE_KEY_RE` -/
def sensitiveWords : List String :=
  ["password", "secret", "token", "authorization", "cookie", "resume", "email", "phone",
    "address", "postal", "cvv", "card", "ssn", "body", "payload"]

/-- `_SENSITIVE_KEY_RE.search` -/
def isSensitive (text : String) : Bool := containsWord sensitiveWords text

/-- What Python's `str` gives for values: a text is itself, and a list shows its keys verbatim. -/
structure ValuePrinter where
  str : Json → String
  str_text : ∀ s, str (.str s) = s
  str_keys : ∀ items, ∀ key ∈ (Json.arr items).keys,
    key.toList <:+: (str (.arr items)).toList

mutual

/-- Python's `repr` of texts that need no escapes. -/
def plainRepr : Json → String
  | .null => "None"
  | .bool b => if b then "True" else "False"
  | .num text => text
  | .str s => "'" ++ s ++ "'"
  | .arr items => "[" ++ ", ".intercalate (plainReprs items) ++ "]"
  | .obj fields => "\x7b" ++ ", ".intercalate (plainFields fields) ++ "\x7d"

def plainReprs : List Json → List String
  | [] => []
  | item :: items => plainRepr item :: plainReprs items

def plainFields : List (String × Json) → List String
  | [] => []
  | (key, value) :: fields => ("'" ++ key ++ "': " ++ plainRepr value) :: plainFields fields

end

theorem plainReprs_eq_map (items : List Json) : plainReprs items = items.map plainRepr := by
  induction items with
  | nil => rfl
  | cons item items ih => rw [plainReprs, ih, List.map_cons]

theorem plainFields_eq_map (fields : List (String × Json)) : plainFields fields =
    fields.map fun field => "'" ++ field.1 ++ "': " ++ plainRepr field.2 := by
  induction fields with
  | nil => rfl
  | cons field fields ih => rw [plainFields, ih, List.map_cons]

theorem infix_between (left part right : String) :
    part.toList <:+: (left ++ part ++ right).toList := by
  rw [String.toList_append, String.toList_append]
  exact List.infix_append _ _ _

theorem keys_infix_plainRepr (j : Json) :
    ∀ key ∈ j.keys, key.toList <:+: (plainRepr j).toList := by
  induction j with
  | null => exact fun _ h => absurd h List.not_mem_nil
  | bool b => exact fun _ h => absurd h List.not_mem_nil
  | num text => exact fun _ h => absurd h List.not_mem_nil
  | str s => exact fun _ h => absurd h List.not_mem_nil
  | arr items ih =>
    intro key h
    rw [Json.keys_arr] at h
    obtain ⟨item, hitem, hkey⟩ := List.mem_flatMap.1 h
    have part : plainRepr item ∈ plainReprs items :=
      plainReprs_eq_map items ▸ List.mem_map_of_mem hitem
    exact (ih item hitem key hkey).trans
      ((infix_intercalate ", " part).trans (infix_between "[" _ "]"))
  | obj fields ih =>
    intro key h
    rw [Json.keys_obj] at h
    obtain ⟨field, hfield, hkey⟩ := List.mem_flatMap.1 h
    have part : "'" ++ field.1 ++ "': " ++ plainRepr field.2 ∈ plainFields fields :=
      plainFields_eq_map fields ▸ List.mem_map_of_mem hfield
    refine List.IsInfix.trans ?_
      ((infix_intercalate ", " part).trans (infix_between "\x7b" _ "\x7d"))
    rcases List.mem_cons.1 hkey with rfl | inner
    · refine (infix_between "'" field.1 "': ").trans ?_
      rw [String.toList_append (s := "'" ++ field.1 ++ "': ")]
      exact (List.prefix_append _ _).isInfix
    · refine (ih field hfield key inner).trans ?_
      rw [String.toList_append]
      exact (List.suffix_append _ _).isInfix

/-- The printer that escapes nothing. -/
def ValuePrinter.plain : ValuePrinter where
  str
    | .str s => s
    | j => plainRepr j
  str_text _ := rfl
  str_keys items := keys_infix_plainRepr (.arr items)

/-! ## The scrubbing -/

def filtered : Json := .str "[Filtered]"

/-- The check for the depth with which `scrub_mapping` begins. -/
def cutDeep (depth : ℕ) (cleaned : List (String × Json)) : List (String × Json) :=
  if depth > 6 then [("truncated", .bool true)] else cleaned

section Scrub

variable (py : ValuePrinter)

mutual

/-- What `scrub_mapping` leaves of the value under a key that is not sensitive. -/
def scrubValue (depth : ℕ) : Json → Json
  | .obj data => .obj (cutDeep (depth + 1) (scrubFields (depth + 1) data))
  -- the comprehension runs over `value[:20]`
  | .arr items => .arr ((scrubItems depth items).take 20)
  | value => value

/-- What it leaves of an item of a list. -/
def scrubItem (depth : ℕ) : Json → Json
  | .obj data => .obj (cutDeep (depth + 1) (scrubFields (depth + 1) data))
  | item => if isSensitive (py.str item) then filtered else item

def scrubItems (depth : ℕ) : List Json → List Json
  | [] => []
  | item :: items => scrubItem depth item :: scrubItems depth items

/-- The loop over `data.items()` -/
def scrubFields (depth : ℕ) : List (String × Json) → List (String × Json)
  | [] => []
  | (key, value) :: fields =>
    (key, if isSensitive key then filtered else scrubValue depth value) ::
      scrubFields depth fields

end

/-- `scrub_mapping` -/
def scrubMapping (depth : ℕ) (data : List (String × Json)) : List (String × Json) :=
  cutDeep depth (scrubFields py depth data)

theorem scrubItems_eq_map (depth : ℕ) (items : List Json) :
    scrubItems py depth items = items.map (scrubItem py depth) := by
  induction items with
  | nil => rfl
  | cons item items ih => rw [scrubItems, ih, List.map_cons]

theorem scrubFields_eq_map (depth : ℕ) (fields : List (String × Json)) :
    scrubFields py depth fields = fields.map fun field =>
      (field.1, if isSensitive field.1 then filtered else scrubValue py depth field.2) := by
  induction fields with
  | nil => rfl
  | cons field fields ih => rw [scrubFields, ih, List.map_cons]

theorem scrubValue_obj (depth : ℕ) (data : List (String × Json)) :
    scrubValue py depth (.obj data) = .obj (scrubMapping py (depth + 1) data) := rfl

theorem scrubItem_obj (depth : ℕ) (data : List (String × Json)) :
    scrubItem py depth (.obj data) = .obj (scrubMapping py (depth + 1) data) := rfl

theorem scrubValue_arr (depth : ℕ) (items : List Json) :
    scrubValue py depth (.arr items) = .arr ((items.map (scrubItem py depth)).take 20) := by
  rw [scrubValue, scrubItems_eq_map]

theorem scrubItem_arr (depth : ℕ) (items : List Json) : scrubItem py depth (.arr items) =
    if isSensitive (py.str (.arr items)) then filtered else .arr items := rfl

/-! ## The hidden values have no influence -/

/-- A list with a sensitive key somewhere inside prints a sensitive word. -/
theorem isSensitive_str_arr {items : List Json} {key : String} (sensitive : isSensitive key)
    (h : key ∈ (Json.arr items).keys) : isSensitive (py.str (.arr items)) :=
  containsWord_mono (py.str_keys items key h) sensitive

theorem scrubItem_hide_arr (depth : ℕ) (items : List Json) :
    scrubItem py depth ((Json.arr items).hide isSensitive) =
      scrubItem py depth (.arr items) := by
  rcases Json.hide_eq_self_or isSensitive (.arr items) with same | ⟨key, sensitive, before, after⟩
  · rw [same]
  · -- the key that hides something stands in both lists, and both are replaced
    rw [Json.hide_arr] at after ⊢
    rw [scrubItem_arr, scrubItem_arr, if_pos (isSensitive_str_arr py sensitive before),
      if_pos (isSensitive_str_arr py sensitive after)]

/-- The fields are scrubbed alike when the values that are not sensitive are. -/
theorem scrubMapping_hide_of_values {data : List (String × Json)}
    (values : ∀ field ∈ data, ∀ depth,
      scrubValue py depth (field.2.hide isSensitive) = scrubValue py depth field.2) (depth : ℕ) :
    scrubMapping py depth (data.map fun field =>
      (field.1, if isSensitive field.1 then .null else field.2.hide isSensitive)) =
      scrubMapping py depth data := by
  rw [scrubMapping, scrubMapping, scrubFields_eq_map, scrubFields_eq_map, List.map_map]
  congr 1
  refine List.map_congr_left fun field hfield => ?_
  by_cases sensitive : isSensitive field.1 = true
  · simp only [Function.comp, if_pos sensitive]
  · simp only [Function.comp, if_neg sensitive, values field hfield depth]

theorem scrubValue_hide (j : Json) : ∀ depth,
    scrubValue py depth (j.hide isSensitive) = scrubValue py depth j ∧
    scrubItem py depth (j.hide isSensitive) = scrubItem py depth j := by
  induction j with
  | null => exact fun _ => ⟨rfl, rfl⟩
  | bool b => exact fun _ => ⟨rfl, rfl⟩
  | num text => exact fun _ => ⟨rfl, rfl⟩
  | str s => exact fun _ => ⟨rfl, rfl⟩
  | arr items ih =>
    intro depth
    refine ⟨?_, scrubItem_hide_arr py depth items⟩
    have same : items.map (scrubItem py depth ∘ Json.hide isSensitive) =
        items.map (scrubItem py depth) :=
      List.map_congr_left fun item hitem => (ih item hitem depth).2
    rw [Json.hide_arr, scrubValue_arr, scrubValue_arr, List.map_map, same]
  | obj data ih =>
    intro depth
    have same := scrubMapping_hide_of_values py (fun field hfield depth => (ih field hfield depth).1)
      (depth + 1)
    rw [Json.hide_obj, scrubValue_obj, scrubItem_obj, same]
    exact ⟨rfl, rfl⟩

/-- A mapping with `null` in the place of its sensitive values. -/
def hideSensitive (data : List (String × Json)) : List (String × Json) :=
  data.map fun field =>
    (field.1, if isSensitive field.1 then .null else field.2.hide isSensitive)

/-- Two mappings that differ only in what stands under sensitive keys, at whatever depth. -/
def SameButSensitive (data data' : List (String × Json)) : Prop :=
  hideSensitive data = hideSensitive data'

theorem scrubMapping_hide (depth : ℕ) (data : List (String × Json)) :
    scrubMapping py depth (hideSensitive data) = scrubMapping py depth data :=
  scrubMapping_hide_of_values py (fun field _ depth => (scrubValue_hide py field.2 depth).1) depth

/-! ## Scrubbing again -/

theorem isSensitive_filtered : isSensitive (py.str filtered) = false := by
  rw [filtered, py.str_text]
  decide +kernel

theorem scrubItem_filtered (depth : ℕ) : scrubItem py depth filtered = filtered := by
  show (if isSensitive (py.str filtered) then filtered else filtered) = filtered
  rw [isSensitive_filtered]
  rfl

theorem scrubMapping_idem_of_values {data : List (String × Json)}
    (values : ∀ field ∈ data, ∀ depth,
      scrubValue py depth (scrubValue py depth field.2) = scrubValue py depth field.2)
    (depth : ℕ) :
    scrubMapping py depth (scrubMapping py depth data) = scrubMapping py depth data := by
  unfold scrubMapping cutDeep
  by_cases deep : depth > 6
  · rw [if_pos deep, if_pos deep]
  · rw [if_neg deep, if_neg deep, scrubFields_eq_map, scrubFields_eq_map, List.map_map]
    refine List.map_congr_left fun field hfield => ?_
    by_cases sensitive : isSensitive field.1 = true
    · simp only [Function.comp, if_pos sensitive]
    · simp only [Function.comp, if_neg sensitive, values field hfield depth]

/-- An item that is no mapping is replaced or stays, and what it is replaced by stays. -/
theorem scrubItem_idem_of_other {item : Json} (depth : ℕ)
    (other : scrubItem py depth item = if isSensitive (py.str item) then filtered else item) :
    scrubItem py depth (scrubItem py depth item) = scrubItem py depth item := by
  by_cases sensitive : isSensitive (py.str item) = true
  · rw [other, if_pos sensitive, scrubItem_filtered]
  · rw [if_neg sensitive] at other
    rw [other, other]

theorem scrubValue_idem (j : Json) : ∀ depth,
    scrubValue py depth (scrubValue py depth j) = scrubValue py depth j ∧
    scrubItem py depth (scrubItem py depth j) = scrubItem py depth j := by
  induction j with
  | null => exact fun depth => ⟨rfl, scrubItem_idem_of_other py depth rfl⟩
  | bool b => exact fun depth => ⟨rfl, scrubItem_idem_of_other py depth rfl⟩
  | num text => exact fun depth => ⟨rfl, scrubItem_idem_of_other py depth rfl⟩
  | str s => exact fun depth => ⟨rfl, scrubItem_idem_of_other py depth rfl⟩
  | arr items ih =>
    intro depth
    refine ⟨?_, scrubItem_idem_of_other py depth (scrubItem_arr py depth items)⟩
    have same : items.map (scrubItem py depth ∘ scrubItem py depth) =
        items.map (scrubItem py depth) :=
      List.map_congr_left fun item hitem => (ih item hitem depth).2
    rw [scrubValue_arr, scrubValue_arr, List.map_take, List.map_map, same, List.take_take,
      Nat.min_self]
  | obj data ih =>
    intro depth
    have same := scrubMapping_idem_of_values py (fun field hfield depth => (ih field hfield depth).1)
      (depth + 1)
    simp only [scrubValue_obj, scrubItem_obj, same, and_self]

theorem scrubMapping_idem (depth : ℕ) (data : List (String × Json)) :
    scrubMapping py depth (scrubMapping py depth data) = scrubMapping py depth data :=
  scrubMapping_idem_of_values py (fun field _ depth => (scrubValue_idem py field.2 depth).1) depth

/-- Mappings that differ only in sensitive values are scrubbed to the same, and what is scrubbed
stays as it is. -/
theorem scrubMapping_noninterferent (depth : ℕ) {data data' : List (String × Json)}
    (same : SameButSensitive data data') :
    scrubMapping py depth data = scrubMapping py depth data' ∧
      scrubMapping py depth (scrubMapping py depth data) = scrubMapping py depth data := by
  refine ⟨?_, scrubMapping_idem py depth data⟩
  rw [← scrubMapping_hide py depth data, ← scrubMapping_hide py depth data', same]

end Scrub

/-- A phone number in a list in a list. -/
theorem scrubMapping_noninterferent_nested :
    let data (phone : String) : List (String × Json) :=
      [("rows", .arr [.obj [("id", .num "7")], .arr [.obj [("phone", .str phone)]]])]
    scrubMapping .plain 0 (data "0912") = scrubMapping .plain 0 (data "0935") ∧
      scrubMapping .plain 0 (scrubMapping .plain 0 (data "0912")) =
        scrubMapping .plain 0 (data "0912") :=
  scrubMapping_noninterferent .plain 0 <| by
    have phone : isSensitive "phone" = true := by decide +kernel
    have rows : isSensitive "rows" = false := by decide +kernel
    simp [SameButSensitive, hideSensitive, Json.hide_arr, Json.hide_obj, phone, rows]

end Crumbs
