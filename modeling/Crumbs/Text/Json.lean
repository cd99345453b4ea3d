import Mathlib.Data.List.Basic

/-!
# JSON Values

JSON as it is after parsing: objects are their fields in the order of the text, and a number is the
text it is printed with. A traversal is a mutual recursion over values, items and fields; its
equations for arrays and objects are stated with `List.map`, and proofs go by `Json.induct`, which
gives the hypothesis for every item and every field.

## Contents

- `Json`, `Json.induct`: the values and their induction
- `Json.keys`: the keys at any depth
- `Json.hide`: the value with the fields of some keys blanked out, at any depth
- `Json.hide_eq_self_or`: hiding changes nothing, or one of the keys is still to be seen
- `Json.dumps`, `Json.visible`: the printed value, and what is to be seen of it
-/

namespace Crumbs.Text

inductive Json where
  | null
  | bool (b : Bool)
  | num (text : String)
  | str (s : String)
  | arr (items : List Json)
  | obj (fields : List (String × Json))
  deriving Repr

namespace Json

/-- The induction over a value with the hypothesis for all items and all fields. -/
@[elab_as_elim, induction_eliminator]
theorem induct {P : Json → Prop} (null : P .null) (bool : ∀ b, P (.bool b))
    (num : ∀ text, P (.num text)) (str : ∀ s, P (.str s))
    (arr : ∀ items, (∀ item ∈ items, P item) → P (.arr items))
    (obj : ∀ fields, (∀ field ∈ fields, P field.2) → P (.obj fields)) (j : Json) : P j := by
  refine @Json.rec P (fun items => ∀ item ∈ items, P item)
    (fun fields => ∀ field ∈ fields, P field.2) (fun field => P field.2)
    null bool num str arr obj ?_ ?_ ?_ ?_ ?_ j
  · intro item h
    cases h
  · intro item items hitem hitems other h
    rcases List.mem_cons.1 h with rfl | later
    · exact hitem
    · exact hitems other later
  · intro field h
    cases h
  · intro field fields hfield hfields other h
    rcases List.mem_cons.1 h with rfl | later
    · exact hfield
    · exact hfields other later
  · intro _ _ h
    exact h

/-! ## Keys -/

mutual

/-- The keys of all objects in the value. -/
def keys : Json → List String
  | .arr items => keysOfItems items
  | .obj fields => keysOfFields fields
  | _ => []

def keysOfItems : List Json → List String
  | [] => []
  | item :: items => keys item ++ keysOfItems items

def keysOfFields : List (String × Json) → List String
  | [] => []
  | (key, value) :: fields => key :: keys value ++ keysOfFields fields

end

theorem keys_arr (items : List Json) : (arr items).keys = items.flatMap keys := by
  rw [keys]
  induction items with
  | nil => rfl
  | cons item items ih => rw [keysOfItems, ih, List.flatMap_cons]

theorem keys_obj (fields : List (String × Json)) :
    (obj fields).keys = fields.flatMap fun field => field.1 :: field.2.keys := by
  rw [keys]
  induction fields with
  | nil => rfl
  | cons field fields ih => rw [keysOfFields, ih, List.flatMap_cons]

/-! ## Hiding -/

mutual

/-- The value with `null` in the place of what stands under the keys of `p`. -/
def hide (p : String → Bool) : Json → Json
  | .arr items => .arr (hideItems p items)
  | .obj fields => .obj (hideFields p fields)
  | j => j

def hideItems (p : String → Bool) : List Json → List Json
  | [] => []
  | item :: items => hide p item :: hideItems p items

def hideFields (p : String → Bool) : List (String × Json) → List (String × Json)
  | [] => []
  | (key, value) :: fields =>
    (key, if p key then .null else hide p value) :: hideFields p fields

end

variable (p : String → Bool)

theorem hide_arr (items : List Json) : (arr items).hide p = arr (items.map (hide p)) := by
  rw [hide]
  congr 1
  induction items with
  | nil => rfl
  | cons item items ih => rw [hideItems, ih, List.map_cons]

theorem hide_obj (fields : List (String × Json)) : (obj fields).hide p =
    obj (fields.map fun field => (field.1, if p field.1 then .null else field.2.hide p)) := by
  rw [hide]
  congr 1
  induction fields with
  | nil => rfl
  | cons field fields ih => rw [hideFields, ih, List.map_cons]

/-- A key of `p` stands in the value, hidden or not. -/
def Shows (j : Json) : Prop := ∃ key, p key ∧ key ∈ j.keys ∧ key ∈ (j.hide p).keys

/-- Hiding changes nothing, or a key of `p` stands in the value before and after. -/
theorem hide_eq_self_or (j : Json) : j.hide p = j ∨ j.Shows p := by
  induction j with
  | null => exact .inl rfl
  | bool b => exact .inl rfl
  | num text => exact .inl rfl
  | str s => exact .inl rfl
  | arr items ih =>
    by_cases same : ∀ item ∈ items, item.hide p = item
    · left
      rw [hide_arr, List.map_congr_left same, List.map_id']
    · right
      push Not at same
      obtain ⟨item, hitem, changed⟩ := same
      obtain ⟨key, hp, before, after⟩ := (ih item hitem).resolve_left changed
      refine ⟨key, hp, ?_, ?_⟩
      · exact keys_arr items ▸ List.mem_flatMap.2 ⟨item, hitem, before⟩
      · rw [hide_arr, keys_arr]
        exact List.mem_flatMap.2 ⟨_, List.mem_map_of_mem hitem, after⟩
  | obj fields ih =>
    by_cases same : ∀ field ∈ fields, (field.1, if p field.1 then .null else field.2.hide p) = field
    · left
      rw [hide_obj, List.map_congr_left same, List.map_id']
    · right
      push Not at same
      obtain ⟨⟨key, value⟩, hfield, changed⟩ := same
      by_cases hp : p key = true
      · -- the key of the first hidden field stays
        refine ⟨key, hp, ?_, ?_⟩
        · exact keys_obj fields ▸ List.mem_flatMap.2 ⟨_, hfield, List.mem_cons_self⟩
        · rw [hide_obj, keys_obj]
          exact List.mem_flatMap.2 ⟨_, List.mem_map_of_mem hfield, List.mem_cons_self⟩
      · have inner : value.hide p ≠ value := by
          intro h
          exact changed (by rw [if_neg hp, h])
        obtain ⟨key', hp', before, after⟩ := (ih _ hfield).resolve_left inner
        refine ⟨key', hp', ?_, ?_⟩
        · exact keys_obj fields ▸
            List.mem_flatMap.2 ⟨_, hfield, List.mem_cons_of_mem _ before⟩
        · rw [hide_obj, keys_obj]
          refine List.mem_flatMap.2 ⟨_, List.mem_map_of_mem hfield, List.mem_cons_of_mem _ ?_⟩
          simpa only [if_neg hp] using after

/-! ## Printing -/

def hexDigit (n : ℕ) : Char := "0123456789abcdef".toList.getD n '0'

/-- How a character is written inside a JSON text. -/
def escape (c : Char) : List Char :=
  if c = '"' then ['\\', '"']
  else if c = '\\' then ['\\', '\\']
  else if c = '\n' then ['\\', 'n']
  else if c = '\r' then ['\\', 'r']
  else if c = '\t' then ['\\', 't']
  else if c.toNat = 8 then ['\\', 'b']
  else if c.toNat = 12 then ['\\', 'f']
  else if c.toNat < 32 then
    ['\\', 'u', '0', '0', hexDigit (c.toNat / 16), hexDigit (c.toNat % 16)]
  else [c]

def quote (s : String) : List Char := '"' :: s.toList.flatMap escape ++ ['"']

mutual

/-- `json.dumps` with `ensure_ascii=False` -/
def dumps : Json → List Char
  | .null => "null".toList
  | .bool b => if b then "true".toList else "false".toList
  | .num text => text.toList
  | .str s => quote s
  | .arr items => '[' :: [',', ' '].intercalate (dumpsItems items) ++ [']']
  | .obj fields => '\x7b' :: [',', ' '].intercalate (dumpsFields fields) ++ ['\x7d']

def dumpsItems : List Json → List (List Char)
  | [] => []
  | item :: items => dumps item :: dumpsItems items

def dumpsFields : List (String × Json) → List (List Char)
  | [] => []
  | (key, value) :: fields => (quote key ++ [':', ' '] ++ dumps value) :: dumpsFields fields

end

/-- A quoted text of three masked characters. -/
def maskedText : List (Option Char) := [some '"', none, none, none, some '"']

mutual

/-- The printed value as far as it is to be seen: under the keys of `p` stands a masked text. -/
def visible (p : String → Bool) : Json → List (Option Char)
  | .arr items => some '[' :: [some ',', some ' '].intercalate (visibleItems p items) ++ [some ']']
  | .obj fields =>
    some '\x7b' :: [some ',', some ' '].intercalate (visibleFields p fields) ++ [some '\x7d']
  | j => (dumps j).map some

def visibleItems (p : String → Bool) : List Json → List (List (Option Char))
  | [] => []
  | item :: items => visible p item :: visibleItems p items

def visibleFields (p : String → Bool) : List (String × Json) → List (List (Option Char))
  | [] => []
  | (key, value) :: fields =>
    ((quote key ++ [':', ' ']).map some ++ if p key then maskedText else visible p value) ::
      visibleFields p fields

end

theorem dumpsItems_eq_map (items : List Json) : dumpsItems items = items.map dumps := by
  induction items with
  | nil => rfl
  | cons item items ih => rw [dumpsItems, ih, List.map_cons]

theorem dumpsFields_eq_map (fields : List (String × Json)) : dumpsFields fields =
    fields.map fun field => quote field.1 ++ [':', ' '] ++ dumps field.2 := by
  induction fields with
  | nil => rfl
  | cons field fields ih => rw [dumpsFields, ih, List.map_cons]

theorem visibleItems_eq_map (items : List Json) :
    visibleItems p items = items.map (visible p) := by
  induction items with
  | nil => rfl
  | cons item items ih => rw [visibleItems, ih, List.map_cons]

theorem visibleFields_eq_map (fields : List (String × Json)) : visibleFields p fields =
    fields.map fun field => (quote field.1 ++ [':', ' ']).map some ++
      if p field.1 then maskedText else visible p field.2 := by
  induction fields with
  | nil => rfl
  | cons field fields ih => rw [visibleFields, ih, List.map_cons]

end Json

theorem map_intercalate {α β : Type*} (f : α → β) (sep : List α) (parts : List (List α)) :
    (sep.intercalate parts).map f = (sep.map f).intercalate (parts.map (List.map f)) := by
  induction parts with
  | nil => rfl
  | cons part parts ih =>
    cases parts with
    | nil => simp
    | cons second rest =>
      simp only [List.map_cons] at ih ⊢
      rw [List.intercalate_cons_cons, List.intercalate_cons_cons, List.map_append,
        List.map_append, ih]

end Crumbs.Text
