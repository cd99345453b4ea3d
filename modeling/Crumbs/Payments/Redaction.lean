import Crumbs.Models
import Crumbs.Text.Json
import Crumbs.Text.Rewrite
import Crumbs.Text.Search
import Crumbs.Text.Trim

/-!
# The Gateway's Responses in Logs and Messages

A response of the gateway that is not what the shop expects is logged and goes into the message of
the error, without the merchant id. A text is searched for the merchant id itself. JSON is printed
with the values under a few keys replaced and is not searched, so a merchant id that the gateway
repeats anywhere else stays.

## Contents

- `readResponseBody`: what is logged of a response
- `not_infix_redactSecretsInText`: a redacted text does not contain the merchant id
- `dumps_sanitizeJson`: sanitised JSON prints what is visible of it
- `readResponseBody_withheld_iff`: the responses that do not give the merchant id away
-/

namespace Crumbs

open Crumbs.Text

/-! ## The response -/

/-- A response of the gateway, with what `response.json()` gives of it when that does not fail. -/
structure GatewayResponse where
  contentType : Option String
  json : Option Json
  text : Option String

/-- `_SENSITIVE_JSON_KEYS` -/
def sensitiveJsonKeys : List String :=
  ["merchant_id", "merchant", "authorization", "password", "secret", "api_key", "access_token",
    "refresh_token"]

/-- `_RESPONSE_BODY_MAX_LENGTH` -/
def responseBodyMaxLength : ℕ := 2000

/-- `str(key).lower() in _SENSITIVE_JSON_KEYS`. Outside ASCII only the Kelvin sign has a letter of
the keys as its small letter. -/
def isSensitiveJsonKey (key : String) : Bool :=
  sensitiveJsonKeys.contains
    (lower (String.ofList (key.toList.map fun c => if c.toNat = 0x212A then 'k' else c)))

mutual

/-- `_sanitize_json` -/
def sanitizeJson : Json → Json
  | .obj fields => .obj (sanitizeFields fields)
  | .arr items => .arr (sanitizeItems items)
  | value => value

def sanitizeItems : List Json → List Json
  | [] => []
  | item :: items => sanitizeJson item :: sanitizeItems items

def sanitizeFields : List (String × Json) → List (String × Json)
  | [] => []
  | (key, nested) :: fields =>
    (key, if isSensitiveJsonKey key then .str "***" else sanitizeJson nested) ::
      sanitizeFields fields

end

/-! ## Redacting a text -/

/-- The beginning of `"merchant_id"\s*:\s*"` with its quotation marks. -/
def merchantField : List Char := "\"merchant_id\"".toList

/-- A match of the pattern at the beginning of a text: its first two groups. -/
def matchMerchantField (l : List Char) : Option (List Char × List Char) :=
  if merchantField <+: l.map foldCase then
    match (l.drop merchantField.length).dropWhile isSpace with
    | ':' :: afterColon =>
      match afterColon.dropWhile isSpace with
      | '"' :: content =>
        -- the second group runs to the next quotation mark, which has to be there
        if '"' ∈ content then
          some (l.take (l.length - content.length), content.takeWhile (· ≠ '"'))
        else none
      | _ => none
    | _ => none
  else none

/-- What `re.sub` writes for a match: `\1***\3` -/
def findMerchantField (l : List Char) : Option (ℕ × List Char) :=
  (matchMerchantField l).map fun (opening, value) =>
    (opening.length + value.length + 1, opening ++ ['*', '*', '*'] ++ ['"'])

/-- `_redact_secrets_in_text` -/
def redactSecretsInText (merchantId : String) (text : List Char) : List Char :=
  let text := if merchantId ≠ "" then replaceAll merchantId.toList ['*', '*', '*'] text else text
  rewriteAll findMerchantField 0 text

/-! ## Reading a response -/

/-- The JSON of a response that says that it is JSON, unless it cannot be parsed. -/
def GatewayResponse.decoded (response : GatewayResponse) : Option Json :=
  if "json".toList <:+: (lower (response.contentType.getD "")).toList then response.json else none

/-- `(response.text or "").strip()` -/
def GatewayResponse.stripped (response : GatewayResponse) : List Char :=
  trim isSpace (response.text.getD "").toList

def emptyBody : List Char := "(empty response body)".toList

/-- `_read_response_body` -/
def readResponseBody (merchantId : String) (response : GatewayResponse) : String :=
  let text := match response.decoded with
    | some json => (sanitizeJson json).dumps
    | none => redactSecretsInText merchantId response.stripped
  if text = [] then String.ofList emptyBody
  else if text.length > responseBodyMaxLength then
    String.ofList (text.take responseBodyMaxLength ++ "...".toList)
  else String.ofList text

/-! ## A redacted text has no merchant id -/

theorem matchMerchantField_eq {l opening value : List Char}
    (found : matchMerchantField l = some (opening, value)) :
    ∃ rest, l = opening ++ value ++ '"' :: rest := by
  unfold matchMerchantField at found
  split at found
  · split at found
    · next afterColon colon =>
      split at found
      · next content quote =>
        split at found
        · next closed =>
          obtain ⟨rfl, rfl⟩ := Prod.mk.inj (Option.some.inj found)
          have tail : content <:+ l :=
            (List.suffix_cons _ _).trans <| quote ▸ (List.dropWhile_suffix _).trans <|
              (List.suffix_cons _ _).trans <| colon ▸ (List.dropWhile_suffix _).trans
                (List.drop_suffix _ _)
          have front := List.suffix_iff_eq_append.1 tail
          -- the value ends where the quotation mark stands
          have behind : ∃ rest, content.dropWhile (· ≠ '"') = '"' :: rest := by
            cases left : content.dropWhile (· ≠ '"') with
            | nil =>
              have none_closes := List.dropWhile_eq_nil_iff.1 left '"' closed
              simp at none_closes
            | cons c rest =>
              have stops := List.head?_dropWhile_not (· ≠ '"') content
              rw [left] at stops
              exact ⟨rest, by simpa using stops⟩
          obtain ⟨rest, hrest⟩ := behind
          refine ⟨rest, ?_⟩
          rw [List.append_assoc, ← hrest, List.takeWhile_append_dropWhile, front]
        · cases found
      · cases found
    · cases found
  · cases found

theorem masks_findMerchantField : Masks '*' findMerchantField := by
  intro l n new found
  obtain ⟨⟨opening, value⟩, hmatch, hit⟩ := Option.map_eq_some_iff.1 found
  obtain ⟨rfl, rfl⟩ := Prod.mk.inj hit
  obtain ⟨rest, rfl⟩ := matchMerchantField_eq hmatch
  refine ⟨Nat.succ_pos _, ?_⟩
  have front : (opening ++ value ++ '"' :: rest).take (opening.length + value.length + 1) =
      opening ++ value ++ ['"'] := by
    rw [← List.length_append, List.take_length_add_append]
    rfl
  rw [front]
  exact ((Masked.refl opening).append (.replicate value 2)).append (.refl ['"'])

/-- The redacted text has the merchant id nowhere: the replacement leaves none, and masking the
quoted fields brings none about. -/
theorem not_infix_redactSecretsInText {merchantId : String} (some_id : merchantId ≠ "")
    (no_mask : '*' ∉ merchantId.toList) (text : List Char) :
    ¬ merchantId.toList <:+: redactSecretsInText merchantId text := by
  intro stands
  have some_chars : merchantId.toList ≠ [] := fun nil => some_id (String.toList_eq_nil_iff.1 nil)
  simp only [redactSecretsInText, ne_eq, some_id, not_false_eq_true, if_true] at stands
  have masked := masked_rewriteAll masks_findMerchantField
    (replaceAll merchantId.toList ['*', '*', '*'] text) 0
  exact not_infix_replaceAll 2 some_chars no_mask text (masked.isInfix no_mask stands)

/-! ## Sanitised JSON prints what is visible -/

theorem sanitizeItems_eq_map (items : List Json) :
    sanitizeItems items = items.map sanitizeJson := by
  induction items with
  | nil => rfl
  | cons item items ih => rw [sanitizeItems, ih, List.map_cons]

theorem sanitizeFields_eq_map (fields : List (String × Json)) : sanitizeFields fields =
    fields.map fun field =>
      (field.1, if isSensitiveJsonKey field.1 then .str "***" else sanitizeJson field.2) := by
  induction fields with
  | nil => rfl
  | cons field fields ih => rw [sanitizeFields, ih, List.map_cons]

/-- How a character is written that is to be seen or masked. -/
def render (cell : Option Char) : Char := cell.getD '*'

theorem map_render_some (l : List Char) : (l.map some).map render = l := by
  rw [List.map_map]
  exact List.map_id l

theorem dumps_stars : (Json.str "***").dumps = Json.maskedText.map render := by
  rw [Json.dumps]
  decide

theorem dumps_sanitizeJson (j : Json) :
    (sanitizeJson j).dumps = (j.visible isSensitiveJsonKey).map render := by
  induction j with
  | null => rfl
  | bool b => cases b <;> rfl
  | num text => exact (map_render_some _).symm
  | str s => exact (map_render_some _).symm
  | arr items ih =>
    have same : (items.map sanitizeJson).map Json.dumps =
        (items.map (Json.visible isSensitiveJsonKey)).map (List.map render) := by
      rw [List.map_map, List.map_map]
      exact List.map_congr_left ih
    rw [sanitizeJson, Json.dumps, Json.visible, Json.dumpsItems_eq_map, sanitizeItems_eq_map,
      Json.visibleItems_eq_map, same, List.map_append, List.map_cons, map_intercalate]
    rfl
  | obj fields ih =>
    rw [sanitizeJson, Json.dumps, Json.visible, Json.dumpsFields_eq_map, sanitizeFields_eq_map,
      Json.visibleFields_eq_map, List.map_append, List.map_cons, map_intercalate, List.map_map,
      List.map_map]
    congr 3
    refine List.map_congr_left fun field hfield => ?_
    have value : (if isSensitiveJsonKey field.1 then Json.str "***"
        else sanitizeJson field.2).dumps = (if isSensitiveJsonKey field.1 then Json.maskedText
          else field.2.visible isSensitiveJsonKey).map render := by
      by_cases sensitive : isSensitiveJsonKey field.1 = true
      · rw [if_pos sensitive, if_pos sensitive, dumps_stars]
      · rw [if_neg sensitive, if_neg sensitive, ih field hfield]
    rw [Function.comp, Function.comp, List.map_append, map_render_some, value]

/-! ## What a response gives away -/

/-- What is logged of a response before it is cut, with the characters that are masked. -/
def GatewayResponse.shown (merchantId : String) (response : GatewayResponse) :
    List (Option Char) :=
  match response.decoded with
  | some json => json.visible isSensitiveJsonKey
  | none => (redactSecretsInText merchantId response.stripped).map some

/-- The text is cut where the three dots written for the rest complete the word. -/
def CompletedByDots (word : List Char) (cells : List (Option Char)) : Prop :=
  cells.length > responseBodyMaxLength ∧ ∃ front dots, word = front ++ dots ∧ dots ≠ [] ∧
    front.map some <:+ cells.take responseBodyMaxLength ∧ dots <+: "...".toList

/-- A response that does not give the merchant id away. -/
structure Withheld (merchantId : String) (response : GatewayResponse) : Prop where
  /-- In JSON it is not to be seen outside the values under the sensitive keys. -/
  json : ∀ json, response.decoded = some json →
    ¬ merchantId.toList.map some <:+:
      (json.visible isSensitiveJsonKey).take responseBodyMaxLength
  dots : ¬ CompletedByDots merchantId.toList (response.shown merchantId)
  blank : response.shown merchantId = [] → ¬ merchantId.toList <:+: emptyBody

/-- What `_read_response_body` makes of a text in the end. -/
def limitBody (text : List Char) : List Char :=
  if text = [] then emptyBody
  else if text.length > responseBodyMaxLength then text.take responseBodyMaxLength ++ "...".toList
  else text

theorem readResponseBody_toList (merchantId : String) (response : GatewayResponse) :
    (readResponseBody merchantId response).toList =
      limitBody ((response.shown merchantId).map render) := by
  have text : (match response.decoded with
      | some json => (sanitizeJson json).dumps
      | none => redactSecretsInText merchantId response.stripped) =
      (response.shown merchantId).map render := by
    unfold GatewayResponse.shown
    cases response.decoded with
    | some json => exact dumps_sanitizeJson json
    | none => exact (map_render_some _).symm
  simp only [readResponseBody, text, limitBody]
  split
  · exact String.toList_ofList
  · split <;> exact String.toList_ofList

/-- A word without the mask is read off the cells that show it. -/
theorem eq_map_some_of_render {word : List Char} (no_mask : '*' ∉ word) :
    ∀ {cells : List (Option Char)}, cells.map render = word → cells = word.map some := by
  induction word with
  | nil => exact fun h => List.map_eq_nil_iff.1 h
  | cons c word ih =>
    intro cells h
    obtain ⟨cell, rest, rfl, hc, hrest⟩ := List.map_eq_cons_iff.1 h
    rw [ih (fun hw => no_mask (List.mem_cons_of_mem _ hw)) hrest, List.map_cons]
    congr 1
    cases cell with
    | none => exact absurd (hc ▸ List.mem_cons_self) no_mask
    | some d => exact congrArg some hc

theorem infix_map_render_iff {word : List Char} (no_mask : '*' ∉ word)
    (cells : List (Option Char)) :
    word <:+: cells.map render ↔ word.map some <:+: cells := by
  constructor
  · rintro ⟨before, after, h⟩
    obtain ⟨front, back, rfl, hfront, -⟩ := List.map_eq_append_iff.1 h.symm
    obtain ⟨before, middle, rfl, -, hmiddle⟩ := List.map_eq_append_iff.1 hfront
    rw [eq_map_some_of_render no_mask hmiddle]
    exact List.infix_append _ _ _
  · intro h
    have := h.map render
    rwa [map_render_some] at this

theorem suffix_map_render_iff {word : List Char} (no_mask : '*' ∉ word)
    (cells : List (Option Char)) :
    word <:+ cells.map render ↔ word.map some <:+ cells := by
  constructor
  · rintro ⟨before, h⟩
    obtain ⟨before, back, rfl, -, hback⟩ := List.map_eq_append_iff.1 h.symm
    rw [eq_map_some_of_render no_mask hback]
    exact List.suffix_append _ _
  · intro h
    have := h.map render
    rwa [map_render_some] at this

/-- What stands in the dots begins them. -/
theorem prefix_dots_of_infix {word : List Char} (h : word <:+: "...".toList) :
    word <+: "...".toList := by
  have dots : "...".toList = List.replicate 3 '.' := by decide
  rw [dots] at h ⊢
  have all : word = List.replicate word.length '.' :=
    List.eq_replicate_iff.2 ⟨rfl, fun c hc => List.eq_of_mem_replicate (h.subset hc)⟩
  have short : word.length ≤ 3 := by simpa using h.length_le
  rw [all]
  exact ⟨List.replicate (3 - word.length) '.', by
    rw [List.replicate_append_replicate, Nat.add_sub_of_le short]⟩

/-- Where a word can stand in what is logged: among the first characters that are to be seen, over
the dots, or in the words for an empty body. -/
theorem infix_limitBody_iff {word : List Char} (some_word : word ≠ []) (no_mask : '*' ∉ word)
    (cells : List (Option Char)) :
    word <:+: limitBody (cells.map render) ↔
      word.map some <:+: cells.take responseBodyMaxLength ∨ CompletedByDots word cells ∨
        (cells = [] ∧ word <:+: emptyBody) := by
  unfold limitBody CompletedByDots
  by_cases blank : cells = []
  · simp [blank, some_word]
  · have some_text : cells.map render ≠ [] := by simpa using blank
    rw [if_neg some_text, List.length_map]
    by_cases long : cells.length > responseBodyMaxLength
    · rw [if_pos long, List.infix_append_iff, ← List.map_take, infix_map_render_iff no_mask]
      simp only [blank, long, true_and, false_and, or_false]
      constructor
      · rintro (seen | within | ⟨front, dots, rfl, left, right⟩)
        · exact .inl seen
        · exact .inr ⟨[], word, rfl, some_word, List.nil_suffix, prefix_dots_of_infix within⟩
        · rw [suffix_map_render_iff fun h => no_mask (List.mem_append_left _ h)] at left
          by_cases none_left : dots = []
          · subst none_left
            rw [List.append_nil]
            exact .inl left.isInfix
          · exact .inr ⟨front, dots, rfl, none_left, left, right⟩
      · rintro (seen | ⟨front, dots, rfl, -, left, right⟩)
        · exact .inl seen
        · refine .inr (.inr ⟨front, dots, rfl, ?_, right⟩)
          exact (suffix_map_render_iff (fun h => no_mask (List.mem_append_left _ h)) _).2 left
    · rw [if_neg long, infix_map_render_iff no_mask, List.take_of_length_le (by omega)]
      simp [blank, long]

/-- A response gives the merchant id away unless it is withheld. -/
theorem readResponseBody_withheld_iff {merchantId : String} (some_id : merchantId ≠ "")
    (no_mask : '*' ∉ merchantId.toList) (response : GatewayResponse) :
    ¬ merchantId.toList <:+: (readResponseBody merchantId response).toList ↔
      Withheld merchantId response := by
  have some_chars : merchantId.toList ≠ [] := fun nil => some_id (String.toList_eq_nil_iff.1 nil)
  rw [readResponseBody_toList, infix_limitBody_iff some_chars no_mask, not_or, not_or]
  constructor
  · rintro ⟨seen, dots, blank⟩
    refine ⟨fun json decoded => ?_, dots, fun nil stands => blank ⟨nil, stands⟩⟩
    simpa only [GatewayResponse.shown, decoded] using seen
  · rintro ⟨json, dots, blank⟩
    refine ⟨?_, dots, fun h => blank h.1 h.2⟩
    unfold GatewayResponse.shown
    cases decoded : response.decoded with
    | some value => exact json value decoded
    | none =>
      intro seen
      have stands := (infix_map_render_iff no_mask _).2 (seen.trans (List.take_prefix _ _).isInfix)
      rw [map_render_some] at stands
      exact not_infix_redactSecretsInText some_id no_mask _ stands

/-- Outside JSON nothing is given away of a merchant id that has no dot and is not part of the
words for an empty body. -/
theorem Withheld.of_text {merchantId : String} {response : GatewayResponse}
    (text : response.decoded = none) (no_dot : '.' ∉ merchantId.toList)
    (ordinary : ¬ merchantId.toList <:+: emptyBody) : Withheld merchantId response where
  json json decoded := by rw [text] at decoded; cases decoded
  blank _ := ordinary
  dots := by
    rintro ⟨-, front, dots, parts, some_dots, -, begins⟩
    obtain ⟨c, rest, rfl⟩ := List.exists_cons_of_ne_nil some_dots
    have dot : c = '.' := (List.cons_prefix_cons.1 begins).1
    rw [parts, dot] at no_dot
    exact no_dot (List.mem_append_right _ List.mem_cons_self)

/-- The gateway's error page repeats the merchant id in its text. -/
theorem readResponseBody_withheld_iff_page :
    let page : GatewayResponse :=
      { contentType := some "text/html", json := none,
        text := some " merchant test-merchant-id is not active " }
    ¬ "test-merchant-id".toList <:+: (readResponseBody "test-merchant-id" page).toList ↔
      Withheld "test-merchant-id" page :=
  readResponseBody_withheld_iff (by decide) (by decide) _

/-- The same in the message of a JSON error. -/
theorem readResponseBody_reveals :
    ¬ ∀ (merchantId : String) (response : GatewayResponse), merchantId ≠ "" →
      '*' ∉ merchantId.toList →
        ¬ merchantId.toList <:+: (readResponseBody merchantId response).toList := by
  intro withheld
  refine withheld "test-merchant-id"
    { contentType := some "application/json; charset=utf-8",
      json := some (.obj [("data", .obj []), ("errors", .obj [("code", .num "-11"),
        ("message", .str "merchant test-merchant-id is not active")])]),
      text := none } (by decide) (by decide) ?_
  decide +kernel

end Crumbs
