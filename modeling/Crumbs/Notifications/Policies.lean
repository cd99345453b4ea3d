import Crumbs.Db.Table
import Crumbs.Models

/-!
# When a Message May Be Sent

The log of the text messages, and the policies that keep a message from being sent: quiet hours, a
limit for each user and day, and duplicates. A message that is sent with `force` passes them all.

## Contents

- `SMSTemplate`, `SMSLog`, `SmsDatabase`: the tables
- `SmsArguments`: the arguments of `send_sms`
- `inQuietHours`, `checkRateLimit`, `checkDedupe`: the policies
- `applySmsPolicies`: all of them, in their order
- `applySmsPolicies_eq_none_iff`: what lets a message pass
-/

namespace Crumbs

open Crumbs.Db

/-! ## Tables -/

/-- `SMSTemplate.Category` -/
inductive TemplateCategory where
  | order
  | payment
  | marketing
  | abandonedCart
  deriving DecidableEq, Repr

structure SMSTemplate where
  category : TemplateCategory
  body : String
  isActive : Bool := true
  deriving DecidableEq, Repr

/-- `SMSLog.Status` -/
inductive SMSStatus where
  | pending
  | sent
  | failed
  | skipped
  deriving DecidableEq, Repr

/-- One attempt to send a message. -/
structure SMSLog where
  provider : String
  templateCode : String := ""
  recipient : String
  message : String
  status : SMSStatus := .pending
  providerMessageId : String := ""
  errorMessage : String := ""
  user : Option UserId := none
  order : Option OrderId := none
  metadata : Metadata := []
  createdAt : Time
  deriving DecidableEq, Repr

/-- The tables of the notifications app. -/
structure SmsDatabase where
  logs : Table SMSLog := .empty
  templates : String → Option SMSTemplate := fun _ => none

/-- `metadata.get(key)` -/
def Metadata.get (m : Metadata) (key : String) : Option MetadataValue :=
  (m.find? fun e => e.1 == key).map Prod.snd

theorem Metadata.get_cons (e : String × MetadataValue) (m : Metadata) (key : String) :
    Metadata.get (e :: m) key = if e.1 = key then some e.2 else m.get key := by
  unfold Metadata.get
  by_cases h : e.1 = key
  · rw [List.find?_cons_of_pos (p := fun e : String × MetadataValue => e.1 == key)
      (beq_iff_eq.2 h), if_pos h, Option.map_some]
  · rw [List.find?_cons_of_neg (p := fun e : String × MetadataValue => e.1 == key)
      (mt beq_iff_eq.1 h), if_neg h]

/-- Another key than the one that is assigned to. -/
theorem Metadata.get_map {key key' : String} (value : MetadataValue) (h : key' ≠ key)
    (m : Metadata) :
    Metadata.get (m.map fun e => if e.1 = key then (key, value) else e) key' = m.get key' := by
  induction m with
  | nil => rfl
  | cons e rest ih =>
    rw [List.map_cons, Metadata.get_cons, Metadata.get_cons, ih]
    split
    next he => rw [if_neg h.symm, if_neg (he.trans_ne h.symm)]
    next => rfl

/-- After an item assignment the key has its value, and every other key has the value it had. -/
theorem Metadata.get_set (m : Metadata) (key key' : String) (value : MetadataValue) :
    (m.set key value).get key' = if key' = key then some value else m.get key' := by
  induction m with
  | nil =>
    show Metadata.get [(key, value)] key' = _
    rw [Metadata.get_cons]
    exact if_congr eq_comm rfl rfl
  | cons e rest ih =>
    by_cases he : e.1 = key
    · have hset : Metadata.set (e :: rest) key value =
          (key, value) :: rest.map fun e => if e.1 = key then (key, value) else e := by
        unfold Metadata.set
        rw [List.any_cons, beq_iff_eq.2 he, Bool.true_or, if_pos rfl, List.map_cons, if_pos he]
      rw [hset, Metadata.get_cons]
      by_cases hkey : key' = key
      · rw [if_pos hkey.symm, if_pos hkey]
      · rw [if_neg (Ne.symm hkey), if_neg hkey, Metadata.get_map value hkey, Metadata.get_cons,
          if_neg (he.trans_ne (Ne.symm hkey))]
    · have hset : Metadata.set (e :: rest) key value = e :: Metadata.set rest key value := by
        unfold Metadata.set
        rw [List.any_cons, beq_eq_false_iff_ne.2 he, Bool.false_or, List.map_cons, if_neg he,
          List.cons_append]
        split <;> rfl
      rw [hset, Metadata.get_cons, Metadata.get_cons, ih]
      by_cases hkey : key' = key
      · rw [if_pos hkey, if_pos hkey, if_neg (hkey ▸ he)]
      · rw [if_neg hkey, if_neg hkey]

/-- The text of a scalar. -/
def MetadataValue.text : MetadataValue → String
  | str s => s
  | int n => toString n

/-- What Python takes for true. -/
def MetadataValue.isTruthy : MetadataValue → Bool
  | str s => s != ""
  | int n => n != 0

/-! ## Settings and arguments -/

/-- The settings of the app, with their defaults; the quiet hours are times of day. -/
structure SmsSettings where
  smsProvider : String := "console"
  smsEnabled : Bool := true
  kavenegarApiKey : String := ""
  smsQuietHoursStart : Time := minutes 1320
  smsQuietHoursEnd : Time := minutes 480
  smsRateLimitPerUserPerDay : ℤ := 3
  smsDedupeWindowSeconds : ℤ := 300

/-- The arguments of `send_sms`. -/
structure SmsArguments where
  recipient : String
  message : String
  templateCode : String := ""
  user : Option UserId := none
  order : Option OrderId := none
  metadata : Metadata := []
  force : Bool := false
  dedupeKey : String := ""

/-- The key of an order and a template. -/
def orderKey (o : OrderId) (templateCode : String) : String := s!"{o}:{templateCode}"

/-- The metadata of the log: those of the caller, and the key for duplicates. -/
def SmsArguments.fullMetadata (args : SmsArguments) : Metadata :=
  if args.dedupeKey ≠ "" then args.metadata.set "dedupe_key" (.str args.dedupeKey)
  else
    match args.order with
    | some o =>
      if args.templateCode ≠ "" ∧ args.metadata.get "dedupe_key" = none then
        args.metadata.set "dedupe_key" (.str (orderKey o args.templateCode))
      else args.metadata
    | none => args.metadata

/-- Only the key for duplicates is added. -/
theorem SmsArguments.get_fullMetadata (args : SmsArguments) {key : String}
    (h : key ≠ "dedupe_key") : args.fullMetadata.get key = args.metadata.get key := by
  unfold fullMetadata
  split
  next => rw [Metadata.get_set, if_neg h]
  next =>
    split
    next =>
      split
      next => rw [Metadata.get_set, if_neg h]
      next => rfl
    next => rfl

/-! ## Policies -/

/-- `TRANSACTIONAL_EVENTS` -/
def transactionalEvents : List String :=
  ["order_created", "payment_success", "payment_failed", "order_confirmed_by_shop",
    "order_preparing", "order_out_for_delivery", "delivered", "order_cancelled",
    "refund_processed", "cod_reminder"]

/-- `TRANSACTIONAL_CATEGORIES` -/
def transactionalCategories : List TemplateCategory := [.order, .payment]

/-- `_get_template_category` -/
def SmsDatabase.templateCategory (db : SmsDatabase) (templateCode : String) : TemplateCategory :=
  if templateCode = "" then .marketing
  else if templateCode ∈ transactionalEvents then .order
  else (db.templates templateCode).elim .marketing SMSTemplate.category

/-- `_in_quiet_hours` -/
def inQuietHours (settings : SmsSettings) (current : Time) : Prop :=
  if settings.smsQuietHoursStart < settings.smsQuietHoursEnd then
    settings.smsQuietHoursStart ≤ current ∧ current < settings.smsQuietHoursEnd
  else settings.smsQuietHoursStart ≤ current ∨ current < settings.smsQuietHoursEnd

instance (settings : SmsSettings) (current : Time) : Decidable (inQuietHours settings current) :=
  inferInstanceAs (Decidable (ite _ _ _))

/-- `_check_rate_limit` -/
def SmsDatabase.checkRateLimit (db : SmsDatabase) (settings : SmsSettings) (now : Time)
    (recipient : String) (user : Option UserId) : Option String :=
  let limit := settings.smsRateLimitPerUserPerDay
  if limit ≤ 0 then none
  else
    let since := now - seconds 86400
    let sent := db.logs.filter fun log => decide (log.status = .sent ∧ since ≤ log.createdAt ∧
      if user.isSome then log.user = user else log.recipient = recipient)
    if limit ≤ sent.length then some "rate_limit_exceeded" else none

/-- `dedupe_key or metadata.get("dedupe_key")`, and then the key of the order. -/
def dedupeKeyOf (args : SmsArguments) (metadata : Metadata) : Option MetadataValue :=
  if args.dedupeKey ≠ "" then some (.str args.dedupeKey)
  else ((metadata.get "dedupe_key").filter (·.isTruthy)).or
    (args.order.map fun o => .str (orderKey o args.templateCode))

/-- `_check_dedupe`; `metadata` is what the log will have. -/
def SmsDatabase.checkDedupe (db : SmsDatabase) (settings : SmsSettings) (now : Time)
    (args : SmsArguments) (metadata : Metadata) : Option String :=
  if settings.smsDedupeWindowSeconds ≤ 0 then none
  else
    match dedupeKeyOf args metadata with
    | none => none
    | some key =>
      let since := now - seconds settings.smsDedupeWindowSeconds
      let preview := (metadata.get "_message_preview").elim "" (·.text)
      if db.logs.filter (fun log => decide (log.recipient = args.recipient ∧
          log.templateCode = args.templateCode ∧ log.message = preview ∧
          (log.status = .sent ∨ log.status = .pending) ∧ since ≤ log.createdAt ∧
          log.metadata.get "dedupe_key" = some key)) ≠ [] then
        some s!"dedupe:{key.text}"
      else
        match args.order with
        | none => none
        | some o =>
          if db.logs.filter (fun log => decide (log.order = some o ∧
              log.templateCode = args.templateCode ∧ log.status = .sent)) ≠ [] then
            some s!"dedupe:order:{o}:{args.templateCode}"
          else none

/-- `apply_sms_policies`: why the message is not to be sent, if there is a reason. -/
def SmsDatabase.applySmsPolicies (db : SmsDatabase) (settings : SmsSettings)
    (now current : Time) (args : SmsArguments) (metadata : Metadata) : Option String :=
  if args.force then none
  else if inQuietHours settings current ∧
      db.templateCategory args.templateCode ∉ transactionalCategories then some "quiet_hours"
  else if args.templateCode ∉ transactionalEvents ∧ inQuietHours settings current then
    some "quiet_hours"
  else
    match db.checkRateLimit settings now args.recipient args.user with
    | some reason => some reason
    | none => db.checkDedupe settings now args metadata

/-! ## What lets a message pass -/

section Passing

variable {db : SmsDatabase} {settings : SmsSettings} {now current : Time} {args : SmsArguments}
  {metadata : Metadata}

/-- It is too late, or too early, for a message of this template. -/
def IsQuiet (settings : SmsSettings) (current : Time) (templateCode : String) : Prop :=
  inQuietHours settings current ∧ templateCode ∉ transactionalEvents

instance (settings : SmsSettings) (current : Time) (templateCode : String) :
    Decidable (IsQuiet settings current templateCode) :=
  inferInstanceAs (Decidable (_ ∧ _))

/-- The events are transactional, whatever their templates say. -/
theorem SmsDatabase.templateCategory_of_mem (db : SmsDatabase) {templateCode : String}
    (h : templateCode ∈ transactionalEvents) :
    db.templateCategory templateCode ∈ transactionalCategories := by
  have hne : templateCode ≠ "" := by
    rintro rfl
    exact absurd h (by decide)
  rw [templateCategory, if_neg hne, if_pos h]
  exact List.mem_cons_self

theorem applySmsPolicies_of_force (h : args.force = true) :
    db.applySmsPolicies settings now current args metadata = none := by
  rw [SmsDatabase.applySmsPolicies, if_pos h]

/-- The second check for quiet hours withholds all that the first one does. -/
theorem applySmsPolicies_of_isQuiet (hunforced : args.force = false)
    (h : IsQuiet settings current args.templateCode) :
    db.applySmsPolicies settings now current args metadata = some "quiet_hours" := by
  rw [SmsDatabase.applySmsPolicies, if_neg (by rw [hunforced]; decide)]
  split
  next => rfl
  next => rw [if_pos ⟨h.2, h.1⟩]

theorem applySmsPolicies_of_not_isQuiet (hunforced : args.force = false)
    (h : ¬IsQuiet settings current args.templateCode) :
    db.applySmsPolicies settings now current args metadata =
      (db.checkRateLimit settings now args.recipient args.user).or
        (db.checkDedupe settings now args metadata) := by
  have hcategory : ¬(inQuietHours settings current ∧
      db.templateCategory args.templateCode ∉ transactionalCategories) := by
    rintro ⟨hquiet, hcategory⟩
    exact h ⟨hquiet, mt db.templateCategory_of_mem hcategory⟩
  rw [SmsDatabase.applySmsPolicies, if_neg (by rw [hunforced]; decide), if_neg hcategory,
    if_neg fun hquiet => h ⟨hquiet.2, hquiet.1⟩]
  cases db.checkRateLimit settings now args.recipient args.user with
  | none => rfl
  | some reason => rfl

theorem applySmsPolicies_eq_none_iff (hunforced : args.force = false) :
    db.applySmsPolicies settings now current args metadata = none ↔
      ¬IsQuiet settings current args.templateCode ∧
        db.checkRateLimit settings now args.recipient args.user = none ∧
        db.checkDedupe settings now args metadata = none := by
  by_cases h : IsQuiet settings current args.templateCode
  · rw [applySmsPolicies_of_isQuiet hunforced h]
    exact iff_of_false nofun fun hpasses => hpasses.1 h
  · rw [applySmsPolicies_of_not_isQuiet hunforced h, Option.or_eq_none_iff]
    exact ⟨fun hpasses => ⟨h, hpasses⟩, fun hpasses => hpasses.2⟩

end Passing

end Crumbs
