import Crumbs.Notifications.Services

/-!
# Duplicate Messages

`_check_dedupe` looks for an earlier message in two ways. The first one goes by the key, within the
window, but it also compares the text of the row with `_message_preview` of the metadata, which
`send_sms` does not write. The second one goes by the order and the template, and knows no window.
So a message is found to be a duplicate by its order, and by its key only if the caller put the
text there.

## Contents

- `Repeats`, `SentBy`: two calls with the same key, of which the first one sent its message
- `SkipsDuplicate`: the second one does not reach the provider
- `IsWithheld`: quiet hours, the limit, a message for the order, or a text in the metadata
- `skipsDuplicate_iff`: the second call is skipped if and only if one of these is the case
-/

namespace Crumbs

open Crumbs.Db

/-! ## Two calls -/

/-- Two calls with the same recipient, template and key, neither forced, the second one within the
    window after the first. -/
structure Repeats (env₁ : SmsEnv) (args₁ : SmsArguments) (env₂ : SmsEnv) (args₂ : SmsArguments) :
    Prop where
  settings : env₂.settings = env₁.settings
  recipient : args₂.recipient = args₁.recipient
  templateCode : args₂.templateCode = args₁.templateCode
  hasKey : dedupeKeyOf args₁ args₁.fullMetadata ≠ none
  sameKey : dedupeKeyOf args₂ args₂.fullMetadata = dedupeKeyOf args₁ args₁.fullMetadata
  messages : args₁.message ≠ "" ∧ args₂.message ≠ ""
  unforced : args₁.force = false ∧ args₂.force = false
  after : env₁.now ≤ env₂.now
  inWindow : env₂.now - env₁.now ≤ seconds env₁.settings.smsDedupeWindowSeconds

/-- The call sent its message, and its row is still there when the next call comes. -/
def SentBy (env : SmsEnv) (args : SmsArguments) (w v : SmsWorld) : Prop :=
  ∃ pk row, (sendSms env args w).1 = .ok pk ∧ (sendSms env args w).2.db.logs.rows pk = some row ∧
    row.status = .sent ∧ v.db.logs.rows pk = some row

/-- The provider gets nothing, and the row of the call is a skipped one. -/
def SkipsDuplicate (env : SmsEnv) (args : SmsArguments) (v : SmsWorld) : Prop :=
  ∃ pk row, (sendSms env args v).1 = .ok pk ∧ (sendSms env args v).2.db.logs.rows pk = some row ∧
    row.status = .skipped ∧ (sendSms env args v).2.ext = v.ext

/-! ## What withholds a message -/

/-- `metadata.get("_message_preview", "")` -/
def SmsArguments.preview (args : SmsArguments) : String :=
  (args.metadata.get "_message_preview").elim "" (·.text)

/-- A row of the log that has the key, and the text that the caller put in the metadata. -/
def SMSLog.HasPreview (log : SMSLog) (env : SmsEnv) (args : SmsArguments) : Prop :=
  log.recipient = args.recipient ∧ log.templateCode = args.templateCode ∧
    log.message = args.preview ∧ (log.status = .sent ∨ log.status = .pending) ∧
    env.now - seconds env.settings.smsDedupeWindowSeconds ≤ log.createdAt ∧
    log.metadata.get "dedupe_key" = dedupeKeyOf args args.fullMetadata

/-- A row of the log of a message that was sent for the same order, with the same template. -/
def SMSLog.IsForOrder (log : SMSLog) (args : SmsArguments) : Prop :=
  log.order.isSome ∧ log.order = args.order ∧ log.templateCode = args.templateCode ∧
    log.status = .sent

/-- Why a message is not sent: it is in the quiet hours, there were enough messages today, or there
    was the same message before. -/
def IsWithheld (env : SmsEnv) (args : SmsArguments) (db : SmsDatabase) : Prop :=
  IsQuiet env.settings env.current args.templateCode ∨
    db.checkRateLimit env.settings env.now args.recipient args.user ≠ none ∨
    0 < env.settings.smsDedupeWindowSeconds ∧
      ∃ e ∈ db.logs.entries, e.2.HasPreview env args ∨ e.2.IsForOrder args

section Rules

variable {env : SmsEnv} {args : SmsArguments} {db : SmsDatabase}

/-- A search in the log finds a row that is looked for. -/
theorem filter_ne_nil_iff {p : SMSLog → Prop} [DecidablePred p] :
    db.logs.filter (fun log => decide (p log)) ≠ [] ↔ ∃ e ∈ db.logs.entries, p e.2 := by
  rw [Table.filter, ne_eq, List.filter_eq_nil_iff]
  simp only [decide_eq_true_eq, not_forall, not_not, exists_prop]

/-- The two rules of `_check_dedupe`, for a message that has a key. -/
theorem checkDedupe_ne_none_iff (hkey : dedupeKeyOf args args.fullMetadata ≠ none) :
    db.checkDedupe env.settings env.now args args.fullMetadata ≠ none ↔
      0 < env.settings.smsDedupeWindowSeconds ∧
        ∃ e ∈ db.logs.entries, e.2.HasPreview env args ∨ e.2.IsForOrder args := by
  obtain ⟨key, hkey⟩ := Option.ne_none_iff_exists'.1 hkey
  have hpreview : (args.fullMetadata.get "_message_preview").elim "" (·.text) = args.preview := by
    rw [args.get_fullMetadata (by decide), SmsArguments.preview]
  by_cases hwindow : env.settings.smsDedupeWindowSeconds ≤ 0
  · rw [SmsDatabase.checkDedupe, if_pos hwindow]
    exact iff_of_false (fun h => h rfl) fun h => absurd h.1 (not_lt.2 hwindow)
  have hpos := not_le.1 hwindow
  have hrow (log : SMSLog) : log.HasPreview env args ↔ log.recipient = args.recipient ∧
      log.templateCode = args.templateCode ∧
      log.message = (args.fullMetadata.get "_message_preview").elim "" (·.text) ∧
      (log.status = .sent ∨ log.status = .pending) ∧
      env.now - seconds env.settings.smsDedupeWindowSeconds ≤ log.createdAt ∧
      log.metadata.get "dedupe_key" = some key := by
    rw [hpreview, ← hkey, SMSLog.HasPreview]
  rw [SmsDatabase.checkDedupe, if_neg hwindow, hkey]
  dsimp only
  split
  next hfound =>
    obtain ⟨e, he, hmatch⟩ := filter_ne_nil_iff.1 hfound
    exact iff_of_true nofun ⟨hpos, e, he, .inl ((hrow e.2).2 hmatch)⟩
  next hnone =>
    have hnopreview : ∀ e ∈ db.logs.entries, ¬e.2.HasPreview env args := by
      intro e he hmatch
      exact hnone (filter_ne_nil_iff.2 ⟨e, he, (hrow e.2).1 hmatch⟩)
    cases horder : args.order with
    | none =>
      refine iff_of_false (fun h => h rfl) ?_
      rintro ⟨-, e, he, hmatch | hmatch⟩
      · exact hnopreview e he hmatch
      · exact absurd (hmatch.2.1.trans horder) (Option.isSome_iff_ne_none.1 hmatch.1)
    | some o =>
      dsimp only
      split
      next hsent =>
        obtain ⟨e, he, heq, hmatch⟩ := filter_ne_nil_iff.1 hsent
        have hfor : e.2.IsForOrder args := ⟨heq ▸ rfl, heq.trans horder.symm, hmatch⟩
        exact iff_of_true nofun ⟨hpos, e, he, .inr hfor⟩
      next hunsent =>
        refine iff_of_false (fun h => h rfl) ?_
        rintro ⟨-, e, he, hmatch | hmatch⟩
        · exact hnopreview e he hmatch
        · exact hunsent (filter_ne_nil_iff.2 ⟨e, he, hmatch.2.1.trans horder, hmatch.2.2⟩)

/-- The policies have a reason if and only if there is one. -/
theorem not_isAllowed_iff (hunforced : args.force = false)
    (hkey : dedupeKeyOf args args.fullMetadata ≠ none) :
    ¬IsAllowed env args db ↔ IsWithheld env args db := by
  rw [IsAllowed, applySmsPolicies_eq_none_iff hunforced, IsWithheld, ← checkDedupe_ne_none_iff hkey,
    not_and_or, not_and_or, not_not]

end Rules

/-! ## Skipping -/

section Skipping

variable {env : SmsEnv} {args : SmsArguments} {w v : SmsWorld}

/-- Only a message that the provider got is one that was sent. -/
theorem SentBy.isHandedOver (h : SentBy env args w v) : IsHandedOver env args w.db := by
  by_contra hnot
  obtain ⟨row, hrun, -, -, hstatus⟩ := sendSms_of_not_isHandedOver hnot
  obtain ⟨pk, log, hpk, hlog, hsent, -⟩ := h
  rw [hrun] at hpk hlog
  obtain rfl := Except.ok.inj hpk
  obtain rfl := Option.some.inj ((Table.rows_insert_self w.db.logs row).symm.trans hlog)
  exact hstatus hsent

/-- A message for somebody, where messages are sent at all, is skipped if and only if the policies
    withhold it. -/
theorem skipsDuplicate_iff_not_isAllowed (hrecipient : args.recipient ≠ "")
    (henabled : env.settings.smsEnabled = true) (hprovider : getSmsProvider env.settings = none) :
    SkipsDuplicate env args v ↔ ¬IsAllowed env args v.db := by
  constructor
  · rintro ⟨pk, row, -, -, -, hext⟩ hallowed
    rw [sendSms_of_isHandedOver ⟨hrecipient, hallowed, henabled, hprovider⟩] at hext
    exact absurd hext (List.append_right_eq_self.not.2 (List.cons_ne_nil _ _))
  · intro hnot
    obtain ⟨reason, hreason⟩ := Option.ne_none_iff_exists'.1 hnot
    refine ⟨v.db.logs.next, (args.newLog env).skip reason, ?_⟩
    rw [sendSms_of_reason hrecipient hreason]
    exact ⟨rfl, Table.rows_insert_self _ _, rfl, rfl⟩

end Skipping

/-- The second of two calls with the same key, of which the first one sent its message, is skipped
    if and only if it comes in the quiet hours or when there were enough messages, or a message was
    sent for its order, or its caller put the text of an earlier one in the metadata. -/
theorem skipsDuplicate_iff (env₁ env₂ : SmsEnv) (args₁ args₂ : SmsArguments) (w v : SmsWorld)
    (h : Repeats env₁ args₁ env₂ args₂) (hsent : SentBy env₁ args₁ w v) :
    SkipsDuplicate env₂ args₂ v ↔ IsWithheld env₂ args₂ v.db := by
  have hfirst := hsent.isHandedOver
  have hrecipient : args₂.recipient ≠ "" := h.recipient ▸ hfirst.recipient
  have henabled : env₂.settings.smsEnabled = true := h.settings ▸ hfirst.enabled
  have hprovider : getSmsProvider env₂.settings = none := h.settings ▸ hfirst.provider
  have hkey : dedupeKeyOf args₂ args₂.fullMetadata ≠ none := h.sameKey ▸ h.hasKey
  rw [skipsDuplicate_iff_not_isAllowed hrecipient henabled hprovider,
    not_isAllowed_iff h.unforced.2 hkey]

/-- At noon. -/
def noon : SmsEnv where
  now := minutes 720
  current := minutes 720

/-- A message for an order. -/
def paymentMessage : SmsArguments where
  recipient := "09121234567"
  message := "paid"
  templateCode := "payment_success"
  order := some 1
  dedupeKey := "1:payment_success"

/-- A message without an order. -/
def rawMessage : SmsArguments where
  recipient := "09121234567"
  message := "hello"
  dedupeKey := "09121234567:raw"

/-- The second message for an order is skipped. -/
theorem skipsDuplicate_iff_payment :
    SkipsDuplicate noon paymentMessage (sendSms noon paymentMessage ⟨{}, []⟩).2 ↔
      IsWithheld noon paymentMessage (sendSms noon paymentMessage ⟨{}, []⟩).2.db := by
  refine skipsDuplicate_iff noon noon paymentMessage paymentMessage ⟨{}, []⟩ _ ?_ ?_
  · exact ⟨rfl, rfl, rfl, nofun, rfl, by decide, by decide, by decide, by decide⟩
  · exact ⟨0, _, rfl, rfl, by decide +kernel, rfl⟩

/-- The same message without an order is sent twice. -/
theorem not_skipsDuplicate_raw : ¬∀ (env₁ env₂ : SmsEnv) (args₁ args₂ : SmsArguments)
    (w v : SmsWorld), Repeats env₁ args₁ env₂ args₂ → SentBy env₁ args₁ w v →
      SkipsDuplicate env₂ args₂ v := by
  intro h
  let v : SmsWorld := (sendSms noon rawMessage ⟨{}, []⟩).2
  have hrepeats : Repeats noon rawMessage noon rawMessage :=
    ⟨rfl, rfl, rfl, nofun, rfl, by decide, by decide, by decide, by decide⟩
  have hsent : SentBy noon rawMessage ⟨{}, []⟩ v := ⟨0, _, rfl, rfl, by decide +kernel, rfl⟩
  obtain ⟨-, -, -, -, -, hext⟩ := h noon noon rawMessage rawMessage ⟨{}, []⟩ v hrepeats hsent
  have hgot : (sendSms noon rawMessage v).2.ext ≠ v.ext := by decide +kernel
  exact hgot hext

end Crumbs
