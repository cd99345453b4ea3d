import Crumbs.Notifications.Duplicates
import Crumbs.Notifications.Throttling

/-!
# Texts of an Order

The events of an order are told by texts, and the task that tells them may run several times. The
log is searched for a text that was sent for the same order with the same template, without a
window. A resend is forced, so it is not searched for: a text that was refused and told again in the
meantime is sent a second time when it is retried.

## Contents

- `SmsDatabase.sentTexts`, `SmsDatabase.resentTexts`: the texts of an order that were sent, and those
  of them that were resends
- `SMSLog.TellsAgain`, `SmsWorld.TellsOnce`: after a text was sent, the later ones are skipped
- `orderTexts_of_run`: over every run of calls and resends
-/

namespace Crumbs

open Crumbs.Db

/-! ## Texts -/

/-- The texts of this template that were sent for an order. -/
def SmsDatabase.sentTexts (db : SmsDatabase) (o : OrderId) (templateCode : String) :
    List (ℕ × SMSLog) :=
  db.logs.filter fun log =>
    decide (log.order = some o ∧ log.templateCode = templateCode ∧ log.status = .sent)

/-- Those of them that are resends. -/
def SmsDatabase.resentTexts (db : SmsDatabase) (o : OrderId) (templateCode : String) :
    List (ℕ × SMSLog) :=
  (db.sentTexts o templateCode).filter (·.2.retryOf.isSome)

theorem mem_sentTexts {db : SmsDatabase} {o : OrderId} {templateCode : String} {e : ℕ × SMSLog} :
    e ∈ db.sentTexts o templateCode ↔ db.logs.rows e.1 = some e.2 ∧ e.2.order = some o ∧
      e.2.templateCode = templateCode ∧ e.2.status = .sent := by
  simp [SmsDatabase.sentTexts]

/-- A row for the same order and template as an earlier one, that is no resend. -/
structure SMSLog.TellsAgain (log earlier : SMSLog) : Prop where
  order : log.order = earlier.order
  forOrder : earlier.order.isSome
  templateCode : log.templateCode = earlier.templateCode
  original : log.retryOf = none

/-- What was told of an order is not told again. -/
def SmsWorld.TellsOnce (w : SmsWorld) : Prop :=
  ∀ i j earlier log, i < j → w.db.logs.rows i = some earlier → w.db.logs.rows j = some log →
    earlier.status = .sent → log.TellsAgain earlier → log.status = .skipped

/-- A call for an order and a template that was told before. -/
def SmsCall.TellsAgain (w : SmsWorld) : SmsCall → Prop
  | .send _ args => ∃ o, args.order = some o ∧ w.db.sentTexts o args.templateCode ≠ []
  | .resend .. => False

/-! ## One call -/

section Calls

variable {env : SmsEnv} {args : SmsArguments} {w w' : SmsWorld}

/-- The row of a call is for what was asked for. A call that the policies do not let pass skips its
    row, and hands nothing over. -/
theorem sendSms_logged (env : SmsEnv) (args : SmsArguments) (w : SmsWorld) :
    ∃ row handed, (sendSms env args w).2 = w.logged row handed ∧ row.order = args.order ∧
      row.templateCode = args.templateCode ∧ row.metadata = args.fullMetadata ∧
      (¬IsAllowed env args w.db → row.status = .skipped ∧ handed = w.ext) := by
  by_cases hrecipient : args.recipient = ""
  · exact ⟨_, _, congrArg Prod.snd (sendSms_of_no_recipient hrecipient), rfl, rfl, rfl,
      fun _ => ⟨rfl, rfl⟩⟩
  by_cases hallowed : IsAllowed env args w.db
  · have hanswered (log : SMSLog) (answer : Except String SMSResult) :
        (log.answered answer).order = log.order ∧
          (log.answered answer).templateCode = log.templateCode := by
      cases answer with
      | error text => exact ⟨rfl, rfl⟩
      | ok result =>
        simp only [SMSLog.answered]
        split <;> exact ⟨rfl, rfl⟩
    cases henabled : env.settings.smsEnabled with
    | false =>
      exact ⟨_, _, congrArg Prod.snd (sendSms_of_disabled hrecipient hallowed henabled), rfl, rfl,
        rfl, fun h => absurd hallowed h⟩
    | true =>
      cases hprovider : getSmsProvider env.settings with
      | none =>
        refine ⟨_, _, congrArg Prod.snd
          (sendSms_of_isHandedOver ⟨hrecipient, hallowed, henabled, hprovider⟩), ?_, ?_, ?_,
          fun h => absurd hallowed h⟩
        · exact (hanswered _ _).1
        · exact (hanswered _ _).2
        · exact (SMSLog.answered_eq _ _).1
      | some error =>
        exact ⟨_, _, congrArg Prod.snd
          (sendSms_of_no_provider hrecipient hallowed henabled hprovider), rfl, rfl, rfl,
          fun h => absurd hallowed h⟩
  · obtain ⟨reason, hreason⟩ := Option.ne_none_iff_exists'.1 hallowed
    exact ⟨_, _, congrArg Prod.snd (sendSms_of_reason hrecipient hreason), rfl, rfl, rfl,
      fun _ => ⟨rfl, rfl⟩⟩

/-- A message for an order has a key, whatever its metadata say. -/
theorem dedupeKeyOf_ne_none {o : OrderId} (h : args.order = some o) (metadata : Metadata) :
    dedupeKeyOf args metadata ≠ none := by
  rw [dedupeKeyOf, h]
  split
  · simp
  · cases (metadata.get "dedupe_key").filter (·.isTruthy) <;> simp

/-- The policies withhold what was told before, as long as duplicates are looked for at all. -/
theorem not_isAllowed_of_sent (hwindow : 0 < env.settings.smsDedupeWindowSeconds)
    (hunforced : args.force = false) {i : ℕ} {earlier : SMSLog}
    (hrow : w.db.logs.rows i = some earlier) (hsent : earlier.status = .sent)
    (hsome : earlier.order.isSome) (horder : earlier.order = args.order)
    (hcode : earlier.templateCode = args.templateCode) : ¬IsAllowed env args w.db := by
  obtain ⟨o, ho⟩ := Option.isSome_iff_exists.1 hsome
  -- the last query of `_check_dedupe`, which has no window
  rw [not_isAllowed_iff hunforced (dedupeKeyOf_ne_none (horder ▸ ho) _)]
  exact .inr (.inr ⟨hwindow, (i, earlier), Table.mem_entries.2 hrow,
    .inr ⟨hsome, horder, hcode, hsent⟩⟩)

/-- The row of a forced call of `retry_failed` names the row that it resends. -/
theorem retryOf_of_resend {pk : ℕ} {log row : SMSLog} {attempts : ℤ}
    (h : row.metadata = (log.resend pk attempts).fullMetadata) : row.retryOf = some pk := by
  have hof : row.metadata.get "retry_of" = some (.int pk) := by
    rw [h, SmsArguments.get_fullMetadata _ (by decide)]
    exact (Metadata.get_set _ _ _ _).trans (if_pos rfl)
  rw [SMSLog.retryOf, hof]
  rfl

/-- A new row is the last one, so it only has to be skipped itself. -/
theorem SmsWorld.TellsOnce.logged (h : w.TellsOnce) {row : SMSLog} (handed : List Handover)
    (hrow : ∀ i earlier, w.db.logs.rows i = some earlier → earlier.status = .sent →
      row.TellsAgain earlier → row.status = .skipped) : (w.logged row handed).TellsOnce := by
  intro i j earlier log hlt hi hj hsent hagain
  rcases Table.rows_insert_cases hj with ⟨rfl, rfl⟩ | ⟨hj', hj⟩
  · rcases Table.rows_insert_cases hi with ⟨rfl, -⟩ | ⟨-, hi⟩
    · exact absurd hlt (lt_irrefl _)
    · exact hrow i earlier hi hsent hagain
  · rcases Table.rows_insert_cases hi with ⟨rfl, -⟩ | ⟨-, hi⟩
    · -- no row has a key above that of the new one
      exact absurd (Table.lt_next hj) (not_lt.2 hlt.le)
    · exact h i j earlier log hlt hi hj hsent hagain

end Calls

/-! ## Runs -/

section Runs

variable {settings : SmsSettings} {maxAttempts : ℤ} {w w' : SmsWorld} {call : SmsCall}

/-- Every call keeps what was told from being told again. -/
theorem SmsWorld.TellsOnce.callStep (hwindow : 0 < settings.smsDedupeWindowSeconds)
    (h : w.TellsOnce) (hstep : Crumbs.callStep settings maxAttempts w call = some w') :
    w'.TellsOnce := by
  obtain ⟨⟨hpossible, hsettings, -⟩, hw'⟩ := Option.ite_none_right_eq_some.1 hstep
  obtain rfl := Option.some.inj hw'
  obtain ⟨row, handed, hrun, horder, hcode, hmetadata, hwithheld⟩ :=
    sendSms_logged call.env call.args w
  rw [hrun]
  refine h.logged handed fun i earlier hi hsent hagain => ?_
  cases call with
  | send env args =>
    refine (hwithheld ?_).1
    have hwindow' : 0 < env.settings.smsDedupeWindowSeconds := by
      rw [show env.settings = settings from hsettings]
      exact hwindow
    exact not_isAllowed_of_sent hwindow' hpossible hi hsent hagain.forOrder
      (hagain.order.symm.trans horder) (hagain.templateCode.symm.trans hcode)
  | resend env e =>
    -- a resend is none of the rows that `TellsAgain` is about
    exact absurd (hagain.original.symm.trans (retryOf_of_resend hmetadata)) (by simp)

/-- Of two texts that were sent for an order, the later one is a resend. -/
theorem SmsWorld.TellsOnce.eq_of_original (h : w.TellsOnce) {o : OrderId} {templateCode : String}
    {e e' : ℕ × SMSLog} (he : e ∈ w.db.sentTexts o templateCode)
    (he' : e' ∈ w.db.sentTexts o templateCode) (horiginal : e.2.retryOf = none)
    (horiginal' : e'.2.retryOf = none) : e.1 = e'.1 := by
  -- the later one of two originals would have been skipped
  have hnot {e e' : ℕ × SMSLog} (he : e ∈ w.db.sentTexts o templateCode)
      (he' : e' ∈ w.db.sentTexts o templateCode) (horiginal' : e'.2.retryOf = none) :
      ¬e.1 < e'.1 := by
    intro hlt
    obtain ⟨hrow, horder, hcode, hsent⟩ := mem_sentTexts.1 he
    obtain ⟨hrow', horder', hcode', hsent'⟩ := mem_sentTexts.1 he'
    have hagain : e'.2.TellsAgain e.2 :=
      ⟨horder'.trans horder.symm, horder ▸ rfl, hcode'.trans hcode.symm, horiginal'⟩
    exact absurd (hsent'.symm.trans (h _ _ _ _ hlt hrow hrow' hsent hagain)) (by simp)
  exact le_antisymm (not_lt.1 (hnot he' he horiginal)) (not_lt.1 (hnot he he' horiginal'))

/-- At most one text of an order and a template was sent without being a resend. -/
theorem SmsWorld.TellsOnce.length_sentTexts (h : w.TellsOnce) (o : OrderId) (templateCode : String) :
    (w.db.sentTexts o templateCode).length ≤ 1 + (w.db.resentTexts o templateCode).length := by
  have hsplit := List.length_eq_length_filter_add (l := w.db.sentTexts o templateCode)
    fun e => e.2.retryOf.isSome
  suffices hfirst : ((w.db.sentTexts o templateCode).filter
      fun e => !e.2.retryOf.isSome).length ≤ 1 by
    rw [SmsDatabase.resentTexts]
    omega
  have hnodup : (((w.db.sentTexts o templateCode).filter
      fun e => !e.2.retryOf.isSome).map Prod.fst).Nodup :=
    (List.filter_sublist.map Prod.fst).nodup (w.db.logs.nodup_filter _)
  have horiginal : ∀ e ∈ (w.db.sentTexts o templateCode).filter fun e => !e.2.retryOf.isSome,
      e ∈ w.db.sentTexts o templateCode ∧ e.2.retryOf = none := by
    intro e he
    obtain ⟨hmem, hnone⟩ := List.mem_filter.1 he
    exact ⟨hmem, by simpa using hnone⟩
  -- two of them would have the same key
  rcases hl : (w.db.sentTexts o templateCode).filter fun e => !e.2.retryOf.isSome with
    _ | ⟨e, _ | ⟨e', rest⟩⟩
  · rw [hl]
    exact Nat.zero_le 1
  · rw [hl]
    exact le_refl 1
  · rw [hl] at hnodup horiginal
    obtain ⟨he, hnone⟩ := horiginal e List.mem_cons_self
    obtain ⟨he', hnone'⟩ := horiginal e' (List.mem_cons_of_mem e List.mem_cons_self)
    have heq := h.eq_of_original he he' hnone hnone'
    simp [heq] at hnodup

/-- Nothing is handed over for what was told before. -/
theorem ext_of_tellsAgain (hwindow : 0 < settings.smsDedupeWindowSeconds)
    (hstep : callStep settings maxAttempts w call = some w') (hagain : call.TellsAgain w) :
    w'.ext = w.ext := by
  obtain ⟨⟨hpossible, hsettings, -⟩, hw'⟩ := Option.ite_none_right_eq_some.1 hstep
  obtain rfl := Option.some.inj hw'
  cases call with
  | send env args =>
    obtain ⟨o, ho, hsent⟩ := hagain
    obtain ⟨e, he⟩ := List.exists_mem_of_ne_nil _ hsent
    obtain ⟨hrow, horder, hcode, hsent⟩ := mem_sentTexts.1 he
    obtain ⟨row, handed, hrun, -, -, -, hwithheld⟩ := sendSms_logged env args w
    have hwindow' : 0 < env.settings.smsDedupeWindowSeconds := by
      rw [show env.settings = settings from hsettings]
      exact hwindow
    have hnot := not_isAllowed_of_sent hwindow' hpossible hrow hsent (horder ▸ rfl)
      (horder.trans ho.symm) hcode
    exact (congrArg World.ext hrun).trans (hwithheld hnot).2
  | resend env e => exact hagain.elim

end Runs

/-- Whichever events are told how often, and whichever texts are sent again: once a text was sent
    for an order, every later call for it hands nothing over, and the texts that were sent are no
    more than the resends among them and one. -/
theorem orderTexts_of_run (settings : SmsSettings) (maxAttempts : ℤ)
    (hwindow : 0 < settings.smsDedupeWindowSeconds) (start : SmsWorld) (h : start.TellsOnce)
    (run : List SmsCall) :
    Throughout (callStep settings maxAttempts) (fun w => w.TellsOnce ∧ ∀ o templateCode,
      (w.db.sentTexts o templateCode).length ≤ 1 + (w.db.resentTexts o templateCode).length)
      start run ∧
    Guarded (callStep settings maxAttempts) (fun w call => call.TellsAgain w →
      (sendSms call.env call.args w).2.ext = w.ext) start run := by
  -- the invariant carries the bound; the calls are judged where they begin
  have honce : Throughout (callStep settings maxAttempts) SmsWorld.TellsOnce start run :=
    .of_inv (fun _ _ _ hw hstep => hw.callStep hwindow hstep) h
  refine ⟨honce.mono fun w hw => ⟨hw, hw.length_sentTexts⟩,
    (throughout_iff_guarded (I := fun _ => True) (P := fun _ => True) (fun _ _ _ _ _ => trivial)
      (fun w call w' _ _ hstep => iff_of_true trivial fun hagain => ?_) trivial trivial).1
      (honce.mono fun _ _ => trivial)⟩
  have hw' := Option.some.inj (Option.ite_none_right_eq_some.1 hstep).2
  exact (congrArg World.ext hw').trans (ext_of_tellsAgain hwindow hstep hagain)

/-- The payment of an order is told. -/
def tellPayment : SmsCall :=
  .send refusingFirst
    { recipient := "09121234567", message := "paid", templateCode := "payment_success",
      order := some 0 }

/-- The provider refuses the payment's text, which is told again twice, and then retried. -/
def toldAgain : List SmsCall :=
  [tellPayment, tellPayment, tellPayment,
    .resend refusingFirst
      (0, { ((SmsCall.args tellPayment).newLog refusingFirst) with status := .failed })]

theorem orderTexts_of_run_toldAgain :
    Throughout (callStep {} 3) (fun w => w.TellsOnce ∧ ∀ o templateCode,
      (w.db.sentTexts o templateCode).length ≤ 1 + (w.db.resentTexts o templateCode).length)
      ⟨{}, []⟩ toldAgain ∧
    Guarded (callStep {} 3) (fun w call => call.TellsAgain w →
      (sendSms call.env call.args w).2.ext = w.ext) ⟨{}, []⟩ toldAgain :=
  orderTexts_of_run {} 3 (by decide) ⟨{}, []⟩ (fun _ _ _ _ _ hrow => by cases hrow) toldAgain

/-- The customer gets the text twice. -/
example : (toldAgain.foldlM (callStep {} 3) ⟨{}, []⟩).map
    (fun w => (w.db.sentTexts 0 "payment_success").length) = some 2 := by decide +kernel

end Crumbs
