import Crumbs.Db.Runs
import Crumbs.Notifications.Retries

/-!
# Quiet Hours and the Daily Limit

Runs of `send_sms`: calls without `force`, and the resends of failed messages. A message without
`force` meets the quiet hours twice, once by the category of its template and once by its code, and
the limit once, by its user or, if it has none, by its number. A resend meets neither.

## Contents

- `SmsCall`, `callStep`: one call of `send_sms`
- `retryFailed_calls`: a run of `retry_failed` is a run of resends
- `HonoursQuietHours`, `WithinLimit`: what the two policies are for
- `SmsCall.KeepsQuiet`, `SmsCall.KeepsLimit`: the calls for which they are enough
- `keepsPolicies_of_guarded`: runs of such calls honour the quiet hours and the limit
-/

namespace Crumbs

open Crumbs.Db

deriving instance DecidableEq for SmsSettings

/-! ## Calls -/

/-- A call of `send_sms` without `force`, or the one that `retry_failed` makes for a failed row. -/
inductive SmsCall where
  | send (env : SmsEnv) (args : SmsArguments)
  | resend (env : SmsEnv) (row : ℕ × SMSLog)

def SmsCall.env : SmsCall → SmsEnv
  | .send env _ => env
  | .resend env _ => env

def SmsCall.args : SmsCall → SmsArguments
  | .send _ args => args
  | .resend _ row => row.2.resend row.1 row.2.generation

/-- `retry_failed` makes a call for the failed rows that were not sent again too often. -/
def SmsCall.IsPossible (maxAttempts : ℤ) (w : SmsWorld) : SmsCall → Prop
  | .send _ args => args.force = false
  | .resend _ row => w.db.logs.rows row.1 = some row.2 ∧ row.2.status = .failed ∧
      row.2.retryCount = .ok row.2.generation ∧ row.2.generation < maxAttempts

/-- The settings are those of the run, and the clock does not go back. -/
def SmsCall.IsTimely (settings : SmsSettings) (w : SmsWorld) (call : SmsCall) : Prop :=
  call.env.settings = settings ∧ ∀ e ∈ w.db.logs.entries, e.2.createdAt ≤ call.env.now

instance (maxAttempts : ℤ) (w : SmsWorld) :
    (call : SmsCall) → Decidable (call.IsPossible maxAttempts w)
  | .send .. => inferInstanceAs (Decidable (_ = _))
  | .resend .. => inferInstanceAs (Decidable (_ ∧ _))

instance (settings : SmsSettings) (w : SmsWorld) (call : SmsCall) :
    Decidable (call.IsTimely settings w) :=
  inferInstanceAs (Decidable (_ ∧ _))

def callStep (settings : SmsSettings) (maxAttempts : ℤ) (w : SmsWorld) (call : SmsCall) :
    Option SmsWorld :=
  if call.IsPossible maxAttempts w ∧ call.IsTimely settings w then
    some (sendSms call.env call.args w).2
  else none

/-! ## Policies -/

/-- The row of the call says that the message was withheld for the quiet hours. -/
def WithheldForQuiet (env : SmsEnv) (args : SmsArguments) (w : SmsWorld) : Prop :=
  ∃ row, (sendSms env args w).2.db.logs.rows w.db.logs.next = some row ∧
    row.status = .skipped ∧ row.errorMessage = "quiet_hours"

/-- A message is withheld in the quiet hours, unless its category is transactional. -/
def HonoursQuietHours (w : SmsWorld) (call : SmsCall) : Prop :=
  WithheldForQuiet call.env call.args w ↔ inQuietHours call.env.settings call.env.current ∧
    w.db.templateCategory call.args.templateCode ∉ transactionalCategories

/-- The messages that were sent to a number in a day. -/
def SmsDatabase.sentTo (db : SmsDatabase) (recipient : String) (since til : Time) : ℕ :=
  (db.logs.filter fun log => decide (log.status = .sent ∧ log.recipient = recipient ∧
    since ≤ log.createdAt ∧ log.createdAt ≤ til)).length

/-- No number got more messages than the limit within any day. -/
def WithinLimit (limit : ℤ) (db : SmsDatabase) : Prop :=
  ∀ recipient t, (db.sentTo recipient (t - seconds 86400) t : ℤ) ≤ limit

/-- In the quiet hours there is no template that is transactional by its category, but not by its
    code, and there is no message for nobody and no resend of a message that is to be withheld. -/
def SmsCall.KeepsQuiet (w : SmsWorld) : SmsCall → Prop
  | .send env args => inQuietHours env.settings env.current →
      if w.db.templateCategory args.templateCode ∈ transactionalCategories then
        args.templateCode ∈ transactionalEvents ∨ args.recipient = ""
      else args.recipient ≠ ""
  | .resend env row => inQuietHours env.settings env.current →
      w.db.templateCategory row.2.templateCode ∈ transactionalCategories

/-- The number had fewer messages today than the limit, or the check of the user finds that there
    were enough; nothing is checked for a resend. -/
def SmsCall.KeepsLimit (w : SmsWorld) : SmsCall → Prop
  | .send env args =>
      (w.db.sentTo args.recipient (env.now - seconds 86400) env.now : ℤ) <
          env.settings.smsRateLimitPerUserPerDay ∨
        w.db.checkRateLimit env.settings env.now args.recipient args.user ≠ none
  | .resend env row =>
      (w.db.sentTo row.2.recipient (env.now - seconds 86400) env.now : ℤ) <
        env.settings.smsRateLimitPerUserPerDay

instance (w : SmsWorld) : (call : SmsCall) → Decidable (call.KeepsQuiet w)
  | .send .. => inferInstanceAs (Decidable (_ → ite _ _ _))
  | .resend .. => inferInstanceAs (Decidable (_ → _))

instance (w : SmsWorld) : (call : SmsCall) → Decidable (call.KeepsLimit w)
  | .send .. => inferInstanceAs (Decidable (_ ∨ _))
  | .resend .. => inferInstanceAs (Decidable (_ < _))

/-! ## Quiet hours -/

section Quiet

variable {env : SmsEnv} {args : SmsArguments} {w : SmsWorld}

/-- The limit has a reason of its own. -/
theorem checkRateLimit_eq_some {reason : String}
    (h : w.db.checkRateLimit env.settings env.now args.recipient args.user = some reason) :
    reason = "rate_limit_exceeded" := by
  unfold SmsDatabase.checkRateLimit at h
  dsimp only at h
  rcases Option.ite_none_left_eq_some.1 h with ⟨-, h⟩
  rcases Option.ite_none_right_eq_some.1 h with ⟨-, h⟩
  exact (Option.some.inj h).symm

/-- And so have duplicates: they begin with another letter than the quiet hours. -/
theorem checkDedupe_eq_some {metadata : Metadata} {reason : String}
    (h : w.db.checkDedupe env.settings env.now args metadata = some reason) :
    reason.toList.head? = some 'd' := by
  unfold SmsDatabase.checkDedupe at h
  rcases Option.ite_none_left_eq_some.1 h with ⟨-, h⟩
  split at h
  next => exact nomatch h
  next key _ =>
    dsimp only at h
    split at h
    next =>
      rw [← Option.some.inj h]
      simp only [toString, String.toList_append]
      rfl
    next =>
      split at h
      next => exact nomatch h
      next o _ =>
        rcases Option.ite_none_right_eq_some.1 h with ⟨-, h⟩
        rw [← Option.some.inj h]
        simp only [toString, String.toList_append]
        rfl

/-- Quiet hours are the only cause of their reason. -/
theorem applySmsPolicies_eq_quiet_iff (hunforced : args.force = false) (metadata : Metadata) :
    w.db.applySmsPolicies env.settings env.now env.current args metadata = some "quiet_hours" ↔
      IsQuiet env.settings env.current args.templateCode := by
  by_cases h : IsQuiet env.settings env.current args.templateCode
  · exact iff_of_true (applySmsPolicies_of_isQuiet hunforced h) h
  · rw [applySmsPolicies_of_not_isQuiet hunforced h, Option.or_eq_some_iff]
    refine iff_of_false ?_ h
    rintro (hlimit | ⟨-, hdedupe⟩)
    · exact absurd (checkRateLimit_eq_some hlimit) (by decide)
    · exact absurd (checkDedupe_eq_some hdedupe) (by decide)

theorem withheldForQuiet_iff_of_run {row : SMSLog} {handed : List Handover}
    (hrun : sendSms env args w = (.ok w.db.logs.next, w.logged row handed)) :
    WithheldForQuiet env args w ↔ row.status = .skipped ∧ row.errorMessage = "quiet_hours" := by
  have hrow : (sendSms env args w).2.db.logs.rows w.db.logs.next = some row := by
    rw [hrun]
    exact Table.rows_insert_self w.db.logs row
  constructor
  · rintro ⟨row', hrow', hwithheld⟩
    obtain rfl := Option.some.inj (hrow.symm.trans hrow')
    exact hwithheld
  · exact fun hwithheld => ⟨row, hrow, hwithheld⟩

theorem SMSLog.status_answered (log : SMSLog) (answer : Except String SMSResult) :
    (log.answered answer).status ≠ .skipped := by
  intro hskipped
  cases answer with
  | error text => cases hskipped
  | ok result =>
    simp only [answered] at hskipped
    split at hskipped <;> cases hskipped

/-- Only a call without `force` is withheld for the quiet hours, by the code of its template. -/
theorem withheldForQuiet_iff : WithheldForQuiet env args w ↔
    args.force = false ∧ args.recipient ≠ "" ∧
      IsQuiet env.settings env.current args.templateCode := by
  by_cases hrecipient : args.recipient = ""
  · rw [withheldForQuiet_iff_of_run (sendSms_of_no_recipient hrecipient)]
    have htext : "Missing phone number." ≠ "quiet_hours" := by decide
    exact iff_of_false (fun h => htext h.2) fun h => h.2.1 hrecipient
  by_cases hallowed : IsAllowed env args w.db
  · -- the policies let it pass, so it is not quiet
    refine iff_of_false ?_ ?_
    · cases henabled : env.settings.smsEnabled with
      | false =>
        rw [withheldForQuiet_iff_of_run (sendSms_of_disabled hrecipient hallowed henabled)]
        have htext : "SMS_ENABLED is False." ≠ "quiet_hours" := by decide
        exact fun h => htext h.2
      | true =>
        cases hprovider : getSmsProvider env.settings with
        | none =>
          rw [withheldForQuiet_iff_of_run
            (sendSms_of_isHandedOver ⟨hrecipient, hallowed, henabled, hprovider⟩)]
          exact fun h => SMSLog.status_answered _ _ h.1
        | some error =>
          rw [withheldForQuiet_iff_of_run
            (sendSms_of_no_provider hrecipient hallowed henabled hprovider)]
          exact fun h => SMSLog.status_answered _ _ h.1
    · rintro ⟨hunforced, -, hquiet⟩
      exact nomatch hallowed.symm.trans (applySmsPolicies_of_isQuiet hunforced hquiet)
  · obtain ⟨reason, hreason⟩ := Option.ne_none_iff_exists'.1 hallowed
    have hunforced : args.force = false := by
      cases hforce : args.force with
      | false => rfl
      | true => exact nomatch hreason.symm.trans (applySmsPolicies_of_force hforce)
    rw [withheldForQuiet_iff_of_run (sendSms_of_reason hrecipient hreason),
      ← applySmsPolicies_eq_quiet_iff (w := w) hunforced args.fullMetadata, hreason]
    constructor
    · exact fun h => ⟨hunforced, hrecipient, congrArg some h.2⟩
    · exact fun h => ⟨rfl, Option.some.inj h.2.2⟩

/-- These calls honour the quiet hours, and no others do. -/
theorem honoursQuietHours_iff {maxAttempts : ℤ} {call : SmsCall}
    (h : call.IsPossible maxAttempts w) : HonoursQuietHours w call ↔ call.KeepsQuiet w := by
  rw [HonoursQuietHours, withheldForQuiet_iff]
  cases call with
  | send env args =>
    have hunforced : args.force = false := h
    have hevent : args.templateCode ∈ transactionalEvents →
        w.db.templateCategory args.templateCode ∈ transactionalCategories :=
      w.db.templateCategory_of_mem
    show (args.force = false ∧ args.recipient ≠ "" ∧ inQuietHours env.settings env.current ∧
      args.templateCode ∉ transactionalEvents ↔ _) ↔ (_ → ite _ _ _)
    split
    next hcategory =>
      by_cases hrecipient : args.recipient = "" <;> simp only [SmsCall.args, SmsCall.env] <;> tauto
    next hcategory =>
      have hcode := mt hevent hcategory
      by_cases hrecipient : args.recipient = "" <;> simp only [SmsCall.args, SmsCall.env] <;> tauto
  | resend env row =>
    constructor
    · intro hiff hquiet
      by_contra hcategory
      exact nomatch (hiff.2 ⟨hquiet, hcategory⟩).1
    · intro hkeeps
      exact iff_of_false (fun hforce => nomatch hforce.1) fun hquiet => hquiet.2 (hkeeps hquiet.1)

end Quiet

/-! ## The limit -/

section Limit

variable {env : SmsEnv} {args : SmsArguments} {w w' : SmsWorld} {limit : ℤ}

/-- A later day has no more of the messages that were sent so far. -/
theorem SmsDatabase.sentTo_le (db : SmsDatabase) (recipient : String) {now t : Time}
    (htimes : ∀ e ∈ db.logs.entries, e.2.createdAt ≤ now) (h : now ≤ t) :
    db.sentTo recipient (t - seconds 86400) t ≤ db.sentTo recipient (now - seconds 86400) now := by
  unfold sentTo Table.filter
  simp only [← List.countP_eq_length_filter]
  refine List.countP_mono_left fun e he hcounted => ?_
  obtain ⟨hsent, hrecipient, hsince, -⟩ := of_decide_eq_true hcounted
  exact decide_eq_true ⟨hsent, hrecipient, (sub_le_sub_right h _).trans hsince, htimes e he⟩

/-- One more row keeps the limit if its number had room for it, should its message be sent. -/
theorem WithinLimit.logged (h : WithinLimit limit w.db) {row : SMSLog}
    (hroom : row.status = .sent → (∀ e ∈ w.db.logs.entries, e.2.createdAt ≤ row.createdAt) ∧
      (w.db.sentTo row.recipient (row.createdAt - seconds 86400) row.createdAt : ℤ) < limit)
    (handed : List Handover) : WithinLimit limit (w.logged row handed).db := by
  intro recipient t
  show ((Table.filter (w.db.logs.insert row) _).length : ℤ) ≤ limit
  rw [Table.filter_insert]
  split
  next hcounted =>
    obtain ⟨hsent, rfl, -, hle⟩ := of_decide_eq_true hcounted
    obtain ⟨htimes, hlt⟩ := hroom hsent
    have hday := w.db.sentTo_le row.recipient htimes hle
    rw [List.length_append, List.length_singleton]
    show ((w.db.sentTo row.recipient (t - seconds 86400) t + 1 : ℕ) : ℤ) ≤ limit
    omega
  next =>
    rw [List.append_nil]
    exact h recipient t

/-- A call keeps the limit if its number has room for the message whenever the policies let it
    pass. -/
theorem WithinLimit.sendSms (h : WithinLimit limit w.db)
    (htimes : ∀ e ∈ w.db.logs.entries, e.2.createdAt ≤ env.now)
    (hroom : IsAllowed env args w.db →
      (w.db.sentTo args.recipient (env.now - seconds 86400) env.now : ℤ) < limit) :
    WithinLimit limit (Crumbs.sendSms env args w).2.db := by
  by_cases hover : IsHandedOver env args w.db
  · rw [sendSms_of_isHandedOver hover]
    obtain ⟨-, hrecipient, hcreated⟩ := SMSLog.answered_eq (args.newLog env)
      (env.answer (w.ext ++ [args.handover w.db.logs.next]))
    refine h.logged (fun _ => ?_) _
    rw [hrecipient, hcreated]
    exact ⟨htimes, hroom hover.allowed⟩
  · obtain ⟨row, hrun, -, -, hunsent⟩ := sendSms_of_not_isHandedOver hover
    rw [hrun]
    exact h.logged (fun hsent => absurd hsent hunsent) _

/-- One call that keeps the limit. -/
theorem WithinLimit.callStep {settings : SmsSettings} {maxAttempts : ℤ} {call : SmsCall}
    (h : WithinLimit settings.smsRateLimitPerUserPerDay w.db) (hkeeps : call.KeepsLimit w)
    (hstep : Crumbs.callStep settings maxAttempts w call = some w') :
    WithinLimit settings.smsRateLimitPerUserPerDay w'.db := by
  obtain ⟨⟨hpossible, rfl, htimes⟩, hw'⟩ := Option.ite_none_right_eq_some.1 hstep
  obtain rfl := Option.some.inj hw'
  refine h.sendSms htimes fun hallowed => ?_
  cases call with
  | send env args =>
    have hpasses := (applySmsPolicies_eq_none_iff hpossible).1 hallowed
    exact hkeeps.resolve_right fun hlimit => hlimit hpasses.2.1
  | resend env row => exact hkeeps

end Limit

/-! ## Retries -/

section Retries

variable {settings : SmsSettings} {maxAttempts : ℤ} {env : SmsEnv} {w : SmsWorld}

/-- What a loop over failed rows relies on: they are there, and no row is younger than now. -/
structure SmsWorld.Awaits (env : SmsEnv) (rest : List (ℕ × SMSLog)) (w : SmsWorld) : Prop where
  failed : ∀ e ∈ rest, w.db.logs.rows e.1 = some e.2 ∧ e.2.status = .failed
  timely : ∀ e ∈ w.db.logs.entries, e.2.createdAt ≤ env.now

/-- A call writes a row of now, and changes no other one. -/
theorem SmsWorld.Awaits.sendSms {rest : List (ℕ × SMSLog)} (h : w.Awaits env rest)
    (args : SmsArguments) : SmsWorld.Awaits env rest (Crumbs.sendSms env args w).2 := by
  have hlogged {row : SMSLog} (hcreated : row.createdAt = env.now) (handed : List Handover) :
      (w.logged row handed).Awaits env rest := by
    constructor
    · intro e he
      obtain ⟨hrow, hfailed⟩ := h.failed e he
      exact ⟨Table.rows_insert_of_some row hrow, hfailed⟩
    · intro e he
      have hmem : e ∈ (w.db.logs.insert row).entries := he
      rw [Table.entries_insert, List.mem_append, List.mem_singleton] at hmem
      rcases hmem with hold | rfl
      · exact h.timely e hold
      · exact hcreated.le
  by_cases hover : IsHandedOver env args w.db
  · rw [sendSms_of_isHandedOver hover]
    exact hlogged (SMSLog.answered_eq _ _).2.2 _
  · obtain ⟨row, hrun, -, hcreated, -⟩ := sendSms_of_not_isHandedOver hover
    rw [hrun]
    exact hlogged hcreated _

/-- The body of the loop makes one call, or none, or the count of the row is no number. -/
theorem retryLog_calls (maxAttempts : ℤ) (hsettings : env.settings = settings) {e : ℕ × SMSLog}
    {rest : List (ℕ × SMSLog)} (h : w.Awaits env (e :: rest)) (retried : ℕ) :
    (∃ exn, retryLog env maxAttempts retried e w = (.error exn, w)) ∨
      retryLog env maxAttempts retried e w = (.ok retried, w) ∨
      ∃ n, retryLog env maxAttempts retried e w =
          (.ok n, (sendSms env (SmsCall.resend env e).args w).2) ∧
        callStep settings maxAttempts w (.resend env e) =
          some (sendSms env (SmsCall.resend env e).args w).2 := by
  obtain ⟨pk, log⟩ := e
  unfold retryLog
  cases hcount : log.retryCount with
  | error exn =>
    have hcheck : Tx.ofExcept log.retryCount w = (.error exn, w) := by
      rw [hcount]
      rfl
    exact .inl ⟨exn, Tx.bind_of_error hcheck⟩
  | ok attempts =>
    have hcheck : Tx.ofExcept log.retryCount w = (.ok attempts, w) := by
      rw [hcount]
      rfl
    have hgeneration : log.generation = attempts := by
      rw [SMSLog.generation, hcount]
      rfl
    right
    by_cases hle : maxAttempts ≤ attempts
    · exact .inl ((Tx.bind_of_ok hcheck).trans (Tx.ite_of hle))
    · right
      obtain ⟨hrow, hfailed⟩ := h.failed _ List.mem_cons_self
      have hpossible : (SmsCall.resend env (pk, log)).IsPossible maxAttempts w := by
        refine ⟨hrow, hfailed, ?_, ?_⟩
        · rw [hgeneration, hcount]
        · rw [hgeneration]
          exact not_le.1 hle
      let after := (sendSms env (log.resend pk attempts) w).2
      have hrun : retryLog env maxAttempts retried (pk, log) w =
          (.ok (if (after.db.logs.rows w.db.logs.next).any fun log => log.status = .sent
            then retried + 1 else retried), after) :=
        (Tx.bind_of_ok hcheck).trans ((Tx.ite_of_not hle).trans
          (Tx.bind_of_ok (sendSms_run env (log.resend pk attempts) w)))
      have hafter : (sendSms env (SmsCall.resend env (pk, log)).args w).2 = after := by
        show (sendSms env (log.resend pk log.generation) w).2 = after
        rw [hgeneration]
      rw [hafter]
      exact ⟨_, hrun, (if_pos ⟨hpossible, hsettings, h.timely⟩).trans (congrArg some hafter)⟩

/-- The loop over the failed rows makes a call for some of them. -/
theorem foldlM_retryLog_calls (hsettings : env.settings = settings) (rest : List (ℕ × SMSLog))
    (w : SmsWorld) (h : w.Awaits env rest) (retried : ℕ) :
    ∃ rows : List (ℕ × SMSLog), List.Sublist rows rest ∧
      (rows.map (SmsCall.resend env)).foldlM (callStep settings maxAttempts) w =
        some (rest.foldlM (retryLog env maxAttempts) retried w).2 := by
  induction rest generalizing w retried with
  | nil => exact ⟨[], List.Sublist.slnil, rfl⟩
  | cons e rest ih =>
    have htail : w.Awaits env rest :=
      ⟨fun e' he' => h.failed e' (List.mem_cons_of_mem e he'), h.timely⟩
    rw [List.foldlM_cons]
    rcases retryLog_calls maxAttempts hsettings h retried with
      ⟨exn, hrun⟩ | hrun | ⟨n, hrun, hcall⟩
    · exact ⟨[], List.nil_sublist _, by rw [Tx.bind_of_error hrun]; rfl⟩
    · obtain ⟨rows, hrows, hcalls⟩ := ih w htail retried
      exact ⟨rows, hrows.cons e, by rw [Tx.bind_of_ok hrun]; exact hcalls⟩
    · obtain ⟨rows, hrows, hcalls⟩ := ih _ (htail.sendSms _) n
      refine ⟨e :: rows, hrows.cons_cons e, ?_⟩
      rw [Tx.bind_of_ok hrun, List.map_cons, List.foldlM_cons, hcall]
      exact hcalls

/-- A run of `retry_failed` is a run of resends. -/
theorem retryFailed_calls (hsettings : env.settings = settings)
    (htimes : ∀ e ∈ w.db.logs.entries, e.2.createdAt ≤ env.now) :
    ∃ rows : List (ℕ × SMSLog), List.Sublist rows w.db.failedLogs ∧
      (rows.map (SmsCall.resend env)).foldlM (callStep settings maxAttempts) w =
        some (retryFailed env maxAttempts w).2 := by
  refine foldlM_retryLog_calls hsettings _ w ⟨fun e he => ?_, htimes⟩ 0
  have hperm := List.mergeSort_perm
    (w.db.logs.filter fun log => decide (log.status = .failed))
    fun e e' => decide (e.2.createdAt ≤ e'.2.createdAt)
  obtain ⟨hrow, hfailed⟩ := Table.mem_filter.1 (hperm.subset (List.take_subset _ _ he))
  exact ⟨hrow, of_decide_eq_true hfailed⟩

end Retries

/-! ## Runs -/

/-- Every call of the run honours the quiet hours, and the limit holds in every state. -/
def KeepsPolicies (settings : SmsSettings) (maxAttempts : ℤ) (start : SmsWorld)
    (run : List SmsCall) : Prop :=
  Guarded (callStep settings maxAttempts) HonoursQuietHours start run ∧
    Throughout (callStep settings maxAttempts)
      (fun w => WithinLimit settings.smsRateLimitPerUserPerDay w.db) start run

section Runs

variable {settings : SmsSettings} {maxAttempts : ℤ}

/-- The quiet hours are honoured by the runs of such calls, and by no others. -/
theorem guarded_honoursQuietHours_iff {start : SmsWorld} {run : List SmsCall} :
    Guarded (callStep settings maxAttempts) HonoursQuietHours start run ↔
      Guarded (callStep settings maxAttempts) (fun w call => call.KeepsQuiet w) start run := by
  have hcall {w w' : SmsWorld} {call : SmsCall}
      (hstep : callStep settings maxAttempts w call = some w') :
      HonoursQuietHours w call ↔ call.KeepsQuiet w := by
    obtain ⟨⟨hpossible, -⟩, -⟩ := Option.ite_none_right_eq_some.1 hstep
    exact honoursQuietHours_iff hpossible
  constructor
  · intro h
    exact h.mono_of_inv (I := fun _ => True) trivial fun w call w' _ hquiet hstep =>
      ⟨trivial, (hcall hstep).1 hquiet⟩
  · intro h
    exact h.mono_of_inv (I := fun _ => True) trivial fun w call w' _ hquiet hstep =>
      ⟨trivial, (hcall hstep).2 hquiet⟩

theorem withinLimit_empty {limit : ℤ} (h : 0 ≤ limit) : WithinLimit limit {} := fun _ _ => h

end Runs

/-- Runs of such calls honour the quiet hours and the limit. -/
theorem keepsPolicies_of_guarded (settings : SmsSettings) (maxAttempts : ℤ) (start : SmsWorld)
    (run : List SmsCall) (hstart : WithinLimit settings.smsRateLimitPerUserPerDay start.db)
    (h : Guarded (callStep settings maxAttempts)
      (fun w call => call.KeepsQuiet w ∧ call.KeepsLimit w) start run) :
    KeepsPolicies settings maxAttempts start run := by
  constructor
  · refine guarded_honoursQuietHours_iff.2 ?_
    exact h.mono_of_inv (I := fun _ => True) trivial fun _ _ _ _ hkeeps _ => ⟨trivial, hkeeps.1⟩
  · exact h.throughout (fun w call w' hw hkeeps hstep => hw.callStep hkeeps.2 hstep) hstart

/-- An offer that the provider refuses at noon. -/
def refusedOffer : SmsCall :=
  .send refusingFirst { recipient := "09121234567", message := "cake" }

/-- The row of the offer. -/
def refusedOfferRow : ℕ × SMSLog :=
  (0, { provider := "console", recipient := "09121234567", message := "cake", status := .failed,
        createdAt := 0 })

/-- The provider, an hour before midnight. -/
def lateEvening : SmsEnv := { refusingFirst with now := minutes 660, current := minutes 1380 }

/-- In the afternoon the offer is sent again, and in the evening another one is withheld. -/
theorem keepsPolicies_of_guarded_afternoon :
    KeepsPolicies {} 3 ⟨{}, []⟩ [refusedOffer,
      .resend { refusingFirst with now := minutes 60, current := minutes 780 } refusedOfferRow,
      .send lateEvening { recipient := "09121234567", message := "bread" }] :=
  keepsPolicies_of_guarded {} 3 ⟨{}, []⟩ _ (withinLimit_empty (by decide)) (by decide +kernel)

/-- The offer that was refused is sent again in the quiet hours. -/
theorem not_keepsPolicies_lateEvening : ¬∀ (settings : SmsSettings) (maxAttempts : ℤ)
    (start : SmsWorld) (run : List SmsCall),
    WithinLimit settings.smsRateLimitPerUserPerDay start.db →
      KeepsPolicies settings maxAttempts start run := by
  intro h
  have hrun : ¬Guarded (callStep {} 3) (fun w call => call.KeepsQuiet w) ⟨{}, []⟩
      [refusedOffer, .resend lateEvening refusedOfferRow] := by decide +kernel
  exact hrun (guarded_honoursQuietHours_iff.1
    (h {} 3 ⟨{}, []⟩ _ (withinLimit_empty (by decide))).1)

end Crumbs
