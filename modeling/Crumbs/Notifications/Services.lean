import Crumbs.Db.Transaction
import Crumbs.Notifications.Policies

/-!
# Sending Messages

Every call of `send_sms` writes one row of the log, and hands the message to the provider at most
once. `retry_failed` sends the failed messages again, with `force`; such a resend has a row of its
own, which says of which row it is the resend and how many there were before it.

## Contents

- `Handover`, `SmsEnv`: what the provider gets, and what it answers
- `sendSms`: `send_sms`
- `retryFailed`: `SMSService.retry_failed`
- `IsHandedOver`: the provider gets the message; what a call writes in either case
- `sendSms_spec`: one row, and at most one message to the provider
-/

namespace Crumbs

open Crumbs.Db

/-- `SMSResult` -/
structure SMSResult where
  success : Bool
  messageId : String := ""
  error : String := ""
  deriving DecidableEq, Repr

/-- A message that the provider got, with the row of the log it belongs to. -/
structure Handover where
  log : ℕ
  recipient : String
  message : String
  deriving DecidableEq, Repr

/-- What a call finds around it: the clock, the settings, and the provider's answer to the last of
    the messages that it has got; an error is an exception. -/
structure SmsEnv where
  now : Time := 0
  current : Time := 0
  settings : SmsSettings := {}
  answer : List Handover → Except String SMSResult := fun _ => .ok { success := true }

/-- The tables of the app, and what the provider has got. -/
abbrev SmsWorld := World SmsDatabase (List Handover)

/-- Work on the tables of the app. What the provider has got stays with it. -/
abbrev SmsTx := Tx SmsDatabase (List Handover) Exn

/-- `SMSLog.objects.create` -/
def createLog (log : SMSLog) : SmsTx ℕ := do
  let db ← Tx.getDb
  Tx.modifyDb fun db => { db with logs := db.logs.insert log }
  return db.logs.next

/-- `log.save(update_fields=…)` -/
def saveLog (pk : ℕ) (f : SMSLog → SMSLog) : SmsTx Unit :=
  Tx.modifyDb fun db => { db with logs := db.logs.modify pk f }

/-- `get_sms_provider`: why there is none, if there is none. -/
def getSmsProvider (settings : SmsSettings) : Option String :=
  if settings.smsProvider = "kavenegar" then
    if settings.kavenegarApiKey = "" then some "KAVENEGAR_API_KEY is not configured." else none
  else if settings.smsProvider = "console" then none
  else some s!"Unsupported SMS provider: {settings.smsProvider}"

/-- `provider.send` -/
def providerSend (env : SmsEnv) (handover : Handover) : SmsTx (Except String SMSResult) := do
  Tx.modifyExt fun handed => handed ++ [handover]
  let handed ← Tx.getExt
  return env.answer handed

/-- `get_sms_provider().send(recipient, message)` -/
def deliverSms (env : SmsEnv) (handover : Handover) : SmsTx (Except String SMSResult) :=
  match getSmsProvider env.settings with
  | some error => return .error error
  | none => providerSend env handover

/-- What becomes of the row when the provider has answered. -/
def SMSLog.answered (log : SMSLog) : Except String SMSResult → SMSLog
  | .error text => { log with status := .failed, errorMessage := text }
  | .ok result =>
    if result.success then { log with status := .sent, providerMessageId := result.messageId }
    else { log with status := .failed, errorMessage := result.error }

/-- The row of a message when nothing has become of it yet. -/
def SmsArguments.newLog (args : SmsArguments) (env : SmsEnv) : SMSLog where
  provider := env.settings.smsProvider
  templateCode := args.templateCode
  recipient := args.recipient
  message := args.message
  user := args.user
  order := args.order
  metadata := args.fullMetadata
  createdAt := env.now

/-- The message, for the provider. -/
def SmsArguments.handover (args : SmsArguments) (pk : ℕ) : Handover where
  log := pk
  recipient := args.recipient
  message := args.message

/-- The row of a message that is not sent. -/
def SMSLog.skip (log : SMSLog) (reason : String) : SMSLog :=
  { log with status := .skipped, errorMessage := reason }

/-- `send_sms`; the key of the row that was written. -/
def sendSms (env : SmsEnv) (args : SmsArguments) : SmsTx ℕ := do
  let log := args.newLog env
  -- every branch leaves one row
  if args.recipient = "" then
    createLog (log.skip "Missing phone number.")
  else
    let db ← Tx.getDb
    match db.applySmsPolicies env.settings env.now env.current args args.fullMetadata with
    | some reason => createLog (log.skip reason)
    | none =>
      -- the row is there before the provider is asked
      let pk ← createLog log
      if env.settings.smsEnabled then
        let answer ← deliverSms env (args.handover pk)
        saveLog pk (·.answered answer)
      else
        saveLog pk (·.skip "SMS_ENABLED is False.")
      return pk

/-! ## Retries -/

/-- `log.metadata.get("retry_count", 0)`, as the comparison with a number takes it. -/
def SMSLog.retryCount (log : SMSLog) : Except Exn ℤ :=
  match log.metadata.get "retry_count" with
  | none => .ok 0
  | some (.int n) => .ok n
  | some (.str _) =>
    .error (.builtinError "'>=' not supported between instances of 'str' and 'int'")

/-- The failed rows that are looked at: the oldest hundred. -/
def SmsDatabase.failedLogs (db : SmsDatabase) : List (ℕ × SMSLog) :=
  ((db.logs.filter fun log => decide (log.status = .failed)).mergeSort fun e e' =>
    decide (e.2.createdAt ≤ e'.2.createdAt)).take 100

/-- The arguments with which a row is sent again. -/
def SMSLog.resend (log : SMSLog) (pk : ℕ) (attempts : ℤ) : SmsArguments where
  recipient := log.recipient
  message := log.message
  templateCode := log.templateCode
  user := log.user
  order := log.order
  metadata := (log.metadata.set "retry_count" (.int (attempts + 1))).set "retry_of" (.int pk)
  force := true

/-- The body of the loop, for one failed row. -/
def retryLog (env : SmsEnv) (maxAttempts : ℤ) (retried : ℕ) : ℕ × SMSLog → SmsTx ℕ
  | (pk, log) => do
    let attempts ← Tx.ofExcept log.retryCount
    if maxAttempts ≤ attempts then
      return retried
    -- a resend has a row of its own, and the failed one stays as it is
    let result ← sendSms env (log.resend pk attempts)
    let db ← Tx.getDb
    return if (db.logs.rows result).any fun log => log.status = .sent then retried + 1 else retried

/-- `SMSService.retry_failed`: how many of the resends were sent. -/
def retryFailed (env : SmsEnv) (maxAttempts : ℤ) : SmsTx ℕ := do
  let db ← Tx.getDb
  db.failedLogs.foldlM (retryLog env maxAttempts) 0

/-! ## What a call does -/

section Runs

variable {env : SmsEnv} {args : SmsArguments} {w : SmsWorld}

/-- The world with one more row in the log, and with what the provider has got by then. -/
def SmsWorld.logged (w : SmsWorld) (row : SMSLog) (handed : List Handover) : SmsWorld :=
  ⟨{ w.db with logs := w.db.logs.insert row }, handed⟩

/-- The policies have no reason to keep the message from being sent. -/
def IsAllowed (env : SmsEnv) (args : SmsArguments) (db : SmsDatabase) : Prop :=
  db.applySmsPolicies env.settings env.now env.current args args.fullMetadata = none

instance (env : SmsEnv) (args : SmsArguments) (db : SmsDatabase) :
    Decidable (IsAllowed env args db) :=
  inferInstanceAs (Decidable (_ = none))

/-- The provider gets the message. -/
structure IsHandedOver (env : SmsEnv) (args : SmsArguments) (db : SmsDatabase) : Prop where
  recipient : args.recipient ≠ ""
  allowed : IsAllowed env args db
  enabled : env.settings.smsEnabled = true
  provider : getSmsProvider env.settings = none

theorem saveLog_logged (row : SMSLog) (handed : List Handover) (f : SMSLog → SMSLog) :
    saveLog w.db.logs.next f (w.logged row handed) = (.ok (), w.logged (f row) handed) := by
  unfold SmsWorld.logged
  rw [← Table.modify_insert_self w.db.logs row f]
  rfl

/-- A message for nobody. -/
theorem sendSms_of_no_recipient (h : args.recipient = "") :
    sendSms env args w =
      (.ok w.db.logs.next, w.logged ((args.newLog env).skip "Missing phone number.") w.ext) := by
  unfold sendSms
  exact Tx.ite_of h

/-- A message that the policies withhold. -/
theorem sendSms_of_reason {reason : String} (hrecipient : args.recipient ≠ "")
    (h : w.db.applySmsPolicies env.settings env.now env.current args args.fullMetadata =
      some reason) :
    sendSms env args w = (.ok w.db.logs.next, w.logged ((args.newLog env).skip reason) w.ext) := by
  unfold sendSms
  refine (Tx.ite_of_not hrecipient).trans ((Tx.bind_of_ok (x := Tx.getDb) rfl).trans ?_)
  rw [h]
  rfl

/-- A message that the policies let pass has a row before it is handed over. -/
theorem sendSms_of_isAllowed (hrecipient : args.recipient ≠ "") (h : IsAllowed env args w.db) :
    sendSms env args w =
      (do
        if env.settings.smsEnabled then
          let answer ← deliverSms env (args.handover w.db.logs.next)
          saveLog w.db.logs.next (·.answered answer)
        else
          saveLog w.db.logs.next (·.skip "SMS_ENABLED is False.")
        return w.db.logs.next : SmsTx ℕ) (w.logged (args.newLog env) w.ext) := by
  unfold sendSms
  refine (Tx.ite_of_not hrecipient).trans ((Tx.bind_of_ok (x := Tx.getDb) rfl).trans ?_)
  rw [IsAllowed] at h
  rw [h]
  exact Tx.bind_of_ok (x := createLog (args.newLog env)) rfl

/-- A message that is not sent, because messages are off. -/
theorem sendSms_of_disabled (hrecipient : args.recipient ≠ "") (h : IsAllowed env args w.db)
    (hdisabled : env.settings.smsEnabled = false) :
    sendSms env args w = (.ok w.db.logs.next,
      w.logged ((args.newLog env).skip "SMS_ENABLED is False.") w.ext) := by
  have hoff : ¬env.settings.smsEnabled = true := Bool.eq_false_iff.1 hdisabled
  refine (sendSms_of_isAllowed hrecipient h).trans ((Tx.ite_of_not hoff).trans ?_)
  exact Tx.bind_of_ok (saveLog_logged _ _ _)

/-- A message that there is no provider for. -/
theorem sendSms_of_no_provider (hrecipient : args.recipient ≠ "") (h : IsAllowed env args w.db)
    (henabled : env.settings.smsEnabled = true) {error : String}
    (hprovider : getSmsProvider env.settings = some error) :
    sendSms env args w = (.ok w.db.logs.next,
      w.logged ((args.newLog env).answered (.error error)) w.ext) := by
  have hdeliver (handover : Handover) (v : SmsWorld) :
      deliverSms env handover v = (.ok (.error error), v) := by
    rw [deliverSms, hprovider]
    rfl
  refine (sendSms_of_isAllowed hrecipient h).trans ((Tx.ite_of henabled).trans ?_)
  refine (Tx.bind_of_ok (hdeliver _ _)).trans ?_
  exact Tx.bind_of_ok (saveLog_logged _ _ _)

/-- The row of a message that the provider gets has what the provider answered. -/
theorem sendSms_of_isHandedOver (h : IsHandedOver env args w.db) :
    sendSms env args w = (.ok w.db.logs.next,
      w.logged ((args.newLog env).answered (env.answer (w.ext ++ [args.handover w.db.logs.next])))
        (w.ext ++ [args.handover w.db.logs.next])) := by
  have hdeliver (handover : Handover) (v : SmsWorld) : deliverSms env handover v =
      (.ok (env.answer (v.ext ++ [handover])), ⟨v.db, v.ext ++ [handover]⟩) := by
    rw [deliverSms, h.provider]
    rfl
  refine (sendSms_of_isAllowed h.recipient h.allowed).trans ((Tx.ite_of h.enabled).trans ?_)
  refine (Tx.bind_of_ok (hdeliver _ _)).trans ?_
  exact Tx.bind_of_ok (saveLog_logged _ _ _)

/-- The row of a message that the provider does not get. -/
theorem sendSms_of_not_isHandedOver (h : ¬IsHandedOver env args w.db) :
    ∃ row, sendSms env args w = (.ok w.db.logs.next, w.logged row w.ext) ∧
      row.metadata = args.fullMetadata ∧ row.createdAt = env.now ∧ row.status ≠ .sent := by
  by_cases hrecipient : args.recipient = ""
  · exact ⟨_, sendSms_of_no_recipient hrecipient, rfl, rfl, nofun⟩
  by_cases hallowed : IsAllowed env args w.db
  · cases henabled : env.settings.smsEnabled with
    | false => exact ⟨_, sendSms_of_disabled hrecipient hallowed henabled, rfl, rfl, nofun⟩
    | true =>
      cases hprovider : getSmsProvider env.settings with
      | none => exact absurd ⟨hrecipient, hallowed, henabled, hprovider⟩ h
      | some error =>
        exact ⟨_, sendSms_of_no_provider hrecipient hallowed henabled hprovider, rfl, rfl, nofun⟩
  · obtain ⟨reason, hreason⟩ := Option.ne_none_iff_exists'.1 hallowed
    exact ⟨_, sendSms_of_reason hrecipient hreason, rfl, rfl, nofun⟩

/-- A call returns the key of its row, whatever becomes of the message. -/
theorem sendSms_run (env : SmsEnv) (args : SmsArguments) (w : SmsWorld) :
    sendSms env args w = (.ok w.db.logs.next, (sendSms env args w).2) := by
  refine Tx.run_of_fst ?_
  by_cases h : IsHandedOver env args w.db
  · rw [sendSms_of_isHandedOver h]
  · obtain ⟨row, hrun, -⟩ := sendSms_of_not_isHandedOver h
    rw [hrun]

end Runs

/-! ## What is written -/

/-- One row is written, with the given metadata, and its message is handed over at most once. -/
structure Sends (args : SmsArguments) (w w' : SmsWorld) (row : SMSLog) : Prop where
  logs : w'.db.logs = w.db.logs.insert row
  metadata : row.metadata = args.fullMetadata
  handed : w'.ext = w.ext ∨ w'.ext = w.ext ++ [args.handover w.db.logs.next]

/-- The answer changes the status of the row, and nothing of what was asked. -/
theorem SMSLog.answered_eq (log : SMSLog) (answer : Except String SMSResult) :
    (log.answered answer).metadata = log.metadata ∧
      (log.answered answer).recipient = log.recipient ∧
      (log.answered answer).createdAt = log.createdAt := by
  cases answer with
  | error text => exact ⟨rfl, rfl, rfl⟩
  | ok result =>
    simp only [answered]
    split <;> exact ⟨rfl, rfl, rfl⟩

/-- All that `send_sms` does. -/
theorem sendSms_spec (env : SmsEnv) (args : SmsArguments) (w : SmsWorld) :
    (sendSms env args).wp (fun _ w' => ∃ row, Sends args w w' row) (fun _ _ => False) w := by
  by_cases h : IsHandedOver env args w.db
  · refine (Tx.wp_iff_of_ok (sendSms_of_isHandedOver h)).2 ⟨_, rfl, ?_, .inr rfl⟩
    exact (SMSLog.answered_eq _ _).1
  · obtain ⟨row, hrun, hmetadata, -⟩ := sendSms_of_not_isHandedOver h
    exact (Tx.wp_iff_of_ok hrun).2 ⟨row, rfl, hmetadata, .inl rfl⟩

end Crumbs
