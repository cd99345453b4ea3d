import Crumbs.Db.Runs
import Crumbs.Orders.Emitting

/-!
# Claims of a Task

A task is put into the queue under a key, and only if the key can be claimed: the row of the task
must not say that it is waiting, running or done. The worker writes into that row what becomes of
the task. A task that waits for its next attempt is in the queue as well, but its row then says
that it is to be retried, and a row that says so can be claimed.

## Contents

- `markTaskStarted`, …: what the hooks of a task write into its row
- `TaskLife`: the row of a task, and the executions that may still come
- `TaskAction`, `TaskLife.step`: a call of `apply_idempotent_task`, and what a worker does
- `TaskLife.EnqueuedOnce`: no claim was granted for a task that may still run or has succeeded
- `enqueuedOnce_iff`: no claim was granted wrongly if and only if none was made on a retry's row
-/

namespace Crumbs

open Crumbs.Db

/-! ## Marks -/

/-- `update_or_create(task_id=…)`. A task without a row gets one that has no key, and no claim looks
    at such a row. -/
def EventDatabase.markTask (db : EventDatabase) (taskId taskName : String) (status : TaskStatus) :
    EventDatabase :=
  let mark (log : BackgroundTaskLog) : BackgroundTaskLog :=
    if log.taskId = taskId then
      { log with status, taskName := if taskName = "" then log.taskName else taskName }
    else log
  { db with tasks := fun key => (db.tasks key).map mark }

section Marks

variable (db : EventDatabase) (taskId taskName : String)

/-- `mark_task_started` -/
def markTaskStarted : EventDatabase := db.markTask taskId taskName .started

/-- `mark_task_success` -/
def markTaskSuccess : EventDatabase := db.markTask taskId taskName .success

/-- `mark_task_failure` -/
def markTaskFailure (dead : Bool) : EventDatabase :=
  db.markTask taskId taskName (if dead then .dead else .failure)

/-- `mark_task_retry` -/
def markTaskRetry : EventDatabase := db.markTask taskId taskName .retry

end Marks

/-! ## The life of a task -/

/-- `CrumbsTask.max_retries` -/
def maxRetries : ℕ := 5

/-- One message of a task: in the queue, maybe not yet due, or with a worker. -/
inductive Execution where
  | queued (retries : ℕ)
  | running (retries : ℕ)
  deriving DecidableEq, Repr

/-- The database and the queue, and what may still become of the task of one key. `lateMarks` are
    the calls of `on_retry` that are still to come: the message of the next attempt is sent before
    them. `repeated` says that a claim was granted while the task could still run, or after it had
    succeeded. -/
structure TaskLife where
  world : World EventDatabase EventExt
  executions : List Execution := []
  lateMarks : ℕ := 0
  succeeded : Bool := false
  repeated : Bool := false

/-- A caller puts the task into the queue, or a worker goes on with an execution. -/
inductive TaskAction where
  | apply (env : EventEnv) (order : OrderId) (events : List LifecycleEvent) (change : StateChange)
  /-- `before_start`; a message that a worker has lost is given to another one. -/
  | start (i : ℕ)
  | succeed (i : ℕ)
  | fail (i : ℕ)
  | retry (i : ℕ)
  /-- `on_retry` -/
  | markRetry

/-- The name of the only task that is enqueued with a key. -/
def lifecycleTaskName : String := "orders.tasks.process_order_lifecycle_events"

/-- `idempotency_key[:255]` -/
def taskIdOf (key : String) : String := String.ofList (key.toList.take 255)

namespace TaskLife

/-- The task may still run, or it has succeeded. -/
def IsClaimed (s : TaskLife) : Prop := s.executions ≠ [] ∨ s.succeeded = true

instance (s : TaskLife) : Decidable s.IsClaimed := inferInstanceAs (Decidable (_ ∨ _))

/-- What the row of the key says. -/
def lastMark (key : String) (s : TaskLife) : Option TaskStatus :=
  (s.world.db.tasks key).map (·.status)

/-- A hook has written its mark. -/
def mark (s : TaskLife) (f : EventDatabase → EventDatabase) : TaskLife :=
  { s with world := { s.world with db := f s.world.db } }

/-- `apply_idempotent_task`, and what it means for the task: a claim that is granted brings one more
    message, if the broker answers. -/
def apply (key : String) (env : EventEnv) (order : OrderId) (events : List LifecycleEvent)
    (change : StateChange) (s : TaskLife) : TaskLife :=
  let world := (applyIdempotentTask env key order events change s.world).2
  match (claimIdempotencyKey key lifecycleTaskName (taskIdOf key) (order, events) s.world).1 with
  | .ok true =>
    { s with
      world
      executions := if env.broker then s.executions ++ [.queued 0] else s.executions
      repeated := s.repeated || decide s.IsClaimed }
  | _ => { s with world }

/-- What happens next, if it can. -/
def step (key : String) (s : TaskLife) : TaskAction → Option TaskLife
  | .apply env order events change => some (s.apply key env order events change)
  | .start i =>
    match s.executions[i]? with
    | some (.queued retries) | some (.running retries) =>
      some ({ s with executions := s.executions.set i (.running retries) }.mark
        (markTaskStarted · (taskIdOf key) lifecycleTaskName))
    | none => none
  | .succeed i =>
    match s.executions[i]? with
    | some (.running _) =>
      some ({ s with executions := s.executions.eraseIdx i, succeeded := true }.mark
        (markTaskSuccess · (taskIdOf key) lifecycleTaskName))
    | _ => none
  | .fail i =>
    match s.executions[i]? with
    | some (.running retries) =>
      some ({ s with executions := s.executions.eraseIdx i }.mark
        (markTaskFailure · (taskIdOf key) lifecycleTaskName (maxRetries ≤ retries)))
    | _ => none
  | .retry i =>
    match s.executions[i]? with
    | some (.running retries) =>
      if retries < maxRetries then
        some { s with
          executions := s.executions.set i (.queued (retries + 1))
          lateMarks := s.lateMarks + 1 }
      else none
    | _ => none
  | .markRetry =>
    if s.lateMarks = 0 then none
    else
      some ({ s with lateMarks := s.lateMarks - 1 }.mark
        (markTaskRetry · (taskIdOf key) lifecycleTaskName))

/-- Every claim was refused while the task could still run and after it had succeeded, and so there
    is at most one execution of it. -/
structure EnqueuedOnce (s : TaskLife) : Prop where
  refused : s.repeated = false
  once : s.executions.length ≤ 1
  done : s.succeeded = true → s.executions = []

end TaskLife

/-- No claim is made for a task that may still run or has succeeded while its row says that it is to
    be retried. -/
def TaskAction.ClaimsMarked (key : String) (s : TaskLife) : TaskAction → Prop
  | .apply .. => s.IsClaimed → s.lastMark key ≠ some .retry
  | _ => True

instance (key : String) (s : TaskLife) : (action : TaskAction) → Decidable (action.ClaimsMarked key s)
  | .apply .. => inferInstanceAs (Decidable (_ → _))
  | .start _ | .succeed _ | .fail _ | .retry _ | .markRetry => inferInstanceAs (Decidable True)

/-! ## One step -/

section Step

variable {key : String} {s s' : TaskLife}

/-- The row says that the task waits, runs, has succeeded or is to be retried. -/
def TaskLife.IsHeld (key : String) (s : TaskLife) : Prop :=
  ∃ log, s.world.db.tasks key = some log ∧ log.taskId = taskIdOf key ∧
    log.status ∈ [.pending, .started, .success, .retry]

/-- A mark that says one of these. -/
theorem TaskLife.IsHeld.mark (h : s.IsHeld key) {status : TaskStatus}
    (hstatus : status ∈ [TaskStatus.pending, .started, .success, .retry]) :
    (s.mark (·.markTask (taskIdOf key) lifecycleTaskName status)).IsHeld key := by
  obtain ⟨log, hlog, hid, -⟩ := h
  refine ⟨{ log with status, taskName := lifecycleTaskName }, ?_, hid, hstatus⟩
  show (s.world.db.tasks key).map _ = _
  rw [hlog, Option.map_some, if_pos hid, if_neg (by decide)]

/-- A claim is granted if the row does not stand in its way. -/
theorem claimIdempotencyKey_of_not_inFlight {taskName taskId : String}
    {payload : OrderId × List LifecycleEvent} {w : World EventDatabase EventExt} (hkey : key ≠ "")
    (h : ¬w.db.isInFlight key) : claimIdempotencyKey key taskName taskId payload w =
      (.ok true, { w with db := w.db.setTask key { taskName, taskId, status := .pending, payload } }) :=
  (Tx.ite_of_not hkey).trans ((Tx.bind_of_ok (x := Tx.getDb) rfl).trans (Tx.ite_of_not h))

theorem claimIdempotencyKey_of_inFlight {taskName taskId : String}
    {payload : OrderId × List LifecycleEvent} {w : World EventDatabase EventExt} (hkey : key ≠ "")
    (h : w.db.isInFlight key) : claimIdempotencyKey key taskName taskId payload w = (.ok false, w) :=
  (Tx.ite_of_not hkey).trans ((Tx.bind_of_ok (x := Tx.getDb) rfl).trans (Tx.ite_of h))

variable {env : EventEnv} {order : OrderId} {events : List LifecycleEvent} {change : StateChange}

/-- A call whose claim is refused does nothing. -/
theorem TaskLife.apply_of_inFlight (hkey : key ≠ "") (h : s.world.db.isInFlight key) :
    s.apply key env order events change = s := by
  have hclaim {taskName taskId : String} : claimIdempotencyKey key taskName taskId (order, events)
      s.world = (.ok false, s.world) := claimIdempotencyKey_of_inFlight hkey h
  have hrun : applyIdempotentTask env key order events change s.world = (.ok (), s.world) :=
    (Tx.bind_of_ok hclaim).trans (Tx.when_of_not Bool.false_ne_true)
  simp only [apply, hclaim, hrun]

theorem db_applyAsync (env : EventEnv) (message : Message) (w : World EventDatabase EventExt) :
    (applyAsync env message w).2.db = w.db := by
  unfold applyAsync Tx.when
  split <;> rfl

/-- A call whose claim is granted writes the row anew. -/
theorem TaskLife.apply_of_not_inFlight (env : EventEnv) (order : OrderId)
    (events : List LifecycleEvent) (change : StateChange) (hkey : key ≠ "")
    (h : ¬s.world.db.isInFlight key) :
    (s.apply key env order events change).repeated = (s.repeated || decide s.IsClaimed) ∧
      (s.apply key env order events change).succeeded = s.succeeded ∧
      (s.apply key env order events change).executions.length ≤ s.executions.length + 1 ∧
      (s.apply key env order events change).IsHeld key := by
  let log : BackgroundTaskLog :=
    { taskName := lifecycleTaskName, taskId := taskIdOf key, status := .pending,
      payload := (order, events) }
  have hclaim : claimIdempotencyKey key lifecycleTaskName (taskIdOf key) (order, events) s.world =
      (.ok true, { s.world with db := s.world.db.setTask key log }) :=
    claimIdempotencyKey_of_not_inFlight hkey h
  have hdb : (applyIdempotentTask env key order events change s.world).2.db =
      s.world.db.setTask key log := by
    have hrun := Tx.bind_of_ok (f := fun claimed : Bool => Tx.when claimed (applyAsync env
      { taskId := taskIdOf key, queue := "orders", order, events, change })) hclaim
    exact (congrArg (·.2.db) hrun).trans (db_applyAsync ..)
  simp only [apply, hclaim]
  refine ⟨trivial, trivial, ?_, log, ?_, rfl, List.mem_cons_self⟩
  · split
    · exact (List.length_append ..).le
    · exact Nat.le_succ _
  · show (applyIdempotentTask env key order events change s.world).2.db.tasks key = some log
    rw [hdb]
    exact if_pos rfl

/-- What the row of a task tells as long as no claim was granted wrongly. -/
structure TaskLife.IsKept (key : String) (s : TaskLife) : Prop where
  once : s.executions.length ≤ 1
  done : s.succeeded = true → s.executions = []
  held : s.IsClaimed → s.IsHeld key

/-- A claimed task whose row does not say that it is to be retried cannot be claimed again. -/
theorem TaskLife.IsHeld.isInFlight_iff (h : s.IsHeld key) :
    s.world.db.isInFlight key ↔ s.lastMark key ≠ some .retry := by
  obtain ⟨log, hlog, -, hstatus⟩ := h
  have hmark : s.lastMark key = some log.status := by rw [lastMark, hlog, Option.map_some]
  rw [hmark, EventDatabase.isInFlight, hlog]
  constructor
  · rintro ⟨log', hlog', hin⟩ hretry
    obtain rfl := Option.some.inj hlog'
    rw [Option.some.inj hretry] at hin
    exact absurd hin (by decide)
  · intro hne
    refine ⟨log, rfl, ?_⟩
    simp only [List.mem_cons, List.not_mem_nil, or_false] at hstatus ⊢
    rcases hstatus with h | h | h | h
    · exact .inl h
    · exact .inr (.inl h)
    · exact .inr (.inr h)
    · exact absurd (congrArg some h) hne

/-- An execution that there is is the only one. -/
theorem TaskLife.IsKept.executions_eq (h : s.IsKept key) {i : ℕ} {execution : Execution}
    (hi : s.executions[i]? = some execution) :
    i = 0 ∧ s.executions = [execution] ∧ s.succeeded = false := by
  have honce := h.once
  have hdone := h.done
  cases hs : s.executions with
  | nil =>
    rw [hs] at hi
    exact nomatch hi
  | cons first rest =>
    rw [hs] at hi honce hdone
    obtain rfl : rest = [] := List.eq_nil_of_length_eq_zero (by simpa using honce)
    cases i with
    | zero => exact ⟨rfl, congrArg (fun e => [e]) (Option.some.inj hi), by simpa using hdone⟩
    | succ i => exact nomatch hi

theorem TaskLife.IsKept.apply (hkey : key ≠ "") (h : s.IsKept key)
    (hrefused : (s.apply key env order events change).repeated = false) :
    (s.apply key env order events change).IsKept key := by
  by_cases hflight : s.world.db.isInFlight key
  · rw [apply_of_inFlight hkey hflight]
    exact h
  · obtain ⟨hrepeated, hsucceeded, hle, hheld⟩ :=
      apply_of_not_inFlight env order events change hkey hflight
    rw [hrepeated, Bool.or_eq_false_iff, decide_eq_false_iff_not, IsClaimed, not_or, not_not] at hrefused
    obtain ⟨-, hnone, hnot⟩ := hrefused
    rw [hnone] at hle
    exact ⟨hle, fun hdone => absurd (hsucceeded.symm.trans hdone) hnot, fun _ => hheld⟩

/-- Of what there is of a claimed task, a mark changes the row only. -/
theorem TaskLife.IsKept.mark (h : s.IsKept key) {status : TaskStatus}
    (hstatus : status ∈ [TaskStatus.pending, .started, .success, .retry]) :
    (s.mark (·.markTask (taskIdOf key) lifecycleTaskName status)).IsKept key :=
  ⟨h.once, h.done, fun hclaimed => (h.held hclaimed).mark hstatus⟩

/-- It is a worker that acts. -/
def TaskAction.IsWork : TaskAction → Prop
  | .apply .. => False
  | _ => True

/-- A worker goes on with the only execution. -/
theorem TaskLife.IsKept.works (h : s.IsKept key) {action : TaskAction}
    (hstep : s.step key action = some s') (hwork : action.IsWork) :
    s'.repeated = s.repeated ∧ s'.IsKept key := by
  cases action with
  | apply env order events change => exact hwork.elim
  | start i =>
    obtain ⟨execution, retries, hi, hs'⟩ : ∃ execution retries, s.executions[i]? = some execution ∧
        some ({ s with executions := s.executions.set i (.running retries) }.mark
          (markTaskStarted · (taskIdOf key) lifecycleTaskName)) = some s' := by
      simp only [TaskLife.step] at hstep
      split at hstep
      next retries hi => exact ⟨_, retries, hi, hstep⟩
      next retries hi => exact ⟨_, retries, hi, hstep⟩
      next => exact nomatch hstep
    obtain rfl := Option.some.inj hs'
    obtain ⟨rfl, hs, hnot⟩ := h.executions_eq hi
    have hkept : TaskLife.IsKept key { s with executions := s.executions.set 0 (.running retries) } := by
      refine ⟨?_, fun hdone => absurd (hnot.symm.trans hdone) Bool.false_ne_true, fun _ => ?_⟩
      · rw [List.length_set]
        exact h.once
      · exact h.held (.inl (hs ▸ List.cons_ne_nil _ _))
    exact ⟨rfl, hkept.mark (by decide)⟩
  | succeed i =>
    simp only [TaskLife.step] at hstep
    split at hstep
    next retries hi =>
      obtain rfl := Option.some.inj hstep
      obtain ⟨rfl, hs, -⟩ := h.executions_eq hi
      have herase : s.executions.eraseIdx 0 = [] := by rw [hs]; rfl
      have hkept : TaskLife.IsKept key
          { s with executions := s.executions.eraseIdx 0, succeeded := true } :=
        ⟨herase ▸ Nat.zero_le 1, fun _ => herase, fun _ => h.held (.inl (hs ▸ List.cons_ne_nil _ _))⟩
      exact ⟨rfl, hkept.mark (by decide)⟩
    next => exact nomatch hstep
  | fail i =>
    simp only [TaskLife.step] at hstep
    split at hstep
    next retries hi =>
      obtain rfl := Option.some.inj hstep
      obtain ⟨rfl, hs, hnot⟩ := h.executions_eq hi
      have herase : s.executions.eraseIdx 0 = [] := by rw [hs]; rfl
      -- nothing is left that the row would have to tell of
      refine ⟨rfl, herase ▸ Nat.zero_le 1, fun _ => herase, ?_⟩
      rintro (hne | hdone)
      · exact absurd herase hne
      · exact absurd (hnot.symm.trans hdone) Bool.false_ne_true
    next => exact nomatch hstep
  | retry i =>
    simp only [TaskLife.step] at hstep
    split at hstep
    next retries hi =>
      obtain ⟨-, hs'⟩ := Option.ite_none_right_eq_some.1 hstep
      obtain rfl := Option.some.inj hs'
      obtain ⟨rfl, hs, hnot⟩ := h.executions_eq hi
      refine ⟨rfl, ?_, fun hdone => absurd (hnot.symm.trans hdone) Bool.false_ne_true, fun _ => ?_⟩
      · exact (List.length_set ..).trans_le h.once
      · exact h.held (.inl (hs ▸ List.cons_ne_nil _ _))
    next => exact nomatch hstep
  | markRetry =>
    obtain ⟨-, hs'⟩ := Option.ite_none_left_eq_some.1 hstep
    obtain rfl := Option.some.inj hs'
    have hkept : TaskLife.IsKept key { s with lateMarks := s.lateMarks - 1 } :=
      ⟨h.once, h.done, h.held⟩
    exact ⟨rfl, hkept.mark (by decide)⟩

/-- A claim that is made on the row of a claimed task is refused unless that is to be retried. -/
theorem TaskLife.IsKept.repeated_apply_iff (hkey : key ≠ "") (h : s.IsKept key)
    (hrefused : s.repeated = false) :
    (s.apply key env order events change).repeated = false ↔
      (s.IsClaimed → s.lastMark key ≠ some .retry) := by
  by_cases hclaimed : s.IsClaimed
  · rw [← (h.held hclaimed).isInFlight_iff]
    by_cases hflight : s.world.db.isInFlight key
    · rw [apply_of_inFlight hkey hflight]
      exact iff_of_true hrefused fun _ => hflight
    · rw [(apply_of_not_inFlight _ _ _ _ hkey hflight).1, hrefused, Bool.false_or,
        decide_eq_true hclaimed]
      exact iff_of_false Bool.true_eq_false_eq_False.elim fun h => hflight (h hclaimed)
  · refine iff_of_true ?_ fun h => absurd h hclaimed
    by_cases hflight : s.world.db.isInFlight key
    · rw [apply_of_inFlight hkey hflight]
      exact hrefused
    · rw [(apply_of_not_inFlight _ _ _ _ hkey hflight).1, hrefused, decide_eq_false hclaimed]
      rfl

end Step

/-! ## Runs -/

/-- What is known of a task in every state that can be reached. -/
def TaskLife.IsSound (key : String) (s : TaskLife) : Prop := s.repeated = false → s.IsKept key

section Runs

variable {key : String} {s s' : TaskLife}

/-- What was granted wrongly stays so. -/
theorem TaskLife.repeated_of_step {action : TaskAction} (hstep : s.step key action = some s')
    (h : s'.repeated = false) : s.repeated = false := by
  cases action with
  | apply env order events change =>
    obtain rfl := Option.some.inj hstep
    simp only [apply] at h
    split at h
    · exact (Bool.or_eq_false_iff.1 h).1
    · exact h
  | markRetry =>
    obtain ⟨-, hs'⟩ := Option.ite_none_left_eq_some.1 hstep
    obtain rfl := Option.some.inj hs'
    exact h
  | retry i =>
    simp only [TaskLife.step] at hstep
    split at hstep
    next =>
      obtain ⟨-, hs'⟩ := Option.ite_none_right_eq_some.1 hstep
      obtain rfl := Option.some.inj hs'
      exact h
    next => exact nomatch hstep
  | start i | succeed i | fail i =>
    simp only [TaskLife.step] at hstep
    split at hstep
    any_goals
      obtain rfl := Option.some.inj hstep
      exact h
    exact nomatch hstep

theorem TaskLife.IsSound.step (hkey : key ≠ "") {action : TaskAction} (h : s.IsSound key)
    (hstep : s.step key action = some s') : s'.IsSound key := by
  intro hrefused
  have hkept := h (repeated_of_step hstep hrefused)
  cases action with
  | apply env order events change =>
    obtain rfl := Option.some.inj hstep
    exact hkept.apply hkey hrefused
  | _ => exact (hkept.works hstep trivial).2

theorem TaskLife.IsSound.enqueuedOnce_of_step (hkey : key ≠ "") {action : TaskAction}
    (h : s.IsSound key) (honce : s.EnqueuedOnce) (hstep : s.step key action = some s') :
    s'.EnqueuedOnce ↔ action.ClaimsMarked key s := by
  have hkept := h honce.refused
  have hiff : s'.EnqueuedOnce ↔ s'.repeated = false :=
    ⟨fun honce' => honce'.refused, fun hrefused =>
      have hkept' := h.step hkey hstep hrefused
      ⟨hrefused, hkept'.once, hkept'.done⟩⟩
  rw [hiff]
  cases action with
  | apply env order events change =>
    obtain rfl := Option.some.inj hstep
    exact hkept.repeated_apply_iff hkey honce.refused
  | _ => exact iff_of_true ((hkept.works hstep trivial).1.trans honce.refused) trivial

/-- The claims of a task are refused while it may still run and after it has succeeded, and it is
    enqueued once, if and only if no such claim is made while its row says that it is to be
    retried. -/
theorem enqueuedOnce_iff (key : String) (world : World EventDatabase EventExt)
    (run : List TaskAction) (hkey : key ≠ "") :
    Throughout (TaskLife.step key) TaskLife.EnqueuedOnce { world } run ↔
      Guarded (TaskLife.step key) (TaskAction.ClaimsMarked key) { world } run :=
  throughout_iff_guarded (I := TaskLife.IsSound key)
    (fun _ _ _ hs hstep => hs.step hkey hstep)
    (fun _ _ _ hs honce hstep => hs.enqueuedOnce_of_step hkey honce hstep)
    (fun _ => ⟨Nat.zero_le 1, fun _ => rfl, fun hclaimed => hclaimed.elim (absurd rfl) nofun⟩)
    ⟨rfl, Nat.zero_le 1, fun _ => rfl⟩

/-- A shop in which nothing has happened. -/
def quietWorld : World EventDatabase EventExt where
  db := { shop := { stock := { products _ := ⟨"cake", 100, .available⟩ } } }
  ext := {}

/-- An order of that shop is announced. -/
def announce : TaskAction :=
  .apply {} 0 [] ⟨0, 0, none, .pendingPayment, none, .pendingPayment⟩

/-- The task fails once, and is announced again when its next attempt has begun. -/
theorem enqueuedOnce_iff_restarted :
    Throughout (TaskLife.step "order-lifecycle:0") TaskLife.EnqueuedOnce { world := quietWorld }
      [announce, .start 0, .retry 0, .markRetry, .start 0, announce, .succeed 0, announce] :=
  (enqueuedOnce_iff "order-lifecycle:0" quietWorld _ (by decide)).2 (by decide +kernel)

/-- The task fails once, and is announced again while it waits for its next attempt. -/
theorem not_enqueuedOnce_waiting : ¬∀ (key : String) (world : World EventDatabase EventExt)
    (run : List TaskAction), key ≠ "" →
    Throughout (TaskLife.step key) TaskLife.EnqueuedOnce { world } run := by
  intro h
  let run : List TaskAction := [announce, .start 0, .retry 0, .markRetry, announce]
  obtain ⟨s, hs, htwice⟩ : ∃ s, run.foldlM (TaskLife.step "order-lifecycle:0")
      { world := quietWorld } = some s ∧ s.executions.length = 2 :=
    Option.map_eq_some_iff.1 (by decide +kernel)
  have honce := ((h "order-lifecycle:0" quietWorld run (by decide)).last hs).once
  omega

end Runs

end Crumbs
