import Crumbs.Db.Runs
import Crumbs.Notifications.Services
import Mathlib.Data.Int.Interval

/-!
# Retries of Failed Messages

A failed message is sent again until it is sent, or until there were so many resends. Every resend
has a row of its own, which counts the resends before it, and a resend that fails may be sent again
itself. The row that was sent again keeps its status and its count, and so it is taken again by the
next run. If no row is taken twice, the resends of a message are a chain, and its count is right.

## Contents

- `SMSLog.retryOf`, `origin`: the message that a row is a resend of, however often it was resent
- `SmsWorld.IsBounded`: the resends of a message are few, and none comes after one that was sent
- `SmsAction.TakesNew`: a run of `retry_failed` takes no row that has a resend
- `Chained`: the resends of every message are a chain
- `isBounded_of_takesNew`: runs that take no row twice keep the bound
-/

namespace Crumbs

open Crumbs.Db

/-! ## Resends -/

/-- `metadata["retry_of"]` -/
def SMSLog.retryOf (log : SMSLog) : Option ℕ :=
  match log.metadata.get "retry_of" with
  | some (.int n) => n.toNat?
  | _ => none

/-- A message that is not a resend. -/
def SMSLog.IsOriginal (log : SMSLog) : Prop :=
  log.metadata.get "retry_of" = none ∧ log.metadata.get "retry_count" = none

/-- How many resends came before, and this one. -/
def SMSLog.generation (log : SMSLog) : ℤ := log.retryCount.toOption.getD 0

section Tables

variable (logs : Table SMSLog)

/-- The row that a row is a resend of. -/
def parentOf (i : ℕ) : Option ℕ := (logs.rows i).bind SMSLog.retryOf

/-- The message that a row goes back to, in so many steps at most. -/
def originOf : ℕ → ℕ → ℕ
  | 0, i => i
  | fuel + 1, i => (parentOf logs i).elim i (originOf fuel)

/-- The message that a row goes back to. A resend is younger than the row that it resends. -/
def origin (i : ℕ) : ℕ := originOf logs i i

/-- The row was sent again. -/
def HasResend (i : ℕ) : Prop := ∃ e ∈ logs.entries, e.2.retryOf = some i

instance (i : ℕ) : Decidable (HasResend logs i) :=
  inferInstanceAs (Decidable (∃ e ∈ logs.entries, _))

end Tables

/-- The resends of a message that the provider got, in their order. -/
def SmsWorld.resends (w : SmsWorld) (m : ℕ) : List Handover :=
  w.ext.filter fun h => decide (h.log ≠ m ∧ origin w.db.logs h.log = m)

/-- The provider got at most so many resends of the message, and none after one that was sent. -/
structure SmsWorld.IsBounded (maxAttempts : ℕ) (w : SmsWorld) (m : ℕ) : Prop where
  atMost : (w.resends m).length ≤ maxAttempts
  sentLast : (w.resends m).Pairwise fun earlier _ =>
    ∀ log ∈ w.db.logs.rows earlier.log, log.status ≠ .sent

/-! ## Runs -/

/-- A run of `retry_failed`, or a message that somebody else sends. -/
inductive SmsAction where
  | retryFailed (env : SmsEnv)
  | send (env : SmsEnv) (args : SmsArguments)

/-- Only `retry_failed` writes the keys of a resend. -/
def smsStep (maxAttempts : ℕ) (w : SmsWorld) : SmsAction → Option SmsWorld
  | .retryFailed env => some (retryFailed env maxAttempts w).2
  | .send env args =>
    if args.metadata.get "retry_of" = none ∧ args.metadata.get "retry_count" = none then
      some (sendSms env args w).2
    else none

/-- No row that is sent again was sent again before. -/
def SmsAction.TakesNew (maxAttempts : ℕ) (w : SmsWorld) : SmsAction → Prop
  | .retryFailed _ => ∀ e ∈ w.db.failedLogs, e.2.generation < maxAttempts → ¬HasResend w.db.logs e.1
  | .send .. => True

instance (maxAttempts : ℕ) (w : SmsWorld) :
    (action : SmsAction) → Decidable (action.TakesNew maxAttempts w)
  | .retryFailed _ => inferInstanceAs (Decidable (∀ e ∈ _, _ → _))
  | .send .. => inferInstanceAs (Decidable True)

/-- There were no resends so far, and what the provider got from here on is counted. -/
structure SmsWorld.IsFresh (w : SmsWorld) : Prop where
  original : ∀ i, ∀ log ∈ w.db.logs.rows i, log.IsOriginal
  handed : w.ext = []

/-! ## Chains -/

section Chains

variable {logs : Table SMSLog} {row : SMSLog} {i j p : ℕ}

/-- A resend is younger than the row that it resends. -/
def IsOlder (logs : Table SMSLog) : Prop := ∀ i p, parentOf logs i = some p → p < i

theorem parentOf_of_row {log : SMSLog} (h : logs.rows i = some log) :
    parentOf logs i = log.retryOf := by rw [parentOf, h, Option.bind_some]

/-- More steps than the key of the row change nothing. -/
theorem originOf_eq (h : IsOlder logs) {fuel : ℕ} (hi : i ≤ fuel) :
    originOf logs fuel i = origin logs i := by
  have hmore : ∀ fuel more i, i ≤ fuel → originOf logs (fuel + more) i = originOf logs fuel i := by
    intro fuel more
    induction fuel with
    | zero =>
      intro i hi
      obtain rfl := Nat.le_zero.1 hi
      cases more with
      | zero => rfl
      | succ more =>
        show (parentOf logs 0).elim 0 _ = 0
        cases hp : parentOf logs 0 with
        | none => rfl
        | some p => exact absurd (h 0 p hp) (Nat.not_lt_zero p)
    | succ fuel ih =>
      intro i hi
      rw [Nat.add_right_comm]
      show (parentOf logs i).elim i _ = (parentOf logs i).elim i _
      cases hp : parentOf logs i with
      | none => rfl
      | some p => exact ih p (by have := h i p hp; omega)
  obtain ⟨more, rfl⟩ := Nat.exists_eq_add_of_le hi
  exact hmore i more i le_rfl

theorem origin_of_parentOf_eq_none (h : parentOf logs i = none) : origin logs i = i := by
  unfold origin
  cases i with
  | zero => rfl
  | succ i =>
    show (parentOf logs (i + 1)).elim _ _ = _
    rw [h, Option.elim_none]

/-- A resend goes back to what the row goes back to that it resends. -/
theorem origin_of_parentOf_eq_some (hlogs : IsOlder logs) (h : parentOf logs i = some p) :
    origin logs i = origin logs p := by
  have hlt := hlogs i p h
  cases i with
  | zero => exact absurd hlt (Nat.not_lt_zero p)
  | succ i =>
    show (parentOf logs (i + 1)).elim _ _ = _
    rw [h, Option.elim_some]
    exact originOf_eq hlogs (Nat.lt_succ_iff.1 hlt)

theorem origin_le (hlogs : IsOlder logs) (i : ℕ) : origin logs i ≤ i := by
  induction i using Nat.strong_induction_on with
  | _ i ih =>
    cases hp : parentOf logs i with
    | none => exact (origin_of_parentOf_eq_none hp).le
    | some p =>
      rw [origin_of_parentOf_eq_some hlogs hp]
      exact (ih p (hlogs i p hp)).trans (hlogs i p hp).le

theorem parentOf_insert_self : parentOf (logs.insert row) logs.next = row.retryOf := by
  rw [parentOf, Table.rows_insert_self, Option.bind_some]

theorem parentOf_insert (h : i ≠ logs.next) : parentOf (logs.insert row) i = parentOf logs i := by
  rw [parentOf, Table.rows_insert, if_neg h, parentOf]

/-- A new row changes nothing for the rows before it. -/
theorem origin_insert (hlogs : IsOlder logs) (h : i < logs.next) :
    origin (logs.insert row) i = origin logs i := by
  have hfuel : ∀ fuel i, i < logs.next → originOf (logs.insert row) fuel i = originOf logs fuel i := by
    intro fuel
    induction fuel with
    | zero => exact fun _ _ => rfl
    | succ fuel ih =>
      intro i hi
      show (parentOf _ i).elim i _ = (parentOf _ i).elim i _
      rw [parentOf_insert hi.ne]
      cases hp : parentOf logs i with
      | none => rfl
      | some p => exact ih p ((hlogs i p hp).trans hi)
  exact hfuel i i h

theorem hasResend_iff : HasResend logs i ↔ ∃ j, parentOf logs j = some i := by
  constructor
  · rintro ⟨⟨j, log⟩, hmem, hretry⟩
    exact ⟨j, (parentOf_of_row (Table.mem_entries.1 hmem)).trans hretry⟩
  · rintro ⟨j, hj⟩
    obtain ⟨log, hlog, hretry⟩ := Option.bind_eq_some_iff.1 hj
    exact ⟨(j, log), Table.mem_entries.2 hlog, hretry⟩

/-- A new row is the resend of nothing else. -/
theorem hasResend_insert : HasResend (logs.insert row) i ↔ HasResend logs i ∨ row.retryOf = some i := by
  rw [hasResend_iff, hasResend_iff]
  constructor
  · rintro ⟨j, hj⟩
    by_cases hnext : j = logs.next
    · subst hnext
      exact .inr (parentOf_insert_self.symm.trans hj)
    · exact .inl ⟨j, (parentOf_insert hnext).symm.trans hj⟩
  · rintro (⟨j, hj⟩ | hrow)
    · have hlt : j < logs.next := by
        obtain ⟨log, hlog, -⟩ := Option.bind_eq_some_iff.1 hj
        exact Table.lt_next hlog
      exact ⟨j, (parentOf_insert hlt.ne).trans hj⟩
    · exact ⟨logs.next, parentOf_insert_self.trans hrow⟩

/-- The rows of a message are a chain, in which the count rises; the last one is the one that was
    not sent again. -/
structure Chained (maxAttempts : ℕ) (logs : Table SMSLog) : Prop where
  parent : ∀ i log p, logs.rows i = some log → log.retryOf = some p →
    p < i ∧ (∃ log', logs.rows p = some log' ∧ log'.status ≠ .sent) ∧
      0 < log.generation ∧ log.generation ≤ maxAttempts
  first : ∀ i log, logs.rows i = some log → log.retryOf = none → log.generation = 0
  rising : ∀ i log j log', logs.rows i = some log → logs.rows j = some log' →
    origin logs i = origin logs j → i < j → log.generation < log'.generation
  last : ∀ i log j log', logs.rows i = some log → ¬HasResend logs i → logs.rows j = some log' →
    origin logs j = origin logs i → j ≤ i

namespace Chained

variable {maxAttempts : ℕ}

theorem isOlder (h : Chained maxAttempts logs) : IsOlder logs := by
  intro i p hp
  obtain ⟨log, hlog, hretry⟩ := Option.bind_eq_some_iff.1 hp
  exact (h.parent i log p hlog hretry).1

/-- Of the rows of a message, the one that was not sent again has the largest count. -/
theorem generation_le (h : Chained maxAttempts logs) {log log' : SMSLog}
    (hlog : logs.rows p = some log) (hlast : ¬HasResend logs p) (hlog' : logs.rows j = some log')
    (horigin : origin logs j = origin logs p) : log'.generation ≤ log.generation := by
  rcases (h.last p log j log' hlog hlast hlog' horigin).lt_or_eq with hlt | rfl
  · exact (h.rising j log' p log hlog' hlog horigin hlt).le
  · rw [Option.some.inj (hlog.symm.trans hlog')]

theorem generation_nonneg (h : Chained maxAttempts logs) {log : SMSLog}
    (hlog : logs.rows i = some log) : 0 ≤ log.generation := by
  cases hretry : log.retryOf with
  | none => exact (h.first i log hlog hretry).ge
  | some p => exact (h.parent i log p hlog hretry).2.2.1.le

/-- A new row keeps the chains if it is a new message, or the one resend of a row that was not
    sent, and counts one more than that. -/
theorem insert (h : Chained maxAttempts logs)
    (hparent : ∀ p, row.retryOf = some p → ¬HasResend logs p ∧ row.generation ≤ maxAttempts ∧
      ∃ log, logs.rows p = some log ∧ log.status ≠ .sent ∧ row.generation = log.generation + 1)
    (hfirst : row.retryOf = none → row.generation = 0) : Chained maxAttempts (logs.insert row) := by
  have hold {i : ℕ} (hi : i < logs.next) : origin (logs.insert row) i = origin logs i :=
    origin_insert h.isOlder hi
  have holder : IsOlder (logs.insert row) := by
    intro i p hp
    by_cases hi : i = logs.next
    · subst hi
      obtain ⟨-, -, log, hlog, -⟩ := hparent p (parentOf_insert_self.symm.trans hp)
      exact Table.lt_next hlog
    · exact h.isOlder i p ((parentOf_insert hi).symm.trans hp)
  -- an older row of the message of the new one
  have hfamily {i : ℕ} (hi : i < logs.next)
      (horigin : origin (logs.insert row) i = origin (logs.insert row) logs.next) :
      ∃ p, row.retryOf = some p ∧ origin logs i = origin logs p := by
    cases hretry : row.retryOf with
    | none =>
      rw [hold hi, origin_of_parentOf_eq_none (parentOf_insert_self.trans hretry)] at horigin
      have hle := origin_le h.isOlder i
      omega
    | some p =>
      have hp : parentOf (logs.insert row) logs.next = some p := parentOf_insert_self.trans hretry
      rw [hold hi, origin_of_parentOf_eq_some holder hp, hold (holder _ p hp)] at horigin
      exact ⟨p, rfl, horigin⟩
  constructor
  case parent =>
    intro i log p hlog hretry
    rcases Table.rows_insert_cases hlog with ⟨rfl, rfl⟩ | ⟨hi, hlog⟩
    · obtain ⟨-, hle, log', hlog', hsent, hcount⟩ := hparent p hretry
      have hnonneg := h.generation_nonneg hlog'
      exact ⟨Table.lt_next hlog', ⟨log', Table.rows_insert_of_some _ hlog', hsent⟩, by omega, hle⟩
    · obtain ⟨hlt, ⟨log', hlog', hsent⟩, hcount⟩ := h.parent i log p hlog hretry
      exact ⟨hlt, ⟨log', Table.rows_insert_of_some _ hlog', hsent⟩, hcount⟩
  case first =>
    intro i log hlog hretry
    rcases Table.rows_insert_cases hlog with ⟨rfl, rfl⟩ | ⟨hi, hlog⟩
    · exact hfirst hretry
    · exact h.first i log hlog hretry
  case rising =>
    intro i log j log' hlog hlog' horigin hlt
    rcases Table.rows_insert_cases hlog with ⟨rfl, rfl⟩ | ⟨hi, hi'⟩
    · have hj := Table.lt_next hlog'
      rw [Table.next_insert] at hj
      omega
    · rcases Table.rows_insert_cases hlog' with ⟨rfl, rfl⟩ | ⟨hj, hj'⟩
      · obtain ⟨p, hretry, hp⟩ := hfamily hi horigin
        obtain ⟨hlast, -, log₁, hlog₁, -, hcount⟩ := hparent p hretry
        have hle := h.generation_le hlog₁ hlast hi' hp
        omega
      · rw [hold hi, hold hj] at horigin
        exact h.rising i log j log' hi' hj' horigin hlt
  case last =>
    intro i log j log' hlog hlast hlog' horigin
    rw [hasResend_insert, not_or] at hlast
    rcases Table.rows_insert_cases hlog with ⟨rfl, rfl⟩ | ⟨hi, hi'⟩
    · exact Nat.lt_succ_iff.1 (Table.lt_next hlog')
    · rcases Table.rows_insert_cases hlog' with ⟨rfl, rfl⟩ | ⟨hj, hj'⟩
      · -- the new row follows the last one of its message
        obtain ⟨p, hretry, hp⟩ := hfamily hi horigin.symm
        obtain ⟨hplast, -, log₁, hlog₁, -⟩ := hparent p hretry
        have hle := h.last p log₁ i log hlog₁ hplast hi' hp
        have hge := h.last i log p log₁ hi' hlast.1 hlog₁ hp.symm
        exact absurd (le_antisymm hge hle ▸ hretry) hlast.2
      · rw [hold hi, hold hj] at horigin
        exact h.last i log j log' hi' hlast.1 hj' horigin

end Chained

/-- Numbers that rise from one on are no more than the last of them. -/
theorem length_le_of_rising {numbers : List ℤ} {n : ℕ} (hrising : numbers.Pairwise (· < ·))
    (hbounds : ∀ k ∈ numbers, 0 < k ∧ k ≤ n) : numbers.length ≤ n := by
  have hnodup : numbers.Nodup := hrising.imp fun h => h.ne
  have hsubset : numbers.toFinset ⊆ Finset.Icc 1 (n : ℤ) := by
    intro k hk
    obtain ⟨hpos, hle⟩ := hbounds k (List.mem_toFinset.1 hk)
    exact Finset.mem_Icc.2 ⟨hpos, hle⟩
  calc numbers.length = numbers.toFinset.card := (List.toFinset_card_of_nodup hnodup).symm
    _ ≤ (Finset.Icc 1 (n : ℤ)).card := Finset.card_le_card hsubset
    _ = n := by simp

end Chains

/-! ## Steps -/

section Steps

variable {maxAttempts : ℕ} {w w' : SmsWorld}

/-- The chains, and what the provider got: each row once, the older ones first. -/
structure SmsWorld.IsChained (maxAttempts : ℕ) (w : SmsWorld) : Prop where
  chained : Chained maxAttempts w.db.logs
  rising : w.ext.Pairwise fun h h' => h.log < h'.log
  written : ∀ h ∈ w.ext, ∃ log, w.db.logs.rows h.log = some log

/-- A chain has no more resends than its largest count, and one that was sent is the last one. -/
theorem SmsWorld.IsChained.isBounded (h : w.IsChained maxAttempts) (m : ℕ) :
    w.IsBounded maxAttempts m := by
  have hmem {a : Handover} (ha : a ∈ w.resends m) :
      a ∈ w.ext ∧ a.log ≠ m ∧ origin w.db.logs a.log = m := by
    obtain ⟨hext, hof⟩ := List.mem_filter.1 ha
    exact ⟨hext, of_decide_eq_true hof⟩
  have hpairs : (w.resends m).Pairwise fun a b => a.log < b.log := h.rising.filter _
  let count (a : Handover) : ℤ := (w.db.logs.rows a.log).elim 0 SMSLog.generation
  have hcount {a : Handover} {log : SMSLog} (hlog : w.db.logs.rows a.log = some log) :
      count a = log.generation := by
    show (w.db.logs.rows a.log).elim 0 _ = _
    rw [hlog, Option.elim_some]
  constructor
  · rw [← List.length_map count]
    refine length_le_of_rising (List.pairwise_map.2 (hpairs.imp_of_mem ?_)) ?_
    · intro a b ha hb hlt
      obtain ⟨hext, -, horigin⟩ := hmem ha
      obtain ⟨hext', -, horigin'⟩ := hmem hb
      obtain ⟨log, hlog⟩ := h.written a hext
      obtain ⟨log', hlog'⟩ := h.written b hext'
      rw [hcount hlog, hcount hlog']
      exact h.chained.rising a.log log b.log log' hlog hlog' (horigin.trans horigin'.symm) hlt
    · intro k hk
      obtain ⟨a, ha, rfl⟩ := List.mem_map.1 hk
      obtain ⟨hext, hne, horigin⟩ := hmem ha
      obtain ⟨log, hlog⟩ := h.written a hext
      rw [hcount hlog]
      cases hretry : log.retryOf with
      | none =>
        have hself := origin_of_parentOf_eq_none ((parentOf_of_row hlog).trans hretry)
        exact absurd (hself.symm.trans horigin) hne
      | some p => exact (h.chained.parent a.log log p hlog hretry).2.2
  · refine hpairs.imp_of_mem fun {a b} ha hb hlt log hlog hsent => ?_
    obtain ⟨-, -, horigin⟩ := hmem ha
    obtain ⟨hext', -, horigin'⟩ := hmem hb
    obtain ⟨log', hlog'⟩ := h.written b hext'
    have hlast : ¬HasResend w.db.logs a.log := by
      rw [hasResend_iff]
      rintro ⟨j, hj⟩
      obtain ⟨row, hrow, hretry⟩ := Option.bind_eq_some_iff.1 hj
      obtain ⟨-, ⟨log₁, hlog₁, hne⟩, -⟩ := h.chained.parent j row a.log hrow hretry
      obtain rfl := Option.some.inj (hlog₁.symm.trans hlog)
      exact hne hsent
    have hle := h.chained.last a.log log b.log log' hlog hlast hlog' (horigin'.trans horigin.symm)
    omega

/-- A message that is sent keeps the chains if its row does. -/
theorem SmsWorld.IsChained.sends (h : w.IsChained maxAttempts) {args : SmsArguments} {row : SMSLog}
    (hsends : Sends args w w' row) (hchained : Chained maxAttempts (w.db.logs.insert row)) :
    w'.IsChained maxAttempts := by
  have hrow {a : Handover} (ha : a ∈ w.ext) : ∃ log, w'.db.logs.rows a.log = some log := by
    obtain ⟨log, hlog⟩ := h.written a ha
    exact ⟨log, hsends.logs ▸ Table.rows_insert_of_some row hlog⟩
  refine ⟨hsends.logs ▸ hchained, ?_, ?_⟩
  · rcases hsends.handed with hext | hext
    · exact hext ▸ h.rising
    · rw [hext, List.pairwise_append]
      refine ⟨h.rising, List.pairwise_singleton _ _, fun a ha b hb => ?_⟩
      obtain rfl := List.mem_singleton.1 hb
      obtain ⟨log, hlog⟩ := h.written a ha
      exact Table.lt_next hlog
  · intro a ha
    rcases hsends.handed with hext | hext
    · exact hrow (hext ▸ ha)
    · rw [hext, List.mem_append, List.mem_singleton] at ha
      rcases ha with ha | rfl
      · exact hrow ha
      · exact ⟨row, hsends.logs ▸ Table.rows_insert_self w.db.logs row⟩

/-- A message of somebody else is no resend. -/
theorem Sends.original {args : SmsArguments} {row : SMSLog} (h : Sends args w w' row)
    (hof : args.metadata.get "retry_of" = none) (hcount : args.metadata.get "retry_count" = none) :
    row.IsOriginal := by
  rw [SMSLog.IsOriginal, h.metadata, args.get_fullMetadata (by decide),
    args.get_fullMetadata (by decide)]
  exact ⟨hof, hcount⟩

theorem SMSLog.IsOriginal.retryOf {log : SMSLog} (h : log.IsOriginal) : log.retryOf = none := by
  rw [SMSLog.retryOf, h.1]

theorem SMSLog.IsOriginal.generation {log : SMSLog} (h : log.IsOriginal) : log.generation = 0 := by
  rw [SMSLog.generation, SMSLog.retryCount, h.2]
  rfl

/-- The row of a resend. -/
theorem Sends.resend {log row : SMSLog} {pk : ℕ} {attempts : ℤ}
    (h : Sends (log.resend pk attempts) w w' row) :
    row.retryOf = some pk ∧ row.generation = attempts + 1 := by
  have hof : row.metadata.get "retry_of" = some (.int pk) := by
    rw [h.metadata, SmsArguments.get_fullMetadata _ (by decide)]
    exact (Metadata.get_set _ _ _ _).trans (if_pos rfl)
  have hcount : row.metadata.get "retry_count" = some (.int (attempts + 1)) := by
    rw [h.metadata, SmsArguments.get_fullMetadata _ (by decide)]
    refine (Metadata.get_set _ _ _ _).trans ((if_neg (by decide)).trans ?_)
    exact (Metadata.get_set _ _ _ _).trans (if_pos rfl)
  constructor
  · rw [SMSLog.retryOf, hof]
    rfl
  · rw [SMSLog.generation, SMSLog.retryCount, hcount]
    rfl

/-- What a loop over failed rows relies on: they are there, they were not sent again yet, and none
    of them comes twice. -/
structure SmsWorld.Retries (maxAttempts : ℕ) (rest : List (ℕ × SMSLog)) (w : SmsWorld) : Prop where
  isChained : w.IsChained maxAttempts
  nodup : (rest.map Prod.fst).Nodup
  failed : ∀ e ∈ rest, w.db.logs.rows e.1 = some e.2 ∧ e.2.status = .failed
  new : ∀ e ∈ rest, e.2.generation < maxAttempts → ¬HasResend w.db.logs e.1

theorem SmsWorld.Retries.tail {e : ℕ × SMSLog} {rest : List (ℕ × SMSLog)}
    (h : w.Retries maxAttempts (e :: rest)) : w.Retries maxAttempts rest where
  isChained := h.isChained
  nodup := (List.nodup_cons.1 h.nodup).2
  failed e' he' := h.failed e' (List.mem_cons_of_mem e he')
  new e' he' := h.new e' (List.mem_cons_of_mem e he')

/-- One failed row is sent again. -/
theorem SmsWorld.Retries.sends {pk : ℕ} {log row : SMSLog} {rest : List (ℕ × SMSLog)}
    (h : w.Retries maxAttempts ((pk, log) :: rest)) {attempts : ℤ}
    (hattempts : log.retryCount = .ok attempts) (hlt : attempts < maxAttempts)
    (hsends : Sends (log.resend pk attempts) w w' row) : w'.Retries maxAttempts rest := by
  obtain ⟨hretry, hcount⟩ := hsends.resend
  have hgeneration : log.generation = attempts := by rw [SMSLog.generation, hattempts]; rfl
  have hmem : (pk, log) ∈ (pk, log) :: rest := List.mem_cons_self
  obtain ⟨hlog, hfailed⟩ := h.failed _ hmem
  have hchained : Chained maxAttempts (w.db.logs.insert row) := by
    refine h.isChained.chained.insert ?_ fun hnone => nomatch hretry.symm.trans hnone
    intro p hp
    obtain rfl := Option.some.inj (hretry.symm.trans hp)
    refine ⟨h.new _ hmem (hgeneration ▸ hlt), by omega, log, hlog, ?_, by rw [hcount, hgeneration]⟩
    exact fun hsent => nomatch hfailed.symm.trans hsent
  have htail := h.tail
  refine ⟨h.isChained.sends hsends hchained, htail.nodup, fun e he => ?_, fun e he hle => ?_⟩
  · obtain ⟨hrow, hstatus⟩ := htail.failed e he
    exact ⟨hsends.logs ▸ Table.rows_insert_of_some row hrow, hstatus⟩
  · -- the resend is of another row than the ones that are left
    have hne : pk ≠ e.1 := fun heq =>
      (List.nodup_cons.1 h.nodup).1 (List.mem_map.2 ⟨e, he, heq.symm⟩)
    rw [hsends.logs, hasResend_insert, hretry]
    rintro (hold | hself)
    · exact htail.new e he hle hold
    · exact hne (Option.some.inj hself)

theorem retryLog_spec (env : SmsEnv) (retried : ℕ) (e : ℕ × SMSLog) (rest : List (ℕ × SMSLog))
    (w : SmsWorld) (h : w.Retries maxAttempts (e :: rest)) :
    (retryLog env maxAttempts retried e).wp (fun _ => SmsWorld.Retries maxAttempts rest)
      (fun _ => SmsWorld.IsChained maxAttempts) w := by
  obtain ⟨pk, log⟩ := e
  unfold retryLog
  refine Tx.wp_bind.2 (Tx.wp_ofExcept.2 ⟨fun attempts hattempts => ?_, fun _ _ => h.isChained⟩)
  refine Tx.wp_ite.2 ⟨fun _ => h.tail, fun hle => ?_⟩
  refine Tx.wp_seq (sendSms_spec env (log.resend pk attempts) w) ?_ fun _ _ hnever => hnever.elim
  rintro result w' ⟨row, hsends⟩
  exact h.sends hattempts (not_le.1 hle) hsends

/-- A run of `retry_failed` that takes no row twice keeps the chains. -/
theorem isChained_retryFailed (env : SmsEnv) (h : w.IsChained maxAttempts)
    (hnew : (SmsAction.retryFailed env).TakesNew maxAttempts w) :
    SmsWorld.IsChained maxAttempts (retryFailed env maxAttempts w).2 := by
  have hretries : w.Retries maxAttempts w.db.failedLogs := by
    have hsublist : List.Sublist w.db.failedLogs _ := List.take_sublist _ _
    have hperm := List.mergeSort_perm
      (w.db.logs.filter fun log => decide (log.status = .failed))
      fun e e' => decide (e.2.createdAt ≤ e'.2.createdAt)
    refine ⟨h, ?_, fun e he => ?_, hnew⟩
    · refine List.Nodup.sublist (hsublist.map Prod.fst) ?_
      exact (hperm.map Prod.fst).nodup_iff.2 (Table.nodup_filter _ _)
    · obtain ⟨hrow, hfailed⟩ := Table.mem_filter.1 (hperm.subset (hsublist.subset he))
      exact ⟨hrow, of_decide_eq_true hfailed⟩
  have hloop := Tx.wp_foldlM (fun retried e rest v => retryLog_spec env retried e rest v) 0 hretries
  have hspec : (retryFailed env maxAttempts).wp (fun _ => SmsWorld.IsChained maxAttempts)
      (fun _ => SmsWorld.IsChained maxAttempts) w :=
    Tx.wp_bind.2 (Tx.wp_getDb.2 (Tx.wp_mono hloop (fun _ _ h' => h'.isChained) fun _ _ h' => h'))
  unfold Tx.wp at hspec
  split at hspec
  next hrun => exact hrun ▸ hspec
  next hrun => exact hrun ▸ hspec

theorem SmsWorld.IsFresh.isChained (h : w.IsFresh) : w.IsChained maxAttempts := by
  have hself {i : ℕ} {log : SMSLog} (hlog : w.db.logs.rows i = some log) :
      origin w.db.logs i = i :=
    origin_of_parentOf_eq_none ((parentOf_of_row hlog).trans (h.original i log hlog).retryOf)
  refine ⟨⟨?_, ?_, ?_, ?_⟩, h.handed ▸ .nil, fun a ha => nomatch h.handed ▸ ha⟩
  · intro i log p hlog hretry
    exact nomatch (h.original i log hlog).retryOf.symm.trans hretry
  · exact fun i log hlog _ => (h.original i log hlog).generation
  · intro i log j log' hlog hlog' horigin hlt
    exact absurd ((hself hlog).symm.trans (horigin.trans (hself hlog'))) hlt.ne
  · intro i log j log' hlog _ hlog' horigin
    exact ((hself hlog').symm.trans (horigin.trans (hself hlog))).le

theorem SmsWorld.IsChained.step (h : w.IsChained maxAttempts) {action : SmsAction}
    (hnew : action.TakesNew maxAttempts w) (hstep : smsStep maxAttempts w action = some w') :
    w'.IsChained maxAttempts := by
  cases action with
  | retryFailed env =>
    obtain rfl := Option.some.inj hstep
    exact isChained_retryFailed env h hnew
  | send env args =>
    obtain ⟨⟨hof, hcount⟩, hw'⟩ := Option.ite_none_right_eq_some.1 hstep
    obtain rfl := Option.some.inj hw'
    have hspec := sendSms_spec env args w
    unfold Tx.wp at hspec
    split at hspec
    next hrun =>
      obtain ⟨row, hsends⟩ := hspec
      have horiginal := hsends.original hof hcount
      rw [hrun]
      exact h.sends hsends (h.chained.insert
        (fun p hp => nomatch horiginal.retryOf.symm.trans hp) fun _ => horiginal.generation)
    next => exact hspec.elim

end Steps

/-- If no run of `retry_failed` takes a row that was sent again before, no message is sent again
    more than so many times, and none after a resend of it was sent. -/
theorem isBounded_of_takesNew (maxAttempts : ℕ) (start : SmsWorld) (run : List SmsAction)
    (hstart : start.IsFresh)
    (h : Guarded (smsStep maxAttempts) (SmsAction.TakesNew maxAttempts) start run) :
    Throughout (smsStep maxAttempts) (fun w => ∀ m, SmsWorld.IsBounded maxAttempts w m) start run :=
  (h.throughout (fun _ _ _ hs hnew hstep => SmsWorld.IsChained.step hs hnew hstep)
    hstart.isChained).mono fun _ hs => SmsWorld.IsChained.isBounded hs

/-- The provider refuses the first message that it gets, and no other. -/
def refusingFirst : SmsEnv where
  current := minutes 720
  answer handed := .ok { success := decide (handed.length ≠ 1) }

/-- One message, which the provider gets twice. -/
theorem isBounded_of_takesNew_once :
    Throughout (smsStep 3) (fun w => ∀ m, SmsWorld.IsBounded 3 w m) ⟨{}, []⟩
      [.send refusingFirst { recipient := "09121234567", message := "hello" },
        .retryFailed refusingFirst] :=
  isBounded_of_takesNew 3 ⟨{}, []⟩ _ ⟨nofun, rfl⟩ (by decide +kernel)

/-- Every run of `retry_failed` sends the message again, although the first resend was sent. -/
theorem not_isBounded_twice : ¬∀ (start : SmsWorld) (run : List SmsAction), start.IsFresh →
    Throughout (smsStep 3) (fun w => ∀ m, SmsWorld.IsBounded 3 w m) start run := by
  intro h
  let run : List SmsAction :=
    [.send refusingFirst { recipient := "09121234567", message := "hello" },
      .retryFailed refusingFirst, .retryFailed refusingFirst, .retryFailed refusingFirst,
      .retryFailed refusingFirst]
  obtain ⟨w, hw, hmany⟩ : ∃ w, run.foldlM (smsStep 3) ⟨{}, []⟩ = some w ∧
      (SmsWorld.resends w 0).length = 4 := Option.map_eq_some_iff.1 (by decide +kernel)
  have hbounded := ((h ⟨{}, []⟩ run ⟨nofun, rfl⟩).last hw 0).atMost
  omega

end Crumbs
