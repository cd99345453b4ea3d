import Crumbs.Db.Runs
import Crumbs.Orders.Checkout

/-!
# Daily Numbers under Concurrency

The orders of a day are numbered one after another: a checkout locks an order of the day, reads the
largest number there is, and saves the one after it, which it keeps from other readers until it
commits. On a day without orders there is nothing to lock. Two checkouts then save the same number,
the second runs into the unique constraint, and after that its transaction takes no more queries.

## Contents

- `Allocation`: how far the call of a checkout has come
- `Day`: the numbers that were committed, and the calls
- `DayAction`, `Day.step`: the statements of `assign_daily_sequence`, one at a time
- `DayAction.ReadsAlone`: nobody else has read the largest number and not committed yet
- `isNumbered_of_readsAlone`: then every checkout gets a number of its own
- `readsAlone_of_locks`: the lock sees to it if it is always the same order that is locked
-/

namespace Crumbs

open Crumbs.Db

/-! ## Calls -/

/-- `MAX_ALLOCATION_RETRIES` -/
def maxAllocationRetries : ℕ := 5

/-- What Django answers to a query after an error in the same `atomic` block. -/
def transactionManagementError : Exn := .builtinError
  "An error occurred in the current transaction. You can't execute queries until the end of the 'atomic' block."

/-- How far a checkout has come with its number. `row` is the number of the order that it holds a
    lock on. -/
inductive Allocation where
  /-- Before an attempt; an error in the transaction is `broken`. -/
  | trying (attempt : ℕ) (broken : Bool)
  | refreshed (attempt : ℕ)
  | locked (attempt : ℕ) (row : Option ℕ)
  | read (attempt : ℕ) (row : Option ℕ) (nextSequence : ℕ)
  | saved (row : Option ℕ) (sequence : ℕ)
  | committed (sequence : ℕ)
  /-- The checkout has failed for a reason of its own. -/
  | rolledBack
  | failed (exn : Exn)
  deriving DecidableEq, Repr

namespace Allocation

/-- The order that is locked. -/
def row : Allocation → Option ℕ
  | locked _ row | read _ row _ | saved row _ => row
  | _ => none

/-- The number that the order has. -/
def sequence : Allocation → Option ℕ
  | saved _ sequence | committed sequence => some sequence
  | _ => none

/-- The number that the order will have if its checkout commits. -/
def pending : Allocation → Option ℕ
  | saved _ sequence => some sequence
  | _ => none

/-- The largest number was read, and the transaction goes on. -/
def hasRead : Allocation → Bool
  | read .. | saved .. => true
  | _ => false

theorem hasRead_of_pending {call : Allocation} {n : ℕ} (h : call.pending = some n) :
    call.hasRead := by
  cases call with
  | saved => rfl
  | _ => exact nomatch h

/-- The transaction has ended. -/
def isOver : Allocation → Bool
  | committed _ | rolledBack | failed _ => true
  | _ => false

end Allocation

/-! ## A day -/

variable {ι : Type}

/-- The numbers of the committed orders of the day, and the checkouts of the day. -/
structure Day (ι : Type) where
  taken : List ℕ
  calls : ι → Allocation

/-- The next statement of a call. -/
inductive DayAction (ι : Type) where
  | refresh (u : ι)
  | lock (u : ι) (row : Option ℕ)
  | readMax (u : ι)
  | save (u : ι)
  | commit (u : ι)
  | rollBack (u : ι)

namespace Day

/-- No checkout has begun with its number. -/
def start (ι : Type) (taken : List ℕ) : Day ι where
  taken
  calls _ := .trying 0 false

variable [DecidableEq ι]

def setCall (s : Day ι) (u : ι) (call : Allocation) : Day ι :=
  { s with calls := Function.update s.calls u call }

@[simp] theorem taken_setCall (s : Day ι) (u : ι) (call : Allocation) :
    (s.setCall u call).taken = s.taken := rfl

@[simp] theorem calls_setCall_self (s : Day ι) (u : ι) (call : Allocation) :
    (s.setCall u call).calls u = call := Function.update_self ..

theorem calls_setCall_ne (s : Day ι) {u v : ι} (call : Allocation) (h : v ≠ u) :
    (s.setCall u call).calls v = s.calls v := Function.update_of_ne h ..

/-- `select_for_update().exists()` locks the one row that it looks at, if there is one, once nobody
    else holds a lock on it. -/
def MayLock (s : Day ι) (u : ι) (row : Option ℕ) : Prop :=
  (∀ v, v ≠ u → row ≠ none → (s.calls v).row ≠ row) ∧
    match row with
    | none => s.taken = []
    | some n => n ∈ s.taken

/-- A save waits for the others that have saved the same number. -/
def MaySave (s : Day ι) (u : ι) (sequence : ℕ) : Prop :=
  ∀ v, v ≠ u → (s.calls v).pending ≠ some sequence

variable [Fintype ι]

instance (s : Day ι) (u : ι) (row : Option ℕ) : Decidable (s.MayLock u row) :=
  match row with
  | none => inferInstanceAs (Decidable (_ ∧ s.taken = []))
  | some n => inferInstanceAs (Decidable (_ ∧ n ∈ s.taken))

instance (s : Day ι) (u : ι) (sequence : ℕ) : Decidable (s.MaySave u sequence) :=
  inferInstanceAs (Decidable (∀ v, v ≠ u → _))

/-- The head of the loop, and `refresh_from_db`, the first query of an attempt. -/
def tries (attempt : ℕ) (broken : Bool) : Allocation :=
  if maxAllocationRetries ≤ attempt then
    .failed (.checkoutError "Unable to assign a daily order number.")
  else if broken then .failed transactionManagementError
  else .refreshed attempt

/-- What a call may do next, one statement at a time. A statement that has to wait does not happen
    yet. -/
def step (s : Day ι) : DayAction ι → Option (Day ι)
  | .refresh u =>
    match s.calls u with
    | .trying attempt broken => some (s.setCall u (tries attempt broken))
    | _ => none
  | .lock u row =>
    match s.calls u with
    | .refreshed attempt => if s.MayLock u row then some (s.setCall u (.locked attempt row)) else none
    | _ => none
  -- only committed orders are seen
  | .readMax u =>
    match s.calls u with
    | .locked attempt row => some (s.setCall u (.read attempt row (nextSequence s.taken)))
    | _ => none
  -- a number that was committed meanwhile violates the constraint, and the loop goes on
  | .save u =>
    match s.calls u with
    | .read attempt row sequence =>
      if sequence ∈ s.taken then some (s.setCall u (.trying (attempt + 1) true))
      else if s.MaySave u sequence then some (s.setCall u (.saved row sequence))
      else none
    | _ => none
  | .commit u =>
    match s.calls u with
    | .saved _ sequence =>
      some { s.setCall u (.committed sequence) with taken := s.taken ++ [sequence] }
    | _ => none
  | .rollBack u => if (s.calls u).isOver then none else some (s.setCall u .rolledBack)

/-- What a step does, and when. -/
theorem step_cases {s s' : Day ι} {action : DayAction ι} (h : s.step action = some s') :
    match action with
    | .refresh u => ∃ attempt broken, s.calls u = .trying attempt broken ∧
        s' = s.setCall u (tries attempt broken)
    | .lock u row => ∃ attempt, s.calls u = .refreshed attempt ∧ s.MayLock u row ∧
        s' = s.setCall u (.locked attempt row)
    | .readMax u => ∃ attempt row, s.calls u = .locked attempt row ∧
        s' = s.setCall u (.read attempt row (nextSequence s.taken))
    | .save u => ∃ attempt row sequence, s.calls u = .read attempt row sequence ∧
        (sequence ∈ s.taken ∧ s' = s.setCall u (.trying (attempt + 1) true) ∨
          sequence ∉ s.taken ∧ s.MaySave u sequence ∧ s' = s.setCall u (.saved row sequence))
    | .commit u => ∃ row sequence, s.calls u = .saved row sequence ∧
        s' = { s.setCall u (.committed sequence) with taken := s.taken ++ [sequence] }
    | .rollBack u => ¬(s.calls u).isOver ∧ s' = s.setCall u .rolledBack := by
  cases action with
  | refresh u =>
    simp only [step] at h
    split at h
    · next attempt broken hcall => exact ⟨attempt, broken, hcall, (Option.some.inj h).symm⟩
    · exact (Option.some_ne_none _ h.symm).elim
  | lock u row =>
    simp only [step] at h
    split at h
    · next attempt hcall =>
      obtain ⟨hmay, hs'⟩ := Option.ite_none_right_eq_some.1 h
      exact ⟨attempt, hcall, hmay, (Option.some.inj hs').symm⟩
    · exact (Option.some_ne_none _ h.symm).elim
  | readMax u =>
    simp only [step] at h
    split at h
    · next attempt row hcall => exact ⟨attempt, row, hcall, (Option.some.inj h).symm⟩
    · exact (Option.some_ne_none _ h.symm).elim
  | save u =>
    simp only [step] at h
    split at h
    · next attempt row sequence hcall =>
      refine ⟨attempt, row, sequence, hcall, ?_⟩
      split at h
      · next htaken => exact .inl ⟨htaken, (Option.some.inj h).symm⟩
      · next hnew =>
        obtain ⟨hmay, hs'⟩ := Option.ite_none_right_eq_some.1 h
        exact .inr ⟨hnew, hmay, (Option.some.inj hs').symm⟩
    · exact (Option.some_ne_none _ h.symm).elim
  | commit u =>
    simp only [step] at h
    split at h
    · next row sequence hcall => exact ⟨row, sequence, hcall, (Option.some.inj h).symm⟩
    · exact (Option.some_ne_none _ h.symm).elim
  | rollBack u =>
    obtain ⟨hover, hs'⟩ := Option.ite_none_left_eq_some.1 h
    exact ⟨hover, (Option.some.inj hs').symm⟩

end Day

/-! ## Numbers -/

/-- The next number is larger than the ones that are taken. -/
theorem lt_nextSequence {taken : List ℕ} {n : ℕ} (h : n ∈ taken) : n < nextSequence taken := by
  obtain ⟨m, hm⟩ := Option.isSome_iff_exists.1 (List.isSome_max?_of_mem h)
  have hle := (List.max?_eq_some_iff.1 hm).2 n h
  rw [nextSequence, hm]
  by_cases hzero : m = 0
  · subst hzero
    rw [Nat.le_zero.1 hle]
    decide
  · rw [Option.filter_some, if_pos (decide_eq_true hzero)]
    exact Nat.lt_succ_of_le hle

theorem nextSequence_not_mem (taken : List ℕ) : nextSequence taken ∉ taken := fun h =>
  (lt_nextSequence h).ne rfl

section Numbers

variable [DecidableEq ι] {s s' : Day ι} {u : ι}

/-- Every checkout that has come to its end has a number, unless it failed for a reason of its own;
    no two orders of the day have the same number. -/
structure Day.IsNumbered (s : Day ι) : Prop where
  gets : ∀ u, (s.calls u).isOver → s.calls u = .rolledBack ∨ ∃ n, (s.calls u).sequence = some n
  distinct : ∀ u v n, (s.calls u).sequence = some n → (s.calls v).sequence = some n → u = v
  fresh : ∀ u n, (s.calls u).pending = some n → n ∉ s.taken
  nodup : s.taken.Nodup

/-- Nobody else has read the largest number and is still to commit. -/
def DayAction.ReadsAlone (s : Day ι) : DayAction ι → Prop
  | .readMax u => ∀ v, v ≠ u → (s.calls v).hasRead = false
  | _ => True

/-- Where a call stands if nobody has read the largest number beside another: what it has read is
    still the largest, and it is in its first attempt. -/
def Allocation.Fits (taken : List ℕ) : Allocation → Prop
  | trying attempt broken => attempt = 0 ∧ broken = false
  | read _ _ sequence | saved _ sequence => sequence = nextSequence taken
  | committed sequence => sequence ∈ taken
  | failed _ => False
  | refreshed _ | locked _ _ | rolledBack => True

/-- Nothing changes for a call that has read nothing when a number is taken. -/
theorem Allocation.Fits.append {taken : List ℕ} {n : ℕ} {call : Allocation} (h : call.Fits taken)
    (hread : call.hasRead = false) : call.Fits (taken ++ [n]) := by
  cases call with
  | read | saved => exact nomatch hread
  | committed => exact List.mem_append_left _ h
  | _ => exact h

/-- One checkout at a time is between its reading and its commit. -/
structure Day.OneReads (s : Day ι) : Prop where
  fits : ∀ u, (s.calls u).Fits s.taken
  one : ∀ u v, (s.calls u).hasRead → (s.calls v).hasRead → u = v
  distinct : ∀ u v n, s.calls u = .committed n → s.calls v = .committed n → u = v
  nodup : s.taken.Nodup

omit [DecidableEq ι] in
theorem Day.OneReads.isNumbered (h : s.OneReads) : s.IsNumbered where
  gets u hover := by
    have hfits := h.fits u
    cases hcall : s.calls u with
    | committed n => exact .inr ⟨n, rfl⟩
    | rolledBack => exact .inl rfl
    | failed exn =>
      rw [hcall] at hfits
      exact hfits.elim
    | _ =>
      rw [hcall] at hover
      exact nomatch hover
  distinct u v n hu hv := by
    have hcases {u : ι} (hu : (s.calls u).sequence = some n) :
        (s.calls u).hasRead = true ∧ n = nextSequence s.taken ∨
          s.calls u = .committed n ∧ n ∈ s.taken := by
      have hfits := h.fits u
      cases hcall : s.calls u with
      | saved row sequence =>
        rw [hcall] at hfits hu
        obtain rfl := Option.some.inj hu
        exact .inl ⟨rfl, hfits⟩
      | committed sequence =>
        rw [hcall] at hfits hu
        obtain rfl := Option.some.inj hu
        exact .inr ⟨rfl, hfits⟩
      | _ =>
        rw [hcall] at hu
        exact nomatch hu
    rcases hcases hu with ⟨hread, hnext⟩ | ⟨hcommitted, hmem⟩ <;>
      rcases hcases hv with ⟨hread', hnext'⟩ | ⟨hcommitted', hmem'⟩
    · exact h.one u v hread hread'
    · exact (nextSequence_not_mem s.taken (hnext ▸ hmem')).elim
    · exact (nextSequence_not_mem s.taken (hnext' ▸ hmem)).elim
    · exact h.distinct u v n hcommitted hcommitted'
  fresh u n hpending := by
    have hfits := h.fits u
    cases hcall : s.calls u with
    | saved row sequence =>
      rw [hcall] at hfits hpending
      obtain rfl := Option.some.inj hpending
      rw [show sequence = nextSequence s.taken from hfits]
      exact nextSequence_not_mem s.taken
    | _ =>
      rw [hcall] at hpending
      exact nomatch hpending
  nodup := h.nodup

/-- One call at most stays one call at most. -/
theorem Day.one_setCall {Q : Allocation → Prop} {call : Allocation}
    (h : ∀ v v', Q (s.calls v) → Q (s.calls v') → v = v')
    (hcall : Q call → ∀ v, v ≠ u → ¬Q (s.calls v)) (v v' : ι) (hv : Q ((s.setCall u call).calls v))
    (hv' : Q ((s.setCall u call).calls v')) : v = v' := by
  by_cases hu : v = u <;> by_cases hu' : v' = u
  · exact hu.trans hu'.symm
  · rw [hu, calls_setCall_self] at hv
    rw [calls_setCall_ne s call hu'] at hv'
    exact (hcall hv v' hu' hv').elim
  · rw [calls_setCall_ne s call hu] at hv
    rw [hu', calls_setCall_self] at hv'
    exact (hcall hv' v hu hv).elim
  · rw [calls_setCall_ne s call hu] at hv
    rw [calls_setCall_ne s call hu'] at hv'
    exact h v v' hv hv'

/-- A step that commits nothing. -/
theorem Day.OneReads.setCall (h : s.OneReads) {call : Allocation} (hfits : call.Fits s.taken)
    (hread : call.hasRead → ∀ v, v ≠ u → (s.calls v).hasRead = false)
    (hcommitted : ∀ n, call ≠ .committed n) : (s.setCall u call).OneReads where
  fits v := by
    by_cases hv : v = u
    · subst hv
      rw [Day.calls_setCall_self]
      exact hfits
    · rw [Day.calls_setCall_ne s call hv]
      exact h.fits v
  one := one_setCall (Q := fun call => call.hasRead) h.one fun hread' v hv =>
    Bool.eq_false_iff.1 (hread hread' v hv)
  distinct v v' n := one_setCall (Q := (· = .committed n)) (fun v v' => h.distinct v v' n)
    (fun hcall => (hcommitted n hcall).elim) v v'
  nodup := h.nodup

/-- The reader commits. -/
theorem Day.OneReads.commit (h : s.OneReads) {row : Option ℕ} {n : ℕ}
    (hcall : s.calls u = .saved row n) : Day.OneReads
      { s.setCall u (.committed n) with taken := s.taken ++ [n] } := by
  have hread : (s.calls u).hasRead = true := by rw [hcall]; rfl
  have hnext : n = nextSequence s.taken := by
    have hfits := h.fits u
    rw [hcall] at hfits
    exact hfits
  have hnew : n ∉ s.taken := hnext ▸ nextSequence_not_mem s.taken
  have hquiet {v : ι} (hv : v ≠ u) : (s.calls v).hasRead = false :=
    Bool.eq_false_iff.2 fun hv' => hv (h.one v u hv' hread)
  have hself : (s.setCall u (.committed n)).calls u = .committed n := Day.calls_setCall_self ..
  have hne {v : ι} (hv : v ≠ u) : (s.setCall u (.committed n)).calls v = s.calls v :=
    Day.calls_setCall_ne s _ hv
  have hnone (v : ι) : ((s.setCall u (.committed n)).calls v).hasRead = false := by
    by_cases hv : v = u
    · rw [hv, hself]
      rfl
    · rw [hne hv, hquiet hv]
  have hdiffer {v : ι} (hv : v ≠ u) : s.calls v ≠ .committed n := by
    intro hcommitted
    have hfits := h.fits v
    rw [hcommitted] at hfits
    exact hnew hfits
  constructor
  · intro v
    by_cases hv : v = u
    · subst hv
      change Allocation.Fits _ ((s.setCall v (.committed n)).calls v)
      rw [hself]
      exact List.mem_append_right _ (List.mem_singleton_self n)
    · change Allocation.Fits _ ((s.setCall u (.committed n)).calls v)
      rw [hne hv]
      exact (h.fits v).append (hquiet hv)
  · intro v v' hv
    exact absurd hv (Bool.eq_false_iff.1 (hnone v))
  · intro v v' m hv hv'
    change (s.setCall u (.committed n)).calls v = _ at hv
    change (s.setCall u (.committed n)).calls v' = _ at hv'
    by_cases hu : v = u <;> by_cases hu' : v' = u
    · exact hu.trans hu'.symm
    · rw [hu, hself] at hv
      obtain rfl := Allocation.committed.inj hv
      exact (hdiffer hu' ((hne hu').symm.trans hv')).elim
    · rw [hu', hself] at hv'
      obtain rfl := Allocation.committed.inj hv'
      exact (hdiffer hu ((hne hu).symm.trans hv)).elim
    · exact h.distinct v v' m ((hne hu).symm.trans hv) ((hne hu').symm.trans hv')
  · refine List.nodup_append.2 ⟨h.nodup, List.nodup_singleton n, fun a ha b hb => ?_⟩
    rw [List.mem_singleton.1 hb]
    exact fun hab => hnew (hab ▸ ha)

variable [Fintype ι]

/-- As long as everyone reads alone, one checkout at a time is between its reading and its
    commit. -/
theorem Day.OneReads.step (h : s.OneReads) {action : DayAction ι} (halone : action.ReadsAlone s)
    (hstep : s.step action = some s') : s'.OneReads := by
  have hcases := Day.step_cases hstep
  cases action with
  | refresh u =>
    obtain ⟨attempt, broken, hcall, rfl⟩ := hcases
    have hfits := h.fits u
    rw [hcall] at hfits
    obtain ⟨rfl, rfl⟩ := hfits
    exact h.setCall trivial nofun nofun
  | lock u row =>
    obtain ⟨attempt, -, -, rfl⟩ := hcases
    exact h.setCall trivial nofun nofun
  | readMax u =>
    obtain ⟨attempt, row, -, rfl⟩ := hcases
    exact h.setCall rfl (fun _ => halone) nofun
  | save u =>
    obtain ⟨attempt, row, sequence, hcall, hsaved⟩ := hcases
    have hfits := h.fits u
    rw [hcall] at hfits
    rcases hsaved with ⟨htaken, -⟩ | ⟨-, -, rfl⟩
    · rw [show sequence = nextSequence s.taken from hfits] at htaken
      exact (nextSequence_not_mem s.taken htaken).elim
    · refine h.setCall hfits (fun _ v hv => ?_) nofun
      exact Bool.eq_false_iff.2 fun hread => hv (h.one v u hread (by rw [hcall]; rfl))
  | commit u =>
    obtain ⟨row, sequence, hcall, rfl⟩ := hcases
    exact h.commit hcall
  | rollBack u =>
    obtain ⟨-, rfl⟩ := hcases
    exact h.setCall trivial nofun nofun

/-- The next statement of a call, rather than its end. -/
def DayAction.Proceeds : DayAction ι → Prop
  | rollBack _ => False
  | _ => True

/-- All checkouts have come to their end, or one of them can go on. -/
def Day.GoesOn (s : Day ι) : Prop :=
  (∀ u, (s.calls u).isOver) ∨
    ∃ action : DayAction ι, action.Proceeds ∧ action.ReadsAlone s ∧ (s.step action).isSome

theorem Day.OneReads.goesOn (h : s.OneReads) : s.GoesOn := by
  by_cases hover : ∀ u, (s.calls u).isOver
  · exact .inl hover
  refine .inr ?_
  by_cases hreader : ∃ u, (s.calls u).hasRead
  · obtain ⟨u, hread⟩ := hreader
    have hfits := h.fits u
    cases hcall : s.calls u with
    | read attempt row sequence =>
      rw [hcall] at hfits
      have hnew : sequence ∉ s.taken := by
        rw [show sequence = nextSequence s.taken from hfits]
        exact nextSequence_not_mem s.taken
      have hmay : s.MaySave u sequence := fun v hv hpending =>
        hv (h.one v u (Allocation.hasRead_of_pending hpending) hread)
      refine ⟨.save u, trivial, trivial, ?_⟩
      simp only [Day.step, hcall, if_neg hnew, if_pos hmay]
      rfl
    | saved row sequence =>
      refine ⟨.commit u, trivial, trivial, ?_⟩
      simp only [Day.step, hcall]
      rfl
    | _ =>
      rw [hcall] at hread
      exact nomatch hread
  have hquiet (v : ι) : (s.calls v).hasRead = false :=
    Bool.eq_false_iff.2 fun hread => hreader ⟨v, hread⟩
  by_cases hlocked : ∃ u attempt row, s.calls u = .locked attempt row
  · obtain ⟨u, attempt, row, hcall⟩ := hlocked
    refine ⟨.readMax u, trivial, fun v _ => hquiet v, ?_⟩
    simp only [Day.step, hcall]
    rfl
  -- nobody holds a lock
  have hrow (v : ι) : (s.calls v).row = none := by
    have hquiet := hquiet v
    cases hcall : s.calls v with
    | locked attempt row => exact (hlocked ⟨v, attempt, row, hcall⟩).elim
    | read | saved =>
      rw [hcall] at hquiet
      exact nomatch hquiet
    | _ => rfl
  obtain ⟨u, hover⟩ := not_forall.1 hover
  cases hcall : s.calls u with
  | trying attempt broken =>
    refine ⟨.refresh u, trivial, trivial, ?_⟩
    simp only [Day.step, hcall]
    rfl
  | refreshed attempt =>
    have hmay : s.MayLock u s.taken.head? := by
      refine ⟨fun v _ hne => (hrow v).symm ▸ hne.symm, ?_⟩
      cases htaken : s.taken with
      | nil => rfl
      | cons n rest => exact List.mem_cons_self
    refine ⟨.lock u s.taken.head?, trivial, trivial, ?_⟩
    simp only [Day.step, hcall, if_pos hmay]
    rfl
  | locked attempt row => exact (hlocked ⟨u, attempt, row, hcall⟩).elim
  | read | saved =>
    have hquiet := hquiet u
    rw [hcall] at hquiet
    exact nomatch hquiet
  | committed | rolledBack | failed =>
    rw [hcall] at hover
    exact (hover rfl).elim

end Numbers

/-! ## Runs -/

section Runs

variable [DecidableEq ι] [Fintype ι]

omit [DecidableEq ι] [Fintype ι] in
theorem oneReads_start {taken : List ℕ} (h : taken.Nodup) : (Day.start ι taken).OneReads where
  fits _ := ⟨rfl, rfl⟩
  one _ _ hread := nomatch hread
  distinct _ _ _ hcommitted := nomatch hcommitted
  nodup := h

/-- If no checkout reads the largest number while another one has read it and is still to commit,
    every checkout gets a number of its own, and they never wait for each other for ever. -/
theorem isNumbered_of_readsAlone (taken : List ℕ) (run : List (DayAction ι)) (htaken : taken.Nodup)
    (h : Guarded Day.step DayAction.ReadsAlone (Day.start ι taken) run) :
    Throughout Day.step (fun s => s.IsNumbered ∧ s.GoesOn) (Day.start ι taken) run :=
  (h.throughout (fun _ _ _ hs halone hstep => hs.step halone hstep) (oneReads_start htaken)).mono
    fun _ hs => ⟨hs.isNumbered, hs.goesOn⟩

/-- A checkout that nothing comes between gets the number that `assignDailySequence` gives it. -/
theorem sequence_alone (shop : Shop) (date : Date) (u : ι) {row : Option ℕ}
    (hmay : (Day.start ι (takenSequences shop date)).MayLock u row) :
    ∃ s, [.refresh u, .lock u row, .readMax u, .save u].foldlM Day.step
        (Day.start ι (takenSequences shop date)) = some s ∧
      (s.calls u).sequence = some (nextDailySequence shop date) := by
  let s₀ := Day.start ι (takenSequences shop date)
  let s₁ := s₀.setCall u (.refreshed 0)
  let s₂ := s₁.setCall u (.locked 0 row)
  let s₃ := s₂.setCall u (.read 0 row (nextSequence s₀.taken))
  let s₄ := s₃.setCall u (.saved row (nextSequence s₀.taken))
  have hothers (v : ι) (hv : v ≠ u) : s₃.calls v = .trying 0 false :=
    (Day.calls_setCall_ne s₂ _ hv).trans
      ((Day.calls_setCall_ne s₁ _ hv).trans (Day.calls_setCall_ne s₀ _ hv))
  have hlock : s₁.MayLock u row := by
    refine ⟨fun v hv hne => ?_, hmay.2⟩
    rw [Day.calls_setCall_ne s₀ _ hv]
    exact hmay.1 v hv hne
  have hsave : s₃.MaySave u (nextSequence s₀.taken) := by
    intro v hv
    rw [hothers v hv]
    exact nofun
  have h₁ : s₀.step (.refresh u) = some s₁ := rfl
  have h₂ : s₁.step (.lock u row) = some s₂ := by
    simp only [Day.step, s₁, Day.calls_setCall_self, if_pos hlock]
    rfl
  have h₃ : s₂.step (.readMax u) = some s₃ := by
    simp only [Day.step, s₂, Day.calls_setCall_self]
    rfl
  have h₄ : s₃.step (.save u) = some s₄ := by
    have hnew : nextSequence s₀.taken ∉ s₃.taken := nextSequence_not_mem _
    simp only [Day.step, s₃, Day.calls_setCall_self, if_neg hnew, if_pos hsave]
    rfl
  refine ⟨s₄, ?_, by rw [show s₄.calls u = _ from Day.calls_setCall_self ..]; rfl⟩
  simp only [List.foldlM_cons, List.foldlM_nil, Option.bind_eq_bind]
  rw [show Day.start ι (takenSequences shop date) = s₀ from rfl, h₁, Option.bind_some, h₂,
    Option.bind_some, h₃, Option.bind_some, h₄, Option.bind_some]
  rfl

instance (s : Day ι) : (action : DayAction ι) → Decidable (action.ReadsAlone s)
  | .readMax u => inferInstanceAs (Decidable (∀ v, v ≠ u → _))
  | .refresh _ | .lock _ _ | .save _ | .commit _ | .rollBack _ => inferInstanceAs (Decidable True)

/-- Two checkouts of a day that has an order. The second one gets the lock when the first one
    commits. -/
theorem isNumbered_of_readsAlone_two :
    Throughout Day.step (fun s => s.IsNumbered ∧ s.GoesOn) (Day.start (Fin 2) [101])
      [.refresh 0, .refresh 1, .lock 0 (some 101), .readMax 0, .save 0, .commit 0,
        .lock 1 (some 101), .readMax 1, .save 1, .commit 1] :=
  isNumbered_of_readsAlone [101] _ (List.nodup_singleton 101) (by decide)

/-- The first two checkouts of a day: both are to have the first number. -/
theorem not_isNumbered_first : ¬∀ run : List (DayAction (Fin 2)),
    Throughout Day.step Day.IsNumbered (Day.start (Fin 2) []) run := by
  intro h
  let run : List (DayAction (Fin 2)) := [.refresh 0, .refresh 1, .lock 0 none, .lock 1 none,
    .readMax 0, .readMax 1, .save 0, .commit 0, .save 1, .refresh 1]
  obtain ⟨s, hs, hfailed⟩ : ∃ s, run.foldlM Day.step (Day.start (Fin 2) []) = some s ∧
      s.calls 1 = .failed transactionManagementError := Option.map_eq_some_iff.1 (by decide)
  rcases ((h run).last hs).gets 1 (by rw [hfailed]; rfl) with hrolled | ⟨n, hn⟩
  · exact nomatch hfailed.symm.trans hrolled
  · rw [hfailed] at hn
    exact nomatch hn

end Runs

/-! ## The lock -/

/-- The call has its lock, or has found nothing to lock. -/
def Allocation.isLocked : Allocation → Bool
  | locked .. | read .. | saved .. => true
  | _ => false

/-- The lock is taken on the given order. -/
def DayAction.Locks (n : ℕ) (_ : Day ι) : DayAction ι → Prop
  | .lock _ row => row = some n
  | _ => True

/-- One checkout at a time holds the lock, and only one that does goes on. -/
structure Day.OneHolds (n : ℕ) (s : Day ι) : Prop where
  one : ∀ u v, (s.calls u).row = some n → (s.calls v).row = some n → u = v
  holds : ∀ u, (s.calls u).isLocked → (s.calls u).row = some n

section Lock

variable [DecidableEq ι] {s s' : Day ι} {n : ℕ} {u : ι} {call : Allocation}

theorem Day.OneHolds.setCall (h : s.OneHolds n)
    (hone : call.row = some n → ∀ v, v ≠ u → (s.calls v).row ≠ some n)
    (hholds : call.isLocked → call.row = some n) : (s.setCall u call).OneHolds n where
  one := one_setCall (Q := fun call => call.row = some n) h.one hone
  holds v hv := by
    by_cases hu : v = u
    · subst hu
      rw [calls_setCall_self] at hv ⊢
      exact hholds hv
    · rw [calls_setCall_ne s call hu] at hv ⊢
      exact h.holds v hv

/-- The holder of the lock goes on. -/
theorem Day.OneHolds.keeps (h : s.OneHolds n) (hlocked : (s.calls u).isLocked)
    (hrow : call.row = (s.calls u).row) : (s.setCall u call).OneHolds n := by
  have hholds := h.holds u hlocked
  exact h.setCall (fun _ v hv hv' => hv (h.one v u hv' hholds)) fun _ => hrow.trans hholds

/-- A call without a lock, or one that gives it back. -/
theorem Day.OneHolds.ends (h : s.OneHolds n) (hrow : call.row = none)
    (hlocked : call.isLocked = false) : (s.setCall u call).OneHolds n :=
  h.setCall (fun hn => nomatch hrow.symm.trans hn) fun h' => nomatch hlocked.symm.trans h'

variable [Fintype ι]

theorem Day.OneHolds.step (h : s.OneHolds n) {action : DayAction ι} (hlocks : action.Locks n s)
    (hstep : s.step action = some s') : s'.OneHolds n := by
  have hcases := Day.step_cases hstep
  cases action with
  | refresh u =>
    obtain ⟨attempt, broken, -, rfl⟩ := hcases
    have hends : (tries attempt broken).row = none ∧ (tries attempt broken).isLocked = false := by
      unfold tries
      split
      · exact ⟨rfl, rfl⟩
      · split <;> exact ⟨rfl, rfl⟩
    exact h.ends hends.1 hends.2
  | lock u row =>
    obtain ⟨attempt, -, hmay, rfl⟩ := hcases
    obtain rfl : row = some n := hlocks
    exact h.setCall (fun _ v hv => hmay.1 v hv nofun) fun _ => rfl
  | readMax u =>
    obtain ⟨attempt, row, hcall, rfl⟩ := hcases
    exact h.keeps (by rw [hcall]; rfl) (by rw [hcall]; rfl)
  | save u =>
    obtain ⟨attempt, row, sequence, hcall, ⟨-, rfl⟩ | ⟨-, -, rfl⟩⟩ := hcases
    · exact h.ends rfl rfl
    · exact h.keeps (by rw [hcall]; rfl) (by rw [hcall]; rfl)
  | commit u =>
    obtain ⟨row, sequence, -, rfl⟩ := hcases
    have hends : (s.setCall u (.committed sequence)).OneHolds n := h.ends rfl rfl
    exact ⟨hends.one, hends.holds⟩
  | rollBack u =>
    obtain ⟨-, rfl⟩ := hcases
    exact h.ends rfl rfl

/-- Whoever holds the lock reads alone. -/
theorem Day.OneHolds.readsAlone (h : s.OneHolds n) {action : DayAction ι}
    (hstep : s.step action = some s') : action.ReadsAlone s := by
  have hcases := Day.step_cases hstep
  cases action with
  | readMax u =>
    obtain ⟨attempt, row, hcall, -⟩ := hcases
    refine fun v hv => Bool.eq_false_iff.2 fun hread => hv ?_
    have hlocked : (s.calls v).isLocked := by
      cases hcall : s.calls v with
      | read | saved => rfl
      | _ =>
        rw [hcall] at hread
        exact nomatch hread
    exact h.one v u (h.holds v hlocked) (h.holds u (by rw [hcall]; rfl))
  | _ => trivial

/-- If it is always the same order that is locked, the lock does what it is there for. -/
theorem readsAlone_of_locks (taken : List ℕ) (run : List (DayAction ι))
    (h : Guarded Day.step (DayAction.Locks n) (Day.start ι taken) run) :
    Guarded Day.step DayAction.ReadsAlone (Day.start ι taken) run :=
  h.mono_of_inv (I := Day.OneHolds n) ⟨nofun, nofun⟩ fun _ _ _ hs hlocks hstep =>
    ⟨hs.step hlocks hstep, hs.readsAlone hstep⟩

end Lock

end Crumbs
