import Crumbs.Db.Transaction

/-!
# Messages That Are Sent inside Transactions

A message that a transaction hands to a queue is out, whatever becomes of the transaction. If it
tells of something that the transaction has written, it is right only as long as the transaction
commits: nothing may raise any more once the first message is out.

## Contents

- `Outbox`: the messages that were sent, and what backs a message
- `Outbox.Accounted`: the database backs every message
- `Outbox.Silent`, `Outbox.Accounts`: nothing is sent; what is sent is backed at the end
- `Outbox.Clean`, `Outbox.Sure`: a computation that raises has sent nothing; one that does not raise
- `Outbox.accounted_of_clean`
-/

namespace Crumbs.Db

variable {δ ω μ ε α β : Type}

/-- Where the messages are, and when the database backs a message. -/
structure Outbox (δ ω μ : Type) where
  sent : ω → List μ
  Backs : δ → μ → Prop

namespace Outbox

variable (b : Outbox δ ω μ)

/-- The database backs every message that was sent. -/
def Accounted (w : World δ ω) : Prop := ∀ m ∈ b.sent w.ext, b.Backs w.db m

/-- Nothing is sent, and what was backed stays backed. -/
structure Silent (w w' : World δ ω) : Prop where
  sent : b.sent w'.ext = b.sent w.ext
  backs : ∀ m, b.Backs w.db m → b.Backs w'.db m

/-- What is sent is backed at the end, and what was backed stays backed. -/
structure Accounts (w w' : World δ ω) : Prop where
  sent : ∀ m ∈ b.sent w'.ext, m ∈ b.sent w.ext ∨ b.Backs w'.db m
  backs : ∀ m, b.Backs w.db m → b.Backs w'.db m

variable {b}

theorem Silent.accounts {w w' : World δ ω} (h : b.Silent w w') : b.Accounts w w' where
  sent _ hm := .inl (h.sent ▸ hm)
  backs := h.backs

theorem Accounts.trans {w w' w'' : World δ ω} (h : b.Accounts w w') (h' : b.Accounts w' w'') :
    b.Accounts w w'' where
  sent m hm := by
    rcases h'.sent m hm with hm' | hbacks
    · exact (h.sent m hm').imp_right (h'.backs m)
    · exact .inr hbacks
  backs m hm := h'.backs m (h.backs m hm)

instance : IsPreorder (World δ ω) b.Silent where
  refl _ := ⟨rfl, fun _ h => h⟩
  trans _ _ _ h h' := ⟨h'.sent.trans h.sent, fun m hm => h'.backs m (h.backs m hm)⟩

instance : Tx.RestoresDb b.Silent := ⟨fun h => ⟨h.sent, fun _ hm => hm⟩⟩

/-- From a state in which every message is backed to another. -/
theorem Accounts.accounted {w w' : World δ ω} (h : b.Accounts w w') (hw : b.Accounted w) :
    b.Accounted w' := fun m hm => (h.sent m hm).elim (fun hm' => h.backs m (hw m hm')) id

/-! ## Computations -/

variable (b)

/-- A run that returns accounts for its messages, and one that raises has sent nothing. -/
def Clean (x : Tx δ ω ε α) (w : World δ ω) : Prop :=
  x.wp (fun _ w' => b.Accounts w w') (fun _ w' => b.sent w'.ext = b.sent w.ext) w

/-- The computation returns, and accounts for its messages. -/
def Sure (x : Tx δ ω ε α) (w : World δ ω) : Prop :=
  x.wp (fun _ w' => b.Accounts w w') (fun _ _ => False) w

variable {b} {x : Tx δ ω ε α} {f : α → Tx δ ω ε β} {w : World δ ω}

/-- After a transaction that is clean every message is backed. -/
theorem accounted_of_clean (h : b.Clean x w) (hrolls : x.RollsBack) (hw : b.Accounted w) :
    b.Accounted (x w).2 := by
  rcases hx : x w with ⟨e | a, w'⟩
  · intro m hm
    rw [hrolls.run hx]
    exact hw m (Tx.wp_of_error h hx ▸ hm)
  · exact (Tx.wp_of_ok h hx).accounted hw

theorem Sure.clean (h : b.Sure x w) : b.Clean x w :=
  Tx.wp_mono h (fun _ _ h => h) fun _ _ => False.elim

theorem clean_of_silent (h : x.StepsAt b.Silent w) : b.Clean x w :=
  Tx.wp_mono h (fun _ _ h => h.accounts) fun _ _ h => h.sent

theorem clean_pure (a : α) : b.Clean (pure a : Tx δ ω ε α) w :=
  clean_of_silent (Tx.steps_pure a w)

theorem Clean.atomic (h : b.Clean x w) : b.Clean (Tx.atomic x) w := Tx.wp_atomic.2 h

theorem Clean.ite {c : Prop} [Decidable c] {y : Tx δ ω ε α} (hx : c → b.Clean x w)
    (hy : ¬c → b.Clean y w) : b.Clean (if c then x else y) w := Tx.wp_ite.2 ⟨hx, hy⟩

/-- As long as nothing is sent, anything may raise. -/
theorem Clean.silent_bind (h : x.wp (fun a w' => b.Silent w w' ∧ b.Clean (f a) w')
    (fun _ w' => b.Silent w w') w) : b.Clean (x >>= f) w := by
  refine Tx.wp_seq h (fun a w' h' => ?_) (fun _ _ h' => h'.sent)
  exact Tx.wp_mono h'.2 (fun _ _ h'' => h'.1.accounts.trans h'')
    (fun _ _ h'' => h''.trans h'.1.sent)

/-- Once something is sent, nothing raises. -/
theorem Clean.bind (h : x.wp (fun a w' => b.Accounts w w' ∧ b.Sure (f a) w')
    (fun _ w' => b.sent w'.ext = b.sent w.ext) w) : b.Clean (x >>= f) w := by
  refine Tx.wp_seq h (fun a w' h' => ?_) (fun _ _ h' => h')
  exact Tx.wp_mono h'.2 (fun _ _ h'' => h'.1.trans h'') fun _ _ => False.elim

/-- What is returned does not matter. -/
theorem Clean.map (h : b.Clean x w) (g : α → β) : b.Clean (x >>= fun a => pure (g a)) w :=
  Tx.wp_seq h (fun _ _ h' => h') fun _ _ h' => h'

/-- A check that raises comes before the messages. -/
theorem clean_check {c : Prop} [Decidable c] {e : ε} {f : Unit → Tx δ ω ε α}
    (h : ¬c → b.Clean (f ()) w) : b.Clean (Tx.when c (Tx.raise e) >>= f) w := by
  refine Clean.silent_bind (Tx.wp_when.2 ⟨fun _ => refl_of b.Silent w, fun hc => ?_⟩)
  exact ⟨refl_of b.Silent w, h hc⟩

theorem sure_pure (a : α) : b.Sure (pure a : Tx δ ω ε α) w := (refl_of b.Silent w).accounts

theorem Sure.atomic (h : b.Sure x w) : b.Sure (Tx.atomic x) w := Tx.wp_atomic.2 h

theorem Sure.ite {c : Prop} [Decidable c] {y : Tx δ ω ε α} (hx : c → b.Sure x w)
    (hy : ¬c → b.Sure y w) : b.Sure (if c then x else y) w := Tx.wp_ite.2 ⟨hx, hy⟩

theorem Sure.bind (h : x.wp (fun a w' => b.Accounts w w' ∧ b.Sure (f a) w')
    (fun _ _ => False) w) : b.Sure (x >>= f) w := by
  refine Tx.wp_seq h (fun a w' h' => ?_) (fun _ _ h' => h')
  exact Tx.wp_mono h'.2 (fun _ _ h'' => h'.1.trans h'') fun _ _ => False.elim

end Outbox

end Crumbs.Db
