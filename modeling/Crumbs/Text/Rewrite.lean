import Mathlib.Data.List.Infix

/-!
# Rewriting a Text from Left to Right

A search and replace goes through a list once. Where a match begins it writes the replacement and
goes on behind the match; elsewhere it keeps the element. When a replacement writes nothing but
kept elements and a mask that a word does not contain, it cannot bring the word about, since an
occurrence of the word would lie between two masks.

## Contents

- `rewriteAll`: the search and replace, for any notion of match
- `Masked`: one list is another with parts of it masked
- `Masked.isInfix`: masking brings no word about
- `replaceAll`, `not_infix_replaceAll`: replacing a word by masks leaves no occurrence of it
-/

namespace Crumbs.Text

variable {α : Type*}

/-- Rewrite the list with `find`, which gives the length of a match at the beginning of a list and
what is written for it. The first argument counts the elements that belong to the last match. -/
def rewriteAll (find : List α → Option (ℕ × List α)) : ℕ → List α → List α
  | _, [] => []
  | skip + 1, _ :: l => rewriteAll find skip l
  | 0, a :: l =>
    match find (a :: l) with
    | some (n, new) => new ++ rewriteAll find (n - 1) l
    | none => a :: rewriteAll find 0 l

/-! ## Masking -/

/-- The second list is the first with some parts replaced by masks. -/
inductive Masked (mask : α) : List α → List α → Prop
  | nil : Masked mask [] []
  | keep (a : α) {l l' : List α} : Masked mask l l' → Masked mask (a :: l) (a :: l')
  | mask (part : List α) {l l' : List α} :
      Masked mask l l' → Masked mask (part ++ l) (mask :: l')

namespace Masked

variable {mask : α} {l l' : List α}

protected theorem refl : ∀ l : List α, Masked mask l l
  | [] => .nil
  | a :: l => .keep a (.refl l)

theorem append {r r' : List α} (left : Masked mask l l') (right : Masked mask r r') :
    Masked mask (l ++ r) (l' ++ r') := by
  induction left with
  | nil => exact right
  | keep a _ ih => exact .keep a ih
  | mask part _ ih =>
    rw [List.append_assoc]
    exact .mask part ih

/-- A part that is replaced by one mask or more. -/
theorem replicate (part : List α) (n : ℕ) :
    Masked mask part (List.replicate (n + 1) mask) := by
  induction n with
  | zero =>
    have masked : Masked mask (part ++ []) [mask] := .mask part .nil
    rwa [List.append_nil] at masked
  | succ n ih => exact .mask [] ih

/-- A word without the mask that begins the masked list begins the list. -/
theorem isPrefix {word : List α} (masked : Masked mask l l') (h : mask ∉ word)
    (begins : word <+: l') : word <+: l := by
  induction masked generalizing word with
  | nil => exact begins
  | keep a _ ih =>
    cases word with
    | nil => exact List.nil_prefix
    | cons b word =>
      obtain ⟨rfl, rest⟩ := List.cons_prefix_cons.1 begins
      exact List.cons_prefix_cons.2 ⟨rfl, ih (fun hb => h (List.mem_cons_of_mem _ hb)) rest⟩
  | mask part _ _ =>
    cases word with
    | nil => exact List.nil_prefix
    | cons b word =>
      -- the word would begin with the mask
      obtain ⟨rfl, _⟩ := List.cons_prefix_cons.1 begins
      exact absurd List.mem_cons_self h

/-- A word without the mask that stands in the masked list stands in the list. -/
theorem isInfix {word : List α} (masked : Masked mask l l') (h : mask ∉ word)
    (stands : word <:+: l') : word <:+: l := by
  induction masked with
  | nil => exact stands
  | keep a masked ih =>
    rcases List.infix_cons_iff.1 stands with first | later
    · exact ((Masked.keep a masked).isPrefix h first).isInfix
    · exact List.infix_cons (ih later)
  | mask part masked ih =>
    rcases List.infix_cons_iff.1 stands with first | later
    · exact ((Masked.mask part masked).isPrefix h first).isInfix
    · exact List.infix_append_of_infix_right (ih later)

end Masked

/-! ## Rewriting with masks -/

/-- Every match of `find` lies within the list and is replaced by a masked form of itself. -/
def Masks (mask : α) (find : List α → Option (ℕ × List α)) : Prop :=
  ∀ l n new, find l = some (n, new) → 0 < n ∧ Masked mask (l.take n) new

theorem masked_rewriteAll {mask : α} {find : List α → Option (ℕ × List α)}
    (masks : Masks mask find) (l : List α) :
    ∀ skip, Masked mask (l.drop skip) (rewriteAll find skip l) := by
  induction l with
  | nil =>
    intro skip
    rw [List.drop_nil, rewriteAll]
    exact .nil
  | cons a l ih =>
    intro skip
    cases skip with
    | succ skip =>
      rw [List.drop_succ_cons, rewriteAll]
      exact ih skip
    | zero =>
      rw [List.drop_zero, rewriteAll]
      cases found : find (a :: l) with
      | none => exact .keep a (ih 0)
      | some hit =>
        obtain ⟨n, new⟩ := hit
        obtain ⟨pos, masked⟩ := masks _ _ _ found
        obtain ⟨n, rfl⟩ : ∃ k, n = k + 1 := ⟨n - 1, by omega⟩
        have parts : a :: l = (a :: l).take (n + 1) ++ l.drop n := by
          rw [List.take_succ_cons, List.cons_append, List.take_append_drop]
        rw [parts]
        exact masked.append (ih n)

/-! ## Replacing a word -/

section Replace

variable [DecidableEq α]

/-- A match of a word at the beginning of a list. -/
def findWord (word new l : List α) : Option (ℕ × List α) :=
  if word <+: l then some (word.length, new) else none

/-- Every occurrence of the word, from left to right, replaced by `new`. -/
def replaceAll (word new l : List α) : List α := rewriteAll (findWord word new) 0 l

variable {mask : α} {word : List α}

theorem masks_findWord (n : ℕ) (some_word : word ≠ []) :
    Masks mask (findWord word (List.replicate (n + 1) mask)) := by
  intro l k new found
  unfold findWord at found
  split at found
  · obtain ⟨rfl, rfl⟩ := Prod.mk.inj (Option.some.inj found)
    exact ⟨List.length_pos_iff.2 some_word, .replicate _ n⟩
  · cases found

/-- Behind the masks, too, no occurrence of the word is left. -/
theorem not_infix_rewriteAll (n : ℕ) (some_word : word ≠ []) (h : mask ∉ word) (l : List α) :
    ∀ skip, ¬ word <:+: rewriteAll (findWord word (List.replicate (n + 1) mask)) skip l := by
  induction l with
  | nil =>
    intro skip stands
    rw [rewriteAll] at stands
    exact some_word (List.infix_nil.1 stands)
  | cons a l ih =>
    intro skip stands
    cases skip with
    | succ skip =>
      rw [rewriteAll] at stands
      exact ih skip stands
    | zero =>
      have masks : Masks mask (findWord word (List.replicate (n + 1) mask)) :=
        masks_findWord n some_word
      have masked := masked_rewriteAll masks (a :: l) 0
      rw [List.drop_zero] at masked
      rw [rewriteAll] at stands masked
      by_cases begins : word <+: a :: l
      · -- the masks are no part of the word, so it would stand behind them
        simp only [findWord, if_pos begins] at stands
        have behind (l' : List α) : Masked mask ([] ++ l') (List.replicate (n + 1) mask ++ l') :=
          (Masked.replicate [] n).append (.refl l')
        exact ih _ ((behind _).isInfix h stands)
      · simp only [findWord, if_neg begins] at stands masked
        rcases List.infix_cons_iff.1 stands with first | later
        · -- it would begin the list itself, where none was found
          exact begins (masked.isPrefix h first)
        · exact ih 0 later

theorem not_infix_replaceAll (n : ℕ) (some_word : word ≠ []) (h : mask ∉ word) (l : List α) :
    ¬ word <:+: replaceAll word (List.replicate (n + 1) mask) l :=
  not_infix_rewriteAll n some_word h l 0

end Replace

end Crumbs.Text
