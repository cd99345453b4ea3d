import Mathlib.Data.List.Infix

/-!
# Searching a Text for Words

Characters as Python's texts and patterns take them, and whether a text contains one of some words
with no regard to case.

## Contents

- `isSpace`: whitespace
- `foldCase`: the small letter that a character stands for
- `containsWord`: one of the words stands in the text
- `toSmall`, `inLower`: a word stands in the text in small letters
- `containsWord_mono`: what a part of a text contains, the text contains
- `infix_intercalate`: the parts of a joined text stand in it
-/

namespace Crumbs.Text

/-- Whitespace (`str.isspace` of a single character). -/
def isSpace (c : Char) : Bool :=
  [0x09, 0x0A, 0x0B, 0x0C, 0x0D, 0x1C, 0x1D, 0x1E, 0x1F, 0x20, 0x85, 0xA0, 0x1680, 0x2000, 0x2001,
    0x2002, 0x2003, 0x2004, 0x2005, 0x2006, 0x2007, 0x2008, 0x2009, 0x200A, 0x2028, 0x2029,
    0x202F, 0x205F, 0x3000].contains c.toNat

/-- The small ASCII letter that a case-insensitive comparison takes a character for. Four
characters outside ASCII are taken for one as well: the dotted capital and the dotless small `i`,
the long `s` and the Kelvin sign. -/
def foldCase (c : Char) : Char :=
  if c.toNat = 0x130 ∨ c.toNat = 0x131 then 'i'
  else if c.toNat = 0x17F then 's'
  else if c.toNat = 0x212A then 'k'
  else c.toLower

/-- One of the words, given in small letters, stands in the text. -/
def containsWord (words : List String) (text : String) : Bool :=
  words.any fun word => decide (word.toList <:+: text.toList.map foldCase)

/-- The small letter of a character (`str.lower`), as far as a search for an ASCII word can tell:
outside ASCII only the Kelvin sign has one that may stand in the word. -/
def toSmall (c : Char) : Char := if c.toNat = 0x212A then 'k' else c.toLower

/-- `word in text.lower()` -/
def inLower (word text : String) : Bool := decide (word.toList <:+: text.toList.map toSmall)

theorem containsWord_mono {words : List String} {part text : String}
    (within : part.toList <:+: text.toList) (h : containsWord words part) :
    containsWord words text := by
  obtain ⟨word, hword, found⟩ := List.any_eq_true.1 h
  refine List.any_eq_true.2 ⟨word, hword, decide_eq_true ?_⟩
  exact (of_decide_eq_true found).trans (within.map foldCase)

theorem infix_intercalate {part : String} {parts : List String} (sep : String)
    (h : part ∈ parts) : part.toList <:+: (sep.intercalate parts).toList := by
  rw [String.toList_intercalate]
  induction parts with
  | nil => cases h
  | cons first rest ih =>
    rcases List.mem_cons.1 h with rfl | later
    · cases rest with
      | nil => simp
      | cons second rest =>
        rw [List.map_cons, List.map_cons, List.intercalate_cons_cons, List.append_assoc]
        exact (List.prefix_append _ _).isInfix
    · cases rest with
      | nil => cases later
      | cons second rest =>
        rw [List.map_cons, List.map_cons, List.intercalate_cons_cons, ← List.map_cons]
        exact (ih later).trans (List.suffix_append _ _).isInfix

end Crumbs.Text
