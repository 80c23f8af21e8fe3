/-
Module: Reshape.Text.Blank
Layer: Data
Purpose: White space, trimming and splitting.
Main exports: Text.isBlank, Text.trim, Text.split
-/
import Reshape.Text.CodeRanges

namespace Reshape

namespace Text

/-- Code points with the property White_Space. -/
def whiteSpace : CodeRanges :=
  [(0x0009, 0x000d), (0x0020, 0x0020), (0x0085, 0x0085), (0x00a0, 0x00a0), (0x1680, 0x1680),
   (0x2000, 0x200a), (0x2028, 0x2029), (0x202f, 0x202f), (0x205f, 0x205f), (0x3000, 0x3000)]

/-- A white-space character. -/
def isBlank (c : Char) : Bool :=
  whiteSpace.contains c.toNat

/-- The search for white space finds all of it. -/
theorem isBlank_iff (c : Char) :
    isBlank c = true ↔ ∃ range ∈ whiteSpace, range.1 ≤ c.toNat ∧ c.toNat ≤ range.2 := by
  have ascends : whiteSpace.ascends 0 = true := by decide
  exact CodeRanges.contains_iff ascends c.toNat

/-- The text without the white space at either end. -/
def trim (text : List Char) : List Char :=
  ((text.dropWhile isBlank).reverse.dropWhile isBlank).reverse

/-- The pieces between the occurrences of `separator`; always one more than there are occurrences. -/
def split (separator : Char) : List Char → List (List Char)
  | [] => [[]]
  | c :: rest =>
    if c = separator then [] :: split separator rest
    else
      match split separator rest with
      | [] => [[c]]
      | piece :: pieces => (c :: piece) :: pieces

theorem split_ne_nil (separator : Char) (text : List Char) : split separator text ≠ [] := by
  cases text with
  | nil => simp [split]
  | cons c rest =>
      rw [split]
      split
      · simp
      · split <;> simp

/-- A text without the separator is one piece. -/
theorem split_eq_self {separator : Char} {text : List Char} (h : separator ∉ text) :
    split separator text = [text] := by
  induction text with
  | nil => rfl
  | cons c rest ih =>
      have hne : c ≠ separator := fun heq => h (heq ▸ List.mem_cons_self)
      rw [split, if_neg hne, ih fun hmem => h (List.mem_cons_of_mem _ hmem)]

/-- Pieces joined by the separator come apart again. -/
theorem split_append {separator : Char} {piece : List Char} (h : separator ∉ piece)
    (text : List Char) :
    split separator (piece ++ separator :: text) = piece :: split separator text := by
  induction piece with
  | nil => simp [split]
  | cons c rest ih =>
      have hne : c ≠ separator := fun heq => h (heq ▸ List.mem_cons_self)
      rw [List.cons_append, split, if_neg hne, ih fun hmem => h (List.mem_cons_of_mem _ hmem)]

end Text

end Reshape
