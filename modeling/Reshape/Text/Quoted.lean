/-
Module: Reshape.Text.Quoted
Layer: Data
Purpose: Text between quotation marks, with everything escaped that would not show as itself.
Main exports: Text.standsAlone, Text.quotedChar, Text.quoted
-/
import Reshape.Text.Unprintable
import Reshape.Text.DefaultIgnorable
import Reshape.Text.GraphemeExtend

namespace Reshape

namespace Text

/-- The halfwidth voiced sound marks. They continue the character before them, but they are letters
    with a cell of their own and do not combine. -/
def soundMarks : CodeRanges :=
  [(0xff9e, 0xff9f)]

/-- The character has no glyph: it is not printable, or it is a letter that is not shown. -/
def isInvisible (c : Char) : Bool :=
  unprintable.contains c.toNat || defaultIgnorable.contains c.toNat

/-- The character combines with the one before it. -/
def isCombining (c : Char) : Bool :=
  graphemeExtend.contains c.toNat && !soundMarks.contains c.toNat

/-- The search for characters without a glyph finds all of them. -/
theorem isInvisible_iff (c : Char) :
    isInvisible c = true ↔
      ∃ range ∈ unprintable ++ defaultIgnorable, range.1 ≤ c.toNat ∧ c.toNat ≤ range.2 := by
  have ascends : unprintable.ascends 0 = true := by decide +kernel
  have ascends' : defaultIgnorable.ascends 0 = true := by decide
  simp only [isInvisible, Bool.or_eq_true, CodeRanges.contains_iff ascends,
    CodeRanges.contains_iff ascends', List.mem_append, or_and_right, exists_or]

/-- The search for characters that combine finds all of them. -/
theorem isCombining_iff (c : Char) :
    isCombining c = true ↔
      (∃ range ∈ graphemeExtend, range.1 ≤ c.toNat ∧ c.toNat ≤ range.2) ∧
        ¬ ∃ range ∈ soundMarks, range.1 ≤ c.toNat ∧ c.toNat ≤ range.2 := by
  have ascends : graphemeExtend.ascends 0 = true := by decide +kernel
  have ascends' : soundMarks.ascends 0 = true := by decide
  simp only [isCombining, Bool.and_eq_true, Bool.not_eq_true', ← Bool.not_eq_true,
    CodeRanges.contains_iff ascends, CodeRanges.contains_iff ascends']

/-- The character shows as itself: it has a glyph and does not combine with the character before. -/
def standsAlone (c : Char) : Bool :=
  !isInvisible c && !isCombining c

/-- The numeric escape of a character, in hexadecimal. -/
def codeEscape (c : Char) : List Char :=
  ['\\', 'u', '\x7b'] ++ Nat.toDigits 16 c.toNat ++ ['\x7d']

/-- A character as it is written between quotation marks. An apostrophe is not escaped. -/
def quotedChar (c : Char) : List Char :=
  if c = '"' then ['\\', '"']
  else if c = '\\' then ['\\', '\\']
  else if c = '\n' then ['\\', 'n']
  else if c = '\r' then ['\\', 'r']
  else if c = '\t' then ['\\', 't']
  else if c = '\x00' then ['\\', '0']
  else if standsAlone c then [c]
  else codeEscape c

/-- The text between quotation marks. -/
def quoted (text : String) : String :=
  String.ofList ('"' :: text.toList.flatMap quotedChar ++ ['"'])

end Text

end Reshape
