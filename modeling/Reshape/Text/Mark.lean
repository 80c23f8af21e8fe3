/-
Module: Reshape.Text.Mark
Layer: Data
Purpose: The mark `[]` that paths and references end with when they apply to every element.
Main exports: Text.mark, Text.splitMark
-/

namespace Reshape

namespace Text

/-- The mark for "every element", or no mark. -/
def mark (isCollection : Bool) : List Char :=
  if isCollection then ['[', ']'] else []

/-- The text without a final mark, and whether there was one. Only one mark is taken off. -/
def splitMark (text : List Char) : List Char × Bool :=
  match text.reverse with
  | ']' :: '[' :: rest => (rest.reverse, true)
  | _ => (text, false)

theorem splitMark_append (text : List Char) : splitMark (text ++ ['[', ']']) = (text, true) := by
  simp [splitMark]

/-- The two parts put together are the text. -/
theorem splitMark_fst_append (text : List Char) :
    (splitMark text).1 ++ mark (splitMark text).2 = text := by
  unfold splitMark
  split
  · next rest h =>
    have h := congrArg List.reverse h
    simp only [List.reverse_reverse, List.reverse_cons, List.append_assoc] at h
    simp [mark, h]
  · simp [mark]

end Text

end Reshape
