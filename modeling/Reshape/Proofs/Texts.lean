/-
Module: Reshape.Proofs.Texts
Layer: Proofs
Purpose: Marks, white space and pieces of texts, said without the functions that take texts apart.
Main exports: Text.Closes, Text.closes_iff, Text.trim_eq_self, Text.mem_of_mem_trim, Text.Trims,
  Text.trim_eq_iff, Text.trim_padded, Text.not_mem_of_mem_split, Text.two_le_length_split,
  Text.map_trim_split
-/
import Reshape.Text.Blank
import Reshape.Text.Mark

namespace Reshape

namespace Text

/-! ### The mark of a collection -/

/-- `Closes text body isCollection`: two brackets at the end, wherever they stand, are the mark of a
    collection. -/
inductive Closes : List Char → List Char → Bool → Prop where
  | marked (body : List Char) : Closes (body ++ ['[', ']']) body true
  | plain {text : List Char} (unmarked : ¬ ['[', ']'] <:+ text) : Closes text text false

theorem closes_iff {text body : List Char} {isCollection : Bool} :
    Closes text body isCollection ↔ splitMark text = (body, isCollection) := by
  have whole := splitMark_fst_append text
  constructor
  · rintro (_ | unmarked)
    · exact splitMark_append body
    · cases parts : splitMark text with
      | mk body marked =>
        rw [parts] at whole
        cases marked with
        | true => exact absurd ⟨body, whole⟩ unmarked
        | false =>
            rw [← whole]
            exact congrArg (·, false) (List.append_nil body).symm
  · intro parts
    rw [parts] at whole
    cases isCollection with
    | true =>
        rw [← whole]
        exact .marked body
    | false =>
        obtain rfl : body = text := (List.append_nil body).symm.trans whole
        refine .plain ?_
        rintro ⟨front, rfl⟩
        rw [splitMark_append] at parts
        exact Bool.noConfusion (congrArg Prod.snd parts)

/-- A text is what its mark leaves, and the mark. -/
theorem Closes.whole {text body : List Char} {isCollection : Bool}
    (closes : Closes text body isCollection) : text = body ++ mark isCollection := by
  cases closes with
  | marked => rfl
  | plain unmarked => exact (List.append_nil text).symm

/-! ### White space -/

/-- No visible character of ASCII is white space. -/
theorem not_blank_of_ascii {c : Char} (above : 0x20 < c.toNat) (below : c.toNat < 0x85) :
    isBlank c = false := by
  rw [isBlank, whiteSpace, CodeRanges.contains, if_neg (by omega), if_neg (by omega), CodeRanges.contains,
    if_neg (by omega), if_neg (by omega), CodeRanges.contains, if_pos below]

theorem trim_eq_self {text : List Char} (visible : ∀ c ∈ text, isBlank c = false) :
    trim text = text := by
  have kept {text : List Char} (visible : ∀ c ∈ text, isBlank c = false) :
      text.dropWhile isBlank = text := by
    cases text with
    | nil => rfl
    | cons c rest => exact List.dropWhile_cons_of_neg (by simp [visible c List.mem_cons_self])
  rw [trim, kept visible, kept (by simpa using visible), List.reverse_reverse]

theorem mem_of_mem_trim {text : List Char} {c : Char} (member : c ∈ trim text) : c ∈ text := by
  have inReverse := (List.dropWhile_sublist isBlank).subset (List.mem_reverse.mp member)
  exact (List.dropWhile_sublist isBlank).subset (List.mem_reverse.mp inReverse)

/-- `Trims text core`: around `core` there is white space and nothing else, and `core` neither starts nor ends
    with white space. -/
structure Trims (text core : List Char) : Prop where
  around : ∃ before behind, text = before ++ core ++ behind ∧ (∀ c ∈ before, isBlank c = true) ∧
    ∀ c ∈ behind, isBlank c = true
  start : ∀ c ∈ core.head?, isBlank c = false
  last : ∀ c ∈ core.getLast?, isBlank c = false

/-- White space in front goes, up to the first other character. -/
theorem dropWhile_blank {before core : List Char} (blank : ∀ c ∈ before, isBlank c = true)
    (start : ∀ c ∈ core.head?, isBlank c = false) : (before ++ core).dropWhile isBlank = core := by
  rw [List.dropWhile_append_of_pos blank]
  cases core with
  | nil => rfl
  | cons c rest => exact List.dropWhile_cons_of_neg (by simp [start c rfl])

theorem exists_dropWhile_blank (text : List Char) :
    ∃ before, text = before ++ text.dropWhile isBlank ∧ (∀ c ∈ before, isBlank c = true) ∧
      ∀ c ∈ (text.dropWhile isBlank).head?, isBlank c = false := by
  induction text with
  | nil => exact ⟨[], rfl, List.forall_mem_nil _, nofun⟩
  | cons c rest ih =>
      cases blank : isBlank c with
      | false =>
          rw [List.dropWhile_cons_of_neg (by simp [blank])]
          refine ⟨[], rfl, List.forall_mem_nil _, ?_⟩
          intro d same
          cases same
          exact blank
      | true =>
          obtain ⟨before, whole, blanks, start⟩ := ih
          rw [List.dropWhile_cons_of_pos blank]
          exact ⟨c :: before, congrArg (c :: ·) whole, List.forall_mem_cons.mpr ⟨blank, blanks⟩, start⟩

theorem trims_trim (text : List Char) : Trims text (trim text) := by
  obtain ⟨before, whole, blanks, start⟩ := exists_dropWhile_blank text
  obtain ⟨behind, whole', blanks', last⟩ := exists_dropWhile_blank (text.dropWhile isBlank).reverse
  have core : text.dropWhile isBlank = trim text ++ behind.reverse := by
    rw [trim, ← List.reverse_append, ← whole', List.reverse_reverse]
  refine ⟨⟨before, behind.reverse, ?_, blanks, ?_⟩, ?_, ?_⟩
  · rw [List.append_assoc, ← core]
    exact whole
  · exact fun c member => blanks' c (List.mem_reverse.mp member)
  · intro c first
    refine start c ?_
    rw [core]
    cases trimmed : trim text with
    | nil =>
        rw [trimmed] at first
        cases first
    | cons d rest =>
        rw [trimmed] at first
        exact first
  · intro c final
    rw [trim, List.getLast?_reverse] at final
    exact last c final

/-- Trimming leaves the core of a text, and there is no other. -/
theorem trim_eq_iff {text core : List Char} : trim text = core ↔ Trims text core := by
  constructor
  · rintro rfl
    exact trims_trim text
  · rintro ⟨⟨before, behind, rfl, blanks, blanks'⟩, start, last⟩
    cases core with
    | nil =>
        have all : ∀ c ∈ before ++ [] ++ behind, isBlank c = true := by
          rw [List.append_nil]
          exact List.forall_mem_append.mpr ⟨blanks, blanks'⟩
        have nothing : (before ++ [] ++ behind ++ []).dropWhile isBlank = [] :=
          dropWhile_blank all fun _ first => by cases first
        rw [trim, ← List.append_nil (before ++ [] ++ behind), nothing]
        rfl
    | cons c rest =>
        have inFront : (before ++ (c :: rest ++ behind)).dropWhile isBlank = c :: rest ++ behind :=
          dropWhile_blank blanks start
        have atEnd : (behind.reverse ++ (c :: rest).reverse).dropWhile isBlank = (c :: rest).reverse := by
          refine dropWhile_blank (fun d member => blanks' d (List.mem_reverse.mp member)) fun d first => ?_
          rw [List.head?_reverse] at first
          exact last d first
        rw [trim, List.append_assoc, inFront, List.reverse_append, atEnd, List.reverse_reverse]

/-- White space around a text makes no difference. -/
theorem trim_padded {before behind : List Char} (blank : ∀ c ∈ before, isBlank c = true)
    (blank' : ∀ c ∈ behind, isBlank c = true) (text : List Char) :
    trim (before ++ text ++ behind) = trim text := by
  obtain ⟨⟨front, back, whole, blanks, blanks'⟩, start, last⟩ := trims_trim text
  refine trim_eq_iff.mpr ⟨⟨before ++ front, back ++ behind, ?_, ?_, ?_⟩, start, last⟩
  · rw [congrArg (before ++ · ++ behind) whole]
    simp only [List.append_assoc]
  · exact List.forall_mem_append.mpr ⟨blank, blanks⟩
  · exact List.forall_mem_append.mpr ⟨blanks', blank'⟩

/-! ### Pieces -/

/-- No piece holds the separator. -/
theorem not_mem_of_mem_split {separator : Char} {text piece : List Char}
    (member : piece ∈ split separator text) : separator ∉ piece := by
  induction text generalizing piece with
  | nil =>
      obtain rfl := List.mem_singleton.mp member
      exact List.not_mem_nil
  | cons c rest ih =>
      rw [split] at member
      split at member
      · rcases List.mem_cons.mp member with rfl | member
        · exact List.not_mem_nil
        · exact ih member
      · rename_i different
        split at member
        · rename_i pieces
          exact absurd pieces (split_ne_nil separator rest)
        · rename_i first pieces parts
          rw [parts] at ih
          rcases List.mem_cons.mp member with rfl | member
          · exact List.not_mem_cons_of_ne_of_not_mem (Ne.symm different) (ih List.mem_cons_self)
          · exact ih (List.mem_cons_of_mem _ member)

/-- A text with the separator comes apart into at least two pieces. -/
theorem two_le_length_split {separator : Char} {text : List Char} (member : separator ∈ text) :
    2 ≤ (split separator text).length := by
  obtain ⟨first, rest, rfl, before⟩ := List.eq_append_cons_of_mem member
  rw [split_append before, List.length_cons]
  exact Nat.succ_le_succ (List.length_pos_iff.mpr (split_ne_nil separator rest))

/-- Texts that are put together with a separator, white space around it or not, come apart again. -/
theorem map_trim_split {separator : Char} {before behind : List Char} (visible : isBlank separator = false)
    (blank : ∀ c ∈ before, isBlank c = true) (blank' : ∀ c ∈ behind, isBlank c = true)
    {texts : List (List Char)} (some : texts ≠ []) (free : ∀ text ∈ texts, separator ∉ text) :
    (split separator ((before ++ separator :: behind).intercalate texts)).map trim = texts.map trim := by
  have other {blanks : List Char} (blank : ∀ c ∈ blanks, isBlank c = true) : separator ∉ blanks := by
    intro member
    rw [blank separator member] at visible
    cases visible
  -- After a separator, the white space behind it stands in front of the next piece.
  have apart : ∀ (lead : List Char), (∀ c ∈ lead, isBlank c = true) →
      (split separator (lead ++ (before ++ separator :: behind).intercalate texts)).map trim =
        texts.map trim := by
    induction texts with
    | nil => exact absurd rfl some
    | cons text rest ih =>
        obtain ⟨freeText, freeRest⟩ := List.forall_mem_cons.mp free
        intro lead blankLead
        cases rest with
        | nil =>
            have piece : separator ∉ lead ++ text := by
              simp [other blankLead, freeText]
            have same : trim (lead ++ text) = trim text := by
              simpa using trim_padded blankLead (List.forall_mem_nil _) text
            rw [List.intercalate_singleton, split_eq_self piece, List.map_singleton, same]
            rfl
        | cons next others =>
            have piece : separator ∉ lead ++ text ++ before := by
              simp [other blankLead, freeText, other blank]
            have whole : lead ++ (before ++ separator :: behind).intercalate (text :: next :: others) =
                (lead ++ text ++ before) ++ separator ::
                  (behind ++ (before ++ separator :: behind).intercalate (next :: others)) := by
              rw [List.intercalate_cons_cons]
              simp only [List.append_assoc, List.cons_append]
            rw [whole, split_append piece, List.map_cons, trim_padded blankLead blank text,
              ih (List.cons_ne_nil _ _) freeRest behind blank']
            rfl
  exact apart [] (List.forall_mem_nil _)

end Text

end Reshape
