/-
Module: Reshape.Text.CodeRanges
Layer: Data
Purpose: Sets of code points given by ascending ranges.
Main exports: CodeRanges, CodeRanges.contains, CodeRanges.contains_iff
-/

namespace Reshape

/-- A set of code points as inclusive ranges, which ascend and do not touch. -/
abbrev CodeRanges : Type :=
  List (Nat × Nat)

namespace CodeRanges

/-- The code point lies in one of the ranges. The search ends at the first range above it. -/
def contains : CodeRanges → Nat → Bool
  | [], _ => false
  | (first, last) :: rest, code =>
    if code < first then false
    else if code ≤ last then true
    else contains rest code

/-- The ranges ascend from `floor` on, with at least one code point between two of them. -/
def ascends (floor : Nat) : CodeRanges → Bool
  | [] => true
  | (first, last) :: rest => floor ≤ first && first ≤ last && ascends (last + 2) rest

theorem le_of_ascends {ranges : CodeRanges} {floor : Nat} (h : ranges.ascends floor = true) :
    ∀ range ∈ ranges, floor ≤ range.1 := by
  induction ranges generalizing floor with
  | nil => nofun
  | cons range rest ih =>
      simp only [ascends, Bool.and_eq_true, decide_eq_true_eq] at h
      obtain ⟨⟨low, full⟩, above⟩ := h
      intro other member
      rcases List.mem_cons.mp member with rfl | member
      · exact low
      · have later := ih above other member
        omega

/-- On ascending ranges the search finds exactly the members of the ranges. -/
theorem contains_iff {ranges : CodeRanges} {floor : Nat} (h : ranges.ascends floor = true) (code : Nat) :
    ranges.contains code = true ↔ ∃ range ∈ ranges, range.1 ≤ code ∧ code ≤ range.2 := by
  induction ranges generalizing floor with
  | nil => simp [contains]
  | cons range rest ih =>
      obtain ⟨first, last⟩ := range
      simp only [ascends, Bool.and_eq_true, decide_eq_true_eq] at h
      obtain ⟨⟨-, full⟩, above⟩ := h
      simp only [contains, List.mem_cons, exists_eq_or_imp]
      split
      · -- Where the search ends early, all later ranges lie above the code point too.
        have none : ¬ ∃ other ∈ rest, other.1 ≤ code ∧ code ≤ other.2 := by
          rintro ⟨other, member, starts, -⟩
          have later := le_of_ascends above other member
          omega
        simp only [none, or_false, Bool.false_eq_true, false_iff]
        omega
      · split
        · simp only [true_iff]
          exact .inl (by omega)
        · rw [ih above]
          constructor
          · exact .inr
          · rintro (inside | within)
            · omega
            · exact within

end CodeRanges

end Reshape
