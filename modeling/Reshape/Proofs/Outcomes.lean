/-
Module: Reshape.Proofs.Outcomes
Layer: Proofs
Purpose: Computations that may fail, read backwards: what has succeeded step by step has succeeded in every
  step, and the other way round.
Main exports: ok_of_bind, ok_of_map, error_of_bind, source_of_mapM, bind_eq_ok_iff, map_eq_ok_iff,
  map_eq_error_iff, mapM_eq_ok_iff, exists_forall₂_iff, forall₂_of_mem, forall₂_comp_iff, exists_rel_iff,
  rel_bind, rel_getElem?
-/
import Mathlib.Data.List.Forall2

namespace Reshape

variable {ε α β : Type}

/-- What succeeds step by step has succeeded in its first step and in the rest. -/
theorem ok_of_bind {first : Except ε α} {rest : α → Except ε β} {b : β}
    (ok : first >>= rest = .ok b) : ∃ a, first = .ok a ∧ rest a = .ok b := by
  cases first with
  | error failure => cases ok
  | ok a => exact ⟨a, rfl, ok⟩

theorem ok_of_map {f : α → β} {result : Except ε α} {b : β} (ok : result.map f = .ok b) :
    ∃ a, result = .ok a ∧ f a = b := by
  cases result with
  | error failure => cases ok
  | ok a =>
      cases ok
      exact ⟨a, rfl, rfl⟩

theorem bind_eq_ok_iff {first : Except ε α} {rest : α → Except ε β} {b : β} :
    first >>= rest = .ok b ↔ ∃ a, first = .ok a ∧ rest a = .ok b := by
  refine ⟨ok_of_bind, ?_⟩
  rintro ⟨a, rfl, ok⟩
  exact ok

/-- What fails step by step has failed in its first step or, after it, in the rest. -/
theorem error_of_bind {first : Except ε α} {rest : α → Except ε β} {failure : ε}
    (failed : first >>= rest = .error failure) :
    first = .error failure ∨ ∃ a, first = .ok a ∧ rest a = .error failure := by
  cases first with
  | error other =>
      cases failed
      exact .inl rfl
  | ok a => exact .inr ⟨a, rfl, failed⟩

theorem map_eq_ok_iff {f : α → β} {result : Except ε α} {b : β} :
    result.map f = .ok b ↔ ∃ a, result = .ok a ∧ f a = b := by
  refine ⟨ok_of_map, ?_⟩
  rintro ⟨a, rfl, rfl⟩
  rfl

theorem map_eq_error_iff {f : α → β} {result : Except ε α} {failure : ε} :
    result.map f = .error failure ↔ result = .error failure := by
  cases result <;> simp [Except.map]

/-- What succeeds for all members has succeeded for each of them. -/
theorem mapM_eq_ok_iff {f : α → Except ε β} {members : List α} {results : List β} :
    members.mapM f = .ok results ↔ List.Forall₂ (fun a b => f a = .ok b) members results := by
  induction members generalizing results with
  | nil =>
      rw [List.mapM_nil, List.forall₂_nil_left_iff]
      exact ⟨fun ok => by cases ok; rfl, fun none => by rw [none]; rfl⟩
  | cons a rest ih =>
      rw [List.mapM_cons, List.forall₂_cons_left_iff]
      constructor
      · intro ok
        obtain ⟨first, firstOk, ok⟩ := ok_of_bind ok
        obtain ⟨others, restOk, built⟩ := ok_of_bind ok
        cases built
        exact ⟨first, others, firstOk, ih.mp restOk, rfl⟩
      · rintro ⟨first, others, firstOk, restOk, rfl⟩
        exact bind_eq_ok_iff.mpr ⟨first, firstOk, bind_eq_ok_iff.mpr ⟨others, ih.mpr restOk, rfl⟩⟩

/-- What succeeds for all members has made each result of one of them. -/
theorem source_of_mapM {f : α → Except ε β} {members : List α} {results : List β}
    (ok : members.mapM f = .ok results) {b : β} (result : b ∈ results) :
    ∃ a ∈ members, f a = .ok b := by
  induction mapM_eq_ok_iff.mp ok with
  | nil => cases result
  | @cons a first rest others firstOk restOk ih =>
      rcases List.mem_cons.mp result with rfl | member
      · exact ⟨a, List.mem_cons_self, firstOk⟩
      · obtain ⟨source, inRest, sourceOk⟩ := ih (mapM_eq_ok_iff.mpr restOk) member
        exact ⟨source, List.mem_cons_of_mem _ inRest, sourceOk⟩

/-! ### Relations, member by member -/

variable {R : α → β → Prop}

/-- If each member is related to something, then so is the list as a whole. -/
theorem exists_forall₂_iff {as : List α} : (∃ bs, List.Forall₂ R as bs) ↔ ∀ a ∈ as, ∃ b, R a b := by
  induction as with
  | nil => exact ⟨fun _ => List.forall_mem_nil _, fun _ => ⟨[], .nil⟩⟩
  | cons a rest ih =>
      rw [List.forall_mem_cons, ← ih]
      constructor
      · rintro ⟨_, related⟩
        cases related with
        | cons first others => exact ⟨⟨_, first⟩, _, others⟩
      · rintro ⟨⟨b, first⟩, bs, others⟩
        exact ⟨b :: bs, .cons first others⟩

/-- A relation may be weakened for the members of the first list alone. -/
theorem forall₂_of_mem {S : α → β → Prop} {as : List α} {bs : List β} (related : List.Forall₂ R as bs)
    (weaken : ∀ a ∈ as, ∀ b, R a b → S a b) : List.Forall₂ S as bs := by
  have both := (List.forall₂_and_left as bs).mpr ⟨weaken, related⟩
  exact both.imp fun a b holds => holds.1 b holds.2

/-- Two steps at each place are two rows of steps, one after the other. -/
theorem forall₂_comp_iff {γ : Type} {S : β → γ → Prop} {as : List α} {cs : List γ} :
    List.Forall₂ (fun a c => ∃ b, R a b ∧ S b c) as cs ↔
      ∃ bs, List.Forall₂ R as bs ∧ List.Forall₂ S bs cs := by
  constructor
  · intro related
    induction related with
    | nil => exact ⟨[], .nil, .nil⟩
    | cons first _ ih =>
        obtain ⟨b, one, two⟩ := first
        obtain ⟨bs, ones, twos⟩ := ih
        exact ⟨b :: bs, .cons one ones, .cons two twos⟩
  · rintro ⟨bs, ones, twos⟩
    induction ones generalizing cs with
    | nil =>
        cases twos
        exact .nil
    | cons one _ ih =>
        cases twos with
        | cons two twos => exact .cons ⟨_, one, two⟩ (ih twos)

theorem exists_rel_iff {a : Option α} : (∃ b, Option.Rel R a b) ↔ ∀ x ∈ a.toList, ∃ y, R x y := by
  cases a with
  | none => exact ⟨fun _ => List.forall_mem_nil _, fun _ => ⟨none, .none⟩⟩
  | some x =>
      rw [Option.toList_some, List.forall_mem_singleton]
      constructor
      · rintro ⟨_, related⟩
        cases related with
        | some first => exact ⟨_, first⟩
      · rintro ⟨y, first⟩
        exact ⟨some y, .some first⟩

theorem forall₂_toList {a : Option α} {b : Option β} (related : Option.Rel R a b) :
    List.Forall₂ R a.toList b.toList := by
  cases related with
  | none => exact .nil
  | some first => exact .cons first .nil

/-- Related lists have related members at each place, or none. -/
theorem rel_getElem? {as : List α} {bs : List β} (related : List.Forall₂ R as bs) (n : Nat) :
    Option.Rel R as[n]? bs[n]? := by
  induction related generalizing n with
  | nil => exact .none
  | cons first _ ih =>
      cases n with
      | zero => exact .some first
      | succ n => exact ih n

theorem rel_bind {γ δ : Type} {S : γ → δ → Prop} {a : Option α} {b : Option β} {next : α → Option γ}
    {next' : β → Option δ} (related : Option.Rel R a b)
    (step : ∀ x y, R x y → Option.Rel S (next x) (next' y)) :
    Option.Rel S (a.bind next) (b.bind next') := by
  cases related with
  | none => exact .none
  | some first => exact step _ _ first

end Reshape
