/-
Module: Reshape.Proofs.Depth
Layer: Proofs
Purpose: The limit on nesting only decides whether a resolution comes to an end: whatever ends within
  one limit ends in the same way, after the same events, within every greater one.
Main exports: Coupling.agreement, Store.resolve_succ, Store.resolve_of_le,
  Store.resolve_finished_of_le, Store.Resolves.unique
-/
import Reshape.Proofs.Coupling.Lifecycle
import Reshape.Resolution.Basic

namespace Reshape

namespace Coupling

/-- Two runs agree: the second is the first, unless the first stays unfinished and is allowed to. -/
def agreement (loose : Prop) : Coupling where
  state := Eq
  trace := Eq
  failure _ _ := Eq
  endless := True
  loose := loose
  value_eq := fun same => congrArg Accumulator.value same
  state_withValue := fun value same => congrArg (Accumulator.withValue · value) same
  trace_nil := rfl
  trace_append := fun same same' => same ▸ same' ▸ rfl
  failure_mono := fun _ _ => id

variable {loose : Prop}

theorem eq_of_agreement {left right : Run Accumulator}
    (agree : (agreement loose).Couples (agreement loose).state left right)
    (ends : loose → left.ending ≠ .unfinished) : right = left := by
  obtain ⟨events, ending⟩ := left
  obtain ⟨events', ending'⟩ := right
  rcases agree with ⟨allowed, stopped⟩ | ⟨traces, endings⟩
  · exact absurd stopped (ends allowed)
  · obtain rfl : events = events' := traces
    cases ending <;> cases ending' <;> try exact endings.elim
    · obtain rfl := endings
      rfl
    · obtain rfl := endings
      rfl
    · rfl

/-- A run agrees with itself. -/
theorem agreement_refl (run : Run Accumulator) :
    (agreement loose).Couples (agreement loose).state run run := by
  refine .inr ⟨rfl, ?_⟩
  cases run.ending
  · rfl
  · rfl
  · trivial

/-- Agreement stays what it is inside entities and their error hooks. -/
theorem agreement_encloses (loose : Prop) (reference : Reference) (entity : Entity) :
    (agreement loose).Encloses (agreement loose) (fun _ _ => agreement loose) reference reference
      entity where
  enters := by intro l r same; cases same; rfl
  inspects := by intro l r same; cases same; rfl
  leaves := by intro l r l' r' same same'; cases same; cases same'; rfl
  lives := by intro events events' same; cases same; rfl
  fails := id
  endless := id
  loose := id
  attaches := by intro l r _ _ f g same same'; cases same; cases same'; rfl
  recovers := by intro l r l' r' _ _ f g same _ same'; cases same; cases same'; rfl
  handles := by
    intro events events' f g last last' same same' same''
    cases same
    cases same'
    cases same''
    rfl
  exhausts := by intro _ _ _ _ f g second second' same same'; cases same; cases same'; rfl
  hookEndless := fun _ => id
  hookLoose := fun _ => id

end Coupling

namespace Store

open Coupling (agreement agreement_refl agreement_encloses)

/-- One more level of nesting changes nothing for what came to an end without it. -/
theorem resolve_succ (store : Store) (depth : Nat) (reducer : Reducer) :
    (agreement True).Keeps (store.resolve depth) (store.resolve (depth + 1)) reducer := by
  induction depth generalizing reducer with
  | zero =>
      intro l r _
      exact .inl ⟨trivial, rfl⟩
  | succ depth ih =>
      intro acc _ same
      cases same
      cases reducer with
      | path target => exact Coupling.pure rfl
      | function function => exact agreement_refl _
      | list steps => exact Coupling.sequence (fun step _ => ih step) rfl
      | entity reference =>
          refine Coupling.reference rfl rfl (fun _ => rfl) ?_ rfl
          intro entity _ l r same
          exact Coupling.enter (agreement_encloses True reference entity)
            (.of_eq Iff.rfl (fun slot _ => ih slot.2) rfl) (fun _ _ => ih _) same

theorem resolve_of_le {store : Store} {depth deeper : Nat} {reducer : Reducer} {acc : Accumulator}
    (ends : (store.resolve depth reducer acc).ending ≠ .unfinished) (le : depth ≤ deeper) :
    store.resolve deeper reducer acc = store.resolve depth reducer acc := by
  induction le with
  | refl => rfl
  | @step deeper _ ih =>
      rw [← ih] at ends ⊢
      exact Coupling.eq_of_agreement (store.resolve_succ deeper reducer rfl) fun _ => ends

theorem resolve_finished_of_le {store : Store} {depth deeper : Nat} {reducer : Reducer}
    {acc next : Accumulator} (le : depth ≤ deeper)
    (finished : (store.resolve depth reducer acc).ending = .finished next) :
    (store.resolve deeper reducer acc).ending = .finished next := by
  rw [resolve_of_le (by rw [finished]; nofun) le, finished]

/-- A resolution comes to at most one end. -/
theorem Resolves.unique {store : Store} {reducer : Reducer} {acc : Accumulator}
    {first second : Run Accumulator} (one : store.Resolves reducer acc first)
    (two : store.Resolves reducer acc second) : first = second := by
  obtain ⟨ends, depth, rfl⟩ := one
  obtain ⟨ends', depth', rfl⟩ := two
  rcases Nat.le_total depth depth' with le | le
  · exact (resolve_of_le ends le).symm
  · exact resolve_of_le ends' le

end Store

end Reshape
