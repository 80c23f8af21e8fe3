/-
Module: Reshape.Proofs.Extension
Layer: Proofs
Purpose: Further entities do not disturb what works without them: a reducer all of whose references, followed
  through the entities behind them, lead to registered entities is resolved in the same way in every store
  that has these entities and more.
Main exports: Store.Extends, Store.Supplies, Store.Extends.matches, Builder.extends_of_build,
  Store.extension_keeps_pipelines
-/
import Reshape.Proofs.Building
import Reshape.Proofs.Locality
import Reshape.Proofs.Lookups
import Reshape.Transform

namespace Reshape

namespace Store

/-- The store has every entity of `smaller`, unchanged, and the same store values and validator. -/
structure Extends (larger smaller : Store) : Prop where
  entities : ∀ id entity, smaller.get? id = some entity → larger.get? id = some entity
  values : larger.values = smaller.values
  validator : larger.validator = smaller.validator

/-- Every reference that resolving the reducer can come to leads to a registered entity. -/
def Supplies (store : Store) (reducer : Reducer) : Prop :=
  ∀ reference, store.Reaches reducer (.entity reference) →
    ∃ entity, store.get? reference.id = some entity

variable {smaller larger : Store} {reducer : Reducer}

theorem Extends.matches (extension : larger.Extends smaller) (supplies : smaller.Supplies reducer) :
    smaller.Matches larger reducer where
  entities := by
    intro reference reaches
    obtain ⟨entity, found⟩ := supplies reference reaches
    rw [found, extension.entities _ _ found]
  validator := extension.validator.symm

theorem resolve_eq_of_extends (extension : larger.Extends smaller)
    (supplies : smaller.Supplies reducer) (depth : Nat) (acc : Accumulator) :
    larger.resolve depth reducer acc = smaller.resolve depth reducer acc :=
  resolve_eq_of_matches (extension.matches supplies) depth acc

/-- A transformation starts with the store values, which are the same in both stores. -/
theorem transform_eq_of_extends (extension : larger.Extends smaller) {spec : Spec}
    (compiled : spec.compile = .ok reducer) (supplies : smaller.Supplies reducer) (input : Value)
    (options : Options) :
    larger.transform spec input options = smaller.transform spec input options := by
  have sameStart : larger.start input options = smaller.start input options := by
    simp only [start, extension.values]
  simp only [transform, compiled, sameStart]
  exact resolve_eq_of_extends extension supplies _ _

end Store

/-- Registering further definitions leaves the entities that there are alone. -/
theorem Builder.extends_of_build {builder : Builder} {more : List (String × Definition)}
    {smaller larger : Store} (built : builder.build = .ok smaller)
    (built' : { builder with definitions := builder.definitions ++ more }.build = .ok larger) :
    larger.Extends smaller where
  entities := by
    intro id entity found
    obtain ⟨definition, registered, compiled⟩ := (get?_build_iff built).mp found
    apply (get?_build_iff built').mpr
    exact ⟨definition, List.mem_append_left more registered, compiled⟩
  values := by
    obtain ⟨_, -, -, rfl⟩ := build_eq_ok_iff.mp built
    obtain ⟨_, -, -, rfl⟩ := build_eq_ok_iff.mp built'
    rfl
  validator := by
    obtain ⟨_, -, -, rfl⟩ := build_eq_ok_iff.mp built
    obtain ⟨_, -, -, rfl⟩ := build_eq_ok_iff.mp built'
    rfl

/-- Where all references that a reducer leads to are registered, a store with more entities resolves it on
    every accumulator as the smaller store does: within every limit on nesting there are the same events and
    the same ending, so it comes to the same end in both stores or to none in either. In particular,
    registering further definitions changes no transformation by such a reducer. -/
theorem Store.extension_keeps_pipelines :
    (∀ smaller larger : Store, larger.Extends smaller → ∀ reducer, smaller.Supplies reducer → ∀ acc,
      (∀ depth, larger.resolve depth reducer acc = smaller.resolve depth reducer acc) ∧
        ∀ run, larger.Resolves reducer acc run ↔ smaller.Resolves reducer acc run) ∧
    ∀ (builder : Builder) more smaller larger, builder.build = .ok smaller →
      { builder with definitions := builder.definitions ++ more }.build = .ok larger →
      ∀ spec reducer, spec.compile = .ok reducer → smaller.Supplies reducer → ∀ input options,
        larger.transform spec input options = smaller.transform spec input options := by
  constructor
  · intro smaller larger extension reducer supplies acc
    have same := fun depth => resolve_eq_of_extends extension supplies depth acc
    refine ⟨same, fun run => ?_⟩
    simp only [Resolves, same]
  · intro builder more smaller larger built built' spec reducer compiled supplies input options
    have extension := Builder.extends_of_build built built'
    exact transform_eq_of_extends extension compiled supplies input options

/-! ### A sample -/

namespace Rescue

def spare : Entity :=
  Separators.keeping "spare"

/-- The sample store with one more entity. -/
def larger : Store :=
  ⟨[("entry:inner", inner), ("entry:outer", outer), ("entry:spare", spare)], [], none⟩

theorem build_larger :
    { builder with definitions := builder.definitions ++ [("entry:spare", ({} : Definition))] }.build =
      .ok larger := by
  have compileSpare : Entity.compile "entry:spare" {} = .ok spare :=
    Separators.compile_keeping (by decide) (by decide)
  refine Builder.build_eq_ok_iff.mpr ⟨larger.entities, ?_, rfl, rfl⟩
  refine Builder.compileAll_cons_eq_ok_iff.mpr ⟨rfl, outer, compile_outer, ?_⟩
  refine Builder.compileAll_cons_eq_ok_iff.mpr ⟨rfl, inner, compile_inner, ?_⟩
  exact Builder.compileAll_cons_eq_ok_iff.mpr ⟨rfl, spare, compileSpare, rfl⟩

/-- Both references that the sample leads to are registered. -/
theorem supplies_outer : store.Supplies (.entity outerReference) := by
  intro reference reaches
  rcases reaches.visits with ⟨visited, member, same⟩ | ⟨key, entity, found, visited, member, same⟩
  · obtain rfl := List.mem_singleton.mp member
    exact ⟨outer, same ▸ rfl⟩
  · rcases eq_of_get? found with ⟨-, rfl⟩ | ⟨-, rfl⟩
    · simp [Entity.references, inner, Entity.reducers, failing, answering, Body.reducers,
        Reducer.references] at member
    · obtain rfl := List.mem_singleton.mp member
      exact ⟨inner, same ▸ rfl⟩

end Rescue

/-- In the sample, `entry:outer` fails in the larger store as it does without `entry:spare`. -/
theorem Store.extension_keeps_pipelines_sample :
    let spec := Spec.built (.entity Rescue.outerReference)
    let failed := Ending.failed (.resolution "entry:outer.value boom")
    Rescue.larger.Extends Rescue.store ∧
      (Rescue.larger.resolve 4 (.entity Rescue.outerReference) (.ofValue .null)).ending = failed ∧
      Rescue.larger.transform spec .null .empty = Rescue.store.transform spec .null .empty := by
  intro spec failed
  have extension := Builder.extends_of_build Rescue.build_eq Rescue.build_larger
  obtain ⟨resolves, transforms⟩ := extension_keeps_pipelines
  obtain ⟨same, -⟩ := resolves Rescue.store Rescue.larger extension (.entity Rescue.outerReference)
    Rescue.supplies_outer (.ofValue .null)
  refine ⟨extension, ?_, ?_⟩
  · rw [same]
    rfl
  · exact transforms Rescue.builder _ Rescue.store Rescue.larger Rescue.build_eq Rescue.build_larger spec _
      rfl Rescue.supplies_outer .null .empty

end Reshape
