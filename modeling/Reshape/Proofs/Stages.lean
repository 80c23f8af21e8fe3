/-
Module: Reshape.Proofs.Stages
Layer: Proofs
Purpose: What the error hook of an entity guards, as a row of stages: `before`, the value, what the type of
  the entity checks about it, the compose steps and `after`.
Main exports: Entity.checks, Entity.composition, Entity.stages, Resolver.lifecycle_eq_inOrder
-/
import Reshape.Proofs.Order
import Reshape.Resolution.Lifecycle

namespace Reshape

/-! ### What is guarded -/

namespace Resolver

/-- Lets objects through. -/
def requireObject (entity : Entity) (acc : Accumulator) : Run Accumulator :=
  match acc.value with
  | .object _ => Run.pure acc
  | other => Run.fail (entity.wrongType other HashStep.expectation)

/-- Lets arrays through. -/
def requireArray (entity : Entity) (acc : Accumulator) : Run Accumulator :=
  match acc.value with
  | .array _ => Run.pure acc
  | other => Run.fail (entity.wrongType other CollectionStep.expectation)

end Resolver

namespace Entity

/-- What the type of an entity checks about the value: that it is an object or an array, or that the
    validator accepts it. -/
def checks (store : Store) (entity : Entity) : List (Accumulator → Run Accumulator) :=
  match entity.body with
  | .entry => []
  | .hash _ => [Resolver.requireObject entity]
  | .collection _ => [Resolver.requireArray entity]
  | .schema schema options => [Resolver.validate store entity schema options]

/-- The compose steps of an entity. -/
def composition (resolve : Resolver) (entity : Entity) : List (Accumulator → Run Accumulator) :=
  match entity.body with
  | .hash compose =>
    compose.map fun step acc => (Resolver.hashStep resolve step acc).annotate (entity.place step.name)
  | .collection compose =>
    compose.map fun step acc =>
      (Resolver.collectionStep resolve entity step acc).annotate (entity.place step.name)
  | _ => []

/-- What the error hook of an entity guards, in order: `before`, the value, the check of it, the compose
    steps, `after`. -/
def stages (store : Store) (resolve : Resolver) (entity : Entity) :
    List (Accumulator → Run Accumulator) :=
  entity.before.toList.map (Resolver.slot resolve entity "before") ++
    (Resolver.slot resolve entity "value" entity.value ::
        (entity.checks store ++ entity.composition resolve) ++
      entity.after.toList.map (Resolver.slot resolve entity "after"))

end Entity

/-! ### The lifecycle is the row of stages -/

namespace Resolver

variable {store : Store} {resolve : Resolver} {entity : Entity}

theorem sequence_eq_inOrder (steps : List Reducer) :
    sequence resolve steps = Run.inOrder (steps.map resolve) := by
  induction steps with
  | nil => rfl
  | cons step rest ih =>
      funext acc
      show (resolve step acc).bind (sequence resolve rest) = _
      rw [ih]
      rfl

theorem hashSteps_eq_inOrder (steps : List HashStep) :
    hashSteps resolve entity steps = Run.inOrder
      (steps.map fun step acc => (hashStep resolve step acc).annotate (entity.place step.name)) := by
  induction steps with
  | nil => rfl
  | cons step rest ih =>
      funext acc
      show Run.bind _ (hashSteps resolve entity rest) = _
      rw [ih]
      rfl

theorem collectionSteps_eq_inOrder (steps : List CollectionStep) :
    collectionSteps resolve entity steps = Run.inOrder
      (steps.map fun step acc =>
        (collectionStep resolve entity step acc).annotate (entity.place step.name)) := by
  induction steps with
  | nil => rfl
  | cons step rest ih =>
      funext acc
      show Run.bind _ (collectionSteps resolve entity rest) = _
      rw [ih]
      rfl

theorem hook_eq_inOrder (name : String) (reducer : Option Reducer) :
    hook resolve entity name reducer =
      Run.inOrder (reducer.toList.map (slot resolve entity name)) := by
  cases reducer with
  | none => rfl
  | some present => exact (Run.inOrder_singleton _).symm

/-- The check of the value comes before the compose steps. -/
theorem composeHash_eq_bind (compose : List HashStep) (acc : Accumulator) :
    composeHash resolve entity compose acc =
      (requireObject entity acc).bind (hashSteps resolve entity compose) := by
  unfold composeHash requireObject
  cases acc.value with
  | object entries => exact (Run.pure_bind _ _).symm
  | _ => rfl

theorem composeCollection_eq_bind (compose : List CollectionStep) (acc : Accumulator) :
    composeCollection resolve entity compose acc =
      (requireArray entity acc).bind (collectionSteps resolve entity compose) := by
  unfold composeCollection requireArray
  cases acc.value with
  | array items => exact (Run.pure_bind _ _).symm
  | _ => rfl

theorem body_eq_inOrder :
    body store resolve entity = Run.inOrder (slot resolve entity "value" entity.value ::
      (entity.checks store ++ entity.composition resolve)) := by
  funext acc
  show Run.bind _ _ = Run.bind _ _
  congr 1
  funext valued
  unfold Entity.checks Entity.composition
  cases entity.body with
  | entry => rfl
  | hash compose =>
      show composeHash resolve entity compose valued = _
      rw [composeHash_eq_bind, hashSteps_eq_inOrder]
      rfl
  | collection compose =>
      show composeCollection resolve entity compose valued = _
      rw [composeCollection_eq_bind, collectionSteps_eq_inOrder]
      rfl
  | schema schema options =>
      show validate store entity schema options valued = _
      rw [List.append_nil, Run.inOrder_singleton]

/-- What the error hook guards is a row of stages. -/
theorem lifecycle_eq_inOrder :
    lifecycle store resolve entity = Run.inOrder (entity.stages store resolve) := by
  funext acc
  rw [Entity.stages, Run.inOrder_append, ← hook_eq_inOrder]
  show Run.bind _ (fun middle => Run.bind _ _) = _
  congr 1
  funext middle
  rw [Run.inOrder_append, ← body_eq_inOrder, ← hook_eq_inOrder]

/-- Checks run no user code. -/
theorem log_of_check {check : Accumulator → Run Accumulator} (member : check ∈ entity.checks store)
    (acc : Accumulator) : (check acc).log = [] := by
  unfold Entity.checks at member
  cases body : entity.body with
  | entry => simp [body] at member
  | hash compose =>
      obtain rfl : check = requireObject entity := by simpa [body] using member
      unfold requireObject
      split <;> rfl
  | collection compose =>
      obtain rfl : check = requireArray entity := by simpa [body] using member
      unfold requireArray
      split <;> rfl
  | schema schema options =>
      obtain rfl : check = validate store entity schema options := by simpa [body] using member
      unfold validate
      split
      · rfl
      · dsimp only
        split <;> rfl

end Resolver

end Reshape
