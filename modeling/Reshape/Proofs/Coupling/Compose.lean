/-
Module: Reshape.Proofs.Coupling.Compose
Layer: Proofs
Purpose: Two runs side by side through reducers in a row, through fan-out and through compose steps,
  and the failures that entities raise themselves on the way.
Main exports: Coupling.Keeps, Entity.Refuses, Entity.StepRefuses, Coupling.sequence,
  Coupling.overItems, Coupling.overKeys, Coupling.hashSteps, Coupling.collectionSteps
-/
import Reshape.Proofs.Coupling.Basic
import Reshape.Resolution.Lifecycle

namespace Reshape

/-! ### Failures that an entity raises itself -/

/-- The step leaves one item, or the missing value, in place of the array. -/
def CollectionStep.Finds (step : CollectionStep) : Prop :=
  ∃ reducer, step = .find reducer ∧ reducer.isEmpty = false

namespace Entity

/-- Failures of an entity about the value that its `value` reducer gives it. -/
inductive Refuses (entity : Entity) (store : Store) : Failure → Prop where
  | noObject {compose : List HashStep} {value : Value} (body : entity.body = .hash compose)
      (shape : value.entries? = none) :
      Refuses entity store (entity.wrongType value HashStep.expectation)
  | noArray {compose : List CollectionStep} {value : Value} (body : entity.body = .collection compose)
      (shape : value.items? = none) :
      Refuses entity store (entity.wrongType value CollectionStep.expectation)
  | invalid {schema options : Keyed Value} {validator : Validator} {value : Value}
      (body : entity.body = .schema schema options) (installed : store.validator = some validator)
      (verdict : (validator value (.object schema) (.object options)).valid = false) :
      Refuses entity store
        (Resolver.refused entity (validator value (.object schema) (.object options)))

/-- Failures of a compose step about what a step before it has found. -/
inductive StepRefuses (entity : Entity) : String → Failure → Prop where
  | noItems {first rest : List CollectionStep} {step : CollectionStep} {value : Value}
      (body : entity.body = .collection (first ++ step :: rest))
      (found : ∃ earlier ∈ first, earlier.Finds) (runs : step.reducer.isEmpty = false)
      (shape : value.items? = none) :
      StepRefuses entity step.name (entity.wrongType value CollectionStep.expectation)

end Entity

namespace Coupling

/-- Two resolvers give tied runs of one reducer on tied accumulators. -/
def Keeps (coupling : Coupling) (left right : Resolver) (reducer : Reducer) : Prop :=
  ∀ ⦃l r⦄, coupling.state l r → coupling.Couples coupling.state (left reducer l) (right reducer r)

variable {coupling : Coupling} {left right : Resolver} {l r : Accumulator}

/-! ### Reducers in a row and side by side -/

theorem sequence {steps : List Reducer} (h : ∀ step ∈ steps, coupling.Keeps left right step)
    (tied : coupling.state l r) :
    coupling.Couples coupling.state (Resolver.sequence left steps l)
      (Resolver.sequence right steps r) := by
  induction steps generalizing l r with
  | nil => exact pure tied
  | cons step rest ih =>
      apply bind (h step List.mem_cons_self tied)
      intro next next' tied
      exact ih (fun other member => h other (List.mem_cons_of_mem _ member)) tied

theorem overItems {branch branch' : Accumulator → Run Accumulator} {items : List Value}
    (h : ∀ item ∈ items, coupling.Couples coupling.state (branch (l.withValue item))
      (branch' (r.withValue item))) :
    coupling.Couples Eq (Resolver.overItems branch l items)
      (Resolver.overItems branch' r items) := by
  apply fanOut
  intro item member
  exact map ((h item member).results coupling.value_eq)

theorem overKeys {keys : Keyed Reducer}
    (h : ∀ reducer ∈ keys.map Prod.snd, coupling.Keeps left right reducer)
    (tied : coupling.state l r) :
    coupling.Couples Eq (Resolver.overKeys left keys l) (Resolver.overKeys right keys r) := by
  have branches : coupling.Couples Eq
      (Run.fanOut (keys.map fun entry => (left entry.2 l).map Accumulator.value))
      (Run.fanOut (keys.map fun entry => (right entry.2 r).map Accumulator.value)) := by
    apply fanOut
    intro entry member
    exact map ((h entry.2 (List.mem_map_of_mem member) tied).results coupling.value_eq)
  exact map (branches.results fun same => congrArg _ same)

/-! ### Compose steps -/

theorem hashStep {step : HashStep} (h : ∀ reducer ∈ step.reducers, coupling.Keeps left right reducer)
    (tied : coupling.state l r) :
    coupling.Couples coupling.state (Resolver.hashStep left step l)
      (Resolver.hashStep right step r) := by
  have sameObject : Resolver.objectOf l = Resolver.objectOf r := by
    rw [Resolver.objectOf, Resolver.objectOf, coupling.value_eq tied]
  unfold Resolver.hashStep
  split
  · exact pure tied
  · cases step with
    | mapKeys keys =>
        apply bind (overKeys h tied)
        rintro computed _ rfl
        exact pure (coupling.state_withValue _ tied)
    | addKeys keys =>
        apply bind (overKeys h tied)
        rintro computed _ rfl
        rw [sameObject]
        exact pure (coupling.state_withValue _ tied)
    | addValues values =>
        simp only [sameObject]
        exact pure (coupling.state_withValue _ tied)
    | omitKeys keys =>
        simp only [sameObject]
        exact pure (coupling.state_withValue _ tied)
    | pickKeys keys =>
        simp only [sameObject]
        exact pure (coupling.state_withValue _ tied)

theorem hashSteps {entity : Entity} {steps : List HashStep}
    (h : ∀ step ∈ steps, ∀ reducer ∈ step.reducers,
      (coupling.marked (entity.place step.name)).Keeps left right reducer)
    (tied : coupling.state l r) :
    coupling.Couples coupling.state (Resolver.hashSteps left entity steps l)
      (Resolver.hashSteps right entity steps r) := by
  induction steps generalizing l r with
  | nil => exact pure tied
  | cons step rest ih =>
      apply bind (annotate (hashStep (h step List.mem_cons_self) tied))
      intro next next' tied
      exact ih (fun other member => h other (List.mem_cons_of_mem _ member)) tied

/-- A step on an array leaves an array unless it finds one item. -/
theorem collectionStep (entity : Entity) {step : CollectionStep}
    (h : coupling.Keeps left right step.reducer)
    (refuses : step.reducer.isEmpty = false → l.value.items? = none →
      coupling.failure [] [] (entity.wrongType l.value CollectionStep.expectation)
        (entity.wrongType l.value CollectionStep.expectation))
    (tied : coupling.state l r) :
    coupling.Couples
      (fun next next' => coupling.state next next' ∧
        (step.Finds ∨ (l.value.items?.isSome → next.value.items?.isSome)))
      (Resolver.collectionStep left entity step l)
      (Resolver.collectionStep right entity step r) := by
  rw [Resolver.collectionStep, Resolver.collectionStep, ← coupling.value_eq tied]
  split
  · exact pure ⟨tied, .inr id⟩
  · rename_i notEmpty
    have runs : step.reducer.isEmpty = false := by simpa using notEmpty
    split
    · apply bind (overItems fun item _ => h (coupling.state_withValue item tied))
      rintro results _ rfl
      apply pure
      refine ⟨coupling.state_withValue _ tied, ?_⟩
      cases step with
      | map reducer => exact .inr fun _ => rfl
      | filter reducer => exact .inr fun _ => rfl
      | find reducer => exact .inl ⟨reducer, rfl, runs⟩
    · rename_i notArray
      apply fail
      apply refuses runs
      cases value : l.value <;> first | rfl | exact absurd value (notArray _)

/-- The steps of a collection in order. `first` are those that have been taken: what is left is an
    array as long as none of them has found one item. -/
theorem collectionSteps {entity : Entity} {steps : List CollectionStep}
    (h : ∀ step ∈ steps, (coupling.marked (entity.place step.name)).Keeps left right step.reducer)
    (refuses : ∀ {name failure}, entity.StepRefuses name failure →
      coupling.failure [] [] (failure.annotate (entity.place name))
        (failure.annotate (entity.place name)))
    {first : List CollectionStep} (body : entity.body = .collection (first ++ steps))
    (shape : l.value.items?.isSome ∨ ∃ earlier ∈ first, earlier.Finds) (tied : coupling.state l r) :
    coupling.Couples coupling.state (Resolver.collectionSteps left entity steps l)
      (Resolver.collectionSteps right entity steps r) := by
  induction steps generalizing first l r with
  | nil => exact pure tied
  | cons step rest ih =>
      have one := collectionStep entity (h step List.mem_cons_self)
        (fun runs noArray => by
          rcases shape with isArray | found
          · simp [noArray] at isArray
          · exact refuses (.noItems body found runs noArray))
        tied
      apply bind (annotate one)
      rintro next next' ⟨tied, keeps⟩
      have body' : entity.body = .collection ((first ++ [step]) ++ rest) := by
        rw [body, List.append_assoc, List.singleton_append]
      have shape' : next.value.items?.isSome ∨ ∃ earlier ∈ first ++ [step], earlier.Finds := by
        rcases keeps with finds | keeps
        · exact .inr ⟨step, by simp, finds⟩
        · rcases shape with isArray | ⟨earlier, member, finds⟩
          · exact .inl (keeps isArray)
          · exact .inr ⟨earlier, List.mem_append_left _ member, finds⟩
      exact ih (fun other member => h other (List.mem_cons_of_mem _ member)) body' shape' tied

end Coupling

end Reshape
