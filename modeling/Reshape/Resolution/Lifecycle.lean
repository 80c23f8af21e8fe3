/-
Module: Reshape.Resolution.Lifecycle
Layer: Resolution
Purpose: The life of an entity: it is entered, runs `before`, its body and `after`, and on a failure
  its `error` hook, which sees the accumulator that the entity was entered with.
Main exports: Resolver.body, Resolver.lifecycle, Resolver.recover, Resolver.enter,
  Resolver.reference
-/
import Reshape.Resolution.Compose
import Reshape.Store.Basic

namespace Reshape

namespace Resolver

/-- Runs the reducer in a slot; a failure is marked with the slot. -/
def slot (resolve : Resolver) (entity : Entity) (name : String) (reducer : Reducer)
    (acc : Accumulator) : Run Accumulator :=
  (resolve reducer acc).annotate (entity.place name)

/-- Runs the reducer in a slot that may be vacant. -/
def hook (resolve : Resolver) (entity : Entity) (name : String) (reducer : Option Reducer)
    (acc : Accumulator) : Run Accumulator :=
  match reducer with
  | none => Run.pure acc
  | some reducer => slot resolve entity name reducer acc

/-! ### Bodies -/

/-- The failure of a schema whose validator refuses the value. -/
def refused (entity : Entity) (verdict : Verdict) : Failure :=
  .validation
    ("\"" ++ entity.id ++ "\" value failed schema validation: " ++ "; ".intercalate verdict.errors)
    verdict.errors

/-- Has the value validated, if there is a validator. -/
def validate (store : Store) (entity : Entity) (schema options : Keyed Value)
    (acc : Accumulator) : Run Accumulator :=
  match store.validator with
  | none => Run.pure acc
  | some validator =>
    let verdict := validator acc.value (.object schema) (.object options)
    if verdict.valid then Run.pure acc else Run.fail (refused entity verdict)

/-- The compose steps of a hash, on an object. -/
def composeHash (resolve : Resolver) (entity : Entity) (compose : List HashStep)
    (acc : Accumulator) : Run Accumulator :=
  match acc.value with
  | .object _ => hashSteps resolve entity compose acc
  | other => Run.fail (entity.wrongType other HashStep.expectation)

/-- The compose steps of a collection, on an array. -/
def composeCollection (resolve : Resolver) (entity : Entity) (compose : List CollectionStep)
    (acc : Accumulator) : Run Accumulator :=
  match acc.value with
  | .array _ => collectionSteps resolve entity compose acc
  | other => Run.fail (entity.wrongType other CollectionStep.expectation)

/-- The value of an entity and what its type does with it. -/
def body (store : Store) (resolve : Resolver) (entity : Entity) (acc : Accumulator) :
    Run Accumulator := do
  let acc ← slot resolve entity "value" entity.value acc
  match entity.body with
  | .entry => Run.pure acc
  | .hash compose => composeHash resolve entity compose acc
  | .collection compose => composeCollection resolve entity compose acc
  | .schema schema options => validate store entity schema options acc

/-! ### The life of an entity -/

/-- The part of an entity's life that its error hook guards. -/
def lifecycle (store : Store) (resolve : Resolver) (entity : Entity) (acc : Accumulator) :
    Run Accumulator := do
  let acc ← hook resolve entity "before" entity.before acc
  let acc ← body store resolve entity acc
  hook resolve entity "after" entity.after acc

/-- Lets the error hook take up a failure. A value recovers, the missing value declines, and a failure
    of the hook covers the first one. -/
def recover (resolve : Resolver) (entity : Entity) (acc : Accumulator) (failure : Failure) :
    Run Accumulator :=
  match entity.error with
  | none => Run.fail failure
  | some reducer =>
    let run := resolve reducer (acc.withFailure (some failure))
    ⟨.recovering entity.id failure :: run.events,
      match run.ending with
      | .finished recovered =>
        if recovered.value.isUndefined then .failed failure
        else .finished (recovered.withFailure none)
      | .failed second =>
        .failed (.recoveryExhausted (entity.place "error" ++ " " ++ second.message) failure)
      | .unfinished => .unfinished⟩

/-- Shows the accumulator to the watcher, if the entity is to be inspected and there is one. -/
def inspect (entity : Entity) (acc : Accumulator) : Run Unit :=
  if entity.inspects && acc.params.isWatched then Run.event (.inspected acc) else Run.pure ()

/-- The life of an entity on an accumulator. While it lasts, the accumulator has the reference, marked or
    not, by which the entity is entered. -/
def enter (store : Store) (resolve : Resolver) (reference : Reference) (entity : Entity)
    (acc : Accumulator) : Run Accumulator :=
  let entered := acc.withReference (some reference)
  let life : Run Accumulator := do
    inspect entity entered
    (lifecycle store resolve entity entered).orElse (recover resolve entity entered)
  (life.bracket reference).map fun resolved => resolved.withReference acc.reference

/-- Resolves a reference. With the mark for "every element" the entity is entered once for each item
    of an array, and anything else gives null. -/
def reference (store : Store) (resolve : Resolver) (reference : Reference) (acc : Accumulator) :
    Run Accumulator := do
  Run.event (.sought reference.id)
  let entity ← Run.ofExcept (store.seek reference.id)
  if reference.isCollection then
    match acc.value with
    | .array items => do
      let values ← overItems (enter store resolve reference entity) acc items
      Run.pure (acc.withValue (.array values))
    | _ => Run.pure (acc.withValue .null)
  else enter store resolve reference entity acc

end Resolver

end Reshape
