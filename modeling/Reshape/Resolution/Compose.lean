/-
Module: Reshape.Resolution.Compose
Layer: Resolution
Purpose: Running reducers in a row and side by side, and the compose steps of hashes and collections.
  Keys and items are all resolved on the accumulator as it was before the step.
Main exports: Resolver, Resolver.sequence, Resolver.overItems, Resolver.overKeys, Resolver.hashStep,
  Resolver.collectionStep, Entity.wrongType, Failure.Blames
-/
import Reshape.Entity.Basic
import Reshape.Accumulator.Printer

namespace Reshape

/-- A way to resolve reducers. -/
abbrev Resolver : Type :=
  Reducer → Accumulator → Run Accumulator

/-- How much of a value a message about its type quotes. -/
def Entity.quoteLength : Nat :=
  15

/-- The failure of an entity that was given a value of the wrong type. -/
def Entity.wrongType (entity : Entity) (value : Value) (expectation : String) : Failure :=
  .wrongType ("\"" ++ entity.id ++ "\" received value " ++ value.inspect Entity.quoteLength ++
    " of type " ++ value.typeName ++ "; " ++ expectation)

/-- `failure.Blames entity value expectation`: the failure is about a type, and its message names the entity,
    the type of the value that it was given, and what it expects. -/
structure Failure.Blames (failure : Failure) (entity : Entity) (value : Value) (expectation : String) :
    Prop where
  kind : failure.kind = .wrongType
  message : ∃ quoted, failure.message = "\"" ++ entity.id ++ "\" received value " ++ quoted ++
    " of type " ++ value.typeName ++ "; " ++ expectation

theorem Entity.blames_wrongType (entity : Entity) (value : Value) (expectation : String) :
    (entity.wrongType value expectation).Blames entity value expectation :=
  ⟨rfl, _, rfl⟩

/-- What a hash has to say about values of the wrong type. -/
def HashStep.expectation : String :=
  "hash entities only process plain objects"

/-- What a collection has to say about values of the wrong type. -/
def CollectionStep.expectation : String :=
  "collection entities only process arrays"

/-- What a collection step makes of the items and of the reducer's result for each of them. -/
def CollectionStep.combine (step : CollectionStep) (items results : List Value) : Value :=
  match step with
  | .map _ => .array results
  | .filter _ =>
    .array ((items.zip results).filterMap fun (item, result) =>
      if result.isTruthy then some item else none)
  | .find _ =>
    Value.ofOption ((items.zip results).findSome? fun (item, result) =>
      if result.isTruthy then some item else none)

namespace Resolver

/-! ### In a row and side by side -/

/-- Runs reducers in order, each on the accumulator that the one before it left. -/
def sequence (resolve : Resolver) : List Reducer → Accumulator → Run Accumulator
  | [], acc => Run.pure acc
  | step :: rest, acc => do
    let next ← resolve step acc
    sequence resolve rest next

/-- The values that `branch` yields for each item in place of the value. -/
def overItems (branch : Accumulator → Run Accumulator) (acc : Accumulator) (items : List Value) :
    Run (List Value) :=
  Run.fanOut (items.map fun item => (branch (acc.withValue item)).map Accumulator.value)

/-- The values that the reducers under the keys yield. -/
def overKeys (resolve : Resolver) (keys : Keyed Reducer) (acc : Accumulator) :
    Run (Keyed Value) :=
  (Run.fanOut (keys.map fun entry => (resolve entry.2 acc).map Accumulator.value)).map
    (Keyed.keys keys).zip

/-! ### Compose steps -/

/-- The entries of an object; there are none in anything else. -/
def objectOf (acc : Accumulator) : Keyed Value :=
  acc.value.entries?.getD []

/-- One compose step of a hash. -/
def hashStep (resolve : Resolver) (step : HashStep) (acc : Accumulator) : Run Accumulator :=
  if step.isEmpty then Run.pure acc
  else
    match step with
    | .mapKeys keys => do
      let computed ← overKeys resolve keys acc
      Run.pure (acc.withValue (.object computed))
    | .addKeys keys => do
      let computed ← overKeys resolve keys acc
      Run.pure (acc.withValue (.object (Keyed.merge (objectOf acc) computed)))
    | .addValues values =>
      Run.pure (acc.withValue (.object (Keyed.merge (objectOf acc) values)))
    | .omitKeys keys => Run.pure (acc.withValue (.object (Keyed.without (objectOf acc) keys)))
    | .pickKeys keys => Run.pure (acc.withValue (.object (Keyed.only (objectOf acc) keys)))

/-- The compose steps of a hash, in order. -/
def hashSteps (resolve : Resolver) (entity : Entity) :
    List HashStep → Accumulator → Run Accumulator
  | [], acc => Run.pure acc
  | step :: rest, acc => do
    let next ← (hashStep resolve step acc).annotate (entity.place step.name)
    hashSteps resolve entity rest next

/-- One compose step of a collection. A step that finds one item may leave a value that is no array
    for the next step. -/
def collectionStep (resolve : Resolver) (entity : Entity) (step : CollectionStep)
    (acc : Accumulator) : Run Accumulator :=
  if step.reducer.isEmpty then Run.pure acc
  else
    match acc.value with
    | .array items => do
      let results ← overItems (resolve step.reducer) acc items
      Run.pure (acc.withValue (step.combine items results))
    | other => Run.fail (entity.wrongType other CollectionStep.expectation)

/-- The compose steps of a collection, in order. -/
def collectionSteps (resolve : Resolver) (entity : Entity) :
    List CollectionStep → Accumulator → Run Accumulator
  | [], acc => Run.pure acc
  | step :: rest, acc => do
    let next ← (collectionStep resolve entity step acc).annotate (entity.place step.name)
    collectionSteps resolve entity rest next

end Resolver

end Reshape
