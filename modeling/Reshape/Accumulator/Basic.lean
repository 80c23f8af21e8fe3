/-
Module: Reshape.Accumulator.Basic
Layer: State
Purpose: What one step of a transformation hands to the next: the value in work and the context that
  reducers may read.
Main exports: Params, Accumulator, Accumulator.ofValue, Accumulator.withValue, Accumulator.withLocal,
  Accumulator.withReference, Accumulator.owner
-/
import Reshape.Failure
import Reshape.Reducer.Reference
import Reshape.Value.Basic

namespace Reshape

/-- The parameters of one transformation: whether it is traced, whether somebody watches entities
    being entered, and the caller's own values. -/
structure Params where
  trace : Bool
  isWatched : Bool
  values : Keyed Value
  deriving Inhabited

namespace Params

/-- No trace, no watcher, no values. -/
def empty : Params :=
  ⟨false, false, []⟩

/-- The parameters as reducers see them. The trace flag covers a value of that name. -/
def view (params : Params) : Value :=
  .object (Keyed.insert params.values "trace" (.bool params.trace))

end Params

/-- The state between two steps. `reference` is the one by which the entity that is being resolved was
    entered, with its mark, and `failure` is the failure that its error hook is handling. -/
structure Accumulator where
  value : Value
  locals : Keyed Value
  params : Params
  values : Keyed Value
  reference : Option Reference
  failure : Option Failure
  deriving Inhabited

namespace Accumulator

/-- A first accumulator, outside every store and entity. -/
def start (value : Value) (locals : Keyed Value) (params : Params) : Accumulator :=
  ⟨value, locals, params, [], none, none⟩

/-- A first accumulator without locals and parameters. -/
def ofValue (value : Value) : Accumulator :=
  start value [] Params.empty

/-- The accumulator with another value and the same context. -/
def withValue (acc : Accumulator) (value : Value) : Accumulator :=
  { acc with value := value }

/-- The accumulator with other locals. -/
def withLocals (acc : Accumulator) (locals : Keyed Value) : Accumulator :=
  { acc with locals := locals }

/-- The accumulator with one local set. -/
def withLocal (acc : Accumulator) (key : String) (value : Value) : Accumulator :=
  acc.withLocals (Keyed.insert acc.locals key value)

/-- The accumulator with other store values. -/
def withValues (acc : Accumulator) (values : Keyed Value) : Accumulator :=
  { acc with values := values }

/-- The accumulator inside the entity that is entered by a reference, or outside all entities. -/
def withReference (acc : Accumulator) (reference : Option Reference) : Accumulator :=
  { acc with reference := reference }

/-- The accumulator with a failure attached, or with none. -/
def withFailure (acc : Accumulator) (failure : Option Failure) : Accumulator :=
  { acc with failure := failure }

/-- The id of the entity that owns the accumulator. -/
def owner (acc : Accumulator) : Option String :=
  acc.reference.map Reference.id

/-! ### The context survives a change of value -/

@[simp] theorem value_withValue (acc : Accumulator) (value : Value) :
    (acc.withValue value).value = value := rfl

@[simp] theorem withValue_withValue (acc : Accumulator) (first second : Value) :
    (acc.withValue first).withValue second = acc.withValue second := rfl

@[simp] theorem withValue_value (acc : Accumulator) : acc.withValue acc.value = acc := rfl

end Accumulator

end Reshape
