/-
Module: Reshape.Transform
Layer: Resolution
Purpose: A whole transformation: compile a specification, start from an input, resolve.
Main exports: Store.transform, Store.depthLimit
-/
import Reshape.Options
import Reshape.Reducer.Spec
import Reshape.Resolution.Basic

namespace Reshape

namespace Store

/-- How deep reducers may nest in a transformation. Definitions that do not refer to themselves need
    only as much as they nest, whatever the input. -/
def depthLimit : Nat :=
  1000000

/-- The accumulator that a transformation starts from: the input, the options, the store values. -/
def start (store : Store) (input : Value) (options : Options) : Accumulator :=
  (Accumulator.start input options.locals options.params).withValues store.values

/-- Transforms an input by a specification. -/
def transform (store : Store) (spec : Spec) (input : Value) (options : Options) :
    Run Accumulator :=
  match spec.compile with
  | .error failure => Run.fail failure
  | .ok reducer => store.resolve depthLimit reducer (store.start input options)

end Store

end Reshape
