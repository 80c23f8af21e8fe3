/-
Module: Reshape.Resolution.Basic
Layer: Resolution
Purpose: Resolving reducers. Entities may refer to themselves, so the nesting of reducers is limited,
  and a run that would nest deeper stays unfinished; whatever ends within some limit ends in the same
  way within every greater one.
Main exports: Store.resolve, Store.Resolves
-/
import Reshape.Accumulator.Reading
import Reshape.Resolution.Lifecycle

namespace Reshape

namespace Store

/-- Resolves a reducer, with reducers nested at most `depth` deep. -/
def resolve (store : Store) : Nat → Resolver
  | 0, _, _ => Run.stop
  | depth + 1, reducer, acc =>
    match reducer with
    | .path path => Run.pure (acc.withValue (acc.read path))
    | .function function => function.apply acc
    | .list steps => Resolver.sequence (resolve store depth) steps acc
    | .entity reference => Resolver.reference store (resolve store depth) reference acc

/-- Resolving a reducer comes to an end, with the given events and ending. -/
def Resolves (store : Store) (reducer : Reducer) (acc : Accumulator) (run : Run Accumulator) :
    Prop :=
  run.ending ≠ .unfinished ∧ ∃ depth, store.resolve depth reducer acc = run

end Store

end Reshape
