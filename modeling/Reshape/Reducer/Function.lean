/-
Module: Reshape.Reducer.Function
Layer: Language
Purpose: Functions supplied by the caller, in four calling conventions, and what running them does.
Main exports: Reply, Function, Function.style, Function.call, Function.apply
-/
import Reshape.Run

namespace Reshape

/-- What a function answers: the notes it wrote while it ran, and a result or a failure. -/
structure Reply (α : Type) where
  notes : List (String × Value)
  result : Except Failure α

/-- A function supplied by the caller. The first three conventions replace the accumulator's value,
    the last one the whole accumulator. -/
inductive Function where
  /-- Answers when it returns. -/
  | sync (body : Accumulator → Reply Value)
  /-- Answers later. -/
  | future (body : Accumulator → Reply Value)
  /-- Is handed a continuation; nothing if it drops that without a result. -/
  | callback (body : Accumulator → Reply (Option Value))
  /-- Answers with an accumulator. -/
  | context (body : Accumulator → Reply Accumulator)

namespace Function

/-- The name of the calling convention. -/
def style : Function → String
  | .sync _ => "sync"
  | .future _ => "future"
  | .callback _ => "callback"
  | .context _ => "accumulator"

/-- The description of a function, of which only its convention shows. -/
def describe (function : Function) : String :=
  "ReducerFunction::" ++ function.style

/-- The failure of a function that dropped its continuation. -/
def dropped : Failure :=
  .resolution "function reducer dropped its continuation without a result"

/-- The run of one call: the accumulator is handed over, then the notes are written. -/
def run {α : Type} (acc : Accumulator) (reply : Reply α) : Run α :=
  ⟨.called acc :: reply.notes.map fun note => .noted note.1 note.2, (Run.ofExcept reply.result).ending⟩

/-- Runs a function for its value. -/
def call (function : Function) (acc : Accumulator) : Run Value :=
  match function with
  | .sync body => run acc (body acc)
  | .future body => run acc (body acc)
  | .callback body => do
    match ← run acc (body acc) with
    | some value => Run.pure value
    | none => Run.fail dropped
  | .context body => do
    let next ← run acc (body acc)
    Run.pure next.value

/-- Runs a function as a step: a value replaces the value, an accumulator everything. -/
def apply (function : Function) (acc : Accumulator) : Run Accumulator :=
  match function with
  | .context body => run acc (body acc)
  | function => do
    let value ← function.call acc
    Run.pure (acc.withValue value)

end Function

end Reshape
