/-
Module: Reshape.Reducer.Basic
Layer: Language
Purpose: Reducers, the compiled steps of a transformation.
Main exports: Reducer, Reducer.identity, Reducer.isEmpty, Reducer.references, Reducer.describe
-/
import Reshape.Path.Basic
import Reshape.Reducer.Function
import Reshape.Reducer.Reference

namespace Reshape

/-- A step from one accumulator to the next. -/
inductive Reducer where
  /-- Reads a value out of the accumulator. -/
  | path (target : Path)
  /-- Calls a function. -/
  | function (f : Function)
  /-- Runs its steps in order. -/
  | list (steps : List Reducer)
  /-- Resolves an entity of the store. -/
  | entity (reference : Reference)
  deriving Inhabited

namespace Reducer

/-- The reducer that keeps the value. -/
def identity : Reducer :=
  .path Path.identity

/-- The reducer without steps. -/
def empty : Reducer :=
  .list []

/-- The reducer is a list without steps. Compose steps with such a reducer are skipped. -/
def isEmpty : Reducer → Bool
  | .list [] => true
  | _ => false

/-- The name of the kind of reducer. -/
def typeName : Reducer → String
  | .path _ => "path"
  | .function _ => "function"
  | .list _ => "list"
  | .entity _ => "entity"

mutual

/-- The references of a reducer, in the order in which they stand. -/
def references : Reducer → List Reference
  | .path _ => []
  | .function _ => []
  | .list steps => stepReferences steps
  | .entity reference => [reference]

/-- The references of each step. -/
def stepReferences : List Reducer → List Reference
  | [] => []
  | step :: rest => references step ++ stepReferences rest

end

mutual

/-- The description of a reducer. -/
def describe : Reducer → String
  | .path target => Text.tagged "Path" ("$" ++ target.raw)
  | .function f => Text.tagged "Function" f.style
  | .list steps => Text.tagged "List" (Text.bracketed (describeSteps steps))
  | .entity reference => Text.tagged "Entity" reference.display

/-- The description of each step. -/
def describeSteps : List Reducer → List String
  | [] => []
  | step :: rest => describe step :: describeSteps rest

end

end Reducer

end Reshape
