/-
Module: Reshape.Accumulator.Reading
Layer: State
Purpose: What reducers can read out of an accumulator: the record that shows all of it, its single
  fields, and the leaf of a path.
Main exports: Accumulator.record, Accumulator.field?, Accumulator.read, Accumulator.readText
-/
import Reshape.Accumulator.Basic
import Reshape.Path.Lookup

namespace Reshape

/-- A failure as reducers see it. -/
def Failure.view (failure : Failure) : Value :=
  .object [("kind", .string failure.kind.name), ("message", .string failure.message)]

namespace Accumulator

/-- The whole accumulator as an object. A failure shows only when one is attached. -/
def record (acc : Accumulator) : Value :=
  .object <|
    (match acc.failure with
      | none => []
      | some failure => [("error", failure.view)]) ++
    [("locals", .object acc.locals), ("params", acc.params.view), ("value", acc.value),
      ("values", .object acc.values)]

/-- One field of the record, found without building the record. -/
def field? (acc : Accumulator) (name : String) : Option Value :=
  if name = "value" then some acc.value
  else if name = "locals" then some (.object acc.locals)
  else if name = "params" then some acc.params.view
  else if name = "values" then some (.object acc.values)
  else if name = "error" then acc.failure.map Failure.view
  else none

/-- What a path reads where there is nothing to start from. -/
def nothing (isCollection : Bool) : Value :=
  if isCollection then .null else .undefined

/-- What a path reads. A path into the accumulator names a field first; without segments it reads the
    record. -/
def read (acc : Accumulator) (path : Path) : Value :=
  match path.root, path.segments with
  | .value, segments => acc.value.read segments path.isCollection
  | .accumulator, [] => acc.record.read [] path.isCollection
  | .accumulator, .key name :: rest =>
    match acc.field? name with
    | some root => root.read rest path.isCollection
    | none => nothing path.isCollection
  | .accumulator, .index _ :: _ => nothing path.isCollection

/-- What a path given as text reads; a text that is no path is a malformed specification. -/
def readText (acc : Accumulator) (text : String) : Except Failure Value :=
  match Path.parse text with
  | .ok path => .ok (acc.read path)
  | .error fault => .error (.invalidSpec ("invalid path '" ++ text ++ "': " ++ fault.message))

end Accumulator

end Reshape
