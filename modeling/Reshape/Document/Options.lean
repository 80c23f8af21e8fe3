/-
Module: Reshape.Document.Options
Layer: Documents
Purpose: Reading options from JSON.
Main exports: Options.ofJson
-/
import Reshape.Document.Problem
import Reshape.Json.Value
import Reshape.Options

namespace Reshape

open Document (Problem)

namespace Options

/-- The names of the fields, in the order of the sequence form. A watcher cannot be written down. -/
def fieldNames : List String :=
  ["locals", "params", "trace"]

/-- Reads one field into the options; fields of other names are passed over. -/
def readField (options : Options) (field : String) (json : Json) : Except Problem Options :=
  let values : Json → Except Problem (Keyed Value) :=
    Document.mapOf fun json => .ok (Value.ofJson json)
  if field = "locals" then (values json).map fun read => { options with locals := read }
  else if field = "params" then (values json).map fun read => { options with values := read }
  else if field = "trace" then
    (Document.boolean json).map fun read => { options with trace := read }
  else .ok options

/-- Reads fields in order. -/
def readFields (options : Options) : List (String × Json) → Except Problem Options
  | [] => .ok options
  | (field, json) :: rest => do
    let options ← readField options field json
    readFields options rest

/-- Reads options: an object, or a sequence of fields in order. What is missing is as in
    `Options.empty`. -/
def ofJson : Json → Except Problem Options
  | .object members => readFields empty members
  | .array items => do
    let options ← readFields empty (fieldNames.zip items)
    if fieldNames.length < items.length then
      .error (.invalidLength items.length "fewer elements in array")
    else .ok options
  | other => .error (.invalidType other "struct TransformOptions")

end Options

end Reshape
