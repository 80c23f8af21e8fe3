/-
Module: Reshape.Document.Definition
Layer: Documents
Purpose: Reading reducer specifications, compose steps and entity definitions from JSON. A definition
  may give its compose steps in order or, in their fixed order, as fields of their own.
Main exports: Spec.ofJson, Modifier.ofJson, Definition.Form, Definition.ofForm, Definition.ofJson
-/
import Reshape.Document.Problem
import Reshape.Entity.Definition
import Reshape.Json.Value

namespace Reshape

open Document (Problem)

/-! ### Specifications -/

namespace Spec

mutual

/-- Reads a specification: a text, or an array of specifications. -/
def ofJson : Json → Except Problem Spec
  | .string s => .ok (.text s)
  | .array items =>
    match ofJsonItems items with
    | .ok specs => .ok (.list specs)
    | .error problem => .error problem
  | other => .error (.invalidType other "a reducer string or an array of reducers")

/-- Reads specifications in order. -/
def ofJsonItems : List Json → Except Problem (List Spec)
  | [] => .ok []
  | item :: rest =>
    match ofJson item with
    | .error problem => .error problem
    | .ok spec =>
      match ofJsonItems rest with
      | .error problem => .error problem
      | .ok specs => .ok (spec :: specs)

end

end Spec

/-! ### Compose steps -/

namespace Modifier

/-- The names of the steps. -/
def names : List String :=
  ["mapKeys", "addKeys", "addValues", "omitKeys", "pickKeys", "map", "filter", "find"]

/-- Reads the operand of the step of that name. -/
def ofOperand (name : String) (operand : Json) : Except Problem Modifier :=
  if name = "mapKeys" then (Document.mapOf Spec.ofJson operand).map .mapKeys
  else if name = "addKeys" then (Document.mapOf Spec.ofJson operand).map .addKeys
  else if name = "addValues" then
    (Document.mapOf (fun json => .ok (Value.ofJson json)) operand).map .addValues
  else if name = "omitKeys" then (Document.listOf Document.string operand).map .omitKeys
  else if name = "pickKeys" then (Document.listOf Document.string operand).map .pickKeys
  else if name = "map" then (Spec.ofJson operand).map .map
  else if name = "filter" then (Spec.ofJson operand).map .filter
  else if name = "find" then (Spec.ofJson operand).map .find
  else .error (.unknownStep name names)

/-- Reads a step: an object whose only member is the step's name with its operand. -/
def ofJson : Json → Except Problem Modifier
  | .object [(name, operand)] => ofOperand name operand
  | .object _ => .error .notSingleMember
  | .string name => .error (if names.contains name then .bareStep else .unknownStep name names)
  | other => .error (.invalidType other "string or map")

end Modifier

/-! ### Definitions -/

namespace Definition

/-- The fields of a definition as they are written, null and absent ones alike left out. -/
structure Form where
  value : Option Spec := none
  before : Option Spec := none
  after : Option Spec := none
  error : Option Spec := none
  compose : Option (List Modifier) := none
  mapKeys : Option (Keyed Spec) := none
  omitKeys : Option (List String) := none
  pickKeys : Option (List String) := none
  addKeys : Option (Keyed Spec) := none
  addValues : Option (Keyed Value) := none
  map : Option Spec := none
  filter : Option Spec := none
  find : Option Spec := none
  schema : Option Value := none
  options : Option Value := none
  inspect : Bool := false

/-- The names of the fields, in the order of the sequence form. -/
def fieldNames : List String :=
  ["value", "before", "after", "error", "compose", "mapKeys", "omitKeys", "pickKeys", "addKeys",
    "addValues", "map", "filter", "find", "schema", "options", "inspect"]

/-- Reads one field into a form. -/
def readField (form : Form) (field : String) (json : Json) : Except Problem Form :=
  let spec := Document.optional Spec.ofJson
  let keys := Document.optional (Document.mapOf Spec.ofJson)
  let names := Document.optional (Document.listOf Document.string)
  let value : Json → Except Problem (Option Value) :=
    Document.optional fun json => .ok (Value.ofJson json)
  if field = "value" then (spec json).map fun read => { form with value := read }
  else if field = "before" then (spec json).map fun read => { form with before := read }
  else if field = "after" then (spec json).map fun read => { form with after := read }
  else if field = "error" then (spec json).map fun read => { form with error := read }
  else if field = "compose" then
    (Document.optional (Document.listOf Modifier.ofJson) json).map fun read =>
      { form with compose := read }
  else if field = "mapKeys" then (keys json).map fun read => { form with mapKeys := read }
  else if field = "omitKeys" then (names json).map fun read => { form with omitKeys := read }
  else if field = "pickKeys" then (names json).map fun read => { form with pickKeys := read }
  else if field = "addKeys" then (keys json).map fun read => { form with addKeys := read }
  else if field = "addValues" then
    (Document.optional (Document.mapOf fun json => .ok (Value.ofJson json)) json).map fun read =>
      { form with addValues := read }
  else if field = "map" then (spec json).map fun read => { form with map := read }
  else if field = "filter" then (spec json).map fun read => { form with filter := read }
  else if field = "find" then (spec json).map fun read => { form with find := read }
  else if field = "schema" then (value json).map fun read => { form with schema := read }
  else if field = "options" then (value json).map fun read => { form with options := read }
  else if field = "inspect" then
    (Document.boolean json).map fun read => { form with inspect := read }
  else .error (.unknownField field fieldNames)

/-- Reads fields in order. -/
def readFields (form : Form) : List (String × Json) → Except Problem Form
  | [] => .ok form
  | (field, json) :: rest => do
    let form ← readField form field json
    readFields form rest

/-- Reads the fields of a definition: an object, or a sequence of all fields in order, of which only
    the last may be missing. -/
def readForm : Json → Except Problem Form
  | .object members => readFields {} members
  | .array items => do
    let form ← readFields {} (fieldNames.zip items)
    if items.length + 1 < fieldNames.length then
      .error (.invalidLength items.length "struct RawEntitySpec with 16 elements")
    else if fieldNames.length < items.length then
      .error (.invalidLength items.length "fewer elements in array")
    else .ok form
  | other => .error (.invalidType other "struct RawEntitySpec")

/-- The compose steps that are written as fields of their own, in their fixed order. -/
def Form.shorthand (form : Form) : List Modifier :=
  [form.mapKeys.map .mapKeys, form.omitKeys.map .omitKeys, form.pickKeys.map .pickKeys,
    form.addKeys.map .addKeys, form.addValues.map .addValues, form.map.map .map,
    form.filter.map .filter, form.find.map .find].filterMap fun modifier => modifier

/-- The definition that a form amounts to. The two ways to write compose steps exclude each other,
    even when the ordered one is empty. -/
def ofForm (form : Form) : Except Problem Definition :=
  let withCompose (compose : List Modifier) : Definition :=
    { value := form.value, before := form.before, after := form.after, error := form.error,
      compose := compose, schema := form.schema, options := form.options, inspect := form.inspect }
  match form.compose, form.shorthand with
  | none, shorthand => .ok (withCompose shorthand)
  | some compose, [] => .ok (withCompose compose)
  | some _, shorthand => .error (.mixedForms (shorthand.map Modifier.name))

/-- Reads a definition. -/
def ofJson (json : Json) : Except Problem Definition := do
  let form ← readForm json
  ofForm form

end Definition

end Reshape
