/-
Module: Reshape.Entity.Definition
Layer: Language
Purpose: Entities as callers define them: specifications in slots, compose steps, and the payload of
  schemas.
Main exports: Modifier, Modifier.name, Modifier.describe, Definition
-/
import Reshape.Accumulator.Printer
import Reshape.Reducer.Spec

namespace Reshape

/-- One compose step as its caller writes it. -/
inductive Modifier where
  /-- Replace the object by one with these keys. -/
  | mapKeys (keys : Keyed Spec)
  /-- Add computed keys to the object. -/
  | addKeys (keys : Keyed Spec)
  /-- Add given keys to the object. -/
  | addValues (values : Keyed Value)
  /-- Drop keys from the object. -/
  | omitKeys (keys : List String)
  /-- Keep only some keys of the object. -/
  | pickKeys (keys : List String)
  /-- Replace every item of the array. -/
  | map (spec : Spec)
  /-- Keep the items of the array for which the reducer says yes. -/
  | filter (spec : Spec)
  /-- Take the first item of the array for which the reducer says yes. -/
  | find (spec : Spec)

namespace Modifier

/-- The name of a step in definitions and messages. -/
def name : Modifier → String
  | .mapKeys _ => "mapKeys"
  | .addKeys _ => "addKeys"
  | .addValues _ => "addValues"
  | .omitKeys _ => "omitKeys"
  | .pickKeys _ => "pickKeys"
  | .map _ => "map"
  | .filter _ => "filter"
  | .find _ => "find"

/-- The description of specifications under keys. -/
def describeKeys (keys : Keyed Spec) : String :=
  Text.braced (Keyed.mapValues Spec.describe keys)

/-- The description of a list of names. -/
def describeNames (names : List String) : String :=
  Text.bracketed (names.map Text.quoted)

/-- The description of a step. -/
def describe : Modifier → String
  | .mapKeys keys => Text.tagged "MapKeys" (describeKeys keys)
  | .addKeys keys => Text.tagged "AddKeys" (describeKeys keys)
  | .addValues values => Text.tagged "AddValues" (Value.describeMap values)
  | .omitKeys names => Text.tagged "OmitKeys" (describeNames names)
  | .pickKeys names => Text.tagged "PickKeys" (describeNames names)
  | .map spec => Text.tagged "Map" spec.describe
  | .filter spec => Text.tagged "Filter" spec.describe
  | .find spec => Text.tagged "Find" spec.describe

end Modifier

/-- The definition of one entity. Without a `value` the entity keeps the value it is given. -/
structure Definition where
  value : Option Spec := none
  before : Option Spec := none
  after : Option Spec := none
  error : Option Spec := none
  compose : List Modifier := []
  schema : Option Value := none
  options : Option Value := none
  inspect : Bool := false

end Reshape
