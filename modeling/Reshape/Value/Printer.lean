/-
Module: Reshape.Value.Printer
Layer: Data
Purpose: The two texts of a value: the compact one that messages quote, and the description that
  names every constructor.
Main exports: Value.display, Value.inspect, Value.describe
-/
import Reshape.Decimal.Layout
import Reshape.Text.Bracketed
import Reshape.Value.Basic

namespace Reshape

namespace Value

/-! ### Compact text -/

/-- Doubles in the compact text never have an exponent part, and whole ones no point. -/
def displayNumber : Decimal.Layout where
  isPlain := fun _ => true
  pointZero := false
  exponentPlus := false
  tie := .up

mutual

/-- The compact text of a value; strings and keys are quoted. -/
def display : Value → String
  | .undefined => "undefined"
  | .null => "null"
  | .bool b => Text.boolean b
  | .int n => toString n.toInt
  | .float x => displayNumber.render x
  | .string s => Text.quoted s
  | .array items => "[" ++ ",".intercalate (displayItems items) ++ "]"
  | .object entries => "\x7b" ++ ",".intercalate (displayEntries entries) ++ "\x7d"

/-- The compact text of each item. -/
def displayItems : List Value → List String
  | [] => []
  | item :: rest => display item :: displayItems rest

/-- The compact text of each entry. -/
def displayEntries : List (String × Value) → List String
  | [] => []
  | (key, value) :: rest => (Text.quoted key ++ ":" ++ display value) :: displayEntries rest

end

/-- The first `limit` characters of the compact text. -/
def inspect (value : Value) (limit : Nat) : String :=
  String.ofList (value.display.toList.take limit)

/-! ### Description -/

/-- Doubles in a description are written plainly from `1e-4` up to `1e16`, and whole ones end in
    `.0`. -/
def describeNumber : Decimal.Layout where
  isPlain := fun exponent => decide (-4 ≤ exponent ∧ exponent < 16)
  pointZero := true
  exponentPlus := false
  tie := .up

mutual

/-- The description of a value. -/
def describe : Value → String
  | .undefined => "Undefined"
  | .null => "Null"
  | .bool b => Text.tagged "Bool" (Text.boolean b)
  | .int n => Text.tagged "Int" (toString n.toInt)
  | .float x => Text.tagged "Float" (describeNumber.render x)
  | .string s => Text.tagged "String" (Text.quoted s)
  | .array items => Text.tagged "Array" (Text.bracketed (describeItems items))
  | .object entries => Text.tagged "Object" (Text.braced (describeEntries entries))

/-- The description of each item. -/
def describeItems : List Value → List String
  | [] => []
  | item :: rest => describe item :: describeItems rest

/-- The description of each entry's value, under its key. -/
def describeEntries : List (String × Value) → List (String × String)
  | [] => []
  | (key, value) :: rest => (key, describe value) :: describeEntries rest

end

end Value

end Reshape
