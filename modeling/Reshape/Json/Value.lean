/-
Module: Reshape.Json.Value
Layer: Data
Purpose: Values as JSON documents and back, and the text of a value written without the detour
  through a document.
Main exports: Value.toJson, Value.ofJson, Value.serialize, Value.parse?
-/
import Reshape.Json.Parser
import Reshape.Json.Printer
import Reshape.Value.Basic

namespace Reshape

namespace Value

mutual

/-- The document of a value. What JSON cannot say becomes null: the missing value, the infinities
    and NaN. -/
def toJson : Value → Json
  | .undefined => .null
  | .null => .null
  | .bool b => .bool b
  | .int n => .int n.toInt
  | .float x => if x.isFinite then .float x else .null
  | .string s => .string s
  | .array items => .array (toJsonItems items)
  | .object entries => .object (toJsonEntries entries)

/-- The document of each item. -/
def toJsonItems : List Value → List Json
  | [] => []
  | item :: rest => toJson item :: toJsonItems rest

/-- The document of each entry's value. -/
def toJsonEntries : List (String × Value) → List (String × Json)
  | [] => []
  | (key, value) :: rest => (key, toJson value) :: toJsonEntries rest

end

/-- The value of an integer: an integer while it fits in 64 bits with a sign, the nearest double
    otherwise. -/
def ofInt (n : Int) : Value :=
  if Int64.minValue.toInt ≤ n ∧ n ≤ Int64.maxValue.toInt then .int (Int64.ofInt n)
  else .float (Binary64.ofInt n)

mutual

/-- The value of a document. -/
def ofJson : Json → Value
  | .null => .null
  | .bool b => .bool b
  | .int n => ofInt n
  | .float x => .float x
  | .string s => .string s
  | .array items => .array (ofJsonItems items)
  | .object members => .object (ofJsonMembers members)

/-- The value of each item. -/
def ofJsonItems : List Json → List Value
  | [] => []
  | item :: rest => ofJson item :: ofJsonItems rest

/-- The value of each member. -/
def ofJsonMembers : List (String × Json) → List (String × Value)
  | [] => []
  | (key, json) :: rest => (key, ofJson json) :: ofJsonMembers rest

end

mutual

/-- The JSON text of a value. -/
def serializeChars : Value → List Char
  | .undefined => ['n', 'u', 'l', 'l']
  | .null => ['n', 'u', 'l', 'l']
  | .bool true => ['t', 'r', 'u', 'e']
  | .bool false => ['f', 'a', 'l', 's', 'e']
  | .int n => Json.printInt n.toInt
  | .float x => Json.printNumber x
  | .string s => Json.quoted s
  | .array items => '[' :: serializeItems true items
  | .object entries => '\x7b' :: serializeEntries true entries

/-- The items with the closing bracket; a comma stands before every item but the first. -/
def serializeItems (first : Bool) : List Value → List Char
  | [] => [']']
  | item :: rest =>
    (if first then [] else [',']) ++ serializeChars item ++ serializeItems false rest

/-- The entries with the closing brace; a comma stands before every entry but the first. -/
def serializeEntries (first : Bool) : List (String × Value) → List Char
  | [] => ['\x7d']
  | (key, value) :: rest =>
    (if first then [] else [',']) ++ Json.quoted key ++ ':' :: serializeChars value ++
      serializeEntries false rest

end

/-- The JSON text of a value. -/
def serialize (value : Value) : String :=
  String.ofList value.serializeChars

/-- The value that a JSON text holds. -/
def parse? (text : String) : Option Value :=
  (Json.parse? Json.nestingLimit text).map ofJson

end Value

end Reshape
