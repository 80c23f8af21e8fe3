/-
Module: Reshape.Value.Basic
Layer: Data
Purpose: The values that flow through a transformation: JSON, with integers kept apart from other
  numbers and with an explicit value for what is missing.
Main exports: Value, Value.typeName, Value.isTruthy, Value.get?, Value.ofNat, Value.ofOption,
  Value.ofPairs
-/
import Reshape.Binary64
import Reshape.Keyed

namespace Reshape

/-- A value. `undefined` is what a look-up that finds nothing yields, `null` an explicit null.
    The entries of an object ascend by key (`Value.Ordered`). -/
inductive Value where
  | undefined
  | null
  | bool (b : Bool)
  | int (n : Int64)
  | float (x : Binary64)
  | string (s : String)
  | array (items : List Value)
  | object (entries : List (String × Value))
  deriving Inhabited

namespace Value

/-- The name of a value's type in messages. Both kinds of number have one name. -/
def typeName : Value → String
  | .undefined => "undefined"
  | .null => "null"
  | .bool _ => "boolean"
  | .int _ => "number"
  | .float _ => "number"
  | .string _ => "string"
  | .array _ => "array"
  | .object _ => "object"

/-- What `filter` and `find` take for a yes. Nothing, null, `false`, zero, NaN and the empty text are
    a no; arrays and objects are a yes even when they are empty. -/
def isTruthy : Value → Bool
  | .undefined => false
  | .null => false
  | .bool b => b
  | .int n => n != 0
  | .float x => !x.isZero && !x.isNaN
  | .string s => s != ""
  | .array _ => true
  | .object _ => true

/-! ### Views -/

/-- The value is the missing one. -/
def isUndefined : Value → Bool
  | .undefined => true
  | _ => false

/-- The value is an explicit null. -/
def isNull : Value → Bool
  | .null => true
  | _ => false

/-- The value is a number of either kind. -/
def isNumber : Value → Bool
  | .int _ => true
  | .float _ => true
  | _ => false

/-- The truth value of a boolean. -/
def bool? : Value → Option Bool
  | .bool b => some b
  | _ => none

/-- The integer of an integer value; other numbers have none, whole or not. -/
def int? : Value → Option Int64
  | .int n => some n
  | _ => none

/-- The number as a double, rounded if an integer needs it. -/
def float? : Value → Option Binary64
  | .float x => some x
  | .int n => some (Binary64.ofInt n.toInt)
  | _ => none

/-- The text of a string. -/
def string? : Value → Option String
  | .string s => some s
  | _ => none

/-- The items of an array. -/
def items? : Value → Option (List Value)
  | .array items => some items
  | _ => none

/-- The entries of an object. -/
def entries? : Value → Option (Keyed Value)
  | .object entries => some entries
  | _ => none

/-- The entry of an object at `key`. -/
def get? (value : Value) (key : String) : Option Value :=
  value.entries?.bind fun entries => Keyed.get? entries key

/-! ### Conversions -/

/-- A natural number: an integer while it fits, the nearest double beyond. -/
def ofNat (n : Nat) : Value :=
  if n < Nat.pow 2 63 then .int (Int64.ofNat n) else .float (Binary64.ofInt n)

/-- An optional value; nothing becomes the missing value. -/
def ofOption : Option Value → Value
  | none => .undefined
  | some value => value

/-- The object with the given entries, of which the later wins when a key occurs twice. -/
def ofPairs (pairs : List (String × Value)) : Value :=
  .object (Keyed.ofList pairs)

/-! ### Well-formedness -/

mutual

/-- Every object at any depth has ascending keys. -/
def Ordered : Value → Prop
  | .array items => OrderedItems items
  | .object entries => Keyed.Ordered entries ∧ OrderedEntries entries
  | _ => True

/-- `Ordered` for every item. -/
def OrderedItems : List Value → Prop
  | [] => True
  | item :: rest => Ordered item ∧ OrderedItems rest

/-- `Ordered` for the value of every entry. -/
def OrderedEntries : List (String × Value) → Prop
  | [] => True
  | (_, value) :: rest => Ordered value ∧ OrderedEntries rest

end

end Value

end Reshape
