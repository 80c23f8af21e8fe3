/-
Module: Reshape.Value.Equality
Layer: Data
Purpose: When two values count as equal: by structure, with numbers of one kind compared
  numerically and numbers of different kinds always unequal.
Main exports: Value.equals
-/
import Reshape.Value.Basic

namespace Reshape

namespace Value

mutual

/-- Equality of values. An integer never equals a double, and a NaN equals nothing. -/
def equals : Value → Value → Bool
  | .undefined, .undefined => true
  | .null, .null => true
  | .bool a, .bool b => a == b
  | .int a, .int b => a == b
  | .float a, .float b => a.equals b
  | .string a, .string b => a == b
  | .array a, .array b => equalsItems a b
  | .object a, .object b => equalsEntries a b
  | _, _ => false

/-- Equality of item lists, position by position. -/
def equalsItems : List Value → List Value → Bool
  | [], [] => true
  | a :: as, b :: bs => equals a b && equalsItems as bs
  | _, _ => false

/-- Equality of entry lists, position by position, keys included. -/
def equalsEntries : List (String × Value) → List (String × Value) → Bool
  | [], [] => true
  | (k, a) :: as, (l, b) :: bs => k == l && equals a b && equalsEntries as bs
  | _, _ => false

end

end Value

end Reshape
