/-
Module: Reshape.Json.Basic
Layer: Data
Purpose: JSON documents as trees.
Main exports: Json, Json.WellFormed
-/
import Reshape.Binary64
import Reshape.Keyed

namespace Reshape

/-- A JSON document. Integers are kept apart from numbers with a fraction or an exponent; the members
    of an object ascend by key. -/
inductive Json where
  | null
  | bool (b : Bool)
  | int (n : Int)
  | float (x : Binary64)
  | string (s : String)
  | array (items : List Json)
  | object (members : List (String × Json))
  deriving Inhabited

namespace Json

mutual

/-- The trees that documents have: integers from `-2 ^ 63` to `2 ^ 64 - 1`, finite numbers and
    ascending keys. -/
def WellFormed : Json → Prop
  | .int n => -2 ^ 63 ≤ n ∧ n < 2 ^ 64
  | .float x => x.isFinite = true
  | .array items => WellFormedItems items
  | .object members => Keyed.Ordered members ∧ WellFormedMembers members
  | _ => True

/-- `WellFormed` for every item. -/
def WellFormedItems : List Json → Prop
  | [] => True
  | item :: rest => WellFormed item ∧ WellFormedItems rest

/-- `WellFormed` for the value of every member. -/
def WellFormedMembers : List (String × Json) → Prop
  | [] => True
  | (_, value) :: rest => WellFormed value ∧ WellFormedMembers rest

end

end Json

end Reshape
