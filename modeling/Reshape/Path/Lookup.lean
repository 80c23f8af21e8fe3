/-
Module: Reshape.Path.Lookup
Layer: Data
Purpose: What a list of segments finds in a value. A numeric key indexes an array, and an index reads
  the key with its digits from an object.
Main exports: Value.step?, Value.follow?, Value.leaf, Value.read
-/
import Reshape.Path.Parser
import Reshape.Value.Basic

namespace Reshape

namespace Value

/-- The value one segment down. -/
def step? : Value → Path.Segment → Option Value
  | .object entries, .key text => Keyed.get? entries text
  | .object entries, .index n => Keyed.get? entries (String.ofList (Nat.toDigits 10 n))
  | .array items, .key text => (Path.index? text.toList).bind fun n => items[n]?
  | .array items, .index n => items[n]?
  | _, _ => none

/-- The value at the end of a list of segments. -/
def follow? (value : Value) : List Path.Segment → Option Value
  | [] => some value
  | segment :: rest => (value.step? segment).bind fun next => next.follow? rest

/-- The value at the end of a list of segments, or the missing value. -/
def leaf (value : Value) (segments : List Path.Segment) : Value :=
  ofOption (value.follow? segments)

/-- What a path reads from the value it starts at: one leaf, or for a collection the leaf of every
    element. Only arrays have elements; anything else gives null. -/
def read (value : Value) (segments : List Path.Segment) (isCollection : Bool) : Value :=
  if isCollection then
    match value with
    | .array items => .array (items.map fun item => item.leaf segments)
    | _ => .null
  else value.leaf segments

@[simp] theorem follow?_nil (value : Value) : value.follow? [] = some value := rfl

theorem follow?_cons (value : Value) (segment : Path.Segment) (rest : List Path.Segment) :
    value.follow? (segment :: rest) = (value.step? segment).bind fun next => next.follow? rest := rfl

/-- Following two lists one after the other is following them joined. -/
theorem follow?_append (value : Value) (first second : List Path.Segment) :
    value.follow? (first ++ second) = (value.follow? first).bind fun next => next.follow? second := by
  induction first generalizing value with
  | nil => rfl
  | cons segment rest ih =>
      rw [List.cons_append, follow?_cons, follow?_cons]
      cases value.step? segment with
      | none => rfl
      | some next => exact ih next

end Value

end Reshape
