/-
Module: Reshape.Store.Basic
Layer: State
Purpose: Stores of compiled entities, with the values that every reducer may read and the validator
  of schemas.
Main exports: Verdict, Validator, Store, Store.get?, Store.seek, Store.describe
-/
import Reshape.Entity.Basic
import Reshape.Accumulator.Printer

namespace Reshape

/-- What a validator says about a value. -/
structure Verdict where
  valid : Bool
  errors : List String
  deriving Repr, Inhabited, DecidableEq

/-- A validator judges a value by a schema document and its options. -/
abbrev Validator : Type :=
  Value → Value → Value → Verdict

/-- A store. Its entities ascend by id. -/
structure Store where
  entities : Keyed Entity
  values : Keyed Value
  validator : Option Validator

namespace Store

/-- The store without entities, values and validator. -/
def empty : Store :=
  ⟨[], [], none⟩

/-- The entity of that id. -/
def get? (store : Store) (id : String) : Option Entity :=
  Keyed.get? store.entities id

/-- The failure of a look-up that finds no entity. -/
def undefinedEntity (id : String) : Failure :=
  .lookup ("entity '" ++ id ++ "' is not defined")

/-- The entity of that id, which has to exist. -/
def seek (store : Store) (id : String) : Except Failure Entity :=
  match store.get? id with
  | some entity => .ok entity
  | none => .error (undefinedEntity id)

/-- The ids of all entities in ascending order. -/
def ids (store : Store) : List String :=
  Keyed.keys store.entities

/-- How many entities there are. -/
def size (store : Store) : Nat :=
  List.length store.entities

/-- The description of a store. Of a validator only its presence shows. -/
def describe (store : Store) : String :=
  Text.record "EntityStore"
    [("entities", Text.bracketed (store.ids.map Text.quoted)),
      ("values", (Value.object store.values).describe),
      ("validator", Text.boolean store.validator.isSome)]

end Store

end Reshape
