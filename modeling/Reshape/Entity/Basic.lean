/-
Module: Reshape.Entity.Basic
Layer: Language
Purpose: Compiled entities: reducers in their slots and the part that depends on the type.
Main exports: EntityType, HashStep, CollectionStep, Body, Entity, Entity.id, Entity.references
-/
import Reshape.Reducer.Basic

namespace Reshape

/-- The types of entity. -/
inductive EntityType where
  /-- A value and hooks, nothing more. -/
  | entry
  /-- Composes an object. -/
  | hash
  /-- Composes an array. -/
  | collection
  /-- Has its value validated. -/
  | schema
  deriving Repr, Inhabited, DecidableEq

namespace EntityType

/-- The name of a type, the part of an id before the colon. -/
def name : EntityType → String
  | .entry => "entry"
  | .hash => "hash"
  | .collection => "collection"
  | .schema => "schema"

/-- The type of that name. -/
def ofName? (name : String) : Option EntityType :=
  if name = "entry" then some .entry
  else if name = "hash" then some .hash
  else if name = "collection" then some .collection
  else if name = "schema" then some .schema
  else none

theorem ofName?_name (type : EntityType) : ofName? type.name = some type := by
  cases type <;> decide

theorem name_of_ofName? {name : String} {type : EntityType} (h : ofName? name = some type) :
    type.name = name := by
  unfold ofName? at h
  split at h
  · cases h; simp [EntityType.name, *]
  · split at h
    · cases h; simp [EntityType.name, *]
    · split at h
      · cases h; simp [EntityType.name, *]
      · split at h
        · cases h; simp [EntityType.name, *]
        · cases h

end EntityType

/-- A compose step on an object. -/
inductive HashStep where
  | mapKeys (keys : Keyed Reducer)
  | addKeys (keys : Keyed Reducer)
  | addValues (values : Keyed Value)
  | omitKeys (keys : List String)
  | pickKeys (keys : List String)

namespace HashStep

/-- The name of the step. -/
def name : HashStep → String
  | .mapKeys _ => "mapKeys"
  | .addKeys _ => "addKeys"
  | .addValues _ => "addValues"
  | .omitKeys _ => "omitKeys"
  | .pickKeys _ => "pickKeys"

/-- The reducers of the step in key order. -/
def reducers : HashStep → List Reducer
  | .mapKeys keys => keys.map Prod.snd
  | .addKeys keys => keys.map Prod.snd
  | _ => []

/-- The step has nothing to work with and is skipped. -/
def isEmpty : HashStep → Bool
  | .mapKeys keys => List.isEmpty keys
  | .addKeys keys => List.isEmpty keys
  | .addValues values => List.isEmpty values
  | .omitKeys keys => keys.isEmpty
  | .pickKeys keys => keys.isEmpty

end HashStep

/-- A compose step on an array. -/
inductive CollectionStep where
  | map (reducer : Reducer)
  | filter (reducer : Reducer)
  | find (reducer : Reducer)

namespace CollectionStep

/-- The name of the step. -/
def name : CollectionStep → String
  | .map _ => "map"
  | .filter _ => "filter"
  | .find _ => "find"

/-- The reducer that is run for every item. -/
def reducer : CollectionStep → Reducer
  | .map reducer => reducer
  | .filter reducer => reducer
  | .find reducer => reducer

end CollectionStep

/-- The part of an entity that depends on its type. -/
inductive Body where
  | entry
  | hash (compose : List HashStep)
  | collection (compose : List CollectionStep)
  | schema (schema options : Keyed Value)

namespace Body

/-- The type of an entity with that body. -/
def type : Body → EntityType
  | .entry => .entry
  | .hash _ => .hash
  | .collection _ => .collection
  | .schema _ _ => .schema

/-- The reducers of the compose steps, in order. -/
def reducers : Body → List Reducer
  | .entry => []
  | .hash compose => compose.flatMap HashStep.reducers
  | .collection compose => compose.map CollectionStep.reducer
  | .schema _ _ => []

end Body

/-- A compiled entity. -/
structure Entity where
  name : String
  value : Reducer
  before : Option Reducer
  after : Option Reducer
  error : Option Reducer
  inspects : Bool
  body : Body

namespace Entity

/-- The id of an entity: its type, a colon and its name. -/
def id (entity : Entity) : String :=
  entity.body.type.name ++ ":" ++ entity.name

/-- The place of a failure in one slot of the entity. -/
def place (entity : Entity) (slot : String) : String :=
  entity.id ++ "." ++ slot

/-- All reducers of an entity: the value, the hooks, the compose steps. -/
def reducers (entity : Entity) : List Reducer :=
  entity.value ::
    (entity.before.toList ++ entity.after.toList ++ entity.error.toList ++ entity.body.reducers)

/-- All references of an entity. -/
def references (entity : Entity) : List Reference :=
  entity.reducers.flatMap Reducer.references

end Entity

end Reshape
