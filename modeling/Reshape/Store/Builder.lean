/-
Module: Reshape.Store.Builder
Layer: State
Purpose: From definitions to a store. Definitions are compiled in the order of their registration;
  that references name existing types is checked once all are compiled, and that the entities they
  name exist is not checked at all.
Main exports: Builder, Builder.add, Builder.addJson, Builder.addEntitiesJson, Builder.build
-/
import Reshape.Document.Definition
import Reshape.Entity.Compile
import Reshape.Store.Basic

namespace Reshape

/-- Definitions on the way to a store, in the order of their registration. -/
structure Builder where
  definitions : List (String × Definition)
  values : Keyed Value
  validator : Option Validator

namespace Builder

/-- Nothing registered yet. -/
def empty : Builder :=
  ⟨[], [], none⟩

/-- Registers a definition under an id. -/
def add (builder : Builder) (id : String) (definition : Definition) : Builder :=
  { builder with definitions := builder.definitions ++ [(id, definition)] }

/-- Registers a definition written as JSON. -/
def addJson (builder : Builder) (id : String) (json : Json) : Except Failure Builder :=
  match Definition.ofJson json with
  | .ok definition => .ok (builder.add id definition)
  | .error problem => .error (.invalidSpec (id ++ ": " ++ problem.message))

/-- Registers definitions written as the members of JSON objects. -/
def addMembers (builder : Builder) : List (String × Json) → Except Failure Builder
  | [] => .ok builder
  | (id, json) :: rest => do
    let builder ← builder.addJson id json
    builder.addMembers rest

/-- Registers every definition of a JSON object keyed by id. -/
def addEntitiesJson (builder : Builder) : Json → Except Failure Builder
  | .object members => builder.addMembers members
  | other =>
    .error (.invalidSpec ("entity definitions must be an object keyed by id, got " ++
      (Value.ofJson other).typeName))

/-- Replaces the store values. -/
def withValues (builder : Builder) (values : Keyed Value) : Builder :=
  { builder with values := values }

/-- Sets one store value. -/
def withValue (builder : Builder) (key : String) (value : Value) : Builder :=
  { builder with values := Keyed.insert builder.values key value }

/-- Installs a validator. -/
def withValidator (builder : Builder) (validator : Validator) : Builder :=
  { builder with validator := some validator }

/-! ### Building -/

/-- The failure of a second definition under one id. -/
def duplicate (id : String) : Failure :=
  .invalidSpec ("entity '" ++ id ++ "' is defined more than once")

/-- The failure of a reference to a type that does not exist. -/
def unknownReference (id : String) (reference : Reference) : Failure :=
  .lookup (id ++ ": reference to unknown entity type in '" ++ reference.display ++ "'")

/-- Compiles definitions in order, each into the entities compiled before it. -/
def compileAll (entities : Keyed Entity) :
    List (String × Definition) → Except Failure (Keyed Entity)
  | [] => .ok entities
  | (id, definition) :: rest =>
    if (Keyed.get? entities id).isSome then .error (duplicate id)
    else do
      let entity ← Entity.compile id definition
      compileAll (Keyed.insert entities id entity) rest

/-- The first reference of an entity to a type that does not exist. -/
def unknownReference? (entity : Entity) : Option Reference :=
  entity.references.find? fun reference => (EntityType.ofName? reference.typeName).isNone

/-- Checks the references of every entity. -/
def checkReferences : Keyed Entity → Except Failure Unit
  | [] => .ok ()
  | (id, entity) :: rest =>
    match unknownReference? entity with
    | some reference => .error (unknownReference id reference)
    | none => checkReferences rest

/-- Compiles everything registered and freezes the store. -/
def build (builder : Builder) : Except Failure Store := do
  let entities ← compileAll [] builder.definitions
  checkReferences entities
  .ok ⟨entities, builder.values, builder.validator⟩

/-- The description of a builder. Of a validator only its presence shows. -/
def describe (builder : Builder) : String :=
  Text.record "StoreBuilder"
    [("specs", Text.bracketed (builder.definitions.map fun entry => Text.quoted entry.1)),
      ("values", Value.describeMap builder.values),
      ("validator", Text.boolean builder.validator.isSome)]

end Builder

end Reshape
