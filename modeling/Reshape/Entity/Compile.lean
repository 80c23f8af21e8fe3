/-
Module: Reshape.Entity.Compile
Layer: Language
Purpose: From definitions to entities, with the checks that need no other entity.
Main exports: Entity.Fault, Entity.compile
-/
import Reshape.Entity.Basic
import Reshape.Entity.Definition

namespace Reshape

namespace Entity

/-- Why a definition is no entity, apart from faults in its specifications. -/
inductive Fault where
  /-- The id is not a type and a name. -/
  | malformedId
  /-- There is no type of that name. -/
  | unknownType (typeName : String)
  /-- Only schemas have a schema and options. -/
  | foreignSchema
  /-- The type has no compose steps of that name. -/
  | foreignModifier (name : String)
  /-- A schema or its options are no object. -/
  | notAnObject (field : String) (found : String)
  deriving Repr, Inhabited, DecidableEq

/-- The failure of a definition with a fault, registered under `id`. -/
def Fault.failure (id : String) : Fault → Failure
  | .malformedId => .invalidSpec ("invalid entity id '" ++ id ++ "': expected 'type:name'")
  | .unknownType typeName => .lookup ("unknown entity type '" ++ typeName ++ "' in '" ++ id ++ "'")
  | .foreignSchema =>
    .invalidSpec (id ++ ": 'schema' and 'options' are only supported by schema entities")
  | .foreignModifier name =>
    .invalidSpec (id ++ ": modifier '" ++ name ++ "' is not supported by this entity type")
  | .notAnObject field found =>
    .invalidSpec (id ++ ": '" ++ field ++ "' must be an object, got " ++ found)

/-! ### Slots -/

/-- Compiles the specification in one slot; a fault is marked with the slot. -/
def compileSlot (id slot : String) (spec : Spec) : Except Failure Reducer :=
  match spec.compile with
  | .ok reducer => .ok reducer
  | .error failure => .error (failure.annotate (id ++ "." ++ slot))

/-- Compiles an optional slot. -/
def compileHook (id slot : String) : Option Spec → Except Failure (Option Reducer)
  | none => .ok none
  | some spec => (compileSlot id slot spec).map some

/-- Compiles the specifications under keys; a fault is marked with the step and the key. -/
def compileKeys (id step : String) : Keyed Spec → Except Failure (Keyed Reducer)
  | [] => .ok []
  | (key, spec) :: rest => do
    let reducer ← compileSlot id (step ++ "." ++ key) spec
    let reducers ← compileKeys id step rest
    .ok ((key, reducer) :: reducers)

/-! ### Compose steps -/

/-- Compiles a step on an object. -/
def compileHashStep (id : String) : Modifier → Except Failure HashStep
  | .mapKeys keys => (compileKeys id "mapKeys" keys).map .mapKeys
  | .addKeys keys => (compileKeys id "addKeys" keys).map .addKeys
  | .addValues values => .ok (.addValues values)
  | .omitKeys keys => .ok (.omitKeys keys)
  | .pickKeys keys => .ok (.pickKeys keys)
  | other => .error (Fault.failure id (.foreignModifier other.name))

/-- Compiles a step on an array. -/
def compileCollectionStep (id : String) : Modifier → Except Failure CollectionStep
  | .map spec => (compileSlot id "map" spec).map .map
  | .filter spec => (compileSlot id "filter" spec).map .filter
  | .find spec => (compileSlot id "find" spec).map .find
  | other => .error (Fault.failure id (.foreignModifier other.name))

/-- Refuses compose steps of any kind. -/
def rejectCompose (id : String) : List Modifier → Except Failure Unit
  | [] => .ok ()
  | modifier :: _ => .error (Fault.failure id (.foreignModifier modifier.name))

/-- The payload of a schema: an object, empty if it is not given. -/
def objectOrEmpty (id field : String) : Option Value → Except Failure (Keyed Value)
  | none => .ok []
  | some (.object entries) => .ok entries
  | some other => .error (Fault.failure id (.notAnObject field other.typeName))

/-- Compiles the part of a definition that depends on the type. -/
def compileBody (id : String) (type : EntityType) (definition : Definition) :
    Except Failure Body :=
  match type with
  | .entry => do
    rejectCompose id definition.compose
    .ok .entry
  | .hash => do
    let compose ← definition.compose.mapM (compileHashStep id)
    .ok (.hash compose)
  | .collection => do
    let compose ← definition.compose.mapM (compileCollectionStep id)
    .ok (.collection compose)
  | .schema => do
    rejectCompose id definition.compose
    let schema ← objectOrEmpty id "schema" definition.schema
    let options ← objectOrEmpty id "options" definition.options
    .ok (.schema schema options)

/-- Compiles the slots that every type has, around a compiled body. -/
def compileSlots (id name : String) (definition : Definition) (body : Body) :
    Except Failure Entity := do
  let value ←
    match definition.value with
    | none => .ok Reducer.identity
    | some spec => compileSlot id "value" spec
  let before ← compileHook id "before" definition.before
  let after ← compileHook id "after" definition.after
  let error ← compileHook id "error" definition.error
  .ok ⟨name, value, before, after, error, definition.inspect, body⟩

/-- Compiles the definition registered under `id`. The id is checked first, then the payload, the
    compose steps, the value and the hooks. -/
def compile (id : String) (definition : Definition) : Except Failure Entity := do
  let (typeName, name) ←
    match Reference.splitId? id.toList with
    | some (typeName, name) => .ok (String.ofList typeName, String.ofList name)
    | none => .error (Fault.failure id .malformedId)
  let type ←
    match EntityType.ofName? typeName with
    | some type => .ok type
    | none => .error (Fault.failure id (.unknownType typeName))
  if type ≠ .schema ∧ (definition.schema.isSome ∨ definition.options.isSome) then
    .error (Fault.failure id .foreignSchema)
  else
    let body ← compileBody id type definition
    compileSlots id name definition body

end Entity

end Reshape
