/-
Module: Reshape.Proofs.Definitions
Layer: Proofs
Purpose: What a definition has to be for an entity of its type, which entity it stands for, and which
  references that entity has. Definitions and entities are compared slot by slot, and compose steps in the
  order in which they are written; how entities are compiled plays no part in it.
Main exports: EntityType.Names, UnknownType, Spec.Becomes, Spec.Mentions, Spec.mem_references_iff,
  Definition.WellFormed, Entity.Realizes, Entity.Realizes.mem_references_iff, Entity.Realizes.wellFormed,
  Entity.exists_realizes
-/
import Reshape.Proofs.Naming

namespace Reshape

/-! ### Ids -/

/-- `type.Names id`: the id is the name of the type, a colon, and a name that is not empty and has no white
    space in it. As no type has a colon in its name, the colon is the first one of the id. -/
def EntityType.Names (type : EntityType) (id : String) : Prop :=
  ∃ name : String, id = type.name ++ ":" ++ name ∧ name ≠ "" ∧ ∀ c ∈ name.toList, Text.isBlank c = false

/-- The id is a type and a name, but there is no type of that name. -/
def UnknownType (id : String) : Prop :=
  ∃ typeName name, Reference.splitId? id.toList = some (typeName, name) ∧
    ∀ type : EntityType, type.name.toList ≠ typeName

theorem Reference.isName_iff {name : String} :
    isName name.toList = true ↔ name ≠ "" ∧ ∀ c ∈ name.toList, Text.isBlank c = false := by
  simp [isName]

namespace EntityType

theorem isTypeName_name (type : EntityType) : Reference.isTypeName type.name.toList = true := by
  cases type <;> decide

theorem splitId?_eq_some_iff {type : EntityType} {id name : String} :
    Reference.splitId? id.toList = some (type.name.toList, name.toList) ↔
      id = type.name ++ ":" ++ name ∧ Reference.isName name.toList = true := by
  rw [Reference.splitId?_eq_some_iff, ← String.toList_inj]
  simp [isTypeName_name]

theorem ofName?_eq_some_iff {typeName : String} {type : EntityType} :
    ofName? typeName = some type ↔ type.name = typeName := by
  refine ⟨name_of_ofName?, ?_⟩
  rintro rfl
  exact ofName?_name type

theorem ofName?_eq_none_iff {typeName : String} :
    ofName? typeName = none ↔ ∀ type : EntityType, type.name ≠ typeName := by
  rw [Option.eq_none_iff_forall_ne_some]
  exact forall_congr' fun type => not_congr ofName?_eq_some_iff

end EntityType

/-! ### Specifications -/

/-- `spec.Becomes reducer`: the specification compiles, to that reducer. -/
def Spec.Becomes (spec : Spec) (reducer : Reducer) : Prop :=
  spec.compile = .ok reducer

/-- `spec.Mentions reference`: the reference is a piece of a text, or stands in a compiled reducer, in the
    specification itself or in a member of it at some depth. -/
inductive Spec.Mentions : Spec → Reference → Prop where
  | text {written : String} {piece : List Char} {reference : Reference}
      (member : piece ∈ Text.split '|' written.toList)
      (read : Reference.parse? (Text.trim piece) = some reference) : Mentions (.text written) reference
  | list {specs : List Spec} {spec : Spec} {reference : Reference} (member : spec ∈ specs)
      (mentions : Mentions spec reference) : Mentions (.list specs) reference
  | built {reducer : Reducer} {reference : Reference} (holds : reducer.Holds (.entity reference)) :
      Mentions (.built reducer) reference

namespace Spec

variable {reference : Reference}

theorem Mentions.list_iff {specs : List Spec} :
    (Spec.list specs).Mentions reference ↔ ∃ spec ∈ specs, spec.Mentions reference := by
  constructor
  · intro mentions
    cases mentions with
    | list member mentions => exact ⟨_, member, mentions⟩
  · rintro ⟨spec, member, mentions⟩
    exact .list member mentions

mutual

/-- The references of the compiled reducer are those that the specification mentions. -/
theorem mem_references_iff {reducer : Reducer} :
    ∀ {spec : Spec}, spec.Becomes reducer → (reference ∈ reducer.references ↔ spec.Mentions reference)
  | .text written, becomes => by
      rw [mem_references_text_iff becomes]
      constructor
      · rintro ⟨piece, member, read⟩
        exact .text member read
      · intro mentions
        cases mentions with
        | text member read => exact ⟨_, member, read⟩
  | .function f, becomes => by
      cases becomes
      constructor
      · intro refers
        cases refers
      · intro mentions
        cases mentions
  | .list specs, becomes => by
      unfold Becomes at becomes
      rw [compile] at becomes
      split at becomes
      · rename_i reducers compiled
        cases becomes
        exact (mem_stepReferences_iff_all compiled).trans Mentions.list_iff.symm
      · cases becomes
  | .built compiled, becomes => by
      cases becomes
      rw [Reducer.mem_references]
      constructor
      · exact .built
      · intro mentions
        cases mentions with
        | built holds => exact holds

/-- The same for the members of a list. -/
theorem mem_stepReferences_iff_all {reducers : List Reducer} :
    ∀ {specs : List Spec}, compileAll specs = .ok reducers →
      (reference ∈ Reducer.stepReferences reducers ↔ ∃ spec ∈ specs, spec.Mentions reference)
  | [], compiled => by
      cases compiled
      simp [Reducer.stepReferences]
  | spec :: rest, compiled => by
      rw [compileAll] at compiled
      split at compiled
      · cases compiled
      · rename_i reducer becomes
        split at compiled
        · cases compiled
        · rename_i others compiledRest
          cases compiled
          rw [Reducer.stepReferences, List.mem_append, mem_references_iff becomes,
            mem_stepReferences_iff_all compiledRest, List.exists_mem_cons_iff]

end

/-- The same for specifications that stand apart. -/
theorem exists_mem_references_iff {specs : List Spec} {reducers : List Reducer}
    (become : List.Forall₂ Becomes specs reducers) :
    (∃ reducer ∈ reducers, reference ∈ reducer.references) ↔
      ∃ spec ∈ specs, spec.Mentions reference := by
  induction become with
  | nil => simp
  | cons first _ ih => rw [List.exists_mem_cons_iff, List.exists_mem_cons_iff, mem_references_iff first, ih]

/-- Specifications under keys, and the reducers that they become, under the same keys. -/
def BecomeKeyed : Keyed Spec → Keyed Reducer → Prop :=
  List.Forall₂ fun written compiled => written.1 = compiled.1 ∧ written.2.Becomes compiled.2

theorem BecomeKeyed.values {specs : Keyed Spec} {reducers : Keyed Reducer}
    (become : BecomeKeyed specs reducers) :
    List.Forall₂ Becomes (specs.map Prod.snd) (reducers.map Prod.snd) := by
  rw [List.forall₂_map_left_iff, List.forall₂_map_right_iff]
  exact become.imp fun _ _ => And.right

theorem exists_becomeKeyed_iff {specs : Keyed Spec} :
    (∃ reducers, BecomeKeyed specs reducers) ↔
      ∀ spec ∈ specs.map Prod.snd, ∃ reducer, spec.Becomes reducer := by
  refine exists_forall₂_iff.trans (Iff.trans ?_ List.forall_mem_map.symm)
  refine forall₂_congr fun written _ => ⟨?_, ?_⟩
  · rintro ⟨compiled, -, becomes⟩
    exact ⟨_, becomes⟩
  · rintro ⟨reducer, becomes⟩
    exact ⟨(written.1, reducer), rfl, becomes⟩

end Spec

/-! ### Compose steps -/

namespace Modifier

/-- The specifications in a compose step. -/
def specs : Modifier → List Spec
  | .mapKeys keys => keys.map Prod.snd
  | .addKeys keys => keys.map Prod.snd
  | .map spec => [spec]
  | .filter spec => [spec]
  | .find spec => [spec]
  | _ => []

/-- `modifier.OnObject step`: a compose step of objects, as it is written and as it is compiled. -/
inductive OnObject : Modifier → HashStep → Prop where
  | mapKeys {written : Keyed Spec} {keys : Keyed Reducer} (become : Spec.BecomeKeyed written keys) :
      OnObject (.mapKeys written) (.mapKeys keys)
  | addKeys {written : Keyed Spec} {keys : Keyed Reducer} (become : Spec.BecomeKeyed written keys) :
      OnObject (.addKeys written) (.addKeys keys)
  | addValues (values : Keyed Value) : OnObject (.addValues values) (.addValues values)
  | omitKeys (keys : List String) : OnObject (.omitKeys keys) (.omitKeys keys)
  | pickKeys (keys : List String) : OnObject (.pickKeys keys) (.pickKeys keys)

/-- `modifier.OnArray step`: a compose step of arrays, as it is written and as it is compiled. -/
inductive OnArray : Modifier → CollectionStep → Prop where
  | map {spec : Spec} {reducer : Reducer} (becomes : spec.Becomes reducer) :
      OnArray (.map spec) (.map reducer)
  | filter {spec : Spec} {reducer : Reducer} (becomes : spec.Becomes reducer) :
      OnArray (.filter spec) (.filter reducer)
  | find {spec : Spec} {reducer : Reducer} (becomes : spec.Becomes reducer) :
      OnArray (.find spec) (.find reducer)

variable {modifier : Modifier}

theorem OnObject.become {step : HashStep} (written : modifier.OnObject step) :
    List.Forall₂ Spec.Becomes modifier.specs step.reducers := by
  cases written with
  | mapKeys become => exact become.values
  | addKeys become => exact become.values
  | addValues => exact .nil
  | omitKeys => exact .nil
  | pickKeys => exact .nil

theorem OnArray.become {step : CollectionStep} (written : modifier.OnArray step) :
    List.Forall₂ Spec.Becomes modifier.specs [step.reducer] := by
  cases written with
  | map becomes => exact .cons becomes .nil
  | filter becomes => exact .cons becomes .nil
  | find becomes => exact .cons becomes .nil

end Modifier

/-- `type.Supports modifier`: entities of the type can have the compose step. -/
def EntityType.Supports : EntityType → Modifier → Prop
  | .entry => fun _ => False
  | .hash => fun
    | .mapKeys _ | .addKeys _ | .addValues _ | .omitKeys _ | .pickKeys _ => True
    | .map _ | .filter _ | .find _ => False
  | .collection => fun
    | .map _ | .filter _ | .find _ => True
    | .mapKeys _ | .addKeys _ | .addValues _ | .omitKeys _ | .pickKeys _ => False
  | .schema => fun _ => False

namespace Modifier

variable {modifier : Modifier}

theorem exists_onObject_iff :
    (∃ step, modifier.OnObject step) ↔
      EntityType.hash.Supports modifier ∧ ∀ spec ∈ modifier.specs, ∃ reducer, spec.Becomes reducer := by
  constructor
  · rintro ⟨step, written⟩
    refine ⟨?_, exists_forall₂_iff.mp ⟨_, written.become⟩⟩
    cases written <;> trivial
  · rintro ⟨supported, compiles⟩
    cases modifier with
    | mapKeys written =>
        obtain ⟨keys, become⟩ := Spec.exists_becomeKeyed_iff.mpr compiles
        exact ⟨_, .mapKeys become⟩
    | addKeys written =>
        obtain ⟨keys, become⟩ := Spec.exists_becomeKeyed_iff.mpr compiles
        exact ⟨_, .addKeys become⟩
    | addValues values => exact ⟨_, .addValues values⟩
    | omitKeys keys => exact ⟨_, .omitKeys keys⟩
    | pickKeys keys => exact ⟨_, .pickKeys keys⟩
    | map spec => exact supported.elim
    | filter spec => exact supported.elim
    | find spec => exact supported.elim

theorem exists_onArray_iff :
    (∃ step, modifier.OnArray step) ↔
      EntityType.collection.Supports modifier ∧
        ∀ spec ∈ modifier.specs, ∃ reducer, spec.Becomes reducer := by
  constructor
  · rintro ⟨step, written⟩
    refine ⟨?_, exists_forall₂_iff.mp ⟨_, written.become⟩⟩
    cases written <;> trivial
  · rintro ⟨supported, compiles⟩
    cases modifier with
    | mapKeys written => exact supported.elim
    | addKeys written => exact supported.elim
    | addValues values => exact supported.elim
    | omitKeys keys => exact supported.elim
    | pickKeys keys => exact supported.elim
    | map spec =>
        obtain ⟨reducer, becomes⟩ := List.forall_mem_singleton.mp compiles
        exact ⟨_, .map becomes⟩
    | filter spec =>
        obtain ⟨reducer, becomes⟩ := List.forall_mem_singleton.mp compiles
        exact ⟨_, .filter becomes⟩
    | find spec =>
        obtain ⟨reducer, becomes⟩ := List.forall_mem_singleton.mp compiles
        exact ⟨_, .find becomes⟩

end Modifier

/-! ### Definitions -/

namespace Definition

/-- The specifications of a definition: the value, the hooks, the compose steps. -/
def specs (definition : Definition) : List Spec :=
  definition.value.toList ++ (definition.before.toList ++ definition.after.toList ++
    definition.error.toList ++ definition.compose.flatMap Modifier.specs)

/-- The definition has neither a schema nor options. -/
def Bare (definition : Definition) : Prop :=
  definition.schema = none ∧ definition.options = none

/-- What the definition of an entity of that type has to be: its compose steps are steps of the type, only
    those of schemas have a schema and options, which are objects then, and every specification compiles. -/
structure WellFormed (definition : Definition) (type : EntityType) : Prop where
  supported : ∀ modifier ∈ definition.compose, type.Supports modifier
  bare : type ≠ .schema → definition.Bare
  schema : ∀ value ∈ definition.schema, ∃ entries, value = .object entries
  options : ∀ value ∈ definition.options, ∃ entries, value = .object entries
  compiles : ∀ spec ∈ definition.specs, ∃ reducer, spec.Becomes reducer

/-- `definition.Shapes body`: the part that depends on the type, as the definition writes it. Compose steps
    stand in the order in which they are written; a schema or options that are not given are empty. -/
inductive Shapes (definition : Definition) : Body → Prop where
  | entry (steps : definition.compose = []) (bare : definition.Bare) : Shapes definition .entry
  | hash {compose : List HashStep} (steps : List.Forall₂ Modifier.OnObject definition.compose compose)
      (bare : definition.Bare) : Shapes definition (.hash compose)
  | collection {compose : List CollectionStep}
      (steps : List.Forall₂ Modifier.OnArray definition.compose compose) (bare : definition.Bare) :
      Shapes definition (.collection compose)
  | schema {schema options : Keyed Value} (steps : definition.compose = [])
      (payload : definition.schema.getD (.object []) = .object schema)
      (settings : definition.options.getD (.object []) = .object options) :
      Shapes definition (.schema schema options)

variable {definition : Definition} {body : Body}

theorem Shapes.bare (shapes : definition.Shapes body) : body.type ≠ .schema → definition.Bare := by
  cases shapes with
  | entry _ bare => exact fun _ => bare
  | hash _ bare => exact fun _ => bare
  | collection _ bare => exact fun _ => bare
  | schema => exact fun foreign => absurd rfl foreign

end Definition

/-- `entity.Realizes definition`: the entity is what the definition says. Without a value it keeps the value
    that it is given. -/
structure Entity.Realizes (entity : Entity) (definition : Definition) : Prop where
  value : (definition.value.getD (.built .identity)).Becomes entity.value
  before : Option.Rel Spec.Becomes definition.before entity.before
  after : Option.Rel Spec.Becomes definition.after entity.after
  error : Option.Rel Spec.Becomes definition.error entity.error
  inspects : entity.inspects = definition.inspect
  body : definition.Shapes entity.body

namespace Definition

variable {definition : Definition} {type : EntityType} {body : Body} {reference : Reference}

theorem Shapes.supported (shapes : definition.Shapes body) :
    ∀ modifier ∈ definition.compose, body.type.Supports modifier := by
  cases shapes with
  | entry steps _ =>
      rw [steps]
      exact List.forall_mem_nil _
  | hash steps _ =>
      intro modifier member
      exact (Modifier.exists_onObject_iff.mp (exists_forall₂_iff.mp ⟨_, steps⟩ modifier member)).1
  | collection steps _ =>
      intro modifier member
      exact (Modifier.exists_onArray_iff.mp (exists_forall₂_iff.mp ⟨_, steps⟩ modifier member)).1
  | schema steps _ _ =>
      rw [steps]
      exact List.forall_mem_nil _

theorem Shapes.become (shapes : definition.Shapes body) :
    List.Forall₂ Spec.Becomes (definition.compose.flatMap Modifier.specs) body.reducers := by
  cases shapes with
  | entry steps _ =>
      rw [steps]
      exact .nil
  | hash steps _ => exact List.rel_flatMap steps fun _ _ written => written.become
  | collection steps _ =>
      rw [Body.reducers, List.map_eq_flatMap]
      exact List.rel_flatMap steps fun _ _ written => written.become
  | schema steps _ _ =>
      rw [steps]
      exact .nil

theorem exists_object_iff {payload : Option Value} :
    (∃ entries, payload.getD (.object []) = .object entries) ↔
      ∀ value ∈ payload, ∃ entries, value = .object entries := by
  cases payload with
  | none => exact ⟨fun _ => nofun, fun _ => ⟨[], rfl⟩⟩
  | some value => simp

theorem Bare.objects (bare : definition.Bare) :
    (∀ value ∈ definition.schema, ∃ entries, value = .object entries) ∧
      ∀ value ∈ definition.options, ∃ entries, value = .object entries := by
  rw [bare.1, bare.2]
  exact ⟨nofun, nofun⟩

theorem Shapes.objects (shapes : definition.Shapes body) :
    (∀ value ∈ definition.schema, ∃ entries, value = .object entries) ∧
      ∀ value ∈ definition.options, ∃ entries, value = .object entries := by
  cases shapes with
  | entry _ bare => exact bare.objects
  | hash _ bare => exact bare.objects
  | collection _ bare => exact bare.objects
  | schema _ payload settings =>
      exact ⟨exists_object_iff.mp ⟨_, payload⟩, exists_object_iff.mp ⟨_, settings⟩⟩

/-- Some body is shaped by every definition that is right for its type. -/
theorem WellFormed.exists_shapes (wellFormed : definition.WellFormed type) :
    ∃ body : Body, body.type = type ∧ definition.Shapes body := by
  have stepCompiles : ∀ modifier ∈ definition.compose, ∀ spec ∈ modifier.specs,
      ∃ reducer, spec.Becomes reducer := by
    intro modifier member spec inStep
    refine wellFormed.compiles spec ?_
    simp only [specs, List.mem_append, List.mem_flatMap]
    exact .inr (.inr ⟨modifier, member, inStep⟩)
  have noSteps (unsupported : ∀ modifier, ¬ type.Supports modifier) : definition.compose = [] :=
    List.eq_nil_iff_forall_not_mem.mpr fun modifier member =>
      unsupported modifier (wellFormed.supported modifier member)
  cases type with
  | entry => exact ⟨_, rfl, .entry (noSteps fun _ => id) (wellFormed.bare nofun)⟩
  | hash =>
      have steps : ∀ modifier ∈ definition.compose, ∃ step, modifier.OnObject step :=
        fun modifier member => Modifier.exists_onObject_iff.mpr
          ⟨wellFormed.supported modifier member, stepCompiles modifier member⟩
      obtain ⟨compose, steps⟩ := exists_forall₂_iff.mpr steps
      exact ⟨_, rfl, .hash steps (wellFormed.bare nofun)⟩
  | collection =>
      have steps : ∀ modifier ∈ definition.compose, ∃ step, modifier.OnArray step :=
        fun modifier member => Modifier.exists_onArray_iff.mpr
          ⟨wellFormed.supported modifier member, stepCompiles modifier member⟩
      obtain ⟨compose, steps⟩ := exists_forall₂_iff.mpr steps
      exact ⟨_, rfl, .collection steps (wellFormed.bare nofun)⟩
  | schema =>
      obtain ⟨schema, payload⟩ := exists_object_iff.mpr wellFormed.schema
      obtain ⟨options, settings⟩ := exists_object_iff.mpr wellFormed.options
      exact ⟨_, rfl, .schema (noSteps fun _ => id) payload settings⟩

theorem exists_value_iff {value : Option Spec} :
    (∃ reducer, (value.getD (.built .identity)).Becomes reducer) ↔
      ∀ spec ∈ value.toList, ∃ reducer, spec.Becomes reducer := by
  cases value with
  | none => exact ⟨fun _ => List.forall_mem_nil _, fun _ => ⟨.identity, rfl⟩⟩
  | some spec => simp

/-- A value that is not given mentions nothing. -/
theorem mentions_value_iff {value : Option Spec} :
    (value.getD (.built .identity)).Mentions reference ↔
      ∃ spec ∈ value.toList, spec.Mentions reference := by
  cases value with
  | none =>
      constructor
      · intro mentions
        cases mentions with
        | built holds => cases holds
      · rintro ⟨spec, none, -⟩
        cases none
  | some spec => simp

end Definition

namespace Entity

variable {entity : Entity} {definition : Definition} {type : EntityType} {reference : Reference}

/-- Apart from the value, the reducers of an entity are what the specifications become, one by one. -/
theorem Realizes.become (realizes : entity.Realizes definition) :
    List.Forall₂ Spec.Becomes
      (definition.before.toList ++ definition.after.toList ++ definition.error.toList ++
        definition.compose.flatMap Modifier.specs)
      (entity.before.toList ++ entity.after.toList ++ entity.error.toList ++ entity.body.reducers) := by
  have before := forall₂_toList realizes.before
  have after := forall₂_toList realizes.after
  have error := forall₂_toList realizes.error
  exact List.rel_append (List.rel_append (List.rel_append before after) error) realizes.body.become

/-- The references of an entity are those that the specifications of the definition mention. -/
theorem Realizes.mem_references_iff (realizes : entity.Realizes definition) :
    reference ∈ entity.references ↔ ∃ spec ∈ definition.specs, spec.Mentions reference := by
  rw [references, List.mem_flatMap, reducers, List.exists_mem_cons_iff,
    Spec.mem_references_iff realizes.value, Definition.mentions_value_iff,
    Spec.exists_mem_references_iff realizes.become, Definition.specs]
  simp only [List.mem_append, or_and_right, exists_or]

/-- What is realized is right for the type of the entity. -/
theorem Realizes.wellFormed (realizes : entity.Realizes definition) :
    definition.WellFormed entity.body.type where
  supported := realizes.body.supported
  bare := realizes.body.bare
  schema := realizes.body.objects.1
  options := realizes.body.objects.2
  compiles := by
    rw [Definition.specs]
    refine List.forall_mem_append.mpr ⟨Definition.exists_value_iff.mp ⟨_, realizes.value⟩, ?_⟩
    exact exists_forall₂_iff.mp ⟨_, realizes.become⟩

/-- Some entity of any name is what a definition says that is right for its type. -/
theorem exists_realizes (wellFormed : definition.WellFormed type) (name : String) :
    ∃ entity : Entity, entity.name = name ∧ entity.body.type = type ∧ entity.Realizes definition := by
  have compiles := wellFormed.compiles
  simp only [Definition.specs, List.forall_mem_append] at compiles
  obtain ⟨value, ⟨⟨before, after⟩, error⟩, -⟩ := compiles
  obtain ⟨value, valueBecomes⟩ := Definition.exists_value_iff.mpr value
  obtain ⟨before, beforeBecomes⟩ := exists_rel_iff.mpr before
  obtain ⟨after, afterBecomes⟩ := exists_rel_iff.mpr after
  obtain ⟨error, errorBecomes⟩ := exists_rel_iff.mpr error
  obtain ⟨body, ofType, shapes⟩ := wellFormed.exists_shapes
  exact ⟨⟨name, value, before, after, error, definition.inspect, body⟩, rfl, ofType,
    valueBecomes, beforeBecomes, afterBecomes, errorBecomes, rfl, shapes⟩

end Entity

end Reshape
