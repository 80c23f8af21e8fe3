/-
Module: Reshape.Proofs.Compilation
Layer: Proofs
Purpose: Compilation, function by function: each succeeds exactly on what is well formed, and then with the
  entity, or the part of one, that its definition stands for.
Main exports: Entity.compileBody_eq_ok_iff, Entity.compileSlots_eq_ok_iff, Entity.compile_eq,
  Entity.compile_eq_ok_iff, Entity.exists_compile_iff
-/
import Reshape.Proofs.Definitions

namespace Reshape

/-! ### Compilation, function by function -/

namespace Entity

variable {id : String} {definition : Definition}

theorem compileSlot_eq_ok_iff {slot : String} {spec : Spec} {reducer : Reducer} :
    compileSlot id slot spec = .ok reducer ↔ spec.Becomes reducer := by
  unfold compileSlot Spec.Becomes
  cases spec.compile <;> simp

theorem compileHook_eq_ok_iff {slot : String} {hook : Option Spec} {compiled : Option Reducer} :
    compileHook id slot hook = .ok compiled ↔ Option.Rel Spec.Becomes hook compiled := by
  cases hook with
  | none =>
      constructor
      · intro ok
        cases ok
        exact .none
      · intro becomes
        cases becomes
        rfl
  | some spec =>
      rw [compileHook, map_eq_ok_iff]
      constructor
      · rintro ⟨reducer, ok, rfl⟩
        exact .some (compileSlot_eq_ok_iff.mp ok)
      · intro becomes
        cases becomes with
        | some becomes => exact ⟨_, compileSlot_eq_ok_iff.mpr becomes, rfl⟩

theorem compileKeys_eq_ok_iff {step : String} {specs : Keyed Spec} {reducers : Keyed Reducer} :
    compileKeys id step specs = .ok reducers ↔ Spec.BecomeKeyed specs reducers := by
  unfold Spec.BecomeKeyed
  induction specs generalizing reducers with
  | nil =>
      rw [List.forall₂_nil_left_iff]
      exact ⟨fun ok => by cases ok; rfl, fun none => by rw [none]; rfl⟩
  | cons entry rest ih =>
      obtain ⟨key, spec⟩ := entry
      rw [compileKeys, List.forall₂_cons_left_iff]
      constructor
      · intro ok
        obtain ⟨reducer, becomes, ok⟩ := ok_of_bind ok
        obtain ⟨others, compiledRest, built⟩ := ok_of_bind ok
        cases built
        exact ⟨(key, reducer), others, ⟨rfl, compileSlot_eq_ok_iff.mp becomes⟩, ih.mp compiledRest, rfl⟩
      · rintro ⟨⟨_, reducer⟩, others, ⟨rfl, becomes⟩, become, rfl⟩
        exact bind_eq_ok_iff.mpr ⟨reducer, compileSlot_eq_ok_iff.mpr becomes,
          bind_eq_ok_iff.mpr ⟨others, ih.mpr become, rfl⟩⟩

theorem compileHashStep_eq_ok_iff {modifier : Modifier} {step : HashStep} :
    compileHashStep id modifier = .ok step ↔ modifier.OnObject step := by
  constructor
  · intro ok
    cases modifier with
    | mapKeys written =>
        obtain ⟨keys, become, rfl⟩ := ok_of_map ok
        exact .mapKeys (compileKeys_eq_ok_iff.mp become)
    | addKeys written =>
        obtain ⟨keys, become, rfl⟩ := ok_of_map ok
        exact .addKeys (compileKeys_eq_ok_iff.mp become)
    | addValues values =>
        cases ok
        exact .addValues values
    | omitKeys keys =>
        cases ok
        exact .omitKeys keys
    | pickKeys keys =>
        cases ok
        exact .pickKeys keys
    | map spec => cases ok
    | filter spec => cases ok
    | find spec => cases ok
  · intro written
    cases written with
    | mapKeys become => exact map_eq_ok_iff.mpr ⟨_, compileKeys_eq_ok_iff.mpr become, rfl⟩
    | addKeys become => exact map_eq_ok_iff.mpr ⟨_, compileKeys_eq_ok_iff.mpr become, rfl⟩
    | addValues values => rfl
    | omitKeys keys => rfl
    | pickKeys keys => rfl

theorem compileCollectionStep_eq_ok_iff {modifier : Modifier} {step : CollectionStep} :
    compileCollectionStep id modifier = .ok step ↔ modifier.OnArray step := by
  constructor
  · intro ok
    cases modifier with
    | map spec =>
        obtain ⟨reducer, becomes, rfl⟩ := ok_of_map ok
        exact .map (compileSlot_eq_ok_iff.mp becomes)
    | filter spec =>
        obtain ⟨reducer, becomes, rfl⟩ := ok_of_map ok
        exact .filter (compileSlot_eq_ok_iff.mp becomes)
    | find spec =>
        obtain ⟨reducer, becomes, rfl⟩ := ok_of_map ok
        exact .find (compileSlot_eq_ok_iff.mp becomes)
    | mapKeys written => cases ok
    | addKeys written => cases ok
    | addValues values => cases ok
    | omitKeys keys => cases ok
    | pickKeys keys => cases ok
  · intro written
    cases written with
    | map becomes => exact map_eq_ok_iff.mpr ⟨_, compileSlot_eq_ok_iff.mpr becomes, rfl⟩
    | filter becomes => exact map_eq_ok_iff.mpr ⟨_, compileSlot_eq_ok_iff.mpr becomes, rfl⟩
    | find becomes => exact map_eq_ok_iff.mpr ⟨_, compileSlot_eq_ok_iff.mpr becomes, rfl⟩

theorem rejectCompose_eq_ok_iff {modifiers : List Modifier} {done : Unit} :
    rejectCompose id modifiers = .ok done ↔ modifiers = [] := by
  cases modifiers with
  | nil => exact ⟨fun _ => rfl, fun _ => rfl⟩
  | cons modifier rest =>
      constructor
      · intro ok
        cases ok
      · intro none
        cases none

theorem objectOrEmpty_eq_ok_iff {field : String} {payload : Option Value} {entries : Keyed Value} :
    objectOrEmpty id field payload = .ok entries ↔ payload.getD (.object []) = .object entries := by
  cases payload with
  | none => simp [objectOrEmpty]
  | some value => cases value <;> simp [objectOrEmpty]

/-- A body is compiled to what the definition shapes, where only schemas have a schema and options. -/
theorem compileBody_eq_ok_iff {type : EntityType} {body : Body}
    (bare : type ≠ .schema → definition.Bare) :
    compileBody id type definition = .ok body ↔ body.type = type ∧ definition.Shapes body := by
  constructor
  · intro ok
    refine ⟨type_of_compileBody ok, ?_⟩
    cases type with
    | entry =>
        obtain ⟨_, steps, built⟩ := ok_of_bind ok
        cases built
        exact .entry (rejectCompose_eq_ok_iff.mp steps) (bare nofun)
    | hash =>
        obtain ⟨compose, steps, built⟩ := ok_of_bind ok
        cases built
        refine .hash ((mapM_eq_ok_iff.mp steps).imp fun _ _ => ?_) (bare nofun)
        exact compileHashStep_eq_ok_iff.mp
    | collection =>
        obtain ⟨compose, steps, built⟩ := ok_of_bind ok
        cases built
        refine .collection ((mapM_eq_ok_iff.mp steps).imp fun _ _ => ?_) (bare nofun)
        exact compileCollectionStep_eq_ok_iff.mp
    | schema =>
        obtain ⟨_, steps, ok⟩ := ok_of_bind ok
        obtain ⟨schema, payload, ok⟩ := ok_of_bind ok
        obtain ⟨options, settings, built⟩ := ok_of_bind ok
        cases built
        exact .schema (rejectCompose_eq_ok_iff.mp steps) (objectOrEmpty_eq_ok_iff.mp payload)
          (objectOrEmpty_eq_ok_iff.mp settings)
  · rintro ⟨rfl, shapes⟩
    cases shapes with
    | entry steps bare =>
        exact bind_eq_ok_iff.mpr ⟨(), rejectCompose_eq_ok_iff.mpr steps, rfl⟩
    | hash steps bare =>
        refine bind_eq_ok_iff.mpr ⟨_, mapM_eq_ok_iff.mpr (steps.imp fun _ _ => ?_), rfl⟩
        exact compileHashStep_eq_ok_iff.mpr
    | collection steps bare =>
        refine bind_eq_ok_iff.mpr ⟨_, mapM_eq_ok_iff.mpr (steps.imp fun _ _ => ?_), rfl⟩
        exact compileCollectionStep_eq_ok_iff.mpr
    | schema steps payload settings =>
        refine bind_eq_ok_iff.mpr ⟨(), rejectCompose_eq_ok_iff.mpr steps, ?_⟩
        refine bind_eq_ok_iff.mpr ⟨_, objectOrEmpty_eq_ok_iff.mpr payload, ?_⟩
        exact bind_eq_ok_iff.mpr ⟨_, objectOrEmpty_eq_ok_iff.mpr settings, rfl⟩

/-- The slots are compiled one after the other; a value that is not given is the one that keeps what it is
    given. -/
theorem compileSlots_eq {name : String} {body : Body} :
    compileSlots id name definition body = (do
      let value ← compileSlot id "value" (definition.value.getD (.built .identity))
      let before ← compileHook id "before" definition.before
      let after ← compileHook id "after" definition.after
      let error ← compileHook id "error" definition.error
      .ok ⟨name, value, before, after, error, definition.inspect, body⟩) := by
  unfold compileSlots
  cases definition.value with
  | none => rfl
  | some spec => rfl

/-- The slots are compiled around a body to an entity that is what the definition says. -/
theorem compileSlots_eq_ok_iff {name : String} {body : Body} {entity : Entity}
    (shapes : definition.Shapes body) :
    compileSlots id name definition body = .ok entity ↔
      entity.name = name ∧ entity.body = body ∧ entity.Realizes definition := by
  rw [compileSlots_eq]
  constructor
  · intro ok
    obtain ⟨value, valueOk, ok⟩ := ok_of_bind ok
    obtain ⟨before, beforeOk, ok⟩ := ok_of_bind ok
    obtain ⟨after, afterOk, ok⟩ := ok_of_bind ok
    obtain ⟨error, errorOk, built⟩ := ok_of_bind ok
    cases built
    exact ⟨rfl, rfl, compileSlot_eq_ok_iff.mp valueOk, compileHook_eq_ok_iff.mp beforeOk,
      compileHook_eq_ok_iff.mp afterOk, compileHook_eq_ok_iff.mp errorOk, rfl, shapes⟩
  · rintro ⟨rfl, rfl, realizes⟩
    refine bind_eq_ok_iff.mpr ⟨_, compileSlot_eq_ok_iff.mpr realizes.value, ?_⟩
    refine bind_eq_ok_iff.mpr ⟨_, compileHook_eq_ok_iff.mpr realizes.before, ?_⟩
    refine bind_eq_ok_iff.mpr ⟨_, compileHook_eq_ok_iff.mpr realizes.after, ?_⟩
    refine bind_eq_ok_iff.mpr ⟨_, compileHook_eq_ok_iff.mpr realizes.error, ?_⟩
    rw [← realizes.inspects]

theorem compile_of_malformedId (malformed : Reference.splitId? id.toList = none) :
    compile id definition = .error (Fault.failure id .malformedId) := by
  unfold compile
  rw [malformed]
  rfl

theorem compile_of_unknownType {typeName name : List Char}
    (parts : Reference.splitId? id.toList = some (typeName, name))
    (unknown : EntityType.ofName? (String.ofList typeName) = none) :
    compile id definition = .error (Fault.failure id (.unknownType (String.ofList typeName))) := by
  unfold compile
  rw [parts]
  simp only [bind, Except.bind, unknown]

/-- Under an id with a known type, the payload is checked first, then the body and the slots are compiled. -/
theorem compile_eq {type : EntityType} {name : String}
    (parts : Reference.splitId? id.toList = some (type.name.toList, name.toList)) :
    compile id definition =
      if type ≠ .schema ∧ (definition.schema.isSome ∨ definition.options.isSome) then
        .error (Fault.failure id .foreignSchema)
      else compileBody id type definition >>= compileSlots id name definition := by
  unfold compile
  rw [parts]
  simp only [bind, Except.bind, String.ofList_toList, EntityType.ofName?_name]

theorem bare_iff {type : EntityType} :
    (type ≠ .schema → definition.Bare) ↔
      ¬ (type ≠ .schema ∧ (definition.schema.isSome ∨ definition.options.isSome)) := by
  simp [Definition.Bare]

/-- The entities that are compiled under an id are those that have the id and are what the definition
    says. -/
theorem compile_eq_ok_iff {entity : Entity} :
    compile id definition = .ok entity ↔
      entity.id = id ∧ Reference.isName entity.name.toList = true ∧ entity.Realizes definition := by
  constructor
  · intro compiled
    obtain ⟨typeName, name, type, parts, known, -, sameName⟩ := parts_of_compile compiled
    obtain rfl : typeName = type.name.toList := by
      rw [EntityType.name_of_ofName? known, String.toList_ofList]
    obtain rfl : name = entity.name.toList := by rw [sameName, String.toList_ofList]
    obtain ⟨-, named⟩ := EntityType.splitId?_eq_some_iff.mp parts
    refine ⟨id_of_compile compiled, named, ?_⟩
    rw [compile_eq parts] at compiled
    split at compiled
    · cases compiled
    · rename_i accepted
      obtain ⟨body, bodyCompiled, compiled⟩ := ok_of_bind compiled
      obtain ⟨-, shapes⟩ := (compileBody_eq_ok_iff (bare_iff.mpr accepted)).mp bodyCompiled
      exact ((compileSlots_eq_ok_iff shapes).mp compiled).2.2
  · rintro ⟨rfl, named, realizes⟩
    have bare := realizes.body.bare
    have parts := EntityType.splitId?_eq_some_iff.mpr ⟨(rfl : entity.id = _), named⟩
    rw [compile_eq parts, if_neg (bare_iff.mp bare)]
    refine bind_eq_ok_iff.mpr ⟨entity.body, (compileBody_eq_ok_iff bare).mpr ⟨rfl, realizes.body⟩, ?_⟩
    exact (compileSlots_eq_ok_iff realizes.body).mpr ⟨rfl, rfl, realizes⟩

/-- An entity is compiled from exactly the definitions that are right for the type that their id names. -/
theorem exists_compile_iff :
    (∃ entity, compile id definition = .ok entity) ↔
      ∃ type : EntityType, type.Names id ∧ definition.WellFormed type := by
  constructor
  · rintro ⟨entity, compiled⟩
    obtain ⟨rfl, named, realizes⟩ := compile_eq_ok_iff.mp compiled
    exact ⟨entity.body.type, ⟨entity.name, rfl, Reference.isName_iff.mp named⟩, realizes.wellFormed⟩
  · rintro ⟨type, ⟨name, rfl, named⟩, wellFormed⟩
    obtain ⟨entity, rfl, rfl, realizes⟩ := exists_realizes wellFormed name
    exact ⟨entity, compile_eq_ok_iff.mpr ⟨rfl, Reference.isName_iff.mpr named, realizes⟩⟩

end Entity

end Reshape
