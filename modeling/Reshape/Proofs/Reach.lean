/-
Module: Reshape.Proofs.Reach
Layer: Proofs
Purpose: Where reducers stand in other reducers and in entities, and which reducers a resolution can
  come to through lists and through the entities that are referred to.
Main exports: Reducer.Holds, Entity.slots, Store.Reaches, Reducer.mem_references,
  Entity.mem_reducers_of_slot, Store.Reaches.holds
-/
import Reshape.Store.Basic

namespace Reshape

/-! ### Reducers in reducers -/

/-- `outer.Holds inner`: `inner` is `outer`, or stands at some depth in the steps of it. -/
inductive Reducer.Holds : Reducer → Reducer → Prop where
  | here (reducer : Reducer) : Holds reducer reducer
  | step {step inner : Reducer} {steps : List Reducer} (member : step ∈ steps)
      (holds : Holds step inner) : Holds (.list steps) inner

namespace Reducer

theorem Holds.list_iff {steps : List Reducer} {inner : Reducer} :
    (Reducer.list steps).Holds inner ↔
      .list steps = inner ∨ ∃ step ∈ steps, step.Holds inner := by
  constructor
  · intro holds
    cases holds with
    | here => exact .inl rfl
    | step member holds => exact .inr ⟨_, member, holds⟩
  · intro either
    rcases either with rfl | ⟨step, member, holds⟩
    · exact .here _
    · exact .step member holds

mutual

/-- The enumeration of references visits exactly the references that stand in a reducer. -/
theorem mem_references {reference : Reference} :
    ∀ reducer : Reducer, reference ∈ reducer.references ↔ reducer.Holds (.entity reference)
  | .path _ => by
      constructor
      · intro member
        simp [references] at member
      · intro holds
        cases holds
  | .function _ => by
      constructor
      · intro member
        simp [references] at member
      · intro holds
        cases holds
  | .list steps => by
      rw [references, mem_stepReferences steps, Holds.list_iff]
      simp
  | .entity other => by
      constructor
      · intro member
        obtain rfl := List.mem_singleton.mp member
        exact .here _
      · intro holds
        cases holds
        exact List.mem_singleton.mpr rfl

/-- The same for the steps of a list. -/
theorem mem_stepReferences {reference : Reference} :
    ∀ steps : List Reducer,
      reference ∈ stepReferences steps ↔ ∃ step ∈ steps, step.Holds (.entity reference)
  | [] => by simp [stepReferences]
  | step :: rest => by
      simp [stepReferences, mem_references step, mem_stepReferences rest]

end

theorem references_list_of_step {reference : Reference} {step : Reducer} {steps : List Reducer}
    (member : step ∈ steps) (refers : reference ∈ step.references) :
    reference ∈ (Reducer.list steps).references :=
  (mem_references _).mpr (.step member ((mem_references _).mp refers))

end Reducer

/-! ### Reducers in entities -/

/-- The reducers of a body, each with the name of the compose step that it stands in. -/
def Body.slots : Body → List (String × Reducer)
  | .entry => []
  | .hash compose => compose.flatMap fun step => step.reducers.map fun reducer => (step.name, reducer)
  | .collection compose => compose.map fun step => (step.name, step.reducer)
  | .schema _ _ => []

namespace Entity

/-- The slots of an entity whose failures its error hook takes up, each with a reducer that stands in
    it. -/
def slots (entity : Entity) : List (String × Reducer) :=
  entity.before.toList.map (fun reducer => ("before", reducer)) ++
    (("value", entity.value) ::
      (entity.body.slots ++ entity.after.toList.map fun reducer => ("after", reducer)))

variable {entity : Entity} {slot : String} {reducer : Reducer}

theorem mem_slots_before (before : entity.before = some reducer) :
    ("before", reducer) ∈ entity.slots := by
  simp [slots, before]

theorem mem_slots_value : ("value", entity.value) ∈ entity.slots := by
  simp [slots]

theorem mem_slots_after (after : entity.after = some reducer) :
    ("after", reducer) ∈ entity.slots := by
  simp [slots, after]

theorem mem_slots_hash {compose : List HashStep} (body : entity.body = .hash compose)
    {step : HashStep} (member : step ∈ compose) (stands : reducer ∈ step.reducers) :
    (step.name, reducer) ∈ entity.slots := by
  have inBody : (step.name, reducer) ∈ entity.body.slots := by
    rw [body]
    exact List.mem_flatMap.mpr ⟨step, member, List.mem_map_of_mem stands⟩
  simp [slots, inBody]

theorem mem_slots_collection {compose : List CollectionStep}
    (body : entity.body = .collection compose) {step : CollectionStep} (member : step ∈ compose) :
    (step.name, step.reducer) ∈ entity.slots := by
  have inBody : (step.name, step.reducer) ∈ entity.body.slots := by
    rw [body]
    exact List.mem_map.mpr ⟨step, member, rfl⟩
  simp [slots, inBody]

theorem mem_reducers_of_body {body : Body} (member : (slot, reducer) ∈ body.slots) :
    reducer ∈ body.reducers := by
  cases body with
  | entry => simp [Body.slots] at member
  | hash compose =>
      obtain ⟨step, inCompose, inStep⟩ := List.mem_flatMap.mp member
      obtain ⟨_, stands, same⟩ := List.mem_map.mp inStep
      obtain rfl := (Prod.mk.inj same).2
      exact List.mem_flatMap.mpr ⟨step, inCompose, stands⟩
  | collection compose =>
      obtain ⟨step, inCompose, same⟩ := List.mem_map.mp member
      obtain rfl := (Prod.mk.inj same).2
      exact List.mem_map_of_mem inCompose
  | schema => simp [Body.slots] at member

/-- What stands in a slot is one of the reducers that the enumeration of references goes through. -/
theorem mem_reducers_of_slot (member : (slot, reducer) ∈ entity.slots) :
    reducer ∈ entity.reducers := by
  simp only [slots, List.mem_append, List.mem_cons, List.mem_map, Prod.mk.injEq] at member
  simp only [reducers, List.mem_cons, List.mem_append]
  rcases member with ⟨_, stands, -, rfl⟩ | ⟨-, rfl⟩ | inBody | ⟨_, stands, -, rfl⟩
  · exact .inr (.inl (.inl (.inl stands)))
  · exact .inl rfl
  · exact .inr (.inr (mem_reducers_of_body inBody))
  · exact .inr (.inl (.inl (.inr stands)))

theorem mem_reducers_of_error (hook : entity.error = some reducer) : reducer ∈ entity.reducers := by
  simp [reducers, hook]

/-- The enumeration of an entity's references visits the references in each of its reducers. -/
theorem mem_references_of_reducer {reference : Reference} (member : reducer ∈ entity.reducers)
    (refers : reference ∈ reducer.references) : reference ∈ entity.references :=
  List.mem_flatMap.mpr ⟨reducer, member, refers⟩

end Entity

/-! ### Reducers behind references -/

/-- `store.Reaches outer inner`: resolving `outer` can come to resolving `inner`, through steps of
    lists and through the reducers of registered entities. -/
inductive Store.Reaches (store : Store) : Reducer → Reducer → Prop where
  | here (reducer : Reducer) : Reaches store reducer reducer
  | step {step inner : Reducer} {steps : List Reducer} (member : step ∈ steps)
      (reaches : Reaches store step inner) : Reaches store (.list steps) inner
  | slot {reference : Reference} {entity : Entity} {reducer inner : Reducer}
      (found : store.get? reference.id = some entity) (member : reducer ∈ entity.reducers)
      (reaches : Reaches store reducer inner) : Reaches store (.entity reference) inner

/-- Whatever is reached stands in the reducer that was started from, or in a registered entity. -/
theorem Store.Reaches.holds {store : Store} {outer inner : Reducer}
    (reaches : store.Reaches outer inner) :
    outer.Holds inner ∨
      ∃ id entity, store.get? id = some entity ∧ ∃ reducer ∈ entity.reducers, reducer.Holds inner := by
  induction reaches with
  | here reducer => exact .inl (.here reducer)
  | step member _ ih =>
      rcases ih with holds | elsewhere
      · exact .inl (.step member holds)
      · exact .inr elsewhere
  | slot found member _ ih =>
      rcases ih with holds | elsewhere
      · exact .inr ⟨_, _, found, _, member, holds⟩
      · exact .inr elsewhere

end Reshape
