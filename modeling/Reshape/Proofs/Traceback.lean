/-
Module: Reshape.Proofs.Traceback
Layer: Proofs
Purpose: Where failures come from. Every failure that ends a resolution is a leaf, raised somewhere
  inside, below one mark for each slot of an entity that it has crossed on the way out.
Main exports: Frame, Failure.under, Store.Traceback, Store.Breakdown, Store.Traceback.mono, Store.Linked,
  Store.keeps_traced, Store.failure_is_traced
-/
import Reshape.Proofs.Built
import Reshape.Proofs.Contract

namespace Reshape

/-! ### Marks -/

/-- A slot of an entity that a failure has crossed. -/
structure Frame where
  id : String
  slot : String
  deriving Repr, Inhabited, DecidableEq

/-- The mark that a slot leaves. -/
def Frame.place (frame : Frame) : String :=
  frame.id ++ "." ++ frame.slot

namespace Failure

/-- The failure with the marks of the frames, of which the first is the outermost. -/
def under (leaf : Failure) : List Frame → Failure
  | [] => leaf
  | frame :: rest => (leaf.under rest).annotate frame.place

variable (leaf : Failure) (frames : List Frame)

@[simp] theorem kind_under : (leaf.under frames).kind = leaf.kind := by
  induction frames with
  | nil => rfl
  | cons frame rest ih => rw [under, kind_annotate, ih]

@[simp] theorem diagnostics_under : (leaf.under frames).diagnostics = leaf.diagnostics := by
  induction frames with
  | nil => rfl
  | cons frame rest ih => rw [under, diagnostics_annotate, ih]

@[simp] theorem cause?_under : (leaf.under frames).cause? = leaf.cause? := by
  induction frames with
  | nil => rfl
  | cons frame rest ih => rw [under, cause?_annotate, ih]

theorem message_under :
    (leaf.under frames).message =
      frames.foldr (fun frame message => frame.place ++ " " ++ message) leaf.message := by
  induction frames with
  | nil => rfl
  | cons frame rest ih => rw [under, message_annotate, ih, List.foldr_cons]

end Failure

namespace Store

/-! ### Where failures come from -/

mutual

/-- `store.Traceback events reducer frames leaf`: a resolution of the reducer with these events may fail
    with `leaf` below `frames`. -/
inductive Traceback (store : Store) (events : List Event) :
    Reducer → List Frame → Failure → Prop where
  /-- A function answers with a failure to the accumulator that it has been called with. -/
  | raised {reducer : Reducer} {function : Function} {acc : Accumulator} {leaf : Failure}
      (stands : reducer.Holds (.function function)) (called : .called acc ∈ events)
      (raises : function.Raises acc leaf) : Traceback store events reducer [] leaf
  /-- A function drops its continuation. -/
  | dropped {reducer : Reducer} {function : Function} {acc : Accumulator}
      (stands : reducer.Holds (.function function)) (called : .called acc ∈ events)
      (drops : function.Drops acc) : Traceback store events reducer [] Function.dropped
  /-- A reference names no entity of the store. -/
  | undefined {reducer : Reducer} {reference : Reference} (refers : reference ∈ reducer.references)
      (sought : .sought reference.id ∈ events) (missing : store.get? reference.id = none) :
      Traceback store events reducer [] (undefinedEntity reference.id)
  /-- An entity that is referred to fails, and its error hook does not take that up. -/
  | entity {reducer : Reducer} {reference : Reference} {entity : Entity} {frames : List Frame}
      {leaf : Failure} (refers : reference ∈ reducer.references)
      (found : store.get? reference.id = some entity) (fails : Breakdown store events entity frames leaf) :
      Traceback store events reducer frames leaf
  /-- An entity that is referred to fails, and so does its error hook. -/
  | exhausted {reducer : Reducer} {reference : Reference} {entity : Entity} {hook : Reducer}
      {frames second : List Frame} {leaf leaf' : Failure} (refers : reference ∈ reducer.references)
      (found : store.get? reference.id = some entity) (present : entity.error = some hook)
      (fails : Breakdown store events entity frames leaf)
      (hookFails : Traceback store events hook second leaf') :
      Traceback store events reducer []
        (.recoveryExhausted (entity.place "error" ++ " " ++ (leaf'.under second).message)
          (leaf.under frames))

/-- `store.Breakdown events entity frames leaf`: what the error hook of the entity guards may fail with
    `leaf` below `frames`. -/
inductive Breakdown (store : Store) (events : List Event) :
    Entity → List Frame → Failure → Prop where
  /-- The reducer in a slot fails. -/
  | slot {entity : Entity} {name : String} {reducer : Reducer} {frames : List Frame} {leaf : Failure}
      (member : (name, reducer) ∈ entity.slots) (fails : Traceback store events reducer frames leaf) :
      Breakdown store events entity (⟨entity.id, name⟩ :: frames) leaf
  /-- The entity refuses the value of its `value` reducer. -/
  | refused {entity : Entity} {leaf : Failure} (refuses : entity.Refuses store leaf) :
      Breakdown store events entity [] leaf
  /-- A compose step refuses what a step before it has found. -/
  | stepRefused {entity : Entity} {name : String} {leaf : Failure}
      (refuses : entity.StepRefuses name leaf) : Breakdown store events entity [⟨entity.id, name⟩] leaf

end

/-- The frames form a way into the store: each belongs to a slot of a registered entity, the first of
    them to an entity that the reducer refers to, and every other one to an entity that a reducer in
    the slot before it refers to. -/
def Linked (store : Store) : Reducer → List Frame → Prop
  | _, [] => True
  | reducer, frame :: rest =>
    ∃ reference ∈ reducer.references, reference.id = frame.id ∧
      ∃ entity inner, store.get? frame.id = some entity ∧ (frame.slot, inner) ∈ entity.slots ∧
        Linked store inner rest

variable {store : Store} {reducer : Reducer} {events more : List Event}

mutual

/-- What else happens makes no difference to a traceback. -/
theorem Traceback.mono {reducer : Reducer} {frames : List Frame} {leaf : Failure} (subset : events ⊆ more) :
    store.Traceback events reducer frames leaf → store.Traceback more reducer frames leaf
  | .raised stands called raises => .raised stands (subset called) raises
  | .dropped stands called drops => .dropped stands (subset called) drops
  | .undefined refers sought missing => .undefined refers (subset sought) missing
  | .entity refers found fails => .entity refers found (Breakdown.mono subset fails)
  | .exhausted refers found present fails hookFails =>
      .exhausted refers found present (Breakdown.mono subset fails) (Traceback.mono subset hookFails)

theorem Breakdown.mono {entity : Entity} {frames : List Frame} {leaf : Failure} (subset : events ⊆ more) :
    store.Breakdown events entity frames leaf → store.Breakdown more entity frames leaf
  | .slot member fails => .slot member (Traceback.mono subset fails)
  | .refused refuses => .refused refuses
  | .stepRefused refuses => .stepRefused refuses

end

theorem Traceback.step {step : Reducer} {steps : List Reducer} {frames : List Frame} {leaf : Failure}
    (member : step ∈ steps) (fails : store.Traceback events step frames leaf) :
    store.Traceback events (.list steps) frames leaf := by
  cases fails with
  | raised stands called raises => exact .raised (.step member stands) called raises
  | dropped stands called drops => exact .dropped (.step member stands) called drops
  | undefined refers sought missing =>
      exact .undefined (Reducer.references_list_of_step member refers) sought missing
  | entity refers found fails =>
      exact .entity (Reducer.references_list_of_step member refers) found fails
  | exhausted refers found present fails hookFails =>
      exact .exhausted (Reducer.references_list_of_step member refers) found present fails hookFails

theorem slot_of_stepRefuses {entity : Entity} {name : String} {failure : Failure}
    (refuses : entity.StepRefuses name failure) : ∃ inner, (name, inner) ∈ entity.slots := by
  cases refuses with
  | noItems body _ _ _ => exact ⟨_, Entity.mem_slots_collection body List.mem_append_cons_self⟩

mutual

/-- In a store that has each entity under its own id, the frames of a traceback are linked. -/
theorem Traceback.linked {reducer : Reducer} {frames : List Frame} {leaf : Failure}
    (filed : Builder.Filed store.entities) :
    store.Traceback events reducer frames leaf → store.Linked reducer frames
  | .raised _ _ _ => trivial
  | .dropped _ _ _ => trivial
  | .undefined _ _ _ => trivial
  | .entity refers found fails => Breakdown.linked filed refers found fails
  | .exhausted _ _ _ _ _ => trivial

/-- The same for the frames of an entity that the reducer refers to. -/
theorem Breakdown.linked {reducer : Reducer} {reference : Reference} {entity : Entity}
    {frames : List Frame} {leaf : Failure} (filed : Builder.Filed store.entities)
    (refers : reference ∈ reducer.references) (found : store.get? reference.id = some entity) :
    store.Breakdown events entity frames leaf → store.Linked reducer frames
  | .slot member fails => by
      have same : entity.id = reference.id := filed found
      have inner := Traceback.linked filed fails
      exact ⟨reference, refers, same.symm, entity, _, same ▸ found, member, inner⟩
  | .refused _ => trivial
  | .stepRefused refuses => by
      have same : entity.id = reference.id := filed found
      obtain ⟨step, present⟩ := slot_of_stepRefuses refuses
      exact ⟨reference, refers, same.symm, entity, step, same ▸ found, present, trivial⟩

end

end Store

/-! ### Resolutions -/

namespace Store

variable {store : Store} {reducer : Reducer} {entity : Entity} {events more : List Event} {failure : Failure}

/-- The failures of a reducer that have a traceback in the events. -/
def Traced (store : Store) (reducer : Reducer) (events : List Event) (failure : Failure) : Prop :=
  ∃ frames leaf, store.Traceback events reducer frames leaf ∧ failure = leaf.under frames

/-- The failures of an entity, ahead of its error hook, that have a traceback in the events. -/
def Broken (store : Store) (entity : Entity) (events : List Event) (failure : Failure) : Prop :=
  ∃ frames leaf, store.Breakdown events entity frames leaf ∧ failure = leaf.under frames

/-- The failures of the error hook of an entity that have a traceback in the events. -/
def HookTraced (store : Store) (entity : Entity) (events : List Event) (failure : Failure) : Prop :=
  ∃ hook, entity.error = some hook ∧ store.Traced hook events failure

theorem Traced.mono (subset : events ⊆ more) (traced : store.Traced reducer events failure) :
    store.Traced reducer more failure := by
  obtain ⟨frames, leaf, traceback, rfl⟩ := traced
  exact ⟨frames, leaf, traceback.mono subset, rfl⟩

theorem Broken.mono (subset : events ⊆ more) (broken : store.Broken entity events failure) :
    store.Broken entity more failure := by
  obtain ⟨frames, leaf, breakdown, rfl⟩ := broken
  exact ⟨frames, leaf, breakdown.mono subset, rfl⟩

theorem HookTraced.mono (subset : events ⊆ more) (handled : store.HookTraced entity events failure) :
    store.HookTraced entity more failure := by
  obtain ⟨hook, present, traced⟩ := handled
  exact ⟨hook, present, traced.mono subset⟩

end Store

namespace Contract

/-- The contract of runs that end in allowed failures, of which more events allow no fewer. -/
def fails (allowed : List Event → Failure → Prop)
    (mono : ∀ {events more failure}, events ⊆ more → allowed events failure → allowed more failure) :
    Contract :=
  { endings (fun _ => True) True with
    failure := allowed
    failure_mono := mono }

/-- The contracts of a reducer, of what the error hook of an entity guards, and of the error hook. -/
def traced (store : Store) (reducer : Reducer) : Contract :=
  fails (store.Traced reducer) Store.Traced.mono

def broken (store : Store) (entity : Entity) : Contract :=
  fails (store.Broken entity) Store.Broken.mono

def hookTraced (store : Store) (entity : Entity) : Contract :=
  fails (store.HookTraced entity) Store.HookTraced.mono

end Contract

namespace Store

variable {store : Store} {reducer : Reducer}

/-- From failures ahead of the error hook of an entity to failures of the entity. -/
theorem traced_encloses {reference : Reference} {entity : Entity}
    (found : store.get? reference.id = some entity) :
    (Contract.traced store (.entity reference)).Encloses (Contract.broken store entity)
      (fun _ => Contract.hookTraced store entity) reference entity := by
  have refers : reference ∈ (Reducer.entity reference).references := List.mem_singleton.mpr rfl
  constructor
  case fails =>
    intro events failure broken
    have inside : events ⊆ .entered reference :: events ++ [.left reference] :=
      fun event member => by simp [member]
    obtain ⟨frames, leaf, breakdown, rfl⟩ := broken
    exact ⟨frames, leaf, .entity refers found (breakdown.mono inside), rfl⟩
  case exhausts =>
    intro events last failure second broken handled
    let whole := .entered reference :: (events ++ .recovering entity.id failure :: last) ++ [.left reference]
    have before : events ⊆ whole := fun event member => by simp [whole, member]
    have after : last ⊆ whole := fun event member => by simp [whole, member]
    obtain ⟨frames, leaf, breakdown, rfl⟩ := broken
    obtain ⟨hook, present, frames', leaf', traceback, rfl⟩ := handled
    exact ⟨[], _, .exhausted refers found present (breakdown.mono before) (traceback.mono after), rfl⟩
  all_goals intros; trivial

/-- A reducer in a slot of an entity fails with the mark of the slot. -/
theorem broken_slot {entity : Entity} {name : String} {resolve : Resolver}
    (member : (name, reducer) ∈ entity.slots)
    (keeps : (Contract.traced store reducer).Keeps resolve reducer) :
    ((Contract.broken store entity).marked (entity.place name)).Keeps resolve reducer := by
  refine keeps.weaken rfl ?_
  intro events failure traced
  obtain ⟨frames, leaf, traceback, rfl⟩ := traced
  exact ⟨⟨entity.id, name⟩ :: frames, leaf, .slot member traceback, rfl⟩

/-- The failures of every resolution have a traceback in its events. -/
theorem keeps_traced (depth : Nat) :
    (Contract.traced store reducer).Keeps (store.resolve depth) reducer := by
  induction depth generalizing reducer with
  | zero =>
      intro acc _
      exact ⟨trivial, nofun, nofun, fun _ => trivial⟩
  | succ depth ih =>
      intro acc start
      cases reducer with
      | path target => exact Contract.pure trivial
      | function function =>
          have called : .called acc ∈ [Event.called acc] := List.mem_singleton.mpr rfl
          refine Contract.call trivial (fun _ _ => trivial) ?_ ?_ (fun _ _ => trivial) start
          · intro failure raises
            exact ⟨[], failure, .raised (.here _) called raises, rfl⟩
          · intro drops
            exact ⟨[], _, .dropped (.here _) called drops, rfl⟩
      | list steps =>
          apply Contract.sequence ?_ start
          intro step member
          have keeps : (Contract.traced store step).Keeps (store.resolve depth) step := ih
          refine keeps.weaken rfl ?_
          intro events failure traced
          obtain ⟨frames, leaf, traceback, rfl⟩ := traced
          exact ⟨frames, leaf, traceback.step member, rfl⟩
      | entity reference =>
          have refers : reference ∈ (Reducer.entity reference).references :=
            List.mem_singleton.mpr rfl
          refine Contract.reference trivial ?_ ?_ start
          · intro missing
            exact ⟨[], _, .undefined refers (List.mem_singleton.mpr rfl) missing, rfl⟩
          · intro entity found acc start
            refine Contract.enter (traced_encloses found) ?_ ?_ start
            · constructor
              · exact fun member => broken_slot member ih
              · exact fun refuses => ⟨[], _, .refused refuses, rfl⟩
              · exact fun refuses => ⟨_, _, .stepRefused refuses, rfl⟩
            · intro events failure hook present _
              have keeps : (Contract.traced store hook).Keeps (store.resolve depth) hook := ih
              exact keeps.weaken rfl fun traced => ⟨hook, present, traced⟩

/-- Every failure that leaves a resolution is a leaf below the marks of the slots that it has crossed,
    the outermost of them first, and nothing else: it has the kind, the diagnostics and the cause of the
    leaf. The frames lead from the reducer through slots of entities to where the leaf was raised: by a
    function that was called, for an id that was looked up, or by an entity. In a built store each of them
    has the id that the entity is registered and referred to under. -/
theorem failure_is_traced {depth : Nat} {acc : Accumulator} {failure : Failure}
    (failed : (store.resolve depth reducer acc).ending = .failed failure) :
    ∃ frames leaf, store.Traceback (store.resolve depth reducer acc).events reducer frames leaf ∧
      failure = leaf.under frames ∧ failure.kind = leaf.kind ∧ failure.diagnostics = leaf.diagnostics ∧
      failure.cause? = leaf.cause? ∧
      failure.message =
        frames.foldr (fun frame message => frame.place ++ " " ++ message) leaf.message ∧
      ((∃ builder : Builder, builder.build = .ok store) → store.Linked reducer frames) := by
  obtain ⟨frames, leaf, traceback, rfl⟩ := (keeps_traced depth trivial).failed failed
  refine ⟨frames, leaf, traceback, rfl, leaf.kind_under frames, leaf.diagnostics_under frames,
    leaf.cause?_under frames, leaf.message_under frames, ?_⟩
  intro isBuilt
  obtain ⟨builder, built⟩ := isBuilt
  exact traceback.linked (Builder.filed_of_build built)

/-- In the sample, the failure of `entry:outer` has a traceback in the events of its run. -/
theorem failure_is_traced_sample :
    let run := Rescue.store.resolve 4 (.entity Rescue.outerReference) (.ofValue .null)
    run.ending = .failed (.resolution "entry:outer.value boom") ∧
      ∃ frames leaf, Rescue.store.Traceback run.events (.entity Rescue.outerReference) frames leaf ∧
        .resolution "entry:outer.value boom" = leaf.under frames ∧
        Rescue.store.Linked (.entity Rescue.outerReference) frames := by
  intro run
  have failed : run.ending = .failed (.resolution "entry:outer.value boom") := rfl
  obtain ⟨frames, leaf, traceback, same, -, -, -, -, linked⟩ := failure_is_traced failed
  exact ⟨failed, frames, leaf, traceback, same, linked ⟨_, Rescue.build_eq⟩⟩

end Store

end Reshape
