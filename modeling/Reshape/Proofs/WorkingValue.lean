/-
Module: Reshape.Proofs.WorkingValue
Layer: Proofs
Purpose: What the compose steps of an entity find in place of the value: an object in every hash, and in a
  collection an array as long as no item has been found. So the steps of a hash fail only where a reducer
  does, and a step of a collection refuses a value only after an item has been found.
Main exports: Accumulator.HasObject, Accumulator.HasArray, Run.holds_of_inOrder, Run.failed_of_inOrder,
  Resolver.lifecycle_of_refused, Store.last_find, Store.StepFails, Store.ObjectStays, Store.ArrayStays,
  Store.working_value_keeps_shape
-/
import Mathlib.Data.List.Induction
import Reshape.Proofs.UserCode

namespace Reshape

/-! ### Shapes -/

namespace Accumulator

/-- The value is an object, and has the entries that the steps of a hash go by. -/
def HasObject (acc : Accumulator) : Prop :=
  acc.value = .object (Resolver.objectOf acc)

/-- The value is an array. -/
def HasArray (acc : Accumulator) : Prop :=
  ∃ items, acc.value = .array items

variable {acc : Accumulator}

theorem hasObject_iff : acc.HasObject ↔ ∃ entries, acc.value = .object entries := by
  rw [HasObject, Resolver.objectOf]
  cases acc.value <;> simp [Value.entries?]

theorem not_hasArray_iff : ¬ acc.HasArray ↔ acc.value.items? = none := by
  rw [HasArray]
  cases acc.value <;> simp [Value.items?]

end Accumulator

/-! ### Rows of steps -/

namespace Run

variable {ι : Type} {step : ι → Accumulator → Run Accumulator} {steps : List ι} {acc : Accumulator}

/-- What every step keeps, a row of steps keeps. -/
theorem holds_of_inOrder {Holds : Accumulator → Prop}
    (keeps : ∀ member ∈ steps, ∀ {given next}, Holds given →
      (step member given).ending = .finished next → Holds next)
    (start : Holds acc) {last : Accumulator}
    (finished : (inOrder (steps.map step) acc).ending = .finished last) : Holds last := by
  induction steps generalizing acc with
  | nil =>
      cases finished
      exact start
  | cons member rest ih =>
      obtain ⟨middle, first, others⟩ := bind_finished_iff.mp finished
      obtain ⟨keepsFirst, keepsRest⟩ := List.forall_mem_cons.mp keeps
      exact ih keepsRest (keepsFirst start first) others

/-- A row of marked steps fails in one of them, with its mark, after the steps before it have finished. -/
theorem failed_of_inOrder {place : ι → String} {failure : Failure}
    (failed : (inOrder (steps.map fun member given => (step member given).annotate (place member))
      acc).ending = .failed failure) :
    ∃ first member rest given cause, steps = first ++ member :: rest ∧
      (inOrder (first.map fun member given => (step member given).annotate (place member))
        acc).ending = .finished given ∧
      (step member given).ending = .failed cause ∧ cause.annotate (place member) = failure := by
  induction steps generalizing acc with
  | nil => cases failed
  | cons member rest ih =>
      rcases bind_failed_iff.mp failed with here | ⟨middle, finished, later⟩
      · obtain ⟨cause, fails, marked⟩ := annotate_failed_iff.mp here
        exact ⟨[], member, rest, acc, cause, rfl, rfl, fails, marked⟩
      · obtain ⟨first, other, others, given, cause, rfl, reached, fails⟩ := ih later
        have reached' := bind_finished_iff.mpr ⟨middle, finished, reached⟩
        exact ⟨member :: first, other, others, given, cause, rfl, reached', fails⟩

end Run

/-! ### What a step leaves -/

namespace Resolver

variable {resolve : Resolver} {entity : Entity} {acc next : Accumulator}

/-- A step of a hash leaves an object where there was one. -/
theorem hasObject_of_hashStep {step : HashStep} (object : acc.HasObject)
    (finished : (hashStep resolve step acc).ending = .finished next) : next.HasObject := by
  unfold hashStep at finished
  split at finished
  · cases finished
    exact object
  · cases step with
    | mapKeys keys =>
        obtain ⟨_, -, written⟩ := Run.bind_finished_iff.mp finished
        cases written
        rfl
    | addKeys keys =>
        obtain ⟨_, -, written⟩ := Run.bind_finished_iff.mp finished
        cases written
        rfl
    | addValues values =>
        cases finished
        rfl
    | omitKeys keys =>
        cases finished
        rfl
    | pickKeys keys =>
        cases finished
        rfl

/-- A step of a collection leaves an array where there was one, unless it finds one item. -/
theorem hasArray_of_collectionStep {step : CollectionStep} (silent : ¬ step.Finds) (array : acc.HasArray)
    (finished : (collectionStep resolve entity step acc).ending = .finished next) : next.HasArray := by
  obtain ⟨items, array⟩ := array
  cases runs : step.reducer.isEmpty with
  | true =>
      rw [collectionStep_of_isEmpty runs] at finished
      cases finished
      exact ⟨items, array⟩
  | false =>
      rw [collectionStep_eq runs array] at finished
      obtain ⟨results, -, rfl⟩ := Run.map_finished_iff.mp finished
      cases step with
      | map reducer => exact ⟨_, rfl⟩
      | filter reducer => exact ⟨_, rfl⟩
      | find reducer => exact absurd ⟨reducer, rfl, runs⟩ silent

theorem hasObject_of_hashSteps {steps : List HashStep} (object : acc.HasObject)
    (finished : (hashSteps resolve entity steps acc).ending = .finished next) : next.HasObject := by
  rw [hashSteps_eq_inOrder] at finished
  refine Run.holds_of_inOrder ?_ object finished
  intro step _ given after object finished
  exact hasObject_of_hashStep object (Run.annotate_finished_iff.mp finished)

theorem hasArray_of_collectionSteps {steps : List CollectionStep} (silent : ∀ step ∈ steps, ¬ step.Finds)
    (array : acc.HasArray) (finished : (collectionSteps resolve entity steps acc).ending = .finished next) :
    next.HasArray := by
  rw [collectionSteps_eq_inOrder] at finished
  refine Run.holds_of_inOrder ?_ array finished
  intro step member given after array finished
  exact hasArray_of_collectionStep (silent step member) array (Run.annotate_finished_iff.mp finished)

/-! ### The value and its check -/

theorem requireObject_of_other (other : ¬ acc.HasObject) :
    requireObject entity acc = Run.fail (entity.wrongType acc.value HashStep.expectation) := by
  rw [requireObject]
  cases value : acc.value with
  | object entries => exact absurd (Accumulator.hasObject_iff.mpr ⟨entries, value⟩) other
  | _ => rfl

theorem requireArray_of_other (other : ¬ acc.HasArray) :
    requireArray entity acc = Run.fail (entity.wrongType acc.value CollectionStep.expectation) := by
  rw [requireArray]
  cases value : acc.value with
  | array items => exact absurd ⟨items, value⟩ other
  | _ => rfl

/-- With its value, an entity goes on to the check of it and to the compose steps. -/
theorem ending_of_body {store : Store} {valued : Accumulator}
    (finished : (resolve entity.value acc).ending = .finished valued) :
    (body store resolve entity acc).ending =
      (Run.inOrder (entity.checks store ++ entity.composition resolve) valued).ending := by
  have slotted : (slot resolve entity "value" entity.value acc).ending = .finished valued :=
    Run.annotate_finished_iff.mpr finished
  rw [body_eq_inOrder, Run.inOrder, Run.bind_of_finished slotted]

theorem ending_of_hash {store : Store} {compose : List HashStep} {valued : Accumulator}
    (kind : entity.body = .hash compose)
    (finished : (resolve entity.value acc).ending = .finished valued) (object : valued.HasObject) :
    (body store resolve entity acc).ending = (hashSteps resolve entity compose valued).ending := by
  have passes : requireObject entity valued = Run.pure valued := by
    obtain ⟨entries, object⟩ := Accumulator.hasObject_iff.mp object
    rw [requireObject, object]
  rw [ending_of_body finished, hashSteps_eq_inOrder, Entity.checks, Entity.composition, kind]
  show ((requireObject entity valued).bind _).ending = _
  rw [passes, Run.pure_bind]
  rfl

theorem ending_of_collection {store : Store} {compose : List CollectionStep} {valued : Accumulator}
    (kind : entity.body = .collection compose)
    (finished : (resolve entity.value acc).ending = .finished valued) (array : valued.HasArray) :
    (body store resolve entity acc).ending = (collectionSteps resolve entity compose valued).ending := by
  have passes : requireArray entity valued = Run.pure valued := by
    obtain ⟨items, array⟩ := array
    rw [requireArray, array]
  rw [ending_of_body finished, collectionSteps_eq_inOrder, Entity.checks, Entity.composition, kind]
  show ((requireArray entity valued).bind _).ending = _
  rw [passes, Run.pure_bind]
  rfl

/-- Where the check refuses the value, nothing runs after the value reducer. -/
theorem lifecycle_of_refused {store : Store} {begun valued : Accumulator} {failure : Failure}
    {check : Accumulator → Run Accumulator} (checks : entity.checks store = [check])
    (before : (hook resolve entity "before" entity.before acc).ending = .finished begun)
    (finished : (resolve entity.value begun).ending = .finished valued)
    (refuses : check valued = Run.fail failure) :
    lifecycle store resolve entity acc =
      ⟨(hook resolve entity "before" entity.before acc).events ++ (resolve entity.value begun).events,
        .failed failure⟩ := by
  have slotted : (slot resolve entity "value" entity.value begun).ending = .finished valued :=
    Run.annotate_finished_iff.mpr finished
  have stopped : body store resolve entity begun =
      ⟨(resolve entity.value begun).events, .failed failure⟩ := by
    rw [body_eq_inOrder, checks, Run.inOrder, Run.bind_of_finished slotted, List.singleton_append,
      Run.inOrder, refuses]
    simp only [Run.fail, Run.bind, List.append_nil]
    rfl
  show Run.bind _ _ = _
  rw [Run.bind_of_finished before, stopped]
  rfl

end Resolver

namespace Store

variable {store : Store} {depth : Nat} {entity : Entity} {acc valued given : Accumulator} {failure : Failure}

/-! ### Where a step fails -/

/-- Branches fail together only where one of them does. -/
theorem FansOut.branch_of_failed {fan : FanOut} {run : Run Accumulator}
    (fans : store.FansOut depth acc fan run) (failed : run.ending = .failed failure) :
    ∃ branch ∈ fan.branches, (store.alone depth branch).ending = .failed failure := by
  obtain ⟨-, earlier, failing, later, split, -, fails⟩ := fans.failed_iff.mp failed
  have member : failing ∈ fan.branches.map (store.alone depth) := split ▸ List.mem_append_cons_self
  obtain ⟨branch, inFan, rfl⟩ := List.mem_map.mp member
  exact ⟨branch, inFan, fails⟩

/-- A step of a hash fails only where one of its reducers does. -/
theorem reducer_of_failed {step : HashStep}
    (failed : (Resolver.hashStep (store.resolve depth) step acc).ending = .failed failure) :
    ∃ reducer ∈ step.reducers, (store.resolve depth reducer acc).ending = .failed failure := by
  have overKeys {keys : Keyed Reducer} {combine : Keyed Value → Value}
      (fans : store.FansOut depth acc (.overKeys keys acc combine)
        (Resolver.hashStep (store.resolve depth) step acc)) :
      ∃ reducer ∈ keys.map Prod.snd, (store.resolve depth reducer acc).ending = .failed failure := by
    obtain ⟨branch, member, fails⟩ := fans.branch_of_failed failed
    obtain ⟨entry, present, rfl⟩ := List.mem_map.mp member
    exact ⟨entry.2, List.mem_map_of_mem present, fails⟩
  cases empty : step.isEmpty with
  | true =>
      rw [Resolver.hashStep_of_isEmpty empty] at failed
      cases failed
  | false =>
      cases step with
      | mapKeys keys => exact overKeys (.mapKeys (by simpa [HashStep.isEmpty] using empty))
      | addKeys keys => exact overKeys (.addKeys (by simpa [HashStep.isEmpty] using empty))
      | addValues values =>
          rw [Resolver.hashStep, empty] at failed
          cases failed
      | omitKeys keys =>
          rw [Resolver.hashStep, empty] at failed
          cases failed
      | pickKeys keys =>
          rw [Resolver.hashStep, empty] at failed
          cases failed

/-- Where steps on an array have left no array, the last one that finds an item has, and nothing has changed
    since. -/
theorem last_find {steps : List CollectionStep} (array : valued.HasArray)
    (finished : (Resolver.collectionSteps (store.resolve depth) entity steps valued).ending = .finished given)
    (noArray : ¬ given.HasArray) :
    ∃ earlier finder later, steps = earlier ++ finder :: later ∧ finder.Finds ∧
      (∀ step ∈ later, ¬ step.Finds) ∧
      (Resolver.collectionSteps (store.resolve depth) entity (earlier ++ [finder]) valued).ending =
        .finished given := by
  -- From the last step backwards: a step that does not find anything has been given what it has left.
  induction steps using List.reverseRecOn generalizing given with
  | nil =>
      cases finished
      exact absurd array noArray
  | append_singleton front step ih =>
      by_cases finds : step.Finds
      · exact ⟨front, step, [], rfl, finds, List.forall_mem_nil _, finished⟩
      · have split := finished
        rw [Resolver.collectionSteps_eq_inOrder, List.map_append, Run.inOrder_append, List.map_singleton,
          Run.inOrder_singleton, ← Resolver.collectionSteps_eq_inOrder] at split
        obtain ⟨middle, reached, one⟩ := Run.bind_finished_iff.mp split
        have one := Run.annotate_finished_iff.mp one
        have noArray' : ¬ middle.HasArray :=
          fun array => noArray (Resolver.hasArray_of_collectionStep finds array one)
        have same : middle = given := by
          cases runs : step.reducer.isEmpty with
          | true =>
              rw [Resolver.collectionStep_of_isEmpty runs] at one
              exact Ending.finished.inj one
          | false =>
              rw [wrongType_of_noArray runs (Accumulator.not_hasArray_iff.mp noArray')] at one
              cases one
        obtain ⟨earlier, finder, later, rfl, finds', silent, found⟩ := ih reached noArray'
        refine ⟨earlier, finder, later ++ [step], ?_, finds', ?_, same ▸ found⟩
        · rw [List.append_assoc, List.cons_append]
        · exact List.forall_mem_append.mpr ⟨silent, List.forall_mem_singleton.mpr finds⟩

/-- Why the step of a collection fails on `given`, which the steps `first` have made of `valued`. -/
inductive StepFails (store : Store) (depth : Nat) (entity : Entity) (valued : Accumulator)
    (first : List CollectionStep) (step : CollectionStep) (given : Accumulator) : Failure → Prop where
  /-- It goes over an array, and its reducer fails on an item. -/
  | item {items : List Value} {item : Value} {failure : Failure} (array : given.value = .array items)
      (member : item ∈ items)
      (fails : (store.resolve depth step.reducer (given.withValue item)).ending = .failed failure) :
      StepFails store depth entity valued first step given failure
  /-- It is not skipped, and the last step before it that finds an item has left something else. -/
  | refuses {earlier later : List CollectionStep} {finder : CollectionStep}
      (runs : step.reducer.isEmpty = false) (noArray : ¬ given.HasArray)
      (split : first = earlier ++ finder :: later) (finds : finder.Finds)
      (silent : ∀ other ∈ later, ¬ other.Finds)
      (found : (Resolver.collectionSteps (store.resolve depth) entity (earlier ++ [finder]) valued).ending =
        .finished given) :
      StepFails store depth entity valued first step given
        (entity.wrongType given.value CollectionStep.expectation)

theorem stepFails_of_failed {first : List CollectionStep} {step : CollectionStep} (array : valued.HasArray)
    (reached : (Resolver.collectionSteps (store.resolve depth) entity first valued).ending = .finished given)
    (failed : (Resolver.collectionStep (store.resolve depth) entity step given).ending = .failed failure) :
    store.StepFails depth entity valued first step given failure := by
  cases runs : step.reducer.isEmpty with
  | true =>
      rw [Resolver.collectionStep_of_isEmpty runs] at failed
      cases failed
  | false =>
      by_cases isArray : given.HasArray
      · obtain ⟨items, isArray⟩ := isArray
        obtain ⟨branch, member, fails⟩ := (FansOut.step runs isArray).branch_of_failed failed
        obtain ⟨item, inItems, rfl⟩ := List.mem_map.mp member
        exact .item isArray inItems fails
      · rw [wrongType_of_noArray runs (Accumulator.not_hasArray_iff.mp isArray)] at failed
        obtain rfl := Ending.failed.inj failed
        obtain ⟨earlier, finder, later, split, finds, silent, found⟩ := last_find array reached isArray
        exact .refuses runs isArray split finds silent found

/-! ### The shape of the value -/

/-- The entity has come to its value: on `acc` its hook `before` finishes with `begun`, and on that the value
    reducer with `valued`. -/
structure Valued (store : Store) (depth : Nat) (entity : Entity) (acc begun valued : Accumulator) : Prop where
  before : (Resolver.hook (store.resolve depth) entity "before" entity.before acc).ending = .finished begun
  value : (store.resolve depth entity.value begun).ending = .finished valued

/-- From `valued` on, the steps of a hash have an object in work. -/
structure ObjectStays (store : Store) (depth : Nat) (entity : Entity) (compose : List HashStep)
    (begun valued : Accumulator) : Prop where
  /-- There is an object before and after every step. -/
  between : ∀ first rest given, compose = first ++ rest →
    (Resolver.hashSteps (store.resolve depth) entity first valued).ending = .finished given → given.HasObject
  /-- There is an object when `after` starts. -/
  after : ∀ last, (Resolver.body store (store.resolve depth) entity begun).ending = .finished last →
    last.HasObject
  /-- A step fails only where a reducer of it fails. -/
  step : ∀ first step rest given cause, compose = first ++ step :: rest →
    (Resolver.hashSteps (store.resolve depth) entity first valued).ending = .finished given →
    (Resolver.hashStep (store.resolve depth) step given).ending = .failed cause →
    ∃ reducer ∈ step.reducers, (store.resolve depth reducer given).ending = .failed cause
  /-- A failure of the steps is that of one of them, with its mark. -/
  fails : ∀ failure, (Resolver.body store (store.resolve depth) entity begun).ending = .failed failure →
    ∃ first step rest given cause, compose = first ++ step :: rest ∧
      (Resolver.hashSteps (store.resolve depth) entity first valued).ending = .finished given ∧
      (Resolver.hashStep (store.resolve depth) step given).ending = .failed cause ∧
      cause.annotate (entity.place step.name) = failure

/-- From `valued` on, the steps of a collection have an array in work until one finds an item. -/
structure ArrayStays (store : Store) (depth : Nat) (entity : Entity) (compose : List CollectionStep)
    (begun valued : Accumulator) : Prop where
  /-- There is an array before and after every step, up to the first that finds an item. -/
  between : ∀ first rest given, compose = first ++ rest → (∀ step ∈ first, ¬ step.Finds) →
    (Resolver.collectionSteps (store.resolve depth) entity first valued).ending = .finished given →
    given.HasArray
  /-- There is an array when `after` starts, if no step finds an item. -/
  after : (∀ step ∈ compose, ¬ step.Finds) → ∀ last,
    (Resolver.body store (store.resolve depth) entity begun).ending = .finished last → last.HasArray
  /-- A step fails on an item, or because of what has been found last. -/
  step : ∀ first step rest given cause, compose = first ++ step :: rest →
    (Resolver.collectionSteps (store.resolve depth) entity first valued).ending = .finished given →
    (Resolver.collectionStep (store.resolve depth) entity step given).ending = .failed cause →
    store.StepFails depth entity valued first step given cause
  /-- A failure of the steps is that of one of them, with its mark. -/
  fails : ∀ failure, (Resolver.body store (store.resolve depth) entity begun).ending = .failed failure →
    ∃ first step rest given cause, compose = first ++ step :: rest ∧
      (Resolver.collectionSteps (store.resolve depth) entity first valued).ending = .finished given ∧
      (Resolver.collectionStep (store.resolve depth) entity step given).ending = .failed cause ∧
      cause.annotate (entity.place step.name) = failure

variable {begun : Accumulator}

theorem objectStays_of_valued {compose : List HashStep} (kind : entity.body = .hash compose)
    (comes : store.Valued depth entity acc begun valued) (object : valued.HasObject) :
    store.ObjectStays depth entity compose begun valued := by
  have composed : (Resolver.body store (store.resolve depth) entity begun).ending =
      (Resolver.hashSteps (store.resolve depth) entity compose valued).ending :=
    Resolver.ending_of_hash kind comes.value object
  constructor
  case between => exact fun first rest given _ finished => Resolver.hasObject_of_hashSteps object finished
  case after => exact fun last finished => Resolver.hasObject_of_hashSteps object (composed ▸ finished)
  case step => exact fun first step rest given cause _ _ failed => reducer_of_failed failed
  case fails =>
    intro failure failed
    rw [composed, Resolver.hashSteps_eq_inOrder] at failed
    simp only [Resolver.hashSteps_eq_inOrder]
    exact Run.failed_of_inOrder failed

theorem arrayStays_of_valued {compose : List CollectionStep} (kind : entity.body = .collection compose)
    (comes : store.Valued depth entity acc begun valued) (array : valued.HasArray) :
    store.ArrayStays depth entity compose begun valued := by
  have composed : (Resolver.body store (store.resolve depth) entity begun).ending =
      (Resolver.collectionSteps (store.resolve depth) entity compose valued).ending :=
    Resolver.ending_of_collection kind comes.value array
  constructor
  case between =>
    exact fun first rest given _ silent finished =>
      Resolver.hasArray_of_collectionSteps silent array finished
  case after =>
    exact fun silent last finished =>
      Resolver.hasArray_of_collectionSteps silent array (composed ▸ finished)
  case step =>
    exact fun first step rest given cause _ reached failed => stepFails_of_failed array reached failed
  case fails =>
    intro failure failed
    rw [composed, Resolver.collectionSteps_eq_inOrder] at failed
    simp only [Resolver.collectionSteps_eq_inOrder]
    exact Run.failed_of_inOrder failed

/-- The working value keeps its shape. In a hash whose value is an object, it is an object before and after
    every compose step and when `after` starts, and a step fails only where a reducer under one of its keys
    does. In a collection whose value is an array, it is an array up to the first step that finds an item, and
    when `after` starts if there is no such step; a step fails on an item, or it is not skipped and refuses
    what the last step that finds an item has left, which is no array. Where the value has another shape, the
    events end with those of the value reducer, and what the error hook guards fails with the entity's failure
    about the type, which no slot has marked. -/
theorem working_value_keeps_shape (store : Store) (depth : Nat) {entity : Entity}
    {acc begun valued : Accumulator} (comes : store.Valued depth entity acc begun valued) :
    let resolve := store.resolve depth
    let events := (Resolver.hook resolve entity "before" entity.before acc).events ++
      (resolve entity.value begun).events
    (∀ compose, entity.body = .hash compose →
      (valued.HasObject → store.ObjectStays depth entity compose begun valued) ∧
        (¬ valued.HasObject →
          let refusal := entity.wrongType valued.value HashStep.expectation
          Resolver.lifecycle store resolve entity acc = ⟨events, .failed refusal⟩ ∧
            refusal.Blames entity valued.value HashStep.expectation)) ∧
      ∀ compose, entity.body = .collection compose →
        (valued.HasArray → store.ArrayStays depth entity compose begun valued) ∧
          (¬ valued.HasArray →
            let refusal := entity.wrongType valued.value CollectionStep.expectation
            Resolver.lifecycle store resolve entity acc = ⟨events, .failed refusal⟩ ∧
              refusal.Blames entity valued.value CollectionStep.expectation) := by
  intro resolve events
  constructor
  · intro compose kind
    refine ⟨objectStays_of_valued kind comes, fun other => ?_⟩
    have checks : entity.checks store = [Resolver.requireObject entity] := by rw [Entity.checks, kind]
    exact ⟨Resolver.lifecycle_of_refused checks comes.before comes.value
      (Resolver.requireObject_of_other other), entity.blames_wrongType _ _⟩
  · intro compose kind
    refine ⟨arrayStays_of_valued kind comes, fun other => ?_⟩
    have checks : entity.checks store = [Resolver.requireArray entity] := by rw [Entity.checks, kind]
    exact ⟨Resolver.lifecycle_of_refused checks comes.before comes.value
      (Resolver.requireArray_of_other other), entity.blames_wrongType _ _⟩

end Store

/-! ### A sample -/

namespace Menu

/-- The path `on`. -/
def isOn : Reducer :=
  .path ⟨"on", .value, [.key "on"], false⟩

/-- Keeps one entry of an object. -/
def card : Entity :=
  ⟨"card", .identity, none, none, none, false, .hash [.mapKeys [("on", isOn)], .pickKeys ["on"]]⟩

/-- Goes on after an item has been found. -/
def choice : Entity :=
  ⟨"choice", .identity, none, none, none, false, .collection [.filter isOn, .find isOn, .map isOn]⟩

def dish : Value :=
  .object [("on", .bool true)]

end Menu

open Menu in
/-- In the sample the steps of `hash:card` leave an object. The last step of `collection:choice` refuses what
    the step before it has found, with its mark, and without an array there is none. -/
theorem Store.working_value_keeps_shape_sample :
    let given := Accumulator.ofValue dish
    let several := Accumulator.ofValue (.array [.null, dish])
    let refusal := choice.wrongType dish CollectionStep.expectation
    empty.Valued 1 card given given given ∧ empty.Valued 1 choice several several several ∧
      given.HasObject ∧
      (∃ last, (Resolver.body empty (empty.resolve 1) card given).ending = .finished last ∧ last.HasObject) ∧
      several.HasArray ∧
      (Resolver.body empty (empty.resolve 1) choice several).ending =
        .failed (refusal.annotate "collection:choice.map") ∧
      empty.StepFails 1 choice several [.filter isOn, .find isOn] (.map isOn) given refusal ∧
      Resolver.lifecycle empty (empty.resolve 1) choice given = ⟨[], .failed refusal⟩ ∧
      refusal.kind = .wrongType := by
  intro given several refusal
  have one : empty.Valued 1 card given given given := ⟨rfl, rfl⟩
  have many : empty.Valued 1 choice several several several := ⟨rfl, rfl⟩
  have none : empty.Valued 1 choice given given given := ⟨rfl, rfl⟩
  have object : given.HasObject := rfl
  have array : several.HasArray := ⟨_, rfl⟩
  obtain ⟨hash, -⟩ := working_value_keeps_shape empty 1 one
  obtain ⟨keepsObject, -⟩ := hash _ rfl
  obtain ⟨-, collection⟩ := working_value_keeps_shape empty 1 many
  obtain ⟨keepsArray, -⟩ := collection _ rfl
  obtain ⟨-, other⟩ := working_value_keeps_shape empty 1 none
  obtain ⟨-, refuses⟩ := other _ rfl
  obtain ⟨refused, blames⟩ := refuses (Accumulator.not_hasArray_iff.mpr rfl)
  exact ⟨one, many, object, ⟨_, rfl, (keepsObject object).after _ rfl⟩, array, rfl,
    (keepsArray array).step [.filter isOn, .find isOn] (.map isOn) [] given refusal rfl rfl rfl,
    refused, blames.kind⟩

end Reshape
