/-
Module: Reshape.Proofs.FanOut
Layer: Proofs
Purpose: What is resolved side by side: the keys of a step on an object, the items of a step on an array
  and the items that a reference with the mark goes over. Each branch comes to what it comes to on its own,
  and the accumulator gets a new value out of it and nothing else.
Main exports: Branch, FanOut, Store.entering, Store.alone, Store.FansOut, Store.outcome,
  Store.overItems_finished_iff, Store.overKeys_finished_iff, Store.alike_entity,
  Store.alone_entity_of_ignores, Store.FansOut.alike, Store.FansOut.log_eq, Store.FansOut.finished_iff,
  Store.FansOut.failed_iff, Store.FansOut.unfinished_iff, Store.ending_of_one_item,
  Store.fan_out_is_isolated
-/
import Reshape.Proofs.Context
import Reshape.Proofs.Independence
import Reshape.Proofs.Order
import Reshape.Proofs.Success

namespace Reshape

/-! ### Branches -/

/-- The reference without the mark. -/
def Reference.unmarked (reference : Reference) : Reference :=
  { reference with isCollection := false }

/-- What is to be resolved, and the accumulator that it starts with: a reducer, or the entity that a
    reference leads to. The entity is entered by that reference, mark and all, which functions inside may
    look at. -/
inductive Branch where
  | reducer (reducer : Reducer) (start : Accumulator)
  | entity (reference : Reference) (entity : Entity) (start : Accumulator)

/-- What is resolved side by side, in order, and the value that is made of the values of all branches. -/
structure FanOut where
  branches : List Branch
  combine : List Value → Value

/-- The reducers under the keys, all on the same accumulator. -/
def FanOut.overKeys (keys : Keyed Reducer) (acc : Accumulator) (combine : Keyed Value → Value) :
    FanOut where
  branches := keys.map fun entry => .reducer entry.2 acc
  combine values := combine ((Keyed.keys keys).zip values)

/-- The same branch from every item in place of the value. -/
def FanOut.overItems (branch : Accumulator → Branch) (acc : Accumulator) (items : List Value)
    (combine : List Value → Value) : FanOut where
  branches := items.map fun item => branch (acc.withValue item)
  combine := combine

namespace Store

variable {store : Store} {depth : Nat} {acc : Accumulator} {fan : FanOut} {run : Run Accumulator}

/-- The entity entered by the reference, with reducers nested at most `depth` deep from the reference on. -/
def entering (store : Store) (depth : Nat) (reference : Reference) (entity : Entity)
    (acc : Accumulator) : Run Accumulator :=
  match depth with
  | 0 => Run.stop
  | depth + 1 => Resolver.enter store (store.resolve depth) reference entity acc

/-- The branch resolved on its own. -/
def alone (store : Store) (depth : Nat) : Branch → Run Accumulator
  | .reducer reducer start => store.resolve depth reducer start
  | .entity reference entity start => store.entering depth reference entity start

/-- `store.FansOut depth acc fan run`: `run`, which starts with `acc`, resolves the branches of `fan` side
    by side. A compose step fans out over its keys, or over the items of an array, unless it is empty. A
    reference with the mark fans out over the items of an array: in each branch its entity is entered by
    it. -/
inductive FansOut (store : Store) : Nat → Accumulator → FanOut → Run Accumulator → Prop where
  | mapKeys {depth : Nat} {acc : Accumulator} {keys : Keyed Reducer} (some : keys ≠ []) :
      FansOut store depth acc (.overKeys keys acc .object)
        (Resolver.hashStep (store.resolve depth) (.mapKeys keys) acc)
  | addKeys {depth : Nat} {acc : Accumulator} {keys : Keyed Reducer} (some : keys ≠ []) :
      FansOut store depth acc
        (.overKeys keys acc fun added => .object (Keyed.merge (Resolver.objectOf acc) added))
        (Resolver.hashStep (store.resolve depth) (.addKeys keys) acc)
  | step {depth : Nat} {acc : Accumulator} {entity : Entity} {step : CollectionStep}
      {items : List Value} (runs : step.reducer.isEmpty = false) (array : acc.value = .array items) :
      FansOut store depth acc (.overItems (.reducer step.reducer) acc items (step.combine items))
        (Resolver.collectionStep (store.resolve depth) entity step acc)
  | reference {depth : Nat} {acc : Accumulator} {reference : Reference} {entity : Entity}
      {items : List Value} (mark : reference.isCollection = true)
      (found : store.get? reference.id = some entity) (array : acc.value = .array items) :
      FansOut store (depth + 1) acc (.overItems (.entity reference entity) acc items .array)
        (store.resolve (depth + 1) (.entity reference) acc)

end Store

/-! ### What branches make up -/

namespace Resolver

variable {store : Store} {resolve : Resolver} {acc : Accumulator}

/-- Keys in terms of the runs under them. -/
theorem overKeys_eq (keys : Keyed Reducer) :
    overKeys resolve keys acc =
      (Run.fanOut (keys.map fun entry => resolve entry.2 acc)).map fun lasts =>
        (Keyed.keys keys).zip (lasts.map Accumulator.value) := by
  have values : (keys.map fun entry => (resolve entry.2 acc).map Accumulator.value) =
      (keys.map fun entry => resolve entry.2 acc).map (Run.map Accumulator.value) := by
    rw [List.map_map]
    rfl
  rw [overKeys, values, Run.fanOut_map, Run.map_map]

/-- Items in terms of the runs on them. -/
theorem overItems_eq (branch : Accumulator → Run Accumulator) (items : List Value) :
    overItems branch acc items =
      (Run.fanOut (items.map fun item => branch (acc.withValue item))).map
        (List.map Accumulator.value) := by
  have values : (items.map fun item => (branch (acc.withValue item)).map Accumulator.value) =
      (items.map fun item => branch (acc.withValue item)).map (Run.map Accumulator.value) := by
    rw [List.map_map]
    rfl
  rw [overItems, values, Run.fanOut_map]

/-- A step with nothing to work with is skipped. -/
theorem hashStep_of_isEmpty {step : HashStep} (empty : step.isEmpty = true) :
    hashStep resolve step acc = Run.pure acc := by
  unfold hashStep
  exact if_pos empty

theorem collectionStep_of_isEmpty {entity : Entity} {step : CollectionStep}
    (empty : step.reducer.isEmpty = true) : collectionStep resolve entity step acc = Run.pure acc :=
  if_pos empty

/-- A step over keys. -/
theorem hashStep_mapKeys {keys : Keyed Reducer} (some : keys ≠ []) :
    hashStep resolve (.mapKeys keys) acc =
      (overKeys resolve keys acc).map fun computed => acc.withValue (.object computed) := by
  have runs : (HashStep.mapKeys keys).isEmpty = false := by simpa [HashStep.isEmpty] using some
  rw [hashStep, runs]
  exact Run.bind_pure_eq_map _ _

theorem hashStep_addKeys {keys : Keyed Reducer} (some : keys ≠ []) :
    hashStep resolve (.addKeys keys) acc =
      (overKeys resolve keys acc).map fun computed =>
        acc.withValue (.object (Keyed.merge (objectOf acc) computed)) := by
  have runs : (HashStep.addKeys keys).isEmpty = false := by simpa [HashStep.isEmpty] using some
  rw [hashStep, runs]
  exact Run.bind_pure_eq_map _ _

/-- A step over the items of an array. -/
theorem collectionStep_eq {entity : Entity} {step : CollectionStep} {items : List Value}
    (runs : step.reducer.isEmpty = false) (array : acc.value = .array items) :
    collectionStep resolve entity step acc =
      (overItems (resolve step.reducer) acc items).map fun results =>
        acc.withValue (step.combine items results) := by
  rw [collectionStep, runs, array]
  exact Run.bind_pure_eq_map _ _

/-- After the look-up, a reference to one entity enters it. -/
theorem reference_eq_of_plain {reference : Reference} {entity : Entity}
    (found : store.get? reference.id = some entity) (plain : reference.isCollection = false) :
    Resolver.reference store resolve reference acc =
      (Run.event (.sought reference.id)).bind fun _ =>
        enter store resolve reference entity acc := by
  simp [Resolver.reference, Store.seek, found, plain, Run.ofExcept]

/-- After the look-up, a reference with the mark goes over the items of an array. -/
theorem reference_eq_of_mark {reference : Reference} {entity : Entity} {items : List Value}
    (found : store.get? reference.id = some entity) (mark : reference.isCollection = true)
    (array : acc.value = .array items) :
    Resolver.reference store resolve reference acc =
      (Run.event (.sought reference.id)).bind fun _ =>
        (overItems (enter store resolve reference entity) acc items).map fun values =>
          acc.withValue (.array values) := by
  simp [Resolver.reference, Store.seek, found, mark, array, Run.ofExcept, Run.bind_pure_eq_map]

end Resolver

namespace Store

variable {store : Store} {depth : Nat} {acc : Accumulator} {fan : FanOut} {run : Run Accumulator}

/-- The run of a fan-out, in terms of its branches resolved on their own. -/
def together (store : Store) (depth : Nat) (acc : Accumulator) (fan : FanOut) : Run Accumulator :=
  (Run.fanOut (fan.branches.map (store.alone depth))).map fun lasts =>
    acc.withValue (fan.combine (lasts.map Accumulator.value))

theorem together_overKeys (keys : Keyed Reducer) (combine : Keyed Value → Value) :
    store.together depth acc (.overKeys keys acc combine) =
      (Resolver.overKeys (store.resolve depth) keys acc).map fun computed =>
        acc.withValue (combine computed) := by
  rw [Resolver.overKeys_eq, Run.map_map, together, FanOut.overKeys, List.map_map]
  rfl

theorem together_overItems (branch : Accumulator → Branch) (items : List Value)
    (combine : List Value → Value) :
    store.together depth acc (.overItems branch acc items combine) =
      (Resolver.overItems (fun start => store.alone depth (branch start)) acc items).map fun results =>
        acc.withValue (combine results) := by
  rw [Resolver.overItems_eq, Run.map_map, together, FanOut.overItems, List.map_map]
  rfl

/-- The value that the reducer comes to; the missing value where it does not finish. -/
def outcome (store : Store) (depth : Nat) (acc : Accumulator) (reducer : Reducer) : Value :=
  match (store.resolve depth reducer acc).ending with
  | .finished last => last.value
  | _ => .undefined

/-- The reducer finishes, with the value that it comes to. -/
def Finishes (store : Store) (depth : Nat) (acc : Accumulator) (reducer : Reducer) : Prop :=
  ∃ last, (store.resolve depth reducer acc).ending = .finished last ∧
    last.value = store.outcome depth acc reducer

theorem value_finished_iff {reducer : Reducer} {value : Value} :
    ((store.resolve depth reducer acc).map Accumulator.value).ending = .finished value ↔
      store.Finishes depth acc reducer ∧ store.outcome depth acc reducer = value := by
  rw [Run.map_finished_iff, Finishes, outcome]
  cases (store.resolve depth reducer acc).ending <;> simp

/-- What is done side by side finishes if each reducer does, with the values that they come to, in order. -/
theorem values_finished_iff {ι : Type} {inputs : List ι} (start : ι → Accumulator) (reducer : ι → Reducer)
    {values : List Value} :
    (Run.fanOut (inputs.map fun input =>
        (store.resolve depth (reducer input) (start input)).map Accumulator.value)).ending =
        .finished values ↔
      (∀ input ∈ inputs, store.Finishes depth (start input) (reducer input)) ∧
        (inputs.map fun input => store.outcome depth (start input) (reducer input)) = values := by
  rw [Run.fanOut_finished_iff, List.forall₂_map_left_iff]
  simp only [value_finished_iff]
  rw [List.forall₂_and_left, ← List.forall₂_eq_eq_eq, List.forall₂_map_left_iff]

theorem overItems_finished_iff {reducer : Reducer} {items results : List Value} :
    (Resolver.overItems (store.resolve depth reducer) acc items).ending = .finished results ↔
      (∀ item ∈ items, store.Finishes depth (acc.withValue item) reducer) ∧
        (items.map fun item => store.outcome depth (acc.withValue item) reducer) = results :=
  values_finished_iff acc.withValue fun _ => reducer

theorem overKeys_finished_iff {keys : Keyed Reducer} {computed : Keyed Value} :
    (Resolver.overKeys (store.resolve depth) keys acc).ending = .finished computed ↔
      (∀ reducer ∈ keys.map Prod.snd, store.Finishes depth acc reducer) ∧
        Keyed.mapValues (store.outcome depth acc) keys = computed := by
  have zipped : (Keyed.keys keys).zip (keys.map fun entry => store.outcome depth acc entry.2) =
      Keyed.mapValues (store.outcome depth acc) keys := List.zip_map'
  rw [Resolver.overKeys, Run.map_finished_iff, List.forall_mem_map]
  simp only [values_finished_iff (fun _ => acc) Prod.snd, and_assoc, exists_and_left, exists_eq_left',
    zipped]

theorem resolve_entity (reference : Reference) :
    store.resolve (depth + 1) (.entity reference) acc =
      Resolver.reference store (store.resolve depth) reference acc := rfl

/-- A reference to one entity comes to what the entity comes to. -/
theorem alike_entity {reference : Reference} {entity : Entity}
    (found : store.get? reference.id = some entity) (plain : reference.isCollection = false) :
    (store.resolve (depth + 1) (.entity reference) acc).Alike
      (Resolver.enter store (store.resolve depth) reference entity acc) := by
  rw [resolve_entity, Resolver.reference_eq_of_plain found plain]
  exact Run.alike_event_bind rfl _

/-- On its own, a reference to one entity comes to what the entity comes to. -/
theorem alone_reference {reference : Reference} {entity : Entity}
    (found : store.get? reference.id = some entity) (plain : reference.isCollection = false) :
    (store.alone depth (.reducer (.entity reference) acc)).Alike
      (store.alone depth (.entity reference entity acc)) := by
  cases depth with
  | zero => exact .refl _
  | succ depth => exact alike_entity found plain

/-- Where nothing behind an entity reads the owner, a branch in which it is entered ends like the reference
    to one entity. -/
theorem alone_entity_of_ignores {reference : Reference} {entity : Entity}
    (found : store.get? reference.id = some entity)
    (ignores : ∀ function, store.Reaches (.entity reference) (.function function) →
      function.Ignores .owner) :
    (store.alone depth (.entity reference entity acc)).ending =
      (store.alone depth (.reducer (.entity reference.unmarked) acc)).ending := by
  have unmarked : store.get? reference.unmarked.id = some entity := found
  have overlooks : ∀ inner ∈ entity.reducers, store.Overlooks inner .owner :=
    fun inner member => (overlooks_owner ignores).slot found member
  rw [(alone_reference unmarked rfl).ending]
  cases depth with
  | zero => rfl
  | succ depth =>
      have agree := agreeBut_enter overlooks depth reference reference.unmarked acc
      exact agree.eq_of_reference (fun _ => Resolver.reference_of_enter)
        (fun _ => Resolver.reference_of_enter)

/-- A fan-out is what its branches make up when each of them is resolved on its own. -/
theorem FansOut.alike (fans : store.FansOut depth acc fan run) :
    run.Alike (store.together depth acc fan) := by
  cases fans with
  | mapKeys some =>
      rw [Resolver.hashStep_mapKeys some, together_overKeys]
      exact .refl _
  | addKeys some =>
      rw [Resolver.hashStep_addKeys some, together_overKeys]
      exact .refl _
  | step runs array =>
      rw [Resolver.collectionStep_eq runs array, together_overItems]
      exact .refl _
  | reference mark found array =>
      rw [resolve_entity, Resolver.reference_eq_of_mark found mark array, together_overItems]
      exact Run.alike_event_bind rfl _

/-- The log of a fan-out holds the logs of all branches, in order. -/
theorem FansOut.log_eq (fans : store.FansOut depth acc fan run) :
    run.log = fan.branches.flatMap fun branch => (store.alone depth branch).log := by
  rw [fans.alike.log, together, Run.log_map, Run.log_fanOut, List.flatMap_map]

theorem FansOut.finished_iff (fans : store.FansOut depth acc fan run) {next : Accumulator} :
    run.ending = .finished next ↔
      ∃ lasts, List.Forall₂ (fun branch last => (store.alone depth branch).ending = .finished last)
          fan.branches lasts ∧
        acc.withValue (fan.combine (lasts.map Accumulator.value)) = next := by
  rw [fans.alike.ending, together, Run.map_finished_iff]
  simp only [Run.fanOut_finished_iff, List.forall₂_map_left_iff]

theorem FansOut.failed_iff (fans : store.FansOut depth acc fan run) {failure : Failure} :
    run.ending = .failed failure ↔
      (∀ branch ∈ fan.branches, (store.alone depth branch).ending ≠ .unfinished) ∧
        Run.FirstFailure (fan.branches.map (store.alone depth)) failure := by
  rw [fans.alike.ending, together, Run.map_failed_iff, Run.fanOut_failed_iff, List.forall_mem_map]

theorem FansOut.unfinished_iff (fans : store.FansOut depth acc fan run) :
    run.ending = .unfinished ↔
      ∃ branch ∈ fan.branches, (store.alone depth branch).ending = .unfinished := by
  rw [fans.alike.ending, together, Run.map_unfinished_iff, Run.fanOut_unfinished_iff]
  simp

theorem FansOut.fails_iff (fans : store.FansOut depth acc fan run) (ends : run.ending ≠ .unfinished) :
    (∃ failure, run.ending = .failed failure) ↔
      ∃ branch ∈ fan.branches, ∃ failure, (store.alone depth branch).ending = .failed failure := by
  rw [fans.alike.ending, together] at ends
  rw [fans.alike.ending, together]
  simp only [Run.map_failed_iff, Run.fanOut_fails_iff (mt Run.map_unfinished_iff.mpr ends),
    List.mem_map, exists_exists_and_eq_and]

theorem withValue_of_marked {reference : Reference} {next : Accumulator}
    (mark : reference.isCollection = true)
    (finished : (store.resolve depth (.entity reference) acc).ending = .finished next) :
    ∃ value, next = acc.withValue value := by
  cases depth with
  | zero => cases finished
  | succ depth =>
      obtain ⟨entity, -, ⟨-, written⟩ | ⟨plain, -⟩⟩ := Resolver.finished_of_reference finished
      · exact written
      · rw [mark] at plain
        cases plain

/-- A branch in which a marked reference has entered its entity is what the reference comes to on an array with
    just the one item. -/
theorem ending_of_one_item {reference : Reference} {entity : Entity}
    (mark : reference.isCollection = true) (found : store.get? reference.id = some entity) (item : Value) :
    (store.resolve depth (.entity reference) (acc.withValue (.array [item]))).ending =
      (store.alone depth (.entity reference entity (acc.withValue item))).ending.map fun last =>
        acc.withValue (.array [last.value]) := by
  cases depth with
  | zero => rfl
  | succ depth =>
      have fans : store.FansOut (depth + 1) (acc.withValue (.array [item])) _ _ := .reference mark found rfl
      rw [fans.alike.ending, together, Run.ending_map]
      let branch := store.alone (depth + 1) (.entity reference entity (acc.withValue item))
      show (branch.ending.both (.finished [])).map (fun lasts =>
        acc.withValue (.array (lasts.map Accumulator.value))) = branch.ending.map _
      cases branch.ending <;> rfl

/-- A fan-out that succeeds changes nothing but the value of the accumulator, also where it is skipped or
    has no array to go over, and whatever functions do to the accumulators inside. It succeeds exactly if
    each branch does when it is resolved on its own, on the accumulator from before the step, and its value is
    made of the values that these come to. It fails exactly if all of these end and one fails, like the first
    that does. So no branch depends on what others do to value and context. The branches of a compose step
    are its reducers. In those of a marked reference its entity is entered by that reference, whose mark
    functions may look at: each is what the reference comes to on an array with just the one item, and where no
    function reads the owner, what the reference without the mark comes to on that item. -/
theorem fan_out_is_isolated (store : Store) (depth : Nat) (acc : Accumulator) :
    (∀ next,
      (∃ step, (Resolver.hashStep (store.resolve depth) step acc).ending = .finished next) ∨
        (∃ entity step,
          (Resolver.collectionStep (store.resolve depth) entity step acc).ending = .finished next) ∨
        (∃ reference : Reference, reference.isCollection = true ∧
          (store.resolve depth (.entity reference) acc).ending = .finished next) →
      next = acc.withValue next.value) ∧
      (∀ fan run, store.FansOut depth acc fan run →
        (∀ next, run.ending = .finished next ↔
          ∃ lasts, List.Forall₂ (fun branch last => (store.alone depth branch).ending = .finished last)
              fan.branches lasts ∧
            acc.withValue (fan.combine (lasts.map Accumulator.value)) = next) ∧
        ∀ failure, run.ending = .failed failure ↔
          (∀ branch ∈ fan.branches, (store.alone depth branch).ending ≠ .unfinished) ∧
            Run.FirstFailure (fan.branches.map (store.alone depth)) failure) ∧
      ∀ (reference : Reference) entity item, reference.isCollection = true →
        store.get? reference.id = some entity →
        let branch := (store.alone depth (.entity reference entity (acc.withValue item))).ending
        (store.resolve depth (.entity reference) (acc.withValue (.array [item]))).ending =
            (branch.map fun last => acc.withValue (.array [last.value])) ∧
          ((∀ function, store.Reaches (.entity reference) (.function function) →
              function.Ignores .owner) →
            branch = (store.resolve depth (.entity reference.unmarked) (acc.withValue item)).ending) := by
  refine ⟨?_, ?_, ?_⟩
  · intro next succeeds
    have written : ∃ value, next = acc.withValue value := by
      rcases succeeds with ⟨step, finished⟩ | ⟨entity, step, finished⟩ | ⟨reference, mark, finished⟩
      · exact Resolver.withValue_of_hashStep finished
      · exact Resolver.withValue_of_collectionStep finished
      · exact withValue_of_marked mark finished
    obtain ⟨value, rfl⟩ := written
    rfl
  · exact fun fan run fans => ⟨fun next => fans.finished_iff, fun failure => fans.failed_iff⟩
  · intro reference entity item mark found branch
    exact ⟨ending_of_one_item mark found item, alone_entity_of_ignores found⟩

end Store

/-! ### A sample -/

namespace Probe

/-- Puts the value among the locals. -/
def noting : Reducer :=
  .function (.context fun acc => ⟨[], .ok (acc.withLocal "noted" acc.value)⟩)

/-- Tells what a branch sees: the locals, and whether the entity has been entered by a marked reference. -/
def telling : Reducer :=
  .function (.sync fun acc => ⟨[], .ok (.object
    [("locals", .object acc.locals), ("marked", .bool (acc.reference.any Reference.isCollection))])⟩)

def reducer : Reducer :=
  .list [noting, telling]

def entity : Entity :=
  ⟨"probe", reducer, none, none, none, false, .entry⟩

/-- A reference with the mark. -/
def reference : Reference :=
  ⟨"entry", "probe", true⟩

/-- The entity, and `entry:renewal`, which drops the accumulator that it is given. -/
def store : Store :=
  ⟨("entry:probe", entity) :: Renewal.store.entities, [], none⟩

def keys : Keyed Reducer :=
  [("fresh", .entity Renewal.reference), ("here", Renewal.locals)]

/-- What one branch comes to. -/
def told (item : Value) (marked : Bool) : Value :=
  .object [("locals", .object [("kept", .bool true), ("noted", item)]), ("marked", .bool marked)]

/-- Two items and a local. -/
def given : Accumulator :=
  Renewal.given.withValue (.array [.string "a", .null])

end Probe

open Probe in
/-- In the sample, `entry:renewal` drops the accumulator under one key, and the locals are still there
    under the next one and after the step. On the items of an array each branch notes its own item only, and
    only those of the marked reference see the mark. -/
theorem Store.fan_out_is_isolated_sample :
    let keyed := Resolver.hashStep (store.resolve 3) (.mapKeys keys) given
    let mapped := Resolver.collectionStep (store.resolve 3) entity (.map reducer) given
    let marked := store.resolve 3 (.entity reference) given
    let alone (branches : List Branch) (lasts : List Accumulator) :=
      List.Forall₂ (fun branch last => (store.alone 3 branch).ending = .finished last) branches lasts
    let onItems (branch : Accumulator → Branch) : List Branch :=
      [branch (given.withValue (.string "a")), branch (given.withValue .null)]
    let values (mark : Bool) := [told (.string "a") mark, told .null mark]
    (∃ next, keyed.ending = .finished next ∧ next = given.withValue next.value ∧
        next.value = .object [("fresh", .string "new"), ("here", .object [("kept", .bool true)])] ∧
        ∃ lasts, alone (keys.map fun entry => .reducer entry.2 given) lasts) ∧
      (mapped.ending = .finished (given.withValue (.array (values false))) ∧
        ∃ lasts, alone (onItems (.reducer reducer)) lasts ∧ lasts.map Accumulator.value = values false) ∧
      (marked.ending = .finished (given.withValue (.array (values true))) ∧
        ∃ lasts, alone (onItems (.entity reference entity)) lasts ∧
          lasts.map Accumulator.value = values true) ∧
      ((store.alone 3 (.entity reference entity (given.withValue .null))).ending.map fun last =>
          given.withValue (.array [last.value])) =
        .finished (given.withValue (.array [told .null true])) := by
  intro keyed mapped marked alone onItems values
  obtain ⟨frame, branches, items⟩ := fan_out_is_isolated store 3 given
  refine ⟨?_, ?_, ?_, ?_⟩
  · have finished : keyed.ending = .finished (given.withValue
        (.object [("fresh", .string "new"), ("here", .object [("kept", .bool true)])])) := rfl
    have fans : store.FansOut 3 given (.overKeys keys given .object) keyed := .mapKeys nofun
    obtain ⟨lasts, each, -⟩ := ((branches _ _ fans).1 _).mp finished
    exact ⟨_, finished, frame _ (.inl ⟨_, finished⟩), rfl, lasts, each⟩
  · have finished : mapped.ending = .finished (given.withValue (.array (values false))) := rfl
    obtain ⟨lasts, each, same⟩ := ((branches _ _ (.step rfl rfl)).1 _).mp finished
    exact ⟨finished, lasts, each, Value.array.inj (congrArg Accumulator.value same)⟩
  · have finished : marked.ending = .finished (given.withValue (.array (values true))) := rfl
    obtain ⟨lasts, each, same⟩ := ((branches _ _ (.reference rfl rfl rfl)).1 _).mp finished
    exact ⟨finished, lasts, each, Value.array.inj (congrArg Accumulator.value same)⟩
  · have finished : (store.resolve 3 (.entity reference) (given.withValue (.array [.null]))).ending =
        .finished (given.withValue (.array [told .null true])) := rfl
    exact (items _ _ .null rfl rfl).1.symm.trans finished

end Reshape
