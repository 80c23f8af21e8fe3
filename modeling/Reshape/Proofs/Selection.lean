/-
Module: Reshape.Proofs.Selection
Layer: Proofs
Purpose: The steps of a collection compared on one array. They ask the reducer about the same items, so they
  fail alike; and what it answers decides which items `filter` keeps and which one `find` takes.
Main exports: CollectionStep.select, CollectionStep.combine_map_answer, Store.ending_of_step,
  Store.step_finished_iff, Store.filter_twice, Store.steps_agree
-/
import Reshape.Proofs.FanOut
import Reshape.Proofs.Stages

namespace Reshape

/-- What goes on without changing the result might as well not go on. -/
theorem Run.ending_of_settles {α : Type} {run : Run α} {next : α → Run α}
    (settles : ∀ a, run.ending = .finished a → (next a).ending = .finished a) :
    (run.bind next).ending = run.ending := by
  unfold Run.bind
  cases ending : run.ending with
  | finished a => exact settles a ending
  | failed failure => rfl
  | unfinished => rfl

/-! ### What steps select -/

namespace CollectionStep

/-- What a step makes of the items of an array, given the answer to each of them. -/
def select (step : CollectionStep) (answer : Value → Value) (items : List Value) : Value :=
  match step with
  | .map _ => .array (items.map answer)
  | .filter _ => .array (items.filter fun item => (answer item).isTruthy)
  | .find _ => .ofOption (items.filter fun item => (answer item).isTruthy).head?

variable {answer : Value → Value} {items : List Value}

theorem filterMap_zip_answer :
    ((items.zip (items.map answer)).filterMap fun (item, result) =>
        if result.isTruthy then some item else none) =
      items.filter fun item => (answer item).isTruthy := by
  induction items with
  | nil => rfl
  | cons item rest ih =>
      rw [List.map_cons, List.zip_cons_cons, List.filterMap_cons, List.filter_cons, ih]
      by_cases yes : (answer item).isTruthy <;> simp [yes]

theorem findSome?_zip_answer :
    ((items.zip (items.map answer)).findSome? fun (item, result) =>
        if result.isTruthy then some item else none) =
      (items.filter fun item => (answer item).isTruthy).head? := by
  rw [← List.head?_filterMap, filterMap_zip_answer]

theorem filter_filter_answer :
    ((items.filter fun item => (answer item).isTruthy).filter fun item => (answer item).isTruthy) =
      items.filter fun item => (answer item).isTruthy := by
  rw [List.filter_filter]
  simp only [Bool.and_self]

/-- Items stay beside their own answers. -/
theorem combine_map_answer (step : CollectionStep) :
    step.combine items (items.map answer) = step.select answer items := by
  cases step with
  | map reducer => rfl
  | filter reducer => exact congrArg Value.array filterMap_zip_answer
  | find reducer => exact congrArg Value.ofOption findSome?_zip_answer

end CollectionStep

/-! ### Steps on an array -/

namespace Store

variable {store : Store} {depth : Nat} {reducer : Reducer} {acc : Accumulator} {items : List Value}

section Step

variable {entity : Entity} {step : CollectionStep} {next : Accumulator}

/-- On an array a step that is not skipped ends as going over the items does, with what it selects. -/
theorem ending_of_step (runs : step.reducer.isEmpty = false) (array : acc.value = .array items) :
    (Resolver.collectionStep (store.resolve depth) entity step acc).ending =
      (Resolver.overItems (store.resolve depth step.reducer) acc items).ending.map fun _ =>
        acc.withValue
          (step.select (fun item => store.outcome depth (acc.withValue item) step.reducer) items) := by
  rw [Resolver.collectionStep_eq runs array, Run.ending_map]
  cases ending : (Resolver.overItems (store.resolve depth step.reducer) acc items).ending with
  | finished results =>
      obtain ⟨-, rfl⟩ := overItems_finished_iff.mp ending
      rw [Ending.map, Ending.map, CollectionStep.combine_map_answer]
  | failed failure => rfl
  | unfinished => rfl

theorem step_finished_iff (runs : step.reducer.isEmpty = false) (array : acc.value = .array items) :
    (Resolver.collectionStep (store.resolve depth) entity step acc).ending = .finished next ↔
      (∀ item ∈ items, store.Finishes depth (acc.withValue item) step.reducer) ∧
        acc.withValue
          (step.select (fun item => store.outcome depth (acc.withValue item) step.reducer) items) =
            next := by
  rw [Resolver.collectionStep_eq runs array, Run.map_finished_iff]
  simp only [overItems_finished_iff, and_assoc, exists_and_left, exists_eq_left',
    CollectionStep.combine_map_answer]

/-- Where `filter` has gone over an array, it finds nothing more to drop. -/
theorem filter_settles (array : acc.value = .array items)
    (finished : (Resolver.collectionStep (store.resolve depth) entity (.filter reducer) acc).ending =
      .finished next) :
    (Resolver.collectionStep (store.resolve depth) entity (.filter reducer) next).ending =
      .finished next := by
  cases empty : (CollectionStep.filter reducer).reducer.isEmpty with
  | true =>
      rw [Resolver.collectionStep_of_isEmpty empty] at finished ⊢
      cases finished
      rfl
  | false =>
      obtain ⟨finishes, rfl⟩ := (step_finished_iff empty array).mp finished
      -- The context is the one from before, so that each kept item gets the answer that it got.
      refine (step_finished_iff empty rfl).mpr ⟨?_, ?_⟩
      · exact fun item kept => finishes item (List.mem_filter.mp kept).1
      · exact congrArg (fun kept => acc.withValue (.array kept)) CollectionStep.filter_filter_answer

theorem filter_twice (array : acc.value = .array items) :
    (Resolver.collectionSteps (store.resolve depth) entity [.filter reducer, .filter reducer] acc).ending =
      (Resolver.collectionSteps (store.resolve depth) entity [.filter reducer] acc).ending := by
  rw [Resolver.collectionSteps_eq_inOrder, Resolver.collectionSteps_eq_inOrder, List.map_cons,
    List.map_singleton, Run.inOrder, Run.inOrder_singleton]
  apply Run.ending_of_settles
  intro next finished
  exact Run.annotate_finished_iff.mpr (filter_settles array (Run.annotate_finished_iff.mp finished))

end Step

/-- The steps of a collection agree on every array, if they are not skipped. Either the reducer finishes on
    all items: then `map` leaves one answer for each item, in order, `filter` leaves just the items whose
    answers are a yes, in order and as often as they stand there, and `find` leaves the first of these, or the
    missing value if there is none. Or all three fail with the same failure, or none of them ends. After
    `filter`, another one by the same reducer ends like the first. -/
theorem steps_agree (store : Store) (depth : Nat) {reducer : Reducer} {acc : Accumulator}
    {items : List Value} (runs : reducer.isEmpty = false) (array : acc.value = .array items)
    (mapping filtering finding : Entity) :
    let ending (entity : Entity) (step : CollectionStep) :=
      (Resolver.collectionStep (store.resolve depth) entity step acc).ending
    let answer (item : Value) := store.outcome depth (acc.withValue item) reducer
    let kept := items.filter fun item => (answer item).isTruthy
    ((∀ item ∈ items, store.Finishes depth (acc.withValue item) reducer) ∧
          ending mapping (.map reducer) = .finished (acc.withValue (.array (items.map answer))) ∧
          ending filtering (.filter reducer) = .finished (acc.withValue (.array kept)) ∧
          ending finding (.find reducer) = .finished (acc.withValue (.ofOption kept.head?)) ∨
        (∃ failure, ending mapping (.map reducer) = .failed failure ∧
          ending filtering (.filter reducer) = .failed failure ∧
          ending finding (.find reducer) = .failed failure) ∨
        ending mapping (.map reducer) = .unfinished ∧
          ending filtering (.filter reducer) = .unfinished ∧
          ending finding (.find reducer) = .unfinished) ∧
      (Resolver.collectionSteps (store.resolve depth) filtering [.filter reducer, .filter reducer]
          acc).ending =
        (Resolver.collectionSteps (store.resolve depth) filtering [.filter reducer] acc).ending := by
  intro ending answer kept
  refine ⟨?_, filter_twice array⟩
  let asked := (Resolver.overItems (store.resolve depth reducer) acc items).ending
  have mapped : ending mapping (.map reducer) =
      asked.map fun _ => acc.withValue (.array (items.map answer)) := ending_of_step runs array
  have filtered : ending filtering (.filter reducer) =
      asked.map fun _ => acc.withValue (.array kept) := ending_of_step runs array
  have found : ending finding (.find reducer) =
      asked.map fun _ => acc.withValue (.ofOption kept.head?) := ending_of_step runs array
  rw [mapped, filtered, found]
  cases outcome : asked with
  | finished results =>
      obtain ⟨finishes, -⟩ := overItems_finished_iff.mp outcome
      exact .inl ⟨finishes, rfl, rfl, rfl⟩
  | failed failure => exact .inr (.inl ⟨failure, rfl, rfl, rfl⟩)
  | unfinished => exact .inr (.inr ⟨rfl, rfl, rfl⟩)

/-- In the sample `filter` keeps the items themselves, the same one twice. -/
theorem steps_agree_sample :
    let on : Value := .object [("on", .bool true)]
    let off : Value := .object [("on", .bool false)]
    let reducer : Reducer := .path ⟨"on", .value, [.key "on"], false⟩
    let given := Accumulator.ofValue (.array [off, on, .null, on])
    let entity : Entity := ⟨"switches", .identity, none, none, none, false, .collection []⟩
    let ending (step : CollectionStep) :=
      (Resolver.collectionStep (empty.resolve 1) entity step given).ending
    reducer.isEmpty = false ∧ given.value = .array [off, on, .null, on] ∧
      ending (.map reducer) =
        .finished (given.withValue (.array [.bool false, .bool true, .undefined, .bool true])) ∧
      ending (.filter reducer) = .finished (given.withValue (.array [on, on])) ∧
      ending (.find reducer) = .finished (given.withValue on) ∧
      (Resolver.collectionSteps (empty.resolve 1) entity [.filter reducer, .filter reducer] given).ending =
        .finished (given.withValue (.array [on, on])) := by
  intro on off reducer given entity ending
  have runs : reducer.isEmpty = false := rfl
  have array : given.value = .array [off, on, .null, on] := rfl
  have once : ending (.filter reducer) = .finished (given.withValue (.array [on, on])) := rfl
  obtain ⟨⟨-, mapped, filtered, found⟩ | ⟨failure, -, failed, -⟩ | ⟨-, stopped, -⟩, twice⟩ :=
    steps_agree empty 1 runs array entity entity entity
  · exact ⟨runs, array, mapped, filtered, found, twice.trans rfl⟩
  · cases once.symm.trans failed
  · cases once.symm.trans stopped

end Store

end Reshape
