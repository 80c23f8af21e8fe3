/-
Module: Reshape.Proofs.Success
Layer: Proofs
Purpose: What a success consists of: for each part of a resolution, the runs that have finished inside
  it and the accumulators that were passed on between them.
Main exports: Run.bind_finished_iff, Run.bind_failed_iff, Function.finished_of_apply,
  Resolver.withValue_of_hashSteps, Resolver.withValue_of_collectionSteps, Resolver.finished_of_body,
  Resolver.finished_of_lifecycle, Resolver.finished_of_recover, Resolver.finished_of_enter,
  Resolver.reference_of_enter, Resolver.finished_of_reference
-/
import Reshape.Proofs.Calls
import Reshape.Proofs.Coupling.Lifecycle

namespace Reshape

/-! ### Runs -/

namespace Run

variable {α β : Type} {run : Run α} {a : α} {b : β}

theorem bind_finished_iff {next : α → Run β} :
    (run.bind next).ending = .finished b ↔
      ∃ a, run.ending = .finished a ∧ (next a).ending = .finished b := by
  unfold Run.bind
  cases run.ending <;> simp

/-- What is done step by step fails in its first step or, after it, in the rest. -/
theorem bind_failed_iff {next : α → Run β} {failure : Failure} :
    (run.bind next).ending = .failed failure ↔
      run.ending = .failed failure ∨
        ∃ a, run.ending = .finished a ∧ (next a).ending = .failed failure := by
  unfold Run.bind
  cases run.ending <;> simp

/-- After a run that finishes, the rest goes on from its result. -/
theorem bind_of_finished {next : α → Run β} (finished : run.ending = .finished a) :
    run.bind next = ⟨run.events ++ (next a).events, (next a).ending⟩ := by
  rw [Run.bind, finished]

theorem annotate_finished_iff {place : String} :
    (run.annotate place).ending = .finished a ↔ run.ending = .finished a := by
  show run.ending.annotate place = .finished a ↔ _
  cases run.ending <;> simp [Ending.annotate]

theorem annotate_failed_iff {place : String} {failure : Failure} :
    (run.annotate place).ending = .failed failure ↔
      ∃ cause, run.ending = .failed cause ∧ cause.annotate place = failure := by
  show run.ending.annotate place = .failed failure ↔ _
  cases run.ending <;> simp [Ending.annotate]

end Run

/-- Only a function that answers with accumulators changes more than the value. -/
theorem Function.finished_of_apply {function : Function} {acc next : Accumulator}
    (finished : (function.apply acc).ending = .finished next) :
    (∃ value, next = acc.withValue value) ∨
      ∃ body, function = .context body ∧ (body acc).result = .ok next := by
  rw [apply_eq, run] at finished
  cases result : (function.reply acc).result with
  | error failure =>
      rw [result] at finished
      cases finished
  | ok answer =>
      rw [result] at finished
      cases finished
      exact reply_ok result

/-! ### Compose steps -/

namespace Resolver

variable {store : Store} {resolve : Resolver} {reference : Reference} {entity : Entity}
  {acc next : Accumulator}

/-- A compose step on an object changes nothing but the value, whatever happens under the keys. -/
theorem withValue_of_hashStep {step : HashStep}
    (finished : (hashStep resolve step acc).ending = .finished next) :
    ∃ value, next = acc.withValue value := by
  unfold hashStep at finished
  split at finished
  · cases finished
    exact ⟨acc.value, rfl⟩
  · cases step with
    | mapKeys keys =>
        obtain ⟨_, -, written⟩ := Run.bind_finished_iff.mp finished
        cases written
        exact ⟨_, rfl⟩
    | addKeys keys =>
        obtain ⟨_, -, written⟩ := Run.bind_finished_iff.mp finished
        cases written
        exact ⟨_, rfl⟩
    | addValues values =>
        cases finished
        exact ⟨_, rfl⟩
    | omitKeys keys =>
        cases finished
        exact ⟨_, rfl⟩
    | pickKeys keys =>
        cases finished
        exact ⟨_, rfl⟩

theorem withValue_of_hashSteps {steps : List HashStep}
    (finished : (hashSteps resolve entity steps acc).ending = .finished next) :
    ∃ value, next = acc.withValue value := by
  induction steps generalizing acc with
  | nil =>
      cases finished
      exact ⟨_, rfl⟩
  | cons step rest ih =>
      obtain ⟨middle, first, others⟩ := Run.bind_finished_iff.mp finished
      obtain ⟨_, rfl⟩ := withValue_of_hashStep (Run.annotate_finished_iff.mp first)
      obtain ⟨value, rfl⟩ := ih others
      exact ⟨value, rfl⟩

/-- A compose step on an array changes nothing but the value, whatever happens to the items. -/
theorem withValue_of_collectionStep {step : CollectionStep}
    (finished : (collectionStep resolve entity step acc).ending = .finished next) :
    ∃ value, next = acc.withValue value := by
  unfold collectionStep at finished
  split at finished
  · cases finished
    exact ⟨acc.value, rfl⟩
  · split at finished
    · obtain ⟨_, -, written⟩ := Run.bind_finished_iff.mp finished
      cases written
      exact ⟨_, rfl⟩
    · cases finished

theorem withValue_of_collectionSteps {steps : List CollectionStep}
    (finished : (collectionSteps resolve entity steps acc).ending = .finished next) :
    ∃ value, next = acc.withValue value := by
  induction steps generalizing acc with
  | nil =>
      cases finished
      exact ⟨_, rfl⟩
  | cons step rest ih =>
      obtain ⟨middle, first, others⟩ := Run.bind_finished_iff.mp finished
      obtain ⟨_, rfl⟩ := withValue_of_collectionStep (Run.annotate_finished_iff.mp first)
      obtain ⟨value, rfl⟩ := ih others
      exact ⟨value, rfl⟩

/-! ### The life of an entity -/

theorem finished_of_hook {name : String} {reducer : Option Reducer}
    (finished : (hook resolve entity name reducer acc).ending = .finished next) :
    (reducer = none ∧ next = acc) ∨
      ∃ present, reducer = some present ∧ (resolve present acc).ending = .finished next := by
  cases reducer with
  | none =>
      cases finished
      exact .inl ⟨rfl, rfl⟩
  | some present => exact .inr ⟨present, rfl, Run.annotate_finished_iff.mp finished⟩

/-- What the type of an entity does with the accumulator of its `value` reducer changes nothing but
    the value. -/
theorem finished_of_body (finished : (body store resolve entity acc).ending = .finished next) :
    ∃ middle, (resolve entity.value acc).ending = .finished middle ∧
      ∃ value, next = middle.withValue value := by
  obtain ⟨middle, valued, rest⟩ := Run.bind_finished_iff.mp finished
  refine ⟨middle, Run.annotate_finished_iff.mp valued, ?_⟩
  cases kind : entity.body with
  | entry =>
      rw [kind] at rest
      cases rest
      exact ⟨next.value, rfl⟩
  | hash compose =>
      simp only [kind, composeHash] at rest
      split at rest
      · exact withValue_of_hashSteps rest
      · cases rest
  | collection compose =>
      simp only [kind, composeCollection] at rest
      split at rest
      · exact withValue_of_collectionSteps rest
      · cases rest
  | schema schema options =>
      simp only [kind, validate] at rest
      split at rest
      · cases rest
        exact ⟨next.value, rfl⟩
      · split at rest
        · cases rest
          exact ⟨next.value, rfl⟩
        · cases rest

theorem finished_of_lifecycle
    (finished : (lifecycle store resolve entity acc).ending = .finished next) :
    ∃ first second, (hook resolve entity "before" entity.before acc).ending = .finished first ∧
      (body store resolve entity first).ending = .finished second ∧
      (hook resolve entity "after" entity.after second).ending = .finished next := by
  obtain ⟨first, before, rest⟩ := Run.bind_finished_iff.mp finished
  obtain ⟨second, bodied, after⟩ := Run.bind_finished_iff.mp rest
  exact ⟨first, second, before, bodied, after⟩

theorem finished_of_recover {failure : Failure}
    (finished : (recover resolve entity acc failure).ending = .finished next) :
    ∃ hook recovered, entity.error = some hook ∧
      (resolve hook (acc.withFailure (some failure))).ending = .finished recovered ∧
      recovered.value.isUndefined = false ∧ next = recovered.withFailure none := by
  unfold recover at finished
  cases present : entity.error with
  | none =>
      rw [present] at finished
      cases finished
  | some hook =>
      simp only [present] at finished
      cases ending : (resolve hook (acc.withFailure (some failure))).ending with
      | finished recovered =>
          simp only [ending] at finished
          split at finished
          · cases finished
          · rename_i defined
            cases finished
            exact ⟨hook, recovered, rfl, ending, by simpa using defined, rfl⟩
      | failed second =>
          rw [ending] at finished
          cases finished
      | unfinished =>
          rw [ending] at finished
          cases finished

/-- An entity that is resolved has either lived without a failure or recovered from one. -/
theorem finished_of_enter (finished : (enter store resolve reference entity acc).ending = .finished next) :
    ∃ last, next = last.withReference acc.reference ∧
      ((lifecycle store resolve entity (acc.withReference (some reference))).ending = .finished last ∨
        ∃ failure, (lifecycle store resolve entity (acc.withReference (some reference))).ending =
            .failed failure ∧
          (recover resolve entity (acc.withReference (some reference)) failure).ending =
            .finished last) := by
  rw [enter_eq] at finished
  dsimp only at finished
  cases ending : (lifecycle store resolve entity (acc.withReference (some reference))).ending with
  | finished last =>
      simp only [ending] at finished
      cases finished
      exact ⟨last, rfl, .inl rfl⟩
  | failed failure =>
      simp only [ending, lived] at finished
      cases recovery : (recover resolve entity (acc.withReference (some reference)) failure).ending with
      | finished last =>
          rw [recovery] at finished
          cases finished
          exact ⟨last, rfl, .inr ⟨failure, rfl, recovery⟩⟩
      | failed second =>
          rw [recovery] at finished
          cases finished
      | unfinished =>
          rw [recovery] at finished
          cases finished
  | unfinished =>
      simp only [ending] at finished
      cases finished

/-- An entity gives the accumulator back to the one around it. -/
theorem reference_of_enter (finished : (enter store resolve reference entity acc).ending = .finished next) :
    next.reference = acc.reference := by
  obtain ⟨last, rfl, -⟩ := finished_of_enter finished
  rfl

/-- With the mark for every element a reference changes nothing but the value. -/
theorem finished_of_reference
    (finished : (Resolver.reference store resolve reference acc).ending = .finished next) :
    ∃ entity, store.get? reference.id = some entity ∧
      ((reference.isCollection = true ∧ ∃ value, next = acc.withValue value) ∨
        (reference.isCollection = false ∧
          (enter store resolve reference entity acc).ending = .finished next)) := by
  obtain ⟨_, -, finished⟩ := Run.bind_finished_iff.mp finished
  obtain ⟨entity, sought, finished⟩ := Run.bind_finished_iff.mp finished
  refine ⟨entity, ?_, ?_⟩
  · unfold Store.seek at sought
    split at sought
    · rename_i found
      cases sought
      exact found
    · cases sought
  · split at finished
    · rename_i mark
      refine .inl ⟨mark, ?_⟩
      split at finished
      · obtain ⟨_, -, written⟩ := Run.bind_finished_iff.mp finished
        cases written
        exact ⟨_, rfl⟩
      · cases finished
        exact ⟨_, rfl⟩
    · rename_i plain
      exact .inr ⟨by simpa using plain, finished⟩

end Resolver

end Reshape
