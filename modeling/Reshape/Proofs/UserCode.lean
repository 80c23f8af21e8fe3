/-
Module: Reshape.Proofs.UserCode
Layer: Proofs
Purpose: Which user code runs, and in which order. Lists and entities stop at the first member that does
  not finish; the error hook of an entity runs after a failure and at no other time; of branches side by
  side all run, whatever becomes of the others.
Main exports: Entity.inspection, Store.aftermath, Store.log_of_enter, Store.least_key_of_failed,
  Store.user_code_is_exact
-/
import Reshape.Proofs.FanOut
import Reshape.Proofs.Stages

namespace Reshape

/-! ### The log of an entity -/

/-- The entry of the watcher in the log of an entity. -/
def Entity.inspection (entity : Entity) (entered : Accumulator) : List Event :=
  if entity.inspects && entered.params.isWatched then [.inspected entered] else []

namespace Store

/-- The log of the error hook of an entity, after what it guards has ended: it runs after a failure, with
    the failure attached to the accumulator that the entity was entered with. -/
def aftermath (store : Store) (depth : Nat) (entity : Entity) (entered : Accumulator) :
    Ending Accumulator → List Event
  | .failed failure =>
    match entity.error with
    | some hook => (store.resolve depth hook (entered.withFailure (some failure))).log
    | none => []
  | _ => []

variable {store : Store} {depth : Nat} {reference : Reference} {entity : Entity}

/-- Entering and leaving an entity are not logged. -/
theorem log_lived (acc : Accumulator) (events : List Event) (ending : Ending Accumulator) :
    (Resolver.lived reference acc events ending).log = events.filter Event.isLogged := by
  simp [Run.log, Resolver.lived, Event.isLogged]

theorem log_inspect (entered : Accumulator) :
    (Resolver.inspect entity entered).log = entity.inspection entered := by
  unfold Resolver.inspect Entity.inspection
  split <;> rfl

theorem log_recover (entered : Accumulator) (failure : Failure) :
    (Resolver.recover (store.resolve depth) entity entered failure).log =
      store.aftermath depth entity entered (.failed failure) := by
  unfold Resolver.recover aftermath
  cases entity.error <;> rfl

/-- The log of an entity: the watcher, the stages, and after a failure the error hook. -/
theorem log_of_enter (acc : Accumulator) :
    let entered := acc.withReference (some reference)
    let guarded := Resolver.lifecycle store (store.resolve depth) entity entered
    (Resolver.enter store (store.resolve depth) reference entity acc).log =
      entity.inspection entered ++ guarded.log ++ store.aftermath depth entity entered guarded.ending := by
  intro entered guarded
  have unfailed (ending : Ending Accumulator) :
      (Resolver.lived reference acc ((Resolver.inspect entity entered).events ++ guarded.events)
        ending).log = entity.inspection entered ++ guarded.log ++ [] := by
    rw [log_lived, List.filter_append, List.append_nil, ← log_inspect]
    rfl
  rw [Resolver.enter_eq]
  show Run.log (match guarded.ending with | .failed failure => _ | ending => _) = _
  cases guarded.ending with
  | finished last => exact unfailed _
  | failed failure =>
      rw [← log_recover, ← log_inspect]
      dsimp only
      rw [log_lived, List.filter_append, List.filter_append]
      rfl
  | unfinished => exact unfailed _

/-- Where keys ascend, a step over them fails like the least of the keys that fail. -/
theorem least_key_of_failed {keys : Keyed Reducer} {step : HashStep} {acc : Accumulator}
    {failure : Failure} (goes : step = .mapKeys keys ∨ step = .addKeys keys)
    (ordered : step.Ordered)
    (failed : (Resolver.hashStep (store.resolve depth) step acc).ending = .failed failure) :
    ∃ entry ∈ keys, (store.resolve depth entry.2 acc).ending = .failed failure ∧
      ∀ other ∈ keys, (∃ second, (store.resolve depth other.2 acc).ending = .failed second) →
        entry.1 ≤ other.1 := by
  have some : keys ≠ [] := by
    rintro rfl
    rcases goes with rfl | rfl <;> cases failed
  have first : Run.FirstFailure (keys.map fun entry => store.resolve depth entry.2 acc) failure := by
    have branches (combine : Keyed Value → Value) :
        (FanOut.overKeys keys acc combine).branches.map (store.alone depth) =
          keys.map fun entry => store.resolve depth entry.2 acc := by
      rw [FanOut.overKeys, List.map_map]
      rfl
    rcases goes with rfl | rfl
    · exact branches _ ▸ ((FansOut.mapKeys some).failed_iff.mp failed).2
    · exact branches _ ▸ ((FansOut.addKeys some).failed_iff.mp failed).2
  have ascending : Keyed.Ordered keys := by rcases goes with rfl | rfl <;> exact ordered
  obtain ⟨entry, member, fails, least⟩ := first.least ascending
  refine ⟨entry, member, fails, ?_⟩
  intro other member fails
  rcases least other member fails with rfl | below
  · exact String.le_refl _
  · exact String.not_lt.mp (String.lt_asymm below)

theorem undefined_of_missing (missing : store.get? reference.id = none) (acc : Accumulator) :
    store.resolve (depth + 1) (.entity reference) acc =
      ⟨[.sought reference.id], .failed (undefinedEntity reference.id)⟩ := by
  rw [resolve_entity]
  simp [Resolver.reference, seek, missing, Run.ofExcept, Run.event, Run.bind, Run.fail]

theorem wrongType_of_noArray {step : CollectionStep} {acc : Accumulator}
    (runs : step.reducer.isEmpty = false) (noArray : acc.value.items? = none) :
    Resolver.collectionStep (store.resolve depth) entity step acc =
      Run.fail (entity.wrongType acc.value CollectionStep.expectation) := by
  rw [Resolver.collectionStep, runs]
  cases value : acc.value with
  | array items => simp [value, Value.items?] at noArray
  | _ => rfl

/-- Which user code runs is exact. The log of a list holds the logs of its steps up to and including the
    first that does not finish. The log of an entity, by whatever reference it is entered, holds the entry of
    the watcher, the logs of its stages up to and including the first that does not finish, of which the checks
    of the value log nothing, and after a failure the log of its error hook. The log of a fan-out holds the logs
    of all branches, in the order of the keys or items; if it ends, it fails exactly if some branch fails, and
    then like the first that does, which is the one with the least key where keys ascend, as they do in built
    stores (`Builder.ordered_of_build`). A branch of a marked reference is its entity, entered by that
    reference. A step that has no array to go over and a reference to an entity that is not registered fail
    before they run anything. -/
theorem user_code_is_exact (store : Store) (depth : Nat) (acc : Accumulator) :
    (∀ steps,
      let run := store.resolve (depth + 1) (.list steps) acc
      ∃ runs, Run.Along (steps.map (store.resolve depth)) acc runs run.ending ∧
        run.log = runs.flatMap Run.log) ∧
      (∀ (reference : Reference) (entity : Entity),
        let entered := acc.withReference (some reference)
        let run := store.alone (depth + 1) (.entity reference entity acc)
        (∃ runs guarded,
          Run.Along (entity.stages store (store.resolve depth)) entered runs guarded ∧
            run.log = entity.inspection entered ++ runs.flatMap Run.log ++
              store.aftermath depth entity entered guarded) ∧
          (∀ check ∈ entity.checks store, ∀ given, (check given).log = []) ∧
          (reference.isCollection = false → store.get? reference.id = some entity →
            (store.resolve (depth + 1) (.entity reference) acc).log = run.log)) ∧
      (∀ fan run, store.FansOut depth acc fan run →
        run.log = fan.branches.flatMap (fun branch => (store.alone depth branch).log) ∧
          (run.ending ≠ .unfinished →
            ((∃ failure, run.ending = .failed failure) ↔
              ∃ branch ∈ fan.branches, ∃ failure, (store.alone depth branch).ending = .failed failure)) ∧
          ∀ failure, run.ending = .failed failure →
            Run.FirstFailure (fan.branches.map (store.alone depth)) failure) ∧
      (∀ keys step failure, step = HashStep.mapKeys keys ∨ step = HashStep.addKeys keys →
        step.Ordered →
        (Resolver.hashStep (store.resolve depth) step acc).ending = .failed failure →
        ∃ entry ∈ keys, (store.resolve depth entry.2 acc).ending = .failed failure ∧
          ∀ other ∈ keys, (∃ second, (store.resolve depth other.2 acc).ending = .failed second) →
            entry.1 ≤ other.1) ∧
      (∀ (entity : Entity) step, step.reducer.isEmpty = false → acc.value.items? = none →
        let refusal := entity.wrongType acc.value CollectionStep.expectation
        Resolver.collectionStep (store.resolve depth) entity step acc = Run.fail refusal ∧
          refusal.Blames entity acc.value CollectionStep.expectation) ∧
      ∀ reference : Reference, store.get? reference.id = none →
        (store.resolve (depth + 1) (.entity reference) acc).log = [] ∧
          (store.resolve (depth + 1) (.entity reference) acc).ending =
            .failed (undefinedEntity reference.id) := by
  refine ⟨?_, ?_, ?_, ?_, ?_, ?_⟩
  · intro steps run
    obtain ⟨runs, along, events⟩ := Run.along_inOrder (steps.map (store.resolve depth)) acc
    have same : run = Run.inOrder (steps.map (store.resolve depth)) acc :=
      congrFun (Resolver.sequence_eq_inOrder steps) acc
    exact ⟨runs, same ▸ along, same ▸ Run.log_eq_flatMap events⟩
  · intro reference entity entered run
    refine ⟨?_, fun check member given => Resolver.log_of_check member given, ?_⟩
    · obtain ⟨runs, along, events⟩ :=
        Run.along_inOrder (entity.stages store (store.resolve depth)) entered
      refine ⟨runs, _, along, ?_⟩
      rw [← Run.log_eq_flatMap events, ← Resolver.lifecycle_eq_inOrder]
      exact log_of_enter acc
    · exact fun plain found => (alone_reference found plain).log
  · intro fan run fans
    exact ⟨fans.log_eq, fans.fails_iff, fun failure failed => (fans.failed_iff.mp failed).2⟩
  · exact fun keys step failure goes ordered failed => least_key_of_failed goes ordered failed
  · intro entity step runs noArray refusal
    exact ⟨wrongType_of_noArray runs noArray, entity.blames_wrongType _ _⟩
  · intro reference missing
    rw [undefined_of_missing missing]
    exact ⟨rfl, rfl⟩

/-- In the sample the function under the first key fails, and the one under the second key is called all
    the same. `entry:inner` has its error hook run. The log of a marked reference holds those of its entity,
    entered by that reference for each item. -/
theorem user_code_is_exact_sample :
    let keys : Keyed Reducer := [("a", Rescue.failing "no"), ("b", Rescue.answering .null)]
    let given := Accumulator.ofValue .null
    let run := Resolver.hashStep (Rescue.store.resolve 3) (.mapKeys keys) given
    let inside := given.withReference (some Rescue.innerReference)
    let failed : Accumulator := inside.withFailure (some (.resolution "entry:inner.value inside"))
    run.log = [.called given, .called given] ∧
      (∃ branch ∈ (FanOut.overKeys keys given .object).branches, ∃ failure,
        (Rescue.store.alone 3 branch).ending = .failed failure) ∧
      (∃ entry ∈ keys, ∀ other ∈ keys,
        (∃ second, (Rescue.store.resolve 3 other.2 given).ending = .failed second) →
          entry.1 ≤ other.1) ∧
      (∃ runs guarded, Run.Along (Rescue.inner.stages Rescue.store (Rescue.store.resolve 3)) inside
          runs guarded ∧
        [.called inside, .called failed] = [] ++ runs.flatMap Run.log ++
          Rescue.store.aftermath 3 Rescue.inner inside guarded) ∧
      Resolver.collectionStep (Rescue.store.resolve 3) Rescue.inner (.map (Rescue.answering .null))
          given =
        Run.fail (Rescue.inner.wrongType .null CollectionStep.expectation) ∧
      (Rescue.store.resolve 4 (.entity ⟨"entry", "none", true⟩) given).log = [] ∧
      (Probe.store.resolve 3 (.entity Probe.reference) Probe.given).log =
        [Value.string "a", .null].flatMap fun item =>
          (Probe.store.alone 3 (.entity Probe.reference Probe.entity (Probe.given.withValue item))).log := by
  intro keys given run inside failed
  have fans : Rescue.store.FansOut 3 given (.overKeys keys given .object) run :=
    .mapKeys (by simp [keys])
  have fails : run.ending = .failed (.resolution "no") := rfl
  have ends : run.ending ≠ .unfinished := by simp [fails]
  have ascending : (HashStep.mapKeys keys).Ordered := List.pairwise_pair.mpr (by decide)
  obtain ⟨-, entities, fanOuts, least, noArray, missing⟩ := user_code_is_exact Rescue.store 3 given
  obtain ⟨log, failing, -⟩ := fanOuts _ _ fans
  obtain ⟨entry, member, -, isLeast⟩ := least keys _ _ (.inl rfl) ascending fails
  obtain ⟨-, -, fanOuts', -⟩ := user_code_is_exact Probe.store 3 Probe.given
  have overItems : Probe.store.FansOut 3 Probe.given _ (Probe.store.resolve 3 (.entity Probe.reference) _) :=
    .reference rfl rfl rfl
  obtain ⟨marked, -⟩ := fanOuts' _ _ overItems
  exact ⟨log, (failing ends).mp ⟨_, fails⟩, ⟨entry, member, isLeast⟩,
    (entities Rescue.innerReference Rescue.inner).1,
    (noArray Rescue.inner (.map (Rescue.answering .null)) rfl rfl).1,
    (missing ⟨"entry", "none", true⟩ rfl).1, marked⟩

/-- That a reference with the mark fails exactly if one of its branches does is too much to say: if the
    entity is not registered, it fails on the empty array as well. -/
theorem undefined_fails_on_no_items :
    ¬ ∀ (store : Store) (depth : Nat) (reference : Reference) (acc : Accumulator) (items : List Value),
      reference.isCollection = true → acc.value = .array items →
      let run := store.resolve depth (.entity reference) acc
      run.ending ≠ .unfinished →
      ((∃ failure, run.ending = .failed failure) ↔
        ∃ item ∈ items, ∃ entity failure, store.get? reference.id = some entity ∧
          (store.alone depth (.entity reference entity (acc.withValue item))).ending =
            .failed failure) := by
  intro always
  have fails : (empty.resolve 1 (.entity ⟨"entry", "none", true⟩)
      (.ofValue (.array []))).ending = .failed (undefinedEntity "entry:none") := rfl
  have ends := always empty 1 ⟨"entry", "none", true⟩ (.ofValue (.array [])) [] rfl rfl nofun
  obtain ⟨_, member, -⟩ := ends.mp ⟨_, fails⟩
  cases member

end Store

end Reshape
