/-
Module: Reshape.Proofs.Recovery
Layer: Proofs
Purpose: What the error hook of an entity makes of a failure. It starts over from the accumulator that the
  entity was entered with, so that of everything that has happened before only the failure gets to it, and
  without a failure it might as well not be there.
Main exports: Ending.settle, Resolver.enter_withError, Resolver.ending_of_finished,
  Resolver.ending_of_failed, Resolver.ending_of_none, Store.recovery_is_atomic
-/
import Reshape.Proofs.Context
import Reshape.Proofs.Locality
import Reshape.Proofs.Stages

namespace Reshape

/-! ### What error hooks decide -/

namespace Ending

/-- The ending of the entity `id` after `failure`, by how its error hook ends, for an entity that was
    entered from inside the one that `outer` leads to. -/
def settle (id : String) (outer : Option Reference) (failure : Failure) :
    Ending Accumulator → Ending Accumulator
  | .finished recovered =>
    if recovered.value.isUndefined then .failed failure
    else .finished ((recovered.withFailure none).withReference outer)
  | .failed second => .failed (.recoveryExhausted (id ++ ".error " ++ second.message) failure)
  | .unfinished => .unfinished

variable {id : String} {outer : Option Reference} {failure : Failure} {handling : Ending Accumulator}

/-- The failure is recovered from if the error hook finishes with a value that is not missing. -/
theorem settle_finished_iff {next : Accumulator} :
    handling.settle id outer failure = .finished next ↔
      ∃ recovered, handling = .finished recovered ∧ recovered.value.isUndefined = false ∧
        (recovered.withFailure none).withReference outer = next := by
  cases handling with
  | finished recovered => cases missing : recovered.value.isUndefined <;> simp [settle, missing]
  | failed second => simp [settle]
  | unfinished => simp [settle]

/-- The failure is passed on if the error hook declines, and is covered if the error hook fails. -/
theorem settle_failed_iff {last : Failure} :
    handling.settle id outer failure = .failed last ↔
      (∃ declined, handling = .finished declined ∧ declined.value.isUndefined = true ∧
        failure = last) ∨
        ∃ second, handling = .failed second ∧
          .recoveryExhausted (id ++ ".error " ++ second.message) failure = last := by
  cases handling with
  | finished recovered => cases missing : recovered.value.isUndefined <;> simp [settle, missing]
  | failed second => simp [settle]
  | unfinished => simp [settle]

theorem settle_unfinished_iff :
    handling.settle id outer failure = .unfinished ↔ handling = .unfinished := by
  cases handling with
  | finished recovered => cases missing : recovered.value.isUndefined <;> simp [settle, missing]
  | failed second => simp [settle]
  | unfinished => simp [settle]

end Ending

/-! ### The ending of an entity -/

/-- The entity with another error hook, or with none. -/
def Entity.withError (entity : Entity) (error : Option Reducer) : Entity :=
  { entity with error := error }

namespace Resolver

variable {store : Store} {resolve : Resolver} {reference : Reference} {entity : Entity}
  {acc : Accumulator}

/-- What the error hook guards does not depend on the error hook. -/
theorem lifecycle_withError (error : Option Reducer) :
    lifecycle store resolve (entity.withError error) = lifecycle store resolve entity := by
  rw [lifecycle_eq_inOrder, lifecycle_eq_inOrder]
  rfl

/-- The run of an entity in which nothing fails. -/
theorem enter_of_finished {last : Accumulator}
    (finished : (lifecycle store resolve entity (acc.withReference (some reference))).ending =
      .finished last) :
    enter store resolve reference entity acc =
      lived reference acc
        ((inspect entity (acc.withReference (some reference))).events ++
          (lifecycle store resolve entity (acc.withReference (some reference))).events)
        (.finished last) := by
  rw [enter_eq]
  simp only [finished]

/-- Where nothing fails, the error hook does not matter. -/
theorem enter_withError {last : Accumulator}
    (finished : (lifecycle store resolve entity (acc.withReference (some reference))).ending =
      .finished last) (error : Option Reducer) :
    enter store resolve reference (entity.withError error) acc = enter store resolve reference entity acc := by
  have finished' : (lifecycle store resolve (entity.withError error)
      (acc.withReference (some reference))).ending = .finished last := by
    rw [lifecycle_withError]
    exact finished
  rw [enter_of_finished finished, enter_of_finished finished', lifecycle_withError]
  rfl

theorem ending_of_finished {last : Accumulator}
    (finished : (lifecycle store resolve entity (acc.withReference (some reference))).ending =
      .finished last) :
    (enter store resolve reference entity acc).ending = .finished (last.withReference acc.reference) := by
  rw [enter_of_finished finished]
  rfl

theorem ending_of_failed {failure : Failure}
    (failed : (lifecycle store resolve entity (acc.withReference (some reference))).ending =
      .failed failure) :
    (enter store resolve reference entity acc).ending =
      (recover resolve entity (acc.withReference (some reference)) failure).ending.map
        fun resolved => resolved.withReference acc.reference := by
  rw [enter_eq]
  simp only [failed]
  rfl

/-- Without an error hook a failure is passed on. -/
theorem ending_of_failed_of_none (vacant : entity.error = none) {failure : Failure}
    (failed : (lifecycle store resolve entity (acc.withReference (some reference))).ending =
      .failed failure) :
    (enter store resolve reference entity acc).ending = .failed failure := by
  rw [ending_of_failed failed, recover, vacant]
  rfl

/-- Without an error hook an entity ends as what the error hook would guard. -/
theorem ending_of_none (vacant : entity.error = none) :
    (enter store resolve reference entity acc).ending =
      (lifecycle store resolve entity (acc.withReference (some reference))).ending.map
        fun last => last.withReference acc.reference := by
  cases ending : (lifecycle store resolve entity (acc.withReference (some reference))).ending with
  | finished last => exact ending_of_finished ending
  | failed failure => exact ending_of_failed_of_none vacant ending
  | unfinished =>
      rw [enter_eq]
      simp only [ending]
      rfl

theorem enter_finished_iff_of_none (vacant : entity.error = none) {next : Accumulator} :
    (enter store resolve reference entity acc).ending = .finished next ↔
      ∃ last, (lifecycle store resolve entity (acc.withReference (some reference))).ending =
          .finished last ∧
        last.withReference acc.reference = next := by
  rw [ending_of_none vacant, ← Run.ending_map, Run.map_finished_iff]

/-- With an error hook a failure ends as the error hook decides, which is given nothing but the failure
    and the accumulator that the entity was entered with. -/
theorem ending_of_failed_of_some {hook : Reducer} (present : entity.error = some hook)
    {failure : Failure}
    (failed : (lifecycle store resolve entity (acc.withReference (some reference))).ending =
      .failed failure) :
    (enter store resolve reference entity acc).ending =
      (resolve hook ((acc.withReference (some reference)).withFailure (some failure))).ending.settle
        entity.id acc.reference failure := by
  rw [ending_of_failed failed, recover, present]
  dsimp only
  cases (resolve hook _).ending with
  | finished recovered =>
      cases missing : recovered.value.isUndefined <;> simp [Ending.settle, missing, Ending.map]
  | failed second => simp [Ending.settle, Ending.map, Entity.place, String.append_assoc]
  | unfinished => rfl

end Resolver

/-! ### Recovery is atomic -/

namespace Store

variable {store store' : Store} {depth : Nat} {reference : Reference} {entity entity' : Entity}
  {hook : Reducer} {acc : Accumulator}

/-- An entity that succeeds and does not lead back to itself may have any error hook in the store. -/
theorem enter_eq_of_avoids (differs : store.DiffersAt store' entity.id)
    (avoids : ∀ slot ∈ entity.slots, store.Avoids slot.2 entity.id) {last : Accumulator}
    (finished : (Resolver.lifecycle store (store.resolve depth) entity
      (acc.withReference (some reference))).ending = .finished last) (error : Option Reducer) :
    Resolver.enter store' (store'.resolve depth) reference (entity.withError error) acc =
      Resolver.enter store (store.resolve depth) reference entity acc := by
  have same := lifecycle_eq_of_avoids differs avoids depth (acc.withReference (some reference))
  have finished' : (Resolver.lifecycle store' (store'.resolve depth) entity
      (acc.withReference (some reference))).ending = .finished last := by
    rw [same]
    exact finished
  rw [Resolver.enter_withError finished', Resolver.enter_of_finished finished',
    Resolver.enter_of_finished finished, same]

/-- Whatever has led to a failure, the error hook makes the same of it. -/
theorem ending_eq_of_failed (differs : store.DiffersAt store' entity.id)
    (sameId : entity'.id = entity.id) (present : entity.error = some hook)
    (present' : entity'.error = some hook) (avoids : store.Avoids hook entity.id) {failure : Failure}
    (failed : (Resolver.lifecycle store (store.resolve depth) entity
      (acc.withReference (some reference))).ending = .failed failure)
    (ends : (Resolver.enter store (store.resolve depth) reference entity acc).ending ≠ .unfinished)
    {deeper : Nat} (le : depth ≤ deeper)
    (failed' : (Resolver.lifecycle store' (store'.resolve deeper) entity'
      (acc.withReference (some reference))).ending = .failed failure) :
    (Resolver.enter store' (store'.resolve deeper) reference entity' acc).ending =
      (Resolver.enter store (store.resolve depth) reference entity acc).ending := by
  rw [Resolver.ending_of_failed_of_some present failed] at ends ⊢
  rw [Resolver.ending_of_failed_of_some present' failed', sameId, resolve_eq_of_avoids differs avoids,
    resolve_of_le (mt Ending.settle_unfinished_iff.mpr ends) le]

/-- Recovery is atomic, by whatever reference an entity is entered. If it succeeds, it comes to what its
    slots come to, with any error hook and with none, also in the store if it does not lead back to itself.
    An entity that fails succeeds with what its error hook finishes with, which is not the missing value; it
    fails with the same failure, as it does without an error hook, if the error hook finishes with the missing
    value; and it fails with an exhausted recovery from the failure if the error hook fails. Other slots that
    fail alike on the same accumulator make no difference, if the error hook does not lead back to the
    entity. -/
theorem recovery_is_atomic (store : Store) (depth : Nat) (reference : Reference) {entity : Entity}
    {hook : Reducer} (present : entity.error = some hook) (acc : Accumulator) :
    let entered := acc.withReference (some reference)
    let guarded := Resolver.lifecycle store (store.resolve depth) entity entered
    let run := Resolver.enter store (store.resolve depth) reference entity acc
    (∀ last, guarded.ending = .finished last →
      run.ending = .finished (last.withReference acc.reference) ∧
        ∀ error, Resolver.enter store (store.resolve depth) reference (entity.withError error) acc = run ∧
          ∀ store', store.DiffersAt store' entity.id →
            (∀ slot ∈ entity.slots, store.Avoids slot.2 entity.id) →
            Resolver.enter store' (store'.resolve depth) reference (entity.withError error) acc = run) ∧
      ∀ failure, guarded.ending = .failed failure →
        let handling := (store.resolve depth hook (entered.withFailure (some failure))).ending
        (∀ next, run.ending = .finished next ↔
          ∃ recovered, handling = .finished recovered ∧ recovered.value.isUndefined = false ∧
            (recovered.withFailure none).withReference acc.reference = next) ∧
          (∀ last, run.ending = .failed last ↔
            (∃ declined, handling = .finished declined ∧ declined.value.isUndefined = true ∧
              failure = last) ∨
              ∃ second, handling = .failed second ∧
                .recoveryExhausted (entity.id ++ ".error " ++ second.message) failure = last) ∧
          (Resolver.enter store (store.resolve depth) reference (entity.withError none) acc).ending =
            .failed failure ∧
          ∀ store' entity' deeper, store.DiffersAt store' entity.id → entity'.id = entity.id →
            entity'.error = some hook → store.Avoids hook entity.id → run.ending ≠ .unfinished →
            depth ≤ deeper →
            (Resolver.lifecycle store' (store'.resolve deeper) entity' entered).ending =
              .failed failure →
            (Resolver.enter store' (store'.resolve deeper) reference entity' acc).ending = run.ending := by
  intro entered guarded run
  constructor
  · intro last finished
    refine ⟨Resolver.ending_of_finished finished, fun error => ⟨?_, ?_⟩⟩
    · exact Resolver.enter_withError finished error
    · exact fun store' differs avoids => enter_eq_of_avoids differs avoids finished error
  · intro failure failed handling
    have settled : run.ending = handling.settle entity.id acc.reference failure :=
      Resolver.ending_of_failed_of_some present failed
    refine ⟨?_, ?_, ?_, ?_⟩
    · exact fun next => settled ▸ Ending.settle_finished_iff
    · exact fun last => settled ▸ Ending.settle_failed_iff
    · have failed' : (Resolver.lifecycle store (store.resolve depth) (entity.withError none)
          entered).ending = .failed failure := by
        rw [Resolver.lifecycle_withError]
        exact failed
      exact Resolver.ending_of_failed_of_none rfl failed'
    · intro store' entity' deeper differs sameId present' avoids ends le failed'
      exact ending_eq_of_failed differs sameId present present' avoids failed ends le failed'

/-- In the sample `entry:inner` fails and recovers, also after its value has been made to drop the
    accumulator before it fails. With a value that does not fail, it needs no error hook. -/
theorem recovery_is_atomic_sample :
    let given := Renewal.given
    let steady : Entity := { Rescue.inner with value := Rescue.answering .null }
    let renewing : Entity :=
      { Rescue.inner with value := .list [Renewal.renewing, Rescue.failing "inside"] }
    let enter (store : Store) (entity : Entity) :=
      Resolver.enter store (store.resolve 2) Rescue.innerReference entity given
    let replaced := Rescue.store.replace "entry:inner" renewing
    (enter Rescue.store Rescue.inner).ending = .finished (given.withValue (.string "spare")) ∧
      (enter replaced renewing).ending = (enter Rescue.store Rescue.inner).ending ∧
      (enter Rescue.store (Rescue.inner.withError none)).ending =
        .failed (.resolution "entry:inner.value inside") ∧
      enter Rescue.store (steady.withError none) = enter Rescue.store steady ∧
      enter replaced (steady.withError none) = enter Rescue.store steady := by
  intro given steady renewing enter replaced
  have present : Rescue.inner.error = some (Rescue.answering (.string "spare")) := rfl
  have present' : steady.error = some (Rescue.answering (.string "spare")) := rfl
  have differs : Rescue.store.DiffersAt replaced "entry:inner" := differsAt_replace _ _ _
  obtain ⟨-, fails⟩ := recovery_is_atomic Rescue.store 2 Rescue.innerReference present given
  obtain ⟨recovers, -, passes, atomic⟩ := fails (.resolution "entry:inner.value inside") rfl
  obtain ⟨succeeds, -⟩ := recovery_is_atomic Rescue.store 2 Rescue.innerReference present' given
  obtain ⟨-, free⟩ := succeeds ((given.withReference (some Rescue.innerReference)).withValue .null) rfl
  have recovered := (recovers (given.withValue (.string "spare"))).mpr ⟨_, rfl, rfl, rfl⟩
  have steadySlots : ∀ slot ∈ steady.slots, Rescue.store.Avoids slot.2 "entry:inner" := by
    intro slot member
    obtain rfl : slot = ("value", Rescue.answering .null) := List.mem_singleton.mp member
    exact avoids_function _ _ _
  have ends : (enter Rescue.store Rescue.inner).ending ≠ .unfinished := by
    rw [show (enter Rescue.store Rescue.inner).ending = _ from recovered]
    nofun
  exact ⟨recovered,
    atomic replaced renewing 2 differs rfl rfl (avoids_function _ _ _) ends (Nat.le_refl 2) rfl,
    passes, (free none).1, (free none).2 replaced differs steadySlots⟩

end Store

end Reshape
