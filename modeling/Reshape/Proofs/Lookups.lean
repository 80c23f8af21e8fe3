/-
Module: Reshape.Proofs.Lookups
Layer: Proofs
Purpose: The enumeration of references is sound: resolutions look up nothing that it does not visit,
  so a store in which everything visited is registered raises no look-up failure.
Main exports: Failure.HasLookup, Store.Visits, Store.Reaches.visits, Law.lookups, Store.Closed,
  Store.Silent, Store.meets_lookups, Store.lookups_are_visited
-/
import Reshape.Proofs.Built
import Reshape.Proofs.Contract
import Reshape.Proofs.Reach

namespace Reshape

/-! ### Look-up failures -/

namespace Failure

/-- The failure is a look-up failure, or one is among the failures that it covers. -/
def HasLookup : Failure → Prop
  | .lookup _ => True
  | .recoveryExhausted _ cause => cause.HasLookup
  | _ => False

@[simp] theorem hasLookup_annotate (place : String) (failure : Failure) :
    (failure.annotate place).HasLookup ↔ failure.HasLookup := by
  cases failure <;> exact Iff.rfl

/-- Entities raise no look-up failures about the values that they are given. -/
theorem not_hasLookup_of_refuses {entity : Entity} {store : Store} {failure : Failure}
    (refuses : entity.Refuses store failure) : ¬ failure.HasLookup := by
  cases refuses <;> exact id

theorem not_hasLookup_of_stepRefuses {entity : Entity} {name : String} {failure : Failure}
    (refuses : entity.StepRefuses name failure) : ¬ failure.HasLookup := by
  cases refuses
  exact id

end Failure

/-! ### What is visited -/

/-- The enumeration of references visits `id` in the reducer or in an entity of the store. -/
def Store.Visits (store : Store) (reducer : Reducer) (id : String) : Prop :=
  (∃ reference ∈ reducer.references, reference.id = id) ∨
    ∃ key entity, store.get? key = some entity ∧ ∃ reference ∈ entity.references, reference.id = id

/-- Every reference that a resolution can come to is visited. -/
theorem Store.Reaches.visits {store : Store} {reducer : Reducer} {reference : Reference}
    (reaches : store.Reaches reducer (.entity reference)) : store.Visits reducer reference.id := by
  rcases reaches.holds with holds | ⟨key, entity, found, inner, member, holds⟩
  · have refers := (Reducer.mem_references reducer).mpr holds
    exact .inl ⟨reference, refers, rfl⟩
  · have refers := (Reducer.mem_references inner).mpr holds
    exact .inr ⟨key, entity, found, reference, Entity.mem_references_of_reducer member refers, rfl⟩

/-! ### Look-ups during resolutions -/

/-- The event looks up only what is `visited`, and hands only `allowed` failures to error hooks. -/
def Event.Within (visited : String → Prop) (allowed : Failure → Prop) : Event → Prop
  | .sought id => visited id
  | .recovering _ failure => allowed failure
  | _ => True

theorem within_bracket {visited : String → Prop} {allowed : Failure → Prop} {reference : Reference}
    {events : List Event} (inside : ∀ event ∈ events, event.Within visited allowed) :
    ∀ event ∈ .entered reference :: events ++ [.left reference], event.Within visited allowed := by
  simp only [List.forall_mem_append, List.forall_mem_cons]
  exact ⟨⟨trivial, inside⟩, trivial, nofun⟩

/-- The contract of runs whose events are within bounds and that end in allowed failures. -/
def Contract.lookups (visited : String → Prop) (allowed : Failure → Prop) : Contract :=
  { endings allowed True with
    trace := fun events => ∀ event ∈ events, event.Within visited allowed
    trace_nil := nofun
    trace_append := fun first last => List.forall_mem_append.mpr ⟨first, last⟩ }

/-- Look-up failures stay out of a resolution, under a condition on the store and its functions. -/
def Law.lookups (store : Store) (visited : String → Prop) (condition : Prop) : Law store Unit where
  contract _ := Contract.lookups visited fun failure => condition → ¬ failure.HasLookup
  inside _ _ := ()
  handling _ _ _ := ()
  encloses := by
    intro _ _ entity
    constructor
    case lives => exact within_bracket
    case handles =>
      intro events failure last inside failed handled
      apply within_bracket
      exact List.forall_mem_append.mpr ⟨inside, List.forall_mem_cons.mpr ⟨failed, handled⟩⟩
    case inspects =>
      intro acc _ event member
      unfold Resolver.inspect at member
      split at member
      · obtain rfl := List.mem_singleton.mp member
        trivial
      · cases member
    case exhausts => exact fun failed _ => failed
    case fails => exact id
    all_goals intros; trivial
  endless _ := trivial
  marks slot failed holds lookup := failed holds ((Failure.hasLookup_annotate slot _).mp lookup)
  refuses refuses _ := Failure.not_hasLookup_of_refuses refuses
  stepRefuses refuses _ := Failure.not_hasLookup_of_stepRefuses refuses

namespace Store

/-- Whatever the enumeration of references visits is registered. -/
def Closed (store : Store) (reducer : Reducer) : Prop :=
  ∀ id, store.Visits reducer id → ∃ entity, store.get? id = some entity

/-- No function that can be reached raises look-up failures. -/
def Silent (store : Store) (reducer : Reducer) : Prop :=
  ∀ function, store.Reaches reducer (.function function) → ∀ given failure,
    function.Raises given failure → ¬ failure.HasLookup

/-- Resolutions look up only what is visited, and raise no look-up failures if that is registered and
    the functions raise none. -/
theorem meets_lookups (store : Store) (reducer : Reducer) (depth : Nat) (acc : Accumulator) :
    (Contract.lookups (store.Visits reducer) fun failure =>
      store.Closed reducer ∧ store.Silent reducer → ¬ failure.HasLookup).Meets
        (store.resolve depth reducer acc) := by
  let law := Law.lookups store (store.Visits reducer) (store.Closed reducer ∧ store.Silent reducer)
  refine law.resolve ?_ ?_ depth () trivial
  · intro function reached place given _
    refine Contract.call ?_ ?_ ?_ ?_ (fun _ _ => trivial) trivial
    · exact List.forall_mem_singleton.mpr trivial
    · exact fun _ _ => List.forall_mem_singleton.mpr trivial
    · intro failure raises holds
      exact holds.2 function reached given failure raises
    · exact fun _ _ => id
  · intro reference reached place
    refine ⟨List.forall_mem_singleton.mpr reached.visits, ?_⟩
    intro missing holds
    obtain ⟨entity, found⟩ := holds.1 reference.id reached.visits
    rw [missing] at found
    cases found

/-- Every id that a resolution looks up is visited by the enumeration of references. So if whatever is
    visited is registered, and no function that can be reached raises look-up failures, then every
    look-up finds its entity, and no look-up failure is handed to an error hook, ends the resolution or
    is covered by a failure that does. -/
theorem lookups_are_visited (store : Store) (reducer : Reducer) (depth : Nat) (acc : Accumulator) :
    let run := store.resolve depth reducer acc
    (∀ id, .sought id ∈ run.events → store.Visits reducer id) ∧
      (store.Closed reducer → store.Silent reducer →
        (∀ id, .sought id ∈ run.events → ∃ entity, store.get? id = some entity) ∧
        (∀ id failure, .recovering id failure ∈ run.events → ¬ failure.HasLookup) ∧
        ∀ failure, run.ending = .failed failure → ¬ failure.HasLookup) := by
  intro run
  have meets := meets_lookups store reducer depth acc
  have visited : ∀ id, .sought id ∈ run.events → store.Visits reducer id :=
    fun id member => meets.trace _ member
  refine ⟨visited, fun closed silent => ⟨?_, ?_, ?_⟩⟩
  · exact fun id member => closed id (visited id member)
  · exact fun id failure member => meets.trace (.recovering id failure) member ⟨closed, silent⟩
  · exact fun failure failed => meets.failed failed ⟨closed, silent⟩

/-- In the sample, the failure that leaves `entry:outer` after two recoveries is no look-up failure. -/
theorem lookups_are_visited_sample :
    let run := Rescue.store.resolve 4 (.entity Rescue.outerReference) (.ofValue .null)
    run.ending = .failed (.resolution "entry:outer.value boom") ∧
      (∀ id failure, .recovering id failure ∈ run.events → ¬ failure.HasLookup) ∧
      ∀ failure, run.ending = .failed failure → ¬ failure.HasLookup := by
  have closed : Rescue.store.Closed (.entity Rescue.outerReference) := by
    intro id visits
    rcases visits with ⟨reference, member, rfl⟩ | ⟨key, entity, found, reference, member, rfl⟩
    · obtain rfl := List.mem_singleton.mp member
      exact ⟨Rescue.outer, rfl⟩
    · rcases Rescue.eq_of_get? found with ⟨-, rfl⟩ | ⟨-, rfl⟩
      · cases member
      · obtain rfl := List.mem_singleton.mp member
        exact ⟨Rescue.inner, rfl⟩
  have silent : Rescue.store.Silent (.entity Rescue.outerReference) := by
    intro function reached given failure raises
    rcases Rescue.function_of_reaches reached with ⟨message, same⟩ | ⟨value, same⟩
    · obtain rfl := Reducer.function.inj same
      cases raises
      exact id
    · obtain rfl := Reducer.function.inj same
      cases raises
  obtain ⟨-, clean⟩ := lookups_are_visited Rescue.store (.entity Rescue.outerReference) 4
    (.ofValue .null)
  exact ⟨rfl, (clean closed silent).2⟩

end Store

end Reshape
