/-
Module: Reshape.Proofs.Acyclic
Layer: Proofs
Purpose: Resolutions come to an end where the reference graph has no cycle. Along the entities that are
  being resolved no id occurs twice, so there are at most as many as the store has entities, and each
  adds no more nesting than the highest reducer of the store.
Main exports: Reducer.height, Store.Refers, Store.Acyclic, Store.nestingBound, Store.Trail,
  Store.ends_of_trail, Store.unfinished_of_self_reference, Store.resolves_of_acyclic
-/
import Mathlib.Logic.Relation
import Reshape.Proofs.Built
import Reshape.Proofs.Contract
import Reshape.Proofs.Depth

namespace Reshape

open Relation (ReflTransGen TransGen)

/-! ### Height -/

namespace Reducer

mutual

/-- How deep reducers are nested in a reducer, itself included. -/
def height : Reducer → Nat
  | .path _ => 1
  | .function _ => 1
  | .list steps => highest steps + 1
  | .entity _ => 1

/-- The greatest height there is in a list. -/
def highest : List Reducer → Nat
  | [] => 0
  | step :: rest => max (height step) (highest rest)

end

theorem height_le_highest {reducer : Reducer} {reducers : List Reducer}
    (member : reducer ∈ reducers) : reducer.height ≤ highest reducers := by
  induction reducers with
  | nil => cases member
  | cons step rest ih =>
      rw [highest]
      rcases List.mem_cons.mp member with rfl | member
      · exact Nat.le_max_left _ _
      · exact Nat.le_trans (ih member) (Nat.le_max_right _ _)

theorem height_pos (reducer : Reducer) : 0 < reducer.height := by
  cases reducer <;> simp [height]

end Reducer

namespace Store

/-- The greatest height of a reducer in an entity of the store. -/
def height (store : Store) : Nat :=
  Reducer.highest (store.entities.flatMap fun entry => entry.2.reducers)

theorem height_le {store : Store} {id : String} {entity : Entity} {reducer : Reducer}
    (found : store.get? id = some entity) (member : reducer ∈ entity.reducers) :
    reducer.height ≤ store.height :=
  Reducer.height_le_highest (List.mem_flatMap.mpr ⟨(id, entity), Keyed.mem_of_get? found, member⟩)

/-- How deep resolving the reducer can nest, if no entity is entered within itself. -/
def nestingBound (store : Store) (reducer : Reducer) : Nat :=
  reducer.height + store.size * store.height

/-! ### The graph of references -/

/-- The edges of the reference graph: the entity `id` refers to the entity `next`, and both are
    registered. -/
def Refers (store : Store) (id next : String) : Prop :=
  ∃ entity, store.get? id = some entity ∧ (store.get? next).isSome ∧
    ∃ reference ∈ entity.references, reference.id = next

/-- No cycle of the reference graph can be reached from the reducer. -/
def Acyclic (store : Store) (reducer : Reducer) : Prop :=
  ∀ reference ∈ reducer.references, ∀ id, ReflTransGen store.Refers reference.id id →
    ¬ TransGen store.Refers id id

variable {store : Store} {reducer : Reducer}

theorem Acyclic.step {steps : List Reducer} (acyclic : store.Acyclic (.list steps))
    (member : reducer ∈ steps) : store.Acyclic reducer :=
  fun reference refers => acyclic reference (Reducer.references_list_of_step member refers)

theorem Acyclic.slot {reference : Reference} {entity : Entity}
    (acyclic : store.Acyclic (.entity reference)) (found : store.get? reference.id = some entity)
    (member : reducer ∈ entity.reducers) : store.Acyclic reducer := by
  intro next refers id path cycle
  have fromHere := acyclic reference (List.mem_singleton.mpr rfl)
  cases registered : store.get? next.id with
  | some other =>
      have edge : store.Refers reference.id next.id := by
        refine ⟨entity, found, ?_, next, Entity.mem_references_of_reducer member refers, rfl⟩
        rw [registered]
        rfl
      exact fromHere id (.head edge path) cycle
  | none =>
      -- Nothing leads on from an id that is not registered, neither a path nor a cycle.
      have start : ∃ edge, store.Refers next.id edge := by
        rcases path.cases_head with rfl | ⟨edge, first, -⟩
        · obtain ⟨edge, first, -⟩ := TransGen.head'_iff.mp cycle
          exact ⟨edge, first⟩
        · exact ⟨edge, first⟩
      obtain ⟨_, _, found, -⟩ := start
      rw [registered] at found
      cases found

/-! ### Entities within entities -/

/-- The ids of entities that are being resolved, one within the other, around a reducer. -/
structure Trail (store : Store) (reducer : Reducer) (trail : List String) : Prop where
  registered : ∀ id ∈ trail, id ∈ store.ids
  distinct : trail.Nodup
  leads : ∀ id ∈ trail, ∀ reference ∈ reducer.references, (store.get? reference.id).isSome →
    TransGen store.Refers id reference.id

namespace Trail

variable {trail : List String}

theorem nil (store : Store) (reducer : Reducer) : store.Trail reducer [] where
  registered := nofun
  distinct := List.nodup_nil
  leads := nofun

theorem length_le (ahead : store.Trail reducer trail) : trail.length ≤ store.size := by
  have within := ahead.distinct.length_le_of_subset ahead.registered
  simpa [ids, size, Keyed.keys] using within

theorem step {steps : List Reducer} (ahead : store.Trail (.list steps) trail)
    (member : reducer ∈ steps) : store.Trail reducer trail where
  registered := ahead.registered
  distinct := ahead.distinct
  leads id onTrail reference refers :=
    ahead.leads id onTrail reference (Reducer.references_list_of_step member refers)

/-- Without a cycle, the entity that is entered next is a new one. -/
theorem slot {reference : Reference} {entity : Entity}
    (ahead : store.Trail (.entity reference) trail) (acyclic : store.Acyclic (.entity reference))
    (found : store.get? reference.id = some entity) (member : reducer ∈ entity.reducers) :
    store.Trail reducer (reference.id :: trail) := by
  have here : reference ∈ (Reducer.entity reference).references := List.mem_singleton.mpr rfl
  have isFound : (store.get? reference.id).isSome := by rw [found]; rfl
  constructor
  · intro id onTrail
    rcases List.mem_cons.mp onTrail with rfl | onTrail
    · exact List.mem_map_of_mem (Keyed.mem_of_get? found)
    · exact ahead.registered id onTrail
  · refine List.nodup_cons.mpr ⟨fun onTrail => ?_, ahead.distinct⟩
    have cycle := ahead.leads reference.id onTrail reference here isFound
    exact acyclic reference here reference.id .refl cycle
  · intro id onTrail next refers registered
    have edge : store.Refers reference.id next.id :=
      ⟨entity, found, registered, next, Entity.mem_references_of_reducer member refers, rfl⟩
    rcases List.mem_cons.mp onTrail with rfl | onTrail
    · exact .single edge
    · exact .tail (ahead.leads id onTrail reference here isFound) edge

end Trail

end Store

/-! ### Coming to an end -/

/-- The contract of runs that come to an end. -/
def Contract.ends : Contract :=
  .endings (fun _ => True) False

theorem Contract.ends_encloses (reference : Reference) (entity : Entity) :
    Contract.ends.Encloses Contract.ends (fun _ => Contract.ends) reference entity := by
  constructor
  case endless => exact id
  case hookEndless => exact fun _ => id
  all_goals intros; trivial

namespace Store

variable {store : Store} {reducer : Reducer}

/-- The entities that are left to enter, times the height of the store, are enough for what follows. -/
theorem ends_of_trail {trail : List String} {depth : Nat} (acyclic : store.Acyclic reducer)
    (ahead : store.Trail reducer trail)
    (enough : reducer.height + (store.size - trail.length) * store.height ≤ depth) :
    Contract.ends.Keeps (store.resolve depth) reducer := by
  induction depth generalizing reducer trail with
  | zero =>
      have := reducer.height_pos
      omega
  | succ depth ih =>
      intro acc start
      cases reducer with
      | path target => exact Contract.pure trivial
      | function function =>
          exact Contract.call trivial (fun _ _ => trivial) (fun _ => trivial) (fun _ => trivial)
            (fun _ _ => trivial) start
      | list steps =>
          apply Contract.sequence ?_ start
          intro step member
          refine ih (acyclic.step member) (ahead.step member) ?_
          have lower := Reducer.height_le_highest member
          rw [Reducer.height] at enough
          omega
      | entity reference =>
          refine Contract.reference trivial (fun _ => trivial) ?_ start
          intro entity found acc start
          have keeps : ∀ reducer ∈ entity.reducers,
              Contract.ends.Keeps (store.resolve depth) reducer := by
            intro reducer member
            have ahead' := ahead.slot acyclic found member
            refine ih (acyclic.slot found member) ahead' ?_
            have lower := height_le found member
            have room : trail.length + 1 ≤ store.size := ahead'.length_le
            have split : store.size - trail.length = store.size - (trail.length + 1) + 1 := by omega
            rw [Reducer.height, split, Nat.add_mul, Nat.one_mul] at enough
            rw [List.length_cons]
            omega
          refine Contract.enter (Contract.ends_encloses reference entity) ?_ ?_ start
          · constructor
            · intro name reducer member
              exact (keeps reducer (Entity.mem_reducers_of_slot member)).weaken rfl fun _ => trivial
            · exact fun _ => trivial
            · exact fun _ => trivial
          · intro events failure reducer present _
            exact keeps reducer (Entity.mem_reducers_of_error present)

/-- An entity whose value is the entity itself is never resolved. -/
theorem unfinished_of_self_reference {reference : Reference} {entity : Entity}
    (found : store.get? reference.id = some entity) (plain : reference.isCollection = false)
    (vacant : entity.before = none) (self : entity.value = .entity reference) (depth : Nat)
    (acc : Accumulator) : (store.resolve depth (.entity reference) acc).ending = .unfinished := by
  induction depth generalizing acc with
  | zero => rfl
  | succ depth ih =>
      have life (acc : Accumulator) :
          (Resolver.lifecycle store (store.resolve depth) entity acc).ending = .unfinished := by
        simp [Resolver.lifecycle, Resolver.hook, vacant, Resolver.body, Resolver.slot, self,
          Run.annotate, Run.bind, Run.pure, ih, Ending.annotate]
      simp [resolve, Resolver.reference, seek, found, plain, Run.event, Run.ofExcept, Run.bind,
        Run.pure, Resolver.enter_eq, life, Resolver.lived, Ending.map]

/-- Where no cycle of references can be reached from a reducer, it is resolved on every accumulator,
    and the nesting that this takes depends on the store and the reducer only. Other reducers need not
    be resolved at all. -/
theorem resolves_of_acyclic :
    (∀ (store : Store) (reducer : Reducer), store.Acyclic reducer → ∀ acc,
      ∃ run, store.Resolves reducer acc run ∧
        ∀ depth, store.nestingBound reducer ≤ depth → store.resolve depth reducer acc = run) ∧
      ∃ (store : Store) (reducer : Reducer), ∀ acc run, ¬ store.Resolves reducer acc run := by
  constructor
  · intro store reducer acyclic acc
    have keeps : Contract.ends.Keeps (store.resolve (store.nestingBound reducer)) reducer :=
      ends_of_trail acyclic (Trail.nil store reducer) (Nat.le_refl _)
    have ends : (store.resolve (store.nestingBound reducer) reducer acc).ending ≠ .unfinished :=
      fun stopped => (keeps trivial).unfinished stopped
    exact ⟨_, ⟨ends, _, rfl⟩, fun depth le => resolve_of_le ends le⟩
  · let reference : Reference := ⟨"entry", "self", false⟩
    let entity : Entity := ⟨"self", .entity reference, none, none, none, false, .entry⟩
    refine ⟨⟨[("entry:self", entity)], [], none⟩, .entity reference, ?_⟩
    intro acc run resolves
    obtain ⟨ends, depth, rfl⟩ := resolves
    exact ends (unfinished_of_self_reference rfl rfl rfl rfl depth acc)

/-- The sample, in which `entry:outer` refers to `entry:inner`, is resolved. -/
theorem resolves_of_acyclic_sample :
    Rescue.store.Acyclic (.entity Rescue.outerReference) ∧
      ∀ acc, ∃ run, Rescue.store.Resolves (.entity Rescue.outerReference) acc run ∧
        ∀ depth, 5 ≤ depth → Rescue.store.resolve depth (.entity Rescue.outerReference) acc = run := by
  have edges {id next : String} (edge : Rescue.store.Refers id next) :
      id = "entry:outer" ∧ next = "entry:inner" := by
    obtain ⟨entity, found, -, reference, refers, rfl⟩ := edge
    rcases Rescue.eq_of_get? found with ⟨-, rfl⟩ | ⟨rfl, rfl⟩
    · cases refers
    · obtain rfl := List.mem_singleton.mp refers
      exact ⟨rfl, rfl⟩
  have acyclic : Rescue.store.Acyclic (.entity Rescue.outerReference) := by
    intro reference _ id _ cycle
    obtain ⟨_, first, -⟩ := TransGen.head'_iff.mp cycle
    obtain ⟨_, -, last⟩ := TransGen.tail'_iff.mp cycle
    have isOuter := (edges first).1
    have isInner := (edges last).2
    rw [isOuter] at isInner
    exact absurd isInner (by decide)
  exact ⟨acyclic, resolves_of_acyclic.1 Rescue.store (.entity Rescue.outerReference) acyclic⟩

end Store

end Reshape
