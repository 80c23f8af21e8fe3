/-
Module: Reshape.Proofs.Locality
Layer: Proofs
Purpose: A resolution depends on the entities that it can come to and on no others: two stores that have
  the same of them resolve alike. So where no reference that a reducer leads to is one to an id, the entity
  of that id may be any other, and nothing changes.
Main exports: Store.Matches, Store.replace, Store.DiffersAt, Store.Avoids, Store.resolve_eq_of_matches,
  Store.resolve_eq_of_avoids, Store.lifecycle_eq_of_avoids
-/
import Reshape.Proofs.Depth

namespace Reshape

open Coupling (agreement agreement_refl agreement_encloses eq_of_agreement)

namespace Store

/-- The store with another entity under the id. -/
def replace (store : Store) (id : String) (entity : Entity) : Store :=
  { store with entities := Keyed.insert store.entities id entity }

/-- Both stores have the same validator, and the same entity, or none, behind every reference that
    resolving the reducer in the first one can come to. -/
structure Matches (store store' : Store) (reducer : Reducer) : Prop where
  entities : ∀ reference, store.Reaches reducer (.entity reference) →
    store.get? reference.id = store'.get? reference.id
  validator : store.validator = store'.validator

/-- Both stores have the same validator, and the same entities apart from the one of the id. -/
structure DiffersAt (store store' : Store) (id : String) : Prop where
  elsewhere : ∀ other, other ≠ id → store.get? other = store'.get? other
  validator : store.validator = store'.validator

theorem differsAt_replace (store : Store) (id : String) (entity : Entity) :
    store.DiffersAt (store.replace id entity) id where
  elsewhere := fun _ different => (Keyed.get?_insert_of_ne _ _ different.symm).symm
  validator := rfl

/-- No reference that resolving the reducer can come to leads to the id. -/
def Avoids (store : Store) (reducer : Reducer) (id : String) : Prop :=
  ∀ reference, store.Reaches reducer (.entity reference) → reference.id ≠ id

variable {store store' : Store} {id : String}

/-- A function leads nowhere. -/
theorem avoids_function (store : Store) (function : Function) (id : String) :
    store.Avoids (.function function) id := by
  intro reference reaches
  cases reaches

theorem avoids_list {steps : List Reducer} (avoids : ∀ step ∈ steps, store.Avoids step id) :
    store.Avoids (.list steps) id := by
  intro reference reaches
  cases reaches with
  | step member reaches => exact avoids _ member reference reaches

theorem DiffersAt.matches (differs : store.DiffersAt store' id) {reducer : Reducer}
    (avoids : store.Avoids reducer id) : store.Matches store' reducer where
  entities reference reaches := differs.elsewhere reference.id (avoids reference reaches)
  validator := differs.validator

theorem Matches.step {steps : List Reducer} (same : store.Matches store' (.list steps))
    {step : Reducer} (member : step ∈ steps) : store.Matches store' step where
  entities reference reaches := same.entities reference (.step member reaches)
  validator := same.validator

theorem Matches.slot {reference : Reference} (same : store.Matches store' (.entity reference))
    {entity : Entity} (found : store.get? reference.id = some entity) {reducer : Reducer}
    (member : reducer ∈ entity.reducers) : store.Matches store' reducer where
  entities other reaches := same.entities other (.slot found member reaches)
  validator := same.validator

/-- One level after the other, both stores resolve alike what they match for. -/
theorem keeps_of_matches (depth : Nat) {reducer : Reducer} (same : store.Matches store' reducer) :
    (agreement False).Keeps (store.resolve depth) (store'.resolve depth) reducer := by
  induction depth generalizing reducer with
  | zero =>
      intro acc _ _
      exact agreement_refl Run.stop
  | succ depth ih =>
      intro acc _ tied
      cases tied
      cases reducer with
      | path target => exact agreement_refl _
      | function function => exact agreement_refl _
      | list steps => exact Coupling.sequence (fun step member => ih (same.step member)) rfl
      | entity reference =>
          have sameEntity := same.entities reference (.here _)
          refine Coupling.reference rfl sameEntity (fun _ => rfl) ?_ rfl
          intro entity found l r tied
          have inside {reducer : Reducer} (member : reducer ∈ entity.reducers) :=
            ih (same.slot found member)
          exact Coupling.enter (agreement_encloses False reference entity)
            (.of_eq Iff.rfl (fun _ member => inside (Entity.mem_reducers_of_slot member))
              same.validator)
            (fun present _ => inside (Entity.mem_reducers_of_error present)) tied

/-- Where the stores match, a reducer is resolved alike, with the same events. -/
theorem resolve_eq_of_matches {reducer : Reducer} (same : store.Matches store' reducer) (depth : Nat)
    (acc : Accumulator) : store'.resolve depth reducer acc = store.resolve depth reducer acc :=
  eq_of_agreement (keeps_of_matches depth same rfl) False.elim

/-- What avoids the id is resolved alike, with the same events. -/
theorem resolve_eq_of_avoids (differs : store.DiffersAt store' id) {reducer : Reducer}
    (avoids : store.Avoids reducer id) (depth : Nat) (acc : Accumulator) :
    store'.resolve depth reducer acc = store.resolve depth reducer acc :=
  resolve_eq_of_matches (differs.matches avoids) depth acc

/-- If nothing in the guarded slots leads to the id, they run alike. -/
theorem lifecycle_eq_of_avoids (differs : store.DiffersAt store' id) {entity : Entity}
    (avoids : ∀ slot ∈ entity.slots, store.Avoids slot.2 id) (depth : Nat) (acc : Accumulator) :
    Resolver.lifecycle store' (store'.resolve depth) entity acc =
      Resolver.lifecycle store (store.resolve depth) entity acc := by
  have keeps : ∀ slot ∈ entity.slots,
      (agreement False).Keeps (store.resolve depth) (store'.resolve depth) slot.2 :=
    fun slot member => keeps_of_matches depth (differs.matches (avoids slot member))
  have parts := Coupling.Parts.of_eq Iff.rfl keeps differs.validator
  exact eq_of_agreement (Coupling.lifecycle parts rfl) False.elim

end Store

end Reshape
