/-
Module: Reshape.Proofs.Propagation
Layer: Proofs
Purpose: How a failure gets from the inside of a resolution to the caller. It comes through lists whose steps
  before have finished, out of the branch that decides a fan-out, and through the slots of entities without an
  error hook, each of which puts its mark in front of it.
Main exports: Store.Decides, Store.Surfaces, Store.Decides.failed, Store.Surfaces.failed
-/
import Reshape.Proofs.FanOut
import Reshape.Proofs.Recovery
import Reshape.Proofs.Traceback

namespace Reshape

/-- Where everything before a stage finishes, the failure of the stage is the failure of the row. -/
theorem Run.failed_of_stage {earlier later : List (Accumulator → Run Accumulator)}
    {stage : Accumulator → Run Accumulator} {start middle : Accumulator} {failure : Failure}
    (begun : (Run.inOrder earlier start).ending = .finished middle)
    (failed : (stage middle).ending = .failed failure) :
    (Run.inOrder (earlier ++ stage :: later) start).ending = .failed failure := by
  rw [Run.inOrder_append]
  exact Run.bind_failed_iff.mpr (.inr ⟨middle, begun, Run.bind_failed_iff.mpr (.inl failed)⟩)

namespace Store

/-- `store.Decides depth run branch`: the run fails if the branch does. It is the run of the branch alone, or
    one of several branches of which those before have finished and those behind come to an end. -/
inductive Decides (store : Store) (depth : Nat) : Run Accumulator → Branch → Prop where
  | alone (branch : Branch) : Decides store depth (store.alone depth branch) branch
  | sideBySide {acc : Accumulator} {fan : FanOut} {run : Run Accumulator} {earlier later : List Branch}
      {branch : Branch} (fans : store.FansOut depth acc fan run)
      (split : fan.branches = earlier ++ branch :: later)
      (finished : ∀ other ∈ earlier, ∃ last, (store.alone depth other).ending = .finished last)
      (ends : ∀ other ∈ later, (store.alone depth other).ending ≠ .unfinished) :
      Decides store depth run branch

/-- `store.Surfaces depth inner limit outer frames`: resolving `outer` within `limit` gets to `inner`, which is
    resolved within `depth`, and if that fails, nothing on the way out takes the failure up. The frames are the
    slots on the way, the outermost first. -/
inductive Surfaces (store : Store) (depth : Nat) (inner : Branch) : Nat → Branch → List Frame → Prop where
  | here : Surfaces store depth inner depth inner []
  /-- A step of a list, after all steps before it. -/
  | step {limit : Nat} {earlier later : List Reducer} {step : Reducer} {start middle : Accumulator}
      {frames : List Frame}
      (begun : (Resolver.sequence (store.resolve limit) earlier start).ending = .finished middle)
      (inside : Surfaces store depth inner limit (.reducer step middle) frames) :
      Surfaces store depth inner (limit + 1) (.reducer (.list (earlier ++ step :: later)) start) frames
  /-- The entity that a reference without the mark leads to. -/
  | reference {limit : Nat} {reference : Reference} {entity : Entity} {start : Accumulator}
      {frames : List Frame} (found : store.get? reference.id = some entity)
      (plain : reference.isCollection = false)
      (inside : Surfaces store depth inner limit (.entity reference entity start) frames) :
      Surfaces store depth inner limit (.reducer (.entity reference) start) frames
  /-- One of the items that a reference with the mark goes over. -/
  | item {limit : Nat} {reference : Reference} {start : Accumulator} {branch : Branch} {frames : List Frame}
      (decides : store.Decides limit (store.resolve limit (.entity reference) start) branch)
      (inside : Surfaces store depth inner limit branch frames) :
      Surfaces store depth inner limit (.reducer (.entity reference) start) frames
  /-- A slot of an entity without an error hook, after all its stages before that: the reducer in the slot, or
      a branch of the compose step. -/
  | slot {limit : Nat} {reference : Reference} {entity : Entity} {name : String}
      {start middle : Accumulator} {earlier later : List (Accumulator → Run Accumulator)}
      {stage : Accumulator → Run Accumulator} {run : Run Accumulator} {branch : Branch} {frames : List Frame}
      (vacant : entity.error = none)
      (stages : entity.stages store (store.resolve limit) = earlier ++ stage :: later)
      (begun : (Run.inOrder earlier (start.withReference (some reference))).ending = .finished middle)
      (marks : stage middle = run.annotate (entity.place name)) (decides : store.Decides limit run branch)
      (inside : Surfaces store depth inner limit branch frames) :
      Surfaces store depth inner (limit + 1) (.entity reference entity start) (⟨entity.id, name⟩ :: frames)

variable {store : Store} {depth limit : Nat} {inner outer branch : Branch} {frames : List Frame}
  {run : Run Accumulator} {failure : Failure}

theorem Decides.failed (decides : store.Decides depth run branch)
    (failed : (store.alone depth branch).ending = .failed failure) : run.ending = .failed failure := by
  cases decides with
  | alone => exact failed
  | @sideBySide acc fan _ earlier later _ fans split finished ends =>
      rw [fans.failed_iff, split]
      constructor
      · intro other member
        rcases List.mem_append.mp member with before | behind
        · obtain ⟨last, ending⟩ := finished other before
          rw [ending]
          nofun
        · rcases List.mem_cons.mp behind with rfl | after
          · rw [failed]
            nofun
          · exact ends other after
      · refine ⟨earlier.map (store.alone depth), store.alone depth branch, later.map (store.alone depth),
          ?_, ?_, failed⟩
        · rw [List.map_append, List.map_cons]
        · intro other member second
          obtain ⟨before, inEarlier, rfl⟩ := List.mem_map.mp member
          obtain ⟨last, ending⟩ := finished before inEarlier
          rw [ending]
          nofun

/-- A failure that surfaces is the same failure below the marks of the slots on its way. -/
theorem Surfaces.failed (surfaces : store.Surfaces depth inner limit outer frames)
    (failed : (store.alone depth inner).ending = .failed failure) :
    (store.alone limit outer).ending = .failed (failure.under frames) := by
  induction surfaces with
  | here => exact failed
  | @step limit earlier later step start middle frames begun _ ih =>
      show (Resolver.sequence (store.resolve limit) (earlier ++ step :: later) start).ending = _
      rw [Resolver.sequence_eq_inOrder] at begun ⊢
      rw [List.map_append, List.map_cons]
      exact Run.failed_of_stage begun ih
  | reference found plain _ ih => exact (alone_reference found plain).ending.trans ih
  | item decides _ ih => exact decides.failed ih
  | @slot limit reference entity name start middle earlier later stage run branch frames vacant stages
      begun marks decides _ ih =>
      have staged : (stage middle).ending = .failed ((failure.under frames).annotate (entity.place name)) := by
        rw [marks]
        exact Run.annotate_failed_iff.mpr ⟨_, decides.failed ih, rfl⟩
      refine Resolver.ending_of_failed_of_none vacant ?_
      rw [Resolver.lifecycle_eq_inOrder, stages]
      exact Run.failed_of_stage begun staged

end Store

end Reshape
