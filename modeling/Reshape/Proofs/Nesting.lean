/-
Module: Reshape.Proofs.Nesting
Layer: Proofs
Purpose: Lists of reducers, taken apart and put together. A list is run like its first part and then, on what
  that left, the rest; so the lists inside a list make no difference, however deep they are nested.
Main exports: Reducer.leaves, Reducer.Splices, Run.InTurn, Store.EndsAlike, Store.resolve_append,
  Store.resolves_append_iff, Store.resolves_leaves, Store.lists_are_associative
-/
import Reshape.Proofs.Context
import Reshape.Proofs.Depth
import Reshape.Proofs.Stages

namespace Reshape

/-! ### Lists without lists in them -/

namespace Reducer

mutual

/-- The steps that are left of a reducer when the lists in it are opened: whatever it runs that is no list,
    in order. -/
def leaves : Reducer → List Reducer
  | .path target => [.path target]
  | .function f => [.function f]
  | .list steps => stepLeaves steps
  | .entity reference => [.entity reference]

/-- The leaves of each step. -/
def stepLeaves : List Reducer → List Reducer
  | [] => []
  | step :: rest => leaves step ++ stepLeaves rest

end

/-- `outer.Splices opened`: in the list `outer`, one list at some depth is replaced by its elements. -/
inductive Splices : Reducer → Reducer → Prop where
  | here (before inner after : List Reducer) :
      Splices (.list (before ++ .list inner :: after)) (.list (before ++ (inner ++ after)))
  | inside {before after : List Reducer} {step opened : Reducer} (deeper : Splices step opened) :
      Splices (.list (before ++ step :: after)) (.list (before ++ opened :: after))

theorem stepLeaves_append (first last : List Reducer) :
    stepLeaves (first ++ last) = stepLeaves first ++ stepLeaves last := by
  induction first with
  | nil => rfl
  | cons step rest ih => rw [List.cons_append, stepLeaves, stepLeaves, ih, List.append_assoc]

/-- Opening a list inside leaves the leaves as they are. -/
theorem Splices.leaves_eq {outer opened : Reducer} (splices : outer.Splices opened) :
    opened.leaves = outer.leaves := by
  induction splices with
  | here before inner after =>
      simp only [leaves, stepLeaves_append, stepLeaves]
  | inside _ ih =>
      simp only [leaves, stepLeaves_append, stepLeaves, ih]

mutual

/-- No leaf is a list. -/
theorem ne_list_of_mem_leaves {leaf : Reducer} :
    ∀ {reducer : Reducer}, leaf ∈ reducer.leaves → ∀ steps, leaf ≠ .list steps
  | .path _, member, _ => by
      obtain rfl := List.mem_singleton.mp member
      nofun
  | .function _, member, _ => by
      obtain rfl := List.mem_singleton.mp member
      nofun
  | .list steps, member, _ => ne_list_of_mem_stepLeaves (show leaf ∈ stepLeaves steps from member) _
  | .entity _, member, _ => by
      obtain rfl := List.mem_singleton.mp member
      nofun

/-- The same for the leaves of several reducers. -/
theorem ne_list_of_mem_stepLeaves {leaf : Reducer} :
    ∀ {reducers : List Reducer}, leaf ∈ stepLeaves reducers → ∀ steps, leaf ≠ .list steps
  | [], member, _ => absurd member List.not_mem_nil
  | _ :: _, member, _ => by
      rcases List.mem_append.mp member with inStep | inRest
      · exact ne_list_of_mem_leaves inStep _
      · exact ne_list_of_mem_stepLeaves inRest _

end

end Reducer

/-! ### Two stages in turn -/

/-- `Run.InTurn first second acc run`: the first stage comes to an end on `acc` and, unless it has failed,
    the second one on the accumulator that it left; `run` is both of them together. -/
inductive Run.InTurn (first second : Accumulator → Run Accumulator → Prop) :
    Accumulator → Run Accumulator → Prop where
  | both {acc middle : Accumulator} {run last : Run Accumulator} (begun : first acc run)
      (finished : run.ending = .finished middle) (rest : second middle last) :
      InTurn first second acc ⟨run.events ++ last.events, last.ending⟩
  | failed {acc : Accumulator} {run : Run Accumulator} {failure : Failure} (begun : first acc run)
      (fails : run.ending = .failed failure) : InTurn first second acc run

namespace Store

variable {store : Store} {xs ys steps : List Reducer} {reducer : Reducer} {acc : Accumulator}
  {run : Run Accumulator}

/-- Within every limit, a list is its first part and then the rest. -/
theorem resolve_append (depth : Nat) :
    store.resolve depth (.list (xs ++ ys)) acc =
      (store.resolve depth (.list xs) acc).bind (store.resolve depth (.list ys)) := by
  cases depth with
  | zero => rfl
  | succ depth =>
      show Resolver.sequence (store.resolve depth) (xs ++ ys) acc =
        (Resolver.sequence (store.resolve depth) xs acc).bind (Resolver.sequence (store.resolve depth) ys)
      simp only [Resolver.sequence_eq_inOrder, List.map_append, Run.inOrder_append]

theorem resolve_nil (depth : Nat) : store.resolve (depth + 1) (.list []) acc = Run.pure acc := rfl

theorem resolve_singleton (depth : Nat) :
    store.resolve (depth + 1) (.list [reducer]) acc = store.resolve depth reducer acc :=
  Run.bind_pure _

/-- Without a limit, a list comes to what its first part and then the rest come to. -/
theorem resolves_append_iff :
    store.Resolves (.list (xs ++ ys)) acc run ↔
      Run.InTurn (store.Resolves (.list xs)) (store.Resolves (.list ys)) acc run := by
  constructor
  · rintro ⟨ends, depth, rfl⟩
    rw [resolve_append] at ends ⊢
    by_cases finishes : ∃ middle, (store.resolve depth (.list xs) acc).ending = .finished middle
    · obtain ⟨middle, finished⟩ := finishes
      have begun : store.Resolves (.list xs) acc (store.resolve depth (.list xs) acc) :=
        ⟨by rw [finished]; nofun, depth, rfl⟩
      rw [Run.bind_of_finished finished] at ends ⊢
      exact .both begun finished ⟨ends, depth, rfl⟩
    · rw [Run.bind_eq_self (not_exists.mp finishes)] at ends ⊢
      cases ending : (store.resolve depth (.list xs) acc).ending with
      | finished middle => exact absurd ⟨middle, ending⟩ finishes
      | failed failure => exact .failed ⟨ends, depth, rfl⟩ ending
      | unfinished => exact absurd ending ends
  · rintro (⟨⟨ends, depth, rfl⟩, finished, ⟨ends', depth', rfl⟩⟩ | ⟨⟨ends, depth, rfl⟩, fails⟩)
    · -- Within the greater of both limits, both parts come to their ends.
      refine ⟨ends', max depth depth', ?_⟩
      rw [resolve_append, resolve_of_le ends (Nat.le_max_left depth depth'), Run.bind_of_finished finished,
        resolve_of_le ends' (Nat.le_max_right depth depth')]
    · refine ⟨ends, depth, ?_⟩
      rw [resolve_append, Run.bind_eq_self]
      rw [fails]
      nofun

theorem resolves_singleton_iff :
    store.Resolves (.list [reducer]) acc run ↔ store.Resolves reducer acc run := by
  constructor
  · rintro ⟨ends, _ | depth, rfl⟩
    · exact absurd rfl ends
    · exact ⟨ends, depth, (resolve_singleton depth).symm⟩
  · rintro ⟨ends, depth, rfl⟩
    exact ⟨ends, depth + 1, resolve_singleton depth⟩

/-- The same as an equation of relations, to rewrite parts of lists with. -/
theorem resolves_append (xs ys : List Reducer) :
    store.Resolves (.list (xs ++ ys)) =
      Run.InTurn (store.Resolves (.list xs)) (store.Resolves (.list ys)) :=
  funext fun _ => funext fun _ => propext resolves_append_iff

theorem resolves_singleton (reducer : Reducer) :
    store.Resolves (.list [reducer]) = store.Resolves reducer :=
  funext fun _ => funext fun _ => propext resolves_singleton_iff

/-! ### Nested lists -/

mutual

/-- A reducer comes to what the list of its leaves comes to. -/
theorem resolves_leaves : ∀ reducer : Reducer, store.Resolves (.list reducer.leaves) = store.Resolves reducer
  | .path _ => resolves_singleton _
  | .function _ => resolves_singleton _
  | .list steps => resolves_stepLeaves steps
  | .entity _ => resolves_singleton _

/-- The same for the steps of a list. -/
theorem resolves_stepLeaves :
    ∀ steps : List Reducer, store.Resolves (.list (Reducer.stepLeaves steps)) = store.Resolves (.list steps)
  | [] => rfl
  | step :: rest => by
      rw [Reducer.stepLeaves, resolves_append, resolves_leaves step, resolves_stepLeaves rest,
        ← resolves_singleton step, ← resolves_append, List.singleton_append]

end

/-- Opening a list inside a list does not change what the whole comes to. -/
theorem resolves_of_splices {outer opened : Reducer} (splices : outer.Splices opened) :
    store.Resolves outer = store.Resolves opened := by
  rw [← resolves_leaves outer, ← resolves_leaves opened, splices.leaves_eq]

/-- Both reducers come to the same end after the same events, or neither ever comes to an end. -/
def EndsAlike (store : Store) (left right : Reducer) (acc : Accumulator) : Prop :=
  (∃ run, store.Resolves left acc run ∧ store.Resolves right acc run) ∨
    ∀ depth, (store.resolve depth left acc).ending = .unfinished ∧
      (store.resolve depth right acc).ending = .unfinished

theorem unfinished_of_not_resolves (endless : ¬ ∃ run, store.Resolves reducer acc run) (depth : Nat) :
    (store.resolve depth reducer acc).ending = .unfinished := by
  by_contra ends
  exact endless ⟨_, ends, depth, rfl⟩

theorem endsAlike_of_eq {left right : Reducer} (same : store.Resolves left = store.Resolves right) :
    store.EndsAlike left right acc := by
  by_cases ends : ∃ run, store.Resolves left acc run
  · obtain ⟨run, resolves⟩ := ends
    exact .inl ⟨run, resolves, same ▸ resolves⟩
  · have ends' : ¬ ∃ run, store.Resolves right acc run := same ▸ ends
    exact .inr fun depth =>
      ⟨unfinished_of_not_resolves ends depth, unfinished_of_not_resolves ends' depth⟩

/-- Lists compose associatively. Resolving `xs ++ ys` is resolving `xs` and then, on the accumulator that it
    leaves, `ys`; if `xs` fails, so does the whole, in the same way. This holds within every limit on nesting,
    as an equation of runs with all their events, and for resolutions that come to an end at all. The empty
    list leaves the accumulator as it is. To replace a list anywhere inside a list by its elements, or all of
    them at once, makes no difference: either way the same accumulator or the same failure, after the same
    events, or no end. Reducers are any, so that what functions do to the context reaches the steps behind
    them whatever lists stand between. -/
theorem lists_are_associative (store : Store) (acc : Accumulator) :
    (∀ xs ys,
      (∀ depth, store.resolve depth (.list (xs ++ ys)) acc =
        (store.resolve depth (.list xs) acc).bind (store.resolve depth (.list ys))) ∧
      ∀ run, store.Resolves (.list (xs ++ ys)) acc run ↔
        Run.InTurn (store.Resolves (.list xs)) (store.Resolves (.list ys)) acc run) ∧
    (∀ run, store.Resolves (.list []) acc run ↔ run = Run.pure acc) ∧
    (∀ outer opened : Reducer, outer.Splices opened → store.EndsAlike outer opened acc) ∧
    ∀ steps, store.EndsAlike (.list steps) (.list (Reducer.stepLeaves steps)) acc ∧
      ∀ leaf ∈ Reducer.stepLeaves steps, ∀ inner, leaf ≠ .list inner := by
  refine ⟨fun xs ys => ⟨resolve_append, fun run => resolves_append_iff⟩, fun run => ?_,
    fun outer opened splices => endsAlike_of_eq (resolves_of_splices splices),
    fun steps => ⟨endsAlike_of_eq (resolves_stepLeaves steps).symm,
      fun leaf member => Reducer.ne_list_of_mem_stepLeaves member⟩⟩
  have empty : store.Resolves (.list []) acc (Run.pure acc) := ⟨nofun, 1, resolve_nil 0⟩
  constructor
  · exact fun resolves => resolves.unique empty
  · rintro rfl
    exact empty

end Store

/-! ### A sample -/

namespace Memory

/-- Keeps the value as a local. -/
def remembering : Reducer :=
  .function (.context fun acc => ⟨[], .ok (acc.withLocal "seen" acc.value)⟩)

/-- The local is set two lists deeper than it is read. -/
def nested : Reducer :=
  .list [.list [.list [remembering]], Renewal.locals]

/-- One list less. -/
def opened : Reducer :=
  .list [.list [remembering], Renewal.locals]

theorem splices : nested.Splices opened :=
  @Reducer.Splices.inside [] _ _ _ (.here [] [remembering] [])

end Memory

open Memory in
/-- In the sample, what the function keeps gets out of two lists as it gets out of one. -/
theorem Store.lists_are_associative_sample :
    let given := Accumulator.ofValue (.bool true)
    let next := (given.withLocal "seen" (.bool true)).withValue (.object [("seen", .bool true)])
    nested.Splices opened ∧ (Store.empty.resolve 4 nested given).ending = .finished next ∧
      ∃ run, Store.empty.Resolves opened given run ∧ run.ending = .finished next := by
  intro given next
  have finished : (Store.empty.resolve 4 nested given).ending = .finished next := rfl
  obtain ⟨-, -, opens, -⟩ := Store.lists_are_associative Store.empty given
  refine ⟨splices, finished, ?_⟩
  rcases opens nested opened splices with ⟨run, outside, inside⟩ | endless
  · have same : Store.empty.resolve 4 nested given = run :=
      Resolves.unique ⟨by rw [finished]; nofun, 4, rfl⟩ outside
    exact ⟨run, inside, same ▸ finished⟩
  · cases finished.symm.trans (endless 4).1

end Reshape
