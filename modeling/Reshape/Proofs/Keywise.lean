/-
Module: Reshape.Proofs.Keywise
Layer: Proofs
Purpose: The compose steps of a hash, key by key: what each step makes of the entry under a key depends on
  that entry, on the operand of the step at that key, and on nothing else that the object holds.
Main exports: HashStep.Ascending, HashStep.effect, Store.Pipeline, Store.entries_of_hashStep,
  Store.pipeline_of_hashSteps, Builder.ascending_of_build, Store.pipeline_is_keywise
-/
import Reshape.Proofs.Built
import Reshape.Proofs.WorkingValue

namespace Reshape

/-! ### Steps, key by key -/

namespace HashStep

/-- The keys of the operand ascend, be they keys of reducers or of given values. -/
def Ascending : HashStep → Prop
  | .addValues values => Keyed.Ordered values
  | step => step.Ordered

/-- The entry that a step leaves under a key where there was `before`, given the value that each reducer comes
    to. Without an operand the step leaves every entry as it is. -/
def effect (step : HashStep) (outcome : Reducer → Value) (before : Option Value) (key : String) :
    Option Value :=
  if step.isEmpty then before
  else
    match step with
    | .mapKeys keys => (Keyed.get? keys key).map outcome
    | .addKeys keys => ((Keyed.get? keys key).map outcome).or before
    | .addValues values => (Keyed.get? values key).or before
    | .omitKeys keys => if key ∈ keys then none else before
    | .pickKeys keys => if key ∈ keys then before else none

variable {step : HashStep} {keys : Keyed Reducer}

theorem reducers_eq_nil (empty : step.isEmpty = true) : step.reducers = [] := by
  cases step with
  | mapKeys keys => rw [reducers, List.isEmpty_iff.mp empty, List.map_nil]
  | addKeys keys => rw [reducers, List.isEmpty_iff.mp empty, List.map_nil]
  | _ => rfl

/-- Away from a key, a step over keys does the same with another reducer under the key. -/
theorem effect_insert {make : Keyed Reducer → HashStep} (goes : make = .mapKeys ∨ make = .addKeys)
    {key other : String} {old new : Reducer} (present : Keyed.get? keys key = some old)
    (elsewhere : other ≠ key) (outcome : Reducer → Value) (before : Option Value) :
    (make (Keyed.insert keys key new)).effect outcome before other =
      (make keys).effect outcome before other := by
  have operand : List.isEmpty keys = false := by
    cases keys with
    | nil => cases present
    | cons entry rest => rfl
  have operand' : List.isEmpty (Keyed.insert keys key new) = false := by
    cases replaced : Keyed.insert keys key new with
    | nil =>
        have found := Keyed.get?_insert_self keys key new
        rw [replaced] at found
        cases found
    | cons entry rest => rfl
  have same : Keyed.get? (Keyed.insert keys key new) other = Keyed.get? keys other :=
    Keyed.get?_insert_of_ne keys new elsewhere.symm
  rcases goes with rfl | rfl
  · simp only [effect, isEmpty, operand, operand', same]
  · simp only [effect, isEmpty, operand, operand', same]

end HashStep

namespace Store

/-- `store.Pipeline depth steps acc last`: the steps lead from `acc` to `last`, one after the other. Each of
    them finds an object, finishes all its reducers on the accumulator as it was before the step, changes the
    entries under all keys as it is due, and changes nothing else. -/
inductive Pipeline (store : Store) (depth : Nat) : List HashStep → Accumulator → Accumulator → Prop where
  | done (acc : Accumulator) : Pipeline store depth [] acc acc
  | step {step : HashStep} {rest : List HashStep} {acc last : Accumulator} {before after : Keyed Value}
      (object : acc.value = .object before)
      (finishes : ∀ reducer ∈ step.reducers, store.Finishes depth acc reducer)
      (entries : ∀ key, Keyed.get? after key =
        step.effect (store.outcome depth acc) (Keyed.get? before key) key)
      (ordered : Keyed.Ordered before → Keyed.Ordered after)
      (others : Pipeline store depth rest (acc.withValue (.object after)) last) :
      Pipeline store depth (step :: rest) acc last

variable {store : Store} {depth : Nat} {acc next last : Accumulator} {before : Keyed Value}

theorem objectOf_eq (object : acc.value = .object before) : Resolver.objectOf acc = before := by
  rw [Resolver.objectOf, object]
  rfl

/-- A step that succeeds on an object changes its entries key by key. -/
theorem entries_of_hashStep {step : HashStep} (ascending : step.Ascending)
    (object : acc.value = .object before)
    (finished : (Resolver.hashStep (store.resolve depth) step acc).ending = .finished next) :
    (∀ reducer ∈ step.reducers, store.Finishes depth acc reducer) ∧
      ∃ after, next = acc.withValue (.object after) ∧
        (∀ key, Keyed.get? after key =
          step.effect (store.outcome depth acc) (Keyed.get? before key) key) ∧
        (Keyed.Ordered before → Keyed.Ordered after) := by
  unfold Resolver.hashStep at finished
  unfold HashStep.effect
  rw [objectOf_eq object] at finished
  split at finished
  · rename_i empty
    cases finished
    refine ⟨?_, before, ?_, fun key => (if_pos empty).symm, id⟩
    · rw [HashStep.reducers_eq_nil empty]
      exact List.forall_mem_nil _
    · rw [← object]
      rfl
  · rename_i operand
    cases step with
    | mapKeys keys =>
        obtain ⟨computed, values, written⟩ := Run.bind_finished_iff.mp finished
        cases written
        obtain ⟨finishes, rfl⟩ := overKeys_finished_iff.mp values
        refine ⟨finishes, _, rfl, fun key => ?_, fun _ => Keyed.Ordered.mapValues ascending _⟩
        rw [if_neg operand, Keyed.get?_mapValues]
    | addKeys keys =>
        obtain ⟨computed, values, written⟩ := Run.bind_finished_iff.mp finished
        cases written
        obtain ⟨finishes, rfl⟩ := overKeys_finished_iff.mp values
        refine ⟨finishes, _, rfl, fun key => ?_, fun ordered => ordered.merge _⟩
        rw [if_neg operand, Keyed.get?_merge (Keyed.Ordered.mapValues ascending _), Keyed.get?_mapValues]
    | addValues values =>
        cases finished
        refine ⟨List.forall_mem_nil _, _, rfl, fun key => ?_, fun ordered => ordered.merge _⟩
        rw [if_neg operand, Keyed.get?_merge ascending]
    | omitKeys keys =>
        cases finished
        refine ⟨List.forall_mem_nil _, _, rfl, fun key => ?_, fun ordered => ordered.without _⟩
        rw [if_neg operand, Keyed.get?_without]
    | pickKeys keys =>
        cases finished
        refine ⟨List.forall_mem_nil _, _, rfl, fun key => ?_, fun ordered => ordered.only _⟩
        rw [if_neg operand, Keyed.get?_only]

/-- One step after the other, a pipeline that succeeds on an object goes as it is due. -/
theorem pipeline_of_hashSteps {entity : Entity} {steps : List HashStep}
    (ascending : ∀ step ∈ steps, step.Ascending) (object : acc.value = .object before)
    (finished : (Resolver.hashSteps (store.resolve depth) entity steps acc).ending = .finished last) :
    store.Pipeline depth steps acc last := by
  induction steps generalizing acc before with
  | nil =>
      cases finished
      exact .done _
  | cons step rest ih =>
      obtain ⟨ascends, others⟩ := List.forall_mem_cons.mp ascending
      obtain ⟨middle, first, finished⟩ := Run.bind_finished_iff.mp finished
      obtain ⟨finishes, after, rfl, entries, ordered⟩ :=
        entries_of_hashStep ascends object (Run.annotate_finished_iff.mp first)
      exact .step object finishes entries ordered (ih others rfl finished)

/-- A step succeeds if all its reducers do. -/
theorem hashStep_finishes {step : HashStep}
    (finishes : ∀ reducer ∈ step.reducers, store.Finishes depth acc reducer) :
    ∃ next, (Resolver.hashStep (store.resolve depth) step acc).ending = .finished next := by
  unfold Resolver.hashStep
  split
  · exact ⟨acc, rfl⟩
  · cases step with
    | mapKeys keys =>
        have computed := overKeys_finished_iff.mpr ⟨finishes, rfl⟩
        exact ⟨_, Run.bind_finished_iff.mpr ⟨_, computed, rfl⟩⟩
    | addKeys keys =>
        have computed := overKeys_finished_iff.mpr ⟨finishes, rfl⟩
        exact ⟨_, Run.bind_finished_iff.mpr ⟨_, computed, rfl⟩⟩
    | addValues values => exact ⟨_, rfl⟩
    | omitKeys keys => exact ⟨_, rfl⟩
    | pickKeys keys => exact ⟨_, rfl⟩

/-- Another reducer under one key, if it succeeds, changes what the step leaves under that key only. -/
theorem replaced_key {make : Keyed Reducer → HashStep} (goes : make = .mapKeys ∨ make = .addKeys)
    {keys : Keyed Reducer} (ordered : Keyed.Ordered keys) {key : String} {old new : Reducer}
    (present : Keyed.get? keys key = some old) (object : acc.value = .object before)
    (finished : (Resolver.hashStep (store.resolve depth) (make keys) acc).ending = .finished next)
    (finishes : store.Finishes depth acc new) :
    ∃ next', (Resolver.hashStep (store.resolve depth) (make (Keyed.insert keys key new)) acc).ending =
        .finished next' ∧
      ∀ other, other ≠ key → next'.value.get? other = next.value.get? other := by
  have ascends {keys : Keyed Reducer} (ordered : Keyed.Ordered keys) : (make keys).Ascending := by
    rcases goes with rfl | rfl <;> exact ordered
  have reducers (keys : Keyed Reducer) : (make keys).reducers = keys.map Prod.snd := by
    rcases goes with rfl | rfl <;> rfl
  obtain ⟨finishAll, after, rfl, entries, -⟩ := entries_of_hashStep (ascends ordered) object finished
  have finishAll' : ∀ reducer ∈ (make (Keyed.insert keys key new)).reducers,
      store.Finishes depth acc reducer := by
    rw [reducers] at finishAll ⊢
    intro reducer member
    obtain ⟨entry, inserted, rfl⟩ := List.mem_map.mp member
    rcases Keyed.mem_insert inserted with rfl | kept
    · exact finishes
    · exact finishAll _ (List.mem_map_of_mem kept)
  obtain ⟨next', finished'⟩ := hashStep_finishes finishAll'
  obtain ⟨-, after', rfl, entries', -⟩ :=
    entries_of_hashStep (ascends (ordered.insert key new)) object finished'
  refine ⟨_, finished', fun other elsewhere => ?_⟩
  show Keyed.get? after' other = Keyed.get? after other
  rw [entries, entries', HashStep.effect_insert goes present elsewhere]

end Store

/-! ### Operands in built stores -/

/-- The keys that the step is written with ascend, be they keys of specifications or of given values. -/
def Modifier.Ascending : Modifier → Prop
  | .addValues values => Keyed.Ordered values
  | modifier => modifier.Ordered

theorem Entity.ascending_of_compileHashStep {id : String} {modifier : Modifier} {step : HashStep}
    (ascending : modifier.Ascending) (compiled : compileHashStep id modifier = .ok step) :
    step.Ascending := by
  cases modifier with
  | mapKeys keys =>
      obtain ⟨reducers, keysCompiled, rfl⟩ := ok_of_map compiled
      exact ordered_of_compileKeys ascending keysCompiled
  | addKeys keys =>
      obtain ⟨reducers, keysCompiled, rfl⟩ := ok_of_map compiled
      exact ordered_of_compileKeys ascending keysCompiled
  | addValues values =>
      cases compiled
      exact ascending
  | omitKeys keys =>
      cases compiled
      trivial
  | pickKeys keys =>
      cases compiled
      trivial
  | map spec => cases compiled
  | filter spec => cases compiled
  | find spec => cases compiled

/-- In a store built from definitions whose maps ascend, so do the operands of all compose steps. -/
theorem Builder.ascending_of_build {builder : Builder} {store : Store} (built : builder.build = .ok store)
    (ascending : ∀ registered ∈ builder.definitions, ∀ modifier ∈ registered.2.compose,
      modifier.Ascending)
    {id : String} {entity : Entity} (found : store.get? id = some entity) {compose : List HashStep}
    (body : entity.body = .hash compose) : ∀ step ∈ compose, step.Ascending := by
  intro step member
  obtain ⟨definition, registered, compiled⟩ := compiled_of_build built found
  obtain ⟨_, _, type, -, -, bodyCompiled, -⟩ := Entity.parts_of_compile compiled
  rw [body] at bodyCompiled
  obtain rfl : EntityType.hash = type := Entity.type_of_compileBody bodyCompiled
  obtain ⟨steps, compiledSteps, same⟩ := ok_of_bind bodyCompiled
  cases same
  obtain ⟨modifier, written, stepCompiled⟩ := source_of_mapM compiledSteps member
  exact Entity.ascending_of_compileHashStep (ascending _ registered modifier written) stepCompiled

namespace Store

/-- The compose steps of a hash work key by key. Where its value is an object and the steps succeed, they are
    taken in order, and each of them leaves under every key what is due there: without an operand the entry of
    before; for `mapKeys` what the reducer under the key comes to when it is resolved on the accumulator from
    before the step, and no entry where there is no reducer; for `addKeys` the same, and the entry of before
    where there is no reducer; for `addValues` the given value, and the entry of before where none is given;
    for `omitKeys` no entry under a listed key, and for `pickKeys` none under any other. Nothing but the
    entries changes. With another reducer under one key, as long as it succeeds, a step leaves the same under
    all other keys. In built stores operands ascend (`Builder.ascending_of_build`). -/
theorem pipeline_is_keywise (store : Store) (depth : Nat) (acc : Accumulator) :
    (∀ entity compose valued entries last, entity.body = .hash compose →
      (∀ step ∈ compose, step.Ascending) →
      (store.resolve depth entity.value acc).ending = .finished valued →
      valued.value = .object entries →
      (Resolver.body store (store.resolve depth) entity acc).ending = .finished last →
      store.Pipeline depth compose valued last) ∧
      ∀ make keys key old new before next, make = HashStep.mapKeys ∨ make = HashStep.addKeys →
        Keyed.Ordered keys → Keyed.get? keys key = some old → acc.value = .object before →
        (Resolver.hashStep (store.resolve depth) (make keys) acc).ending = .finished next →
        store.Finishes depth acc new →
        ∃ next', (Resolver.hashStep (store.resolve depth) (make (Keyed.insert keys key new)) acc).ending =
            .finished next' ∧
          ∀ other, other ≠ key → next'.value.get? other = next.value.get? other := by
  constructor
  · intro entity compose valued entries last body ascending finished object composed
    rw [Resolver.ending_of_hash body finished (Accumulator.hasObject_iff.mpr ⟨entries, object⟩)] at composed
    exact pipeline_of_hashSteps ascending object composed
  · intro make keys key old new before next goes ordered present object finished finishes
    exact replaced_key goes ordered present object finished finishes

end Store

/-! ### A sample -/

namespace Swap

/-- The path to the entry of a key. -/
def reading (key : String) : Reducer :=
  .path ⟨key, .value, [.key key], false⟩

/-- Under each of two keys, the entry of the other one. -/
def keys : Keyed Reducer :=
  [("a", reading "b"), ("b", reading "a")]

def compose : List HashStep :=
  [.mapKeys keys, .pickKeys [], .addValues [("c", .null)], .omitKeys ["a"]]

def entity : Entity :=
  ⟨"swap", .identity, none, none, none, false, .hash compose⟩

def given : Accumulator :=
  .ofValue (.object [("a", .bool true), ("b", .string "x")])

theorem ordered_keys : Keyed.Ordered keys :=
  List.pairwise_pair.mpr (by decide)

theorem ascending_compose : ∀ step ∈ compose, step.Ascending := by
  intro step member
  simp only [compose, List.mem_cons, List.not_mem_nil, or_false] at member
  rcases member with rfl | rfl | rfl | rfl
  · exact ordered_keys
  · trivial
  · exact List.pairwise_singleton _ _
  · trivial

end Swap

/-- In the sample two keys swap their values, since both see the object from before the step, and the step
    without an operand changes nothing. With a reducer that reads nothing under one key, the entry of the
    other one is the same. -/
theorem Store.pipeline_is_keywise_sample :
    let last := Swap.given.withValue (.object [("b", .bool true), ("c", .null)])
    let replaced := HashStep.mapKeys (Keyed.insert Swap.keys "a" (Swap.reading "z"))
    (∀ step ∈ Swap.compose, step.Ascending) ∧
      (Resolver.body empty (empty.resolve 1) Swap.entity Swap.given).ending = .finished last ∧
      empty.Pipeline 1 Swap.compose Swap.given last ∧
      ∃ next', (Resolver.hashStep (empty.resolve 1) replaced Swap.given).ending = .finished next' ∧
        next'.value.get? "b" = some (.bool true) := by
  intro last replaced
  have composed :
      (Resolver.body empty (empty.resolve 1) Swap.entity Swap.given).ending = .finished last := rfl
  obtain ⟨keywise, replaces⟩ := pipeline_is_keywise empty 1 Swap.given
  have pipeline := keywise Swap.entity Swap.compose Swap.given _ last rfl Swap.ascending_compose rfl rfl
    composed
  obtain ⟨next', finished, same⟩ := replaces .mapKeys Swap.keys "a" (Swap.reading "b") (Swap.reading "z")
    _ _ (.inl rfl) Swap.ordered_keys rfl rfl rfl ⟨_, rfl, rfl⟩
  exact ⟨Swap.ascending_compose, composed, pipeline, next', finished, same "b" (by decide)⟩

end Reshape
