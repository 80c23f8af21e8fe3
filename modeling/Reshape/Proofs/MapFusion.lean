/-
Module: Reshape.Proofs.MapFusion
Layer: Proofs
Purpose: Two `map` steps of a collection are one with the list of their reducers, if nothing in the
  collection leads back to it. The first way takes all items through the first reducer before any goes on;
  the second takes each item through both. What the first reducer leaves of the context is what it was
  given, so that it makes no difference to the second. The two ways may fail with different failures, and
  a collection that leads back to itself can recover from its own.
Main exports: Store.eq_withValue_of_finished, Store.overItems_list_finished_iff,
  Resolver.lifecycle_finished_iff, Entity.composing, Store.Fuses, Store.maps_fuse, Store.maps_differ_led_back
-/
import Reshape.Proofs.AttachedFailure
import Reshape.Proofs.Elementwise

namespace Reshape

/-! ### Items -/

namespace Store

variable {store : Store} {depth : Nat} {reducer : Reducer} {acc next : Accumulator}

/-- Without a failure attached, a reducer behind which no function answers with accumulators changes nothing
    but the value. -/
theorem eq_withValue_of_finished (plain : ∀ body, ¬ store.Reaches reducer (.function (.context body)))
    (clear : acc.failure = none) (finished : (store.resolve depth reducer acc).ending = .finished next) :
    next = acc.withValue next.value := by
  have start : acc.SharesContext acc ∧ acc.reference = referenceIn acc.reference [] :=
    ⟨⟨rfl, rfl, rfl⟩, rfl⟩
  obtain ⟨shares, reference⟩ := (hands_over (context_invariant acc) plain start depth).finished finished
  have failure : next.failure = acc.failure := by
    rw [failure_of_finished (attachesNone_of_plain plain) clear finished, clear]
  exact shares.eq_withValue reference failure

variable {items results : List Value} {f g : Reducer}

theorem overItems_finished_iff_forall₂ :
    (Resolver.overItems (store.resolve depth reducer) acc items).ending = .finished results ↔
      List.Forall₂ (fun item result => ∃ last,
        (store.resolve depth reducer (acc.withValue item)).ending = .finished last ∧ last.value = result)
        items results := by
  rw [Resolver.overItems, Run.fanOut_finished_iff, List.forall₂_map_left_iff]
  simp only [Run.map_finished_iff]

theorem overItems_of_le {deeper : Nat} (le : depth ≤ deeper)
    (finished : (Resolver.overItems (store.resolve depth reducer) acc items).ending = .finished results) :
    (Resolver.overItems (store.resolve deeper reducer) acc items).ending = .finished results := by
  rw [overItems_finished_iff_forall₂] at finished ⊢
  refine finished.imp fun item result => ?_
  rintro ⟨last, ends, rfl⟩
  exact ⟨last, resolve_finished_of_le le ends, rfl⟩

theorem resolve_pair_finished_iff {last : Accumulator} :
    (store.resolve (depth + 1) (.list [f, g]) acc).ending = .finished last ↔
      ∃ middle, (store.resolve depth f acc).ending = .finished middle ∧
        (store.resolve depth g middle).ending = .finished last := by
  show ((store.resolve depth f acc).bind fun middle =>
    (store.resolve depth g middle).bind Run.pure).ending = .finished last ↔ _
  rw [Run.bind_finished_iff]
  simp only [Run.bind_pure]

/-- What both reducers make of an item: the second one goes on from the value that the first one has left, if
    the first changes nothing else. -/
theorem pair_value_iff (plain : ∀ body, ¬ store.Reaches f (.function (.context body)))
    (clear : acc.failure = none) (item result : Value) :
    (∃ last, (store.resolve (depth + 1) (.list [f, g]) (acc.withValue item)).ending = .finished last ∧
        last.value = result) ↔
      ∃ middle, (∃ last, (store.resolve depth f (acc.withValue item)).ending = .finished last ∧
          last.value = middle) ∧
        ∃ last, (store.resolve depth g (acc.withValue middle)).ending = .finished last ∧
          last.value = result := by
  have clear' : (acc.withValue item).failure = none := clear
  have kept {middle : Accumulator}
      (first : (store.resolve depth f (acc.withValue item)).ending = .finished middle) :
      acc.withValue middle.value = middle := (eq_withValue_of_finished plain clear' first).symm
  simp only [resolve_pair_finished_iff]
  constructor
  · rintro ⟨last, ⟨middle, first, second⟩, rfl⟩
    exact ⟨middle.value, ⟨middle, first, rfl⟩, last, by rw [kept first, second], rfl⟩
  · rintro ⟨_, ⟨middle, first, rfl⟩, last, second, rfl⟩
    rw [kept first] at second
    exact ⟨last, ⟨middle, first, second⟩, rfl⟩

/-- To take each item through both reducers is to take all items through the first and then through the
    second. -/
theorem overItems_list_finished_iff (plain : ∀ body, ¬ store.Reaches f (.function (.context body)))
    (clear : acc.failure = none) :
    (Resolver.overItems (store.resolve (depth + 1) (.list [f, g])) acc items).ending = .finished results ↔
      ∃ middles, (Resolver.overItems (store.resolve depth f) acc items).ending = .finished middles ∧
        (Resolver.overItems (store.resolve depth g) acc middles).ending = .finished results := by
  simp only [overItems_finished_iff_forall₂, ← forall₂_comp_iff, pair_value_iff plain clear]

/-! ### Steps -/

variable {entity entity' : Entity} {last : Accumulator}

/-- A row of steps that starts with `map`, skipped or not. -/
theorem map_step_finished_iff {rest : List CollectionStep} (array : acc.value = .array items) :
    (Resolver.collectionSteps (store.resolve (depth + 1)) entity (.map reducer :: rest) acc).ending =
        .finished last ↔
      ∃ results,
        (Resolver.overItems (store.resolve (depth + 1) reducer) acc items).ending = .finished results ∧
          (Resolver.collectionSteps (store.resolve (depth + 1)) entity rest
            (acc.withValue (.array results))).ending = .finished last := by
  show (Run.bind _ (Resolver.collectionSteps (store.resolve (depth + 1)) entity rest)).ending = _ ↔ _
  rw [Run.bind_finished_iff]
  simp only [Run.annotate_finished_iff, ending_of_map array, Run.map_finished_iff]
  constructor
  · rintro ⟨_, ⟨results, ends, rfl⟩, restEnds⟩
    exact ⟨results, ends, restEnds⟩
  · rintro ⟨results, ends, restEnds⟩
    exact ⟨_, ⟨results, ends, rfl⟩, restEnds⟩

theorem single_map_finished_iff (array : acc.value = .array items) :
    (Resolver.collectionSteps (store.resolve (depth + 1)) entity [.map reducer] acc).ending =
        .finished last ↔
      ∃ results,
        (Resolver.overItems (store.resolve (depth + 1) reducer) acc items).ending = .finished results ∧
          acc.withValue (.array results) = last := by
  rw [map_step_finished_iff array]
  refine exists_congr fun results => and_congr_right fun _ => ?_
  show Ending.finished _ = Ending.finished last ↔ _
  rw [Ending.finished.injEq]

/-- Two steps within one limit are the step with the list within the next. -/
theorem maps_finished_iff (plain : ∀ body, ¬ store.Reaches f (.function (.context body)))
    (clear : acc.failure = none) (array : acc.value = .array items) :
    (Resolver.collectionSteps (store.resolve (depth + 1)) entity [.map f, .map g] acc).ending =
        .finished last ↔
      (Resolver.collectionSteps (store.resolve (depth + 2)) entity' [.map (.list [f, g])] acc).ending =
        .finished last := by
  have again (middles : List Value) : (acc.withValue (.array middles)).value = .array middles := rfl
  rw [map_step_finished_iff array, single_map_finished_iff array]
  simp only [single_map_finished_iff (again _), overItems_list_finished_iff plain clear]
  constructor
  · rintro ⟨middles, first, results, second, rfl⟩
    exact ⟨results, ⟨middles, first, second⟩, rfl⟩
  · rintro ⟨results, ⟨middles, first, second⟩, rfl⟩
    exact ⟨middles, first, results, second, rfl⟩

/-- The step with the list within some limit is the two steps within the same. -/
theorem maps_of_fused (plain : ∀ body, ¬ store.Reaches f (.function (.context body)))
    (clear : acc.failure = none) (array : acc.value = .array items)
    (finished : (Resolver.collectionSteps (store.resolve (depth + 1)) entity'
      [.map (.list [f, g])] acc).ending = .finished last) :
    (Resolver.collectionSteps (store.resolve (depth + 1)) entity [.map f, .map g] acc).ending =
      .finished last := by
  obtain ⟨results, ends, written⟩ := (single_map_finished_iff array).mp finished
  have deeper : (Resolver.collectionSteps (store.resolve (depth + 2)) entity' [.map (.list [f, g])]
      acc).ending = .finished last :=
    (single_map_finished_iff array).mpr ⟨results, overItems_of_le (Nat.le_succ _) ends, written⟩
  exact (maps_finished_iff plain clear array).mpr deeper

end Store

/-! ### Entities -/

namespace Resolver

variable {store : Store} {resolve : Resolver} {entity : Entity} {acc last : Accumulator}
  {steps : List CollectionStep}

theorem body_finished_iff (kind : entity.body = .collection steps) :
    (body store resolve entity acc).ending = .finished last ↔
      ∃ valued, (resolve entity.value acc).ending = .finished valued ∧ valued.HasArray ∧
        (collectionSteps resolve entity steps valued).ending = .finished last := by
  constructor
  · intro finished
    obtain ⟨valued, value, -⟩ := finished_of_body finished
    by_cases array : valued.HasArray
    · rw [ending_of_collection kind value array] at finished
      exact ⟨valued, value, array, finished⟩
    · rw [ending_of_body value, Entity.checks, kind] at finished
      obtain ⟨checked, check, -⟩ := Run.bind_finished_iff.mp finished
      rw [requireArray_of_other array] at check
      cases check
  · rintro ⟨valued, value, array, finished⟩
    rwa [ending_of_collection kind value array]

/-- What a success of a collection consists of. -/
theorem lifecycle_finished_iff (kind : entity.body = .collection steps) :
    (lifecycle store resolve entity acc).ending = .finished last ↔
      ∃ begun valued composed,
        (hook resolve entity "before" entity.before acc).ending = .finished begun ∧
          (resolve entity.value begun).ending = .finished valued ∧ valued.HasArray ∧
          (collectionSteps resolve entity steps valued).ending = .finished composed ∧
          (hook resolve entity "after" entity.after composed).ending = .finished last := by
  constructor
  · intro finished
    obtain ⟨begun, composed, before, bodied, after⟩ := finished_of_lifecycle finished
    obtain ⟨valued, value, array, stepped⟩ := (body_finished_iff kind).mp bodied
    exact ⟨begun, valued, composed, before, value, array, stepped, after⟩
  · rintro ⟨begun, valued, composed, before, value, array, stepped, after⟩
    have bodied : (body store resolve entity begun).ending = .finished composed :=
      (body_finished_iff kind).mpr ⟨valued, value, array, stepped⟩
    have rest := Run.bind_finished_iff.mpr ⟨composed, bodied, after⟩
    exact Run.bind_finished_iff.mpr ⟨begun, before, rest⟩

end Resolver

namespace Entity

/-- The entity as a collection with these compose steps. -/
def composing (entity : Entity) (steps : List CollectionStep) : Entity :=
  { entity with body := .collection steps }

/-- The entity as a collection with one `map` step for each of the two reducers. -/
def apart (entity : Entity) (f g : Reducer) : Entity :=
  entity.composing [.map f, .map g]

/-- The entity as a collection with one `map` step for the list of the two reducers. -/
def fused (entity : Entity) (f g : Reducer) : Entity :=
  entity.composing [.map (.list [f, g])]

end Entity

namespace Store

variable {store : Store} {depth : Nat} {f g : Reducer} {entity entity' : Entity} {acc last : Accumulator}

/-- A hook that finishes does so inside every entity and within every greater limit. -/
theorem hook_finished_of_le {deeper : Nat} {name : String} {hook : Option Reducer} (le : depth ≤ deeper)
    (finished : (Resolver.hook (store.resolve depth) entity name hook acc).ending = .finished last) :
    (Resolver.hook (store.resolve deeper) entity' name hook acc).ending = .finished last := by
  rcases Resolver.finished_of_hook finished with ⟨rfl, rfl⟩ | ⟨present, rfl, resolved⟩
  · rfl
  · exact Run.annotate_finished_iff.mpr (resolve_finished_of_le le resolved)

/-- The compose steps start without a failure attached. -/
theorem failure_of_valued {begun valued : Accumulator}
    (attachesNone : ∀ reducer ∈ entity.value :: entity.before.toList, store.AttachesNone reducer)
    (clear : acc.failure = none)
    (before : (Resolver.hook (store.resolve depth) entity' "before" entity.before acc).ending =
      .finished begun)
    (value : (store.resolve depth entity.value begun).ending = .finished valued) :
    valued.failure = none := by
  refine failure_of_finished (attachesNone _ List.mem_cons_self) ?_ value
  rcases Resolver.finished_of_hook before with ⟨-, rfl⟩ | ⟨present, same, resolved⟩
  · exact clear
  · exact failure_of_finished (attachesNone present (by simp [same])) clear resolved

variable (plain : ∀ body, ¬ store.Reaches f (.function (.context body)))
  (attachesNone : ∀ reducer ∈ entity.value :: entity.before.toList, store.AttachesNone reducer)
  (clear : acc.failure = none)

include plain attachesNone clear

/-- What two steps come to within some limit, the one step comes to within the next. -/
theorem fused_of_apart
    (finished : (Resolver.lifecycle store (store.resolve depth) (entity.apart f g) acc).ending =
      .finished last) :
    (Resolver.lifecycle store (store.resolve (depth + 1)) (entity.fused f g) acc).ending =
      .finished last := by
  have le : depth ≤ depth + 1 := Nat.le_succ depth
  obtain ⟨begun, valued, composed, before, value, ⟨items, array⟩, stepped, after⟩ :=
    (Resolver.lifecycle_finished_iff rfl).mp finished
  cases depth with
  | zero => cases value
  | succ depth =>
      have clear' := failure_of_valued attachesNone clear before value
      refine (Resolver.lifecycle_finished_iff rfl).mpr ⟨begun, valued, composed,
        hook_finished_of_le le before, resolve_finished_of_le le value, ⟨items, array⟩, ?_,
        hook_finished_of_le le after⟩
      exact (maps_finished_iff plain clear' array).mp stepped

/-- What the one step comes to within some limit, the two steps come to within the same. -/
theorem apart_of_fused
    (finished : (Resolver.lifecycle store (store.resolve depth) (entity.fused f g) acc).ending =
      .finished last) :
    (Resolver.lifecycle store (store.resolve depth) (entity.apart f g) acc).ending = .finished last := by
  obtain ⟨begun, valued, composed, before, value, ⟨items, array⟩, stepped, after⟩ :=
    (Resolver.lifecycle_finished_iff rfl).mp finished
  cases depth with
  | zero => cases value
  | succ depth =>
      have clear' := failure_of_valued attachesNone clear before value
      exact (Resolver.lifecycle_finished_iff rfl).mpr ⟨begun, valued, composed, before, value,
        ⟨items, array⟩, maps_of_fused plain clear' array stepped, after⟩

end Store

/-! ### Registered entities -/

namespace Store

variable {store store' : Store} {f g : Reducer} {entity : Entity} {reference : Reference} {id : String}
  {acc next : Accumulator}

/-- `store.Fuses store' entity f g`: both stores are the same, but for one collection, which has a `map` step
    for each of the two reducers in the first store and one for the list of them in the second. -/
structure Fuses (store store' : Store) (entity : Entity) (f g : Reducer) : Prop where
  apart : store.get? (entity.apart f g).id = some (entity.apart f g)
  fused : store'.get? (entity.apart f g).id = some (entity.fused f g)
  elsewhere : store.DiffersAt store' (entity.apart f g).id

/-- Where the two reducers do not lead to an id, nor does the list of them. -/
theorem avoids_fused (avoids : ∀ slot ∈ (entity.apart f g).slots, store.Avoids slot.2 id) :
    ∀ slot ∈ (entity.fused f g).slots, store.Avoids slot.2 id := by
  have steps (reducer : Reducer) (member : reducer ∈ [f, g]) : store.Avoids reducer id := by
    have step : CollectionStep.map reducer ∈ [CollectionStep.map f, .map g] := by simpa using member
    exact avoids _ (Entity.mem_slots_collection rfl step)
  intro slot member
  by_cases same : slot = ("map", .list [f, g])
  · rw [same]
    exact avoids_list steps
  · refine avoids slot ?_
    simp only [Entity.slots, Entity.apart, Entity.fused, Entity.composing, Body.slots, List.map_cons,
      List.mem_append, List.mem_cons] at member ⊢
    rcases member with before | value | (step | nothing) | after
    · exact .inl before
    · exact .inr (.inl value)
    · exact absurd step same
    · cases nothing
    · exact .inr (.inr (.inr after))

/-- A reference to one registered entity without an error hook finishes within some limit if what the entity
    guards does. -/
theorem entity_finished_iff (found : store.get? reference.id = some entity)
    (single : reference.isCollection = false) (vacant : entity.error = none) :
    (∃ depth, (store.resolve depth (.entity reference) acc).ending = .finished next) ↔
      ∃ depth last, (Resolver.lifecycle store (store.resolve depth) entity
          (acc.withReference (some reference))).ending = .finished last ∧
        last.withReference acc.reference = next := by
  simp only [← Resolver.enter_finished_iff_of_none vacant]
  constructor
  · rintro ⟨_ | depth, finished⟩
    · cases finished
    · exact ⟨depth, (alike_entity found single).ending ▸ finished⟩
  · rintro ⟨depth, finished⟩
    exact ⟨depth + 1, (alike_entity found single).ending.trans finished⟩

/-- Two `map` steps are one with the list of their reducers, if the first of them leads to no function that
    answers with accumulators, if no failure is attached and if nothing in the entity leads back to it. What
    the entity guards finishes with the same accumulator in both stores, where the one step takes up to one
    more level of nesting; an empty reducer is skipped on its own and runs as a step of the list. Without an
    error hook, references to the entity come to the same. The two may fail with different failures, which an
    error hook could tell apart. Functions cannot attach failures, and it is supposed that those behind `before`
    and the value do not. -/
theorem maps_fuse {store store' : Store} {entity : Entity} {f g : Reducer}
    (fuses : store.Fuses store' entity f g)
    (avoids : ∀ slot ∈ (entity.apart f g).slots, store.Avoids slot.2 (entity.apart f g).id)
    (plain : ∀ body, ¬ store.Reaches f (.function (.context body)))
    (attachesNone : ∀ reducer ∈ entity.value :: entity.before.toList, store.AttachesNone reducer)
    {acc : Accumulator} (clear : acc.failure = none) :
    let apart (depth : Nat) := (Resolver.lifecycle store (store.resolve depth) (entity.apart f g) acc).ending
    let fused (depth : Nat) :=
      (Resolver.lifecycle store' (store'.resolve depth) (entity.fused f g) acc).ending
    (∀ depth last, (apart depth = .finished last → fused (depth + 1) = .finished last) ∧
      (fused depth = .finished last → apart depth = .finished last)) ∧
    (entity.error = none → ∀ reference next, reference.id = (entity.apart f g).id →
      reference.isCollection = false →
      ((∃ depth, (store.resolve depth (.entity reference) acc).ending = .finished next) ↔
        ∃ depth, (store'.resolve depth (.entity reference) acc).ending = .finished next)) := by
  intro apart fused
  have alike (depth : Nat) (given : Accumulator) :
      Resolver.lifecycle store' (store'.resolve depth) (entity.fused f g) given =
        Resolver.lifecycle store (store.resolve depth) (entity.fused f g) given :=
    lifecycle_eq_of_avoids fuses.elsewhere (avoids_fused avoids) depth given
  constructor
  · intro depth last
    simp only [fused, alike]
    exact ⟨fused_of_apart plain attachesNone clear, apart_of_fused plain attachesNone clear⟩
  · intro vacant reference next same single
    have foundApart : store.get? reference.id = some (entity.apart f g) := same ▸ fuses.apart
    have foundFused : store'.get? reference.id = some (entity.fused f g) := same ▸ fuses.fused
    have inside : (acc.withReference (some reference)).failure = none := clear
    rw [entity_finished_iff foundApart single vacant, entity_finished_iff foundFused single vacant]
    simp only [alike]
    constructor
    · rintro ⟨depth, last, finished, left⟩
      exact ⟨depth + 1, last, fused_of_apart plain attachesNone inside finished, left⟩
    · rintro ⟨depth, last, finished, left⟩
      exact ⟨depth, last, apart_of_fused plain attachesNone inside finished, left⟩

end Store

/-! ### A sample -/

namespace Relay

/-- Goes to `entry:inner`, which fails and recovers. -/
def first : Reducer :=
  .entity Rescue.innerReference

/-- Drops the accumulator for a new one. -/
def second : Reducer :=
  Renewal.renewing

/-- A collection that keeps its value, before it gets its steps. -/
def entity : Entity :=
  ⟨"all", .identity, none, none, none, false, .collection []⟩

def reference : Reference :=
  ⟨"collection", "all", false⟩

def store : Store :=
  Rescue.store.replace "collection:all" (entity.apart first second)

/-- `entry:inner` has two functions and leads nowhere else. -/
theorem eq_of_reaches {reducer : Reducer} (reaches : store.Reaches first reducer) :
    reducer = first ∨ reducer = Rescue.failing "inside" ∨
      reducer = Rescue.answering (.string "spare") := by
  cases reaches with
  | here => exact .inl rfl
  | slot found member reaches =>
      obtain rfl := Option.some.inj (found.symm.trans (rfl : _ = some Rescue.inner))
      obtain rfl | rfl : _ = Rescue.failing "inside" ∨ _ = Rescue.answering (.string "spare") := by
        simpa [Entity.reducers, Rescue.inner, Body.reducers] using member
      · cases reaches
        exact .inr (.inl rfl)
      · cases reaches
        exact .inr (.inr rfl)

theorem avoids_first : store.Avoids first "collection:all" := by
  intro reference reaches
  rcases eq_of_reaches reaches with same | same | same
  · cases same
    decide
  · cases same
  · cases same

end Relay

open Relay in
/-- In the sample, the items of an array come to the same with two steps and with one. -/
theorem Store.maps_fuse_sample :
    let given := Accumulator.ofValue (.array [.null, .bool true])
    let next := Accumulator.ofValue (.array [.string "new", .string "new"])
    let store' := store.replace "collection:all" (entity.fused first second)
    (Resolver.lifecycle store (store.resolve 3) (entity.apart first second) given).ending =
        .finished next ∧
      (Resolver.lifecycle store' (store'.resolve 4) (entity.fused first second) given).ending =
        .finished next ∧
      (store.resolve 4 (.entity reference) given).ending = .finished next ∧
      ∃ depth, (store'.resolve depth (.entity reference) given).ending = .finished next := by
  intro given next store'
  have plain : ∀ body, ¬ store.Reaches first (.function (.context body)) := by
    intro body reaches
    rcases eq_of_reaches reaches with same | same | same <;> cases same
  have attachesNone : ∀ reducer ∈ entity.value :: entity.before.toList, store.AttachesNone reducer := by
    intro reducer member function reaches
    obtain rfl : reducer = .identity := by simpa [entity] using member
    cases reaches
  have avoids : ∀ slot ∈ (entity.apart first second).slots, store.Avoids slot.2 "collection:all" := by
    intro slot member
    obtain rfl | rfl | rfl : slot = ("value", .identity) ∨ slot = ("map", first) ∨
        slot = ("map", second) := by
      simpa [Entity.slots, Entity.apart, Entity.composing, entity, Body.slots, CollectionStep.name,
        CollectionStep.reducer] using member
    · intro reference reaches
      cases reaches
    · exact avoids_first
    · exact avoids_function _ _ _
  have guarded : (Resolver.lifecycle store (store.resolve 3) (entity.apart first second) given).ending =
      .finished next := rfl
  have resolved : (store.resolve 4 (.entity reference) given).ending = .finished next := rfl
  have clear : given.failure = none := rfl
  have fuses : store.Fuses store' entity first second := ⟨rfl, rfl, differsAt_replace _ _ _⟩
  obtain ⟨inside, references⟩ := maps_fuse fuses avoids plain attachesNone clear
  exact ⟨guarded, (inside 3 next).1 guarded, resolved,
    (references rfl reference next rfl rfl).mp ⟨4, resolved⟩⟩

/-! ### An entity that leads back to itself -/

namespace Detour

/-- A function that keeps values of one type and fails on all others. -/
def requiring (type : String) : Reducer :=
  .function (.sync fun acc => ⟨[], if acc.value.typeName = type then .ok acc.value
    else .error (.resolution ("expected " ++ type))⟩)

def helperReference : Reference :=
  ⟨"entry", "helper", false⟩

def reference : Reference :=
  ⟨"collection", "x", false⟩

/-- Sends the value back to `collection:x`. After a failure it goes on with the message. -/
def helper : Entity :=
  ⟨"helper", .entity reference, none, none, some (.path Rescue.messagePath), false, .entry⟩

/-- Wants an array, and sends it back to `collection:x`. -/
def first : Reducer :=
  .list [requiring "array", .entity helperReference]

/-- Wants a text. -/
def second : Reducer :=
  requiring "string"

/-- A collection that keeps its value, before it gets its steps. -/
def entity : Entity :=
  ⟨"x", .identity, none, none, none, false, .collection []⟩

def store : Store :=
  ⟨[("collection:x", entity.apart first second), ("entry:helper", helper)], [], none⟩

/-- The inner array fails for two reasons: its second item is no array, which the first reducer notices, and
    what its first item comes to is no text, which the second one notices. -/
def given : Accumulator :=
  .ofValue (.array [.array [.array [], .null]])

/-- The text of the failure of the inner array, as the one item of the result. -/
def reporting (type : String) : Accumulator :=
  .ofValue (.array [.string ("entry:helper.value collection:x.map expected " ++ type)])

theorem reporting_ne : reporting "array" ≠ reporting "string" := by
  intro same
  have values := congrArg Accumulator.value same
  simp [reporting, Accumulator.ofValue, Accumulator.start] at values

theorem eq_of_get? {id : String} {found : Entity} (registered : store.get? id = some found) :
    found = entity.apart first second ∨ found = helper := by
  simp only [Store.get?, store, Keyed.get?] at registered
  split at registered
  · exact .inl (Option.some.inj registered).symm
  · split at registered
    · exact .inr (Option.some.inj registered).symm
    · cases registered

theorem not_holds_context (body : Accumulator → Reply Accumulator) :
    ¬ first.Holds (.function (.context body)) := by
  intro holds
  obtain ⟨step, member, holds⟩ := (Reducer.Holds.list_iff.mp holds).resolve_left nofun
  obtain rfl | rfl : step = requiring "array" ∨ step = .entity helperReference := by simpa using member
  · cases holds
  · cases holds

/-- No function here answers with accumulators. -/
theorem plain (body : Accumulator → Reply Accumulator) :
    ¬ store.Reaches first (.function (.context body)) := by
  intro reaches
  rcases reaches.holds with holds | ⟨id, found, registered, reducer, member, holds⟩
  · exact not_holds_context body holds
  · rcases eq_of_get? registered with rfl | rfl
    · obtain rfl | rfl | rfl : reducer = .identity ∨ reducer = first ∨ reducer = second := by
        simpa [Entity.reducers, Entity.apart, Entity.composing, entity, Body.reducers,
          CollectionStep.reducer] using member
      · cases holds
      · exact not_holds_context body holds
      · cases holds
    · obtain rfl | rfl : reducer = .entity reference ∨ reducer = .path Rescue.messagePath := by
        simpa [Entity.reducers, helper, Body.reducers] using member
      · cases holds
      · cases holds

end Detour

open Detour in
/-- Of entities that lead back to themselves it is too much to say. Both failures of the inner array in the
    sample recover with their message. With two steps all items go through the first reducer before any goes
    on, so that its failure comes first; with one step the failure of the first item does. -/
theorem Store.maps_differ_led_back :
    ¬ ∀ (store store' : Store) (entity : Entity) (f g : Reducer), store.Fuses store' entity f g →
      entity.before = none → entity.after = none → entity.error = none →
      (∀ body, ¬ store.Reaches f (.function (.context body))) →
      ∀ (reference : Reference) (acc : Accumulator), reference.id = (entity.apart f g).id →
        reference.isCollection = false → acc.failure = none → ∀ next,
        ((∃ depth, (store.resolve depth (.entity reference) acc).ending = .finished next) ↔
          ∃ depth, (store'.resolve depth (.entity reference) acc).ending = .finished next) := by
  intro always
  let store' := store.replace "collection:x" (entity.fused first second)
  have fuses : store.Fuses store' entity first second := ⟨rfl, rfl, differsAt_replace _ _ _⟩
  have inApart : (store.resolve 10 (.entity reference) given).ending =
      .finished (reporting "array") := rfl
  have inFused : (store'.resolve 10 (.entity reference) given).ending =
      .finished (reporting "string") := rfl
  have same := always store store' entity first second fuses rfl rfl rfl plain reference given rfl rfl rfl
    (reporting "array")
  obtain ⟨depth, finished⟩ := same.mp ⟨10, inApart⟩
  have one := resolve_finished_of_le (Nat.le_max_left depth 10) finished
  have other := resolve_finished_of_le (Nat.le_max_right depth 10) inFused
  exact reporting_ne (Ending.finished.inj (one.symm.trans other))

end Reshape
