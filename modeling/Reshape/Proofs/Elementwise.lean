/-
Module: Reshape.Proofs.Elementwise
Layer: Proofs
Purpose: Three ways to have a reducer work on every item of an array: a reference with the mark, a compose
  step and a path with the mark. All of them come to the same: the values of the reducer on the items, or the
  failure on the first item that it fails on.
Main exports: Entity.ofValue, Entity.ofMap, Path.collected, Path.parse_collected, Store.ending_of_marked,
  Store.ending_of_mapped, Store.FirstFails, Store.elementwise_mechanisms_agree
-/
import Reshape.Proofs.Compilation
import Reshape.Proofs.Independence
import Reshape.Proofs.PathGrammar
import Reshape.Proofs.Recovery
import Reshape.Proofs.WorkingValue

namespace Reshape

/-! ### The three ways -/

namespace Entity

/-- An entity with a value reducer and nothing else. -/
def ofValue (name : String) (reducer : Reducer) : Entity :=
  ⟨name, reducer, none, none, none, false, .entry⟩

/-- A collection with one compose step, which replaces every item, and nothing else. -/
def ofMap (name : String) (reducer : Reducer) : Entity :=
  ⟨name, .identity, none, none, none, false, .collection [.map reducer]⟩

theorem place_ofValue (name : String) (reducer : Reducer) :
    (ofValue name reducer).place "value" = "entry:" ++ name ++ ".value" := by
  show "entry" ++ ":" ++ name ++ "." ++ "value" = _
  rw [String.append_assoc]
  rfl

theorem place_ofMap (name : String) (reducer : Reducer) :
    (ofMap name reducer).place "map" = "collection:" ++ name ++ ".map" := by
  show "collection" ++ ":" ++ name ++ "." ++ "map" = _
  rw [String.append_assoc]
  rfl

/-- A definition with a `value` and nothing else says just that. -/
theorem compile_ofValue {name : String} (named : Reference.isName name.toList = true) {spec : Spec}
    {reducer : Reducer} (compiled : spec.compile = .ok reducer) :
    compile (ofValue name reducer).id { value := some spec } = .ok (ofValue name reducer) :=
  compile_eq_ok_iff.mpr ⟨rfl, named, compiled, .none, .none, .none, rfl, .entry rfl ⟨rfl, rfl⟩⟩

/-- A definition with one `map` and nothing else says just that. -/
theorem compile_ofMap {name : String} (named : Reference.isName name.toList = true) {spec : Spec}
    {reducer : Reducer} (compiled : spec.compile = .ok reducer) :
    compile (ofMap name reducer).id { compose := [.map spec] } = .ok (ofMap name reducer) :=
  compile_eq_ok_iff.mpr
    ⟨rfl, named, rfl, .none, .none, .none, rfl, .collection (.cons (.map compiled) .nil) ⟨rfl, rfl⟩⟩

end Entity

namespace Path

/-- The path with the mark for "every element". -/
def collected (path : Path) : Path :=
  { path with raw := path.raw ++ "[]", isCollection := true }

/-- What opens a text does so with the mark at the end. -/
theorem Opens.append_mark {text rest : List Char} {root : Root} (opens : Opens text rest root) :
    Opens (text ++ ['[', ']']) (rest ++ ['[', ']']) root := by
  cases opens with
  | accumulator rest => exact .accumulator _
  | value unmarked =>
      refine .value fun marked => unmarked ?_
      rcases text with _ | ⟨first, _ | ⟨second, rest⟩⟩
      · simp at marked
      · simp at marked
      · simpa using marked

/-- The mark is written behind the path. -/
theorem parse_collected {text : String} {path : Path} (parsed : parse text = .ok path)
    (plain : path.isCollection = false) : parse (text ++ "[]") = .ok path.collected := by
  obtain ⟨written, rest, body, opens, closes, read, short⟩ := parts_of_parse parsed
  rw [plain] at closes
  cases closes with
  | plain unmarked =>
      have opens' : Opens (text ++ "[]").toList (rest ++ ['[', ']']) path.root := by
        rw [String.toList_append]
        exact opens.append_mark
      rw [parse_of_parts opens' (.marked rest) read short, collected, written]

end Path

/-! ### What each of them comes to -/

theorem Reducer.eq_empty_of_isEmpty {reducer : Reducer} (skipped : reducer.isEmpty = true) :
    reducer = .empty := by
  unfold isEmpty at skipped
  split at skipped
  · rfl
  · cases skipped

namespace Resolver

variable {store : Store} {resolve : Resolver} {depth : Nat} {reducer : Reducer} {acc : Accumulator}
  {items : List Value}

/-- Without hooks there is only the value and what the type does with it. -/
theorem lifecycle_of_none {entity : Entity} (before : entity.before = none) (after : entity.after = none) :
    lifecycle store resolve entity = body store resolve entity := by
  rw [lifecycle_eq_inOrder, body_eq_inOrder, Entity.stages, before, after]
  simp

/-- An entity with a value reducer and nothing else ends as the reducer does, with its mark. -/
theorem ending_of_ofValue (name : String) (reference : Reference) :
    (enter store resolve reference (.ofValue name reducer) acc).ending =
      (((resolve reducer (acc.withReference (some reference))).map fun last =>
        last.withReference acc.reference).annotate ((Entity.ofValue name reducer).place "value")).ending := by
  have bare (given : Accumulator) : body store resolve (.ofValue name reducer) given =
      slot resolve (.ofValue name reducer) "value" reducer given := Run.bind_pure _
  rw [ending_of_none rfl, lifecycle_of_none rfl rfl, ← Run.map_annotate, Run.ending_map, bare]
  rfl

/-- Going over items inside an entity with a value reducer and nothing else puts its mark on the failure. -/
theorem ending_of_overItems_enter (name : String) (reference : Reference) :
    (overItems (enter store resolve reference (.ofValue name reducer)) acc items).ending =
      ((overItems (resolve reducer) (acc.withReference (some reference)) items).annotate
        ((Entity.ofValue name reducer).place "value")).ending := by
  let entity := Entity.ofValue name reducer
  let value (item : Value) :=
    (resolve reducer ((acc.withReference (some reference)).withValue item)).map Accumulator.value
  have branch (item : Value) :
      ((enter store resolve reference entity (acc.withValue item)).map Accumulator.value).ending =
        ((value item).annotate (entity.place "value")).ending := by
    rw [Run.ending_map, ending_of_ofValue, ← Run.ending_map, Run.map_annotate, Run.map_map]
    rfl
  have marks : (items.map fun item => (value item).annotate (entity.place "value")) =
      (items.map value).map (Run.annotate (entity.place "value")) := by
    rw [List.map_map]
    rfl
  rw [overItems, Run.ending_fanOut_congr items branch, marks, Run.fanOut_annotate]
  rfl

end Resolver

namespace Store

variable {store : Store} {depth : Nat} {reducer : Reducer} {acc : Accumulator} {items : List Value}

/-- The step that replaces every item. To skip it is to run it, as a reducer without steps keeps items. -/
theorem ending_of_map {entity : Entity} (array : acc.value = .array items) :
    (Resolver.collectionStep (store.resolve (depth + 1)) entity (.map reducer) acc).ending =
      ((Resolver.overItems (store.resolve (depth + 1) reducer) acc items).map fun results =>
        acc.withValue (.array results)).ending := by
  cases runs : (CollectionStep.map reducer).reducer.isEmpty with
  | false =>
      rw [Resolver.collectionStep_eq runs array]
      rfl
  | true =>
      obtain rfl : reducer = .empty := Reducer.eq_empty_of_isEmpty runs
      have kept : (Resolver.overItems (store.resolve (depth + 1) .empty) acc items).ending =
          .finished items :=
        overItems_finished_iff.mpr ⟨fun item _ => ⟨acc.withValue item, rfl, rfl⟩, List.map_id items⟩
      rw [Resolver.collectionStep_of_isEmpty runs, Run.ending_map, kept, Ending.map, ← array]
      rfl

/-- What a reducer behind which no function reads the owner comes to on items is the same inside every
    entity. -/
theorem ending_of_overItems_withReference (overlooks : store.Overlooks reducer .owner)
    (reference : Option Reference) :
    (Resolver.overItems (store.resolve depth reducer) (acc.withReference reference) items).ending =
      (Resolver.overItems (store.resolve depth reducer) acc items).ending := by
  apply Run.ending_fanOut_congr
  intro item
  exact (agreeBut_resolve overlooks depth
    ((acc.withValue item).agreeBut_owner reference)).map_value

/-- A reference with the mark to an entity with a value reducer and nothing else. -/
theorem ending_of_marked {name : String} (overlooks : store.Overlooks reducer .owner)
    (found : store.get? (Entity.ofValue name reducer).id = some (.ofValue name reducer))
    (array : acc.value = .array items) :
    (store.resolve (depth + 1) (.entity ⟨"entry", name, true⟩) acc).ending =
      (((Resolver.overItems (store.resolve depth reducer) acc items).annotate
        ((Entity.ofValue name reducer).place "value")).map fun results =>
          acc.withValue (.array results)).ending := by
  have known : store.get? (Reference.id ⟨"entry", name, true⟩) = some (.ofValue name reducer) := found
  rw [resolve_entity, Resolver.reference_eq_of_mark known rfl array, Run.ending_event_bind, Run.ending_map,
    Resolver.ending_of_overItems_enter, Run.ending_annotate, ending_of_overItems_withReference overlooks]
  rfl

/-- A path from the value with the mark. -/
theorem ending_of_collected {path : Path} (fromValue : path.root = .value) :
    (store.resolve (depth + 1) (.path path.collected) acc).ending =
      .finished (acc.withValue (acc.value.read path.segments true)) := by
  obtain ⟨raw, root, segments, isCollection⟩ := path
  obtain rfl : root = .value := fromValue
  rfl

/-- A collection with one compose step, which replaces every item, and nothing else. -/
theorem ending_of_mapped {name : String} (overlooks : store.Overlooks reducer .owner)
    (found : store.get? (Entity.ofMap name reducer).id = some (.ofMap name reducer))
    (array : acc.value = .array items) :
    (store.resolve (depth + 2) (.entity ⟨"collection", name, false⟩) acc).ending =
      (((Resolver.overItems (store.resolve (depth + 1) reducer) acc items).annotate
        ((Entity.ofMap name reducer).place "map")).map fun results =>
          acc.withValue (.array results)).ending := by
  let entity := Entity.ofMap name reducer
  let reference : Reference := ⟨"collection", name, false⟩
  let entered := acc.withReference (some reference)
  have known : store.get? reference.id = some entity := found
  have composed : (Resolver.body store (store.resolve (depth + 1)) entity entered).ending =
      ((Resolver.collectionStep (store.resolve (depth + 1)) entity (.map reducer) entered).annotate
        (entity.place "map")).ending := by
    have value : (store.resolve (depth + 1) entity.value entered).ending = .finished entered := rfl
    rw [Resolver.ending_of_collection rfl value ⟨items, array⟩, Resolver.collectionSteps_eq_inOrder,
      List.map_singleton, Run.inOrder_singleton]
    rfl
  have stepped : (Resolver.collectionStep (store.resolve (depth + 1)) entity (.map reducer) entered).ending =
      (Resolver.overItems (store.resolve (depth + 1) reducer) acc items).ending.map fun results =>
        entered.withValue (.array results) := by
    have array' : entered.value = .array items := array
    rw [ending_of_map array', ← ending_of_overItems_withReference overlooks (some reference)]
    rfl
  rw [(alike_entity known rfl).ending, Resolver.ending_of_none rfl, Resolver.lifecycle_of_none rfl rfl,
    composed, Run.ending_annotate, stepped, Run.ending_map, Run.ending_annotate]
  cases (Resolver.overItems (store.resolve (depth + 1) reducer) acc items).ending <;> rfl

/-- Without an array, a reference with the mark gives null. -/
theorem ending_of_marked_of_noArray {reference : Reference} {entity : Entity}
    (found : store.get? reference.id = some entity) (mark : reference.isCollection = true)
    (noArray : ¬ acc.HasArray) :
    (store.resolve (depth + 1) (.entity reference) acc).ending = .finished (acc.withValue .null) := by
  rw [resolve_entity, Resolver.reference, seek, found, mark]
  cases value : acc.value with
  | array items => exact absurd ⟨items, value⟩ noArray
  | _ => rfl

/-- Without an array, a collection refuses the value. -/
theorem ending_of_mapped_of_noArray {name : String}
    (found : store.get? (Entity.ofMap name reducer).id = some (.ofMap name reducer))
    (noArray : ¬ acc.HasArray) :
    (store.resolve (depth + 2) (.entity ⟨"collection", name, false⟩) acc).ending =
      .failed ((Entity.ofMap name reducer).wrongType acc.value CollectionStep.expectation) := by
  let entity := Entity.ofMap name reducer
  let reference : Reference := ⟨"collection", name, false⟩
  let entered := acc.withReference (some reference)
  have known : store.get? reference.id = some entity := found
  have noArray' : ¬ entered.HasArray := noArray
  have value : (store.resolve (depth + 1) entity.value entered).ending = .finished entered := rfl
  rw [(alike_entity known rfl).ending, Resolver.ending_of_none rfl,
    Resolver.lifecycle_of_refused rfl rfl value (Resolver.requireArray_of_other noArray')]
  rfl

/-! ### The first failure -/

/-- The reducer fails on the item at that index and on none before it, whatever entity it is run in and by
    whatever reference that has been entered. -/
structure FirstFails (store : Store) (depth : Nat) (reducer : Reducer) (acc : Accumulator)
    (items : List Value) (index : Nat) (cause : Failure) : Prop where
  fails : ∃ item, items[index]? = some item ∧
    ∀ reference,
      (store.resolve depth reducer ((acc.withReference reference).withValue item)).ending = .failed cause
  earlier : ∀ place < index, ∀ item, items[place]? = some item →
    ∀ reference failure,
      (store.resolve depth reducer ((acc.withReference reference).withValue item)).ending ≠ .failed failure

theorem firstFails_of_overItems {cause : Failure} (overlooks : store.Overlooks reducer .owner)
    (failed : (Resolver.overItems (store.resolve depth reducer) acc items).ending = .failed cause) :
    ∃ index, store.FirstFails depth reducer acc items index cause := by
  obtain ⟨-, first⟩ := Run.fanOut_failed_iff.mp failed
  obtain ⟨index, item, found, fails, earlier⟩ := first.index
  have everywhere (item : Value) (reference : Option Reference) {failure : Failure} :
      (store.resolve depth reducer ((acc.withReference reference).withValue item)).ending = .failed failure ↔
        ((store.resolve depth reducer (acc.withValue item)).map Accumulator.value).ending =
          .failed failure := by
    rw [Run.map_failed_iff]
    exact (agreeBut_resolve overlooks depth ((acc.withValue item).agreeBut_owner reference)).failed_iff
  refine ⟨index, ⟨item, found, fun reference => (everywhere item reference).mpr fails⟩, ?_⟩
  intro place below item found reference failure fails
  exact earlier place below item found failure ((everywhere item reference).mp fails)

/-- Three ways to work on every item agree, with a reducer behind which no function reads the owner. On an
    array, the reference with the mark to an entity that has the reducer as value and nothing else and the
    collection that has it as `map` and nothing else both finish with the same accumulator, in which each item
    has been replaced by what the reducer comes to on it; or both fail because of the first item that the
    reducer fails on, each with its own mark; or neither ends. For a path from the value without the mark, this
    is what the path with the mark comes to: for each item its leaf, or the missing value if there is none.
    Without an array, the reference and the path give null, and the collection refuses the value. The limit on
    nesting leaves room for the value of the collection, which comes before its step. Definitions with just a
    `value` or just a `map` are compiled to such entities (`Entity.compile_ofValue`, `Entity.compile_ofMap`),
    and the mark is written behind the path (`Path.parse_collected`). -/
theorem elementwise_mechanisms_agree (store : Store) (depth : Nat) (acc : Accumulator) {reducer : Reducer}
    {entry collection : String}
    (entryFound : store.get? (Entity.ofValue entry reducer).id = some (.ofValue entry reducer))
    (collectionFound :
      store.get? (Entity.ofMap collection reducer).id = some (.ofMap collection reducer))
    (ignores : ∀ function, store.Reaches reducer (.function function) → function.Ignores .owner) :
    let marked := (store.resolve (depth + 2) (.entity ⟨"entry", entry, true⟩) acc).ending
    let mapped := (store.resolve (depth + 2) (.entity ⟨"collection", collection, false⟩) acc).ending
    let leaves (path : Path) := (store.resolve (depth + 2) (.path path.collected) acc).ending
    let answer (item : Value) := store.outcome (depth + 1) (acc.withValue item) reducer
    (∀ items, acc.value = .array items →
      ((∀ item ∈ items, store.Finishes (depth + 1) (acc.withValue item) reducer) ∧
          marked = .finished (acc.withValue (.array (items.map answer))) ∧
          mapped = .finished (acc.withValue (.array (items.map answer))) ∨
        (∃ index cause, store.FirstFails (depth + 1) reducer acc items index cause ∧
          marked = .failed (cause.annotate ("entry:" ++ entry ++ ".value")) ∧
          mapped = .failed (cause.annotate ("collection:" ++ collection ++ ".map"))) ∨
        marked = .unfinished ∧ mapped = .unfinished) ∧
        ∀ path, reducer = .path path → path.root = .value → path.isCollection = false →
          let next := acc.withValue
            (.array (items.map fun item => .ofOption (item.follow? path.segments)))
          marked = .finished next ∧ mapped = .finished next ∧ leaves path = .finished next) ∧
      (acc.value.items? = none →
        marked = .finished (acc.withValue .null) ∧
          (∀ path, path.root = .value → leaves path = .finished (acc.withValue .null)) ∧
          let refusal :=
            (Entity.ofMap collection reducer).wrongType acc.value CollectionStep.expectation
          mapped = .failed refusal ∧
            refusal.Blames (.ofMap collection reducer) acc.value CollectionStep.expectation) := by
  intro marked mapped leaves answer
  have overlooks : store.Overlooks reducer .owner := overlooks_owner ignores
  constructor
  · intro items array
    let each := (Resolver.overItems (store.resolve (depth + 1) reducer) acc items).ending
    let write (results : List Value) := acc.withValue (.array results)
    have isMarked : marked = (each.annotate ("entry:" ++ entry ++ ".value")).map write := by
      rw [← Entity.place_ofValue entry reducer]
      exact ending_of_marked overlooks entryFound array
    have isMapped : mapped = (each.annotate ("collection:" ++ collection ++ ".map")).map write := by
      rw [← Entity.place_ofMap collection reducer]
      exact ending_of_mapped overlooks collectionFound array
    constructor
    · rw [isMarked, isMapped]
      cases outcome : each with
      | finished results =>
          obtain ⟨finishes, rfl⟩ := overItems_finished_iff.mp outcome
          exact .inl ⟨finishes, rfl, rfl⟩
      | failed cause =>
          obtain ⟨index, first⟩ := firstFails_of_overItems overlooks outcome
          exact .inr (.inl ⟨index, cause, first, rfl, rfl⟩)
      | unfinished => exact .inr (.inr ⟨rfl, rfl⟩)
    · rintro path rfl fromValue plain
      have every : each = .finished (items.map fun item => .ofOption (item.follow? path.segments)) := by
        refine overItems_finished_iff.mpr ⟨fun item _ => ⟨_, rfl, rfl⟩, ?_⟩
        refine List.map_congr_left fun item _ => ?_
        show (acc.withValue item).read path = _
        rw [Accumulator.read, fromValue, plain]
        rfl
      refine ⟨?_, ?_, ?_⟩
      · rw [isMarked, every]
        rfl
      · rw [isMapped, every]
        rfl
      · have isRead : leaves path = _ := ending_of_collected fromValue
        rw [isRead, array]
        rfl
  · intro noArray
    have noArray' : ¬ acc.HasArray := Accumulator.not_hasArray_iff.mpr noArray
    refine ⟨ending_of_marked_of_noArray entryFound rfl noArray', ?_,
      ending_of_mapped_of_noArray collectionFound noArray', Entity.blames_wrongType _ _ _⟩
    intro path fromValue
    have isRead : leaves path = _ := ending_of_collected fromValue
    rw [isRead]
    cases value : acc.value with
    | array items => exact absurd ⟨items, value⟩ noArray'
    | _ => rfl

end Store

/-! ### A sample -/

namespace Roster

/-- An entity and a collection that have the same reducer work on items. -/
def store (reducer : Reducer) : Store :=
  ⟨[("collection:all", .ofMap "all" reducer), ("entry:each", .ofValue "each" reducer)], [], none⟩

/-- The path `name`. -/
def name : Path :=
  ⟨"name", .value, [.key "name"], false⟩

/-- Everything is there but null. -/
def judge (value : Value) : Reply Value :=
  ⟨[], if value.isNull then .error (.resolution "nobody") else .ok value⟩

def present : Function :=
  .sync fun acc => judge acc.value

theorem ignores_owner : present.Ignores .owner := by
  intro left right agree
  show ((Function.run left (judge left.value)).bind fun value =>
      Run.pure (left.withValue value)).ending.AgreeBut .owner
    ((Function.run right (judge right.value)).bind fun value =>
      Run.pure (right.withValue value)).ending
  rw [agree.value, judge]
  cases right.value.isNull with
  | true => exact rfl
  | false => exact agree.withValue right.value

end Roster

open Roster in
/-- In the sample both ways fail because of the second item, with their own marks. With a path all three read
    what is missing as the missing value. -/
theorem Store.elementwise_mechanisms_agree_sample :
    let run (reducer : Reducer) (reference : Reference) (value : Value) :=
      ((store reducer).resolve 3 (.entity reference) (.ofValue value)).ending
    let several : Value := .array [.bool true, .null]
    let named : Value := .array [.object [("name", .string "x")], .null]
    let names := Ending.finished (Accumulator.ofValue (.array [.string "x", .undefined]))
    (∀ function, (store (.function present)).Reaches (.function present) (.function function) →
        function.Ignores .owner) ∧
      (∃ index cause, (store (.function present)).FirstFails 2 (.function present) (.ofValue several)
        [.bool true, .null] index cause) ∧
      run (.function present) ⟨"entry", "each", true⟩ several =
        .failed (.resolution "entry:each.value nobody") ∧
      run (.function present) ⟨"collection", "all", false⟩ several =
        .failed (.resolution "collection:all.map nobody") ∧
      run (.path name) ⟨"entry", "each", true⟩ named = names ∧
      run (.path name) ⟨"collection", "all", false⟩ named = names ∧
      ((store (.path name)).resolve 3 (.path name.collected) (.ofValue named)).ending = names := by
  intro run several named names
  have ignores : ∀ function, (store (.function present)).Reaches (.function present) (.function function) →
      function.Ignores .owner := by
    intro function reaches
    cases reaches
    exact ignores_owner
  have ignores' : ∀ function, (store (.path name)).Reaches (.path name) (.function function) →
      function.Ignores .owner := by
    intro function reaches
    cases reaches
  have marked : run (.function present) ⟨"entry", "each", true⟩ several =
      .failed (.resolution "entry:each.value nobody") := rfl
  have mapped : run (.function present) ⟨"collection", "all", false⟩ several =
      .failed (.resolution "collection:all.map nobody") := rfl
  have entry (reducer : Reducer) : (store reducer).get? (Entity.ofValue "each" reducer).id =
      some (.ofValue "each" reducer) := rfl
  have collection (reducer : Reducer) : (store reducer).get? (Entity.ofMap "all" reducer).id =
      some (.ofMap "all" reducer) := rfl
  obtain ⟨onArrays, -⟩ := elementwise_mechanisms_agree (store (.function present)) 1 (.ofValue several)
    (entry _) (collection _) ignores
  obtain ⟨outcome, -⟩ := onArrays _ rfl
  obtain ⟨onArrays', -⟩ := elementwise_mechanisms_agree (store (.path name)) 1 (.ofValue named)
    (entry _) (collection _) ignores'
  obtain ⟨-, onPath⟩ := onArrays' _ rfl
  rcases outcome with ⟨-, finished, -⟩ | ⟨index, cause, first, -, -⟩ | ⟨stopped, -⟩
  · cases marked.symm.trans finished
  · exact ⟨ignores, ⟨index, cause, first⟩, marked, mapped, onPath name rfl rfl rfl⟩
  · cases marked.symm.trans stopped

end Reshape
