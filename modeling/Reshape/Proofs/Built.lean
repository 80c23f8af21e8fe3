/-
Module: Reshape.Proofs.Built
Layer: Proofs
Purpose: What building a store guarantees: every entity is compiled from a definition, is found under its
  own id and goes over ascending keys. The sample at the end is a built store with one recovery inside
  another: `entry:outer` fails, its error hook enters `entry:inner`, which fails as well and recovers, and
  then reads the message of the first failure.
Main exports: Reference.splitId?_eq_some_iff, Entity.id_of_compile, Builder.compileAll_cons_eq_ok_iff,
  Builder.build_eq_ok_iff, Builder.compiled_of_build, Builder.filed_of_build, Builder.ordered_of_build,
  Rescue.store, Rescue.build_eq
-/
import Mathlib.Data.List.TakeDrop
import Reshape.Proofs.Outcomes
import Reshape.Proofs.Reach
import Reshape.Store.Builder

namespace Reshape

/-- An id is a type, a colon and a name. -/
theorem Reference.splitId?_eq_some_iff {id typeName name : List Char} :
    splitId? id = some (typeName, name) ↔
      id = typeName ++ ':' :: name ∧ isTypeName typeName = true ∧ isName name = true := by
  unfold splitId?
  rw [List.span_eq_takeWhile_dropWhile]
  constructor
  · intro split
    split at split
    · rename_i type rest parts
      split at split
      · rename_i shape
        cases split
        rw [Prod.mk.injEq] at parts
        rw [Bool.and_eq_true] at shape
        refine ⟨?_, shape⟩
        rw [← parts.1, ← parts.2, List.takeWhile_append_dropWhile]
      · cases split
    · cases split
  · rintro ⟨rfl, type, named⟩
    have noColon : ∀ c ∈ typeName, (c != ':') = true := by
      intro c member
      have char : isTypeChar c = true :=
        List.all_eq_true.mp (Bool.and_eq_true_iff.mp type).2 c member
      refine bne_iff_ne.mpr ?_
      rintro rfl
      exact absurd char (by decide)
    rw [List.takeWhile_append_of_pos noColon, List.dropWhile_append_of_pos noColon,
      List.takeWhile_cons_of_neg (by decide), List.dropWhile_cons_of_neg (by decide), List.append_nil]
    exact if_pos (Bool.and_eq_true_iff.mpr ⟨type, named⟩)

namespace Entity

variable {id name : String} {definition : Definition} {entity : Entity} {body : Body}

theorem type_of_compileBody {type : EntityType}
    (compiled : compileBody id type definition = .ok body) : body.type = type := by
  cases type with
  | entry =>
      obtain ⟨_, -, built⟩ := ok_of_bind compiled
      cases built
      rfl
  | hash =>
      obtain ⟨compose, -, built⟩ := ok_of_bind compiled
      cases built
      rfl
  | collection =>
      obtain ⟨compose, -, built⟩ := ok_of_bind compiled
      cases built
      rfl
  | schema =>
      obtain ⟨_, -, compiled⟩ := ok_of_bind compiled
      obtain ⟨schema, -, compiled⟩ := ok_of_bind compiled
      obtain ⟨options, -, built⟩ := ok_of_bind compiled
      cases built
      rfl

theorem name_and_body_of_compileSlots (compiled : compileSlots id name definition body = .ok entity) :
    entity.name = name ∧ entity.body = body := by
  unfold compileSlots at compiled
  dsimp only at compiled
  split at compiled
  -- With and without a `value`, the same slots follow.
  all_goals
    obtain ⟨value, -, compiled⟩ := ok_of_bind compiled
    obtain ⟨before, -, compiled⟩ := ok_of_bind compiled
    obtain ⟨after, -, compiled⟩ := ok_of_bind compiled
    obtain ⟨error, -, built⟩ := ok_of_bind compiled
    cases built
    exact ⟨rfl, rfl⟩

/-- A compiled entity comes of an id with a known type, and of a body of that type. -/
theorem parts_of_compile (compiled : compile id definition = .ok entity) :
    ∃ typeName name type, Reference.splitId? id.toList = some (typeName, name) ∧
      EntityType.ofName? (String.ofList typeName) = some type ∧
      compileBody id type definition = .ok entity.body ∧ entity.name = String.ofList name := by
  unfold compile at compiled
  dsimp only at compiled
  split at compiled
  · rename_i typeName name parts
    obtain ⟨_, ⟨⟩, compiled⟩ := ok_of_bind compiled
    dsimp only at compiled
    split at compiled
    · rename_i type known
      obtain ⟨_, ⟨⟩, compiled⟩ := ok_of_bind compiled
      split at compiled
      · cases compiled
      · obtain ⟨body, bodyCompiled, compiled⟩ := ok_of_bind compiled
        obtain ⟨sameName, rfl⟩ := name_and_body_of_compileSlots compiled
        exact ⟨typeName, name, type, parts, known, bodyCompiled, sameName⟩
    · obtain ⟨_, ⟨⟩, -⟩ := ok_of_bind compiled
  · obtain ⟨_, ⟨⟩, -⟩ := ok_of_bind compiled

/-- A compiled entity has the id that its definition is registered under. -/
theorem id_of_compile (compiled : compile id definition = .ok entity) : entity.id = id := by
  obtain ⟨typeName, name, type, parts, known, bodyCompiled, sameName⟩ := parts_of_compile compiled
  have typeText : type.name = String.ofList typeName := EntityType.name_of_ofName? known
  have whole : id.toList = typeName ++ ':' :: name := (Reference.splitId?_eq_some_iff.mp parts).1
  rw [Entity.id, type_of_compileBody bodyCompiled, typeText, sameName, ← String.toList_inj, whole]
  simp

end Entity

/-! ### Keys of compose steps -/

/-- The keys that the step is written with ascend. -/
def Modifier.Ordered : Modifier → Prop
  | .mapKeys keys => Keyed.Ordered keys
  | .addKeys keys => Keyed.Ordered keys
  | _ => True

/-- The keys that the step goes over ascend. -/
def HashStep.Ordered : HashStep → Prop
  | .mapKeys keys => Keyed.Ordered keys
  | .addKeys keys => Keyed.Ordered keys
  | _ => True

/-- The keys of all compose steps ascend. -/
def Definition.Ordered (definition : Definition) : Prop :=
  ∀ modifier ∈ definition.compose, modifier.Ordered

/-- The keys of all compose steps ascend. -/
def Body.Ordered : Body → Prop
  | .hash compose => ∀ step ∈ compose, step.Ordered
  | _ => True

namespace Entity

variable {id : String}

theorem keys_of_compileKeys {step : String} {specs : Keyed Spec} {reducers : Keyed Reducer}
    (compiled : compileKeys id step specs = .ok reducers) : Keyed.keys reducers = Keyed.keys specs := by
  induction specs generalizing reducers with
  | nil =>
      cases compiled
      rfl
  | cons entry rest ih =>
      obtain ⟨key, spec⟩ := entry
      obtain ⟨reducer, -, compiled⟩ := ok_of_bind compiled
      obtain ⟨others, compiledRest, built⟩ := ok_of_bind compiled
      cases built
      exact congrArg (key :: ·) (ih compiledRest)

theorem ordered_of_compileKeys {step : String} {specs : Keyed Spec} {reducers : Keyed Reducer}
    (ascend : Keyed.Ordered specs) (compiled : compileKeys id step specs = .ok reducers) :
    Keyed.Ordered reducers := by
  have keys : (reducers.map Prod.fst).Pairwise (· < ·) := by
    rw [show reducers.map Prod.fst = specs.map Prod.fst from keys_of_compileKeys compiled]
    exact List.pairwise_map.mpr ascend
  exact List.pairwise_map.mp keys

theorem ordered_of_compileHashStep {modifier : Modifier} {step : HashStep}
    (ascend : modifier.Ordered) (compiled : compileHashStep id modifier = .ok step) :
    step.Ordered := by
  cases modifier with
  | mapKeys keys =>
      obtain ⟨reducers, keysCompiled, rfl⟩ := ok_of_map compiled
      exact ordered_of_compileKeys ascend keysCompiled
  | addKeys keys =>
      obtain ⟨reducers, keysCompiled, rfl⟩ := ok_of_map compiled
      exact ordered_of_compileKeys ascend keysCompiled
  | addValues values =>
      cases compiled
      trivial
  | omitKeys keys =>
      cases compiled
      trivial
  | pickKeys keys =>
      cases compiled
      trivial
  | map spec => cases compiled
  | filter spec => cases compiled
  | find spec => cases compiled

/-- Compiling keeps the order of keys. -/
theorem ordered_of_compileBody {type : EntityType} {definition : Definition} {body : Body}
    (ascend : definition.Ordered) (compiled : compileBody id type definition = .ok body) :
    body.Ordered := by
  cases type with
  | entry =>
      obtain ⟨_, -, built⟩ := ok_of_bind compiled
      cases built
      trivial
  | hash =>
      obtain ⟨compose, steps, built⟩ := ok_of_bind compiled
      cases built
      intro step member
      obtain ⟨modifier, written, compiled⟩ := source_of_mapM steps member
      exact ordered_of_compileHashStep (ascend modifier written) compiled
  | collection =>
      obtain ⟨_, -, built⟩ := ok_of_bind compiled
      cases built
      trivial
  | schema =>
      obtain ⟨_, -, compiled⟩ := ok_of_bind compiled
      obtain ⟨schema, -, compiled⟩ := ok_of_bind compiled
      obtain ⟨options, -, built⟩ := ok_of_bind compiled
      cases built
      trivial

end Entity

namespace Builder

/-- Each entity stands under its own id. -/
def Filed (entities : Keyed Entity) : Prop :=
  ∀ ⦃id entity⦄, Keyed.get? entities id = some entity → entity.id = id

/-- A definition is compiled into the others if its id is new. -/
theorem compileAll_cons_eq_ok_iff {entities compiled : Keyed Entity} {id : String}
    {definition : Definition} {definitions : List (String × Definition)} :
    compileAll entities ((id, definition) :: definitions) = .ok compiled ↔
      Keyed.get? entities id = none ∧ ∃ entity, Entity.compile id definition = .ok entity ∧
        compileAll (Keyed.insert entities id entity) definitions = .ok compiled := by
  rw [compileAll, ← Option.not_isSome_iff_eq_none]
  split
  · rename_i taken
    refine ⟨fun ok => ?_, fun new => absurd taken new.1⟩
    cases ok
  · rename_i new
    exact bind_eq_ok_iff.trans ⟨fun ok => ⟨new, ok⟩, And.right⟩

/-- Every entity is compiled from a definition that is registered under its id. -/
theorem compiled_of_compileAll {entities compiled : Keyed Entity}
    {definitions : List (String × Definition)} (ok : compileAll entities definitions = .ok compiled)
    {id : String} {entity : Entity} (found : Keyed.get? compiled id = some entity) :
    Keyed.get? entities id = some entity ∨
      ∃ definition, (id, definition) ∈ definitions ∧ Entity.compile id definition = .ok entity := by
  induction definitions generalizing entities with
  | nil =>
      cases ok
      exact .inl found
  | cons registered rest ih =>
      obtain ⟨key, definition⟩ := registered
      obtain ⟨-, first, firstCompiled, ok⟩ := compileAll_cons_eq_ok_iff.mp ok
      rcases ih ok with before | ⟨other, member, otherCompiled⟩
      · rw [Keyed.get?_insert] at before
        split at before
        · rename_i same
          subst same
          cases before
          exact .inr ⟨definition, List.mem_cons_self, firstCompiled⟩
        · exact .inl before
      · exact .inr ⟨other, List.mem_cons_of_mem _ member, otherCompiled⟩

variable {builder : Builder} {store : Store}

theorem build_eq_ok_iff :
    builder.build = .ok store ↔
      ∃ entities, compileAll [] builder.definitions = .ok entities ∧
        checkReferences entities = .ok () ∧ store = ⟨entities, builder.values, builder.validator⟩ := by
  constructor
  · intro built
    obtain ⟨entities, compiled, built⟩ := ok_of_bind built
    obtain ⟨_, known, built⟩ := ok_of_bind built
    cases built
    exact ⟨entities, compiled, known, rfl⟩
  · rintro ⟨entities, compiled, known, rfl⟩
    exact bind_eq_ok_iff.mpr ⟨entities, compiled, bind_eq_ok_iff.mpr ⟨(), known, rfl⟩⟩

/-- Every entity of a built store is compiled from a definition that is registered under its id. -/
theorem compiled_of_build (built : builder.build = .ok store) {id : String} {entity : Entity}
    (found : store.get? id = some entity) :
    ∃ definition, (id, definition) ∈ builder.definitions ∧
      Entity.compile id definition = .ok entity := by
  obtain ⟨entities, compiled, -, rfl⟩ := build_eq_ok_iff.mp built
  exact (compiled_of_compileAll compiled found).resolve_left nofun

/-- In a built store each entity is found under its own id. -/
theorem filed_of_build (built : builder.build = .ok store) : Filed store.entities := by
  intro id entity found
  obtain ⟨definition, -, compiled⟩ := compiled_of_build built found
  exact Entity.id_of_compile compiled

/-- In a store built from definitions whose keys ascend, compose steps go over ascending keys. -/
theorem ordered_of_build (built : builder.build = .ok store)
    (ascend : ∀ registered ∈ builder.definitions, registered.2.Ordered) {id : String} {entity : Entity}
    (found : store.get? id = some entity) : entity.body.Ordered := by
  obtain ⟨definition, member, compiled⟩ := compiled_of_build built found
  obtain ⟨_, _, type, -, -, bodyCompiled, -⟩ := Entity.parts_of_compile compiled
  exact Entity.ordered_of_compileBody (ascend _ member) bodyCompiled

end Builder

/-! ### A sample -/

namespace Rescue

/-- A function that fails. -/
def failing (message : String) : Reducer :=
  .function (.sync fun _ => ⟨[], .error (.resolution message)⟩)

/-- A function that always answers the same. -/
def answering (value : Value) : Reducer :=
  .function (.sync fun _ => ⟨[], .ok value⟩)

def innerReference : Reference :=
  ⟨"entry", "inner", false⟩

def outerReference : Reference :=
  ⟨"entry", "outer", false⟩

/-- The path `..error.message`. -/
def messagePath : Path :=
  ⟨"..error.message", .accumulator, [.key "error", .key "message"], false⟩

/-- The error hook of `entry:outer`. -/
def handling : Reducer :=
  .list [.entity innerReference, .path messagePath]

def inner : Entity :=
  ⟨"inner", failing "inside", none, none, some (answering (.string "spare")), false, .entry⟩

def outer : Entity :=
  ⟨"outer", failing "boom", none, none, some handling, false, .entry⟩

def outerDefinition : Definition :=
  { value := some (.built (failing "boom")), error := some (.built handling) }

def innerDefinition : Definition :=
  { value := some (.built (failing "inside")), error := some (.built (answering (.string "spare"))) }

def builder : Builder :=
  (Builder.empty.add "entry:outer" outerDefinition).add "entry:inner" innerDefinition

def store : Store :=
  ⟨[("entry:inner", inner), ("entry:outer", outer)], [], none⟩

theorem compile_outer : Entity.compile "entry:outer" outerDefinition = .ok outer := by
  have parts : Reference.splitId? "entry:outer".toList = some ("entry".toList, "outer".toList) := by
    rfl
  rw [Entity.compile, parts]
  rfl

theorem compile_inner : Entity.compile "entry:inner" innerDefinition = .ok inner := by
  have parts : Reference.splitId? "entry:inner".toList = some ("entry".toList, "inner".toList) := by
    rfl
  rw [Entity.compile, parts]
  rfl

/-- The store is what building the definitions gives. -/
theorem build_eq : builder.build = .ok store := by
  refine Builder.build_eq_ok_iff.mpr ⟨store.entities, ?_, rfl, rfl⟩
  refine Builder.compileAll_cons_eq_ok_iff.mpr ⟨rfl, outer, compile_outer, ?_⟩
  exact Builder.compileAll_cons_eq_ok_iff.mpr ⟨rfl, inner, compile_inner, rfl⟩

theorem eq_of_get? {id : String} {entity : Entity} (found : store.get? id = some entity) :
    (id = "entry:inner" ∧ entity = inner) ∨ (id = "entry:outer" ∧ entity = outer) := by
  simp only [Store.get?, store, Keyed.get?] at found
  split at found
  · rename_i same
    cases found
    exact .inl ⟨same.symm, rfl⟩
  · split at found
    · rename_i same
      cases found
      exact .inr ⟨same.symm, rfl⟩
    · cases found

/-- Both kinds of functions are called for their value. -/
theorem function_of_reaches {reference : Reference} {function : Function}
    (reaches : store.Reaches (.entity reference) (.function function)) :
    (∃ message, .function function = failing message) ∨
      ∃ value, .function function = answering value := by
  obtain ⟨id, entity, found, reducer, member, holds⟩ :=
    reaches.holds.resolve_left fun holds => by cases holds
  rcases eq_of_get? found with ⟨-, rfl⟩ | ⟨-, rfl⟩
  · obtain rfl | rfl : reducer = failing "inside" ∨ reducer = answering (.string "spare") := by
      simpa [Entity.reducers, inner, Body.reducers] using member
    · cases holds
      exact .inl ⟨_, rfl⟩
    · cases holds
      exact .inr ⟨_, rfl⟩
  · obtain rfl | rfl : reducer = failing "boom" ∨ reducer = handling := by
      simpa [Entity.reducers, outer, Body.reducers] using member
    · cases holds
      exact .inl ⟨_, rfl⟩
    · obtain ⟨step, inSteps, holds⟩ :=
        (Reducer.Holds.list_iff.mp holds).resolve_left fun same => by cases same
      obtain rfl | rfl : step = .entity innerReference ∨ step = .path messagePath := by
        simpa using inSteps
      · cases holds
      · cases holds

theorem not_reaches_context {reference : Reference} (body : Accumulator → Reply Accumulator) :
    ¬ store.Reaches (.entity reference) (.function (.context body)) := by
  intro reaches
  rcases function_of_reaches reaches with ⟨message, same⟩ | ⟨value, same⟩
  · cases same
  · cases same

end Rescue

end Reshape
