/-
Module: Reshape.Proofs.Building
Layer: Proofs
Purpose: Which builders a store can be built from, which store that is, and why the others are refused. The
  order in which definitions are registered is of no account, except for which of several faults is reported.
Main exports: Builder.WellFormed, Builder.get?_compileAll_iff, Builder.compileAll_eq_error_iff,
  Builder.exists_build_iff, Builder.build_perm, Builder.build_iff_wellFormed
-/
import Reshape.Proofs.Refusal

namespace Reshape

namespace Builder

variable {definitions : List (String × Definition)} {entities compiled : Keyed Entity} {failure : Failure}

/-! ### Compiling definitions in order -/

theorem compileAll_append (more : List (String × Definition)) :
    compileAll entities (definitions ++ more) =
      compileAll entities definitions >>= fun compiled => compileAll compiled more := by
  induction definitions generalizing entities with
  | nil => rfl
  | cons registered rest ih =>
      obtain ⟨id, definition⟩ := registered
      rw [List.cons_append, compileAll, compileAll]
      split
      · rfl
      · simp only [ih, bind_assoc]

/-- Definitions compile if their ids are new and distinct, and an entity is compiled from each of them. -/
theorem exists_compileAll_iff :
    (∃ compiled, compileAll entities definitions = .ok compiled) ↔
      (definitions.map Prod.fst).Nodup ∧
        (∀ id ∈ definitions.map Prod.fst, Keyed.get? entities id = none) ∧
        ∀ registered ∈ definitions, ∃ entity, Entity.compile registered.1 registered.2 = .ok entity := by
  induction definitions generalizing entities with
  | nil => simp [compileAll]
  | cons registered rest ih =>
      obtain ⟨id, definition⟩ := registered
      have newAfter (entity : Entity) :
          (∀ other ∈ rest.map Prod.fst, Keyed.get? (Keyed.insert entities id entity) other = none) ↔
            id ∉ rest.map Prod.fst ∧ ∀ other ∈ rest.map Prod.fst, Keyed.get? entities other = none := by
        simp only [Keyed.get?_insert_eq_none_iff, ← List.forall_mem_ne, imp_and, forall_and]
      simp only [compileAll_cons_eq_ok_iff, List.map_cons, List.nodup_cons, List.forall_mem_cons]
      constructor
      · rintro ⟨compiled, new, entity, firstCompiled, ok⟩
        obtain ⟨distinct, newRest, each⟩ := ih.mp ⟨compiled, ok⟩
        obtain ⟨different, newRest⟩ := (newAfter entity).mp newRest
        exact ⟨⟨different, distinct⟩, ⟨new, newRest⟩, ⟨entity, firstCompiled⟩, each⟩
      · rintro ⟨⟨different, distinct⟩, ⟨new, newRest⟩, ⟨entity, firstCompiled⟩, each⟩
        obtain ⟨compiled, ok⟩ := ih.mpr ⟨distinct, (newAfter entity).mpr ⟨different, newRest⟩, each⟩
        exact ⟨compiled, new, entity, firstCompiled, ok⟩

theorem get?_of_compileAll (ok : compileAll entities definitions = .ok compiled) {id : String}
    {entity : Entity} (found : Keyed.get? entities id = some entity) :
    Keyed.get? compiled id = some entity := by
  induction definitions generalizing entities with
  | nil =>
      cases ok
      exact found
  | cons registered rest ih =>
      obtain ⟨key, definition⟩ := registered
      obtain ⟨new, first, -, ok⟩ := compileAll_cons_eq_ok_iff.mp ok
      refine ih ok ?_
      rw [Keyed.get?_insert_of_ne]
      · exact found
      · rintro rfl
        rw [new] at found
        cases found

/-- After compilation there are the entities from before and those compiled from the definitions. -/
theorem get?_compileAll_iff (ok : compileAll entities definitions = .ok compiled) {id : String}
    {entity : Entity} :
    Keyed.get? compiled id = some entity ↔
      Keyed.get? entities id = some entity ∨
        ∃ definition, (id, definition) ∈ definitions ∧ Entity.compile id definition = .ok entity := by
  refine ⟨compiled_of_compileAll ok, ?_⟩
  rintro (found | ⟨definition, member, definitionCompiled⟩)
  · exact get?_of_compileAll ok found
  · obtain ⟨before, after, rfl⟩ := List.append_of_mem member
    rw [compileAll_append] at ok
    obtain ⟨earlier, -, ok⟩ := ok_of_bind ok
    obtain ⟨-, first, firstCompiled, ok⟩ := compileAll_cons_eq_ok_iff.mp ok
    refine get?_of_compileAll ok ?_
    obtain rfl : first = entity := Except.ok.inj (firstCompiled.symm.trans definitionCompiled)
    exact Keyed.get?_insert_self earlier id first

theorem ordered_of_compileAll (ordered : Keyed.Ordered entities)
    (ok : compileAll entities definitions = .ok compiled) : Keyed.Ordered compiled := by
  induction definitions generalizing entities with
  | nil =>
      cases ok
      exact ordered
  | cons registered rest ih =>
      obtain ⟨id, definition⟩ := registered
      obtain ⟨-, entity, -, ok⟩ := compileAll_cons_eq_ok_iff.mp ok
      exact ih (ordered.insert id entity) ok

/-- The first definition that is not compiled decides about the failure: its id is taken, or no entity is
    compiled from it. -/
theorem compileAll_eq_error_iff :
    compileAll entities definitions = .error failure ↔
      ∃ before id definition after earlier, definitions = before ++ (id, definition) :: after ∧
        compileAll entities before = .ok earlier ∧
          ((Keyed.get? earlier id).isSome ∧ failure = duplicate id ∨
            Keyed.get? earlier id = none ∧ Entity.compile id definition = .error failure) := by
  constructor
  · intro refused
    induction definitions generalizing entities with
    | nil => cases refused
    | cons registered rest ih =>
        obtain ⟨id, definition⟩ := registered
        rw [compileAll] at refused
        split at refused
        · rename_i taken
          cases refused
          exact ⟨[], id, definition, rest, entities, rfl, rfl, .inl ⟨taken, rfl⟩⟩
        · rename_i new
          rw [Option.not_isSome_iff_eq_none] at new
          cases firstCompiled : Entity.compile id definition with
          | error fault =>
              rw [firstCompiled] at refused
              cases refused
              exact ⟨[], id, definition, rest, entities, rfl, rfl, .inr ⟨new, firstCompiled⟩⟩
          | ok entity =>
              rw [firstCompiled] at refused
              obtain ⟨before, other, fault, after, earlier, rfl, ok, decides⟩ := ih refused
              exact ⟨(id, definition) :: before, other, fault, after, earlier, rfl,
                compileAll_cons_eq_ok_iff.mpr ⟨new, entity, firstCompiled, ok⟩, decides⟩
  · rintro ⟨before, id, definition, after, earlier, rfl, ok, decides⟩
    rw [compileAll_append, ok]
    show compileAll earlier ((id, definition) :: after) = .error failure
    rw [compileAll]
    rcases decides with ⟨taken, rfl⟩ | ⟨new, refused⟩
    · exact if_pos taken
    · rw [new, refused]
      rfl

/-! ### Checking references -/

theorem unknownReference?_eq_none_iff {entity : Entity} :
    unknownReference? entity = none ↔
      ∀ reference ∈ entity.references, ∃ type : EntityType, type.name = reference.typeName := by
  rw [unknownReference?, List.find?_eq_none]
  refine forall₂_congr fun reference _ => ?_
  rw [Option.isNone_iff_eq_none, EntityType.ofName?_eq_none_iff]
  simp

theorem checkReferences_eq_ok_iff {done : Unit} :
    checkReferences entities = .ok done ↔
      ∀ id entity, (id, entity) ∈ entities →
        ∀ reference ∈ entity.references, ∃ type : EntityType, type.name = reference.typeName := by
  simp only [← unknownReference?_eq_none_iff]
  induction entities with
  | nil => exact ⟨nofun, fun _ => rfl⟩
  | cons head rest ih =>
      obtain ⟨id, entity⟩ := head
      rw [checkReferences]
      cases unknown : unknownReference? entity with
      | none =>
          refine ih.trans ⟨fun known other found member => ?_, fun known other found member =>
            known other found (List.mem_cons_of_mem _ member)⟩
          rcases List.mem_cons.mp member with same | inRest
          · cases same
            exact unknown
          · exact known other found inRest
      | some reference =>
          refine ⟨nofun, fun known => ?_⟩
          rw [known id entity List.mem_cons_self] at unknown
          cases unknown

theorem unknown_of_checkReferences (refused : checkReferences entities = .error failure) :
    ∃ id entity reference, (id, entity) ∈ entities ∧ reference ∈ entity.references ∧
      (∀ type : EntityType, type.name ≠ reference.typeName) ∧ failure = unknownReference id reference := by
  induction entities with
  | nil => cases refused
  | cons head rest ih =>
      obtain ⟨id, entity⟩ := head
      rw [checkReferences] at refused
      split at refused
      · rename_i reference unknown
        cases refused
        have isUnknown := List.find?_some unknown
        rw [Option.isNone_iff_eq_none, EntityType.ofName?_eq_none_iff] at isUnknown
        exact ⟨id, entity, reference, List.mem_cons_self, List.mem_of_find?_eq_some unknown, isUnknown, rfl⟩
      · obtain ⟨other, found, reference, member, rest⟩ := ih refused
        exact ⟨other, found, reference, List.mem_cons_of_mem _ member, rest⟩

/-! ### Building -/

/-- What a builder has to hold: distinct ids, each with a definition that is right for the type that the id
    names, and no reference to a type that does not exist. -/
structure WellFormed (builder : Builder) : Prop where
  distinct : (builder.definitions.map Prod.fst).Nodup
  sound : ∀ id definition, (id, definition) ∈ builder.definitions →
    ∃ type : EntityType, type.Names id ∧ definition.WellFormed type
  known : ∀ id definition, (id, definition) ∈ builder.definitions → ∀ spec ∈ definition.specs,
    ∀ reference, spec.Mentions reference → ∃ type : EntityType, type.name = reference.typeName

variable {builder : Builder} {store : Store}

/-- The entities of a built store are those compiled from the registered definitions. -/
theorem get?_build_iff (built : builder.build = .ok store) {id : String} {entity : Entity} :
    store.get? id = some entity ↔
      ∃ definition, (id, definition) ∈ builder.definitions ∧
        Entity.compile id definition = .ok entity := by
  obtain ⟨entities, compiled, -, rfl⟩ := build_eq_ok_iff.mp built
  exact (get?_compileAll_iff compiled).trans (or_iff_right nofun)

theorem ordered_entities_of_build (built : builder.build = .ok store) : Keyed.Ordered store.entities := by
  obtain ⟨entities, compiled, -, rfl⟩ := build_eq_ok_iff.mp built
  exact ordered_of_compileAll Keyed.ordered_nil compiled

/-- The references of the entities are those that the definitions mention. -/
theorem known_iff (compiled : compileAll [] builder.definitions = .ok entities) :
    checkReferences entities = .ok () ↔
      ∀ id definition, (id, definition) ∈ builder.definitions → ∀ spec ∈ definition.specs,
        ∀ reference, spec.Mentions reference → ∃ type : EntityType, type.name = reference.typeName := by
  have ordered := ordered_of_compileAll Keyed.ordered_nil compiled
  have eachCompiles := (exists_compileAll_iff.mp ⟨_, compiled⟩).2.2
  rw [checkReferences_eq_ok_iff]
  constructor
  · intro known id definition registered spec member reference mentions
    obtain ⟨entity, ok⟩ := eachCompiles _ registered
    have found := (get?_compileAll_iff compiled).mpr (.inr ⟨definition, registered, ok⟩)
    have realizes := (Entity.compile_eq_ok_iff.mp ok).2.2
    exact known id entity (Keyed.mem_of_get? found) reference
      (realizes.mem_references_iff.mpr ⟨spec, member, mentions⟩)
  · intro known id entity member reference refers
    have found := ordered.get?_eq_some_iff.mpr member
    obtain ⟨definition, registered, ok⟩ :=
      ((get?_compileAll_iff compiled).mp found).resolve_left nofun
    have realizes := (Entity.compile_eq_ok_iff.mp ok).2.2
    obtain ⟨spec, inSpecs, mentions⟩ := realizes.mem_references_iff.mp refers
    exact known id definition registered spec inSpecs reference mentions

/-- A store is built from exactly the builders that hold what they have to. -/
theorem exists_build_iff : (∃ store, builder.build = .ok store) ↔ builder.WellFormed := by
  constructor
  · rintro ⟨store, built⟩
    obtain ⟨entities, compiled, known, -⟩ := build_eq_ok_iff.mp built
    obtain ⟨distinct, -, each⟩ := exists_compileAll_iff.mp ⟨_, compiled⟩
    refine ⟨distinct, fun id definition registered => ?_, (known_iff compiled).mp known⟩
    exact Entity.exists_compile_iff.mp (each _ registered)
  · rintro ⟨distinct, sound, known⟩
    obtain ⟨entities, compiled⟩ : ∃ compiled, compileAll [] builder.definitions = .ok compiled := by
      refine exists_compileAll_iff.mpr ⟨distinct, fun _ _ => rfl, fun registered member => ?_⟩
      exact Entity.exists_compile_iff.mpr (sound _ _ member)
    exact ⟨_, build_eq_ok_iff.mpr ⟨entities, compiled, (known_iff compiled).mpr known, rfl⟩⟩

/-- In a built store the ids are those that are registered, each once. -/
theorem ids_of_build (built : builder.build = .ok store) :
    store.ids.Perm (builder.definitions.map Prod.fst) := by
  have wellFormed := exists_build_iff.mp ⟨store, built⟩
  refine (List.perm_ext_iff_of_nodup (ordered_entities_of_build built).nodup_keys
    wellFormed.distinct).mpr fun id => ?_
  rw [Keyed.mem_keys_iff, List.mem_map]
  constructor
  · rintro ⟨entity, found⟩
    obtain ⟨definition, registered, -⟩ := (get?_build_iff built).mp found
    exact ⟨(id, definition), registered, rfl⟩
  · rintro ⟨⟨_, definition⟩, registered, rfl⟩
    obtain ⟨entity, compiled⟩ := Entity.exists_compile_iff.mpr (wellFormed.sound _ _ registered)
    exact ⟨entity, (get?_build_iff built).mpr ⟨definition, registered, compiled⟩⟩

/-- In a built store each registered definition has its entity under its id. -/
theorem realized_of_build (built : builder.build = .ok store) {id : String} {definition : Definition}
    (registered : (id, definition) ∈ builder.definitions) :
    ∃ entity, store.get? id = some entity ∧ entity.id = id ∧ entity.Realizes definition := by
  have wellFormed := exists_build_iff.mp ⟨store, built⟩
  obtain ⟨entity, compiled⟩ := Entity.exists_compile_iff.mpr (wellFormed.sound _ _ registered)
  obtain ⟨same, -, realizes⟩ := Entity.compile_eq_ok_iff.mp compiled
  exact ⟨entity, (get?_build_iff built).mpr ⟨definition, registered, compiled⟩, same, realizes⟩

theorem WellFormed.perm (wellFormed : builder.WellFormed)
    (permuted : definitions.Perm builder.definitions) : { builder with definitions }.WellFormed where
  distinct := (permuted.map Prod.fst).nodup_iff.mpr wellFormed.distinct
  sound id definition registered := wellFormed.sound id definition (permuted.mem_iff.mp registered)
  known id definition registered := wellFormed.known id definition (permuted.mem_iff.mp registered)

/-- The same definitions in another order give the same store. -/
theorem build_of_perm (built : builder.build = .ok store)
    (permuted : definitions.Perm builder.definitions) : { builder with definitions }.build = .ok store := by
  obtain ⟨other, otherBuilt⟩ := exists_build_iff.mpr
    ((exists_build_iff.mp ⟨store, built⟩).perm permuted)
  have sameEntities : other.entities = store.entities := by
    refine (ordered_entities_of_build otherBuilt).ext (ordered_entities_of_build built) fun id entity => ?_
    refine (get?_build_iff otherBuilt).trans (Iff.trans ?_ (get?_build_iff built).symm)
    exact exists_congr fun definition => and_congr_left' permuted.mem_iff
  obtain ⟨_, -, -, rfl⟩ := build_eq_ok_iff.mp built
  obtain ⟨_, -, -, rfl⟩ := build_eq_ok_iff.mp otherBuilt
  dsimp only at sameEntities
  rw [otherBuilt, sameEntities]

theorem build_perm (permuted : definitions.Perm builder.definitions) :
    { builder with definitions }.build = .ok store ↔ builder.build = .ok store := by
  refine ⟨fun built => ?_, fun built => build_of_perm built permuted⟩
  have restored := build_of_perm built permuted.symm
  exact restored

/-! ### Refusing -/

/-- A registered id, or a reference that a definition mentions, names a type that does not exist. -/
def NamesUnknownType (builder : Builder) : Prop :=
  ∃ id definition, (id, definition) ∈ builder.definitions ∧
    (UnknownType id ∨ ∃ spec ∈ definition.specs, ∃ reference, spec.Mentions reference ∧
      ∀ type : EntityType, type.name ≠ reference.typeName)

/-- An id is registered more than once, or it has not the shape of one, or a definition is not right for the
    type that its id names. -/
def Malformed (builder : Builder) : Prop :=
  ¬ (builder.definitions.map Prod.fst).Nodup ∨
    ∃ id definition, (id, definition) ∈ builder.definitions ∧ ¬ UnknownType id ∧
      ∀ type : EntityType, type.Names id → ¬ definition.WellFormed type

/-- Registered definitions are not compiled because one of their ids names no type, or because something is
    malformed. -/
theorem kind_of_compileAll_eq_error (refused : compileAll [] builder.definitions = .error failure) :
    (failure.kind = .lookup ∧ builder.NamesUnknownType) ∨
      (failure.kind = .invalidSpec ∧ builder.Malformed) := by
  obtain ⟨before, id, definition, after, earlier, whole, ok, decides⟩ :=
    compileAll_eq_error_iff.mp refused
  have registered : (id, definition) ∈ builder.definitions := by
    rw [whole]
    exact List.mem_append_right _ List.mem_cons_self
  rcases decides with ⟨taken, rfl⟩ | ⟨-, refused⟩
  · obtain ⟨entity, found⟩ := Option.isSome_iff_exists.mp taken
    obtain ⟨first, again, -⟩ := ((get?_compileAll_iff ok).mp found).resolve_left nofun
    refine .inr ⟨rfl, .inl fun distinct => ?_⟩
    rw [whole, List.map_append, List.nodup_append] at distinct
    exact distinct.2.2 id (List.mem_map_of_mem again) id List.mem_cons_self rfl
  · rcases Entity.kind_of_compile_eq_error refused with ⟨kind, unknown⟩ | ⟨kind, known⟩
    · exact .inl ⟨kind, id, definition, registered, .inl unknown⟩
    · refine .inr ⟨kind, .inr ⟨id, definition, registered, known, fun type names wellFormed => ?_⟩⟩
      obtain ⟨entity, ok⟩ := Entity.exists_compile_iff.mpr ⟨type, names, wellFormed⟩
      rw [ok] at refused
      cases refused

/-- A builder is refused because a type does not exist, or because something is malformed. -/
theorem kind_of_build_eq_error (refused : builder.build = .error failure) :
    (failure.kind = .lookup ∧ builder.NamesUnknownType) ∨
      (failure.kind = .invalidSpec ∧ builder.Malformed) := by
  rcases error_of_bind refused with refused | ⟨entities, compiled, refused⟩
  · exact kind_of_compileAll_eq_error refused
  rcases error_of_bind refused with refused | ⟨_, -, ⟨⟩⟩
  obtain ⟨id, entity, reference, member, refers, unknown, rfl⟩ := unknown_of_checkReferences refused
  have found := (ordered_of_compileAll Keyed.ordered_nil compiled).get?_eq_some_iff.mpr member
  obtain ⟨definition, registered, ok⟩ := ((get?_compileAll_iff compiled).mp found).resolve_left nofun
  have realizes := (Entity.compile_eq_ok_iff.mp ok).2.2
  obtain ⟨spec, inSpecs, mentions⟩ := realizes.mem_references_iff.mp refers
  exact .inl ⟨rfl, id, definition, registered, .inr ⟨spec, inSpecs, reference, mentions, unknown⟩⟩

/-- A store is built from exactly the builders that hold what they have to, whatever the order of
    registration. The store has the registered ids, each once, and under each the entity that its definition
    stands for, with the compose steps in the order in which they are written. Every other builder is refused,
    with a failed look-up if a type does not exist and else because something is malformed. -/
theorem build_iff_wellFormed (builder : Builder) :
    ((∃ store, builder.build = .ok store) ↔ builder.WellFormed) ∧
    (∀ store, builder.build = .ok store →
      store.ids.Perm (builder.definitions.map Prod.fst) ∧
      (∀ id definition, (id, definition) ∈ builder.definitions →
        ∃ entity, store.get? id = some entity ∧ entity.id = id ∧ entity.Realizes definition) ∧
      store.values = builder.values ∧ store.validator = builder.validator) ∧
    (∀ definitions, definitions.Perm builder.definitions → ∀ store,
      { builder with definitions }.build = .ok store ↔ builder.build = .ok store) ∧
    ∀ failure, builder.build = .error failure →
      (failure.kind = .lookup ∧ builder.NamesUnknownType) ∨
        (failure.kind = .invalidSpec ∧ builder.Malformed) := by
  refine ⟨exists_build_iff, fun store built => ?_, fun definitions permuted store => build_perm permuted,
    fun failure => kind_of_build_eq_error⟩
  obtain ⟨entities, -, -, same⟩ := build_eq_ok_iff.mp built
  refine ⟨ids_of_build built, fun id definition => realized_of_build built, ?_, ?_⟩
  · rw [same]
  · rw [same]

end Builder

/-! ### A sample -/

namespace Shelf

def partReference : Reference :=
  ⟨"entry", "part", true⟩

/-- Refers to `entry:part` in a list, and has two compose steps. -/
def wholeDefinition : Definition :=
  { value := some (.list [.built (.entity partReference)])
    compose := [.pickKeys ["kept"], .addValues [("kept", .null)]] }

def whole : Entity :=
  ⟨"whole", .list [.entity partReference], none, none, none, false,
    .hash [.pickKeys ["kept"], .addValues [("kept", .null)]]⟩

def builder : Builder :=
  (Builder.empty.add "hash:whole" wholeDefinition).add "entry:part" {}

def store : Store :=
  ⟨[("entry:part", Separators.keeping "part"), ("hash:whole", whole)], [], none⟩

theorem compile_whole : Entity.compile "hash:whole" wholeDefinition = .ok whole := by
  have realizes : whole.Realizes wholeDefinition :=
    ⟨rfl, .none, .none, .none, rfl, .hash (.cons (.pickKeys _) (.cons (.addValues _) .nil)) ⟨rfl, rfl⟩⟩
  exact Entity.compile_eq_ok_iff.mpr ⟨by decide, by decide, realizes⟩

theorem compileAll_eq : Builder.compileAll [] builder.definitions = .ok store.entities := by
  have compilePart : Entity.compile "entry:part" {} = .ok (Separators.keeping "part") :=
    Separators.compile_keeping (by decide) (by decide)
  refine Builder.compileAll_cons_eq_ok_iff.mpr ⟨rfl, whole, compile_whole, ?_⟩
  exact Builder.compileAll_cons_eq_ok_iff.mpr ⟨rfl, _, compilePart, rfl⟩

theorem build_eq : builder.build = .ok store :=
  Builder.build_eq_ok_iff.mpr ⟨store.entities, compileAll_eq, rfl, rfl⟩

/-- A second definition under a registered id is refused. -/
theorem build_again_eq :
    (builder.add "entry:part" {}).build = .error (Builder.duplicate "entry:part") := by
  have refused : Builder.compileAll [] (builder.add "entry:part" {}).definitions =
      .error (Builder.duplicate "entry:part") :=
    Builder.compileAll_eq_error_iff.mpr ⟨builder.definitions, "entry:part", {}, [], store.entities, rfl,
      compileAll_eq, .inl ⟨rfl, rfl⟩⟩
  rw [Builder.build, refused]
  rfl

end Shelf

/-- In the sample the definitions are registered in descending order. The other order gives the same store,
    and one more definition under one of the ids is too much. -/
theorem Builder.build_iff_wellFormed_sample :
    Shelf.builder.build = .ok Shelf.store ∧ Shelf.builder.WellFormed ∧
      Shelf.store.ids.Perm ["hash:whole", "entry:part"] ∧
      { Shelf.builder with definitions := Shelf.builder.definitions.reverse }.build = .ok Shelf.store ∧
      (Shelf.builder.add "entry:part" {}).build = .error (Builder.duplicate "entry:part") ∧
      (Shelf.builder.add "entry:part" {}).Malformed := by
  obtain ⟨builds, holds, order, -⟩ := Builder.build_iff_wellFormed Shelf.builder
  obtain ⟨-, -, -, explained⟩ := Builder.build_iff_wellFormed (Shelf.builder.add "entry:part" {})
  refine ⟨Shelf.build_eq, builds.mp ⟨_, Shelf.build_eq⟩, (holds _ Shelf.build_eq).1,
    (order _ (List.reverse_perm _) _).mpr Shelf.build_eq, Shelf.build_again_eq, ?_⟩
  rcases explained _ Shelf.build_again_eq with ⟨⟨⟩, -⟩ | ⟨-, malformed⟩
  exact malformed

end Reshape
