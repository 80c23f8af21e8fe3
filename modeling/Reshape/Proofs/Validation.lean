/-
Module: Reshape.Proofs.Validation
Layer: Proofs
Purpose: Schemas whose values are validated. Without hooks that put something else in place of the value or of
  the failure, what such an entity finishes with has been accepted, wherever the entity stands; and what has
  been said about a value that is refused gets to the caller as it is.
Main exports: Validator.Accepts, Store.Screens, Store.Screens.finished_iff, Store.Screens.refuses,
  Store.Screens.accepts_of_entered, Store.Screens.accepts_of_finished, Store.validator_cannot_be_bypassed
-/
import Reshape.Proofs.MapFusion
import Reshape.Proofs.Propagation
import Reshape.Proofs.WorkingValue

namespace Reshape

/-- The validator accepts the value, whatever else it has to say about it. -/
def Validator.Accepts (validator : Validator) (schema options : Keyed Value) (value : Value) : Prop :=
  (validator value (.object schema) (.object options)).valid = true

/-- The reference with the mark for every element. -/
def Reference.marked (reference : Reference) : Reference :=
  { reference with isCollection := true }

namespace Store

/-- `store.Screens validator entity schema options`: the entity is a schema in a store with a validator, and no
    hook gets at its value after the validator, or at its failure. -/
structure Screens (store : Store) (validator : Validator) (entity : Entity) (schema options : Keyed Value) :
    Prop where
  installed : store.validator = some validator
  kind : entity.body = .schema schema options
  noAfter : entity.after = none
  noError : entity.error = none

namespace Screens

variable {store : Store} {depth : Nat} {validator : Validator} {entity : Entity} {schema options : Keyed Value}
  {acc begun valued next : Accumulator} {reference : Reference}

/-- Behind its value, the entity does what the validator says. -/
theorem ending_of_body (screens : store.Screens validator entity schema options)
    (came : (store.resolve depth entity.value begun).ending = .finished valued) :
    (Resolver.body store (store.resolve depth) entity begun).ending =
      if (validator valued.value (.object schema) (.object options)).valid then .finished valued
      else .failed (Resolver.refused entity (validator valued.value (.object schema) (.object options))) := by
  rw [Resolver.ending_of_body came, Entity.checks, Entity.composition, screens.kind, List.append_nil,
    Run.inOrder_singleton, Resolver.validate, screens.installed]
  dsimp only
  split <;> rfl

/-- By whatever reference it is entered, the entity succeeds with the value that has been shown to the
    validator, if that is accepted. -/
theorem finished_iff (screens : store.Screens validator entity schema options) :
    (Resolver.enter store (store.resolve depth) reference entity acc).ending = .finished next ↔
      ∃ begun valued, store.Valued depth entity (acc.withReference (some reference)) begun valued ∧
        validator.Accepts schema options valued.value ∧ valued.withReference acc.reference = next := by
  rw [Resolver.enter_finished_iff_of_none screens.noError]
  constructor
  · rintro ⟨last, finished, rfl⟩
    obtain ⟨begun, judged, before, bodied, after⟩ := Resolver.finished_of_lifecycle finished
    obtain ⟨valued, value, -⟩ := Resolver.finished_of_body bodied
    rw [screens.ending_of_body value] at bodied
    rw [screens.noAfter] at after
    cases after
    split at bodied
    · rename_i accepted
      cases bodied
      exact ⟨begun, _, ⟨before, value⟩, accepted, rfl⟩
    · cases bodied
  · rintro ⟨begun, valued, ⟨before, value⟩, accepted, rfl⟩
    have bodied : (Resolver.body store (store.resolve depth) entity begun).ending = .finished valued :=
      (screens.ending_of_body value).trans (if_pos accepted)
    have after : (Resolver.hook (store.resolve depth) entity "after" entity.after valued).ending =
        .finished valued := by
      rw [screens.noAfter]
      rfl
    have rest := Run.bind_finished_iff.mpr ⟨valued, bodied, after⟩
    exact ⟨valued, Run.bind_finished_iff.mpr ⟨begun, before, rest⟩, rfl⟩

/-- What is not accepted fails with all that the validator has to say. -/
theorem refuses (screens : store.Screens validator entity schema options)
    (came : store.Valued depth entity (acc.withReference (some reference)) begun valued)
    (rejected : ¬ validator.Accepts schema options valued.value) :
    (Resolver.enter store (store.resolve depth) reference entity acc).ending =
      .failed (Resolver.refused entity (validator valued.value (.object schema) (.object options))) := by
  have bodied := (screens.ending_of_body came.value).trans (if_neg rejected)
  refine Resolver.ending_of_failed_of_none screens.noError ?_
  exact Run.bind_failed_iff.mpr (.inr ⟨begun, came.before, Run.bind_failed_iff.mpr (.inl bodied)⟩)

/-- By whatever reference it is entered, the entity finishes with a value that has been accepted. -/
theorem accepts_of_entered (screens : store.Screens validator entity schema options)
    (finished : (store.alone depth (.entity reference entity acc)).ending = .finished next) :
    validator.Accepts schema options next.value := by
  cases depth with
  | zero => cases finished
  | succ depth =>
      obtain ⟨begun, valued, -, accepted, rfl⟩ := screens.finished_iff.mp finished
      exact accepted

/-- Wherever the reference stands, its value has been accepted. -/
theorem accepts_of_finished (screens : store.Screens validator entity schema options)
    (found : store.get? reference.id = some entity) (plain : reference.isCollection = false)
    (finished : (store.resolve depth (.entity reference) acc).ending = .finished next) :
    validator.Accepts schema options next.value :=
  screens.accepts_of_entered ((alone_reference found plain).ending.symm.trans finished)

/-- The value that the reference comes to has been accepted, if it comes to one. -/
theorem accepts_outcome (screens : store.Screens validator entity schema options)
    (found : store.get? reference.id = some entity) (plain : reference.isCollection = false)
    (finishes : store.Finishes depth acc (.entity reference)) :
    validator.Accepts schema options (store.outcome depth acc (.entity reference)) := by
  obtain ⟨last, finished, same⟩ := finishes
  exact same ▸ screens.accepts_of_finished found plain finished

variable {items results : List Value} {keys : Keyed Reducer} {key : String}

/-- Where branches finish with accepted values only, so do all of them side by side. -/
theorem accepts_of_overItems {branch : Accumulator → Run Accumulator}
    (accepts : ∀ start last, (branch start).ending = .finished last →
      validator.Accepts schema options last.value)
    (finished : (Resolver.overItems branch acc items).ending = .finished results) :
    results.length = items.length ∧ ∀ result ∈ results, validator.Accepts schema options result := by
  rw [Resolver.overItems, Run.fanOut_finished_iff, List.forall₂_map_left_iff] at finished
  refine ⟨finished.length_eq.symm, ?_⟩
  induction finished with
  | nil => exact List.forall_mem_nil _
  | cons head _ ih =>
      obtain ⟨last, ended, rfl⟩ := Run.map_finished_iff.mp head
      exact List.forall_mem_cons.mpr ⟨accepts _ last ended, ih⟩

theorem accepts_of_marked (screens : store.Screens validator entity schema options)
    (found : store.get? reference.id = some entity) (array : acc.value = .array items)
    (finished : (store.resolve depth (.entity reference.marked) acc).ending = .finished next) :
    ∃ results, next.value = .array results ∧ results.length = items.length ∧
      ∀ result ∈ results, validator.Accepts schema options result := by
  cases depth with
  | zero => cases finished
  | succ depth =>
      have found' : store.get? reference.marked.id = some entity := found
      rw [(FansOut.reference rfl found' array).alike.ending, together_overItems] at finished
      obtain ⟨results, overItems, rfl⟩ := Run.map_finished_iff.mp finished
      exact ⟨results, rfl, accepts_of_overItems (fun _ _ => screens.accepts_of_entered) overItems⟩

theorem accepts_of_map (screens : store.Screens validator entity schema options)
    (found : store.get? reference.id = some entity) (plain : reference.isCollection = false)
    {collection : Entity}
    (finished : (Resolver.collectionStep (store.resolve depth) collection (.map (.entity reference))
      acc).ending = .finished next) :
    ∃ results, next.value = .array results ∧
      ∀ result ∈ results, validator.Accepts schema options result := by
  by_cases array : acc.HasArray
  · obtain ⟨items, array⟩ := array
    rw [Resolver.collectionStep_eq rfl array] at finished
    obtain ⟨results, overItems, rfl⟩ := Run.map_finished_iff.mp finished
    have accepts := accepts_of_overItems (fun _ _ => screens.accepts_of_finished found plain) overItems
    exact ⟨results, rfl, accepts.2⟩
  · rw [wrongType_of_noArray rfl (Accumulator.not_hasArray_iff.mp array)] at finished
    cases finished

theorem accepts_of_keys (screens : store.Screens validator entity schema options)
    (found : store.get? reference.id = some entity) (plain : reference.isCollection = false)
    (ordered : Keyed.Ordered keys) (present : Keyed.get? keys key = some (.entity reference))
    {step : HashStep} (computes : step = .mapKeys keys ∨ step = .addKeys keys)
    (finished : (Resolver.hashStep (store.resolve depth) step acc).ending = .finished next) :
    ∃ value, next.value.get? key = some value ∧ validator.Accepts schema options value := by
  have some : keys ≠ [] := by
    rintro rfl
    cases present
  have inStep : .entity reference ∈ keys.map Prod.snd := List.mem_map_of_mem (Keyed.mem_of_get? present)
  have atKey : Keyed.get? (Keyed.mapValues (store.outcome depth acc) keys) key =
      Option.some (store.outcome depth acc (.entity reference)) := by
    rw [Keyed.get?_mapValues, present]
    rfl
  rcases computes with rfl | rfl
  · rw [Resolver.hashStep_mapKeys some] at finished
    obtain ⟨computed, overKeys, rfl⟩ := Run.map_finished_iff.mp finished
    obtain ⟨finishes, rfl⟩ := overKeys_finished_iff.mp overKeys
    exact ⟨_, atKey, screens.accepts_outcome found plain (finishes _ inStep)⟩
  · rw [Resolver.hashStep_addKeys some] at finished
    obtain ⟨computed, overKeys, rfl⟩ := Run.map_finished_iff.mp finished
    obtain ⟨finishes, rfl⟩ := overKeys_finished_iff.mp overKeys
    refine ⟨_, ?_, screens.accepts_outcome found plain (finishes _ inStep)⟩
    show Keyed.get? (Keyed.merge _ _) key = _
    rw [Keyed.get?_merge (ordered.mapValues _), atKey]
    rfl

end Screens

/-- A schema that has its value validated, and has neither of the hooks that come after the validator, never
    finishes with a value that the validator does not accept. So what it comes to has been accepted: for a
    reference, for each item that the reference with the mark or `map` goes over, and under each key that a step
    computes. If the validator refuses the value, that is the failure of the entity, with the mark or without,
    and out of all slots that it surfaces from, it has the kind and the diagnostics that it was raised with, even
    if there are none. -/
theorem validator_cannot_be_bypassed {store : Store} {validator : Validator} {entity : Entity}
    {schema options : Keyed Value} (screens : store.Screens validator entity schema options)
    {reference : Reference} (found : store.get? reference.id = some entity)
    (plain : reference.isCollection = false) (depth : Nat) (acc : Accumulator) :
    let accepts (value : Value) := validator.Accepts schema options value
    (∀ next, (store.resolve depth (.entity reference) acc).ending = .finished next → accepts next.value) ∧
      (∀ items next, acc.value = .array items →
        (store.resolve depth (.entity reference.marked) acc).ending = .finished next →
        ∃ results, next.value = .array results ∧ results.length = items.length ∧
          ∀ result ∈ results, accepts result) ∧
      (∀ collection next,
        (Resolver.collectionStep (store.resolve depth) collection (.map (.entity reference)) acc).ending =
          .finished next →
        ∃ results, next.value = .array results ∧ ∀ result ∈ results, accepts result) ∧
      (∀ keys key step next, Keyed.Ordered keys → Keyed.get? keys key = some (.entity reference) →
        step = .mapKeys keys ∨ step = .addKeys keys →
        (Resolver.hashStep (store.resolve depth) step acc).ending = .finished next →
        ∃ value, next.value.get? key = some value ∧ accepts value) ∧
      ∀ via begun valued, store.Valued depth entity (acc.withReference (some via)) begun valued →
        ¬ accepts valued.value →
        let verdict := validator valued.value (.object schema) (.object options)
        let refusal := Resolver.refused entity verdict
        (store.alone (depth + 1) (.entity via entity acc)).ending = .failed refusal ∧
          (via = reference →
            (store.resolve (depth + 1) (.entity reference) acc).ending = .failed refusal) ∧
          ∀ limit outer frames,
            store.Surfaces (depth + 1) (.entity via entity acc) limit outer frames →
            (store.alone limit outer).ending = .failed (refusal.under frames) ∧
              (refusal.under frames).kind = .validation ∧
              (refusal.under frames).diagnostics = verdict.errors := by
  intro accepts
  refine ⟨?_, ?_, ?_, ?_, ?_⟩
  · exact fun next finished => screens.accepts_of_finished found plain finished
  · exact fun items next array finished => screens.accepts_of_marked found array finished
  · exact fun collection next finished => screens.accepts_of_map found plain finished
  · exact fun keys key step next ordered present computes finished =>
      screens.accepts_of_keys found plain ordered present computes finished
  · intro via begun valued came rejected verdict refusal
    have failed : (store.alone (depth + 1) (.entity via entity acc)).ending = .failed refusal :=
      screens.refuses came rejected
    refine ⟨failed, ?_, fun limit outer frames surfaces => ⟨surfaces.failed failed, ?_, ?_⟩⟩
    · rintro rfl
      exact (alike_entity found plain).ending.trans failed
    · exact refusal.kind_under frames
    · exact refusal.diagnostics_under frames

end Store

/-! ### A sample -/

namespace Gate

/-- Everything but null is accepted; about null there is nothing to say. -/
def validator : Validator :=
  fun value _ _ => ⟨!value.isNull, []⟩

def person : Entity :=
  ⟨"person", .identity, none, none, none, false, .schema [] []⟩

def reference : Reference :=
  ⟨"schema", "person", false⟩

def peopleReference : Reference :=
  ⟨"collection", "people", false⟩

def pageReference : Reference :=
  ⟨"entry", "page", false⟩

/-- Persons, each of them validated. -/
def people : Entity :=
  .ofMap "people" (.entity reference)

def listed : Reducer :=
  .list [.entity peopleReference]

def page : Entity :=
  .ofValue "page" listed

def store : Store :=
  ⟨[("collection:people", people), ("entry:page", page), ("schema:person", person)], [], some validator⟩

theorem screens : store.Screens validator person [] [] :=
  ⟨rfl, rfl, rfl, rfl⟩

def given : Accumulator :=
  .ofValue (.array [.bool true, .string "x"])

def refusal : Failure :=
  Resolver.refused person ⟨false, []⟩

/-- Two persons, of whom the second is missing. -/
def gap : Accumulator :=
  .ofValue (.array [.bool true, .null])

/-- The accumulator inside the collection. -/
def inside : Accumulator :=
  gap.withReference (some peopleReference)

/-- The accumulator inside the page. -/
def onPage : Accumulator :=
  gap.withReference (some pageReference)

/-- The second item decides what becomes of `map`. -/
theorem decides :
    store.Decides 2 (Resolver.collectionStep (store.resolve 2) people (.map (.entity reference)) inside)
      (.reducer (.entity reference) (inside.withValue .null)) := by
  have split : (FanOut.overItems (.reducer (.entity reference)) inside [.bool true, .null]
        Value.array).branches =
      [.reducer (.entity reference) (inside.withValue (.bool true))] ++
        .reducer (.entity reference) (inside.withValue .null) :: [] := rfl
  exact .sideBySide (.step rfl rfl) split (List.forall_mem_singleton.mpr ⟨_, rfl⟩) (List.forall_mem_nil _)

/-- Its failure surfaces from the collection, and with that from the page. -/
theorem surfaces :
    store.Surfaces 2 (.entity reference person (inside.withValue .null)) 5
      (.reducer (.entity pageReference) gap)
      [⟨"entry:page", "value"⟩, ⟨"collection:people", "map"⟩] := by
  have stages : people.stages store (store.resolve 2) =
      [Resolver.slot (store.resolve 2) people "value" .identity, Resolver.requireArray people] ++
        (fun acc => (Resolver.collectionStep (store.resolve 2) people (.map (.entity reference)) acc).annotate
          (people.place "map")) :: [] := rfl
  have pageStages : page.stages store (store.resolve 4) =
      [] ++ Resolver.slot (store.resolve 4) page "value" listed :: [] := rfl
  have fromItem : store.Surfaces 2 (.entity reference person (inside.withValue .null)) 2
      (.reducer (.entity reference) (inside.withValue .null)) [] := .reference rfl rfl .here
  have fromPeople : store.Surfaces 2 (.entity reference person (inside.withValue .null)) 3
      (.reducer (.entity peopleReference) onPage) [⟨"collection:people", "map"⟩] :=
    .reference rfl rfl (.slot rfl stages rfl rfl decides fromItem)
  have fromList : store.Surfaces 2 (.entity reference person (inside.withValue .null)) 4
      (.reducer listed onPage) [⟨"collection:people", "map"⟩] :=
    @Store.Surfaces.step store 2 _ 3 [] [] _ _ _ _ rfl fromPeople
  exact .reference rfl rfl (.slot rfl pageStages rfl rfl (.alone (.reducer listed onPage)) fromList)

end Gate

/-- In the sample, whole arrays and single items pass the validator, and a null on the page is refused without a
    word. -/
theorem Store.validator_cannot_be_bypassed_sample :
    let accepts (value : Value) := Gate.validator.Accepts [] [] value
    let frames : List Frame := [⟨"entry:page", "value"⟩, ⟨"collection:people", "map"⟩]
    accepts Gate.given.value ∧
      (∀ result ∈ [.bool true, .string "x"], accepts result) ∧
      (∃ value, (Value.object [("all", Gate.given.value)]).get? "all" = some value ∧ accepts value) ∧
      (Gate.store.resolve 5 (.entity Gate.pageReference) Gate.gap).ending =
        .failed (Gate.refusal.under frames) ∧
      (Gate.refusal.under frames).kind = .validation ∧ (Gate.refusal.under frames).diagnostics = [] := by
  intro accepts frames
  have found : Gate.store.get? Gate.reference.id = some Gate.person := rfl
  obtain ⟨whole, marked, -, keyed, -⟩ := validator_cannot_be_bypassed Gate.screens found rfl 2 Gate.given
  obtain ⟨_, same, -, items⟩ := marked _ Gate.given rfl rfl
  obtain rfl := Value.array.inj same
  obtain ⟨-, -, -, -, refuses⟩ :=
    validator_cannot_be_bypassed Gate.screens found rfl 1 (Gate.inside.withValue .null)
  obtain ⟨-, -, surfaces⟩ := refuses Gate.reference _ _ ⟨rfl, rfl⟩ (by nofun)
  have atKey := keyed [("all", .entity Gate.reference)] "all" _ _ (List.pairwise_singleton _ _) rfl
    (.inl rfl) rfl
  exact ⟨whole _ rfl, items, atKey, surfaces 5 _ _ Gate.surfaces⟩

end Reshape
