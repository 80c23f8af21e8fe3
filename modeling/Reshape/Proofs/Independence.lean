/-
Module: Reshape.Proofs.Independence
Layer: Proofs
Purpose: Context that is not read does not matter. Two accumulators that differ in one part of the context
  only are resolved alike, up to that part, by a reducer behind which neither paths nor functions read it.
Main exports: ContextField, Accumulator.AgreeBut, Path.Reads, Function.Ignores, Store.Overlooks,
  Accumulator.read_eq_of_agreeBut, Coupling.apart, Store.overlooks_owner, Store.agreeBut_resolve,
  Store.unread_context_is_irrelevant
-/
import Reshape.Proofs.Depth
import Reshape.Transform

namespace Reshape

/-! ### Parts of the context -/

/-- A part of the context around the value. The switches are the parts of the parameters that turn on the
    trace and the watcher; the parameters are the caller's values together with the switches. The owner is
    the whole reference by which it was entered. -/
inductive ContextField where
  | locals
  | params
  | switches
  | values
  | owner
  deriving Repr, Inhabited, DecidableEq

/-- The field of the record in which paths find that part. The owner is in none. -/
def ContextField.name? : ContextField → Option String
  | .locals => some "locals"
  | .params => some "params"
  | .switches => some "params"
  | .values => some "values"
  | .owner => none

/-- The accumulators are the same but for that part of the context. -/
structure Accumulator.AgreeBut (field : ContextField) (left right : Accumulator) : Prop where
  value : left.value = right.value
  locals : field ≠ .locals → left.locals = right.locals
  paramValues : field ≠ .params → left.params.values = right.params.values
  switches : field ≠ .params → field ≠ .switches → left.params = right.params
  values : field ≠ .values → left.values = right.values
  reference : field ≠ .owner → left.reference = right.reference
  failure : left.failure = right.failure

/-- The path starts from the whole record, or from the field that shows that part of the context. -/
def Path.Reads (field : ContextField) (path : Path) : Prop :=
  path.root = .accumulator ∧
    ∃ name, field.name? = some name ∧
      (path.segments = [] ∨ path.segments.head? = some (.key name))

/-- Both endings are of the same sort: with accumulators that are the same but for that part of the context,
    with the same failure, or unfinished. -/
def Ending.AgreeBut (field : ContextField) : Ending Accumulator → Ending Accumulator → Prop
  | .finished left, .finished right => left.AgreeBut field right
  | .failed left, .failed right => left = right
  | .unfinished, .unfinished => True
  | _, _ => False

/-- What the function comes to does not depend on that part of the context, apart from that part of an
    accumulator that it answers with. -/
def Function.Ignores (field : ContextField) (function : Function) : Prop :=
  ∀ left right, left.AgreeBut field right →
    (function.apply left).ending.AgreeBut field (function.apply right).ending

/-- No path and no function that resolving the reducer can come to reads that part of the context. -/
structure Store.Overlooks (store : Store) (reducer : Reducer) (field : ContextField) : Prop where
  paths : ∀ path, store.Reaches reducer (.path path) → ¬ path.Reads field
  functions : ∀ function, store.Reaches reducer (.function function) → function.Ignores field

/-! ### Reading -/

namespace Accumulator

variable {field : ContextField} {left right : Accumulator}

theorem AgreeBut.withValue (agree : left.AgreeBut field right) (value : Value) :
    (left.withValue value).AgreeBut field (right.withValue value) :=
  { agree with value := rfl }

theorem AgreeBut.withFailure (agree : left.AgreeBut field right) (failure : Option Failure) :
    (left.withFailure failure).AgreeBut field (right.withFailure failure) :=
  { agree with failure := rfl }

/-- Only the switches differ where the parameters hold the same values. -/
theorem agreeBut_switches (acc : Accumulator) {params : Params} (same : params.values = acc.params.values) :
    ({ acc with params } : Accumulator).AgreeBut .switches acc where
  value := rfl
  locals _ := rfl
  paramValues _ := same
  switches _ other := absurd rfl other
  values _ := rfl
  reference _ := rfl
  failure := rfl

/-- Only the owner differs where another entity is entered. -/
theorem agreeBut_owner (acc : Accumulator) (reference : Option Reference) :
    (acc.withReference reference).AgreeBut .owner acc where
  value := rfl
  locals _ := rfl
  paramValues _ := rfl
  switches _ _ := rfl
  values _ := rfl
  reference other := absurd rfl other
  failure := rfl

/-- With the same reference as well, nothing differs. -/
theorem AgreeBut.eq_of_reference (agree : left.AgreeBut .owner right)
    (same : left.reference = right.reference) : left = right := by
  obtain ⟨value, locals, params, values, reference, failure⟩ := left
  obtain rfl : value = right.value := agree.value
  obtain rfl : locals = right.locals := agree.locals nofun
  obtain rfl : params = right.params := agree.switches nofun nofun
  obtain rfl : values = right.values := agree.values nofun
  obtain rfl : reference = right.reference := same
  obtain rfl : failure = right.failure := agree.failure
  rfl

/-- Accumulators that were left for an entity take their references back. -/
theorem AgreeBut.leave (agree : left.AgreeBut field right) {left' right' : Accumulator}
    (inside : left'.AgreeBut field right') :
    (left'.withReference left.reference).AgreeBut field (right'.withReference right.reference) :=
  { inside with reference := agree.reference }

/-- Every field of the record shows the same, apart from the one that shows the part in question. -/
theorem field?_eq_of_agreeBut (agree : left.AgreeBut field right) {name : String}
    (other : field.name? ≠ some name) : left.field? name = right.field? name := by
  have differs {part : ContextField} (shown : part.name? = some name) : field ≠ part := by
    intro same
    exact other (same ▸ shown)
  simp only [field?]
  split
  · rw [agree.value]
  split
  · next shown => rw [agree.locals (differs (shown ▸ rfl))]
  split
  · next shown => rw [agree.switches (differs (shown ▸ rfl)) (differs (shown ▸ rfl))]
  split
  · next shown => rw [agree.values (differs (shown ▸ rfl))]
  split
  · rw [agree.failure]
  · rfl

/-- A part that no field shows does not show in the record either. -/
theorem record_eq_of_agreeBut (agree : left.AgreeBut field right) (hidden : field.name? = none) :
    left.record = right.record := by
  cases field with
  | owner =>
      have locals := agree.locals nofun
      have params := agree.switches nofun nofun
      have values := agree.values nofun
      simp only [record, agree.value, agree.failure, locals, params, values]
  | _ => cases hidden

/-- A path that does not read the part in question reads the same. -/
theorem read_eq_of_agreeBut (agree : left.AgreeBut field right) {path : Path}
    (unread : ¬ path.Reads field) : left.read path = right.read path := by
  obtain ⟨raw, root, segments, isCollection⟩ := path
  cases root with
  | value => simp only [read, agree.value]
  | accumulator =>
      cases segments with
      | nil =>
          have hidden : field.name? = none := by
            rw [Option.eq_none_iff_forall_ne_some]
            intro name shown
            exact unread ⟨rfl, name, shown, .inl rfl⟩
          simp only [read, record_eq_of_agreeBut agree hidden]
      | cons segment rest =>
          cases segment with
          | index n => rfl
          | key name =>
              have other : field.name? ≠ some name := by
                intro shown
                exact unread ⟨rfl, name, shown, .inr rfl⟩
              simp only [read, field?_eq_of_agreeBut agree other]

end Accumulator

/-! ### Two runs -/

namespace Coupling

/-- Two runs whose accumulators are the same but for one part of the context, and which fail alike. What
    happens on the way may differ, since events show accumulators. -/
def apart (field : ContextField) : Coupling :=
  { agreement False with
    state := Accumulator.AgreeBut field
    trace := fun _ _ => True
    value_eq := Accumulator.AgreeBut.value
    state_withValue := fun value agree => agree.withValue value
    trace_nil := trivial
    trace_append := fun _ _ => trivial }

variable {field : ContextField}

theorem couples_apart_iff {left right : Run Accumulator} :
    (apart field).Couples (apart field).state left right ↔ left.ending.AgreeBut field right.ending := by
  obtain ⟨events, ending⟩ := left
  obtain ⟨events', ending'⟩ := right
  cases ending <;> cases ending' <;> simp [Couples, Endings, apart, agreement, Ending.AgreeBut]

/-- Entering and leaving an entity, and its error hook, do with both accumulators the same, also if both
    enter it by different references where the owner does not matter. -/
theorem apart_encloses {reference reference' : Reference} (same : field ≠ .owner → reference = reference')
    (entity : Entity) :
    (apart field).Encloses (apart field) (fun _ _ => apart field) reference reference' entity where
  enters agree := { agree with reference := fun other => congrArg some (same other) }
  inspects _ := trivial
  leaves agree inside := agree.leave inside
  lives _ := trivial
  fails := id
  endless := id
  loose := id
  attaches agree failed := failed ▸ agree.withFailure _
  recovers agree _ inside := agree.leave (inside.withFailure none)
  handles _ _ _ := trivial
  exhausts failed second := failed ▸ second ▸ rfl
  hookEndless _ := id
  hookLoose _ := id

end Coupling

namespace Store

open Coupling (apart apart_encloses couples_apart_iff)

variable {store : Store} {reducer : Reducer} {field : ContextField}

theorem Overlooks.step {steps : List Reducer} (overlooks : store.Overlooks (.list steps) field)
    {step : Reducer} (member : step ∈ steps) : store.Overlooks step field where
  paths path reaches := overlooks.paths path (.step member reaches)
  functions function reaches := overlooks.functions function (.step member reaches)

theorem Overlooks.slot {reference : Reference} (overlooks : store.Overlooks (.entity reference) field)
    {entity : Entity} (found : store.get? reference.id = some entity) {reducer : Reducer}
    (member : reducer ∈ entity.reducers) : store.Overlooks reducer field where
  paths path reaches := overlooks.paths path (.slot found member reaches)
  functions function reaches := overlooks.functions function (.slot found member reaches)

/-- Accumulators that differ in what the reducers of an entity overlook go through the entity alike. -/
theorem couples_enter {entity : Entity} {depth : Nat} {left right : Accumulator}
    (keeps : ∀ inner ∈ entity.reducers,
      (apart field).Keeps (store.resolve depth) (store.resolve depth) inner)
    {reference reference' : Reference} (same : field ≠ .owner → reference = reference')
    (agree : left.AgreeBut field right) :
    (apart field).Couples (apart field).state
      (Resolver.enter store (store.resolve depth) reference entity left)
      (Resolver.enter store (store.resolve depth) reference' entity right) := by
  have parts : (apart field).Parts (store.resolve depth) (store.resolve depth) store store entity :=
    .of_eq Iff.rfl (fun slot member => keeps slot.2 (Entity.mem_reducers_of_slot member)) rfl
  exact Coupling.enter (apart_encloses same entity) parts
    (fun present _ => keeps _ (Entity.mem_reducers_of_error present)) agree

/-- One level after the other, accumulators that differ in what is overlooked are resolved alike. -/
theorem keeps_of_overlooks (depth : Nat) (overlooks : store.Overlooks reducer field) :
    (apart field).Keeps (store.resolve depth) (store.resolve depth) reducer := by
  induction depth generalizing reducer with
  | zero =>
      intro left right _
      exact couples_apart_iff.mpr trivial
  | succ depth ih =>
      intro left right agree
      cases reducer with
      | path path =>
          have same := Accumulator.read_eq_of_agreeBut agree (overlooks.paths path (.here _))
          simp only [resolve, same]
          exact Coupling.pure (agree.withValue _)
      | function function =>
          apply couples_apart_iff.mpr
          exact overlooks.functions function (.here _) left right agree
      | list steps => exact Coupling.sequence (fun step member => ih (overlooks.step member)) agree
      | entity reference =>
          refine Coupling.reference trivial rfl (fun _ => rfl) ?_ agree
          intro entity found left right agree
          exact couples_enter (fun inner member => ih (overlooks.slot found member)) (fun _ => rfl) agree

/-- No path shows the owner, so that only functions can read it. -/
theorem overlooks_owner
    (ignores : ∀ function, store.Reaches reducer (.function function) → function.Ignores .owner) :
    store.Overlooks reducer .owner where
  paths := by
    rintro path - ⟨-, name, shown, -⟩
    cases shown
  functions := ignores

theorem agreeBut_resolve (overlooks : store.Overlooks reducer field) (depth : Nat)
    {left right : Accumulator} (agree : left.AgreeBut field right) :
    (store.resolve depth reducer left).ending.AgreeBut field (store.resolve depth reducer right).ending :=
  couples_apart_iff.mp (keeps_of_overlooks depth overlooks agree)

/-- Where nothing behind an entity reads the owner, it may be entered by any reference. -/
theorem agreeBut_enter {entity : Entity} (overlooks : ∀ inner ∈ entity.reducers, store.Overlooks inner .owner)
    (depth : Nat) (reference reference' : Reference) (acc : Accumulator) :
    (Resolver.enter store (store.resolve depth) reference entity acc).ending.AgreeBut .owner
      (Resolver.enter store (store.resolve depth) reference' entity acc).ending :=
  couples_apart_iff.mp (couples_enter (fun inner member => keeps_of_overlooks depth (overlooks inner member))
    (absurd rfl) (acc.agreeBut_owner acc.reference))

end Store

theorem Ending.AgreeBut.unfinished_iff {field : ContextField} {left right : Ending Accumulator}
    (agree : left.AgreeBut field right) : left = .unfinished ↔ right = .unfinished := by
  cases left <;> cases right <;> simp_all [AgreeBut]

theorem Ending.AgreeBut.failed_iff {field : ContextField} {left right : Ending Accumulator}
    (agree : left.AgreeBut field right) {failure : Failure} :
    left = .failed failure ↔ right = .failed failure := by
  cases left <;> cases right <;> simp_all [AgreeBut]

/-- Endings that differ in the owner only are the same if both have been given back to the same one. -/
theorem Ending.AgreeBut.eq_of_reference {left right : Ending Accumulator} {reference : Option Reference}
    (agree : left.AgreeBut .owner right)
    (one : ∀ last, left = .finished last → last.reference = reference)
    (other : ∀ last, right = .finished last → last.reference = reference) : left = right := by
  cases left with
  | finished last =>
      cases right with
      | finished last' =>
          have same : last.reference = last'.reference := (one _ rfl).trans (other _ rfl).symm
          exact congrArg Ending.finished (Accumulator.AgreeBut.eq_of_reference agree same)
      | failed failure => exact agree.elim
      | unfinished => exact agree.elim
  | failed failure => exact (agree.failed_iff.mp rfl).symm
  | unfinished => exact (agree.unfinished_iff.mp rfl).symm

/-- Whatever part of the context is not read, the values are the same. -/
theorem Ending.AgreeBut.map_value {field : ContextField} {left right : Ending Accumulator}
    (agree : left.AgreeBut field right) :
    left.map Accumulator.value = right.map Accumulator.value := by
  cases left with
  | finished last =>
      cases right with
      | finished other => exact congrArg Ending.finished (Accumulator.AgreeBut.value agree)
      | failed failure => exact agree.elim
      | unfinished => exact agree.elim
  | failed failure =>
      cases right with
      | finished other => exact agree.elim
      | failed second => exact congrArg Ending.failed agree
      | unfinished => exact agree.elim
  | unfinished =>
      cases right with
      | finished other => exact agree.elim
      | failed second => exact agree.elim
      | unfinished => rfl

namespace Store

/-- Parts of the context that are not read do not matter. If no path and no function behind a reducer reads a
    part, then on two accumulators that are the same but for that part the reducer succeeds with accumulators
    that are, fails with the same failure, or comes to no end on either; and so it is within every limit on
    nesting. In particular, transformations by a reducer behind which no path reads `..params` and no function
    looks at the switches come to the same with and without a trace and a watcher. -/
theorem unread_context_is_irrelevant (store : Store) (reducer : Reducer) :
    (∀ field, store.Overlooks reducer field → ∀ left right : Accumulator, left.AgreeBut field right →
      (∀ depth, (store.resolve depth reducer left).ending.AgreeBut field
        (store.resolve depth reducer right).ending) ∧
      ((∃ run run', store.Resolves reducer left run ∧ store.Resolves reducer right run' ∧
          run.ending.AgreeBut field run'.ending) ∨
        (∀ run, ¬ store.Resolves reducer left run) ∧ ∀ run, ¬ store.Resolves reducer right run)) ∧
    (store.Overlooks reducer .switches → ∀ spec : Spec, spec.compile = .ok reducer →
      ∀ (input : Value) (options : Options) (trace isWatched : Bool),
        (store.transform spec input { options with trace, isWatched }).ending.AgreeBut .switches
          (store.transform spec input options).ending) := by
  constructor
  · intro field overlooks left right agree
    have alike := fun depth => agreeBut_resolve overlooks depth agree
    refine ⟨alike, ?_⟩
    by_cases ends : ∃ depth, (store.resolve depth reducer left).ending ≠ .unfinished
    · obtain ⟨depth, ends⟩ := ends
      have ends' := mt (alike depth).unfinished_iff.mpr ends
      exact .inl ⟨_, _, ⟨ends, depth, rfl⟩, ⟨ends', depth, rfl⟩, alike depth⟩
    · right
      constructor
      · rintro _ ⟨finished, depth, rfl⟩
        exact ends ⟨depth, finished⟩
      · rintro _ ⟨finished, depth, rfl⟩
        exact ends ⟨depth, mt (alike depth).unfinished_iff.mp finished⟩
  · intro overlooks spec compiled input options trace isWatched
    have agree : (store.start input { options with trace, isWatched }).AgreeBut .switches
        (store.start input options) :=
      (store.start input options).agreeBut_switches rfl
    simp only [transform, compiled]
    exact agreeBut_resolve overlooks _ agree

end Store

/-! ### A sample -/

namespace Greeting

/-- The path `..locals.name`. -/
def name : Path :=
  ⟨"..locals.name", .accumulator, [.key "locals", .key "name"], false⟩

/-- Remembers the value among the locals. -/
def remembering : Function :=
  .context fun acc => ⟨[], .ok (acc.withLocal "greeted" acc.value)⟩

def reference : Reference :=
  ⟨"entry", "greeting", false⟩

/-- Reads a name and remembers it. The watcher is shown the entity. -/
def greeting : Entity :=
  ⟨"greeting", .list [.path name, .function remembering], none, none, none, true, .entry⟩

def store : Store :=
  ⟨[("entry:greeting", greeting)], [], none⟩

/-- What a transformation without options starts from, but for one local. -/
def plain : Accumulator :=
  (Accumulator.ofValue .null).withLocal "name" (.string "world")

/-- The same with a trace and a watcher. -/
def watched : Accumulator :=
  { plain with params := ⟨true, true, []⟩ }

theorem watched_agreeBut : watched.AgreeBut .switches plain :=
  plain.agreeBut_switches rfl

/-- What stands in the sample is a step of the one list. -/
theorem eq_of_reaches {inner : Reducer} (reaches : store.Reaches (.entity reference) inner)
    (noReference : inner ≠ .entity reference) :
    inner = greeting.value ∨ inner = .path name ∨ inner = .function remembering := by
  rcases reaches.holds with holds | ⟨id, entity, found, reducer, member, holds⟩
  · cases holds
    exact absurd rfl noReference
  · simp only [Store.get?, store, Keyed.get?, Option.ite_none_right_eq_some, Option.some.injEq] at found
    obtain ⟨-, rfl⟩ := found
    obtain rfl : reducer = greeting.value := by
      simpa [Entity.reducers, greeting, Body.reducers] using member
    rcases Reducer.Holds.list_iff.mp holds with same | ⟨step, inSteps, holds⟩
    · exact .inl same.symm
    · obtain rfl | rfl : step = .path name ∨ step = .function remembering := by simpa using inSteps
      · cases holds
        exact .inr (.inl rfl)
      · cases holds
        exact .inr (.inr rfl)

theorem overlooks_switches : store.Overlooks (.entity reference) .switches where
  paths := by
    intro path reaches reads
    rcases eq_of_reaches reaches nofun with same | same | same
    · cases same
    · cases same
      obtain ⟨-, _, ⟨⟩, shown⟩ := reads
      simp [name] at shown
    · cases same
  functions := by
    intro function reaches left right agree
    rcases eq_of_reaches reaches nofun with same | same | same
    · cases same
    · cases same
    · cases same
      refine { agree with locals := fun _ => ?_ }
      show Keyed.insert left.locals _ _ = Keyed.insert right.locals _ _
      rw [agree.locals nofun, agree.value]

end Greeting

/-- The sample succeeds with a trace and a watcher as it does without, and with the name as value. -/
theorem Store.unread_context_is_irrelevant_sample :
    let spec := Spec.built (.entity Greeting.reference)
    let run (acc : Accumulator) := Greeting.store.resolve 3 (.entity Greeting.reference) acc
    Greeting.store.Overlooks (.entity Greeting.reference) .switches ∧
      Greeting.watched.AgreeBut .switches Greeting.plain ∧
      (∃ last, (run Greeting.plain).ending = .finished last ∧ last.value = .string "world") ∧
      (run Greeting.watched).ending.AgreeBut .switches (run Greeting.plain).ending ∧
      (Greeting.store.transform spec .null ⟨[], [], true, true⟩).ending.AgreeBut .switches
        (Greeting.store.transform spec .null .empty).ending := by
  intro spec run
  obtain ⟨resolves, transforms⟩ :=
    unread_context_is_irrelevant Greeting.store (.entity Greeting.reference)
  obtain ⟨alike, -⟩ := resolves .switches Greeting.overlooks_switches Greeting.watched Greeting.plain
    Greeting.watched_agreeBut
  refine ⟨Greeting.overlooks_switches, Greeting.watched_agreeBut, ⟨_, rfl, rfl⟩, alike 3, ?_⟩
  exact transforms Greeting.overlooks_switches spec rfl .null .empty true true

end Reshape
