/-
Module: Reshape.Proofs.Coupling.Lifecycle
Layer: Proofs
Purpose: Two runs side by side through the life of an entity. The part that the error hook guards
  stays within one coupling; entering and leaving the entity, and its error hook, change the coupling,
  and `Coupling.Encloses` says how the couplings have to fit together.
Main exports: Coupling.Parts, Coupling.Parts.of_eq, Coupling.lifecycle, Coupling.Encloses, Coupling.enter,
  Coupling.reference
-/
import Reshape.Proofs.Coupling.Compose
import Reshape.Proofs.Reach

namespace Reshape

namespace Coupling

variable {coupling : Coupling} {left right : Resolver} {l r : Accumulator}

/-! ### Slots and bodies -/

theorem slot {entity : Entity} {name : String} {reducer : Reducer}
    (h : (coupling.marked (entity.place name)).Keeps left right reducer)
    (tied : coupling.state l r) :
    coupling.Couples coupling.state (Resolver.slot left entity name reducer l)
      (Resolver.slot right entity name reducer r) :=
  annotate (h tied)

theorem hook {entity : Entity} {name : String} {reducer : Option Reducer}
    (h : ∀ present, reducer = some present →
      (coupling.marked (entity.place name)).Keeps left right present)
    (tied : coupling.state l r) :
    coupling.Couples coupling.state (Resolver.hook left entity name reducer l)
      (Resolver.hook right entity name reducer r) := by
  cases reducer with
  | none => exact pure tied
  | some present => exact slot (h present rfl) tied

/-- What a coupling needs of the parts of an entity. -/
structure Parts (coupling : Coupling) (left right : Resolver) (store store' : Store)
    (entity : Entity) : Prop where
  slots : ∀ {name reducer}, (name, reducer) ∈ entity.slots →
    (coupling.marked (entity.place name)).Keeps left right reducer
  validator : store.validator = store'.validator
  refuses : ∀ {failure}, entity.Refuses store failure → coupling.failure [] [] failure failure
  stepRefuses : ∀ {name failure}, entity.StepRefuses name failure →
    coupling.failure [] [] (failure.annotate (entity.place name)) (failure.annotate (entity.place name))

variable {store store' : Store} {entity : Entity}

/-- A coupling of runs that end in the same failures needs nothing but the reducers in the slots. -/
theorem Parts.of_eq
    (same : ∀ {events events' f g}, coupling.failure events events' f g ↔ f = g)
    (keeps : ∀ slot ∈ entity.slots, coupling.Keeps left right slot.2)
    (validator : store.validator = store'.validator) :
    coupling.Parts left right store store' entity where
  slots := by
    intro name reducer member l r tied
    refine (keeps _ member tied).mono id id id ?_ id
    intro events events' f g failed
    exact same.mpr (same.mp failed ▸ rfl)
  validator := validator
  refuses := fun _ => same.mpr rfl
  stepRefuses := fun _ => same.mpr rfl

theorem validate {schema options : Keyed Value} (parts : coupling.Parts left right store store' entity)
    (body : entity.body = .schema schema options) (tied : coupling.state l r) :
    coupling.Couples coupling.state (Resolver.validate store entity schema options l)
      (Resolver.validate store' entity schema options r) := by
  unfold Resolver.validate
  rw [← parts.validator, ← coupling.value_eq tied]
  cases installed : store.validator with
  | none => exact pure tied
  | some validator =>
      dsimp only
      split
      · exact pure tied
      · rename_i refused
        exact fail (parts.refuses (.invalid body installed (by simpa using refused)))

theorem composeHash {compose : List HashStep}
    (parts : coupling.Parts left right store store' entity) (body : entity.body = .hash compose)
    (tied : coupling.state l r) :
    coupling.Couples coupling.state (Resolver.composeHash left entity compose l)
      (Resolver.composeHash right entity compose r) := by
  unfold Resolver.composeHash
  rw [← coupling.value_eq tied]
  split
  · apply hashSteps ?_ tied
    intro step member reducer stands
    exact parts.slots (Entity.mem_slots_hash body member stands)
  · rename_i notObject
    apply fail
    apply parts.refuses
    apply Entity.Refuses.noObject body
    cases value : l.value <;> first | rfl | exact absurd value (notObject _)

theorem composeCollection {compose : List CollectionStep}
    (parts : coupling.Parts left right store store' entity)
    (body : entity.body = .collection compose) (tied : coupling.state l r) :
    coupling.Couples coupling.state (Resolver.composeCollection left entity compose l)
      (Resolver.composeCollection right entity compose r) := by
  unfold Resolver.composeCollection
  rw [← coupling.value_eq tied]
  split
  · rename_i items value
    have isArray : l.value.items?.isSome := by rw [value]; rfl
    apply collectionSteps ?_ parts.stepRefuses (List.nil_append compose ▸ body) (.inl isArray) tied
    intro step member
    exact parts.slots (Entity.mem_slots_collection body member)
  · rename_i notArray
    apply fail
    apply parts.refuses
    apply Entity.Refuses.noArray body
    cases value : l.value <;> first | rfl | exact absurd value (notArray _)

theorem body (parts : coupling.Parts left right store store' entity) (tied : coupling.state l r) :
    coupling.Couples coupling.state (Resolver.body store left entity l)
      (Resolver.body store' right entity r) := by
  apply bind (slot (parts.slots Entity.mem_slots_value) tied)
  intro next next' tied
  cases body : entity.body with
  | entry => exact pure tied
  | hash compose => exact composeHash parts body tied
  | collection compose => exact composeCollection parts body tied
  | schema schema options => exact validate parts body tied

theorem lifecycle (parts : coupling.Parts left right store store' entity)
    (tied : coupling.state l r) :
    coupling.Couples coupling.state (Resolver.lifecycle store left entity l)
      (Resolver.lifecycle store' right entity r) := by
  apply bind (hook (fun _ present => parts.slots (Entity.mem_slots_before present)) tied)
  intro first first' tied
  apply bind (body parts tied)
  intro second second' tied
  exact hook (fun _ present => parts.slots (Entity.mem_slots_after present)) tied

end Coupling

/-! ### The life of an entity -/

/-- The run of an entity that was entered by `reference` with `acc`, from what happens inside it. -/
def Resolver.lived (reference : Reference) (acc : Accumulator) (events : List Event)
    (ending : Ending Accumulator) : Run Accumulator :=
  ⟨.entered reference :: events ++ [.left reference],
    ending.map fun resolved => resolved.withReference acc.reference⟩

/-- Entering an entity runs what its error hook guards, and after a failure of that the hook. -/
theorem Resolver.enter_eq (store : Store) (resolve : Resolver) (reference : Reference)
    (entity : Entity) (acc : Accumulator) :
    enter store resolve reference entity acc =
      let entered := acc.withReference (some reference)
      let run := lifecycle store resolve entity entered
      let events := (inspect entity entered).events ++ run.events
      match run.ending with
      | .failed failure =>
        let second := recover resolve entity entered failure
        lived reference acc (events ++ second.events) second.ending
      | ending => lived reference acc events ending := by
  unfold enter lived inspect
  dsimp only
  generalize lifecycle store resolve entity (acc.withReference (some reference)) = run
  obtain ⟨events, ending⟩ := run
  split <;> cases ending <;>
    simp [Run.bind, Run.event, Run.pure, Run.orElse, Run.bracket, Run.map]

namespace Coupling

variable {outer inner : Coupling} {hook : Failure → Failure → Coupling}

/-- How the coupling `outer` around an entity, which both runs enter by a reference of their own, fits to
    the coupling `inner` of what the error hook guards, and to the coupling `hook` of the error hook
    after a failure of either run. -/
structure Encloses (outer inner : Coupling) (hook : Failure → Failure → Coupling)
    (reference reference' : Reference) (entity : Entity) : Prop where
  enters : ∀ {l r}, outer.state l r →
    inner.state (l.withReference (some reference)) (r.withReference (some reference'))
  inspects : ∀ {l r}, inner.state l r →
    inner.trace (Resolver.inspect entity l).events (Resolver.inspect entity r).events
  leaves : ∀ {l r l' r'}, outer.state l r → inner.state l' r' →
    outer.state (l'.withReference l.reference) (r'.withReference r.reference)
  lives : ∀ {events events'}, inner.trace events events' →
    outer.trace (.entered reference :: events ++ [.left reference])
      (.entered reference' :: events' ++ [.left reference'])
  fails : ∀ {events events' f g}, inner.failure events events' f g →
    outer.failure (.entered reference :: events ++ [.left reference])
      (.entered reference' :: events' ++ [.left reference']) f g
  endless : inner.endless → outer.endless
  loose : inner.loose → outer.loose
  attaches : ∀ {l r events events' f g}, inner.state l r → inner.failure events events' f g →
    (hook f g).state (l.withFailure (some f)) (r.withFailure (some g))
  recovers : ∀ {l r l' r' events events' f g}, outer.state l r → inner.failure events events' f g →
    (hook f g).state l' r' →
    outer.state ((l'.withFailure none).withReference l.reference)
      ((r'.withFailure none).withReference r.reference)
  handles : ∀ {events events' f g last last'}, inner.trace events events' →
    inner.failure events events' f g → (hook f g).trace last last' →
    outer.trace (.entered reference :: (events ++ .recovering entity.id f :: last) ++
        [.left reference])
      (.entered reference' :: (events' ++ .recovering entity.id g :: last') ++ [.left reference'])
  exhausts : ∀ {events events' last last' f g second second'}, inner.failure events events' f g →
    (hook f g).failure last last' second second' →
    outer.failure (.entered reference :: (events ++ .recovering entity.id f :: last) ++
        [.left reference])
      (.entered reference' :: (events' ++ .recovering entity.id g :: last') ++ [.left reference'])
      (.recoveryExhausted (entity.place "error" ++ " " ++ second.message) f)
      (.recoveryExhausted (entity.place "error" ++ " " ++ second'.message) g)
  hookEndless : ∀ {events events' f g}, inner.failure events events' f g → (hook f g).endless →
    outer.endless
  hookLoose : ∀ {events events' f g}, inner.failure events events' f g → (hook f g).loose → outer.loose

variable {left right : Resolver} {store store' : Store} {entity : Entity} {l r : Accumulator}

/-- After tied failures, what the error hooks make of them is tied. -/
theorem recover {reference reference' : Reference}
    (encloses : outer.Encloses inner hook reference reference' entity)
    (hooks : ∀ {events events' f g reducer}, entity.error = some reducer →
      inner.failure events events' f g → (hook f g).Keeps left right reducer)
    (tied : outer.state l r) {events events' : List Event} (traces : inner.trace events events')
    {f g : Failure} (failed : inner.failure events events' f g) :
    let run := Resolver.recover left entity (l.withReference (some reference)) f
    let run' := Resolver.recover right entity (r.withReference (some reference')) g
    outer.Couples outer.state (Resolver.lived reference l (events ++ run.events) run.ending)
      (Resolver.lived reference' r (events' ++ run'.events) run'.ending) := by
  -- What happens after a failure takes nothing away from it.
  have stays (last last' : List Event) : inner.failure (events ++ last) (events' ++ last') f g :=
    inner.failure_mono (List.subset_append_left _ _) (List.subset_append_left _ _) failed
  unfold Resolver.recover
  cases present : entity.error with
  | none =>
      refine .inr ⟨?_, encloses.fails (stays [] [])⟩
      simpa [Resolver.lived, Run.fail] using encloses.lives traces
  | some reducer =>
      have handled := hooks present failed (encloses.attaches (encloses.enters tied) failed)
      dsimp only
      generalize left reducer _ = run at handled ⊢
      generalize right reducer _ = run' at handled ⊢
      obtain ⟨last, ending⟩ := run
      obtain ⟨last', ending'⟩ := run'
      rcases handled with ⟨loose, stopped⟩ | ⟨traces', endings⟩
      · obtain rfl : ending = .unfinished := stopped
        exact .inl ⟨encloses.hookLoose failed loose, rfl⟩
      · refine .inr ⟨encloses.handles traces failed traces', ?_⟩
        cases ending <;> cases ending' <;> try exact endings.elim
        · -- The hooks decline alike, because tied accumulators hold the same value.
          rename_i recovered recovered'
          have same : recovered.value = recovered'.value := (hook f g).value_eq endings
          simp only [Resolver.lived, ← same]
          split
          · exact encloses.fails (stays _ _)
          · exact encloses.recovers tied failed endings
        · exact encloses.exhausts failed endings
        · exact encloses.hookEndless failed endings

theorem enter {reference reference' : Reference}
    (encloses : outer.Encloses inner hook reference reference' entity)
    (parts : inner.Parts left right store store' entity)
    (hooks : ∀ {events events' f g reducer}, entity.error = some reducer →
      inner.failure events events' f g → (hook f g).Keeps left right reducer)
    (tied : outer.state l r) :
    outer.Couples outer.state (Resolver.enter store left reference entity l)
      (Resolver.enter store' right reference' entity r) := by
  have entered := encloses.enters tied
  have life := lifecycle parts entered
  have seen := encloses.inspects entered
  rw [Resolver.enter_eq, Resolver.enter_eq]
  dsimp only
  generalize Resolver.lifecycle store left entity _ = run at life ⊢
  generalize Resolver.lifecycle store' right entity _ = run' at life ⊢
  obtain ⟨events, ending⟩ := run
  obtain ⟨events', ending'⟩ := run'
  rcases life with ⟨loose, stopped⟩ | ⟨traces, endings⟩
  · obtain rfl : ending = .unfinished := stopped
    exact .inl ⟨encloses.loose loose, rfl⟩
  · have traces := inner.trace_append seen traces
    cases ending <;> cases ending' <;> try exact endings.elim
    · exact .inr ⟨encloses.lives traces, encloses.leaves tied endings⟩
    · refine recover encloses hooks tied traces ?_
      exact inner.failure_mono (List.subset_append_right _ _) (List.subset_append_right _ _) endings
    · exact .inr ⟨encloses.lives traces, encloses.endless endings⟩

/-! ### References -/

theorem reference {reference : Reference} {coupling : Coupling}
    (sought : coupling.trace [.sought reference.id] [.sought reference.id])
    (sameEntity : store.get? reference.id = store'.get? reference.id)
    (missing : store.get? reference.id = none →
      coupling.failure [.sought reference.id] [.sought reference.id]
        (Store.undefinedEntity reference.id) (Store.undefinedEntity reference.id))
    (enters : ∀ {entity}, store.get? reference.id = some entity → ∀ {l r}, coupling.state l r →
      coupling.Couples coupling.state (Resolver.enter store left reference entity l)
        (Resolver.enter store' right reference entity r))
    (tied : coupling.state l r) :
    coupling.Couples coupling.state (Resolver.reference store left reference l)
      (Resolver.reference store' right reference r) := by
  unfold Resolver.reference Store.seek
  rw [← sameEntity]
  cases found : store.get? reference.id with
  | none => exact .inr ⟨sought, missing found⟩
  | some entity =>
      have event : coupling.Couples (fun _ _ => True) (Run.event (.sought reference.id))
          (Run.event (.sought reference.id)) := .inr ⟨sought, trivial⟩
      apply bind event
      intro _ _ _
      simp only [Run.ofExcept, Run.bind_eq, Run.pure_bind]
      rw [← coupling.value_eq tied]
      split
      · split
        · apply bind (overItems fun item _ => enters found (coupling.state_withValue item tied))
          rintro values _ rfl
          exact pure (coupling.state_withValue _ tied)
        · exact pure (coupling.state_withValue _ tied)
      · exact enters found tied

end Coupling

end Reshape
