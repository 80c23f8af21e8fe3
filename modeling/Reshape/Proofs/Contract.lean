/-
Module: Reshape.Proofs.Contract
Layer: Proofs
Purpose: What single runs keep, as couplings of a run with itself: one rule for each part of a
  resolution, and the induction over whole resolutions for contracts that change only where an entity
  or its error hook is entered.
Main exports: Contract, Contract.Meets, Contract.Keeps, Contract.endings, Contract.sequence,
  Contract.enter, Contract.reference, Contract.call, Law, Law.resolve
-/
import Reshape.Proofs.Calls
import Reshape.Proofs.Coupling.Lifecycle
import Reshape.Resolution.Basic

namespace Reshape

/-- What is promised of a run: of the accumulators it passes on, of the events it leaves behind, of
    the failures it ends in after these, and whether it may stay unfinished. -/
structure Contract where
  state : Accumulator → Prop
  trace : List Event → Prop
  failure : List Event → Failure → Prop
  endless : Prop
  state_withValue : ∀ {acc} (value : Value), state acc → state (acc.withValue value)
  trace_nil : trace []
  trace_append : ∀ {first last}, trace first → trace last → trace (first ++ last)
  failure_mono : ∀ {events more left}, events ⊆ more → failure events left → failure more left

namespace Contract

/-- The coupling of a run that meets the contract with itself. -/
def coupling (contract : Contract) : Coupling where
  state l r := l = r ∧ contract.state l
  trace l r := l = r ∧ contract.trace l
  failure events _ l r := l = r ∧ contract.failure events l
  endless := contract.endless
  loose := False
  value_eq := fun ⟨same, _⟩ => congrArg Accumulator.value same
  state_withValue := fun value ⟨same, h⟩ => ⟨same ▸ rfl, contract.state_withValue value h⟩
  trace_nil := ⟨rfl, contract.trace_nil⟩
  trace_append := fun ⟨same, h⟩ ⟨same', h'⟩ => ⟨same ▸ same' ▸ rfl, contract.trace_append h h'⟩
  failure_mono := fun subset _ ⟨same, h⟩ => ⟨same, contract.failure_mono subset h⟩

/-- The contract for runs whose failures are yet to be marked with `place`. -/
def marked (contract : Contract) (place : String) : Contract :=
  { contract with
    failure := fun events failure => contract.failure events (failure.annotate place)
    failure_mono := contract.failure_mono }

/-- The run keeps what the contract promises. -/
structure Meets (contract : Contract) (run : Run Accumulator) : Prop where
  trace : contract.trace run.events
  finished : ∀ {acc}, run.ending = .finished acc → contract.state acc
  failed : ∀ {failure}, run.ending = .failed failure → contract.failure run.events failure
  unfinished : run.ending = .unfinished → contract.endless

/-- The resolver keeps the contract on one reducer. -/
def Keeps (contract : Contract) (resolve : Resolver) (reducer : Reducer) : Prop :=
  ∀ ⦃acc⦄, contract.state acc → contract.Meets (resolve reducer acc)

/-- The contract about how runs end, whatever happens before. -/
def endings (failure : Failure → Prop) (endless : Prop) : Contract where
  state _ := True
  trace _ := True
  failure _ := failure
  endless := endless
  state_withValue _ _ := trivial
  trace_nil := trivial
  trace_append _ _ := trivial
  failure_mono _ := id

variable {contract : Contract}

theorem couples_iff {run : Run Accumulator} :
    contract.coupling.Couples contract.coupling.state run run ↔ contract.Meets run := by
  obtain ⟨events, ending⟩ := run
  constructor
  · rintro (⟨⟨⟩, -⟩ | ⟨⟨-, trace⟩, endings⟩)
    cases ending with
    | finished acc => exact ⟨trace, fun same => by cases same; exact endings.2, nofun, nofun⟩
    | failed failure => exact ⟨trace, nofun, fun same => by cases same; exact endings.2, nofun⟩
    | unfinished => exact ⟨trace, nofun, nofun, fun _ => endings⟩
  · intro meets
    refine .inr ⟨⟨rfl, meets.trace⟩, ?_⟩
    cases ending with
    | finished acc => exact ⟨rfl, meets.finished rfl⟩
    | failed failure => exact ⟨rfl, meets.failed rfl⟩
    | unfinished => exact meets.unfinished rfl

theorem Keeps.couples {resolve : Resolver} {reducer : Reducer}
    (keeps : contract.Keeps resolve reducer) : contract.coupling.Keeps resolve resolve reducer := by
  intro l r tied
  obtain ⟨rfl, h⟩ := tied
  exact couples_iff.mpr (keeps h)

theorem Keeps.couples_marked {place : String} {resolve : Resolver} {reducer : Reducer}
    (keeps : (contract.marked place).Keeps resolve reducer) :
    (contract.coupling.marked place).Keeps resolve resolve reducer := by
  intro l r tied
  refine (keeps.couples tied).mono id id id ?_ id
  intro events events' f g same
  exact ⟨same.1 ▸ rfl, same.2⟩

/-- A contract that differs only in that it promises less of failures. -/
theorem Keeps.weaken {weaker : Contract} {resolve : Resolver} {reducer : Reducer}
    (keeps : contract.Keeps resolve reducer)
    (same : weaker =
      { contract with failure := weaker.failure, failure_mono := weaker.failure_mono })
    (failures : ∀ {events f}, contract.failure events f → weaker.failure events f) :
    weaker.Keeps resolve reducer := by
  intro acc h
  rw [same] at h ⊢
  have meets := keeps h
  exact ⟨meets.trace, meets.finished, fun failed => failures (meets.failed failed), meets.unfinished⟩

/-! ### Steps -/

variable {resolve : Resolver} {acc : Accumulator}

theorem pure (h : contract.state acc) : contract.Meets (Run.pure acc) :=
  couples_iff.mp (Coupling.pure ⟨rfl, h⟩)

theorem sequence {steps : List Reducer} (h : ∀ step ∈ steps, contract.Keeps resolve step)
    (start : contract.state acc) : contract.Meets (Resolver.sequence resolve steps acc) :=
  couples_iff.mp (Coupling.sequence (fun step member => (h step member).couples) ⟨rfl, start⟩)

/-! ### Entities -/

/-- What a contract needs of the parts of an entity. -/
structure Parts (contract : Contract) (resolve : Resolver) (store : Store) (entity : Entity) :
    Prop where
  slots : ∀ {name reducer}, (name, reducer) ∈ entity.slots →
    (contract.marked (entity.place name)).Keeps resolve reducer
  refuses : ∀ {failure}, entity.Refuses store failure → contract.failure [] failure
  stepRefuses : ∀ {name failure}, entity.StepRefuses name failure →
    contract.failure [] (failure.annotate (entity.place name))

variable {store : Store} {entity : Entity}

theorem Parts.couples (parts : contract.Parts resolve store entity) :
    contract.coupling.Parts resolve resolve store store entity where
  slots member := (parts.slots member).couples_marked
  validator := rfl
  refuses h := ⟨rfl, parts.refuses h⟩
  stepRefuses h := ⟨rfl, parts.stepRefuses h⟩

/-- How the contract `outer` around an entity, which is entered by `reference`, fits to the contract
    `inner` of what the error hook guards, and to the contract `hook` of the error hook after a
    failure. -/
structure Encloses (outer inner : Contract) (hook : Failure → Contract) (reference : Reference)
    (entity : Entity) : Prop where
  enters : ∀ {acc}, outer.state acc → inner.state (acc.withReference (some reference))
  inspects : ∀ {acc}, inner.state acc → inner.trace (Resolver.inspect entity acc).events
  leaves : ∀ {acc next}, outer.state acc → inner.state next →
    outer.state (next.withReference acc.reference)
  lives : ∀ {events}, inner.trace events →
    outer.trace (.entered reference :: events ++ [.left reference])
  fails : ∀ {events failure}, inner.failure events failure →
    outer.failure (.entered reference :: events ++ [.left reference]) failure
  endless : inner.endless → outer.endless
  attaches : ∀ {acc events failure}, inner.state acc → inner.failure events failure →
    (hook failure).state (acc.withFailure (some failure))
  recovers : ∀ {acc next events failure}, outer.state acc → inner.failure events failure →
    (hook failure).state next → outer.state ((next.withFailure none).withReference acc.reference)
  handles : ∀ {events failure last}, inner.trace events → inner.failure events failure →
    (hook failure).trace last →
    outer.trace (.entered reference :: (events ++ .recovering entity.id failure :: last) ++
      [.left reference])
  exhausts : ∀ {events last failure second}, inner.failure events failure →
    (hook failure).failure last second →
    outer.failure (.entered reference :: (events ++ .recovering entity.id failure :: last) ++
        [.left reference])
      (.recoveryExhausted (entity.place "error" ++ " " ++ second.message) failure)
  hookEndless : ∀ {events failure}, inner.failure events failure → (hook failure).endless → outer.endless

variable {outer inner : Contract} {hook : Failure → Contract}

theorem Encloses.couples {reference : Reference} (encloses : outer.Encloses inner hook reference entity) :
    outer.coupling.Encloses inner.coupling (fun failure _ => (hook failure).coupling) reference reference
      entity where
  enters := fun ⟨same, h⟩ => ⟨same ▸ rfl, encloses.enters h⟩
  inspects := fun ⟨same, h⟩ => ⟨same ▸ rfl, encloses.inspects h⟩
  leaves := fun ⟨same, h⟩ ⟨same', h'⟩ => ⟨same ▸ same' ▸ rfl, encloses.leaves h h'⟩
  lives := fun ⟨same, h⟩ => ⟨same ▸ rfl, encloses.lives h⟩
  fails := fun ⟨same, h⟩ => ⟨same, encloses.fails h⟩
  endless := encloses.endless
  loose := nofun
  attaches := fun ⟨same, h⟩ ⟨same', h'⟩ => ⟨same ▸ same' ▸ rfl, encloses.attaches h h'⟩
  recovers := fun ⟨same, h⟩ ⟨_, h'⟩ ⟨same'', h''⟩ =>
    ⟨same ▸ same'' ▸ rfl, encloses.recovers h h' h''⟩
  handles := fun ⟨same, h⟩ ⟨same', h'⟩ ⟨same'', h''⟩ =>
    ⟨same ▸ same' ▸ same'' ▸ rfl, encloses.handles h h' h''⟩
  exhausts := fun ⟨same, h⟩ ⟨same', h'⟩ => ⟨same ▸ same' ▸ rfl, encloses.exhausts h h'⟩
  hookEndless := fun ⟨_, h⟩ h' => encloses.hookEndless h h'
  hookLoose := fun _ loose => loose.elim

theorem enter {reference : Reference} (encloses : outer.Encloses inner hook reference entity)
    (parts : inner.Parts resolve store entity)
    (hooks : ∀ {events failure reducer}, entity.error = some reducer → inner.failure events failure →
      (hook failure).Keeps resolve reducer)
    (start : outer.state acc) : outer.Meets (Resolver.enter store resolve reference entity acc) :=
  couples_iff.mp <| Coupling.enter encloses.couples parts.couples
    (fun present h => (hooks present h.2).couples) ⟨rfl, start⟩

theorem reference {reference : Reference} (sought : contract.trace [.sought reference.id])
    (missing : store.get? reference.id = none →
      contract.failure [.sought reference.id] (Store.undefinedEntity reference.id))
    (enters : ∀ {entity}, store.get? reference.id = some entity → ∀ {acc}, contract.state acc →
      contract.Meets (Resolver.enter store resolve reference entity acc))
    (start : contract.state acc) :
    contract.Meets (Resolver.reference store resolve reference acc) := by
  apply couples_iff.mp
  have tied : contract.coupling.state acc acc := ⟨rfl, start⟩
  refine Coupling.reference ⟨rfl, sought⟩ rfl (fun none => ⟨rfl, missing none⟩) ?_ tied
  intro entity found l r tied
  obtain ⟨rfl, h⟩ := tied
  exact couples_iff.mpr (enters found h)

/-! ### Functions -/

theorem trace_of_forall {events : List Event} (h : ∀ event ∈ events, contract.trace [event]) :
    contract.trace events := by
  induction events with
  | nil => exact contract.trace_nil
  | cons event rest ih =>
      have head := h event List.mem_cons_self
      have tail := ih fun other member => h other (List.mem_cons_of_mem _ member)
      exact contract.trace_append head tail

theorem call {function : Function} (called : contract.trace [.called acc])
    (noted : ∀ label value, contract.trace [.noted label value])
    (raises : ∀ {failure}, function.Raises acc failure → contract.failure [.called acc] failure)
    (drops : function.Drops acc → contract.failure [.called acc] Function.dropped)
    (replaces : ∀ {body next}, function = .context body → (body acc).result = .ok next →
      contract.state next)
    (start : contract.state acc) : contract.Meets (function.apply acc) := by
  rw [Function.apply_eq]
  have trace : contract.trace (Function.run acc (function.reply acc)).events := by
    apply trace_of_forall
    intro event member
    rcases List.mem_cons.mp member with rfl | member
    · exact called
    · obtain ⟨note, -, rfl⟩ := List.mem_map.mp member
      exact noted note.1 note.2
  cases result : (function.reply acc).result with
  | ok next =>
      have ending : (Function.run acc (function.reply acc)).ending = .finished next := by
        rw [Function.run, result]
        rfl
      refine ⟨trace, ?_, ?_, ?_⟩ <;> rw [ending]
      · intro _ same
        cases same
        rcases Function.reply_ok result with ⟨value, rfl⟩ | ⟨body, same, answer⟩
        · exact contract.state_withValue value start
        · exact replaces same answer
      · intro _ same
        cases same
      · intro same
        cases same
  | error failure =>
      have ending : (Function.run acc (function.reply acc)).ending = .failed failure := by
        rw [Function.run, result]
        rfl
      refine ⟨trace, ?_, ?_, ?_⟩ <;> rw [ending]
      · intro _ same
        cases same
      · intro _ same
        cases same
        have first : [.called acc] ⊆ (Function.run acc (function.reply acc)).events :=
          List.cons_subset_cons _ (List.nil_subset _)
        rcases Function.reply_error result with raised | ⟨dropped, rfl⟩
        · exact contract.failure_mono first (raises raised)
        · exact contract.failure_mono first (drops dropped)
      · intro same
        cases same

end Contract

/-! ### Whole resolutions -/

/-- Contracts for every place of a resolution, where the place changes only with the entities and the
    error hooks that are entered. -/
structure Law (store : Store) (ι : Type) where
  contract : ι → Contract
  inside : ι → Reference → ι
  handling : ι → Reference → Failure → ι
  encloses : ∀ place reference entity, (contract place).Encloses (contract (inside place reference))
    (fun failure => contract (handling place reference failure)) reference entity
  endless : ∀ place, (contract place).endless
  marks : ∀ {place events failure} slot, (contract place).failure events failure →
    (contract place).failure events (failure.annotate slot)
  refuses : ∀ {place failure} {entity : Entity}, entity.Refuses store failure →
    (contract place).failure [] failure
  stepRefuses : ∀ {place name failure} {entity : Entity}, entity.StepRefuses name failure →
    (contract place).failure [] failure

namespace Law

variable {store : Store} {ι : Type}

/-- A law is kept by every resolution, if functions and look-ups keep it. The induction is on the
    depth; the places change on the way. -/
theorem resolve (law : Law store ι) {reducer : Reducer}
    (functions : ∀ {function}, store.Reaches reducer (.function function) → ∀ place {acc},
      (law.contract place).state acc → (law.contract place).Meets (function.apply acc))
    (references : ∀ {reference}, store.Reaches reducer (.entity reference) → ∀ place,
      (law.contract place).trace [.sought reference.id] ∧
        (store.get? reference.id = none →
          (law.contract place).failure [.sought reference.id] (Store.undefinedEntity reference.id)))
    (depth : Nat) (place : ι) : (law.contract place).Keeps (store.resolve depth) reducer := by
  induction depth generalizing reducer place with
  | zero =>
      intro acc _
      exact ⟨(law.contract place).trace_nil, nofun, nofun, fun _ => law.endless place⟩
  | succ depth ih =>
      intro acc start
      cases reducer with
      | path target => exact Contract.pure ((law.contract place).state_withValue _ start)
      | function function => exact functions (.here _) place start
      | list steps =>
          apply Contract.sequence ?_ start
          intro step member
          exact ih (fun reached => functions (.step member reached))
            (fun reached => references (.step member reached)) place
      | entity reference =>
          obtain ⟨sought, missing⟩ := references (.here _) place
          refine Contract.reference sought missing ?_ start
          intro entity found acc start
          -- Every reducer of the entity keeps the law at every place.
          have keeps : ∀ reducer ∈ entity.reducers, ∀ place,
              (law.contract place).Keeps (store.resolve depth) reducer := by
            intro reducer member
            exact ih (fun reached => functions (.slot found member reached))
              (fun reached => references (.slot found member reached))
          refine Contract.enter (law.encloses place reference entity) ?_ ?_ start
          · constructor
            · intro name reducer member
              have kept := keeps reducer (Entity.mem_reducers_of_slot member)
                (law.inside place reference)
              exact kept.weaken rfl fun failed => law.marks _ failed
            · exact law.refuses
            · exact fun refuses => law.marks _ (law.stepRefuses refuses)
          · intro events failure reducer present _
            exact keeps reducer (Entity.mem_reducers_of_error present) _

end Law

end Reshape
