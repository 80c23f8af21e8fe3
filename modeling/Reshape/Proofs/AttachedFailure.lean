/-
Module: Reshape.Proofs.AttachedFailure
Layer: Proofs
Purpose: The failure that is attached to the accumulator while an error hook runs. It lasts until an
  entity recovers: a recovery detaches the failure of its own entity, and with it the failure that an
  error hook around that entity is still handling.
Main exports: Store.Recovers, Accumulator.Tracks, Store.tracks_of_finished, attachedIn,
  Function.AttachesNone, Store.failure_of_finished, Store.attached_failure_iff
-/
import Reshape.Proofs.Built
import Reshape.Proofs.Scopes
import Reshape.Proofs.Success

namespace Reshape

/-! ### Recoveries on the way -/

/-- The run finishes with a result that has the property. -/
def Run.Yields {α : Type} (run : Run α) (property : α → Prop) : Prop :=
  ∃ a, run.ending = .finished a ∧ property a

theorem Run.yields_iff {α : Type} {run : Run α} {property : α → Prop} {a : α}
    (finished : run.ending = .finished a) : run.Yields property ↔ property a := by
  constructor
  · intro yields
    obtain ⟨b, same, holds⟩ := yields
    rw [finished] at same
    cases same
    exact holds
  · exact fun holds => ⟨a, finished, holds⟩

namespace Resolver

variable (store : Store) (resolve : Resolver) (recovers : Reducer → Accumulator → Prop)

/-- A reducer in the row comes through a recovery. -/
def SequenceRecovers : List Reducer → Accumulator → Prop
  | [], _ => False
  | step :: rest, acc =>
    recovers step acc ∨ (resolve step acc).Yields (SequenceRecovers rest)

/-- The reducer in a slot that may be vacant comes through a recovery. -/
def HookRecovers (reducer : Option Reducer) (acc : Accumulator) : Prop :=
  ∃ present, reducer = some present ∧ recovers present acc

/-- The entity recovers from a failure, or its `before`, `value` or `after` comes through a
    recovery. -/
def EnterRecovers (reference : Reference) (entity : Entity) (acc : Accumulator) : Prop :=
  let entered := acc.withReference (some reference)
  (∃ failure, (lifecycle store resolve entity entered).ending = .failed failure ∧
      (recover resolve entity entered failure).Yields fun _ => True) ∨
    HookRecovers recovers entity.before entered ∨
    (hook resolve entity "before" entity.before entered).Yields fun first =>
      recovers entity.value first ∨
        (body store resolve entity first).Yields (HookRecovers recovers entity.after)

end Resolver

/-- An accumulator that resolving the reducer on `acc` passes on comes out of the recovery of an entity.
    Fan-out passes on none of the accumulators of its branches, so recoveries in there do not count. -/
def Store.Recovers (store : Store) : Nat → Reducer → Accumulator → Prop
  | 0, _, _ => False
  | depth + 1, reducer, acc =>
    match reducer with
    | .path _ => False
    | .function _ => False
    | .list steps =>
      Resolver.SequenceRecovers (store.resolve depth) (Store.Recovers store depth) steps acc
    | .entity reference =>
      reference.isCollection = false ∧ ∃ entity, store.get? reference.id = some entity ∧
        Resolver.EnterRecovers store (store.resolve depth) (Store.Recovers store depth) reference entity
          acc

/-! ### What becomes of the attached failure -/

/-- The failure attached to `acc` is still attached to `next`, unless it has been detached. -/
structure Accumulator.Tracks (acc : Accumulator) (detached : Prop) (next : Accumulator) : Prop where
  lost : detached → next.failure = none
  kept : ¬ detached → next.failure = acc.failure

namespace Accumulator.Tracks

variable {acc middle next : Accumulator} {first second : Prop}

theorem refl (same : next.failure = acc.failure) : acc.Tracks False next where
  lost := False.elim
  kept _ := same

theorem trans (one : acc.Tracks first middle) (two : middle.Tracks second next) :
    acc.Tracks (first ∨ second) next := by
  constructor
  · intro detached
    by_cases later : second
    · exact two.lost later
    · rw [two.kept later, one.lost (detached.resolve_right later)]
  · intro not
    rw [two.kept fun later => not (.inr later), one.kept fun earlier => not (.inl earlier)]

theorem congr (tracks : acc.Tracks first next) (same : first ↔ second) : acc.Tracks second next :=
  propext same ▸ tracks

theorem failure_eq_iff (tracks : acc.Tracks first next) :
    next.failure = acc.failure ↔ acc.failure = none ∨ ¬ first := by
  by_cases detached : first
  · rw [tracks.lost detached]
    simp [detached, eq_comm]
  · simp [tracks.kept detached, detached]

/-- What a path into the attached failure starts from is there just as long. -/
theorem field_eq_iff (tracks : acc.Tracks first next) :
    next.field? "error" = acc.field? "error" ↔ acc.failure = none ∨ ¬ first := by
  rw [← tracks.failure_eq_iff]
  constructor
  · intro same
    by_cases detached : first
    · have nothing : acc.failure.map Failure.view = none := by
        rw [← show next.failure.map Failure.view = acc.failure.map Failure.view from same,
          tracks.lost detached]
        rfl
      rw [tracks.lost detached, Option.map_eq_none_iff.mp nothing]
    · exact tracks.kept detached
  · intro same
    show next.failure.map Failure.view = acc.failure.map Failure.view
    rw [same]

end Accumulator.Tracks

namespace Resolver

variable {store : Store} {resolve : Resolver} {recovers : Reducer → Accumulator → Prop}
  {acc next : Accumulator}

theorem tracks_of_sequence {steps : List Reducer}
    (tracks : ∀ step ∈ steps, ∀ {acc next}, (resolve step acc).ending = .finished next →
      acc.Tracks (recovers step acc) next)
    (finished : (sequence resolve steps acc).ending = .finished next) :
    acc.Tracks (SequenceRecovers resolve recovers steps acc) next := by
  induction steps generalizing acc with
  | nil =>
      cases finished
      exact .refl rfl
  | cons step rest ih =>
      obtain ⟨middle, one, others⟩ := Run.bind_finished_iff.mp finished
      have first := tracks step List.mem_cons_self one
      have second := ih (fun other member => tracks other (List.mem_cons_of_mem _ member)) others
      exact (first.trans second).congr (or_congr Iff.rfl (Run.yields_iff one).symm)

variable {reference : Reference} {entity : Entity}

theorem tracks_of_hook {name : String} {reducer : Option Reducer}
    (tracks : ∀ present, reducer = some present → ∀ {acc next},
      (resolve present acc).ending = .finished next → acc.Tracks (recovers present acc) next)
    (finished : (hook resolve entity name reducer acc).ending = .finished next) :
    acc.Tracks (HookRecovers recovers reducer acc) next := by
  rcases finished_of_hook finished with ⟨rfl, rfl⟩ | ⟨present, rfl, resolved⟩
  · exact (Accumulator.Tracks.refl rfl).congr (by simp [HookRecovers])
  · exact (tracks present rfl resolved).congr (by simp [HookRecovers])

theorem tracks_of_enter
    (tracks : ∀ reducer ∈ entity.reducers, ∀ {acc next},
      (resolve reducer acc).ending = .finished next → acc.Tracks (recovers reducer acc) next)
    (finished : (enter store resolve reference entity acc).ending = .finished next) :
    acc.Tracks (EnterRecovers store resolve recovers reference entity acc) next := by
  obtain ⟨last, rfl, life | ⟨failure, failed, recovery⟩⟩ := finished_of_enter finished
  · obtain ⟨first, second, before, bodied, after⟩ := finished_of_lifecycle life
    obtain ⟨middle, valued, value, same⟩ := finished_of_body bodied
    have one : Accumulator.Tracks _ (HookRecovers recovers entity.before _) first :=
      tracks_of_hook (fun present same =>
        tracks present (Entity.mem_reducers_of_slot (Entity.mem_slots_before same))) before
    have two : first.Tracks (recovers entity.value first) second :=
      let tracked := tracks _ (Entity.mem_reducers_of_slot Entity.mem_slots_value) valued
      ⟨fun lost => same ▸ tracked.lost lost, fun kept => same ▸ tracked.kept kept⟩
    have three : second.Tracks (HookRecovers recovers entity.after second) last :=
      tracks_of_hook (fun present same =>
        tracks present (Entity.mem_reducers_of_slot (Entity.mem_slots_after same))) after
    have whole := one.trans (two.trans three)
    refine Accumulator.Tracks.congr ⟨whole.lost, whole.kept⟩ ?_
    rw [EnterRecovers, Run.yields_iff before, Run.yields_iff bodied]
    simp [life]
  · obtain ⟨hook, recovered, -, -, -, rfl⟩ := finished_of_recover recovery
    have recovers : EnterRecovers store resolve recovers reference entity acc :=
      .inl ⟨failure, failed, _, recovery, trivial⟩
    exact ⟨fun _ => rfl, fun not => absurd recovers not⟩

end Resolver

namespace Store

variable {store : Store} {reducer : Reducer}

/-- Where no function that answers with accumulators is reached, the attached failure is detached by
    the recovery of an entity and by nothing else. -/
theorem tracks_of_finished (plain : ∀ body, ¬ store.Reaches reducer (.function (.context body)))
    {depth : Nat} {acc next : Accumulator}
    (finished : (store.resolve depth reducer acc).ending = .finished next) :
    acc.Tracks (store.Recovers depth reducer acc) next := by
  induction depth generalizing reducer acc next with
  | zero => cases finished
  | succ depth ih =>
      cases reducer with
      | path target =>
          cases finished
          exact .refl rfl
      | function function =>
          rcases Function.finished_of_apply finished with ⟨value, rfl⟩ | ⟨body, rfl, -⟩
          · exact .refl rfl
          · exact absurd (.here _) (plain body)
      | list steps =>
          apply Resolver.tracks_of_sequence ?_ finished
          intro step member acc next finished
          exact ih (fun body reached => plain body (.step member reached)) finished
      | entity reference =>
          obtain ⟨entity, found, ⟨mark, value, rfl⟩ | ⟨mark, entered⟩⟩ :=
            Resolver.finished_of_reference finished
          · have no : ¬ store.Recovers (depth + 1) (.entity reference) acc := by
              simp [Recovers, mark]
            exact ⟨fun yes => absurd yes no, fun _ => rfl⟩
          · have tracks := Resolver.tracks_of_enter (fun inner member _ _ finished =>
              ih (fun body reached => plain body (.slot found member reached)) finished) entered
            apply tracks.congr
            simp [Recovers, mark, found]

end Store

/-! ### What error hooks see -/

/-- The failure that the innermost error hook among the open scopes is handling; outside of all error
    hooks, the one that was attached from the start. -/
def attachedIn (start : Option Failure) (scopes : List Scope) : Option Failure :=
  (scopes.findSome? Scope.handling).or start

theorem attachedIn_invariant (start : Option Failure) :
    Scope.Invariant fun scopes acc => acc.failure = none ∨ acc.failure = attachedIn start scopes where
  value _ := id
  enters _ := id
  leaves _ := id
  attaches _ _ := .inr rfl
  recovers _ _ := .inl rfl

/-! ### Functions that attach no failure -/

/-- The function attaches no failure: it hands on the one that it is given, or drops it. -/
def Function.AttachesNone (function : Function) : Prop :=
  ∀ body, function = .context body → ∀ acc next, (body acc).result = .ok next →
    next.failure = none ∨ next.failure = acc.failure

/-- No function that resolving the reducer can come to attaches a failure. -/
def Store.AttachesNone (store : Store) (reducer : Reducer) : Prop :=
  ∀ function, store.Reaches reducer (.function function) → function.AttachesNone

namespace Store

theorem attachesNone_of_plain {store : Store} {reducer : Reducer}
    (plain : ∀ body, ¬ store.Reaches reducer (.function (.context body))) :
    store.AttachesNone reducer := by
  rintro function reaches body rfl
  exact absurd reaches (plain body)

/-- Without a failure attached at the start there is none in the end. -/
theorem failure_of_finished {store : Store} {reducer : Reducer} (attachesNone : store.AttachesNone reducer)
    {depth : Nat} {acc next : Accumulator} (clear : acc.failure = none)
    (finished : (store.resolve depth reducer acc).ending = .finished next) : next.failure = none := by
  have keeps : ∀ body, store.Reaches reducer (.function (.context body)) → ∀ scopes acc next,
      (acc.failure = none ∨ acc.failure = attachedIn none scopes) → (body acc).result = .ok next →
      next.failure = none ∨ next.failure = attachedIn none scopes := by
    intro body reached scopes acc next allowed answer
    rcases attachesNone _ reached body rfl acc next answer with dropped | same
    · exact .inl dropped
    · rw [same]
      exact allowed
  have start : acc.failure = none ∨ acc.failure = attachedIn none [] := .inl clear
  have meets := hands_over_of_keeps (attachedIn_invariant none) keeps start depth
  exact (meets.finished finished).elim id id

/-! ### The attached failure in a whole resolution -/

/-- Where no function that answers with accumulators is reached, a resolution keeps the attached failure
    exactly if there is none or no entity recovers on the way, and a path to it keeps what it starts
    from just as long. So the steps of an error hook read the failure that it handles up to the first
    recovery among them, and nothing after it. No function and no watcher sees any other failure than
    the one that the innermost hook handles, and outside of all hooks none is attached that was not
    there from the start. -/
theorem attached_failure_iff {store : Store} {reducer : Reducer}
    (plain : ∀ body, ¬ store.Reaches reducer (.function (.context body))) (depth : Nat)
    (acc : Accumulator) :
    let run := store.resolve depth reducer acc
    let kept := acc.failure = none ∨ ¬ store.Recovers depth reducer acc
    (∀ next, run.ending = .finished next →
      (next.failure = acc.failure ↔ kept) ∧ (next.field? "error" = acc.field? "error" ↔ kept) ∧
        (¬ kept → next.failure = none)) ∧
      HandsOver (fun scopes given => given.failure = none ∨
        given.failure = attachedIn acc.failure scopes) [] run.events ∧
      (acc.failure = none → HandsOver (fun scopes given =>
        (∀ scope ∈ scopes, scope.handling = none) → given.failure = none) [] run.events) := by
  intro run kept
  have hands : HandsOver (fun scopes given => given.failure = none ∨
      given.failure = attachedIn acc.failure scopes) [] run.events :=
    (hands_over (attachedIn_invariant acc.failure) plain (.inr rfl) depth).trace.1
  refine ⟨?_, hands, ?_⟩
  · intro next finished
    have tracks := tracks_of_finished plain finished
    refine ⟨tracks.failure_eq_iff, tracks.field_eq_iff, fun lost => ?_⟩
    exact tracks.lost (Classical.not_not.mp fun not => lost (.inr not))
  · intro detached
    refine hands.mono fun scopes given allowed outside => ?_
    rcases allowed with none | same
    · exact none
    · have noHook : scopes.findSome? Scope.handling = none := List.findSome?_eq_none_iff.mpr outside
      rw [same, attachedIn, noHook, detached]
      rfl

/-- In the sample, `entry:inner` recovers within the error hook of `entry:outer`, and the failure of
    `entry:outer` is lost to the rest of the hook. -/
theorem attached_failure_iff_sample :
    let acc := (Accumulator.ofValue .null).withFailure (some (.resolution "boom"))
    (Rescue.store.resolve 2 (.entity Rescue.innerReference) acc).ending =
        .finished (.ofValue (.string "spare")) ∧
      Rescue.store.Recovers 2 (.entity Rescue.innerReference) acc := by
  intro acc
  have finished : (Rescue.store.resolve 2 (.entity Rescue.innerReference) acc).ending =
      .finished (.ofValue (.string "spare")) := by
    rfl
  obtain ⟨results, -, -⟩ := attached_failure_iff Rescue.not_reaches_context 2 acc
  obtain ⟨kept, -, -⟩ := results _ finished
  refine ⟨finished, Classical.not_not.mp fun not => ?_⟩
  cases kept.mpr (.inr not)

/-- So the attached failure is not kept by every resolution without functions that answer with
    accumulators. -/
theorem attached_failure_is_lost :
    ¬ ∀ (store : Store) (reducer : Reducer),
      (∀ body, ¬ store.Reaches reducer (.function (.context body))) → ∀ depth acc next,
        (store.resolve depth reducer acc).ending = .finished next → next.failure = acc.failure := by
  intro law
  have kept := law Rescue.store (.entity Rescue.innerReference) Rescue.not_reaches_context 2
    ((Accumulator.ofValue .null).withFailure (some (.resolution "boom")))
    (.ofValue (.string "spare")) rfl
  cases kept

end Store

end Reshape
