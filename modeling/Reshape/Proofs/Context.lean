/-
Module: Reshape.Proofs.Context
Layer: Proofs
Purpose: The context around the value. At every accumulator that a resolution hands to a function or to
  the watcher, and at the one that it finishes with, locals, parameters and store values are the ones
  that it started with, and the owner is the innermost open entity.
Main exports: Accumulator.SharesContext, referenceIn, ownerIn, context_invariant, Store.reference_of_finished,
  Store.context_is_kept
-/
import Reshape.Proofs.Built
import Reshape.Proofs.Scopes
import Reshape.Proofs.Success

namespace Reshape

/-! ### Context and owner -/

/-- Both accumulators have the same locals, parameters and store values. -/
structure Accumulator.SharesContext (acc given : Accumulator) : Prop where
  locals : given.locals = acc.locals
  params : given.params = acc.params
  values : given.values = acc.values

/-- With the same reference and the same failure too, nothing but the value differs. -/
theorem Accumulator.SharesContext.eq_withValue {acc given : Accumulator} (shares : acc.SharesContext given)
    (reference : given.reference = acc.reference) (failure : given.failure = acc.failure) :
    given = acc.withValue given.value := by
  rw [withValue, ← shares.locals, ← shares.params, ← shares.values, ← reference, ← failure]

/-- The reference by which the innermost of the open entities was entered; outside of all entities, the
    one from the start. -/
def referenceIn (start : Option Reference) (scopes : List Scope) : Option Reference :=
  (scopes.head?.map Scope.reference).or start

/-- The innermost of the open entities; outside of all entities, the owner from the start. -/
def ownerIn (start : Option String) (scopes : List Scope) : Option String :=
  (scopes.head?.map Scope.id).or start

/-- The owner is the id in the reference. -/
theorem ownerIn_eq (start : Accumulator) (scopes : List Scope) :
    ownerIn start.owner scopes = (referenceIn start.reference scopes).map Reference.id := by
  cases scopes <;> rfl

/-- Entering an entity and its error hook changes the reference with the scopes and leaves the rest of
    the context alone. -/
theorem context_invariant (start : Accumulator) :
    Scope.Invariant fun scopes given =>
      start.SharesContext given ∧ given.reference = referenceIn start.reference scopes where
  value := by
    intro scopes given value kept
    exact ⟨⟨kept.1.locals, kept.1.params, kept.1.values⟩, kept.2⟩
  enters := by
    intro scopes given reference kept
    exact ⟨⟨kept.1.locals, kept.1.params, kept.1.values⟩, rfl⟩
  leaves := by
    intro scopes given next reference kept inside
    exact ⟨⟨inside.1.locals, inside.1.params, inside.1.values⟩, kept.2⟩
  attaches := by
    intro scopes given reference failure kept
    exact ⟨⟨kept.1.locals, kept.1.params, kept.1.values⟩, kept.2⟩
  recovers := by
    intro scopes given next reference failure kept inside
    exact ⟨⟨inside.1.locals, inside.1.params, inside.1.values⟩, kept.2⟩

/-! ### A sample -/

namespace Renewal

/-- A function that answers with a new accumulator. -/
def renewing : Reducer :=
  .function (.context fun _ => ⟨[], .ok (.ofValue (.string "new"))⟩)

/-- The path `..locals`. -/
def locals : Reducer :=
  .path ⟨"..locals", .accumulator, [.key "locals"], false⟩

def reference : Reference :=
  ⟨"entry", "renewal", false⟩

/-- A store with one entity, which drops the accumulator that it is given. -/
def store : Store :=
  ⟨[("entry:renewal", ⟨"renewal", renewing, none, none, none, false, .entry⟩)], [], none⟩

/-- An accumulator inside an entity, with a local. -/
def given : Accumulator :=
  ((Accumulator.ofValue .null).withLocal "kept" (.bool true)).withReference
    (some ⟨"entry", "caller", false⟩)

end Renewal

/-! ### The context is kept -/

namespace Store

/-- Leaving an entity gives the accumulator back to the one around it, whatever happened to it inside. -/
theorem reference_of_finished {store : Store} {reference : Reference} {depth : Nat}
    {acc next : Accumulator} (plain : reference.isCollection = false)
    (finished : (store.resolve depth (.entity reference) acc).ending = .finished next) :
    next.reference = acc.reference := by
  cases depth with
  | zero => cases finished
  | succ depth =>
      obtain ⟨entity, -, ⟨marked, -⟩ | ⟨-, entered⟩⟩ := Resolver.finished_of_reference finished
      · rw [plain] at marked
        cases marked
      · exact Resolver.reference_of_enter entered

/-- Where no function that answers with accumulators is reached, a resolution keeps locals, parameters
    and store values at every accumulator that it hands over and in the one that it finishes with. The
    owner of what it hands over is the innermost entity that has been entered and not yet left, in
    error hooks too, and in the end the reference by which the owner was entered is the one from the
    start. A reference to one entity gives the accumulator back to its owner even if functions inside have
    replaced the accumulator. -/
theorem context_is_kept (store : Store) (depth : Nat) (acc : Accumulator) :
    (∀ reducer, (∀ body, ¬ store.Reaches reducer (.function (.context body))) →
      let run := store.resolve depth reducer acc
      HandsOver (fun scopes given => acc.SharesContext given ∧
          given.owner = ownerIn acc.owner scopes) [] run.events ∧
        ∀ next, run.ending = .finished next → acc.SharesContext next ∧ next.reference = acc.reference) ∧
      ∀ reference next, reference.isCollection = false →
        (store.resolve depth (.entity reference) acc).ending = .finished next →
        next.reference = acc.reference := by
  constructor
  · intro reducer plain run
    have start : acc.SharesContext acc ∧ acc.reference = referenceIn acc.reference [] :=
      ⟨⟨rfl, rfl, rfl⟩, rfl⟩
    have meets := hands_over (context_invariant acc) plain start depth
    refine ⟨meets.trace.1.mono ?_, fun next finished => meets.finished finished⟩
    intro scopes given kept
    refine ⟨kept.1, ?_⟩
    rw [ownerIn_eq, Accumulator.owner, kept.2]
  · exact fun reference next plain finished => reference_of_finished plain finished

/-- In the sample `entry:renewal` the locals are lost, and the owner is not. Where the error hook of
    `entry:outer` enters `entry:inner`, everything is kept. -/
theorem context_is_kept_sample :
    let run := Renewal.store.resolve 2 (.entity Renewal.reference) Renewal.given
    let next := (Accumulator.ofValue (.string "new")).withReference Renewal.given.reference
    (run.ending = .finished next ∧ next.reference = some ⟨"entry", "caller", false⟩) ∧
      HandsOver (fun scopes given => Renewal.given.SharesContext given ∧
        given.owner = ownerIn (some "entry:caller") scopes) []
        (Rescue.store.resolve 4 (.entity Rescue.outerReference) Renewal.given).events := by
  intro run next
  have finished : run.ending = .finished next := rfl
  obtain ⟨-, restores⟩ := context_is_kept Renewal.store 2 Renewal.given
  obtain ⟨keeps, -⟩ := context_is_kept Rescue.store 4 Renewal.given
  refine ⟨⟨finished, restores _ _ rfl finished⟩, ?_⟩
  exact (keeps _ Rescue.not_reaches_context).1

end Store

end Reshape
