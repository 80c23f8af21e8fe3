/-
Module: Reshape.Proofs.Scopes
Layer: Proofs
Purpose: Which entities are open at each event of a resolution, and invariants of the accumulators that
  are handed to functions and to the watcher there.
Main exports: Scope, Scope.after, HandsOver, Scope.Invariant, Law.scoped, Store.hands_over
-/
import Reshape.Proofs.Contract

namespace Reshape

/-! ### Open entities -/

/-- An entity that has been entered by a reference and not yet left. In its error hook, `handling` is the
    failure that the hook has taken up. -/
structure Scope where
  reference : Reference
  handling : Option Failure
  deriving Repr, Inhabited, DecidableEq

/-- The id of the entity. -/
def Scope.id (scope : Scope) : String :=
  scope.reference.id

/-- The open scopes after one more event. The innermost scope comes first. -/
def Scope.after (scopes : List Scope) : Event → List Scope
  | .entered reference => ⟨reference, none⟩ :: scopes
  | .recovering _ failure =>
    match scopes with
    | [] => []
    | scope :: outer => { scope with handling := some failure } :: outer
  | .left _ => scopes.tail
  | _ => scopes

/-- The accumulator that the event shows to a function or to the watcher. -/
def Event.handed? : Event → Option Accumulator
  | .inspected acc => some acc
  | .called acc => some acc
  | _ => none

/-- Every accumulator that the events hand over is allowed in the scopes that are open at that
    point. -/
def HandsOver (allowed : List Scope → Accumulator → Prop) : List Scope → List Event → Prop
  | _, [] => True
  | scopes, event :: rest =>
    (∀ acc, event.handed? = some acc → allowed scopes acc) ∧
      HandsOver allowed (Scope.after scopes event) rest

variable {allowed : List Scope → Accumulator → Prop} {scopes : List Scope}

theorem handsOver_append {first last : List Event} :
    HandsOver allowed scopes (first ++ last) ↔
      HandsOver allowed scopes first ∧ HandsOver allowed (first.foldl Scope.after scopes) last := by
  induction first generalizing scopes with
  | nil => simp [HandsOver]
  | cons event rest ih => simp [HandsOver, ih, and_assoc]

/-- Around events that leave one more scope open, entering and leaving an entity closes it. -/
theorem handsOver_bracket {reference : Reference} {inner : Scope} {events : List Event}
    (hands : HandsOver allowed (⟨reference, none⟩ :: scopes) events)
    (closed : events.foldl Scope.after (⟨reference, none⟩ :: scopes) = inner :: scopes) :
    HandsOver allowed scopes (.entered reference :: events ++ [.left reference]) ∧
      (Event.entered reference :: events ++ [Event.left reference]).foldl Scope.after scopes =
        scopes := by
  constructor
  · exact ⟨nofun, handsOver_append.mpr ⟨hands, nofun, trivial⟩⟩
  · rw [List.foldl_append, List.foldl_cons]
    show [Event.left reference].foldl Scope.after
      (events.foldl Scope.after (⟨reference, none⟩ :: scopes)) = scopes
    rw [closed]
    rfl

theorem HandsOver.mono {other : List Scope → Accumulator → Prop} {events : List Event}
    (hands : HandsOver allowed scopes events)
    (weaker : ∀ scopes acc, allowed scopes acc → other scopes acc) :
    HandsOver other scopes events := by
  induction events generalizing scopes with
  | nil => trivial
  | cons event rest ih =>
      exact ⟨fun acc handed => weaker _ _ (hands.1 acc handed), ih hands.2⟩

/-! ### Invariants -/

/-- What is allowed of accumulators stays so on the way into entities and their error hooks and out of
    them. -/
structure Scope.Invariant (allowed : List Scope → Accumulator → Prop) : Prop where
  value : ∀ {scopes acc} (value : Value), allowed scopes acc → allowed scopes (acc.withValue value)
  enters : ∀ {scopes acc} (reference : Reference), allowed scopes acc →
    allowed (⟨reference, none⟩ :: scopes) (acc.withReference (some reference))
  leaves : ∀ {scopes acc next reference}, allowed scopes acc →
    allowed (⟨reference, none⟩ :: scopes) next → allowed scopes (next.withReference acc.reference)
  attaches : ∀ {scopes acc reference} (failure : Failure), allowed (⟨reference, none⟩ :: scopes) acc →
    allowed (⟨reference, some failure⟩ :: scopes) (acc.withFailure (some failure))
  recovers : ∀ {scopes acc next reference failure}, allowed scopes acc →
    allowed (⟨reference, some failure⟩ :: scopes) next →
    allowed scopes ((next.withFailure none).withReference acc.reference)

/-- The contract of runs that hand over only what is allowed, and close what they open. -/
def Contract.scoped (invariant : Scope.Invariant allowed) (scopes : List Scope) : Contract where
  state := allowed scopes
  trace events := HandsOver allowed scopes events ∧ events.foldl Scope.after scopes = scopes
  failure _ _ := True
  endless := True
  state_withValue := invariant.value
  trace_nil := ⟨trivial, rfl⟩
  trace_append := by
    intro first last one two
    obtain ⟨hands, closed⟩ := one
    obtain ⟨hands', closed'⟩ := two
    refine ⟨handsOver_append.mpr ⟨hands, ?_⟩, ?_⟩
    · rw [closed]
      exact hands'
    · rw [List.foldl_append, closed, closed']
  failure_mono _ := id

/-- An invariant is kept in whatever scopes are open. -/
def Law.scoped (store : Store) (invariant : Scope.Invariant allowed) : Law store (List Scope) where
  contract := Contract.scoped invariant
  inside scopes reference := ⟨reference, none⟩ :: scopes
  handling scopes reference failure := ⟨reference, some failure⟩ :: scopes
  encloses scopes reference entity := {
    enters := invariant.enters reference
    inspects := by
      intro acc allows
      unfold Resolver.inspect
      split
      · refine ⟨⟨?_, trivial⟩, rfl⟩
        intro shown same
        cases same
        exact allows
      · exact ⟨trivial, rfl⟩
    leaves := invariant.leaves
    lives := fun ⟨hands, closed⟩ => handsOver_bracket hands closed
    fails := fun _ => trivial
    endless := id
    attaches := fun allows _ => invariant.attaches _ allows
    recovers := fun allows _ allows' => invariant.recovers allows allows'
    handles := by
      intro events failure last guarded _ handled
      obtain ⟨hands, closed⟩ := guarded
      obtain ⟨hands', closed'⟩ := handled
      apply handsOver_bracket
      · refine handsOver_append.mpr ⟨hands, ?_⟩
        rw [closed]
        exact ⟨nofun, hands'⟩
      · rw [List.foldl_append, closed]
        exact closed'
    exhausts := fun _ _ => trivial
    hookEndless := fun _ => id }
  endless _ := trivial
  marks _ _ := trivial
  refuses _ := trivial
  stepRefuses _ := trivial

/-- A resolution keeps every invariant that the functions which answer with accumulators keep: at each
    accumulator that it hands over, and at the one that it finishes with. -/
theorem Store.hands_over_of_keeps {store : Store} {reducer : Reducer}
    (invariant : Scope.Invariant allowed)
    (keeps : ∀ body, store.Reaches reducer (.function (.context body)) → ∀ scopes acc next,
      allowed scopes acc → (body acc).result = .ok next → allowed scopes next)
    {acc : Accumulator} (start : allowed scopes acc) (depth : Nat) :
    (Contract.scoped invariant scopes).Meets (store.resolve depth reducer acc) := by
  refine (Law.scoped store invariant).resolve ?_ ?_ depth scopes start
  · intro function reached scopes acc allows
    refine Contract.call ?_ ?_ (fun _ => trivial) (fun _ => trivial) ?_ allows
    · refine ⟨⟨?_, trivial⟩, rfl⟩
      intro shown same
      cases same
      exact allows
    · exact fun _ _ => ⟨⟨nofun, trivial⟩, rfl⟩
    · intro body next same answer
      cases same
      exact keeps body reached scopes acc next allows answer
  · exact fun _ _ => ⟨⟨⟨nofun, trivial⟩, rfl⟩, fun _ => trivial⟩

/-- Where no function that answers with accumulators is reached, a resolution keeps every invariant. -/
theorem Store.hands_over {store : Store} {reducer : Reducer} (invariant : Scope.Invariant allowed)
    (plain : ∀ body, ¬ store.Reaches reducer (.function (.context body))) {acc : Accumulator}
    (start : allowed scopes acc) (depth : Nat) :
    (Contract.scoped invariant scopes).Meets (store.resolve depth reducer acc) :=
  hands_over_of_keeps invariant (fun body reached => absurd reached (plain body)) start depth

end Reshape
