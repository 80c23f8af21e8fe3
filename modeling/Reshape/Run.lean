/-
Module: Reshape.Run
Layer: State
Purpose: What happens while a reducer is resolved, in order, and how it ends. Running one thing after
  another stops at the first failure; running branches side by side never does.
Main exports: Event, Ending, Run, Run.bind, Run.annotate, Run.fanOut, Run.orElse,
  Run.bracket
-/
import Reshape.Accumulator.Basic

namespace Reshape

/-- Something that happens during a run. -/
inductive Event where
  /-- An entity was looked up in the store. -/
  | sought (id : String)
  /-- An entity was entered by a reference. -/
  | entered (reference : Reference)
  /-- The watcher was shown the accumulator that an entity was entered with. -/
  | inspected (acc : Accumulator)
  /-- A function was handed an accumulator. -/
  | called (acc : Accumulator)
  /-- A function wrote a note. -/
  | noted (label : String) (value : Value)
  /-- An entity's error hook took up a failure. -/
  | recovering (id : String) (failure : Failure)
  /-- The entity that was entered by a reference was left. -/
  | left (reference : Reference)

/-- How a run ends. It is unfinished if it would nest deeper than it was allowed to. -/
inductive Ending (α : Type) where
  | finished (a : α)
  | failed (failure : Failure)
  | unfinished

/-- A run: its events and its ending. -/
structure Run (α : Type) where
  events : List Event
  ending : Ending α

namespace Ending

variable {α β : Type}

/-- The ending with `f` applied to a result. -/
def map (f : α → β) : Ending α → Ending β
  | .finished a => .finished (f a)
  | .failed failure => .failed failure
  | .unfinished => .unfinished

/-- The ending with `place` put in front of a failure's message. -/
def annotate (place : String) : Ending α → Ending α
  | .finished a => .finished a
  | .failed failure => .failed (failure.annotate place)
  | .unfinished => .unfinished

/-- The common ending of two branches, both of which have run: unfinished if either is, otherwise the
    first failure there is. -/
def both : Ending α → Ending (List α) → Ending (List α)
  | .unfinished, _ => .unfinished
  | _, .unfinished => .unfinished
  | .failed failure, _ => .failed failure
  | .finished _, .failed failure => .failed failure
  | .finished a, .finished rest => .finished (a :: rest)

end Ending

namespace Run

variable {α β : Type}

/-- The run that does nothing and ends with `a`. -/
def pure (a : α) : Run α :=
  ⟨[], .finished a⟩

/-- The run that does nothing and fails. -/
def fail (failure : Failure) : Run α :=
  ⟨[], .failed failure⟩

/-- The run that was not allowed to go on. -/
def stop : Run α :=
  ⟨[], .unfinished⟩

/-- The run whose only event is `event`. -/
def event (event : Event) : Run Unit :=
  ⟨[event], .finished ()⟩

/-- The run of something that has already succeeded or failed. -/
def ofExcept : Except Failure α → Run α
  | .ok a => pure a
  | .error failure => fail failure

/-- First `run` and then, if that finishes, `next` with its result. -/
def bind (run : Run α) (next : α → Run β) : Run β :=
  match run.ending with
  | .finished a => ⟨run.events ++ (next a).events, (next a).ending⟩
  | .failed failure => ⟨run.events, .failed failure⟩
  | .unfinished => ⟨run.events, .unfinished⟩

instance : Monad Run where
  pure := pure
  bind := bind

/-- The run with `f` applied to its result. -/
def map (f : α → β) (run : Run α) : Run β :=
  ⟨run.events, run.ending.map f⟩

/-- The run with `place` put in front of a failure's message. -/
def annotate (place : String) (run : Run α) : Run α :=
  { run with ending := run.ending.annotate place }

/-- All branches, one after the other, whatever becomes of each. It fails like the first branch that
    fails. -/
def fanOut : List (Run α) → Run (List α)
  | [] => pure []
  | branch :: rest =>
    let others := fanOut rest
    ⟨branch.events ++ others.events, branch.ending.both others.ending⟩

/-- The run between the entering and the leaving of an entity. -/
def bracket (reference : Reference) (run : Run α) : Run α :=
  { run with events := .entered reference :: run.events ++ [.left reference] }

/-- If `run` fails, `rescue` goes on from the failure. -/
def orElse (run : Run α) (rescue : Failure → Run α) : Run α :=
  match run.ending with
  | .failed failure => ⟨run.events ++ (rescue failure).events, (rescue failure).ending⟩
  | _ => run

/-! ### Laws of sequence -/

@[simp] theorem pure_eq (a : α) : (Pure.pure a : Run α) = Run.pure a := rfl

@[simp] theorem bind_eq (run : Run α) (next : α → Run β) : (run >>= next) = run.bind next := rfl

@[simp] theorem pure_bind (a : α) (next : α → Run β) : (Run.pure a).bind next = next a := by
  simp [Run.pure, Run.bind]

@[simp] theorem bind_pure (run : Run α) : run.bind Run.pure = run := by
  obtain ⟨events, ending⟩ := run
  cases ending <;> simp [Run.pure, Run.bind]

theorem bind_assoc {γ : Type} (run : Run α) (next : α → Run β) (last : β → Run γ) :
    (run.bind next).bind last = run.bind fun a => (next a).bind last := by
  obtain ⟨events, ending⟩ := run
  cases ending with
  | finished a =>
      simp only [Run.bind]
      cases (next a).ending <;> simp
  | failed failure => rfl
  | unfinished => rfl

end Run

end Reshape
