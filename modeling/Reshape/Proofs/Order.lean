/-
Module: Reshape.Proofs.Order
Layer: Proofs
Purpose: Runs in a row and runs side by side: which of them take place, what they leave in the log of user
  code, and how the whole ends. A row stops at the first run that does not finish, and of branches all
  take place.
Main exports: Event.isLogged, Run.log, Run.inOrder, Run.Along, Run.along_inOrder, Run.log_fanOut,
  Run.fanOut_annotate, Run.fanOut_finished_iff, Run.fanOut_unfinished_iff, Run.FirstFailure.index,
  Run.fanOut_failed_iff, Run.fanOut_fails_iff
-/
import Mathlib.Data.List.Forall2
import Reshape.Run

namespace Reshape

/-! ### The log -/

/-- The event is one of user code: a call of a function, a note that it wrote, or a call of the
    watcher. -/
def Event.isLogged : Event → Bool
  | .inspected _ => true
  | .called _ => true
  | .noted _ _ => true
  | _ => false

namespace Run

variable {α β : Type}

/-- The log of user code. -/
def log (run : Run α) : List Event :=
  run.events.filter Event.isLogged

@[simp] theorem log_map (f : α → β) (run : Run α) : (run.map f).log = run.log := rfl

/-- To user code and to whoever waits for the result, both runs are the same. -/
structure Alike (left right : Run α) : Prop where
  log : left.log = right.log
  ending : left.ending = right.ending

namespace Alike

theorem refl (run : Run α) : run.Alike run := ⟨rfl, rfl⟩

end Alike

theorem ending_map (f : α → β) (run : Run α) : (run.map f).ending = run.ending.map f := rfl

theorem ending_annotate (place : String) (run : Run α) :
    (run.annotate place).ending = run.ending.annotate place := rfl

theorem ending_event_bind (event : Event) (run : Run α) :
    ((Run.event event).bind fun _ => run).ending = run.ending := rfl

/-- What is not logged may happen before a run. -/
theorem alike_event_bind {event : Event} (silent : event.isLogged = false) (run : Run α) :
    ((Run.event event).bind fun _ => run).Alike run where
  log := by simp [log, Run.event, Run.bind, silent]
  ending := rfl

/-- What makes a value of a result makes it of the ending. -/
theorem bind_pure_eq_map (run : Run α) (f : α → β) : (run.bind fun a => Run.pure (f a)) = run.map f := by
  obtain ⟨events, ending⟩ := run
  cases ending <;> simp [Run.bind, Run.pure, Run.map, Ending.map]

theorem map_map {γ : Type} (f : α → β) (g : β → γ) (run : Run α) :
    (run.map f).map g = run.map fun a => g (f a) := by
  obtain ⟨events, ending⟩ := run
  cases ending <;> rfl

/-- A mark does not depend on the result. -/
theorem map_annotate (f : α → β) (place : String) (run : Run α) :
    (run.annotate place).map f = (run.map f).annotate place := by
  obtain ⟨events, ending⟩ := run
  cases ending <;> rfl

theorem map_finished_iff {f : α → β} {run : Run α} {b : β} :
    (run.map f).ending = .finished b ↔ ∃ a, run.ending = .finished a ∧ f a = b := by
  show run.ending.map f = .finished b ↔ _
  cases run.ending <;> simp [Ending.map]

theorem map_failed_iff {f : α → β} {run : Run α} {failure : Failure} :
    (run.map f).ending = .failed failure ↔ run.ending = .failed failure := by
  show run.ending.map f = .failed failure ↔ _
  cases run.ending <;> simp [Ending.map]

theorem map_unfinished_iff {f : α → β} {run : Run α} :
    (run.map f).ending = .unfinished ↔ run.ending = .unfinished := by
  show run.ending.map f = .unfinished ↔ _
  cases run.ending <;> simp [Ending.map]

/-! ### In a row -/

/-- Runs the members in order, each on the accumulator that the one before it left. -/
def inOrder : List (Accumulator → Run Accumulator) → Accumulator → Run Accumulator
  | [], acc => Run.pure acc
  | member :: rest, acc => (member acc).bind (inOrder rest)

/-- `Along members acc runs ending`: `runs` are the runs of the members up to and including the first one
    that does not finish, each on the accumulator that the one before it left, and `ending` is how the
    last of them ends. -/
inductive Along : List (Accumulator → Run Accumulator) → Accumulator → List (Run Accumulator) →
    Ending Accumulator → Prop where
  | done (acc : Accumulator) : Along [] acc [] (.finished acc)
  | next {member : Accumulator → Run Accumulator} {rest : List (Accumulator → Run Accumulator)}
      {acc middle : Accumulator} {runs : List (Run Accumulator)} {ending : Ending Accumulator}
      (finished : (member acc).ending = .finished middle) (others : Along rest middle runs ending) :
      Along (member :: rest) acc (member acc :: runs) ending
  | halt {member : Accumulator → Run Accumulator} {rest : List (Accumulator → Run Accumulator)}
      {acc : Accumulator} (halts : ∀ middle, (member acc).ending ≠ .finished middle) :
      Along (member :: rest) acc [member acc] (member acc).ending

theorem inOrder_append (first last : List (Accumulator → Run Accumulator)) (acc : Accumulator) :
    inOrder (first ++ last) acc = (inOrder first acc).bind (inOrder last) := by
  induction first generalizing acc with
  | nil => rw [List.nil_append, inOrder, pure_bind]
  | cons member rest ih =>
      rw [List.cons_append, inOrder, inOrder, bind_assoc]
      congr 1
      exact funext ih

@[simp] theorem inOrder_singleton (member : Accumulator → Run Accumulator) :
    inOrder [member] = member :=
  funext fun acc => bind_pure (member acc)

/-- After a run that does not finish, nothing goes on. -/
theorem bind_eq_self {run : Run α} {next : α → Run α} (halts : ∀ a, run.ending ≠ .finished a) :
    run.bind next = run := by
  obtain ⟨events, ending⟩ := run
  cases ending with
  | finished a => exact absurd rfl (halts a)
  | failed failure => rfl
  | unfinished => rfl

/-- A row of members takes place up to the first that does not finish, and leaves the events of just
    these behind. -/
theorem along_inOrder (members : List (Accumulator → Run Accumulator)) (acc : Accumulator) :
    ∃ runs, Along members acc runs (inOrder members acc).ending ∧
      (inOrder members acc).events = runs.flatMap Run.events := by
  induction members generalizing acc with
  | nil => exact ⟨[], .done acc, rfl⟩
  | cons member rest ih =>
      by_cases finishes : ∃ middle, (member acc).ending = .finished middle
      · obtain ⟨middle, finished⟩ := finishes
        obtain ⟨runs, along, events⟩ := ih middle
        refine ⟨member acc :: runs, ?_, ?_⟩
        · rw [inOrder, Run.bind, finished]
          exact .next finished along
        · simp [inOrder, Run.bind, finished, events]
      · have halts : ∀ middle, (member acc).ending ≠ .finished middle :=
          fun middle finished => finishes ⟨middle, finished⟩
        refine ⟨[member acc], ?_, ?_⟩
        · rw [inOrder, bind_eq_self halts]
          exact .halt halts
        · rw [inOrder, bind_eq_self halts]
          simp

/-- The log of events that are those of several runs. -/
theorem log_eq_flatMap {run : Run α} {runs : List (Run β)}
    (events : run.events = runs.flatMap Run.events) : run.log = runs.flatMap Run.log := by
  rw [log, events, List.filter_flatMap]
  rfl

/-! ### Side by side -/

theorem events_fanOut (branches : List (Run α)) :
    (fanOut branches).events = branches.flatMap Run.events := by
  induction branches with
  | nil => rfl
  | cons branch rest ih => rw [fanOut, ih, List.flatMap_cons]

theorem log_fanOut (branches : List (Run α)) : (fanOut branches).log = branches.flatMap Run.log :=
  log_eq_flatMap (events_fanOut branches)

/-- How branches end together depends on how each of them ends. -/
theorem ending_fanOut_congr {ι : Type} {branch branch' : ι → Run α} (inputs : List ι)
    (same : ∀ input, (branch input).ending = (branch' input).ending) :
    (fanOut (inputs.map branch)).ending = (fanOut (inputs.map branch')).ending := by
  induction inputs with
  | nil => rfl
  | cons input rest ih =>
      show (branch input).ending.both (fanOut (rest.map branch)).ending =
        (branch' input).ending.both (fanOut (rest.map branch')).ending
      rw [same, ih]

/-- Branches may be looked at before or after what becomes of their results. -/
theorem fanOut_map (f : α → β) (branches : List (Run α)) :
    fanOut (branches.map (Run.map f)) = (fanOut branches).map (List.map f) := by
  induction branches with
  | nil => rfl
  | cons branch rest ih =>
      rw [List.map_cons, fanOut, fanOut, ih]
      obtain ⟨events, ending⟩ := branch
      obtain ⟨others, last⟩ := fanOut rest
      cases ending <;> cases last <;> rfl

/-- A mark on the failure of each branch is a mark on their common failure. -/
theorem fanOut_annotate (place : String) (branches : List (Run α)) :
    fanOut (branches.map (Run.annotate place)) = (fanOut branches).annotate place := by
  induction branches with
  | nil => rfl
  | cons branch rest ih =>
      rw [List.map_cons, fanOut, fanOut, ih]
      obtain ⟨events, ending⟩ := branch
      obtain ⟨others, last⟩ := fanOut rest
      cases ending <;> cases last <;> rfl

theorem fanOut_finished_iff {branches : List (Run α)} {results : List α} :
    (fanOut branches).ending = .finished results ↔
      List.Forall₂ (fun branch result => branch.ending = .finished result) branches results := by
  induction branches generalizing results with
  | nil => cases results <;> simp [fanOut, Run.pure]
  | cons branch rest ih =>
      show branch.ending.both (fanOut rest).ending = .finished results ↔ _
      rw [List.forall₂_cons_left_iff]
      simp only [← ih]
      cases branch.ending <;> cases (fanOut rest).ending <;> simp [Ending.both, eq_comm]

/-- Branches stay unfinished together if one of them does. -/
theorem fanOut_unfinished_iff {branches : List (Run α)} :
    (fanOut branches).ending = .unfinished ↔ ∃ branch ∈ branches, branch.ending = .unfinished := by
  induction branches with
  | nil => simp [fanOut, Run.pure]
  | cons branch rest ih =>
      show branch.ending.both (fanOut rest).ending = .unfinished ↔ _
      simp only [List.mem_cons, exists_eq_or_imp, ← ih]
      cases branch.ending <;> cases (fanOut rest).ending <;> simp [Ending.both]

/-- `failure` is the failure of the first of the branches that fail. -/
def FirstFailure (branches : List (Run α)) (failure : Failure) : Prop :=
  ∃ earlier branch later, branches = earlier ++ branch :: later ∧
    (∀ other ∈ earlier, ∀ second, other.ending ≠ .failed second) ∧ branch.ending = .failed failure

theorem firstFailure_cons_iff {branch : Run α} {rest : List (Run α)} {failure : Failure} :
    FirstFailure (branch :: rest) failure ↔
      branch.ending = .failed failure ∨
        (∀ second, branch.ending ≠ .failed second) ∧ FirstFailure rest failure := by
  constructor
  · rintro ⟨earlier, failing, later, split, succeed, failed⟩
    cases earlier with
    | nil =>
        obtain ⟨rfl, rfl⟩ := List.cons.inj split
        exact .inl failed
    | cons first others =>
        obtain ⟨rfl, rfl⟩ := List.cons.inj split
        refine .inr ⟨succeed _ List.mem_cons_self, others, failing, later, rfl, ?_, failed⟩
        exact fun other member => succeed other (List.mem_cons_of_mem _ member)
  · rintro (failed | ⟨succeeds, earlier, failing, later, rfl, succeed, failed⟩)
    · exact ⟨[], branch, rest, rfl, nofun, failed⟩
    · refine ⟨branch :: earlier, failing, later, rfl, ?_, failed⟩
      intro other member
      rcases List.mem_cons.mp member with rfl | member
      · exact succeeds
      · exact succeed other member

/-- Of inputs in ascending order, the one whose branch fails first is the least whose branch fails. -/
theorem FirstFailure.least {ι : Type} {below : ι → ι → Prop} {inputs : List ι} {branch : ι → Run α}
    {failure : Failure} (first : FirstFailure (inputs.map branch) failure)
    (ascending : inputs.Pairwise below) :
    ∃ input ∈ inputs, (branch input).ending = .failed failure ∧
      ∀ other ∈ inputs, (∃ second, (branch other).ending = .failed second) →
        other = input ∨ below input other := by
  obtain ⟨earlier, failing, later, split, succeed, failed⟩ := first
  obtain ⟨before, rest, rfl, rfl, tail⟩ := List.map_eq_append_iff.mp split
  obtain ⟨input, after, rfl, rfl, rfl⟩ := List.map_eq_cons_iff.mp tail
  refine ⟨input, List.mem_append_cons_self, failed, ?_⟩
  intro other member fails
  obtain ⟨second, failed⟩ := fails
  rcases List.mem_append.mp member with inBefore | inRest
  · exact absurd failed (succeed _ (List.mem_map_of_mem inBefore) second)
  · rcases List.mem_cons.mp inRest with same | inAfter
    · exact .inl same
    · obtain ⟨-, ascending, -⟩ := List.pairwise_append.mp ascending
      exact .inr ((List.pairwise_cons.mp ascending).1 other inAfter)

/-- The input whose branch fails first, by its place among the inputs. -/
theorem FirstFailure.index {ι : Type} {inputs : List ι} {branch : ι → Run α} {failure : Failure}
    (first : FirstFailure (inputs.map branch) failure) :
    ∃ (index : Nat) (input : ι), inputs[index]? = some input ∧ (branch input).ending = .failed failure ∧
      ∀ place < index, ∀ other : ι, inputs[place]? = some other →
        ∀ second, (branch other).ending ≠ .failed second := by
  obtain ⟨earlier, failing, later, split, succeed, failed⟩ := first
  obtain ⟨before, rest, rfl, rfl, tail⟩ := List.map_eq_append_iff.mp split
  obtain ⟨input, after, rfl, rfl, rfl⟩ := List.map_eq_cons_iff.mp tail
  refine ⟨before.length, input, ?_, failed, ?_⟩
  · rw [List.getElem?_append_right (Nat.le_refl _), Nat.sub_self, List.getElem?_cons_zero]
  · intro place below other found
    rw [List.getElem?_append_left below] at found
    exact succeed _ (List.mem_map_of_mem (List.mem_of_getElem? found))

/-- Branches fail together, with the failure of the first that fails, if none stays unfinished. -/
theorem fanOut_failed_iff {branches : List (Run α)} {failure : Failure} :
    (fanOut branches).ending = .failed failure ↔
      (∀ branch ∈ branches, branch.ending ≠ .unfinished) ∧ FirstFailure branches failure := by
  induction branches with
  | nil => simp [fanOut, Run.pure, FirstFailure]
  | cons branch rest ih =>
      have ends : (∀ other ∈ rest, other.ending ≠ .unfinished) ↔
          (fanOut rest).ending ≠ .unfinished := by
        simp [fanOut_unfinished_iff]
      show branch.ending.both (fanOut rest).ending = .failed failure ↔ _
      rw [ends] at ih
      rw [firstFailure_cons_iff, List.forall_mem_cons, ends]
      cases branch.ending with
      | finished a =>
          have same : (Ending.finished a).both (fanOut rest).ending = .failed failure ↔
              (fanOut rest).ending = .failed failure := by
            cases (fanOut rest).ending <;> simp [Ending.both]
          rw [same, ih]
          simp
      | failed first => cases (fanOut rest).ending <;> simp [Ending.both]
      | unfinished => simp [Ending.both]

/-- Branches that end fail together exactly if one of them fails. -/
theorem fanOut_fails_iff {branches : List (Run α)} (ends : (fanOut branches).ending ≠ .unfinished) :
    (∃ failure, (fanOut branches).ending = .failed failure) ↔
      ∃ branch ∈ branches, ∃ failure, branch.ending = .failed failure := by
  induction branches with
  | nil => simp [fanOut, Run.pure]
  | cons branch rest ih =>
      have restEnds : (fanOut rest).ending ≠ .unfinished := by
        rw [Ne, fanOut_unfinished_iff] at ends ⊢
        rintro ⟨other, member, unfinished⟩
        exact ends ⟨other, List.mem_cons_of_mem _ member, unfinished⟩
      have both : (fanOut (branch :: rest)).ending = branch.ending.both (fanOut rest).ending := rfl
      rw [both] at ends ⊢
      simp only [List.mem_cons, exists_eq_or_imp, ← ih restEnds]
      revert ends restEnds
      cases branch.ending <;> cases (fanOut rest).ending <;> simp [Ending.both]

end Run

end Reshape
