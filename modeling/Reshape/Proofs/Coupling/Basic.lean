/-
Module: Reshape.Proofs.Coupling.Basic
Layer: Proofs
Purpose: A logic for two runs side by side. A coupling says what ties accumulators, traces and
  failures at the same point of both runs, and there is one rule for each way of putting runs
  together. Properties of single runs are couplings of a run with itself
  (`Reshape.Proofs.Contract`).
Main exports: Coupling, Coupling.Couples, Coupling.bind, Coupling.annotate, Coupling.map,
  Coupling.Couples.mono, Coupling.fanOut
-/
import Reshape.Run

namespace Reshape

/-- What ties two runs as long as they go on side by side. Tied accumulators hold the same value, so
    both runs branch alike. -/
structure Coupling where
  /-- The accumulators at the same point of both runs. -/
  state : Accumulator → Accumulator → Prop
  /-- The events that both runs have left behind. -/
  trace : List Event → List Event → Prop
  /-- The failures that both runs end in, after the events that they have left behind. -/
  failure : List Event → List Event → Failure → Failure → Prop
  /-- Both runs may stay unfinished. -/
  endless : Prop
  /-- The first run may stay unfinished whatever becomes of the second. -/
  loose : Prop
  value_eq : ∀ {left right}, state left right → left.value = right.value
  state_withValue : ∀ {left right} (value : Value), state left right →
    state (left.withValue value) (right.withValue value)
  trace_nil : trace [] []
  trace_append : ∀ {first first' last last'}, trace first first' → trace last last' →
    trace (first ++ last) (first' ++ last')
  /-- Failures stay tied whatever else happens in either run. -/
  failure_mono : ∀ {events events' more more' left right}, events ⊆ more → events' ⊆ more' →
    failure events events' left right → failure more more' left right

namespace Coupling

variable {α β γ δ : Type} {coupling : Coupling}

/-- The coupling for runs whose failures are yet to be marked with `place`. -/
def marked (coupling : Coupling) (place : String) : Coupling :=
  { coupling with
    failure := fun events events' left right =>
      coupling.failure events events' (left.annotate place) (right.annotate place)
    failure_mono := coupling.failure_mono }

/-- Endings of the same sort, with tied contents, after the given events. -/
def Endings (coupling : Coupling) (related : α → β → Prop) (events events' : List Event) :
    Ending α → Ending β → Prop
  | .finished a, .finished b => related a b
  | .failed left, .failed right => coupling.failure events events' left right
  | .unfinished, .unfinished => coupling.endless
  | _, _ => False

/-- Two runs are tied: in what happens and in how they end, unless the first one stays unfinished and
    is allowed to. -/
def Couples (coupling : Coupling) (related : α → β → Prop) (left : Run α) (right : Run β) : Prop :=
  (coupling.loose ∧ left.ending = .unfinished) ∨
    (coupling.trace left.events right.events ∧
      coupling.Endings related left.events right.events left.ending right.ending)

/-- Endings stay tied whatever else happens. -/
theorem Endings.mono {related : α → β → Prop} {events events' more more' : List Event}
    {left : Ending α} {right : Ending β} (tied : coupling.Endings related events events' left right)
    (subset : events ⊆ more) (subset' : events' ⊆ more') :
    coupling.Endings related more more' left right := by
  cases left <;> cases right <;> try exact tied
  exact coupling.failure_mono subset subset' tied

/-! ### Putting runs together -/

theorem pure {related : α → β → Prop} {a : α} {b : β} (h : related a b) :
    coupling.Couples related (Run.pure a) (Run.pure b) :=
  .inr ⟨coupling.trace_nil, h⟩

theorem fail {related : α → β → Prop} {left right : Failure}
    (h : coupling.failure [] [] left right) :
    coupling.Couples related (Run.fail left) (Run.fail right) :=
  .inr ⟨coupling.trace_nil, h⟩

theorem bind {related : α → β → Prop} {related' : γ → δ → Prop} {left : Run α} {right : Run β}
    {next : α → Run γ} {next' : β → Run δ} (first : coupling.Couples related left right)
    (rest : ∀ {a b}, related a b → coupling.Couples related' (next a) (next' b)) :
    coupling.Couples related' (left.bind next) (right.bind next') := by
  obtain ⟨events, ending⟩ := left
  obtain ⟨events', ending'⟩ := right
  rcases first with ⟨loose, stopped⟩ | ⟨traces, endings⟩
  · obtain rfl : ending = .unfinished := stopped
    exact .inl ⟨loose, rfl⟩
  · cases ending <;> cases ending' <;> try exact endings.elim
    · rename_i a b
      rcases rest endings with ⟨loose, stopped⟩ | ⟨traces', endings'⟩
      · exact .inl ⟨loose, stopped⟩
      · exact .inr ⟨coupling.trace_append traces traces',
          endings'.mono (List.subset_append_right _ _) (List.subset_append_right _ _)⟩
    · exact .inr ⟨traces, endings⟩
    · exact .inr ⟨traces, endings⟩

theorem annotate {related : α → β → Prop} {left : Run α} {right : Run β} {place : String}
    (h : (coupling.marked place).Couples related left right) :
    coupling.Couples related (left.annotate place) (right.annotate place) := by
  obtain ⟨events, ending⟩ := left
  obtain ⟨events', ending'⟩ := right
  rcases h with ⟨loose, stopped⟩ | ⟨traces, endings⟩
  · obtain rfl : ending = .unfinished := stopped
    exact .inl ⟨loose, rfl⟩
  · refine .inr ⟨traces, ?_⟩
    cases ending <;> cases ending' <;> exact endings

theorem map {related : γ → δ → Prop} {left : Run α} {right : Run β} {f : α → γ} {g : β → δ}
    (h : coupling.Couples (fun a b => related (f a) (g b)) left right) :
    coupling.Couples related (left.map f) (right.map g) := by
  obtain ⟨events, ending⟩ := left
  obtain ⟨events', ending'⟩ := right
  rcases h with ⟨loose, stopped⟩ | ⟨traces, endings⟩
  · obtain rfl : ending = .unfinished := stopped
    exact .inl ⟨loose, rfl⟩
  · refine .inr ⟨traces, ?_⟩
    cases ending <;> cases ending' <;> exact endings

/-- Weaker ties. Both couplings look at the same events. -/
theorem Couples.mono {other : Coupling} {related related' : α → β → Prop} {left : Run α} {right : Run β}
    (h : coupling.Couples related left right)
    (loose : coupling.loose → other.loose)
    (traces : ∀ {l r}, coupling.trace l r → other.trace l r)
    (results : ∀ {a b}, related a b → related' a b)
    (failures : ∀ {events events' f g}, coupling.failure events events' f g →
      other.failure events events' f g)
    (endless : coupling.endless → other.endless) :
    other.Couples related' left right := by
  obtain ⟨events, ending⟩ := left
  obtain ⟨events', ending'⟩ := right
  rcases h with ⟨isLoose, stopped⟩ | ⟨trace, endings⟩
  · exact .inl ⟨loose isLoose, stopped⟩
  · refine .inr ⟨traces trace, ?_⟩
    cases ending <;> cases ending' <;> try exact endings.elim
    · exact results endings
    · exact failures endings
    · exact endless endings

/-- Two branches that have both run are tied in how they end together. -/
theorem endings_both {events events' : List Event} {ending ending' : Ending α}
    {others others' : Ending (List α)} (head : coupling.Endings Eq events events' ending ending')
    (tail : coupling.Endings Eq events events' others others') :
    coupling.Endings Eq events events' (ending.both others) (ending'.both others') := by
  cases ending <;> cases ending' <;> try exact head.elim
  · obtain rfl := head
    cases others <;> cases others' <;> try exact tail.elim
    · obtain rfl := tail
      rfl
    · exact tail
    · exact tail
  · cases others <;> cases others' <;> try exact tail.elim
    · exact head
    · exact head
    · exact tail
  · exact head

/-- Weaker ties between results. -/
theorem Couples.results {related related' : α → β → Prop} {left : Run α} {right : Run β}
    (h : coupling.Couples related left right) (results : ∀ {a b}, related a b → related' a b) :
    coupling.Couples related' left right :=
  h.mono id id results id id

/-- All branches of both runs are tied, and so are the lists of their results. -/
theorem fanOut {ι : Type} {branch branch' : ι → Run α} {inputs : List ι}
    (h : ∀ input ∈ inputs, coupling.Couples Eq (branch input) (branch' input)) :
    coupling.Couples Eq (Run.fanOut (inputs.map branch)) (Run.fanOut (inputs.map branch')) := by
  induction inputs with
  | nil => exact pure rfl
  | cons input rest ih =>
      have head := h input List.mem_cons_self
      have tail := ih fun other member => h other (List.mem_cons_of_mem _ member)
      rw [List.map_cons, List.map_cons, Run.fanOut, Run.fanOut]
      -- One branch that stays unfinished leaves the whole unfinished, whichever it is.
      rcases head with ⟨loose, stopped⟩ | ⟨traces, endings⟩
      · refine .inl ⟨loose, ?_⟩
        simp [stopped, Ending.both]
      · rcases tail with ⟨loose, stopped⟩ | ⟨traces', endings'⟩
        · refine .inl ⟨loose, ?_⟩
          simp only [stopped]
          cases (branch input).ending <;> rfl
        · refine .inr ⟨coupling.trace_append traces traces', endings_both ?_ ?_⟩
          · exact endings.mono (List.subset_append_left _ _) (List.subset_append_left _ _)
          · exact endings'.mono (List.subset_append_right _ _) (List.subset_append_right _ _)

end Coupling

end Reshape
