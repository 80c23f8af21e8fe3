/-
Module: Reshape.Proofs.Equality
Layer: Proofs
Purpose: Equality of values. It goes both ways and along chains, and a value equals itself unless there is a NaN
  somewhere in it. Equal values have one type and are both a yes or both a no, and the same segments find equal
  values in both of them, or nothing in either.
Main exports: Value.parts, Value.Part, Value.induction_on_parts, Value.Equal, Value.Alike, Value.equal_iff_alike,
  Value.equal_self_iff, Value.Equal.step?, Value.Equal.follow?, Value.equality_is_respected
-/
import Reshape.Path.Lookup
import Reshape.Proofs.Outcomes
import Reshape.Value.Equality

namespace Reshape

/-- Maps that are related entry by entry have related values under each key, or none. -/
theorem Keyed.rel_get? {α β : Type} {R : α → β → Prop} {left : Keyed α} {right : Keyed β}
    (related : List.Forall₂ (fun a b => a.1 = b.1 ∧ R a.2 b.2) left right) (key : String) :
    Option.Rel R (get? left key) (get? right key) := by
  induction related with
  | nil => exact .none
  | @cons entry entry' rest rest' first _ ih =>
      obtain ⟨found, a⟩ := entry
      obtain ⟨found', b⟩ := entry'
      obtain ⟨rfl, values⟩ : found = found' ∧ R a b := first
      rw [get?_cons, get?_cons]
      by_cases same : found = key
      · rw [if_pos same, if_pos same]
        exact .some values
      · rw [if_neg same, if_neg same]
        exact ih

namespace Value

/-! ### Parts -/

/-- The values that stand directly in the value. -/
def parts : Value → List Value
  | .array items => items
  | .object entries => entries.map Prod.snd
  | _ => []

/-- `Part part whole`: the value `part` is `whole`, or stands in it at some depth. -/
inductive Part : Value → Value → Prop where
  | self (value : Value) : Part value value
  | within {part next whole : Value} (member : next ∈ whole.parts) (inside : Part part next) :
      Part part whole

section Induction

variable {P : Value → Prop}

mutual

/-- What passes from its parts to a value holds for every value. -/
theorem induction_on_parts (step : ∀ value, (∀ part ∈ value.parts, P part) → P value) :
    ∀ value, P value
  | .array items => step _ (induction_on_items step items)
  | .object entries => step _ (List.forall_mem_map.mpr (induction_on_entries step entries))
  | .undefined | .null | .bool _ | .int _ | .float _ | .string _ => step _ (List.forall_mem_nil _)

theorem induction_on_items (step : ∀ value, (∀ part ∈ value.parts, P part) → P value) :
    ∀ items : List Value, ∀ item ∈ items, P item
  | [] => List.forall_mem_nil _
  | item :: rest => List.forall_mem_cons.mpr ⟨induction_on_parts step item, induction_on_items step rest⟩

theorem induction_on_entries (step : ∀ value, (∀ part ∈ value.parts, P part) → P value) :
    ∀ entries : List (String × Value), ∀ entry ∈ entries, P entry.2
  | [] => List.forall_mem_nil _
  | (_, value) :: rest =>
      List.forall_mem_cons.mpr ⟨induction_on_parts step value, induction_on_entries step rest⟩

end

end Induction

/-! ### One layer of a comparison -/

/-- The values count as equal. -/
abbrev Equal (a b : Value) : Prop :=
  a.equals b = true

/-- Entries with the same keys and equal values, in the same order. -/
def EqualEntries : Keyed Value → Keyed Value → Prop :=
  List.Forall₂ fun entry entry' => entry.1 = entry'.1 ∧ Equal entry.2 entry'.2

/-- What values that count as equal are made of. -/
inductive Alike : Value → Value → Prop where
  | undefined : Alike .undefined .undefined
  | null : Alike .null .null
  | bool (b : Bool) : Alike (.bool b) (.bool b)
  | int (n : Int64) : Alike (.int n) (.int n)
  | float {x y : Binary64} (numbers : x.equals y = true) : Alike (.float x) (.float y)
  | string (s : String) : Alike (.string s) (.string s)
  | array {items items' : List Value} (equal : List.Forall₂ Equal items items') :
      Alike (.array items) (.array items')
  | object {entries entries' : Keyed Value} (equal : EqualEntries entries entries') :
      Alike (.object entries) (.object entries')

theorem equalsItems_iff {items items' : List Value} :
    equalsItems items items' = true ↔ List.Forall₂ Equal items items' := by
  induction items generalizing items' with
  | nil => cases items' <;> simp [equalsItems]
  | cons item rest ih => cases items' <;> simp [equalsItems, ih]

theorem equalsEntries_iff {entries entries' : Keyed Value} :
    equalsEntries entries entries' = true ↔ EqualEntries entries entries' := by
  unfold EqualEntries
  induction entries generalizing entries' with
  | nil => cases entries' <;> simp [equalsEntries]
  | cons entry rest ih => cases entries' <;> simp [equalsEntries, ih]

variable {a b c : Value}

theorem equal_iff_alike : Equal a b ↔ Alike a b := by
  constructor
  · intro equal
    unfold Equal equals at equal
    split at equal
    · exact .undefined
    · exact .null
    · exact eq_of_beq equal ▸ .bool _
    · exact eq_of_beq equal ▸ .int _
    · exact .float equal
    · exact eq_of_beq equal ▸ .string _
    · exact .array (equalsItems_iff.mp equal)
    · exact .object (equalsEntries_iff.mp equal)
    · cases equal
  · intro alike
    cases alike with
    | undefined => rfl
    | null => rfl
    | bool b => exact beq_self_eq_true b
    | int n => exact beq_self_eq_true n
    | float numbers => exact numbers
    | string s => exact beq_self_eq_true s
    | array items => exact equalsItems_iff.mpr items
    | object entries => exact equalsEntries_iff.mpr entries

/-! ### A partial equivalence -/

theorem Equal.symm (equal : Equal a b) : Equal b a := by
  induction a using induction_on_parts generalizing b with
  | step a ih =>
    rw [equal_iff_alike] at equal ⊢
    cases equal with
    | undefined => exact .undefined
    | null => exact .null
    | bool b => exact .bool b
    | int n => exact .int n
    | float numbers =>
        rw [Binary64.equals_comm] at numbers
        exact .float numbers
    | string s => exact .string s
    | array items =>
        refine .array (List.Forall₂.flip (forall₂_of_mem items ?_))
        intro item member item' equal
        exact ih item member equal
    | object entries =>
        refine .object (List.Forall₂.flip (forall₂_of_mem entries ?_))
        rintro entry member entry' ⟨key, equal⟩
        exact ⟨key.symm, ih entry.2 (List.mem_map_of_mem member) equal⟩

theorem Equal.trans (first : Equal a b) (second : Equal b c) : Equal a c := by
  induction a using induction_on_parts generalizing b c with
  | step a ih =>
    rw [equal_iff_alike] at first second ⊢
    -- Only doubles, arrays and objects are equal to anything but themselves.
    cases first with
    | undefined => exact second
    | null => exact second
    | bool b => exact second
    | int n => exact second
    | float near =>
        cases second with
        | float far => exact .float (Binary64.equals_trans near far)
    | string s => exact second
    | array near =>
        cases second with
        | array far =>
          refine .array (forall₂_of_mem (forall₂_comp_iff.mpr ⟨_, near, far⟩) ?_)
          rintro item member item'' ⟨item', near, far⟩
          exact ih item member near far
    | object near =>
        cases second with
        | object far =>
          refine .object (forall₂_of_mem (forall₂_comp_iff.mpr ⟨_, near, far⟩) ?_)
          rintro entry member entry'' ⟨entry', ⟨key, near⟩, key', far⟩
          exact ⟨key.trans key', ih entry.2 (List.mem_map_of_mem member) near far⟩

theorem equal_self_iff_parts (value : Value) :
    Equal value value ↔
      (∀ x, value = .float x → x.isNaN = false) ∧ ∀ part ∈ value.parts, Equal part part := by
  cases value with
  | float x => simp [equals, Binary64.equals_self, parts]
  | array items =>
      have layer : Equal (.array items) (.array items) ↔ List.Forall₂ Equal items items := equalsItems_iff
      rw [layer, List.forall₂_same]
      simp [parts]
  | object entries =>
      have layer : Equal (.object entries) (.object entries) ↔ EqualEntries entries entries :=
        equalsEntries_iff
      rw [layer, EqualEntries, List.forall₂_same]
      simp only [true_and, parts, List.forall_mem_map, reduceCtorEq, false_implies, implies_true]
  | _ => simp [Equal, equals, parts]

/-- Only a NaN in it, at whatever depth, keeps a value from being equal to itself. -/
theorem equal_self_iff (value : Value) :
    Equal value value ↔ ∀ x, Part (.float x) value → x.isNaN = false := by
  induction value using induction_on_parts with
  | step value ih =>
    rw [equal_self_iff_parts]
    constructor
    · rintro ⟨own, equal⟩ x part
      cases part with
      | self => exact own x rfl
      | within member inside => exact (ih _ member).mp (equal _ member) x inside
    · intro free
      constructor
      · rintro x rfl
        exact free x (.self _)
      · intro part member
        exact (ih part member).mpr fun x inside => free x (.within member inside)

/-! ### What equal values share -/

theorem Equal.typeName_eq (equal : Equal a b) : a.typeName = b.typeName := by
  cases equal_iff_alike.mp equal <;> rfl

theorem Equal.isTruthy_eq (equal : Equal a b) : a.isTruthy = b.isTruthy := by
  cases equal_iff_alike.mp equal with
  | @float x y numbers =>
      obtain ⟨left, right, -⟩ := Binary64.equals_iff.mp numbers
      simp only [isTruthy, left, right, Binary64.isZero_eq_of_equals numbers]
  | _ => rfl

/-- One segment finds equal values in equal values, or nothing in either. -/
theorem Equal.step? (equal : Equal a b) (segment : Path.Segment) :
    Option.Rel Equal (a.step? segment) (b.step? segment) := by
  cases equal_iff_alike.mp equal with
  | @array items items' equalItems =>
      cases segment with
      | key text =>
          rw [Value.step?, Value.step?]
          cases Path.index? text.toList with
          | none => exact .none
          | some n => exact rel_getElem? equalItems n
      | index n => exact rel_getElem? equalItems n
  | object equalEntries => cases segment <;> exact Keyed.rel_get? equalEntries _
  | _ => cases segment <;> exact .none

theorem Equal.follow? (equal : Equal a b) (segments : List Path.Segment) :
    Option.Rel Equal (a.follow? segments) (b.follow? segments) := by
  induction segments generalizing a b with
  | nil => exact .some equal
  | cons segment rest ih =>
      rw [follow?_cons, follow?_cons]
      apply rel_bind (equal.step? segment)
      intro next next' equal
      exact ih equal

/-- Equality of values goes both ways and along chains, and a value equals itself exactly if no NaN stands in it
    at any depth. Equal values have one type name and are both a yes or both a no; and whatever segments are
    followed, they find nothing in either of them, or values that are equal again. -/
theorem equality_is_respected :
    (∀ a b, Equal a b → Equal b a) ∧
      (∀ a b c, Equal a b → Equal b c → Equal a c) ∧
      (∀ a, Equal a a ↔ ∀ x, Part (.float x) a → x.isNaN = false) ∧
      ∀ a b, Equal a b →
        a.typeName = b.typeName ∧ a.isTruthy = b.isTruthy ∧
          ∀ segments, Option.Rel Equal (a.follow? segments) (b.follow? segments) := by
  refine ⟨fun a b => Equal.symm, fun a b c => Equal.trans, equal_self_iff, fun a b equal => ?_⟩
  exact ⟨equal.typeName_eq, equal.isTruthy_eq, equal.follow?⟩

/-- In the sample, two values hold the two zeros at the same place. They are equal, and so are the zeros that are
    found there. A third value holds a NaN in that place and does not equal itself. -/
theorem equality_is_respected_sample :
    let holding (x : Binary64) := Value.object [("n", .array [.float x, .int 1])]
    let plain := holding ⟨0⟩
    let signed := holding ⟨0x8000000000000000⟩
    let broken := holding ⟨0x7FF8000000000000⟩
    let segments : List Path.Segment := [.key "n", .index 0]
    (Equal plain signed ∧ Equal signed plain ∧ Equal plain plain ∧ ¬ Equal broken broken) ∧
      plain.typeName = signed.typeName ∧ plain.isTruthy = signed.isTruthy ∧
      plain.follow? segments = some (.float ⟨0⟩) ∧
      signed.follow? segments = some (.float ⟨0x8000000000000000⟩) ∧
      Option.Rel Equal (plain.follow? segments) (signed.follow? segments) := by
  intro holding plain signed broken segments
  obtain ⟨symm, trans, self, respected⟩ := equality_is_respected
  have equal : Equal plain signed := by decide +kernel
  have back : Equal signed plain := symm _ _ equal
  have torn : ¬ Equal broken broken := by
    intro same
    have part : Part (.float ⟨0x7FF8000000000000⟩) broken :=
      .within List.mem_cons_self (.within List.mem_cons_self (.self _))
    exact absurd ((self broken).mp same _ part) (by decide)
  obtain ⟨typed, truthy, found⟩ := respected _ _ equal
  exact ⟨⟨equal, back, trans _ _ _ equal back, torn⟩, typed, truthy, rfl, rfl, found segments⟩

end Value

end Reshape
