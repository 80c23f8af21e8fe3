/-
Module: Reshape.Proofs.Shorthand
Layer: Proofs
Purpose: Which documents are definitions, and of what. Compose steps that are written as fields of their own are
  the same steps written in order, in the order of the shorthand; the two ways to write them exclude each other.
Main exports: Definition.given, Definition.apart, Definition.Composes, Definition.Written,
  Definition.ofJson_object_iff, Definition.inOrder, Definition.Fields, Definition.shorthand_equals_compose
-/
import Reshape.Proofs.FormFields

namespace Reshape

open Document (Problem)

/-- Whether a document is null. -/
def Json.isNull : Json → Bool
  | .null => true
  | _ => false

theorem Json.isNull_iff {json : Json} : json.isNull = true ↔ json = .null := by
  cases json <;> simp [isNull]

namespace Document

variable {α : Type} {read : Json → Except Problem α} {json : Json} {a : α}

theorem optional_eq_ok_none_iff : optional read json = .ok none ↔ json = .null := by
  cases json <;> simp [optional, map_eq_ok_iff]

theorem optional_eq_ok_some_iff :
    optional read json = .ok (some a) ↔ json ≠ .null ∧ read json = .ok a := by
  cases json <;> simp [optional, map_eq_ok_iff]

end Document

/-- `Modifier.Reads step modifier`: the name of a step and its operand are read as the compose step. -/
def Modifier.Reads (step : String × Json) (modifier : Modifier) : Prop :=
  ofOperand step.1 step.2 = .ok modifier

namespace Definition

/-! ### Compose steps of documents -/

/-- The fields for compose steps, in the order in which their steps are done. -/
def shorthandNames : List String :=
  ["mapKeys", "omitKeys", "pickKeys", "addKeys", "addValues", "map", "filter", "find"]

/-- What is written for a field; what is left out counts as null. -/
def given (members : Keyed Json) (name : String) : Json :=
  (Keyed.get? members name).getD .null

/-- The compose steps that are written as fields of their own. -/
def apart (members : Keyed Json) : List (String × Json) :=
  (shorthandNames.map fun name => (name, given members name)).filter fun step => !step.2.isNull

/-- `Composes members steps`: the members of a document give these compose steps. -/
inductive Composes (members : Keyed Json) (steps : List Modifier) : Prop where
  | inOrder (some : given members "compose" ≠ .null)
      (alone : ∀ name ∈ shorthandNames, given members name = .null)
      (read : Document.listOf Modifier.ofJson (given members "compose") = .ok steps)
  | apart (none : given members "compose" = .null)
      (read : List.Forall₂ Modifier.Reads (apart members) steps)

/-- `definition.Plain members`: apart from the compose steps, the definition is what the members say. -/
structure Plain (definition : Definition) (members : Keyed Json) : Prop where
  known : ∀ name ∈ Keyed.keys members, name ∈ fieldNames
  value : Document.optional Spec.ofJson (given members "value") = .ok definition.value
  before : Document.optional Spec.ofJson (given members "before") = .ok definition.before
  after : Document.optional Spec.ofJson (given members "after") = .ok definition.after
  error : Document.optional Spec.ofJson (given members "error") = .ok definition.error
  schema : Document.optional (fun json => .ok (Value.ofJson json)) (given members "schema") =
    .ok definition.schema
  options : Document.optional (fun json => .ok (Value.ofJson json)) (given members "options") =
    .ok definition.options
  inspect : (Keyed.get? members "inspect").elim (.ok false) Document.boolean = .ok definition.inspect

/-- `definition.Written members`: an object with these members is a document of the definition. -/
structure Written (definition : Definition) (members : Keyed Json) : Prop extends Plain definition members where
  compose : Composes members definition.compose

/-! ### Fields for compose steps -/

variable {members : Keyed Json} {steps : List Modifier} {json : Json}

theorem apart_eq_nil_iff : apart members = [] ↔ ∀ name ∈ shorthandNames, given members name = .null := by
  simp [apart, Json.isNull_iff]

/-- Of a row of steps, some of which are not given, those that are given are read. -/
theorem forall₂_given_iff {rows : List (String × Json)} :
    List.Forall₂ Modifier.Reads (rows.filter fun step => !step.2.isNull) steps ↔
      ∃ slots : List (Option Modifier),
        List.Forall₂ (fun step slot => Document.optional (Modifier.ofOperand step.1) step.2 = .ok slot) rows
          slots ∧ slots.filterMap id = steps := by
  induction rows generalizing steps with
  | nil => simp only [List.filter_nil, List.forall₂_nil_left_iff, exists_eq_left, List.filterMap_nil, eq_comm]
  | cons step rest ih =>
      simp only [List.forall₂_cons_left_iff]
      by_cases null : step.2 = .null
      · rw [List.filter_cons_of_neg (by simp [Json.isNull_iff.mpr null]), ih]
        constructor
        · rintro ⟨slots, reads, rfl⟩
          exact ⟨none :: slots, ⟨none, slots, Document.optional_eq_ok_none_iff.mpr null, reads, rfl⟩, rfl⟩
        · rintro ⟨_, ⟨slot, slots, first, reads, rfl⟩, rfl⟩
          cases slot with
          | none => exact ⟨slots, reads, rfl⟩
          | some modifier => exact absurd null (Document.optional_eq_ok_some_iff.mp first).1
      · rw [List.filter_cons_of_pos (by simpa [← Json.isNull_iff] using null), List.forall₂_cons_left_iff]
        constructor
        · rintro ⟨modifier, others, first, reads, rfl⟩
          obtain ⟨slots, inRest, rfl⟩ := ih.mp reads
          have given := Document.optional_eq_ok_some_iff.mpr ⟨null, first⟩
          exact ⟨some modifier :: slots, ⟨some modifier, slots, given, inRest, rfl⟩, rfl⟩
        · rintro ⟨_, ⟨slot, slots, first, reads, rfl⟩, rfl⟩
          cases slot with
          | none => exact absurd (Document.optional_eq_ok_none_iff.mp first) null
          | some modifier =>
              have given := (Document.optional_eq_ok_some_iff.mp first).2
              exact ⟨modifier, _, given, ih.mpr ⟨slots, reads, rfl⟩, rfl⟩

/-- A field that may be null is read as the operand of its step is. -/
theorem optional_operand_iff {α : Type} {name : String} {read : Json → Except Problem α}
    {wrap : α → Modifier} (operand : ∀ json, Modifier.ofOperand name json = (read json).map wrap)
    {slot : Option Modifier} :
    Document.optional (Modifier.ofOperand name) json = .ok slot ↔
      ∃ content, Document.optional read json = .ok content ∧ content.map wrap = slot := by
  rw [← map_eq_ok_iff]
  refine iff_of_eq (congrArg (· = Except.ok slot) ?_)
  cases json <;> simp only [Document.optional, operand]
  all_goals first | rfl | cases read _ <;> rfl

/-- `form.Apart members`: the form holds the compose steps that are written as fields of their own. -/
structure Form.Apart (form : Form) (members : Keyed Json) : Prop where
  mapKeys : Document.optional (Document.mapOf Spec.ofJson) (given members "mapKeys") = .ok form.mapKeys
  omitKeys : Document.optional (Document.listOf Document.string) (given members "omitKeys") = .ok form.omitKeys
  pickKeys : Document.optional (Document.listOf Document.string) (given members "pickKeys") = .ok form.pickKeys
  addKeys : Document.optional (Document.mapOf Spec.ofJson) (given members "addKeys") = .ok form.addKeys
  addValues : Document.optional (Document.mapOf fun json => .ok (Value.ofJson json))
    (given members "addValues") = .ok form.addValues
  map : Document.optional Spec.ofJson (given members "map") = .ok form.map
  filter : Document.optional Spec.ofJson (given members "filter") = .ok form.filter
  find : Document.optional Spec.ofJson (given members "find") = .ok form.find

/-- Read as fields or read as steps: the steps are the same. -/
theorem forall₂_apart_iff :
    List.Forall₂ Modifier.Reads (apart members) steps ↔
      ∃ form : Form, form.Apart members ∧ form.shorthand = steps := by
  rw [apart, forall₂_given_iff]
  constructor
  · rintro ⟨_, _ | ⟨step₁, _ | ⟨step₂, _ | ⟨step₃, _ | ⟨step₄, _ | ⟨step₅, _ | ⟨step₆, _ |
      ⟨step₇, _ | ⟨step₈, _ | _⟩⟩⟩⟩⟩⟩⟩⟩, rfl⟩
    obtain ⟨mapKeys, mapKeysRead, rfl⟩ := (optional_operand_iff fun _ => rfl).mp step₁
    obtain ⟨omitKeys, omitKeysRead, rfl⟩ := (optional_operand_iff fun _ => rfl).mp step₂
    obtain ⟨pickKeys, pickKeysRead, rfl⟩ := (optional_operand_iff fun _ => rfl).mp step₃
    obtain ⟨addKeys, addKeysRead, rfl⟩ := (optional_operand_iff fun _ => rfl).mp step₄
    obtain ⟨addValues, addValuesRead, rfl⟩ := (optional_operand_iff fun _ => rfl).mp step₅
    obtain ⟨map, mapRead, rfl⟩ := (optional_operand_iff fun _ => rfl).mp step₆
    obtain ⟨filter, filterRead, rfl⟩ := (optional_operand_iff fun _ => rfl).mp step₇
    obtain ⟨find, findRead, rfl⟩ := (optional_operand_iff fun _ => rfl).mp step₈
    exact ⟨{ mapKeys, omitKeys, pickKeys, addKeys, addValues, map, filter, find },
      ⟨mapKeysRead, omitKeysRead, pickKeysRead, addKeysRead, addValuesRead, mapRead, filterRead, findRead⟩,
      rfl⟩
  · rintro ⟨form, read, rfl⟩
    refine ⟨_, ?_, rfl⟩
    exact .cons ((optional_operand_iff fun _ => rfl).mpr ⟨_, read.mapKeys, rfl⟩) <|
      .cons ((optional_operand_iff fun _ => rfl).mpr ⟨_, read.omitKeys, rfl⟩) <|
      .cons ((optional_operand_iff fun _ => rfl).mpr ⟨_, read.pickKeys, rfl⟩) <|
      .cons ((optional_operand_iff fun _ => rfl).mpr ⟨_, read.addKeys, rfl⟩) <|
      .cons ((optional_operand_iff fun _ => rfl).mpr ⟨_, read.addValues, rfl⟩) <|
      .cons ((optional_operand_iff fun _ => rfl).mpr ⟨_, read.map, rfl⟩) <|
      .cons ((optional_operand_iff fun _ => rfl).mpr ⟨_, read.filter, rfl⟩) <|
      .cons ((optional_operand_iff fun _ => rfl).mpr ⟨_, read.find, rfl⟩) .nil

/-! ### Documents of definitions -/

/-- The definition of a form with these compose steps. -/
def Form.withSteps (form : Form) (steps : List Modifier) : Definition :=
  { value := form.value, before := form.before, after := form.after, error := form.error,
    compose := steps, schema := form.schema, options := form.options, inspect := form.inspect }

variable {form : Form} {definition : Definition}

theorem ofForm_eq_ok_iff :
    ofForm form = .ok definition ↔ ∃ steps, form.withSteps steps = definition ∧
      (form.compose = none ∧ form.shorthand = steps ∨
        form.compose = some steps ∧ form.shorthand = []) := by
  unfold ofForm
  split
  · rename_i none
    simp [none, Form.withSteps]
  · rename_i some empty
    simp [some, empty, Form.withSteps]
  · rename_i some filled
    have filled : form.shorthand ≠ [] := filled
    simp [some, filled]

/-- What is left out is read as null is. -/
theorem optional_given {α : Type} {read : Json → Except Problem α} {name : String} :
    Document.optional read (given members name) =
      (Keyed.get? members name).elim (.ok none) (Document.optional read) := by
  rw [given]
  cases Keyed.get? members name <;> rfl

theorem readFields_empty_iff (distinct : (Keyed.keys members).Nodup) :
    readFields {} members = .ok form ↔
      (form.withSteps steps).Plain members ∧ form.Apart members ∧
        Document.optional (Document.listOf Modifier.ofJson) (given members "compose") = .ok form.compose := by
  rw [readFields_eq_ok_iff distinct]
  simp only [fields, Field.spec, Field.keys, Field.names, Field.any, List.forall_mem_cons, List.not_mem_nil,
    false_imp_iff, implies_true, and_true, Field.Turns, ← optional_given]
  constructor
  · rintro ⟨known, value, before, after, error, compose, mapKeys, omitKeys, pickKeys, addKeys, addValues,
      map, filter, find, schema, options, inspect⟩
    exact ⟨⟨known, value, before, after, error, schema, options, inspect⟩,
      ⟨mapKeys, omitKeys, pickKeys, addKeys, addValues, map, filter, find⟩, compose⟩
  · rintro ⟨⟨known, value, before, after, error, schema, options, inspect⟩,
      ⟨mapKeys, omitKeys, pickKeys, addKeys, addValues, map, filter, find⟩, compose⟩
    exact ⟨known, value, before, after, error, compose, mapKeys, omitKeys, pickKeys, addKeys, addValues, map,
      filter, find, schema, options, inspect⟩

/-- What has been read separately is read together. -/
theorem Plain.exists_form {compose : Option (List Modifier)} (distinct : (Keyed.keys members).Nodup)
    (plain : definition.Plain members) (isApart : form.Apart members)
    (read : Document.optional (Document.listOf Modifier.ofJson) (given members "compose") = .ok compose) :
    ∃ whole : Form, readFields {} members = .ok whole ∧ whole.compose = compose ∧
      whole.shorthand = form.shorthand ∧ whole.withSteps definition.compose = definition :=
  ⟨{ form with
      value := definition.value, before := definition.before, after := definition.after,
      error := definition.error, compose := compose, schema := definition.schema,
      options := definition.options, inspect := definition.inspect },
    (readFields_empty_iff distinct).mpr ⟨plain, ⟨isApart.mapKeys, isApart.omitKeys, isApart.pickKeys,
      isApart.addKeys, isApart.addValues, isApart.map, isApart.filter, isApart.find⟩, read⟩, rfl, rfl, rfl⟩

theorem written_iff_exists_form (distinct : (Keyed.keys members).Nodup) :
    definition.Written members ↔
      ∃ form, readFields {} members = .ok form ∧ ofForm form = .ok definition := by
  constructor
  · rintro ⟨plain, compose⟩
    cases compose with
    | inOrder isGiven alone read =>
        have none : List.Forall₂ Modifier.Reads (apart members) [] := by
          rw [apart_eq_nil_iff.mpr alone]
          exact .nil
        obtain ⟨form, isApart, empty⟩ := forall₂_apart_iff.mp none
        obtain ⟨whole, wholeRead, compose, shorthand, same⟩ :=
          plain.exists_form distinct isApart (Document.optional_eq_ok_some_iff.mpr ⟨isGiven, read⟩)
        exact ⟨whole, wholeRead, ofForm_eq_ok_iff.mpr ⟨_, same, .inr ⟨compose, shorthand.trans empty⟩⟩⟩
    | apart none read =>
        obtain ⟨form, isApart, steps⟩ := forall₂_apart_iff.mp read
        obtain ⟨whole, wholeRead, compose, shorthand, same⟩ :=
          plain.exists_form distinct isApart (Document.optional_eq_ok_none_iff.mpr none)
        exact ⟨whole, wholeRead, ofForm_eq_ok_iff.mpr ⟨_, same, .inl ⟨compose, shorthand.trans steps⟩⟩⟩
  · rintro ⟨form, read, built⟩
    obtain ⟨steps, rfl, ways⟩ := ofForm_eq_ok_iff.mp built
    obtain ⟨plain, isApart, compose⟩ := (readFields_empty_iff distinct).mp read
    refine ⟨plain, ?_⟩
    rcases ways with ⟨none, rfl⟩ | ⟨some, empty⟩
    · rw [none] at compose
      exact .apart (Document.optional_eq_ok_none_iff.mp compose)
        (forall₂_apart_iff.mpr ⟨form, isApart, rfl⟩)
    · rw [some] at compose
      obtain ⟨isGiven, read⟩ := Document.optional_eq_ok_some_iff.mp compose
      have none : apart members = [] :=
        List.forall₂_nil_right_iff.mp (forall₂_apart_iff.mpr ⟨form, isApart, empty⟩)
      exact .inOrder isGiven (apart_eq_nil_iff.mp none) read

/-- An object is the document of a definition if each field is, and if the compose steps are written in one of
    the two ways. -/
theorem ofJson_object_iff (distinct : (Keyed.keys members).Nodup) :
    ofJson (.object members) = .ok definition ↔ definition.Written members := by
  rw [written_iff_exists_form distinct, ofJson, bind_eq_ok_iff]
  rfl

/-! ### Steps of their own, in order -/

/-- The members with the compose steps in order: what is written as a field of its own is taken out and becomes
    an element of `compose`. -/
def inOrder (members : Keyed Json) : Keyed Json :=
  Keyed.insert (members.filter fun entry => !shorthandNames.contains entry.1 || entry.2.isNull) "compose"
    (.array ((apart members).map fun step => .object [step]))

theorem ordered_inOrder (ordered : Keyed.Ordered members) : Keyed.Ordered (inOrder members) :=
  Keyed.Ordered.insert (List.Pairwise.filter _ ordered) _ _

theorem given_inOrder_compose :
    given (inOrder members) "compose" = .array ((apart members).map fun step => .object [step]) := by
  rw [given, inOrder, Keyed.get?_insert_self]
  rfl

theorem get?_inOrder (ordered : Keyed.Ordered members) {name : String} (other : "compose" ≠ name) :
    Keyed.get? (inOrder members) name =
      (Keyed.get? members name).filter fun json => !shorthandNames.contains name || json.isNull := by
  rw [inOrder, Keyed.get?_insert_of_ne _ _ other, ordered.get?_filter]

theorem get?_inOrder_of_other (ordered : Keyed.Ordered members) {name : String} (other : "compose" ≠ name)
    (plain : name ∉ shorthandNames) : Keyed.get? (inOrder members) name = Keyed.get? members name := by
  rw [get?_inOrder ordered other]
  cases Keyed.get? members name <;> simp [plain]

theorem given_inOrder_of_mem (ordered : Keyed.Ordered members) {name : String}
    (short : name ∈ shorthandNames) : given (inOrder members) name = .null := by
  have other : "compose" ≠ name := by
    rintro rfl
    exact absurd short (by decide)
  rw [given, get?_inOrder ordered other]
  cases Keyed.get? members name with
  | none => rfl
  | some json => cases json <;> simp [short, Option.filter, Json.isNull]

theorem known_inOrder_iff (ordered : Keyed.Ordered members) :
    (∀ name ∈ Keyed.keys (inOrder members), name ∈ fieldNames) ↔
      ∀ name ∈ Keyed.keys members, name ∈ fieldNames := by
  have known : ∀ name, "compose" = name ∨ name ∈ shorthandNames → name ∈ fieldNames := by
    rintro name (rfl | short)
    · decide
    · exact (by decide : shorthandNames ⊆ fieldNames) short
  refine forall_congr' fun name => ?_
  by_cases special : "compose" = name ∨ name ∈ shorthandNames
  · exact iff_of_true (fun _ => known name special) (fun _ => known name special)
  · rw [not_or] at special
    rw [Keyed.mem_keys_iff, Keyed.mem_keys_iff, get?_inOrder_of_other ordered special.1 special.2]

/-- Apart from the compose steps, documents say the same if they agree in all other fields. -/
theorem Plain.of_agree {others : Keyed Json} (known : ∀ name ∈ Keyed.keys others, name ∈ fieldNames)
    (agree : ∀ name, "compose" ≠ name ∧ name ∉ shorthandNames →
      Keyed.get? others name = Keyed.get? members name)
    (plain : definition.Plain members) : definition.Plain others := by
  have givenAgree (name : String) (isPlain : "compose" ≠ name ∧ name ∉ shorthandNames) :
      given others name = given members name := by
    rw [given, given, agree name isPlain]
  exact {
    known := known
    value := givenAgree "value" (by decide) ▸ plain.value
    before := givenAgree "before" (by decide) ▸ plain.before
    after := givenAgree "after" (by decide) ▸ plain.after
    error := givenAgree "error" (by decide) ▸ plain.error
    schema := givenAgree "schema" (by decide) ▸ plain.schema
    options := givenAgree "options" (by decide) ▸ plain.options
    inspect := agree "inspect" (by decide) ▸ plain.inspect }

theorem plain_inOrder_iff (ordered : Keyed.Ordered members) :
    definition.Plain (inOrder members) ↔ definition.Plain members := by
  have agree : ∀ name, "compose" ≠ name ∧ name ∉ shorthandNames →
      Keyed.get? (inOrder members) name = Keyed.get? members name :=
    fun name isPlain => get?_inOrder_of_other ordered isPlain.1 isPlain.2
  constructor
  · intro plain
    refine plain.of_agree ((known_inOrder_iff ordered).mp plain.known) ?_
    exact fun name isPlain => (agree name isPlain).symm
  · intro plain
    exact plain.of_agree ((known_inOrder_iff ordered).mpr plain.known) agree

theorem composes_inOrder_iff (ordered : Keyed.Ordered members) (none : given members "compose" = .null) :
    Composes (inOrder members) steps ↔ Composes members steps := by
  have read : Document.listOf Modifier.ofJson (given (inOrder members) "compose") = .ok steps ↔
      List.Forall₂ Modifier.Reads (apart members) steps := by
    rw [given_inOrder_compose, Document.listOf, mapM_eq_ok_iff, List.forall₂_map_left_iff]
    rfl
  constructor
  · rintro (⟨-, -, inOrder⟩ | ⟨absent, -⟩)
    · exact .apart none (read.mp inOrder)
    · rw [given_inOrder_compose] at absent
      cases absent
  · rintro (⟨isGiven, -, -⟩ | ⟨-, isApart⟩)
    · exact absurd none isGiven
    · refine .inOrder ?_ (fun name short => given_inOrder_of_mem ordered short) (read.mpr isApart)
      rw [given_inOrder_compose]
      nofun

/-- `Fields document members`: the members of a document that can be one of a definition. A sequence gives the
    fields in order. -/
inductive Fields : Json → Keyed Json → Prop where
  | object {members : Keyed Json} (ordered : Keyed.Ordered members) : Fields (.object members) members
  | sequence (items : List Json) : Fields (.array items) (fieldNames.zip items)

theorem keys_zip_sublist (names : List String) (items : List Json) :
    (Keyed.keys (names.zip items)).Sublist names := by
  induction names generalizing items with
  | nil => exact .slnil
  | cons name rest ih =>
      cases items with
      | nil => exact List.nil_sublist _
      | cons item others => exact (ih others).cons_cons name

variable {document : Json}

theorem Fields.distinct (written : Fields document members) : (Keyed.keys members).Nodup := by
  cases written with
  | object ordered => exact ordered.nodup_keys
  | sequence items => exact (keys_zip_sublist fieldNames items).nodup nodup_fieldNames

theorem Fields.written_of_ofJson (written : Fields document members) (read : ofJson document = .ok definition) :
    definition.Written members := by
  rw [written_iff_exists_form written.distinct]
  obtain ⟨form, formRead, built⟩ := ok_of_bind read
  refine ⟨form, ?_, built⟩
  cases written with
  | object ordered => exact formRead
  | sequence items =>
      obtain ⟨whole, wholeRead, rest⟩ := ok_of_bind formRead
      split at rest
      · cases rest
      · split at rest
        · cases rest
        · cases rest
          exact wholeRead

/-- Compose steps that are written as fields of their own are the same steps in order, from `mapKeys` to `find`.
    A document that writes steps in both ways is no document of a definition, even if there are no steps in
    `compose`, and neither is one with a field that definitions do not have. -/
theorem shorthand_equals_compose :
    (∀ members, Keyed.Ordered members → given members "compose" = .null → ∀ definition,
      ofJson (.object members) = .ok definition ↔ ofJson (.object (inOrder members)) = .ok definition) ∧
    ∀ document members, Fields document members →
      (given members "compose" ≠ .null ∧ (∃ name ∈ shorthandNames, given members name ≠ .null) ∨
        ∃ name ∈ Keyed.keys members, name ∉ fieldNames) →
      ∃ problem, ofJson document = .error problem := by
  constructor
  · intro members ordered none definition
    rw [ofJson_object_iff ordered.nodup_keys, ofJson_object_iff (ordered_inOrder ordered).nodup_keys]
    constructor
    · rintro ⟨plain, compose⟩
      exact ⟨(plain_inOrder_iff ordered).mpr plain, (composes_inOrder_iff ordered none).mpr compose⟩
    · rintro ⟨plain, compose⟩
      exact ⟨(plain_inOrder_iff ordered).mp plain, (composes_inOrder_iff ordered none).mp compose⟩
  · intro document members written fault
    cases read : ofJson document with
    | error problem => exact ⟨problem, rfl⟩
    | ok definition =>
        have isWritten := written.written_of_ofJson read
        rcases fault with ⟨isGiven, name, short, filled⟩ | ⟨name, member, unknown⟩
        · cases isWritten.compose with
          | inOrder _ alone _ => exact absurd (alone name short) filled
          | apart none _ => exact absurd none isGiven
        · exact absurd (isWritten.known name member) unknown

/-- Two steps that are written apart, and the same two in order. Both documents are read as one definition. -/
theorem shorthand_equals_compose_sample :
    let members : Keyed Json :=
      [("addValues", .object [("z", .int 1)]), ("find", .null), ("mapKeys", .object [("a", .string "$b")])]
    let written : Definition := { compose := [.mapKeys [("a", .text "$b")], .addValues [("z", .int 1)]] }
    inOrder members = [("compose", .array [.object [("mapKeys", .object [("a", .string "$b")])],
        .object [("addValues", .object [("z", .int 1)])]]), ("find", .null)] ∧
      (∀ definition,
        ofJson (.object members) = .ok definition ↔ ofJson (.object (inOrder members)) = .ok definition) ∧
      ofJson (.object members) = .ok written ∧
      ofJson (.object (inOrder members)) = .ok written ∧
      (∃ problem, ofJson (.object [("compose", .array []), ("map", .string "$b")]) = .error problem) ∧
      ∃ problem, ofJson (.object [("valeu", .string "$b")]) = .error problem := by
  intro members written
  have ordered : Keyed.Ordered members := by
    unfold members Keyed.Ordered
    decide
  have same := shorthand_equals_compose.1 members ordered rfl
  have read : ofJson (.object members) = .ok written := rfl
  refine ⟨rfl, same, read, (same written).mp read, ?_, ?_⟩
  · refine shorthand_equals_compose.2 _ _ (.object (List.pairwise_pair.mpr (by decide))) ?_
    exact .inl ⟨nofun, "map", by decide, nofun⟩
  · refine shorthand_equals_compose.2 _ _ (.object (List.pairwise_singleton _ _)) ?_
    exact .inr ⟨"valeu", List.mem_singleton.mpr rfl, by decide⟩

end Definition

end Reshape
