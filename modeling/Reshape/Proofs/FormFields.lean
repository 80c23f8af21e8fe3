/-
Module: Reshape.Proofs.FormFields
Layer: Proofs
Purpose: Definitions that are read field by field. Each field has a reader and a place in the form of its own,
  so the form holds what is written under each name, in whatever order the fields are written.
Main exports: Definition.Field, Definition.fields, Definition.Field.Turns, Definition.readFields_eq_ok_iff
-/
import Mathlib.Data.List.Nodup
import Reshape.Document.Definition
import Reshape.Proofs.Outcomes

namespace Reshape

open Document (Problem)

namespace Definition

/-- A field of a definition: its name, how it is read, and where a form keeps what is read. -/
structure Field where
  name : String
  {Content : Type}
  read : Json → Except Problem Content
  get : Form → Content
  set : Form → Content → Form

namespace Field

/-- A field with a specification. -/
def spec (name : String) (get : Form → Option Spec) (set : Form → Option Spec → Form) : Field :=
  ⟨name, Document.optional Spec.ofJson, get, set⟩

/-- A field with specifications under keys. -/
def keys (name : String) (get : Form → Option (Keyed Spec))
    (set : Form → Option (Keyed Spec) → Form) : Field :=
  ⟨name, Document.optional (Document.mapOf Spec.ofJson), get, set⟩

/-- A field with names. -/
def names (name : String) (get : Form → Option (List String))
    (set : Form → Option (List String) → Form) : Field :=
  ⟨name, Document.optional (Document.listOf Document.string), get, set⟩

/-- A field with any value. -/
def any (name : String) (get : Form → Option Value) (set : Form → Option Value → Form) : Field :=
  ⟨name, Document.optional fun json => .ok (Value.ofJson json), get, set⟩

end Field

/-- The fields of definitions. -/
def fields : List Field :=
  [.spec "value" Form.value fun form read => { form with value := read },
    .spec "before" Form.before fun form read => { form with before := read },
    .spec "after" Form.after fun form read => { form with after := read },
    .spec "error" Form.error fun form read => { form with error := read },
    ⟨"compose", Document.optional (Document.listOf Modifier.ofJson), Form.compose,
      fun form read => { form with compose := read }⟩,
    .keys "mapKeys" Form.mapKeys fun form read => { form with mapKeys := read },
    .names "omitKeys" Form.omitKeys fun form read => { form with omitKeys := read },
    .names "pickKeys" Form.pickKeys fun form read => { form with pickKeys := read },
    .keys "addKeys" Form.addKeys fun form read => { form with addKeys := read },
    ⟨"addValues", Document.optional (Document.mapOf fun json => .ok (Value.ofJson json)), Form.addValues,
      fun form read => { form with addValues := read }⟩,
    .spec "map" Form.map fun form read => { form with map := read },
    .spec "filter" Form.filter fun form read => { form with filter := read },
    .spec "find" Form.find fun form read => { form with find := read },
    .any "schema" Form.schema fun form read => { form with schema := read },
    .any "options" Form.options fun form read => { form with options := read },
    ⟨"inspect", Document.boolean, Form.inspect, fun form read => { form with inspect := read }⟩]

theorem map_name_fields : fields.map Field.name = fieldNames := rfl

theorem nodup_fieldNames : fieldNames.Nodup := by decide

theorem readField_of_mem {field : Field} (member : field ∈ fields) (form : Form) (json : Json) :
    readField form field.name json = (field.read json).map (field.set form) := by
  revert field
  simp [fields, readField, Field.spec, Field.keys, Field.names, Field.any]

theorem readField_of_not_mem {name : String} (unknown : name ∉ fieldNames) (form : Form) (json : Json) :
    readField form name json = .error (.unknownField name fieldNames) := by
  simp only [fieldNames, List.mem_cons, List.not_mem_nil, or_false, not_or] at unknown
  simp [readField, unknown]

theorem get_set {field : Field} (member : field ∈ fields) (form : Form) (content : field.Content) :
    field.get (field.set form content) = content := by
  revert field
  simp [fields, Field.spec, Field.keys, Field.names, Field.any]

theorem get_set_of_ne : ∀ field ∈ fields, ∀ other ∈ fields, field.name ≠ other.name →
    ∀ (form : Form) (content : field.Content), other.get (field.set form content) = other.get form := by
  simp [fields, Field.spec, Field.keys, Field.names, Field.any]

/-- Forms that hold the same in every field are equal. -/
theorem form_ext {left right : Form} (same : ∀ field ∈ fields, field.get left = field.get right) :
    left = right := by
  cases left
  cases right
  simpa [fields, Field.spec, Field.keys, Field.names, Field.any] using same

theorem exists_field_iff {name : String} : (∃ field ∈ fields, field.name = name) ↔ name ∈ fieldNames := by
  rw [← map_name_fields, List.mem_map]

theorem eq_of_name_eq {field other : Field} (member : field ∈ fields) (otherMember : other ∈ fields)
    (same : field.name = other.name) : field = other :=
  List.inj_on_of_nodup_map (map_name_fields ▸ nodup_fieldNames) member otherMember same

namespace Field

/-- `field.Turns start result written`: of what is written for the field, `result` holds what is read. If
    nothing is written, it holds what `start` does. -/
def Turns (field : Field) (start result : Form) (written : Option Json) : Prop :=
  written.elim (.ok (field.get start)) field.read = .ok (field.get result)

/-- Reading one field leaves the others to be read. -/
theorem turns_set_iff {field other : Field} {start result : Form} {json : Json} {content : field.Content}
    {rest : Keyed Json} (member : field ∈ fields) (otherMember : other ∈ fields)
    (read : field.read json = .ok content) (unread : Keyed.get? rest field.name = none) :
    other.Turns (field.set start content) result (Keyed.get? rest other.name) ↔
      other.Turns start result (Keyed.get? ((field.name, json) :: rest) other.name) := by
  rw [Keyed.get?_cons]
  split
  · rename_i same
    obtain rfl := eq_of_name_eq member otherMember same
    rw [unread, Turns, Turns, Option.elim_none, Option.elim_some, get_set member, read]
  · rename_i apart
    cases Keyed.get? rest other.name with
    | none =>
        rw [Turns, Turns, Option.elim_none, Option.elim_none,
          get_set_of_ne field member other otherMember apart]
    | some json => exact Iff.rfl

end Field

/-- Fields with distinct names are read one by one, each of them for itself. -/
theorem readFields_eq_ok_iff {members : Keyed Json} {start result : Form}
    (distinct : (Keyed.keys members).Nodup) :
    readFields start members = .ok result ↔
      (∀ name ∈ Keyed.keys members, name ∈ fieldNames) ∧
        ∀ field ∈ fields, field.Turns start result (Keyed.get? members field.name) := by
  induction members generalizing start with
  | nil =>
      constructor
      · intro read
        cases read
        exact ⟨List.forall_mem_nil _, fun _ _ => rfl⟩
      · rintro ⟨-, turns⟩
        exact congrArg Except.ok (form_ext fun field member => Except.ok.inj (turns field member))
  | cons entry rest ih =>
      obtain ⟨name, json⟩ := entry
      obtain ⟨fresh, distinctRest⟩ := List.nodup_cons.mp distinct
      rw [readFields, bind_eq_ok_iff, Keyed.keys, List.map_cons, List.forall_mem_cons, ← Keyed.keys]
      by_cases known : name ∈ fieldNames
      · obtain ⟨field, member, rfl⟩ := exists_field_iff.mpr known
        have unread : Keyed.get? rest field.name = none := by
          rw [Option.eq_none_iff_forall_ne_some]
          exact fun other found => fresh (Keyed.mem_keys_iff.mpr ⟨other, found⟩)
        constructor
        · rintro ⟨form, readHere, readRest⟩
          rw [readField_of_mem member] at readHere
          obtain ⟨content, contentRead, rfl⟩ := map_eq_ok_iff.mp readHere
          obtain ⟨knownRest, turns⟩ := (ih distinctRest).mp readRest
          exact ⟨⟨known, knownRest⟩, fun other otherMember =>
            (Field.turns_set_iff member otherMember contentRead unread).mp (turns other otherMember)⟩
        · rintro ⟨⟨-, knownRest⟩, turns⟩
          have readHere : field.read json = .ok (field.get result) := by
            have here := turns field member
            rwa [Keyed.get?_cons, if_pos rfl] at here
          refine ⟨field.set start (field.get result), ?_, (ih distinctRest).mpr ⟨knownRest, ?_⟩⟩
          · rw [readField_of_mem member, readHere]
            rfl
          · exact fun other otherMember =>
              (Field.turns_set_iff member otherMember readHere unread).mpr (turns other otherMember)
      · rw [readField_of_not_mem known]
        constructor
        · rintro ⟨_, failed, -⟩
          cases failed
        · rintro ⟨⟨isKnown, -⟩, -⟩
          exact absurd isKnown known

end Definition

end Reshape
