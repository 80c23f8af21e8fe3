/-
Module: Reshape.Proofs.Encoding
Layer: Proofs
Purpose: Values and JSON documents. A value is written as the document that stands for it is, and comes back
  from that document except for what JSON cannot say; and a document comes back from its value exactly if it
  has no integer and no number that values cannot hold.
Main exports: Value.normal, Json.Lossless, Value.serialize_eq_text, Value.ofJson_toJson,
  Value.toJson_ofJson_iff, Value.encoding_is_faithful
-/
import Reshape.Json.Value

namespace Reshape

/-! ### What is lost -/

namespace Value

mutual

/-- The value with null in place of everything that JSON cannot say: the missing value, the infinities and
    NaN, at any depth. -/
def normal : Value → Value
  | .undefined => .null
  | .null => .null
  | .bool b => .bool b
  | .int n => .int n
  | .float x => if x.isFinite then .float x else .null
  | .string s => .string s
  | .array items => .array (normalItems items)
  | .object entries => .object (normalEntries entries)

/-- `normal` of every item. -/
def normalItems : List Value → List Value
  | [] => []
  | item :: rest => normal item :: normalItems rest

/-- `normal` of every entry's value. No entry is dropped. -/
def normalEntries : List (String × Value) → List (String × Value)
  | [] => []
  | (key, value) :: rest => (key, normal value) :: normalEntries rest

end

end Value

namespace Json

mutual

/-- Values can hold every integer and every other number of the document: the integers fit in 64 bits with a
    sign, and the other numbers are finite, as in all documents. -/
def Lossless : Json → Prop
  | .int n => Int64.minValue.toInt ≤ n ∧ n ≤ Int64.maxValue.toInt
  | .float x => x.isFinite = true
  | .array items => LosslessItems items
  | .object members => LosslessMembers members
  | _ => True

/-- `Lossless` for every item. -/
def LosslessItems : List Json → Prop
  | [] => True
  | item :: rest => Lossless item ∧ LosslessItems rest

/-- `Lossless` for the value of every member. -/
def LosslessMembers : List (String × Json) → Prop
  | [] => True
  | (_, value) :: rest => Lossless value ∧ LosslessMembers rest

end

end Json

/-! ### Two ways to the text -/

namespace Value

mutual

/-- Both ways to the text of a value take the same steps. They differ in where they put the commas: the one
    before every item but the first, the other in front of what follows the first item. -/
theorem serializeChars_eq_print : ∀ value : Value, value.serializeChars = value.toJson.print
  | .undefined => rfl
  | .null => rfl
  | .bool true => rfl
  | .bool false => rfl
  | .int _ => rfl
  | .float x => by
      cases finite : x.isFinite <;>
        simp [serializeChars, toJson, Json.printNumber, finite, Json.print]
  | .string _ => rfl
  | .array [] => rfl
  | .array (item :: rest) => by
      simp [serializeChars, serializeItems, toJson, toJsonItems, Json.print,
        serializeChars_eq_print item, serializeItems_eq_print rest]
  | .object [] => rfl
  | .object ((key, value) :: rest) => by
      simp [serializeChars, serializeEntries, toJson, toJsonEntries, Json.print,
        serializeChars_eq_print value, serializeEntries_eq_print rest]

/-- The same for the items after the first. -/
theorem serializeItems_eq_print :
    ∀ items : List Value, serializeItems false items = Json.printItems (toJsonItems items)
  | [] => rfl
  | item :: rest => by
      simp [serializeItems, toJsonItems, Json.printItems, serializeChars_eq_print item,
        serializeItems_eq_print rest]

/-- The same for the entries after the first. -/
theorem serializeEntries_eq_print :
    ∀ entries : List (String × Value),
      serializeEntries false entries = Json.printMembers (toJsonEntries entries)
  | [] => rfl
  | (key, value) :: rest => by
      simp [serializeEntries, toJsonEntries, Json.printMembers, serializeChars_eq_print value,
        serializeEntries_eq_print rest]

end

theorem serialize_eq_text (value : Value) : value.serialize = value.toJson.text := by
  rw [serialize, Json.text, serializeChars_eq_print]

/-! ### There and back -/

/-- The integers of values stay integers. -/
theorem ofInt_toInt (n : Int64) : ofInt n.toInt = .int n := by
  rw [ofInt, if_pos ⟨n.minValue_le_toInt, n.toInt_le⟩, Int64.ofInt_toInt]

mutual

theorem ofJson_toJson : ∀ value : Value, ofJson value.toJson = value.normal
  | .undefined => rfl
  | .null => rfl
  | .bool _ => rfl
  | .int n => ofInt_toInt n
  | .float x => by cases finite : x.isFinite <;> simp [toJson, normal, finite, ofJson]
  | .string _ => rfl
  | .array items => by simp [toJson, ofJson, normal, ofJsonItems_toJsonItems items]
  | .object entries => by simp [toJson, ofJson, normal, ofJsonMembers_toJsonEntries entries]

theorem ofJsonItems_toJsonItems :
    ∀ items : List Value, ofJsonItems (toJsonItems items) = normalItems items
  | [] => rfl
  | item :: rest => by
      simp [toJsonItems, ofJsonItems, normalItems, ofJson_toJson item, ofJsonItems_toJsonItems rest]

theorem ofJsonMembers_toJsonEntries :
    ∀ entries : List (String × Value), ofJsonMembers (toJsonEntries entries) = normalEntries entries
  | [] => rfl
  | (key, value) :: rest => by
      simp [toJsonEntries, ofJsonMembers, normalEntries, ofJson_toJson value,
        ofJsonMembers_toJsonEntries rest]

end

/-- An integer that does not fit comes back as another number, or as null. -/
theorem toJson_ofInt_iff (n : Int) :
    (ofInt n).toJson = .int n ↔ Int64.minValue.toInt ≤ n ∧ n ≤ Int64.maxValue.toInt := by
  rw [ofInt]
  split
  · next fits =>
    have upper := fits.2
    rw [Int64.toInt_maxValue] at upper
    have exact : (Int64.ofInt n).toInt = n := Int64.toInt_ofInt_of_le fits.1 (Int.lt_of_le_sub_one upper)
    rw [toJson, exact]
    exact iff_of_true rfl fits
  · next wide =>
    refine iff_of_false ?_ wide
    rw [toJson]
    split <;> nofun

mutual

/-- A document comes back exactly if it holds no number that values cannot hold. -/
theorem toJson_ofJson_iff : ∀ json : Json, (ofJson json).toJson = json ↔ json.Lossless
  | .null => by simp [ofJson, toJson, Json.Lossless]
  | .bool _ => by simp [ofJson, toJson, Json.Lossless]
  | .int n => toJson_ofInt_iff n
  | .float x => by cases finite : x.isFinite <;> simp [ofJson, toJson, finite, Json.Lossless]
  | .string _ => by simp [ofJson, toJson, Json.Lossless]
  | .array items => by simp [ofJson, toJson, Json.Lossless, toJsonItems_ofJsonItems_iff items]
  | .object members => by
      simp [ofJson, toJson, Json.Lossless, toJsonEntries_ofJsonMembers_iff members]

theorem toJsonItems_ofJsonItems_iff :
    ∀ items : List Json, toJsonItems (ofJsonItems items) = items ↔ Json.LosslessItems items
  | [] => by simp [ofJsonItems, toJsonItems, Json.LosslessItems]
  | item :: rest => by
      simp [ofJsonItems, toJsonItems, Json.LosslessItems, toJson_ofJson_iff item,
        toJsonItems_ofJsonItems_iff rest]

theorem toJsonEntries_ofJsonMembers_iff :
    ∀ members : List (String × Json),
      toJsonEntries (ofJsonMembers members) = members ↔ Json.LosslessMembers members
  | [] => by simp [ofJsonMembers, toJsonEntries, Json.LosslessMembers]
  | (key, value) :: rest => by
      simp [ofJsonMembers, toJsonEntries, Json.LosslessMembers, toJson_ofJson_iff value,
        toJsonEntries_ofJsonMembers_iff rest]

end

/-- The text of a value is the text of its document; the value of that document is the value itself, with null
    for what JSON cannot say; and the document of a document's value is the document itself exactly if its
    integers fit in 64 bits with a sign and its other numbers are finite. -/
theorem encoding_is_faithful :
    (∀ value : Value, value.serialize = value.toJson.text ∧ ofJson value.toJson = value.normal) ∧
      ∀ json : Json, (ofJson json).toJson = json ↔ json.Lossless :=
  ⟨fun value => ⟨serialize_eq_text value, ofJson_toJson value⟩, toJson_ofJson_iff⟩

end Value

end Reshape
