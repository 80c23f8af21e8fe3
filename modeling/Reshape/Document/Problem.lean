/-
Module: Reshape.Document.Problem
Layer: Documents
Purpose: What is wrong with a JSON document that should hold a definition or options, and the readers
  for its simple parts.
Main exports: Document.Problem, Document.Problem.message, Document.optional, Document.listOf,
  Document.mapOf
-/
import Reshape.Json.Printer
import Reshape.Text.Bracketed

namespace Reshape

namespace Document

/-- What is wrong with a document. -/
inductive Problem where
  /-- Something else stands where `expected` should. -/
  | invalidType (found : Json) (expected : String)
  /-- A field that does not exist. -/
  | unknownField (field : String) (known : List String)
  /-- A compose step that does not exist. -/
  | unknownStep (name : String) (known : List String)
  /-- The name of a compose step without its operand. -/
  | bareStep
  /-- A compose step that is an object without exactly one member. -/
  | notSingleMember
  /-- A sequence of the wrong length. -/
  | invalidLength (count : Nat) (expected : String)
  /-- Compose steps both in order and as fields of their own. -/
  | mixedForms (shorthand : List String)

/-- What stands in a document, in words. -/
def describeFound : Json → String
  | .null => "null"
  | .bool b => "boolean `" ++ Text.boolean b ++ "`"
  | .int n => "integer `" ++ toString n ++ "`"
  | .float x => "floating point `" ++ Json.numberLayout.render x ++ "`"
  | .string s => "string " ++ Text.quoted s
  | .array _ => "sequence"
  | .object _ => "map"

/-- Names in quotation marks, with commas between them. -/
def listNames (names : List String) : String :=
  ", ".intercalate (names.map fun name => "`" ++ name ++ "`")

/-- The message of a problem. -/
def Problem.message : Problem → String
  | .invalidType found expected =>
    "invalid type: " ++ describeFound found ++ ", expected " ++ expected
  | .unknownField field known =>
    "unknown field `" ++ field ++ "`, expected one of " ++ listNames known
  | .unknownStep name known =>
    "unknown variant `" ++ name ++ "`, expected one of " ++ listNames known
  | .bareStep => "invalid type: unit variant, expected newtype variant"
  | .notSingleMember => "invalid value: map, expected map with a single key"
  | .invalidLength count expected =>
    "invalid length " ++ toString count ++ ", expected " ++ expected
  | .mixedForms shorthand =>
    "'compose' cannot be combined with shorthand modifiers (" ++ ", ".intercalate shorthand ++ ")"

/-! ### Readers -/

/-- A truth value. -/
def boolean : Json → Except Problem Bool
  | .bool b => .ok b
  | other => .error (.invalidType other "a boolean")

/-- A text. -/
def string : Json → Except Problem String
  | .string s => .ok s
  | other => .error (.invalidType other "a string")

/-- Null, or what `read` reads. -/
def optional {α : Type} (read : Json → Except Problem α) : Json → Except Problem (Option α)
  | .null => .ok none
  | json => (read json).map some

/-- A sequence of what `read` reads. -/
def listOf {α : Type} (read : Json → Except Problem α) : Json → Except Problem (List α)
  | .array items => items.mapM read
  | other => .error (.invalidType other "a sequence")

/-- The entries of a map, in key order. -/
def entriesOf {α : Type} (read : Json → Except Problem α) :
    List (String × Json) → Except Problem (Keyed α)
  | [] => .ok []
  | (key, json) :: rest => do
    let a ← read json
    let more ← entriesOf read rest
    .ok ((key, a) :: more)

/-- A map to what `read` reads. -/
def mapOf {α : Type} (read : Json → Except Problem α) : Json → Except Problem (Keyed α)
  | .object members => entriesOf read members
  | other => .error (.invalidType other "a map")

end Document

end Reshape
