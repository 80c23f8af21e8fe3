/-
Module: Reshape.Text.Bracketed
Layer: Data
Purpose: The outlines that descriptions are set in: lists, maps, tagged payloads and records.
Main exports: Text.bracketed, Text.braced, Text.tagged, Text.record, Text.optional
-/
import Reshape.Text.Quoted

namespace Reshape

namespace Text

/-- Items in square brackets. -/
def bracketed (items : List String) : String :=
  "[" ++ ", ".intercalate items ++ "]"

/-- Entries in braces, with quoted keys. -/
def braced (entries : List (String × String)) : String :=
  "\x7b" ++ ", ".intercalate (entries.map fun entry => quoted entry.1 ++ ": " ++ entry.2) ++ "\x7d"

/-- A payload in parentheses after its tag. -/
def tagged (tag payload : String) : String :=
  tag ++ "(" ++ payload ++ ")"

/-- Named fields in braces after the name of the record. -/
def record (name : String) (fields : List (String × String)) : String :=
  name ++ " \x7b " ++ ", ".intercalate (fields.map fun field => field.1 ++ ": " ++ field.2) ++ " \x7d"

/-- An optional payload. -/
def optional : Option String → String
  | none => "None"
  | some payload => tagged "Some" payload

/-- A truth value in words. -/
def boolean (b : Bool) : String :=
  if b then "true" else "false"

end Text

end Reshape
