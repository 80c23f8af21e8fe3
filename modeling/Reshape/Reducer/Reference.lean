/-
Module: Reshape.Reducer.Reference
Layer: Language
Purpose: References to entities, `type:name`, with `[]` behind for one entity applied to every
  element of an array.
Main exports: Reference, Reference.id, Reference.display, Reference.parse?, Reference.splitId?
-/
import Reshape.Text.Blank
import Reshape.Text.Mark

namespace Reshape

/-- A reference to an entity. The type need not be one that entities can have. -/
structure Reference where
  typeName : String
  name : String
  isCollection : Bool
  deriving Repr, Inhabited, DecidableEq

namespace Reference

/-- The id under which the entity is sought. -/
def id (reference : Reference) : String :=
  reference.typeName ++ ":" ++ reference.name

/-- The text of a reference. -/
def display (reference : Reference) : String :=
  reference.id ++ String.ofList (Text.mark reference.isCollection)

/-- A character of a type name. -/
def isTypeChar (c : Char) : Bool :=
  c.isAlphanum || c == '_' || c == '-'

/-- A type name: a non-empty run of letters, digits, `_` and `-`. -/
def isTypeName (text : List Char) : Bool :=
  !text.isEmpty && text.all isTypeChar

/-- A name: not empty and without white space. -/
def isName (text : List Char) : Bool :=
  !text.isEmpty && !text.any Text.isBlank

/-- The type and the name of an id, which the first colon separates. -/
def splitId? (id : List Char) : Option (List Char × List Char) :=
  match id.span (· != ':') with
  | (typeName, ':' :: name) =>
    if isTypeName typeName && isName name then some (typeName, name) else none
  | _ => none

/-- Reads a reference. A final `[]` is always the mark, never part of the name. -/
def parse? (text : List Char) : Option Reference :=
  let (body, isCollection) := Text.splitMark text
  (splitId? body).map fun (typeName, name) =>
    ⟨String.ofList typeName, String.ofList name, isCollection⟩

end Reference

end Reshape
