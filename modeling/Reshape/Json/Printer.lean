/-
Module: Reshape.Json.Printer
Layer: Data
Purpose: The compact text of JSON documents.
Main exports: Json.numberLayout, Json.quoted, Json.print, Json.text
-/
import Reshape.Decimal.Layout
import Reshape.Json.Basic

namespace Reshape

namespace Json

/-- Numbers are written plainly from `1e-5` up to `1e16`, whole ones end in `.0`, and a positive
    exponent has its sign. -/
def numberLayout : Decimal.Layout where
  isPlain := fun exponent => decide (-5 ≤ exponent ∧ exponent < 16)
  pointZero := true
  exponentPlus := true
  tie := .toEven

/-- A finite number; the others have no JSON form and become null. -/
def printNumber (x : Binary64) : List Char :=
  if x.isFinite then (numberLayout.render x).toList else ['n', 'u', 'l', 'l']

/-- An integer in decimal. -/
def printInt (n : Int) : List Char :=
  if n < 0 then '-' :: Nat.toDigits 10 n.natAbs else Nat.toDigits 10 n.natAbs

/-- A character inside a JSON string. Only the quotation mark, the backslash and the control
    characters below the space are escaped. -/
def quotedChar (c : Char) : List Char :=
  if c = '"' then ['\\', '"']
  else if c = '\\' then ['\\', '\\']
  else if c = '\n' then ['\\', 'n']
  else if c = '\r' then ['\\', 'r']
  else if c = '\t' then ['\\', 't']
  else if c = '\x08' then ['\\', 'b']
  else if c = '\x0c' then ['\\', 'f']
  else if c.toNat < 32 then
    ['\\', 'u', '0', '0', Nat.digitChar (c.toNat / 16), Nat.digitChar (c.toNat % 16)]
  else [c]

/-- A JSON string. -/
def quoted (s : String) : List Char :=
  '"' :: s.toList.flatMap quotedChar ++ ['"']

mutual

/-- The characters of a document, without any white space. -/
def print : Json → List Char
  | .null => ['n', 'u', 'l', 'l']
  | .bool true => ['t', 'r', 'u', 'e']
  | .bool false => ['f', 'a', 'l', 's', 'e']
  | .int n => printInt n
  | .float x => printNumber x
  | .string s => quoted s
  | .array [] => ['[', ']']
  | .array (item :: rest) => '[' :: print item ++ printItems rest
  | .object [] => ['\x7b', '\x7d']
  | .object ((key, value) :: rest) => '\x7b' :: quoted key ++ ':' :: print value ++ printMembers rest

/-- The items after the first, with the closing bracket. -/
def printItems : List Json → List Char
  | [] => [']']
  | item :: rest => ',' :: print item ++ printItems rest

/-- The members after the first, with the closing brace. -/
def printMembers : List (String × Json) → List Char
  | [] => ['\x7d']
  | (key, value) :: rest => ',' :: quoted key ++ ':' :: print value ++ printMembers rest

end

/-- The text of a document. -/
def text (json : Json) : String :=
  String.ofList json.print

end Json

end Reshape
