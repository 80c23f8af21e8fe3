/-
Module: Reshape.Json.Parser
Layer: Data
Purpose: Reading JSON text, strictly: no comments, no trailing commas, no lone surrogates, no raw
  control characters, no number out of range and no deeper nesting than allowed.
Main exports: Json.Reader, Json.value, Json.parse?, Json.nestingLimit
-/
import Reshape.Decimal.Reading
import Reshape.Json.Basic

namespace Reshape

namespace Json

/-- A reader takes what it recognises off the front of a text and leaves the rest. -/
abbrev Reader (α : Type) : Type :=
  List Char → Option (α × List Char)

/-- The text from its first character on that is not JSON white space. -/
def skipBlank (text : List Char) : List Char :=
  text.dropWhile fun c => c == ' ' || c == '\t' || c == '\n' || c == '\r'

/-! ### Numbers -/

/-- A run of at least one decimal digit. -/
def digits : Reader (List Char) := fun text =>
  match text.span Char.isDigit with
  | ([], _) => none
  | run => some run

/-- The whole digits of a number: a single zero, or a run that does not start with one. -/
def wholeDigits : Reader (List Char) := fun text =>
  match digits text with
  | some ('0' :: _ :: _, _) => none
  | found => found

/-- The digits after a point; none are read where there is no point. -/
def fractionDigits : Reader (Option (List Char))
  | '.' :: rest => (digits rest).map fun (run, rest) => (some run, rest)
  | text => some (none, text)

/-- The digits of an exponent after its optional sign. -/
def signedDigits : Reader Int
  | '-' :: rest => (digits rest).map fun (run, rest) => (-(Nat.ofDigitChars 10 run 0 : Int), rest)
  | '+' :: rest => (digits rest).map fun (run, rest) => ((Nat.ofDigitChars 10 run 0 : Int), rest)
  | text => (digits text).map fun (run, rest) => ((Nat.ofDigitChars 10 run 0 : Int), rest)

/-- An exponent part; none is read where there is no exponent mark. -/
def exponentPart : Reader (Option Int)
  | 'e' :: rest => (signedDigits rest).map fun (n, rest) => (some n, rest)
  | 'E' :: rest => (signedDigits rest).map fun (n, rest) => (some n, rest)
  | text => some (none, text)

/-- The number with the given parts. Without fraction and exponent it is an integer, provided that it
    fits in 64 bits with its sign; a negative zero does not. -/
def numberOf? (negative : Bool) (whole : List Char) (fraction : Option (List Char))
    (exponent : Option Int) : Option Json :=
  let n := Nat.ofDigitChars 10 whole 0
  if fraction.isNone ∧ exponent.isNone ∧ negative = false ∧ n < Nat.pow 2 64 then some (.int n)
  else if fraction.isNone ∧ exponent.isNone ∧ negative = true ∧ 0 < n ∧ n ≤ Nat.pow 2 63 then
    some (.int (-n))
  else
    (Decimal.read? whole (fraction.getD []) (exponent.getD 0)).map fun x =>
      .float (if negative then x.negate else x)

/-- A number after its optional sign. -/
def unsignedNumber (negative : Bool) : Reader Json := fun text => do
  let (whole, rest) ← wholeDigits text
  let (fraction, rest) ← fractionDigits rest
  let (exponent, rest) ← exponentPart rest
  let json ← numberOf? negative whole fraction exponent
  some (json, rest)

/-- A number. -/
def number : Reader Json
  | '-' :: rest => unsignedNumber true rest
  | text => unsignedNumber false text

/-! ### Strings -/

/-- The value of a hexadecimal digit in either case. -/
def hexDigit? (c : Char) : Option Nat :=
  if '0' ≤ c ∧ c ≤ '9' then some (c.toNat - '0'.toNat)
  else if 'a' ≤ c ∧ c ≤ 'f' then some (c.toNat - 'a'.toNat + 10)
  else if 'A' ≤ c ∧ c ≤ 'F' then some (c.toNat - 'A'.toNat + 10)
  else none

/-- The 16-bit unit of a numeric escape. -/
def unit? (a b c d : Char) : Option Nat := do
  let a ← hexDigit? a
  let b ← hexDigit? b
  let c ← hexDigit? c
  let d ← hexDigit? d
  some (((a * 16 + b) * 16 + c) * 16 + d)

/-- The character that a single letter after a backslash stands for. -/
def escape? (c : Char) : Option Char :=
  if c = '"' ∨ c = '\\' ∨ c = '/' then some c
  else if c = 'b' then some '\x08'
  else if c = 'f' then some '\x0c'
  else if c = 'n' then some '\n'
  else if c = 'r' then some '\r'
  else if c = 't' then some '\t'
  else none

/-- A unit that starts a surrogate pair. -/
def isHighSurrogate (unit : Nat) : Bool :=
  decide (0xd800 ≤ unit ∧ unit < 0xdc00)

/-- A unit that ends a surrogate pair. -/
def isLowSurrogate (unit : Nat) : Bool :=
  decide (0xdc00 ≤ unit ∧ unit < 0xe000)

/-- The character of a surrogate pair. -/
def ofSurrogates (high low : Nat) : Char :=
  Char.ofNat (0x10000 + (high - 0xd800) * 0x400 + (low - 0xdc00))

/-- One more character in front of what a reader of characters has read. -/
def push (c : Char) (read : Option (List Char × List Char)) : Option (List Char × List Char) :=
  read.map fun (chars, rest) => (c :: chars, rest)

/-- The characters of a string after its opening quotation mark, up to the closing one. -/
def stringBody : Reader (List Char)
  | [] => none
  | '"' :: rest => some ([], rest)
  | ['\\'] => none
  | '\\' :: 'u' :: a :: b :: c :: d :: tail =>
    match unit? a b c d with
    | none => none
    | some unit =>
      if isHighSurrogate unit then
        match tail with
        | '\\' :: 'u' :: e :: f :: g :: h :: rest =>
          match unit? e f g h with
          | some low =>
            if isLowSurrogate low then push (ofSurrogates unit low) (stringBody rest) else none
          | none => none
        | _ => none
      else if isLowSurrogate unit then none
      else push (Char.ofNat unit) (stringBody tail)
  | '\\' :: c :: rest =>
    match escape? c with
    | some found => push found (stringBody rest)
    | none => none
  | c :: rest => if c.toNat < 32 then none else push c (stringBody rest)
termination_by structural text => text

/-! ### Documents -/

/-- A document that is no container. -/
def leaf : Reader Json
  | 'n' :: 'u' :: 'l' :: 'l' :: rest => some (.null, rest)
  | 't' :: 'r' :: 'u' :: 'e' :: rest => some (.bool true, rest)
  | 'f' :: 'a' :: 'l' :: 's' :: 'e' :: rest => some (.bool false, rest)
  | '"' :: rest => (stringBody rest).map fun (chars, rest) => (.string (String.ofList chars), rest)
  | text => number text

/-- At most `limit` items, each read by `element`, up to the closing bracket. -/
def items (element : Reader Json) : Nat → Reader (List Json)
  | 0, _ => none
  | limit + 1, text => do
    let (item, rest) ← element (skipBlank text)
    match skipBlank rest with
    | ',' :: rest => (items element limit rest).map fun (more, rest) => (item :: more, rest)
    | ']' :: rest => some ([item], rest)
    | _ => none

/-- One member of an object: a string, a colon and a value read by `element`. -/
def member (element : Reader Json) : Reader (String × Json) := fun text =>
  match skipBlank text with
  | '"' :: rest => do
    let (key, rest) ← stringBody rest
    match skipBlank rest with
    | ':' :: rest =>
      (element (skipBlank rest)).map fun (value, rest) => ((String.ofList key, value), rest)
    | _ => none
  | _ => none

/-- At most `limit` members, each value read by `element`, up to the closing brace. -/
def members (element : Reader Json) : Nat → Reader (List (String × Json))
  | 0, _ => none
  | limit + 1, text => do
    let (first, rest) ← member element text
    match skipBlank rest with
    | ',' :: rest => (members element limit rest).map fun (more, rest) => (first :: more, rest)
    | '\x7d' :: rest => some ([first], rest)
    | _ => none

/-- A document whose containers are nested at most `depth` deep. No text holds more items than
    characters, so the length bounds the number of items. -/
def value : Nat → Reader Json
  | 0, text => leaf text
  | depth + 1, text =>
    match text with
    | '[' :: rest =>
      match skipBlank rest with
      | ']' :: rest => some (.array [], rest)
      | rest => (items (value depth) rest.length rest).map fun (found, rest) => (.array found, rest)
    | '\x7b' :: rest =>
      match skipBlank rest with
      | '\x7d' :: rest => some (.object [], rest)
      | rest =>
        (members (value depth) rest.length rest).map fun (found, rest) =>
          (.object (Keyed.ofList found), rest)
    | text => leaf text

/-- The document that a text holds, apart from white space around it. Nothing if the text is not
    JSON or nests containers more than `depth` deep. -/
def parse? (depth : Nat) (text : String) : Option Json :=
  match value depth (skipBlank text.toList) with
  | some (json, rest) => if (skipBlank rest).isEmpty then some json else none
  | none => none

/-- How deep the containers of a document may be nested. -/
def nestingLimit : Nat :=
  127

end Json

end Reshape
