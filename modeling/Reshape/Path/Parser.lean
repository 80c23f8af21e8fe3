/-
Module: Reshape.Path.Parser
Layer: Data
Purpose: Reading paths. A path is an optional `..`, a body of keys and bracketed indices, and an
  optional `[]`; the first fault is reported with its position in the whole text.
Main exports: Path.Fault, Path.index?, Path.scan, Path.parse
-/
import Reshape.Path.Basic
import Reshape.Text.Blank
import Reshape.Text.Mark

namespace Reshape

namespace Path

/-- Why a text is no path. Positions count characters from the start of the text. -/
inductive Fault where
  | emptyKey (position : Nat)
  | unclosedBracket (position : Nat)
  | invalidIndex (position : Nat) (text : String)
  | unexpectedChar (c : Char) (position : Nat)
  | misplacedMarker (position : Nat)
  | tooLong (count : Nat)
  deriving Repr, Inhabited, DecidableEq

/-- The message of a fault. -/
def Fault.message : Fault → String
  | .emptyKey position => "empty key in path at position " ++ toString position
  | .unclosedBracket position => "unclosed bracket starting at position " ++ toString position
  | .invalidIndex position text =>
    "invalid array index at position " ++ toString position ++ ": " ++ text
  | .unexpectedChar c position =>
    "unexpected character '" ++ String.singleton c ++ "' at position " ++ toString position
  | .misplacedMarker position =>
    "collection marker '[]' must end the path (found at position " ++ toString position ++ ")"
  | .tooLong count =>
    "path has " ++ toString count ++ " segments, maximum is " ++ toString maxSegments

/-! ### Tokens -/

/-- The number of a run of decimal digits, if it is below `2 ^ 64`. -/
def digits? (text : List Char) : Option Nat :=
  if text ≠ [] ∧ text.all Char.isDigit then
    let n := Nat.ofDigitChars 10 text 0
    if n < Nat.pow 2 64 then some n else none
  else none

/-- The index that a text denotes: an optional plus sign and decimal digits. -/
def index? : List Char → Option Nat
  | '+' :: rest => digits? rest
  | text => digits? text

/-- A character that keys may hold. -/
def isKeyChar (c : Char) : Bool :=
  c != '.' && c != '[' && c != ']' && !Text.isBlank c

/-! ### Scanning -/

/-- A rest that is no longer is smaller once the marker in the second place falls. -/
theorem lex_of_le {n m : Nat} (h : n ≤ m) :
    Prod.Lex (fun a b : Nat => a < b) (fun a b : Nat => a < b) (n, 0) (m, 1) := by
  rcases Nat.lt_or_eq_of_le h with h | rfl
  · exact Prod.Lex.left _ _ h
  · exact Prod.Lex.right _ Nat.zero_lt_one

mutual

/-- The segments of a body from `position` on, where one dot may stand before each. -/
def scan (position : Nat) (text : List Char) : Except Fault (List Segment) :=
  match text with
  | [] => .ok []
  | '.' :: rest =>
    match rest with
    | [] => .error (.emptyKey (position + 1))
    | '.' :: _ => .error (.emptyKey (position + 1))
    | c :: more => scanItem (position + 1) c more
  | c :: rest => scanItem position c rest
termination_by (text.length, 0)

/-- The segments of a body whose first character is `c`, at `position`. -/
def scanItem (position : Nat) (c : Char) (rest : List Char) : Except Fault (List Segment) :=
  if c = '[' then
    let inner := rest.takeWhile (· != ']')
    if ']' ∉ rest then .error (.unclosedBracket position)
    else if inner = [] then .error (.misplacedMarker position)
    else
      match index? inner with
      | none => .error (.invalidIndex (position + 1) (String.ofList inner))
      | some n =>
        (scan (position + inner.length + 2) (rest.drop (inner.length + 1))).map (.index n :: ·)
  else if isKeyChar c then
    let more := rest.takeWhile isKeyChar
    (scan (position + more.length + 1) (rest.dropWhile isKeyChar)).map
      (.key (String.ofList (c :: more)) :: ·)
  else .error (.unexpectedChar c position)
termination_by (rest.length, 1)
decreasing_by
  · exact lex_of_le (by rw [List.length_drop]; omega)
  · exact lex_of_le (List.dropWhile_sublist isKeyChar).length_le

end

/-! ### Whole paths -/

/-- The root that a text starts with, the length of its mark and the rest. -/
def splitRoot : List Char → Root × Nat × List Char
  | '.' :: '.' :: rest => (.accumulator, 2, rest)
  | text => (.value, 0, text)

/-- The segments of a body at `offset`; a single dot in front is skipped. -/
def scanBody (offset : Nat) : List Char → Except Fault (List Segment)
  | '.' :: rest => scan (offset + 1) rest
  | text => scan offset text

/-- Reads a path. -/
def parse (raw : String) : Except Fault Path :=
  let (root, offset, rest) := splitRoot raw.toList
  let (body, isCollection) := Text.splitMark rest
  match scanBody offset body with
  | .error fault => .error fault
  | .ok segments =>
    if segments.length ≤ maxSegments then .ok ⟨raw, root, segments, isCollection⟩
    else .error (.tooLong segments.length)

end Path

end Reshape
