/-
Module: Reshape.Path.Basic
Layer: Data
Purpose: Paths: where reading starts, which segments it follows, and whether it is done for every
  element of an array.
Main exports: Path, Path.Segment, Path.Root, Path.identity, Path.maxSegments
-/
import Reshape.Text.Mark

namespace Reshape

namespace Path

/-- One step down a value. -/
inductive Segment where
  | key (text : String)
  | index (n : Nat)
  deriving Repr, Inhabited, DecidableEq

/-- What a path starts from: the accumulator's value or the whole accumulator. -/
inductive Root where
  | value
  | accumulator
  deriving Repr, Inhabited, DecidableEq

/-- The text of a segment. -/
def Segment.display : Segment → List Char
  | .key text => '.' :: text.toList
  | .index n => '[' :: Nat.toDigits 10 n ++ [']']

/-- The text of a list of segments. -/
def displaySegments (segments : List Segment) : List Char :=
  segments.flatMap Segment.display

/-- How many segments a path may have. -/
def maxSegments : Nat :=
  256

end Path

/-- A path, with the text that it was read from. -/
structure Path where
  raw : String
  root : Path.Root
  segments : List Path.Segment
  isCollection : Bool
  deriving Repr, Inhabited, DecidableEq

namespace Path

/-- The path that yields the accumulator's value unchanged. -/
def identity : Path :=
  ⟨".", .value, [], false⟩

/-- Reading the path yields the accumulator's value unchanged. -/
def isIdentity (path : Path) : Bool :=
  path.root == .value && path.segments.isEmpty && !path.isCollection

/-- The text of a path in normal form: the root, every segment with its mark, the collection mark. -/
def render (root : Root) (segments : List Segment) (isCollection : Bool) : List Char :=
  (match root with
    | .value => []
    | .accumulator => ['.', '.']) ++
  displaySegments segments ++ Text.mark isCollection

end Path

end Reshape
