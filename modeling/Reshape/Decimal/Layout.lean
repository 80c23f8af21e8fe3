/-
Module: Reshape.Decimal.Layout
Layer: Data
Purpose: How the digits of a number are set out as text.
Main exports: Decimal.Layout, Decimal.Layout.render
-/
import Reshape.Decimal.Shortest

namespace Reshape

namespace Decimal

/-- The decisions of one number format. -/
structure Layout where
  /-- Exponents of the leading digit for which no exponent part is written. -/
  isPlain : Int → Bool
  /-- A whole number without exponent part ends in `.0`. -/
  pointZero : Bool
  /-- A positive exponent has a plus sign. -/
  exponentPlus : Bool
  /-- Which of two equally near shortest decimals is taken. -/
  tie : Tie

namespace Layout

/-- Digits without an exponent part: the point stands before, inside or after them. -/
def plain (layout : Layout) (decimal : Decimal) : String :=
  let digits := decimal.digits
  if decimal.exponent < 0 then
    String.ofList ('0' :: '.' :: List.replicate (-decimal.exponent - 1).toNat '0' ++ digits)
  else
    let whole := decimal.exponent.toNat + 1
    if digits.length ≤ whole then
      String.ofList (digits ++ List.replicate (whole - digits.length) '0') ++
        if layout.pointZero then ".0" else ""
    else
      String.ofList (digits.take whole ++ '.' :: digits.drop whole)

/-- Digits with the point after the first one and an exponent part. -/
def scientific (layout : Layout) (decimal : Decimal) : String :=
  let fraction := decimal.digits.drop 1
  String.ofList (decimal.digits.take 1) ++
    (if fraction.isEmpty then "" else "." ++ String.ofList fraction) ++ "e" ++
    (if layout.exponentPlus && decide (0 < decimal.exponent) then "+" else "") ++
    toString decimal.exponent

/-- The text of a magnitude. -/
def magnitude (layout : Layout) (x : Binary64) : String :=
  if x.isZero then if layout.pointZero then "0.0" else "0"
  else
    let decimal := shortest layout.tie x
    if layout.isPlain decimal.exponent then layout.plain decimal else layout.scientific decimal

/-- The text of a number. Both zeros keep their sign; a NaN has none. -/
def render (layout : Layout) (x : Binary64) : String :=
  if x.isNaN then "NaN"
  else
    (if x.isNegative then "-" else "") ++ if x.isFinite then layout.magnitude x else "inf"

end Layout

end Decimal

end Reshape
