/-
Module: Reshape.Decimal.Shortest
Layer: Data
Purpose: The shortest decimal that reads back as a given double-precision number, and of several
  that short the nearest.
Main exports: Decimal, Decimal.Tie, Decimal.readsBack, Decimal.shortest
-/
import Reshape.Binary64

namespace Reshape

/-- A positive decimal `d.ddd… · 10 ^ exponent`: its digits, of which neither the first nor the last
    is a zero, and the exponent of the first one. -/
structure Decimal where
  digits : List Char
  exponent : Int
  deriving Repr, Inhabited, DecidableEq

namespace Decimal

/-- Which of two equally near decimals is taken. -/
inductive Tie where
  | up
  | toEven
  deriving Repr, Inhabited, DecidableEq

/-! ### The interval of a number

A finite number `m · 2 ^ q` is written in quarters of its unit: the number is `4 m`, and the reals
that round to it reach two quarters up, and two quarters down or, at a power of two, one. -/

/-- The number below is only half as far away as the number above. -/
def narrowBelow (x : Binary64) : Bool :=
  x.fractionField == 0 && decide (1 < x.exponentField)

/-- `coefficient · 10 ^ exponent` and a number of quarters of the unit of `x`, over one denominator. -/
def unitFactor (x : Binary64) (exponent : Int) : Nat :=
  Nat.pow 10 exponent.toNat * Nat.pow 2 (2 - x.scale).toNat

/-- The factor that takes quarters of the unit of `x` to the denominator of `unitFactor`. -/
def quarterFactor (x : Binary64) (exponent : Int) : Nat :=
  Nat.pow 10 (-exponent).toNat * Nat.pow 2 (x.scale - 2).toNat

/-- `coefficient · 10 ^ exponent` lies in the interval of reals that round to `x`. The ends belong to
    the interval when the significand is even. -/
def readsBack (x : Binary64) (coefficient : Nat) (exponent : Int) : Bool :=
  let point := coefficient * unitFactor x exponent
  let low := (4 * x.significand - if narrowBelow x then 1 else 2) * quarterFactor x exponent
  let high := (4 * x.significand + 2) * quarterFactor x exponent
  if x.significand % 2 = 0 then decide (low ≤ point ∧ point ≤ high)
  else decide (low < point ∧ point < high)

/-! ### The search -/

/-- How many decimal digits a natural number has. -/
def digitCount (n : Nat) : Nat :=
  (Nat.toDigits 10 n).length

/-- The exponent of the leading decimal digit of `num / den`. -/
def leadingExponent (num den : Nat) : Int :=
  if den ≤ num then (digitCount (num / den) : Int) - 1 else -(digitCount ((den - 1) / num))

/-- Of the two neighbours of `x` on the grid of multiples of `10 ^ exponent`, the nearer one that
    reads back. -/
def onGrid? (tie : Tie) (x : Binary64) (exponent : Int) : Option Nat :=
  let unit := unitFactor x exponent
  let exact := 4 * x.significand * quarterFactor x exponent
  let low := exact / unit
  let rest := 2 * (exact % unit)
  let lowNearer := rest < unit ∨ (rest = unit ∧ tie = .toEven ∧ low % 2 = 0)
  match readsBack x low exponent, readsBack x (low + 1) exponent with
  | true, true => some (if lowNearer then low else low + 1)
  | true, false => some low
  | false, true => some (low + 1)
  | false, false => none

/-- The decimal `coefficient · 10 ^ exponent`. -/
def ofCoefficient (coefficient : Nat) (exponent : Int) : Decimal :=
  let digits := Nat.toDigits 10 coefficient
  ⟨(digits.reverse.dropWhile (· == '0')).reverse, exponent + digits.length - 1⟩

/-- The shortest decimal that reads back as the magnitude of `x`, a finite number that is not zero.
    Grids of one digit, two digits and so on are tried in turn; seventeen digits always suffice. -/
def shortest (tie : Tie) (x : Binary64) : Decimal :=
  let leading := leadingExponent x.ratio.1 x.ratio.2
  let found := (List.range 17).findSome? fun (finer : Nat) =>
    let exponent := leading - finer
    (onGrid? tie x exponent).map fun coefficient => ofCoefficient coefficient exponent
  found.getD (ofCoefficient x.ratio.1 0)

end Decimal

end Reshape
