/-
Module: Reshape.Decimal.Reading
Layer: Data
Purpose: From the digits of a decimal to a double. The digits that fit in 64 bits form a
  significand; it is rounded and then scaled by powers of ten, with a rounding after each step.
Main exports: Decimal.scaled?, Decimal.read?
-/
import Reshape.Binary64

namespace Reshape

namespace Decimal

/-- The value of a decimal digit. -/
def digitValue (c : Char) : Nat :=
  c.toNat - '0'.toNat

/-- The significand after the whole digits, and how many of them it leaves out: the first digit that
    does not fit in 64 bits and all after it. -/
def takeWhole (significand : Nat) : List Char → Nat × Nat
  | [] => (significand, 0)
  | c :: rest =>
    let next := significand * 10 + digitValue c
    if next < Nat.pow 2 64 then takeWhole next rest else (significand, rest.length + 1)

/-- The significand after the fraction digits, and how many of them it takes in. -/
def takeFraction (significand : Nat) : List Char → Nat × Nat
  | [] => (significand, 0)
  | c :: rest =>
    let next := significand * 10 + digitValue c
    if next < Nat.pow 2 64 then
      let (full, taken) := takeFraction next rest
      (full, taken + 1)
    else (significand, 0)

/-- The greatest power of ten that is a finite double. -/
def greatestPower : Nat :=
  308

/-- The double nearest to `10 ^ n`. -/
def power (n : Nat) : Binary64 :=
  Binary64.ofInt (Nat.pow 10 n)

/-- `x · 10 ^ exponent`, nothing when that overflows. Far below the range the number is taken down in
    more than one step. -/
def scaled? (x : Binary64) (exponent : Int) : Option Binary64 :=
  if exponent.natAbs ≤ greatestPower then
    if 0 ≤ exponent then
      let product := x.times (power exponent.toNat)
      if product.isFinite then some product else none
    else some (x.dividedBy (power (-exponent).toNat))
  else if x.isZero then some x
  else if 0 ≤ exponent then none
  else scaled? (x.dividedBy (power greatestPower)) (exponent + greatestPower)
termination_by (-exponent).toNat
decreasing_by simp only [greatestPower] at *; omega

/-- The magnitude of `whole.fraction · 10 ^ exponent`, nothing when it overflows. -/
def read? (whole fraction : List Char) (exponent : Int) : Option Binary64 :=
  let (significand, dropped) := takeWhole 0 whole
  let (significand, taken) := takeFraction significand fraction
  scaled? (Binary64.ofInt significand) (exponent + dropped - taken)

end Decimal

end Reshape
