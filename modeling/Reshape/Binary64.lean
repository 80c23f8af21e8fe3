/-
Module: Reshape.Binary64
Layer: Data
Purpose: Double-precision numbers as bit patterns, with the arithmetic that values need done exactly
  on natural numbers and rounded once.
Main exports: Binary64, Binary64.equals, Binary64.ofRatio, Binary64.ofInt, Binary64.times,
  Binary64.dividedBy
-/

namespace Reshape

/-- A double-precision number, given by its bit pattern. Two numbers are the same when their bits
    are; the numeric comparison is `Binary64.equals`. -/
structure Binary64 where
  bits : UInt64
  deriving Repr, Inhabited, DecidableEq

namespace Binary64

/-! ### Fields

Powers are written with `Nat.pow`: what `^` stands for depends on the algebra that is imported. -/

/-- The bit pattern as a natural number. -/
def word (x : Binary64) : Nat :=
  x.bits.toNat

/-- The sign bit. -/
def isNegative (x : Binary64) : Bool :=
  decide (Nat.pow 2 63 ≤ x.word)

/-- The eleven bits of the biased exponent. -/
def exponentField (x : Binary64) : Nat :=
  x.word / Nat.pow 2 52 % Nat.pow 2 11

/-- The fifty-two bits of the fraction. -/
def fractionField (x : Binary64) : Nat :=
  x.word % Nat.pow 2 52

/-- Neither an infinity nor a NaN. -/
def isFinite (x : Binary64) : Bool :=
  x.exponentField != 2047

/-- Not a number at all. -/
def isNaN (x : Binary64) : Bool :=
  x.exponentField == 2047 && x.fractionField != 0

/-- One of the two zeros. -/
def isZero (x : Binary64) : Bool :=
  x.word % Nat.pow 2 63 == 0

/-- The significand `m` of a finite number `± m · 2 ^ scale`. -/
def significand (x : Binary64) : Nat :=
  if x.exponentField = 0 then x.fractionField else Nat.pow 2 52 + x.fractionField

/-- The exponent `q` of a finite number `± m · 2 ^ q`. -/
def scale (x : Binary64) : Int :=
  (max x.exponentField 1 : Nat) - 1075

/-- The magnitude of a finite number as a numerator and a denominator. -/
def ratio (x : Binary64) : Nat × Nat :=
  (x.significand * Nat.pow 2 x.scale.toNat, Nat.pow 2 (-x.scale).toNat)

/-- Numeric equality: the two zeros are equal and a NaN equals nothing, itself included. -/
def equals (x y : Binary64) : Bool :=
  !x.isNaN && !y.isNaN && (x.bits == y.bits || (x.isZero && y.isZero))

/-! ### Rounding -/

/-- `num / den` rounded to the nearest natural number, a half going to the even neighbour. -/
def roundHalfEven (num den : Nat) : Nat :=
  let low := num / den
  let rest := 2 * (num % den)
  if rest < den ∨ (rest = den ∧ low % 2 = 0) then low else low + 1

/-- The exponent of the leading binary digit of `num / den`, for positive `num` and `den`. -/
def leadingExponent (num den : Nat) : Int :=
  let estimate : Int := (Nat.log2 num : Int) - Nat.log2 den
  if den * Nat.pow 2 estimate.toNat ≤ num * Nat.pow 2 (-estimate).toNat then estimate
  else estimate - 1

/-- The number with the given sign bit and the given magnitude bits. -/
def ofFields (negative : Bool) (magnitude : Nat) : Binary64 :=
  ⟨UInt64.ofNat (magnitude + if negative then Nat.pow 2 63 else 0)⟩

/-- The number nearest to `± num / den`, ties to the even significand; infinite beyond the range. -/
def ofRatio (negative : Bool) (num den : Nat) : Binary64 :=
  if num = 0 then ofFields negative 0
  else
    let scale : Int := max (leadingExponent num den - 52) (-1074)
    let significand := roundHalfEven (num * Nat.pow 2 (-scale).toNat) (den * Nat.pow 2 scale.toNat)
    let magnitude := (scale + 1074).toNat * Nat.pow 2 52 + significand
    ofFields negative (min magnitude (2047 * Nat.pow 2 52))

/-- The number nearest to an integer. -/
def ofInt (n : Int) : Binary64 :=
  ofRatio (decide (n < 0)) n.natAbs 1

/-- The rounded product of two finite numbers. -/
def times (x y : Binary64) : Binary64 :=
  ofRatio (x.isNegative != y.isNegative) (x.ratio.1 * y.ratio.1) (x.ratio.2 * y.ratio.2)

/-- The rounded quotient of two finite numbers, the second of them not zero. -/
def dividedBy (x y : Binary64) : Binary64 :=
  ofRatio (x.isNegative != y.isNegative) (x.ratio.1 * y.ratio.2) (x.ratio.2 * y.ratio.1)

/-- The number with its sign bit turned over. -/
def negate (x : Binary64) : Binary64 :=
  ⟨x.bits ^^^ UInt64.ofNat (Nat.pow 2 63)⟩

/-! ### Equality laws -/

theorem equals_comm (x y : Binary64) : x.equals y = y.equals x := by
  unfold equals
  rw [BEq.comm (a := x.bits)]
  cases x.isNaN <;> cases y.isNaN <;> cases x.isZero <;> cases y.isZero <;> rfl

theorem equals_self (x : Binary64) : x.equals x = !x.isNaN := by
  unfold equals
  cases x.isNaN <;> simp

/-- Equal numbers are no NaN, and they are one number or the two zeros. -/
theorem equals_iff {x y : Binary64} :
    x.equals y = true ↔
      x.isNaN = false ∧ y.isNaN = false ∧ (x = y ∨ x.isZero = true ∧ y.isZero = true) := by
  have sameBits : x.bits = y.bits ↔ x = y := by
    cases x
    cases y
    simp
  simp [equals, sameBits, and_assoc]

theorem equals_trans {x y z : Binary64} (first : x.equals y = true) (second : y.equals z = true) :
    x.equals z = true := by
  obtain ⟨left, -, near⟩ := equals_iff.mp first
  obtain ⟨-, right, far⟩ := equals_iff.mp second
  refine equals_iff.mpr ⟨left, right, ?_⟩
  rcases near with rfl | ⟨zero, zero'⟩
  · exact far
  · rcases far with rfl | ⟨-, zero''⟩
    · exact .inr ⟨zero, zero'⟩
    · exact .inr ⟨zero, zero''⟩

/-- Zero or not is all that equal numbers tell about their bits. -/
theorem isZero_eq_of_equals {x y : Binary64} (equal : x.equals y = true) : x.isZero = y.isZero := by
  obtain ⟨-, -, rfl | ⟨zero, zero'⟩⟩ := equals_iff.mp equal
  · rfl
  · rw [zero, zero']

end Binary64

end Reshape
