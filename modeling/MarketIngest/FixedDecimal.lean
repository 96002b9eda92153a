import MarketIngest.L0Sink
import Mathlib.Algebra.Order.Field.Rat
import Mathlib.Data.Nat.Digits.Defs
import Mathlib.Tactic.FieldSimp
import Mathlib.Tactic.Positivity

namespace MarketIngest.MarketData

/-!
# Decimal numbers with a scale

A decimal is a 128-bit integer and the number of its digits after the point.
Two decimals are compared after the one with fewer digits was padded with
zeros; where the padded integer does not fit, the comparison saturates and is
no longer that of the numbers.
-/

/-- What is wrong with a decimal text. -/
inductive DomainError where
  | emptyDecimal
  | invalidDecimal (value : String)
  | negativeUnsignedDecimal (value : String)
  | scaleOverflow
  | divideByZero
  deriving Repr, DecidableEq

/-- The text of an error. -/
def DomainError.display : DomainError → String
  | .emptyDecimal => "decimal value is empty"
  | .invalidDecimal value => "invalid decimal value: " ++ value
  | .negativeUnsignedDecimal value =>
      "unsigned decimal cannot be negative: " ++ value
  | .scaleOverflow => "decimal scale overflow"
  | .divideByZero => "cannot divide by zero"

/-- A decimal. -/
structure FixedDecimal where
  value : Int
  scale : Nat
  deriving Repr, DecidableEq

/-- The greatest signed 128-bit integer. -/
def i128Max : Int :=
  170141183460469231731687303715884105727

/-- The least signed 128-bit integer. -/
def i128Min : Int :=
  -170141183460469231731687303715884105728

/-- The greatest unsigned 32-bit integer. -/
def u32Max : Nat :=
  4294967295

/-- Multiply by ten so often, up to the bounds of the integers. -/
def saturatingAlign : Int → Nat → Int
  | value, 0 => value
  | value, scaleDelta + 1 =>
      if i128Min ≤ value * 10 ∧ value * 10 ≤ i128Max then
        saturatingAlign (value * 10) scaleDelta
      else if value ≥ 0 then
        i128Max
      else
        i128Min

namespace FixedDecimal

/-- The order of two decimals. -/
def cmp (left right : FixedDecimal) : Ordering :=
  let scale := max left.scale right.scale
  compare (saturatingAlign left.value (scale - left.scale))
    (saturatingAlign right.value (scale - right.scale))

/-- The decimal is positive. -/
def isPositive (decimal : FixedDecimal) : Bool :=
  decimal.value > 0

/-- The characters without white space at both ends. -/
def trim (characters : List Char) : List Char :=
  ((characters.dropWhile Text.isWhiteSpace).reverse.dropWhile
    Text.isWhiteSpace).reverse

/-- The number that some digits stand for. -/
def digitsValue (digits : List Char) : Nat :=
  digits.foldl (fun number digit => number * 10 + (digit.toNat - 48)) 0

/-- The decimal of the digits before and after the point. -/
def fromParts
    (input : String)
    (negative : Bool)
    (whole fraction : List Char) : Except DomainError FixedDecimal :=
  if whole = [] ∨
      ¬ (whole.all Char.isDigit ∧ fraction.all Char.isDigit) then
    .error (.invalidDecimal input)
  else if fraction.length > u32Max then
    .error .scaleOverflow
  else
    let value : Int := digitsValue (whole ++ fraction)
    if value > i128Max then
      .error (.invalidDecimal input)
    else
      .ok
        { value := if negative then -value else value
          scale := fraction.length }

/-- Read a decimal. -/
def fromStr (input : String) : Except DomainError FixedDecimal :=
  let trimmed := trim input.toList
  if trimmed = [] then
    .error .emptyDecimal
  else
    let negative := decide (trimmed.head? = some '-')
    let digits := if negative then trimmed.tail else trimmed
    if digits = [] then
      .error (.invalidDecimal input)
    else
      match digits.splitOn '.' with
      | [whole] => fromParts input negative whole []
      | [whole, fraction] => fromParts input negative whole fraction
      | _ => .error (.invalidDecimal input)

/-- Read a decimal that is not negative. -/
def parseUnsigned (input : String) : Except DomainError FixedDecimal :=
  match fromStr input with
  | .error error => .error error
  | .ok parsed =>
      if parsed.value < 0 then
        .error (.negativeUnsignedDecimal input)
      else
        .ok parsed

/-- The number that a decimal stands for. -/
def toRat (decimal : FixedDecimal) : ℚ :=
  decimal.value / 10 ^ decimal.scale

/-- The value padded to more digits after the point. -/
def padded (decimal : FixedDecimal) (scale : Nat) : Int :=
  decimal.value * 10 ^ (scale - decimal.scale)

/-- Both decimals fit when they are padded to the greater scale. -/
def Aligned (left right : FixedDecimal) : Prop :=
  |left.value * 10 ^ (max left.scale right.scale - left.scale)| ≤ i128Max ∧
    |right.value * 10 ^ (max left.scale right.scale - right.scale)| ≤
      i128Max

end FixedDecimal

/-- A padded integer that fits is not cut. -/
theorem saturatingAlign_of_fits
    {value : Int}
    {scaleDelta : Nat}
    (fits : |value * 10 ^ scaleDelta| ≤ i128Max) :
    saturatingAlign value scaleDelta = value * 10 ^ scaleDelta := by
  induction scaleDelta generalizing value with
  | zero =>
      rw [saturatingAlign, pow_zero, mul_one]
  | succ scaleDelta inductionHypothesis =>
      have regrouped :
          value * 10 ^ (scaleDelta + 1) =
            value * 10 * 10 ^ scaleDelta := by
        ring
      rw [regrouped] at fits
      have smaller : |value * 10| ≤ i128Max := by
        refine le_trans ?_ fits
        have positive : (0 : Int) < 10 ^ scaleDelta := by positivity
        rw [abs_mul (value * 10), abs_of_pos positive]
        exact le_mul_of_one_le_right (abs_nonneg _)
          (one_le_pow₀ (by norm_num))
      have bounds := abs_le.mp smaller
      have lower : i128Min ≤ value * 10 :=
        le_trans (by decide) bounds.1
      rw [saturatingAlign, if_pos ⟨lower, bounds.2⟩,
        inductionHypothesis fits, regrouped]

namespace FixedDecimal

/-- A number padded to a scale. -/
theorem toRat_mul_pow
    (decimal : FixedDecimal)
    {scale : Nat}
    (within : decimal.scale ≤ scale) :
    decimal.toRat * 10 ^ scale = decimal.padded scale := by
  have nonzero : (10 : ℚ) ^ decimal.scale ≠ 0 := by positivity
  rw [toRat, padded]
  push_cast
  rw [div_mul_eq_mul_div, div_eq_iff nonzero, mul_assoc, ← pow_add,
    Nat.sub_add_cancel within]

/-- Numbers are compared by their padded values. -/
theorem toRat_lt_iff
    {left right : FixedDecimal}
    {scale : Nat}
    (leftWithin : left.scale ≤ scale)
    (rightWithin : right.scale ≤ scale) :
    left.toRat < right.toRat ↔ left.padded scale < right.padded scale := by
  have positive : (0 : ℚ) < 10 ^ scale := by positivity
  rw [← mul_lt_mul_iff_of_pos_right positive, left.toRat_mul_pow leftWithin,
    right.toRat_mul_pow rightWithin, Int.cast_lt]

/-- The order of two numbers is that of their padded values. -/
theorem compare_toRat
    (left right : FixedDecimal) :
    compare left.toRat right.toRat =
      compare (left.padded (max left.scale right.scale))
        (right.padded (max left.scale right.scale)) := by
  have less :=
    toRat_lt_iff (le_max_left left.scale right.scale)
      (le_max_right left.scale right.scale)
  have greater :=
    toRat_lt_iff (le_max_right left.scale right.scale)
      (le_max_left left.scale right.scale)
  rcases lt_trichotomy left.toRat right.toRat with below | same | above
  · rw [compare_lt_iff_lt.mpr below, compare_lt_iff_lt.mpr (less.mp below)]
  · have equal :=
      le_antisymm (not_lt.mp (greater.not.mp same.le.not_gt))
        (not_lt.mp (less.not.mp same.ge.not_gt))
    rw [compare_eq_iff_eq.mpr same, compare_eq_iff_eq.mpr equal]
  · rw [compare_gt_iff_gt.mpr above,
      compare_gt_iff_gt.mpr (greater.mp above)]

/-- Decimals that fit when padded are compared as numbers. -/
theorem cmp_eq_of_aligned
    {left right : FixedDecimal}
    (aligned : Aligned left right) :
    cmp left right = compare left.toRat right.toRat := by
  rw [compare_toRat, cmp, saturatingAlign_of_fits aligned.1,
    saturatingAlign_of_fits aligned.2]
  rfl

/-- A decimal is positive just if its number is. -/
theorem isPositive_iff
    (decimal : FixedDecimal) :
    decimal.isPositive = true ↔ 0 < decimal.toRat := by
  have positive : (0 : ℚ) < 10 ^ decimal.scale := by positivity
  rw [isPositive, decide_eq_true_iff, toRat, lt_div_iff₀ positive, zero_mul]
  exact Int.cast_pos.symm

end FixedDecimal

end MarketIngest.MarketData
