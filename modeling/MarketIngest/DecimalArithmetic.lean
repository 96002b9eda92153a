import MarketIngest.FixedDecimal
import MarketIngest.MachineInteger
import MarketIngest.Truncation
import Mathlib.Data.Rat.Floor
import Mathlib.Tactic.LinearCombination

namespace MarketIngest.MarketData

open MachineInteger Truncation

/-!
# Arithmetic of decimals

Decimals are padded with zeros to a common scale before they are added, and
scaled by powers of ten before they are divided.  Most steps are checked, and
an operation returns an error where one of them does not fit.  The sum of the
padded values and the final quotient are not checked.
-/

/-- So many basis points. -/
structure Bps where
  value : Int
  deriving Repr, DecidableEq

/-- The value and the scale fit the integers of a decimal. -/
structure FixedDecimal.Representable (decimal : FixedDecimal) : Prop where
  value : Fits 128 decimal.value
  scale : decimal.scale ≤ u32Max

/-- A result that returns an error if it needs more than 128 bits. -/
def checkedI128 (value : Int) : Computed DomainError Int :=
  checked 128 .scaleOverflow value

/-- Multiply by ten so often. -/
def pow10From : Int → Nat → Computed DomainError Int
  | value, 0 => .ok value
  | value, scale + 1 => do
      let next ← checkedI128 (value * 10)
      pow10From next scale

/-- A power of ten. -/
def pow10 (scale : Nat) : Computed DomainError Int :=
  pow10From 1 scale

/-- The value of a decimal with more digits after the point. -/
def alignValue
    (decimal : FixedDecimal)
    (targetScale : Nat) : Computed DomainError Int :=
  if targetScale < decimal.scale then
    .error (.returned .scaleOverflow)
  else do
    let power ← pow10 (targetScale - decimal.scale)
    checkedI128 (decimal.value * power)

namespace FixedDecimal

/-- Combine two decimals at the greater scale; whether an overflow panics is set
on the build. -/
def combineAligned
    (overflowChecks : Bool)
    (combine : Int → Int → Int)
    (left right : FixedDecimal) : Computed DomainError FixedDecimal := do
  let scale := max left.scale right.scale
  let leftValue ← alignValue left scale
  let rightValue ← alignValue right scale
  let value ← unchecked 128 overflowChecks (combine leftValue rightValue)
  pure { value := value, scale := scale }

/-- The sum. -/
def checkedAdd
    (overflowChecks : Bool)
    (left right : FixedDecimal) : Computed DomainError FixedDecimal :=
  combineAligned overflowChecks (fun first second => first + second)
    left right

/-- The difference. -/
def checkedSub
    (overflowChecks : Bool)
    (left right : FixedDecimal) : Computed DomainError FixedDecimal :=
  combineAligned overflowChecks (fun first second => first - second)
    left right

/-- The quotient, cut to a scale. -/
def divToScale
    (left right : FixedDecimal)
    (outputScale : Nat) : Computed DomainError FixedDecimal :=
  if right.value = 0 then
    .error (.returned .divideByZero)
  else do
    let rightPower ← pow10 right.scale
    let scaled ← checkedI128 (left.value * rightPower)
    let outputPower ← pow10 outputScale
    let numerator ← checkedI128 (scaled * outputPower)
    let leftPower ← pow10 left.scale
    let denominator ← checkedI128 (right.value * leftPower)
    let value ← divide 128 numerator denominator
    pure { value := value, scale := outputScale }

/-- So many basis points of a decimal, cut to its scale. -/
def mulBps
    (decimal : FixedDecimal)
    (bps : Bps) : Computed DomainError FixedDecimal := do
  let product ← checkedI128 (decimal.value * bps.value)
  let value ← divide 128 product 10000
  pure { value := value, scale := decimal.scale }

/-- The product, cut to a scale. -/
def mulToScale
    (left right : FixedDecimal)
    (outputScale : Nat) : Computed DomainError FixedDecimal := do
  let product ← checkedI128 (left.value * right.value)
  let inputScale := left.scale + right.scale
  if inputScale > u32Max then
    .error (.returned .scaleOverflow)
  else if outputScale ≥ inputScale then
    let power ← pow10 (outputScale - inputScale)
    let value ← checkedI128 (product * power)
    pure { value := value, scale := outputScale }
  else
    let power ← pow10 (inputScale - outputScale)
    let value ← divide 128 product power
    pure { value := value, scale := outputScale }

/-- The decimal without its sign. -/
def abs (decimal : FixedDecimal) : Computed DomainError FixedDecimal := do
  let value ← checkedI128 |decimal.value|
  pure { value := value, scale := decimal.scale }

/-- The value can be padded to a scale within 128 bits. -/
structure Pads (decimal : FixedDecimal) (scale : Nat) : Prop where
  within : decimal.scale ≤ scale
  power : Fits 128 (10 ^ (scale - decimal.scale))
  value : Fits 128 (decimal.padded scale)

end FixedDecimal

section Powers

/-- A checked result is exact, or an error. -/
theorem meets_checkedI128 (value : Int) :
    Meets (fun result => result = value ∧ Fits 128 value)
      (checkedI128 value) :=
  meets_checked

/-- A checked result that fits is returned. -/
theorem checkedI128_of_fits
    {value : Int}
    (fits : Fits 128 value) :
    checkedI128 value = .ok value :=
  checked_of_fits fits

/-- A checked result that does not fit is an error. -/
theorem checkedI128_of_not_fits
    {value : Int}
    (stuck : ¬ Fits 128 value) :
    checkedI128 value = .error (.returned .scaleOverflow) :=
  if_neg stuck

/-- What is between zero and a number that fits, fits. -/
private theorem fits_of_le
    {value other : Int}
    (nonneg : 0 ≤ value)
    (below : value ≤ other)
    (fits : Fits 128 other) :
    Fits 128 value :=
  ⟨le_trans (by decide) nonneg, below.trans_lt fits.2⟩

/-- A power of ten is a checked result. -/
theorem pow10_eq (scale : Nat) :
    pow10 scale = checkedI128 (10 ^ scale) := by
  have from_eq :
      ∀ {value : Int}, 0 ≤ value → Fits 128 value →
        pow10From value scale = checkedI128 (value * 10 ^ scale) := by
    induction scale with
    | zero =>
        intro value _ fits
        rw [pow10From, pow_zero, mul_one, checkedI128_of_fits fits]
    | succ scale inductionHypothesis =>
        intro value nonneg fits
        have positive : 0 ≤ value * 10 := mul_nonneg nonneg (by decide)
        have grows : value * 10 ≤ value * 10 * 10 ^ scale :=
          le_mul_of_one_le_right positive (one_le_pow₀ (by decide))
        have regrouped :
            value * 10 ^ (scale + 1) = value * 10 * 10 ^ scale := by
          ring
        rw [pow10From, regrouped]
        by_cases next : Fits 128 (value * 10)
        · rw [checkedI128_of_fits next]
          exact inductionHypothesis positive next
        · have whole : ¬ Fits 128 (value * 10 * 10 ^ scale) :=
            fun fits => next (fits_of_le positive grows fits)
          rw [checkedI128_of_not_fits next, checkedI128_of_not_fits whole]
          rfl
  rw [pow10, from_eq zero_le_one (by decide), one_mul]

/-- A power of ten is exact, or an error. -/
theorem meets_pow10 (scale : Nat) :
    Meets (fun power => power = 10 ^ scale) (pow10 scale) := by
  rw [pow10_eq]
  exact (meets_checkedI128 _).imp fun _ exactly => exactly.1

/-- A value that can be padded is. -/
theorem alignValue_of_pads
    {decimal : FixedDecimal}
    {scale : Nat}
    (pads : decimal.Pads scale) :
    alignValue decimal scale = .ok (decimal.padded scale) := by
  rw [alignValue, if_neg (not_lt.mpr pads.within), pow10_eq,
    checkedI128_of_fits pads.power]
  exact checkedI128_of_fits pads.value

/-- A value that cannot be padded is an error. -/
theorem alignValue_of_not_pads
    {decimal : FixedDecimal}
    {scale : Nat}
    (stuck : ¬ decimal.Pads scale) :
    alignValue decimal scale = .error (.returned .scaleOverflow) := by
  unfold alignValue
  split_ifs with below
  · rfl
  · rw [pow10_eq]
    by_cases power : Fits 128 (10 ^ (scale - decimal.scale))
    · rw [checkedI128_of_fits power]
      have value : ¬ Fits 128 (decimal.padded scale) :=
        fun value => stuck ⟨not_lt.mp below, power, value⟩
      exact checkedI128_of_not_fits value
    · rw [checkedI128_of_not_fits power]
      rfl

/-- A value is aligned just if it can be padded. -/
theorem alignValue_eq_ok
    {decimal : FixedDecimal}
    {scale : Nat}
    {value : Int} :
    alignValue decimal scale = .ok value ↔
      decimal.Pads scale ∧ decimal.padded scale = value := by
  by_cases pads : decimal.Pads scale
  · rw [alignValue_of_pads pads]
    simp [pads]
  · rw [alignValue_of_not_pads pads]
    simp [pads]

end Powers

namespace FixedDecimal

section Numbers

/-- A number from its padded value. -/
theorem toRat_eq_padded
    {decimal : FixedDecimal}
    {scale : Nat}
    (within : decimal.scale ≤ scale) :
    decimal.toRat = (decimal.padded scale : ℚ) / 10 ^ scale := by
  have nonzero : (10 : ℚ) ^ scale ≠ 0 := by positivity
  rw [eq_div_iff nonzero, decimal.toRat_mul_pow within]

/-- A number has one value at a scale. -/
theorem toRat_eq_div_iff
    {value wanted : Int}
    {scale : Nat} :
    toRat { value := value, scale := scale } = (wanted : ℚ) / 10 ^ scale ↔
      value = wanted := by
  have nonzero : (10 : ℚ) ^ scale ≠ 0 := by positivity
  rw [toRat, div_left_inj' nonzero, Int.cast_inj]

/-- A decimal is not negative just if its number is not. -/
theorem value_nonneg_iff
    {decimal : FixedDecimal} :
    0 ≤ decimal.value ↔ 0 ≤ decimal.toRat := by
  have positive : (0 : ℚ) < 10 ^ decimal.scale := by positivity
  rw [toRat, le_div_iff₀ positive, zero_mul, Int.cast_nonneg_iff]

/-- A decimal is zero just if its number is. -/
theorem value_eq_zero_iff
    {decimal : FixedDecimal} :
    decimal.value = 0 ↔ decimal.toRat = 0 := by
  have nonzero : (10 : ℚ) ^ decimal.scale ≠ 0 := by positivity
  rw [toRat, div_eq_zero_iff, or_iff_left nonzero, Int.cast_eq_zero]

/-- A padded decimal keeps its sign. -/
theorem padded_nonneg
    {decimal : FixedDecimal}
    (nonneg : 0 ≤ decimal.value)
    (scale : Nat) :
    0 ≤ decimal.padded scale :=
  mul_nonneg nonneg (by positivity)

/-- The decimal is a number that was cut to a scale. -/
structure IsTruncated
    (number : ℚ)
    (scale : Nat)
    (decimal : FixedDecimal) : Prop where
  sameScale : decimal.scale = scale
  cut : decimal.value = truncate (number * 10 ^ scale)

/-- A number that is a fraction of integers at the scale is cut by dividing
these. -/
theorem isTruncated_tdiv
    {number : ℚ}
    {scale : Nat}
    {numerator denominator : Int}
    (fraction : number * 10 ^ scale = numerator / denominator) :
    IsTruncated number scale
      { value := numerator.tdiv denominator, scale := scale } where
  sameScale := rfl
  cut := by rw [fraction, truncate_intCast_div]

/-- A number that is an integer at the scale is not cut. -/
theorem isTruncated_intCast
    {number : ℚ}
    {scale : Nat}
    {value : Int}
    (whole : number * 10 ^ scale = value) :
    IsTruncated number scale { value := value, scale := scale } where
  sameScale := rfl
  cut := by rw [whole, truncate_intCast]

end Numbers

section Combine

variable
  {overflowChecks : Bool}
  {combine : Int → Int → Int}
  {left right : FixedDecimal}

/-- The values of two decimals, combined at the greater scale. -/
def combinedValue
    (combine : Int → Int → Int)
    (left right : FixedDecimal) : Int :=
  combine (left.padded (max left.scale right.scale))
    (right.padded (max left.scale right.scale))

/-- If both decimals can be padded, their combination fits. -/
def CombinationFits
    (combine : Int → Int → Int)
    (left right : FixedDecimal) : Prop :=
  left.Pads (max left.scale right.scale) →
    right.Pads (max left.scale right.scale) →
    Fits 128 (combinedValue combine left right)

/-- Two decimals are combined exactly just if their combination fits. -/
theorem meets_combineAligned_iff
    {spec : FixedDecimal → Prop}
    (exactly :
      ∀ value,
        spec { value := value, scale := max left.scale right.scale } ↔
          value = combinedValue combine left right) :
    Meets spec (combineAligned overflowChecks combine left right) ↔
      CombinationFits combine left right := by
  unfold combineAligned CombinationFits
  by_cases leftPads : left.Pads (max left.scale right.scale)
  · by_cases rightPads : right.Pads (max left.scale right.scale)
    · simp only [alignValue_of_pads leftPads, alignValue_of_pads rightPads,
        leftPads, rightPads, true_imp_iff]
      refine meets_map_iff.trans ?_
      simp only [exactly]
      exact meets_unchecked_iff (by decide)
    · simp only [alignValue_of_pads leftPads,
        alignValue_of_not_pads rightPads, rightPads, false_imp_iff,
        imp_true_iff, iff_true]
      exact .returned _
  · simp only [alignValue_of_not_pads leftPads, leftPads, false_imp_iff,
      iff_true]
    exact .returned _

/-- A sum is exact, or an error, just if the padded sum fits. -/
theorem meets_checkedAdd_iff :
    Meets (fun result => result.toRat = left.toRat + right.toRat)
        (checkedAdd overflowChecks left right) ↔
      CombinationFits (fun first second => first + second) left right := by
  apply meets_combineAligned_iff
  intro value
  rw [toRat_eq_padded (le_max_left left.scale right.scale),
    toRat_eq_padded (le_max_right left.scale right.scale), ← add_div,
    ← Int.cast_add, toRat_eq_div_iff]
  rfl

/-- A difference is exact, or an error, just if the padded difference fits. -/
theorem meets_checkedSub_iff :
    Meets (fun result => result.toRat = left.toRat - right.toRat)
        (checkedSub overflowChecks left right) ↔
      CombinationFits (fun first second => first - second) left right := by
  apply meets_combineAligned_iff
  intro value
  rw [toRat_eq_padded (le_max_left left.scale right.scale),
    toRat_eq_padded (le_max_right left.scale right.scale), ← sub_div,
    ← Int.cast_sub, toRat_eq_div_iff]
  rfl

/-- Decimals whose combination fits are combined just if both can be padded. -/
theorem combineAligned_eq_ok
    {result : FixedDecimal}
    (fits : CombinationFits combine left right) :
    combineAligned overflowChecks combine left right = .ok result ↔
      left.Pads (max left.scale right.scale) ∧
        right.Pads (max left.scale right.scale) ∧
        { value := combinedValue combine left right
          scale := max left.scale right.scale } = result := by
  unfold combineAligned
  simp only [bind_eq_ok, alignValue_eq_ok]
  constructor
  · rintro ⟨_, ⟨leftPads, rfl⟩, _, ⟨rightPads, rfl⟩, value, adds, computes⟩
    obtain rfl :=
      Except.ok.inj
        ((unchecked_of_fits (fits leftPads rightPads)).symm.trans adds)
    exact ⟨leftPads, rightPads, Except.ok.inj computes⟩
  · rintro ⟨leftPads, rightPads, rfl⟩
    exact ⟨_, ⟨leftPads, rfl⟩, _, ⟨rightPads, rfl⟩, _,
      unchecked_of_fits (fits leftPads rightPads), rfl⟩

/-- A sum has the same value the other way round. -/
theorem combinedValue_add_comm
    (left right : FixedDecimal) :
    combinedValue (fun first second => first + second) right left =
      combinedValue (fun first second => first + second) left right := by
  rw [combinedValue, combinedValue, max_comm, add_comm]

/-- A difference has the negated value the other way round. -/
theorem combinedValue_sub_swap
    (left right : FixedDecimal) :
    combinedValue (fun first second => first - second) right left =
      -combinedValue (fun first second => first - second) left right := by
  rw [combinedValue, combinedValue, max_comm, neg_sub]

/-- A difference of decimals that are not negative fits. -/
theorem difference_fits
    (leftNonneg : 0 ≤ left.value)
    (rightNonneg : 0 ≤ right.value) :
    CombinationFits (fun first second => first - second) left right := by
  intro leftPads rightPads
  have leftFits := leftPads.value
  have rightFits := rightPads.value
  have leftSign := padded_nonneg leftNonneg (max left.scale right.scale)
  have rightSign := padded_nonneg rightNonneg (max left.scale right.scale)
  unfold Fits at *
  dsimp only [combinedValue]
  omega

end Combine

section Quotients

/-- What is no multiple of ten was not scaled by a power of ten. -/
private theorem exponent_eq_zero
    {value bound : Int}
    {exponent : Nat}
    (same : value * 10 ^ exponent = bound)
    (odd : bound % 10 ≠ 0) :
    exponent = 0 := by
  cases exponent with
  | zero =>
      rfl
  | succ exponent =>
      refine absurd ?_ odd
      rw [← same, pow_succ, ← mul_assoc]
      exact Int.mul_emod_left _ 10

/-- The quotient of the least value at scale zero and -1 at scale zero. -/
def NegatesLeast
    (left right : FixedDecimal)
    (outputScale : Nat) : Prop :=
  left = { value := i128Min, scale := 0 } ∧
    right = { value := -1, scale := 0 } ∧
    outputScale = 0

variable
  {left right : FixedDecimal}
  {outputScale : Nat}

/-- The two scaled values of a quotient that panics. -/
private theorem negatesLeast_of_scaled
    (least :
      left.value * 10 ^ right.scale * 10 ^ outputScale = -2 ^ 127)
    (negates : right.value * 10 ^ left.scale = -1) :
    NegatesLeast left right outputScale := by
  obtain ⟨leftValue, leftScale⟩ := left
  obtain ⟨rightValue, rightScale⟩ := right
  obtain rfl : leftScale = 0 := exponent_eq_zero negates (by decide)
  obtain rfl : outputScale = 0 := exponent_eq_zero least (by decide)
  rw [pow_zero, mul_one] at least negates
  obtain rfl : rightScale = 0 := exponent_eq_zero least (by decide)
  rw [pow_zero, mul_one] at least
  simp only at least negates
  exact ⟨by rw [least]; rfl, by rw [negates], rfl⟩

/-- A quotient is cut, or an error, but for one pair of decimals. -/
theorem meets_divToScale_iff :
    Meets (IsTruncated (left.toRat / right.toRat) outputScale)
        (divToScale left right outputScale) ↔
      ¬ NegatesLeast left right outputScale := by
  constructor
  · rintro meets ⟨rfl, rfl, rfl⟩
    exact not_meets_panicked meets
  · intro divides
    unfold divToScale
    split_ifs with zero
    · exact .returned _
    · apply (meets_pow10 _).bind
      rintro _ rfl
      apply (meets_checkedI128 _).bind
      rintro _ ⟨rfl, -⟩
      apply (meets_pow10 _).bind
      rintro _ rfl
      apply (meets_checkedI128 _).bind
      rintro _ ⟨rfl, numeratorFits⟩
      apply (meets_pow10 _).bind
      rintro _ rfl
      apply (meets_checkedI128 _).bind
      rintro _ ⟨rfl, -⟩
      have nonzero : right.value * 10 ^ left.scale ≠ 0 :=
        mul_ne_zero zero (by positivity)
      have quotientFits :=
        (fits_tdiv_iff numeratorFits nonzero).mpr fun both =>
          divides (negatesLeast_of_scaled both.1 both.2)
      rw [divide_of_fits nonzero quotientFits]
      refine .ok (isTruncated_tdiv ?_)
      push_cast
      rw [toRat, toRat]
      field_simp

/-- Scaling up does not lead to the least value. -/
private theorem fits_neg_mul_pow
    {value : Int}
    {exponent : Nat}
    (fits : Fits 128 (value * 10 ^ exponent))
    (negFits : Fits 128 (-value)) :
    Fits 128 (-value * 10 ^ exponent) := by
  cases exponent with
  | zero =>
      rwa [pow_zero, mul_one]
  | succ exponent =>
      rw [pow_succ, ← mul_assoc] at fits ⊢
      rw [neg_mul]
      unfold Fits at fits ⊢
      generalize value * 10 ^ exponent = scaled at fits ⊢
      omega

/-- The quotient of a negated decimal is negated. -/
theorem divToScale_neg
    {result : FixedDecimal}
    (negFits : Fits 128 (-left.value))
    (divides : divToScale left right outputScale = .ok result) :
    divToScale { value := -left.value, scale := left.scale } right
        outputScale =
      .ok { value := -result.value, scale := result.scale } := by
  unfold divToScale at divides ⊢
  split_ifs at divides ⊢ with zero
  obtain ⟨rightPower, raisesRight, divides⟩ := bind_eq_ok.mp divides
  obtain ⟨scaled, scales, divides⟩ := bind_eq_ok.mp divides
  obtain ⟨outputPower, raisesOutput, divides⟩ := bind_eq_ok.mp divides
  obtain ⟨numerator, multiplies, divides⟩ := bind_eq_ok.mp divides
  obtain ⟨leftPower, raisesLeft, divides⟩ := bind_eq_ok.mp divides
  obtain ⟨denominator, aligns, divides⟩ := bind_eq_ok.mp divides
  obtain ⟨quotient, quotients, divides⟩ := bind_eq_ok.mp divides
  obtain rfl := (meets_pow10 _).of_ok raisesRight
  obtain rfl := (meets_pow10 _).of_ok raisesOutput
  obtain ⟨scaledFits, rfl⟩ := checked_eq_ok.mp scales
  obtain ⟨numeratorFits, rfl⟩ := checked_eq_ok.mp multiplies
  obtain ⟨nonzero, -, rfl⟩ := divide_eq_ok.mp quotients
  obtain rfl := Except.ok.inj divides
  have negScaled := fits_neg_mul_pow scaledFits negFits
  have negNumerator :
      Fits 128 (-left.value * 10 ^ right.scale * 10 ^ outputScale) := by
    rw [neg_mul]
    exact fits_neg_mul_pow numeratorFits (by rwa [← neg_mul])
  have negQuotient :=
    (fits_tdiv_iff negNumerator nonzero).mpr (by
      rintro ⟨least, -⟩
      rw [neg_mul, neg_mul] at least
      unfold Fits at numeratorFits
      omega)
  refine bind_eq_ok.mpr ⟨_, raisesRight, ?_⟩
  refine bind_eq_ok.mpr ⟨_, checkedI128_of_fits negScaled, ?_⟩
  refine bind_eq_ok.mpr ⟨_, raisesOutput, ?_⟩
  refine bind_eq_ok.mpr ⟨_, checkedI128_of_fits negNumerator, ?_⟩
  refine bind_eq_ok.mpr ⟨_, raisesLeft, ?_⟩
  refine bind_eq_ok.mpr ⟨_, aligns, ?_⟩
  refine bind_eq_ok.mpr ⟨_, divide_of_fits nonzero negQuotient, ?_⟩
  rw [neg_mul, neg_mul, Int.neg_tdiv]
  rfl

/-- A part of a decimal is cut, or an error. -/
theorem meets_mulBps
    (decimal : FixedDecimal)
    (bps : Bps) :
    Meets
      (IsTruncated (decimal.toRat * bps.value / 10000) decimal.scale)
      (decimal.mulBps bps) := by
  unfold mulBps
  apply (meets_checkedI128 _).bind
  rintro _ ⟨rfl, fits⟩
  rw [divide_of_pos fits (by decide)]
  refine .ok (isTruncated_tdiv ?_)
  push_cast
  rw [toRat]
  field_simp

/-- A product is cut, or an error. -/
theorem meets_mulToScale
    (left right : FixedDecimal)
    (outputScale : Nat) :
    Meets (IsTruncated (left.toRat * right.toRat) outputScale)
      (left.mulToScale right outputScale) := by
  unfold mulToScale
  apply (meets_checkedI128 _).bind
  rintro _ ⟨rfl, productFits⟩
  dsimp only
  split_ifs with large grows
  · exact .returned _
  · apply (meets_pow10 _).bind
    rintro _ rfl
    apply (meets_checkedI128 _).bind
    rintro _ ⟨rfl, -⟩
    refine .ok (isTruncated_intCast ?_)
    obtain ⟨more, rfl⟩ := Nat.exists_eq_add_of_le grows
    rw [Nat.add_sub_cancel_left, toRat, toRat]
    push_cast
    field_simp
    ring
  · apply (meets_pow10 _).bind
    rintro _ rfl
    rw [divide_of_pos productFits (by positivity)]
    refine .ok (isTruncated_tdiv ?_)
    obtain ⟨more, whole⟩ := Nat.exists_eq_add_of_le (not_le.mp grows).le
    rw [whole, Nat.add_sub_cancel_left, toRat, toRat]
    push_cast
    have powers :
        (10 : ℚ) ^ left.scale * 10 ^ right.scale =
          10 ^ outputScale * 10 ^ more := by
      rw [← pow_add, whole, pow_add]
    field_simp
    linear_combination
      -((left.value : ℚ) * right.value) * powers

/-- A decimal without its sign is exact, or an error. -/
theorem meets_abs
    (decimal : FixedDecimal) :
    Meets (fun result => result.toRat = |decimal.toRat|) decimal.abs := by
  unfold FixedDecimal.abs
  apply (meets_checkedI128 _).bind
  rintro _ ⟨rfl, -⟩
  refine .ok ?_
  have positive : (0 : ℚ) < 10 ^ decimal.scale := by positivity
  rw [toRat, toRat, abs_div, abs_of_pos positive, Int.cast_abs]

end Quotients

section Operations

/-- An operation with its operands. -/
inductive Operation where
  | checkedAdd (left right : FixedDecimal)
  | checkedSub (left right : FixedDecimal)
  | divToScale (left right : FixedDecimal) (outputScale : Nat)
  | mulBps (decimal : FixedDecimal) (bps : Bps)
  | mulToScale (left right : FixedDecimal) (outputScale : Nat)
  | abs (decimal : FixedDecimal)
  deriving Repr, DecidableEq

namespace Operation

/-- Perform an operation. -/
def perform
    (overflowChecks : Bool) :
    Operation → Computed DomainError FixedDecimal
  | checkedAdd left right => left.checkedAdd overflowChecks right
  | checkedSub left right => left.checkedSub overflowChecks right
  | divToScale left right outputScale => left.divToScale right outputScale
  | mulBps decimal bps => decimal.mulBps bps
  | mulToScale left right outputScale => left.mulToScale right outputScale
  | abs decimal => decimal.abs

/-- The result is the number that the operation stands for, cut to the output
scale where the operation has one. -/
def IsExact : Operation → FixedDecimal → Prop
  | checkedAdd left right, result =>
      result.toRat = left.toRat + right.toRat
  | checkedSub left right, result =>
      result.toRat = left.toRat - right.toRat
  | divToScale left right outputScale, result =>
      IsTruncated (left.toRat / right.toRat) outputScale result
  | mulBps decimal bps, result =>
      IsTruncated (decimal.toRat * bps.value / 10000) decimal.scale result
  | mulToScale left right outputScale, result =>
      IsTruncated (left.toRat * right.toRat) outputScale result
  | abs decimal, result => result.toRat = |decimal.toRat|

/-- The operands do not lead to an unchecked result that does not fit. -/
def StaysInWidth : Operation → Prop
  | checkedAdd left right =>
      CombinationFits (fun first second => first + second) left right
  | checkedSub left right =>
      CombinationFits (fun first second => first - second) left right
  | divToScale left right outputScale =>
      ¬ NegatesLeast left right outputScale
  | mulBps _ _ => True
  | mulToScale _ _ _ => True
  | abs _ => True

end Operation

/-- An operation is exact, or returns an error, just if its unchecked steps stay
in the width of the integers. -/
theorem operation_meets_iff
    (overflowChecks : Bool)
    (operation : Operation) :
    Meets operation.IsExact (operation.perform overflowChecks) ↔
      operation.StaysInWidth := by
  cases operation with
  | checkedAdd left right =>
      exact meets_checkedAdd_iff
  | checkedSub left right =>
      exact meets_checkedSub_iff
  | divToScale left right outputScale =>
      exact meets_divToScale_iff
  | mulBps decimal bps =>
      exact iff_true_intro (meets_mulBps decimal bps)
  | mulToScale left right outputScale =>
      exact iff_true_intro (meets_mulToScale left right outputScale)
  | abs decimal =>
      exact iff_true_intro (meets_abs decimal)

/-- One more than the greatest value wraps to the least one, or panics. -/
theorem greatestPlusOne_not_exact :
    let operation : Operation :=
      .checkedAdd { value := i128Max, scale := 0 } { value := 1, scale := 0 }
    operation.perform false = .ok { value := i128Min, scale := 0 } ∧
      operation.perform true = .error .panicked ∧
      ∀ overflowChecks,
        ¬ Meets operation.IsExact (operation.perform overflowChecks) := by
  refine ⟨rfl, rfl, fun overflowChecks meets => ?_⟩
  have fits := meets_checkedAdd_iff.mp meets ⟨by decide, by decide, by decide⟩
    ⟨by decide, by decide, by decide⟩
  exact absurd fits (by decide)

end Operations

end FixedDecimal

end MarketIngest.MarketData
