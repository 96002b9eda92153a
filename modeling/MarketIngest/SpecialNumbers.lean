import MarketIngest.NumberFormat
import Mathlib.Algebra.Order.Round
import Mathlib.Data.Int.Log
import Mathlib.Data.Rat.Floor
import Mathlib.Tactic.Linarith

namespace MarketIngest

/-!
# Numbers with special values

A floating-point number is finite, infinite or not a number.  Exact results are
rounded, and those that are too large overflow to an infinite number.  A
comparison with something that is not a number is false.  The two zeros are one.
-/

/-- How exact results are rounded; no result means an overflow. -/
structure Rounding where
  round : ℚ → Option ℚ
  two : round 2 = some 2
  half :
    ∀ value rounded,
      round value = some rounded → (round (rounded / 2)).isSome

section DoublePrecision

/-- The nearest integer, and the even one of two that are as near. -/
def roundHalfEven (value : ℚ) : Int :=
  let below := ⌊value⌋
  let rest := value - below
  if rest < 1 / 2 ∨ rest = 1 / 2 ∧ below % 2 = 0 then below else below + 1

/-- Rounding stays below an integer. -/
theorem roundHalfEven_le
    {value : ℚ}
    {bound : Int}
    (below : value ≤ bound) :
    roundHalfEven value ≤ bound := by
  have floorBelow : ⌊value⌋ ≤ bound := by
    have := Int.floor_le value
    exact_mod_cast this.trans below
  unfold roundHalfEven
  simp only
  split_ifs with near
  · exact floorBelow
  · by_contra above
    have isBound : ⌊value⌋ = bound := by omega
    refine near (.inl ?_)
    rw [isBound]
    linarith

/-- Rounding stays above an integer. -/
theorem le_roundHalfEven
    {value : ℚ}
    {bound : Int}
    (above : (bound : ℚ) ≤ value) :
    bound ≤ roundHalfEven value := by
  have floorAbove : bound ≤ ⌊value⌋ := Int.le_floor.mpr above
  unfold roundHalfEven
  simp only
  split_ifs <;> omega

/-- Integers are not rounded. -/
theorem roundHalfEven_intCast (value : Int) :
    roundHalfEven value = value :=
  le_antisymm (roundHalfEven_le (le_refl _)) (le_roundHalfEven (le_refl _))

/-- The exponent of the last place of a double-precision number. -/
def lastPlace64 (value : ℚ) : Int :=
  max (Int.log 2 |value| - 52) (-1074)

/-- Round to 53 binary places. -/
def round64 (value : ℚ) : Option ℚ :=
  let unit : ℚ := 2 ^ lastPlace64 value
  let rounded := roundHalfEven (value / unit) * unit
  if |rounded| < 2 ^ 1024 then some rounded else none

/-- What is rounded is below the limit. -/
theorem lt_of_round64
    {value rounded : ℚ}
    (isRounded : round64 value = some rounded) :
    |rounded| < 2 ^ 1024 := by
  unfold round64 at isRounded
  simp only at isRounded
  split_ifs at isRounded with small
  exact Option.some.inj isRounded ▸ small

/-- Numbers below half the limit do not overflow. -/
theorem round64_isSome
    {value : ℚ}
    (small : |value| < 2 ^ 1023) :
    (round64 value).isSome := by
  have place : lastPlace64 value ≤ 970 := by
    have magnitude : Int.log 2 |value| < 1023 := by
      by_cases isZero : value = 0
      · rw [isZero, abs_zero, Int.log_of_right_le_zero _ (le_refl 0)]
        decide
      · refine (Int.lt_zpow_iff_log_lt (by decide)
          (abs_pos.mpr isZero)).mp ?_
        exact_mod_cast small
    unfold lastPlace64
    omega
  have unitPositive : (0 : ℚ) < 2 ^ lastPlace64 value :=
    zpow_pos (by norm_num) _
  obtain ⟨places, isPlaces⟩ :
      ∃ places : Nat, (places : Int) = 1023 - lastPlace64 value :=
    ⟨(1023 - lastPlace64 value).toNat, by omega⟩
  have whole :
      ((2 ^ places : Int) : ℚ) * 2 ^ lastPlace64 value = 2 ^ 1023 := by
    have exponents : (places : Int) + lastPlace64 value = (1023 : Nat) := by
      omega
    rw [Int.cast_pow, Int.cast_ofNat, ← zpow_natCast,
      ← zpow_add₀ (by decide), exponents, zpow_natCast]
  obtain ⟨above, below⟩ := abs_le.mp small.le
  have upper :
      roundHalfEven (value / 2 ^ lastPlace64 value) ≤ 2 ^ places := by
    apply roundHalfEven_le
    rw [div_le_iff₀ unitPositive, whole]
    exact below
  have lower :
      -(2 ^ places) ≤ roundHalfEven (value / 2 ^ lastPlace64 value) := by
    apply le_roundHalfEven
    rw [le_div_iff₀ unitPositive, Int.cast_neg, neg_mul, whole]
    exact above
  have bounded :
      |(roundHalfEven (value / 2 ^ lastPlace64 value) : ℚ) *
          2 ^ lastPlace64 value| < 2 ^ 1024 := by
    calc |(roundHalfEven (value / 2 ^ lastPlace64 value) : ℚ) *
            2 ^ lastPlace64 value|
        = |(roundHalfEven (value / 2 ^ lastPlace64 value) : ℚ)| *
            2 ^ lastPlace64 value := by
          rw [abs_mul, abs_of_pos unitPositive]
      _ ≤ ((2 ^ places : Int) : ℚ) * 2 ^ lastPlace64 value := by
          refine mul_le_mul_of_nonneg_right ?_ unitPositive.le
          exact_mod_cast abs_le.mpr ⟨lower, upper⟩
      _ = 2 ^ 1023 := whole
      _ < 2 ^ 1024 := pow_lt_pow_right₀ (by norm_num) (by decide)
  unfold round64
  simp only
  rw [if_pos bounded]
  rfl

/-- The rounding of double-precision numbers. -/
def binary64 : Rounding where
  round := round64
  two := by
    have place : lastPlace64 2 = -51 := by
      have magnitude : Int.log 2 |(2 : ℚ)| = 1 := by
        have isPower : |(2 : ℚ)| = ((2 : Nat) : ℚ) ^ (1 : Int) := by
          norm_num
        rw [isPower, Int.log_zpow (by decide)]
      rw [lastPlace64, magnitude]
      decide
    have scaled : (2 : ℚ) / 2 ^ (-51 : Int) = ((2 ^ 52 : Int) : ℚ) := by
      norm_num
    unfold round64
    simp only
    rw [place, scaled, roundHalfEven_intCast, ← scaled,
      div_mul_cancel₀ _ (by norm_num), abs_two, if_pos]
    exact lt_self_pow₀ (by norm_num) (by decide)
  half := by
    intro value rounded isRounded
    apply round64_isSome
    rw [abs_div, abs_two, div_lt_iff₀ (by norm_num)]
    exact (lt_of_round64 isRounded).trans_eq (pow_succ 2 1023)

end DoublePrecision

/-- A floating-point number. -/
inductive SpecialNumber (rounding : Rounding) where
  | finite (value : ℚ)
  | infinite (negative : Bool)
  | nan
  deriving DecidableEq

namespace SpecialNumber

variable {rounding : Rounding}

/-- The number that an exact result becomes. -/
def ofExact (value : ℚ) : SpecialNumber rounding :=
  match rounding.round value with
  | some rounded => finite rounded
  | none => infinite (decide (value < 0))

/-- The number with the other sign. -/
def negate : SpecialNumber rounding → SpecialNumber rounding
  | finite value => finite (-value)
  | infinite negative => infinite !negative
  | nan => nan

/-- The sum; opposite infinite numbers have none. -/
def add : SpecialNumber rounding → SpecialNumber rounding →
    SpecialNumber rounding
  | finite left, finite right => ofExact (left + right)
  | infinite left, infinite right =>
      if left = right then infinite left else nan
  | infinite left, finite _ => infinite left
  | finite _, infinite right => infinite right
  | nan, _ => nan
  | _, nan => nan

/-- The product; zero and infinite numbers have none. -/
def mul : SpecialNumber rounding → SpecialNumber rounding →
    SpecialNumber rounding
  | finite left, finite right => ofExact (left * right)
  | infinite left, infinite right => infinite (left != right)
  | infinite left, finite right =>
      if right = 0 then nan else infinite (left != decide (right < 0))
  | finite left, infinite right =>
      if left = 0 then nan else infinite (decide (left < 0) != right)
  | nan, _ => nan
  | _, nan => nan

/-- The quotient; zeros have none, and neither have infinite numbers. -/
def div : SpecialNumber rounding → SpecialNumber rounding →
    SpecialNumber rounding
  | finite left, finite right =>
      if right ≠ 0 then ofExact (left / right)
      else if left = 0 then nan
      else infinite (decide (left < 0))
  | infinite _, infinite _ => nan
  | infinite left, finite right => infinite (left != decide (right < 0))
  | finite _, infinite _ => finite 0
  | nan, _ => nan
  | _, nan => nan

/-- The first number is smaller; what is not a number compares with none. -/
def lt : SpecialNumber rounding → SpecialNumber rounding → Bool
  | finite left, finite right => left < right
  | finite _, infinite negative => !negative
  | infinite negative, finite _ => negative
  | infinite left, infinite right => left && !right
  | nan, _ => false
  | _, nan => false

/-- The first number is not larger. -/
def le : SpecialNumber rounding → SpecialNumber rounding → Bool
  | finite left, finite right => left ≤ right
  | finite _, infinite negative => !negative
  | infinite negative, finite _ => negative
  | infinite left, infinite right => left || !right
  | nan, _ => false
  | _, nan => false

/-- The number is neither infinite nor missing. -/
def isFinite : SpecialNumber rounding → Bool
  | finite _ => true
  | infinite _ => false
  | nan => false

instance : NumberFormat (SpecialNumber rounding) where
  zero := finite 0
  add := add
  sub := fun left right => add left (negate right)
  mul := mul
  div := div
  lt := fun left right => lt left right = true
  le := fun left right => le left right = true
  ofNat := fun value => ofExact value
  isFinite := isFinite
  decidableLt := fun left right => decEq (lt left right) true
  decidableLe := fun left right => decEq (le left right) true

/-- A finite number that is not at most zero is positive. -/
theorem pos_of_not_le_zero
    {number : SpecialNumber rounding}
    (isFinite : NumberFormat.isFinite number = true)
    (notRefused : ¬ number ≤ 0) :
    0 < number := by
  cases number with
  | finite value =>
      have above : ¬ decide (value ≤ 0) = true := notRefused
      exact decide_eq_true (not_le.mp (by simpa using above))
  | infinite negative => cases isFinite
  | nan => cases isFinite

/-- A finite number that is not below another one is at least the other. -/
theorem le_of_not_lt
    {left right : SpecialNumber rounding}
    (leftFinite : NumberFormat.isFinite left = true)
    (rightFinite : NumberFormat.isFinite right = true)
    (notBelow : ¬ right < left) :
    left ≤ right := by
  cases left with
  | finite low =>
      cases right with
      | finite high =>
          have above : ¬ decide (high < low) = true := notBelow
          exact decide_eq_true (not_lt.mp (by simpa using above))
      | infinite negative => cases rightFinite
      | nan => cases rightFinite
  | infinite negative => cases leftFinite
  | nan => cases leftFinite

/-- Two is a number of every format. -/
theorem ofNat_two :
    (NumberFormat.ofNat 2 : SpecialNumber rounding) = finite 2 := by
  change ofExact ((2 : Nat) : ℚ) = finite 2
  rw [ofExact, Nat.cast_ofNat, rounding.two]

/-- The mean of two finite numbers is finite if their sum is. -/
theorem isFinite_mean_iff
    {left right : SpecialNumber rounding}
    (leftFinite : NumberFormat.isFinite left = true)
    (rightFinite : NumberFormat.isFinite right = true) :
    NumberFormat.isFinite ((left + right) / NumberFormat.ofNat 2) = true ↔
      NumberFormat.isFinite (left + right) = true := by
  rw [ofNat_two]
  cases left with
  | finite low =>
      cases right with
      | finite high =>
          change isFinite (div (ofExact (low + high)) (finite 2)) = true ↔
            isFinite (ofExact (low + high) : SpecialNumber rounding) = true
          unfold ofExact
          cases rounded : rounding.round (low + high) with
          | none => exact Iff.rfl
          | some sum =>
              obtain ⟨half, isHalf⟩ :=
                Option.isSome_iff_exists.mp (rounding.half _ _ rounded)
              simp [div, ofExact, isHalf, isFinite]
      | infinite negative => cases rightFinite
      | nan => cases rightFinite
  | infinite negative => cases leftFinite
  | nan => cases leftFinite

end SpecialNumber

end MarketIngest
