import Mathlib.Algebra.Order.Floor.Ring
import Mathlib.Algebra.Order.Field.Basic
import Mathlib.Tactic.FieldSimp
import Mathlib.Tactic.Linarith
import Mathlib.Tactic.Positivity
import Mathlib.Tactic.Ring

namespace MarketIngest.Truncation

/-!
# Rounding toward zero

A number of an ordered field is cut toward zero to an integer.  The quotient of
machine integers is such a cut.  Cutting twice is cutting once, and a ceiling
that is taken after a cut is too small just above the whole numbers.
-/

variable
  {Number : Type}
  [Field Number]
  [LinearOrder Number]
  [FloorRing Number]

/-- The integer part of a number, toward zero. -/
def truncate (number : Number) : Int :=
  if 0 ≤ number then ⌊number⌋ else ⌈number⌉

/-- A number that is not negative is rounded down. -/
theorem truncate_of_nonneg
    {number : Number}
    (nonneg : 0 ≤ number) :
    truncate number = ⌊number⌋ :=
  if_pos nonneg

variable [IsStrictOrderedRing Number]

/-- Nothing is left of nothing. -/
@[simp] theorem truncate_zero :
    truncate (0 : Number) = 0 := by
  rw [truncate_of_nonneg le_rfl, Int.floor_zero]

/-- An integer is its own integer part. -/
@[simp] theorem truncate_intCast
    (number : Int) :
    truncate (number : Number) = number := by
  unfold truncate
  split_ifs
  · exact Int.floor_intCast number
  · exact Int.ceil_intCast number

/-- Both signs are rounded alike. -/
theorem truncate_neg
    (number : Number) :
    truncate (-number) = -truncate number := by
  unfold truncate
  rcases lt_trichotomy number 0 with negative | rfl | positive
  · rw [if_pos (neg_nonneg.mpr negative.le), if_neg (not_le.mpr negative),
      Int.floor_neg]
  · simp
  · rw [if_neg (not_le.mpr (neg_neg_of_pos positive)), if_pos positive.le,
      Int.ceil_neg]

/-- The quotient of two integers is rounded toward zero. -/
theorem truncate_intCast_div
    (numerator denominator : Int) :
    truncate ((numerator : Number) / denominator) =
      numerator.tdiv denominator := by
  have natural (first second : Nat) :
      truncate ((first : Number) / second) =
        (first : Int).tdiv second := by
    rw [truncate_of_nonneg (by positivity), Int.floor_div_natCast,
      Int.floor_natCast, Int.tdiv_eq_ediv_of_nonneg first.cast_nonneg]
  rcases Int.eq_nat_or_neg numerator with ⟨first, rfl | rfl⟩ <;>
    rcases Int.eq_nat_or_neg denominator with ⟨second, rfl | rfl⟩
  · simpa using natural first second
  · simpa [div_neg, truncate_neg] using natural first second
  · simpa [neg_div, truncate_neg] using natural first second
  · simpa [neg_div_neg_eq] using natural first second

/-- Cutting a quotient of a cut number is cutting once. -/
theorem truncate_div_natCast
    (number : Number)
    (divisor : Nat) :
    truncate ((truncate number : Number) / divisor) =
      truncate (number / divisor) := by
  have nonnegative
      {part : Number}
      (nonneg : 0 ≤ part) :
      truncate ((truncate part : Number) / divisor) =
        truncate (part / divisor) := by
    have whole : (0 : Number) ≤ (⌊part⌋ : Number) :=
      Int.cast_nonneg (Int.floor_nonneg.mpr nonneg)
    rw [truncate_of_nonneg nonneg, truncate_of_nonneg (by positivity),
      truncate_of_nonneg (by positivity), Int.floor_div_natCast,
      Int.floor_div_natCast, Int.floor_intCast]
  rcases le_total 0 number with nonneg | nonpos
  · exact nonnegative nonneg
  · have other := nonnegative (neg_nonneg.mpr nonpos)
    rw [truncate_neg, neg_div, truncate_neg, Int.cast_neg, neg_div,
      truncate_neg] at other
    exact neg_inj.mp other

/-- A bound of a number bounds its integer part. -/
theorem abs_truncate_le
    {number : Number}
    {bound : Int}
    (within : |number| ≤ bound) :
    |truncate number| ≤ bound := by
  have nonnegative
      {part : Number}
      (nonneg : 0 ≤ part)
      (below : |part| ≤ bound) :
      |truncate part| ≤ bound := by
    rw [abs_of_nonneg nonneg] at below
    rw [truncate_of_nonneg nonneg,
      abs_of_nonneg (Int.floor_nonneg.mpr nonneg)]
    exact Int.cast_le.mp ((Int.floor_le part).trans below)
  rcases le_total 0 number with nonneg | nonpos
  · exact nonnegative nonneg within
  · have other :=
      nonnegative (neg_nonneg.mpr nonpos) (by rwa [abs_neg])
    rwa [truncate_neg, abs_neg] at other

/-- The number lies above a whole multiple by less than one. -/
def JustAbove (divisor : Nat) (number : Number) : Prop :=
  ∃ multiple : Int,
    divisor * multiple < number ∧ number < divisor * multiple + 1

/-- A ceiling after a cut is the ceiling, unless the cut meets a multiple. -/
theorem ceil_floor_div_eq_iff
    {divisor : Nat}
    (positive : 0 < divisor)
    (number : Number) :
    ⌈(⌊number⌋ : Number) / divisor⌉ = ⌈number / divisor⌉ ↔
      ¬ JustAbove divisor number := by
  have divides : (0 : Number) < divisor := Nat.cast_pos.mpr positive
  constructor
  · rintro same ⟨multiple, above, below⟩
    have whole : ⌊number⌋ = divisor * multiple := by
      rw [Int.floor_eq_iff]
      push_cast
      exact ⟨above.le, below⟩
    have exactly : (⌊number⌋ : Number) / divisor = multiple := by
      rw [whole]
      push_cast
      field_simp
    rw [exactly, Int.ceil_intCast] at same
    have least := Int.le_ceil (number / divisor)
    rw [← same, div_le_iff₀ divides, mul_comm] at least
    exact not_lt.mpr least above
  · intro notAbove
    apply le_antisymm
    · apply Int.ceil_mono
      gcongr
      exact Int.floor_le number
    · rw [Int.ceil_le, div_le_iff₀ divides]
      set least := ⌈(⌊number⌋ : Number) / divisor⌉
      have cut : (⌊number⌋ : Number) ≤ least * divisor := by
        rw [← div_le_iff₀ divides]
        exact Int.le_ceil _
      have cut' : ⌊number⌋ ≤ least * divisor := by
        exact_mod_cast cut
      by_contra above
      have large : (divisor : Number) * least < number := by
        rw [mul_comm]
        exact not_le.mp above
      refine notAbove ⟨least, large, ?_⟩
      calc
        number < ⌊number⌋ + 1 := Int.lt_floor_add_one number
        _ ≤ least * divisor + 1 := by gcongr
        _ = divisor * least + 1 := by ring

end MarketIngest.Truncation
