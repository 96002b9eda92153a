import MarketIngest.DecimalArithmetic
import Mathlib.Data.Set.Insert

namespace MarketIngest.MarketData

open MachineInteger

/-!
# The order of decimals

Decimals are the keys of the price levels.  Each pair is compared at its own
common scale, and a padded value that does not fit is replaced by the bound
that it passes.  The order is that of the numbers unless the other value of the
pair is this bound; then different prices are one key.
-/

namespace FixedDecimal

/-- The order of two decimals, or an error. -/
def cmpScaled
    (left right : FixedDecimal) : Computed DomainError Ordering := do
  let scale := max left.scale right.scale
  let leftValue ← alignValue left scale
  let rightValue ← alignValue right scale
  pure (compare leftValue rightValue)

/-- Whether two decimals are in an order, or an error. -/
def checkedIs
    (order : Ordering)
    (left right : FixedDecimal) : Computed DomainError Bool := do
  let found ← cmpScaled left right
  pure (decide (found = order))

/-- The left decimal is greater, or an error. -/
def checkedGt : FixedDecimal → FixedDecimal → Computed DomainError Bool :=
  checkedIs .gt

/-- The left decimal is less, or an error. -/
def checkedLt : FixedDecimal → FixedDecimal → Computed DomainError Bool :=
  checkedIs .lt

/-- The decimals are equal, or an error. -/
def checkedEq : FixedDecimal → FixedDecimal → Computed DomainError Bool :=
  checkedIs .eq

/-- The lesser decimal, the left one of equal ones, or an error. -/
def checkedMin
    (left right : FixedDecimal) : Computed DomainError FixedDecimal := do
  let found ← cmpScaled left right
  pure (if found = .gt then right else left)

end FixedDecimal

section Saturation

/-- The nearest 128-bit integer. -/
def saturate (value : Int) : Int :=
  max i128Min (min i128Max value)

/-- What fits is between the bounds. -/
theorem fits_i128_iff
    {value : Int} :
    Fits 128 value ↔ i128Min ≤ value ∧ value ≤ i128Max := by
  unfold Fits i128Min i128Max
  omega

/-- What fits is its own nearest integer. -/
theorem saturate_of_fits
    {value : Int}
    (fits : Fits 128 value) :
    saturate value = value := by
  obtain ⟨lower, upper⟩ := fits_i128_iff.mp fits
  rw [saturate, min_eq_right upper, max_eq_right lower]

/-- What passes the greatest integer is replaced by it. -/
theorem saturate_of_gt
    {value : Int}
    (above : i128Max < value) :
    saturate value = i128Max := by
  rw [saturate, min_eq_left above.le]
  rfl

/-- What passes the least integer is replaced by it. -/
theorem saturate_of_lt
    {value : Int}
    (below : value < i128Min) :
    saturate value = i128Min := by
  have small : value ≤ i128Max := below.le.trans (by decide)
  rw [saturate, min_eq_right small, max_eq_left below.le]

/-- Saturating at every step is saturating once. -/
theorem saturatingAlign_eq
    {value : Int}
    (fits : Fits 128 value)
    (scaleDelta : Nat) :
    saturatingAlign value scaleDelta = saturate (value * 10 ^ scaleDelta) := by
  induction scaleDelta generalizing value with
  | zero =>
      rw [saturatingAlign, pow_zero, mul_one, saturate_of_fits fits]
  | succ scaleDelta inductionHypothesis =>
      have regrouped :
          value * 10 ^ (scaleDelta + 1) = value * 10 * 10 ^ scaleDelta := by
        ring
      have grows : (1 : Int) ≤ 10 ^ scaleDelta := one_le_pow₀ (by decide)
      rw [saturatingAlign, regrouped]
      split_ifs with next nonneg
      · exact inductionHypothesis (fits_i128_iff.mpr next)
      · have above : i128Max < value * 10 := by
          unfold i128Min at next
          omega
        have positive : 0 ≤ value * 10 := by omega
        exact (saturate_of_gt
          (above.trans_le (le_mul_of_one_le_right positive grows))).symm
      · have below : value * 10 < i128Min := by
          unfold i128Max at next
          omega
        have negative : value * 10 ≤ 0 := by omega
        exact (saturate_of_lt
          ((mul_le_of_one_le_right negative grows).trans_lt below)).symm

/-- The value passes a bound, and this bound is the other value. -/
def MeetsBound (passing other : Int) : Prop :=
  (i128Max < passing ∧ other = i128Max) ∨
    (passing < i128Min ∧ other = i128Min)

/-- A saturated value is compared like the value itself, but for a bound that
it meets. -/
theorem compare_saturate_iff
    {passing other : Int}
    (fits : Fits 128 other) :
    compare (saturate passing) other = compare passing other ↔
      ¬ MeetsBound passing other := by
  obtain ⟨lower, upper⟩ := fits_i128_iff.mp fits
  unfold MeetsBound
  by_cases above : i128Max < passing
  · have notBelow : ¬ passing < i128Min := by
      unfold i128Max at above
      unfold i128Min
      omega
    rw [saturate_of_gt above, compare_gt_iff_gt.mpr (upper.trans_lt above),
      compare_gt_iff_gt]
    simp only [above, true_and, notBelow, false_and, or_false]
    exact ⟨fun less => less.ne, fun differs => upper.lt_of_ne differs⟩
  · by_cases below : passing < i128Min
    · rw [saturate_of_lt below, compare_lt_iff_lt.mpr (below.trans_le lower),
        compare_lt_iff_lt]
      simp only [above, false_and, below, true_and, false_or]
      exact ⟨fun less => less.ne', fun differs => lower.lt_of_ne' differs⟩
    · have within : Fits 128 passing :=
        fits_i128_iff.mpr ⟨not_lt.mp below, not_lt.mp above⟩
      rw [saturate_of_fits within]
      simp [above, below]

end Saturation

namespace FixedDecimal

section Pairs

variable {left right : FixedDecimal}

/-- Padded to the scale of the other decimal, the first one passes a bound that
is the value of the other. -/
def PassesBound (left right : FixedDecimal) : Prop :=
  MeetsBound (left.padded right.scale) right.value

/-- A decimal at its own scale, or a lesser one, is not padded. -/
theorem padded_of_le
    {decimal : FixedDecimal}
    {scale : Nat}
    (within : scale ≤ decimal.scale) :
    decimal.padded scale = decimal.value := by
  rw [padded, Nat.sub_eq_zero_of_le within, pow_zero, mul_one]

/-- A decimal that is not padded passes no bound. -/
theorem not_passesBound_of_le
    (representable : left.Representable)
    (within : right.scale ≤ left.scale) :
    ¬ left.PassesBound right := by
  obtain ⟨lower, upper⟩ := fits_i128_iff.mp representable.value
  rw [PassesBound, padded_of_le within, MeetsBound]
  omega

/-- Padded values are compared up to the bounds. -/
theorem cmp_eq_saturate
    (leftRepresentable : left.Representable)
    (rightRepresentable : right.Representable) :
    cmp left right =
      compare (saturate (left.padded (max left.scale right.scale)))
        (saturate (right.padded (max left.scale right.scale))) := by
  rw [cmp, saturatingAlign_eq leftRepresentable.value,
    saturatingAlign_eq rightRepresentable.value]
  rfl

/-- The order of the other way round. -/
theorem swap_cmp
    (left right : FixedDecimal) :
    (cmp left right).swap = cmp right left := by
  simp only [cmp, max_comm left.scale]
  exact Std.OrientedCmp.eq_swap.symm

/-- A padded decimal is in the order of the numbers unless it passes a bound. -/
theorem cmp_iff_of_le
    (leftRepresentable : left.Representable)
    (rightRepresentable : right.Representable)
    (within : left.scale ≤ right.scale) :
    cmp left right = compare left.toRat right.toRat ↔
      ¬ left.PassesBound right := by
  rw [cmp_eq_saturate leftRepresentable rightRepresentable, compare_toRat,
    max_eq_right within, padded_of_le le_rfl,
    saturate_of_fits rightRepresentable.value]
  exact compare_saturate_iff rightRepresentable.value

/-- Two decimals are in the order of the numbers unless one passes a bound. -/
theorem cmp_iff
    (leftRepresentable : left.Representable)
    (rightRepresentable : right.Representable) :
    cmp left right = compare left.toRat right.toRat ↔
      ¬ left.PassesBound right ∧ ¬ right.PassesBound left := by
  rcases le_total left.scale right.scale with within | within
  · rw [cmp_iff_of_le leftRepresentable rightRepresentable within]
    exact (and_iff_left
      (not_passesBound_of_le rightRepresentable within)).symm
  · have swaps :
        compare left.toRat right.toRat =
          (compare right.toRat left.toRat).swap :=
      Std.OrientedCmp.eq_swap
    rw [← swap_cmp right left, swaps, Ordering.swap_inj,
      cmp_iff_of_le rightRepresentable leftRepresentable within]
    exact (and_iff_right
      (not_passesBound_of_le leftRepresentable within)).symm

/-- Decimals whose order is checked can be padded. -/
theorem pads_of_cmpScaled
    {order : Ordering}
    (checks : cmpScaled left right = .ok order) :
    left.Pads (max left.scale right.scale) ∧
      right.Pads (max left.scale right.scale) ∧
      compare (left.padded (max left.scale right.scale))
        (right.padded (max left.scale right.scale)) = order := by
  obtain ⟨leftValue, leftAligns, afterLeft⟩ := bind_eq_ok.mp checks
  obtain ⟨rightValue, rightAligns, compares⟩ := bind_eq_ok.mp afterLeft
  obtain ⟨leftPads, rfl⟩ := alignValue_eq_ok.mp leftAligns
  obtain ⟨rightPads, rfl⟩ := alignValue_eq_ok.mp rightAligns
  exact ⟨leftPads, rightPads, Except.ok.inj compares⟩

/-- A checked order is the order. -/
theorem cmp_of_cmpScaled
    (leftRepresentable : left.Representable)
    (rightRepresentable : right.Representable)
    {order : Ordering}
    (checks : cmpScaled left right = .ok order) :
    cmp left right = order := by
  obtain ⟨leftPads, rightPads, compares⟩ := pads_of_cmpScaled checks
  rw [cmp_eq_saturate leftRepresentable rightRepresentable,
    saturate_of_fits leftPads.value, saturate_of_fits rightPads.value]
  exact compares

/-- What a checked comparison answers is true of the numbers. -/
theorem checkedLt_eq_ok
    {answer : Bool}
    (checks : checkedLt left right = .ok answer) :
    answer = decide (left.toRat < right.toRat) := by
  obtain ⟨found, finds, answers⟩ := bind_eq_ok.mp checks
  obtain ⟨-, -, rfl⟩ := pads_of_cmpScaled finds
  rw [← Except.ok.inj answers, ← compare_toRat]
  simp only [compare_lt_iff_lt]

end Pairs

section Keys

/-- The checked comparisons of two decimals answer like the order. -/
structure ChecksAgree (left right : FixedDecimal) : Prop where
  least :
    ∀ least,
      checkedMin left right = .ok least →
        least = if cmp left right = .gt then right else left
  greater :
    ∀ answer,
      checkedGt left right = .ok answer →
        answer = decide (cmp left right = .gt)
  less :
    ∀ answer,
      checkedLt left right = .ok answer →
        answer = decide (cmp left right = .lt)
  same :
    ∀ answer,
      checkedEq left right = .ok answer →
        answer = decide (cmp left right = .eq)

/-- Checked comparisons answer like the order. -/
theorem checksAgree
    {left right : FixedDecimal}
    (leftRepresentable : left.Representable)
    (rightRepresentable : right.Representable) :
    ChecksAgree left right := by
  have checkedIs_eq :
      ∀ {order answer},
        checkedIs order left right = .ok answer →
          answer = decide (cmp left right = order) := by
    intro order answer checks
    obtain ⟨found, finds, answers⟩ := bind_eq_ok.mp checks
    rw [cmp_of_cmpScaled leftRepresentable rightRepresentable finds]
    exact (Except.ok.inj answers).symm
  constructor
  case least =>
    intro least checks
    obtain ⟨found, finds, answers⟩ := bind_eq_ok.mp checks
    rw [cmp_of_cmpScaled leftRepresentable rightRepresentable finds]
    exact (Except.ok.inj answers).symm
  case greater =>
    exact fun answer => checkedIs_eq
  case less =>
    exact fun answer => checkedIs_eq
  case same =>
    exact fun answer => checkedIs_eq

/-- The order of some decimals is that of their numbers, and a lawful one. -/
structure OrdersAsNumbers (decimals : Set FixedDecimal) : Prop where
  agrees :
    ∀ left ∈ decimals, ∀ right ∈ decimals,
      cmp left right = compare left.toRat right.toRat
  equal :
    ∀ left ∈ decimals, ∀ right ∈ decimals,
      cmp left right = .eq ↔ left.toRat = right.toRat
  antisymmetric :
    ∀ left ∈ decimals, ∀ right ∈ decimals,
      cmp right left = (cmp left right).swap
  transitive :
    ∀ first ∈ decimals, ∀ second ∈ decimals, ∀ third ∈ decimals,
      cmp first second ≠ .gt →
        cmp second third ≠ .gt → cmp first third ≠ .gt
  checked :
    ∀ left ∈ decimals, ∀ right ∈ decimals, ChecksAgree left right

/-- Decimals are ordered as numbers just if none of them passes a bound that
is the value of another. -/
theorem ordersAsNumbers_iff
    {decimals : Set FixedDecimal}
    (representable : ∀ decimal ∈ decimals, decimal.Representable) :
    OrdersAsNumbers decimals ↔
      ∀ left ∈ decimals, ∀ right ∈ decimals, ¬ left.PassesBound right := by
  constructor
  · intro orders left leftMember right rightMember
    exact ((cmp_iff (representable left leftMember)
      (representable right rightMember)).mp
        (orders.agrees left leftMember right rightMember)).1
  · intro within
    have agrees :
        ∀ left ∈ decimals, ∀ right ∈ decimals,
          cmp left right = compare left.toRat right.toRat := by
      intro left leftMember right rightMember
      exact (cmp_iff (representable left leftMember)
        (representable right rightMember)).mpr
          ⟨within left leftMember right rightMember,
            within right rightMember left leftMember⟩
    constructor
    case agrees =>
      exact agrees
    case equal =>
      intro left leftMember right rightMember
      rw [agrees left leftMember right rightMember, compare_eq_iff_eq]
    case antisymmetric =>
      exact fun left _ right _ => (swap_cmp left right).symm
    case transitive =>
      intro first firstMember second secondMember third thirdMember
      rw [agrees first firstMember second secondMember,
        agrees second secondMember third thirdMember,
        agrees first firstMember third thirdMember, compare_le_iff_le,
        compare_le_iff_le, compare_le_iff_le]
      exact le_trans
    case checked =>
      intro left leftMember right rightMember
      exact checksAgree (representable left leftMember)
        (representable right rightMember)

/-- Three prices of two scales are ordered as numbers. -/
theorem prices_ordersAsNumbers :
    OrdersAsNumbers
      { { value := 99, scale := 2 }, { value := 1, scale := 0 },
        { value := 100, scale := 2 } } := by
  refine (ordersAsNumbers_iff ?_).mpr ?_
  · rintro _ (rfl | rfl | rfl) <;> constructor <;> decide
  · rintro _ (rfl | rfl | rfl) _ (rfl | rfl | rfl) <;>
      unfold PassesBound MeetsBound <;> decide

/-- Three prices that are equal to their neighbours, but not among each other:
the greatest value, its tenth, and the greatest value but one. -/
theorem greatest_not_ordersAsNumbers :
    let greatest : FixedDecimal := { value := i128Max, scale := 0 }
    let tenth : FixedDecimal := { value := i128Max, scale := 1 }
    let smaller : FixedDecimal := { value := i128Max - 1, scale := 0 }
    cmp greatest tenth = .eq ∧
      cmp tenth smaller = .eq ∧
      cmp greatest smaller = .gt ∧
      tenth.toRat < smaller.toRat ∧
      ¬ OrdersAsNumbers {greatest, tenth, smaller} := by
  intro greatest tenth smaller
  have first : cmp greatest tenth = .eq := by decide
  have second : cmp tenth smaller = .eq := by decide
  have third : cmp greatest smaller = .gt := by decide
  refine ⟨first, second, third, ?_, ?_⟩
  · have atTenths : tenth.padded 1 < smaller.padded 1 := by decide
    exact (toRat_lt_iff (by decide) (by decide)).mpr atTenths
  · intro orders
    refine orders.transitive greatest (by simp) tenth (by simp) smaller
      (by simp) ?_ ?_ third
    · rw [first]
      decide
    · rw [second]
      decide

end Keys

end FixedDecimal

end MarketIngest.MarketData
