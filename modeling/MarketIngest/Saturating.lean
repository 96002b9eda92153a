import Mathlib.Algebra.Order.Group.Unbundled.Int
import Mathlib.Tactic.Linarith

namespace MarketIngest

/-!
# Saturating 64-bit signed arithmetic

Timestamps and durations are signed 64-bit integers.  They are modelled as
`Int`, and the saturating operations clamp the exact result to the
representable interval, so they agree with exact arithmetic whenever the exact
result is representable.
-/

/-- The least signed 64-bit integer. -/
def i64Min : Int :=
  -9223372036854775808

/-- The greatest signed 64-bit integer. -/
def i64Max : Int :=
  9223372036854775807

/-- Clamp an exact integer to the signed 64-bit interval. -/
def clampI64 (value : Int) : Int :=
  max i64Min (min i64Max value)

/-- Saturating addition. -/
def saturatingAdd (left right : Int) : Int :=
  clampI64 (left + right)

/-- Saturating subtraction. -/
def saturatingSub (left right : Int) : Int :=
  clampI64 (left - right)

/-- Saturating multiplication. -/
def saturatingMul (left right : Int) : Int :=
  clampI64 (left * right)

/-- Clamping keeps representable integers. -/
theorem clampI64_of_mem
    {value : Int}
    (lower : i64Min ≤ value)
    (upper : value ≤ i64Max) :
    clampI64 value = value := by
  simp [clampI64, lower, upper]

/-- Saturating addition is exact on a representable sum. -/
theorem saturatingAdd_of_mem
    {left right : Int}
    (lower : i64Min ≤ left + right)
    (upper : left + right ≤ i64Max) :
    saturatingAdd left right = left + right :=
  clampI64_of_mem lower upper

/-- Saturating subtraction is exact on a representable difference. -/
theorem saturatingSub_of_mem
    {left right : Int}
    (lower : i64Min ≤ left - right)
    (upper : left - right ≤ i64Max) :
    saturatingSub left right = left - right :=
  clampI64_of_mem lower upper

/-- Saturating multiplication is exact on a representable product. -/
theorem saturatingMul_of_mem
    {left right : Int}
    (lower : i64Min ≤ left * right)
    (upper : left * right ≤ i64Max) :
    saturatingMul left right = left * right :=
  clampI64_of_mem lower upper

/-- A clamped value is representable. -/
theorem clampI64_bounds
    (value : Int) :
    i64Min ≤ clampI64 value ∧ clampI64 value ≤ i64Max := by
  unfold clampI64 i64Min i64Max
  omega

/-- Clamping keeps the order. -/
theorem clampI64_mono
    {first second : Int}
    (ordered : first ≤ second) :
    clampI64 first ≤ clampI64 second := by
  unfold clampI64
  omega

/-- A clamped value below a representable bound is the exact value or above. -/
theorem le_clampI64_of_lt_max
    {value bound : Int}
    (below : clampI64 value ≤ bound)
    (bounded : bound < i64Max) :
    value ≤ bound := by
  unfold clampI64 at below
  omega

end MarketIngest
