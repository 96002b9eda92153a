import Mathlib.Algebra.BigOperators.Group.List.Basic
import Mathlib.Algebra.Field.Rat
import Mathlib.Algebra.Order.Ring.Rat

namespace MarketIngest

/-!
# Number formats

Prices and quantities are floating-point numbers.  A number format has the
operations that programs use and no laws, so that machine numbers are an
instance.  Facts that hold only without rounding assume that addition is exact,
either everywhere, as for rational numbers, or for the sums in question.
-/

/-- The operations of a number format. -/
class NumberFormat (Number : Type) extends
    Zero Number, Add Number, Sub Number, Mul Number, Div Number,
    LT Number, LE Number where
  ofNat : Nat → Number
  isFinite : Number → Bool
  decidableLt : DecidableRel (fun left right : Number => left < right)
  decidableLe : DecidableRel (fun left right : Number => left ≤ right)

instance numberDecidableLt {Number : Type} [NumberFormat Number]
    (left right : Number) :
    Decidable (left < right) :=
  NumberFormat.decidableLt left right

instance numberDecidableLe {Number : Type} [NumberFormat Number]
    (left right : Number) :
    Decidable (left ≤ right) :=
  NumberFormat.decidableLe left right

/-- Double-precision numbers. -/
instance : NumberFormat Float where
  zero := 0
  ofNat := Float.ofNat
  isFinite := Float.isFinite
  decidableLt := fun left right => Float.decLt left right
  decidableLe := fun left right => Float.decLe left right

/-- Rational numbers, without rounding. -/
instance : NumberFormat ℚ where
  zero := 0
  ofNat := fun value => value
  isFinite := fun _ => true
  decidableLt := inferInstance
  decidableLe := inferInstance

/-- Addition does not round. -/
class ExactAddition (Number : Type) [NumberFormat Number] : Prop where
  add_assoc :
    ∀ first second third : Number,
      first + second + third = first + (second + third)
  add_comm : ∀ first second : Number, first + second = second + first
  zero_add : ∀ number : Number, 0 + number = number

instance : ExactAddition ℚ where
  add_assoc := Rat.add_assoc
  add_comm := Rat.add_comm
  zero_add := Rat.zero_add

section Sums

variable
  {Number : Type}
  [NumberFormat Number]

/-- The sum of numbers in the order in which they are added. -/
def sumOf (summands : List Number) : Number :=
  summands.foldl (fun sum summand => sum + summand) 0

/--
The summands add up without rounding: their partial sums stand for the sums of
what the summands stand for, and different partial sums for different values.
-/
structure ExactSums (summands : List Number) : Prop where
  value :
    ∃ value : Number → ℚ,
      (∀ part : List Number, part.Subperm summands →
        value (sumOf part) = (part.map value).sum) ∧
      ∀ first second : List Number,
        first.Subperm summands → second.Subperm summands →
        value (sumOf first) = value (sumOf second) →
        sumOf first = sumOf second

/-- The order of exactly added summands does not matter. -/
theorem ExactSums.sumOf_eq_of_perm
    {summands first second : List Number}
    (exact : ExactSums summands)
    (among : first.Subperm summands)
    (permuted : first.Perm second) :
    sumOf first = sumOf second := by
  obtain ⟨value, additive, faithful⟩ := exact.value
  have secondAmong : second.Subperm summands :=
    permuted.symm.subperm.trans among
  apply faithful first second among secondAmong
  rw [additive first among, additive second secondAmong]
  exact (permuted.map value).sum_eq

/-- Rational numbers add up exactly. -/
theorem exactSums_rat
    (summands : List ℚ) :
    ExactSums summands where
  value := by
    refine ⟨id, ?_, fun _ _ _ _ same => same⟩
    intro part _
    rw [List.map_id, id_eq, sumOf, List.sum_eq_foldl]

end Sums

section Exact

variable
  {Number : Type}
  [NumberFormat Number]
  [ExactAddition Number]

/-- Two summands can be added to a sum in either order. -/
theorem add_right_comm_of_exact
    (sum first second : Number) :
    sum + first + second = sum + second + first := by
  rw [ExactAddition.add_assoc, ExactAddition.add_comm first,
    ← ExactAddition.add_assoc]

/-- Adding nothing changes nothing. -/
theorem add_zero_of_exact
    (number : Number) :
    number + 0 = number := by
  rw [ExactAddition.add_comm, ExactAddition.zero_add]

/-- The sum from a start is the start and the sum from zero. -/
theorem foldl_add_of_exact
    (start : Number)
    (summands : List Number) :
    summands.foldl (fun sum summand => sum + summand) start =
      start + sumOf summands := by
  induction summands generalizing start with
  | nil =>
      exact (add_zero_of_exact start).symm
  | cons summand rest inductionHypothesis =>
      have whole : sumOf (summand :: rest) = summand + sumOf rest := by
        rw [sumOf, List.foldl_cons, inductionHypothesis,
          ExactAddition.zero_add]
      rw [List.foldl_cons, inductionHypothesis, whole,
        ExactAddition.add_assoc]

/-- The sum of two lists is the sum of their sums. -/
theorem sumOf_append_of_exact
    (first second : List Number) :
    sumOf (first ++ second) = sumOf first + sumOf second := by
  rw [sumOf, List.foldl_append, foldl_add_of_exact]
  rfl

end Exact

end MarketIngest
