import MarketIngest.Saturating
import Mathlib.Data.Int.Interval

namespace MarketIngest

/-!
# 64-bit cursors

A loop that reads page by page moves a signed 64-bit cursor.  The number after
a cursor wraps around at the greatest integer.  Cursors that all differ are
finitely many.
-/

/-- Addition that wraps around outside of the representable interval. -/
def wrappingAdd (left right : Int) : Int :=
  (left + right).bmod 18446744073709551616

/-- How many signed 64-bit integers there are. -/
def i64Count : Nat :=
  18446744073709551616

/-- Wrapping addition is exact on a representable sum. -/
theorem wrappingAdd_of_mem
    {left right : Int}
    (lower : i64Min ≤ left + right)
    (upper : left + right ≤ i64Max) :
    wrappingAdd left right = left + right := by
  unfold i64Min at lower
  unfold i64Max at upper
  rw [wrappingAdd, Int.bmod_eq_of_le]
  · omega
  · omega

/-- The number after the greatest one is the least one. -/
theorem wrappingAdd_i64Max :
    wrappingAdd i64Max 1 = i64Min := by
  decide

/-- The number after another one is the next one, if there is one. -/
theorem wrappingAdd_one
    {number : Int}
    (lower : i64Min ≤ number)
    (upper : number < i64Max) :
    wrappingAdd number 1 = number + 1 :=
  wrappingAdd_of_mem (by omega) (by omega)

/-- A wrapped sum is representable. -/
theorem wrappingAdd_bounds
    (left right : Int) :
    i64Min ≤ wrappingAdd left right ∧ wrappingAdd left right ≤ i64Max := by
  have lower :=
    Int.le_bmod (x := left + right) (m := 18446744073709551616) (by decide)
  have upper :=
    Int.bmod_lt (x := left + right) (m := 18446744073709551616) (by decide)
  unfold wrappingAdd i64Min i64Max
  omega

/-- Representable cursors that all differ are finitely many. -/
theorem length_le_of_distinct
    {cursors : List Int}
    (distinct : cursors.Nodup)
    (representable : ∀ cursor ∈ cursors, i64Min ≤ cursor ∧ cursor ≤ i64Max) :
    cursors.length ≤ i64Count := by
  have within : cursors.toFinset ⊆ Finset.Icc i64Min i64Max := by
    intro cursor member
    exact Finset.mem_Icc.mpr
      (representable cursor (List.mem_toFinset.mp member))
  calc cursors.length
      = cursors.toFinset.card := (List.toFinset_card_of_nodup distinct).symm
    _ ≤ (Finset.Icc i64Min i64Max).card := Finset.card_le_card within
    _ = i64Count := by rw [Int.card_Icc]; rfl

end MarketIngest
