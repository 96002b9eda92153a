import MarketIngest.DecimalOrder

namespace MarketIngest.MarketData

open MachineInteger Truncation

/-!
# Ratios in basis points

The imbalance of a book and its spread are ratios of decimals.  Both are cut to
eight digits first and then brought to whole basis points.  The second cut of
the imbalance makes no difference.  The spread is rounded up after it was cut,
and may be understated by one.
-/

/-- The imbalance of two quantities, from the bids. -/
def calculateDepthImbalanceBps
    (overflowChecks : Bool)
    (bidDepthQty askDepthQty : FixedDecimal) :
    Computed DomainError Bps := do
  let totalQty ← bidDepthQty.checkedAdd overflowChecks askDepthQty
  if totalQty.value = 0 then
    pure { value := 0 }
  else
    let deltaQty ← bidDepthQty.checkedSub overflowChecks askDepthQty
    let ratio ← deltaQty.divToScale totalQty 8
    let product ← checkedI128 (ratio.value * 10000)
    let quotient ← divide 128 product 100000000
    let value ← checked 64 .scaleOverflow quotient
    pure { value := value }

/-- The price between the best ones. -/
def midpointPrice
    (overflowChecks : Bool)
    (bestBid bestAsk : FixedDecimal) :
    Computed DomainError FixedDecimal := do
  let total ← bestBid.checkedAdd overflowChecks bestAsk
  let value ← divide 128 total.value 2
  pure { value := value, scale := total.scale }

/-- A quotient that is rounded up. -/
def roundUp
    (overflowChecks : Bool)
    (numerator denominator : Int) : Computed DomainError Int :=
  if numerator = 0 then
    pure 0
  else do
    let sum ← unchecked 128 overflowChecks (numerator + denominator)
    let dividend ← unchecked 128 overflowChecks (sum - 1)
    divide 128 dividend denominator

/-- The spread of the best prices, relative to a price. -/
def calculateSpreadBps
    (overflowChecks : Bool)
    (bestBid bestAsk referencePrice : FixedDecimal) :
    Computed DomainError Bps := do
  let crossed ← bestAsk.checkedLt bestBid
  if crossed then
    pure { value := 0 }
  else
    let spread ← bestAsk.checkedSub overflowChecks bestBid
    let spreadRatio ← spread.divToScale referencePrice 8
    let product ← checkedI128 (spreadRatio.value * 10000)
    let rounded ← roundUp overflowChecks (max product 0) 100000000
    let value ← checked 64 .scaleOverflow rounded
    pure { value := value }

section Imbalance

variable
  {overflowChecks : Bool}
  {bid ask : FixedDecimal}

/-- The imbalance as a number of basis points. -/
def imbalance (bid ask : FixedDecimal) : ℚ :=
  10000 * (bid.toRat - ask.toRat) / (bid.toRat + ask.toRat)

/-- The imbalance of quantities that are not negative is cut, or an error. -/
theorem meets_calculateDepthImbalanceBps
    (bidNonneg : 0 ≤ bid.value)
    (askNonneg : 0 ≤ ask.value)
    (sumFits :
      FixedDecimal.CombinationFits (fun first second => first + second)
        bid ask) :
    Meets (fun bps => bps.value = truncate (imbalance bid ask))
      (calculateDepthImbalanceBps overflowChecks bid ask) := by
  unfold calculateDepthImbalanceBps
  apply (FixedDecimal.meets_checkedAdd_iff.mpr sumFits).bind
  intro total isTotal
  have bidNumber := FixedDecimal.value_nonneg_iff.mp bidNonneg
  have askNumber := FixedDecimal.value_nonneg_iff.mp askNonneg
  have totalNonneg : 0 ≤ total.value := by
    rw [FixedDecimal.value_nonneg_iff, isTotal]
    positivity
  split_ifs with zero
  · refine .ok ?_
    rw [FixedDecimal.value_eq_zero_iff, isTotal] at zero
    rw [imbalance, zero, div_zero, truncate_zero]
  · apply (FixedDecimal.meets_checkedSub_iff.mpr
      (FixedDecimal.difference_fits bidNonneg askNonneg)).bind
    intro delta isDelta
    have divides : ¬ FixedDecimal.NegatesLeast delta total 8 := by
      rintro ⟨-, -, impossible⟩
      cases impossible
    apply (FixedDecimal.meets_divToScale_iff.mpr divides).bind
    intro ratio isRatio
    apply (meets_checkedI128 _).bind
    rintro _ ⟨rfl, fits⟩
    rw [divide_of_pos fits (by decide)]
    apply meets_checked.bind
    rintro _ ⟨rfl, -⟩
    refine .ok ?_
    calc
      (ratio.value * 10000).tdiv 100000000 =
          truncate (((ratio.value * 10000 : Int) : ℚ) / (100000000 : Int)) :=
        (truncate_intCast_div _ _).symm
      _ = truncate ((ratio.value : ℚ) / (10000 : Nat)) := by
        congr 1
        push_cast
        ring
      _ = truncate (delta.toRat / total.toRat * 10 ^ 8 / (10000 : Nat)) := by
        rw [isRatio.cut, truncate_div_natCast]
      _ = truncate (imbalance bid ask) := by
        rw [isDelta, isTotal, imbalance]
        congr 1
        push_cast
        ring

/-- An imbalance is at most the whole. -/
theorem abs_imbalance_le
    (bidNonneg : 0 ≤ bid.value)
    (askNonneg : 0 ≤ ask.value) :
    |imbalance bid ask| ≤ (10000 : Int) := by
  have bidNumber := FixedDecimal.value_nonneg_iff.mp bidNonneg
  have askNumber := FixedDecimal.value_nonneg_iff.mp askNonneg
  have total : 0 ≤ bid.toRat + ask.toRat := by positivity
  have within :
      |bid.toRat - ask.toRat| ≤ bid.toRat + ask.toRat := by
    rw [abs_le]
    constructor <;> linarith
  rw [imbalance, abs_div, abs_of_nonneg total]
  apply div_le_of_le_mul₀ total (by norm_num)
  rw [abs_mul]
  push_cast
  rw [abs_of_pos (by norm_num : (0 : ℚ) < 10000)]
  gcongr

/-- Seen from the asks, an imbalance is computed too. -/
theorem calculateDepthImbalanceBps_swap
    {bps : Bps}
    (bidNonneg : 0 ≤ bid.value)
    (askNonneg : 0 ≤ ask.value)
    (sumFits :
      FixedDecimal.CombinationFits (fun first second => first + second)
        bid ask)
    (within : |bps.value| ≤ 10000)
    (computes :
      calculateDepthImbalanceBps overflowChecks bid ask = .ok bps) :
    calculateDepthImbalanceBps overflowChecks ask bid =
      .ok { value := -bps.value } := by
  have swappedFits :
      FixedDecimal.CombinationFits (fun first second => first + second)
        ask bid := by
    intro askPads bidPads
    rw [FixedDecimal.combinedValue_add_comm]
    rw [max_comm] at askPads bidPads
    exact sumFits bidPads askPads
  obtain ⟨total, adds, computes⟩ := bind_eq_ok.mp computes
  obtain ⟨bidPads, askPads, rfl⟩ :=
    (FixedDecimal.combineAligned_eq_ok sumFits).mp adds
  have swappedAdds :
      ask.checkedAdd overflowChecks bid = .ok _ :=
    (FixedDecimal.combineAligned_eq_ok swappedFits).mpr
      ⟨by rwa [max_comm], by rwa [max_comm], rfl⟩
  rw [FixedDecimal.combinedValue_add_comm, max_comm] at swappedAdds
  refine bind_eq_ok.mpr ⟨_, swappedAdds, ?_⟩
  split_ifs at computes ⊢ with zero
  · obtain rfl := Except.ok.inj computes
    rfl
  · have differs := FixedDecimal.difference_fits bidNonneg askNonneg
    have swappedDiffers := FixedDecimal.difference_fits askNonneg bidNonneg
    obtain ⟨delta, subtracts, computes⟩ := bind_eq_ok.mp computes
    obtain ⟨-, -, rfl⟩ :=
      (FixedDecimal.combineAligned_eq_ok differs).mp subtracts
    have swappedSubtracts :
        ask.checkedSub overflowChecks bid = .ok _ :=
      (FixedDecimal.combineAligned_eq_ok swappedDiffers).mpr
        ⟨by rwa [max_comm], by rwa [max_comm], rfl⟩
    rw [FixedDecimal.combinedValue_sub_swap, max_comm] at swappedSubtracts
    have negFits :=
      swappedDiffers (by rwa [max_comm]) (by rwa [max_comm])
    rw [FixedDecimal.combinedValue_sub_swap] at negFits
    obtain ⟨ratio, divides, computes⟩ := bind_eq_ok.mp computes
    have swappedDivides := FixedDecimal.divToScale_neg negFits divides
    obtain ⟨product, multiplies, computes⟩ := bind_eq_ok.mp computes
    obtain ⟨productFits, rfl⟩ := checked_eq_ok.mp multiplies
    obtain ⟨quotient, cuts, computes⟩ := bind_eq_ok.mp computes
    obtain ⟨-, -, rfl⟩ := divide_eq_ok.mp cuts
    obtain ⟨value, narrows, computes⟩ := bind_eq_ok.mp computes
    obtain ⟨valueFits, rfl⟩ := checked_eq_ok.mp narrows
    obtain rfl := Except.ok.inj computes
    have negProduct : Fits 128 (-ratio.value * 10000) := by
      unfold Fits at productFits ⊢
      omega
    have negValue :
        Fits 64 (-(ratio.value * 10000).tdiv 100000000) := by
      dsimp only at within
      rw [abs_le] at within
      unfold Fits
      omega
    refine bind_eq_ok.mpr ⟨_, swappedSubtracts, ?_⟩
    refine bind_eq_ok.mpr ⟨_, swappedDivides, ?_⟩
    refine bind_eq_ok.mpr ⟨_, checkedI128_of_fits negProduct, ?_⟩
    refine bind_eq_ok.mpr ⟨_, divide_of_pos negProduct (by decide), ?_⟩
    rw [neg_mul, Int.neg_tdiv]
    exact bind_eq_ok.mpr ⟨_, checked_of_fits negValue, rfl⟩

/-- An imbalance is the cut ratio of the quantities, within bounds, and negated
from the other side. -/
theorem calculateDepthImbalanceBps_ratio
    {bps : Bps}
    (bidNonneg : 0 ≤ bid.value)
    (askNonneg : 0 ≤ ask.value)
    (sumFits :
      FixedDecimal.CombinationFits (fun first second => first + second)
        bid ask)
    (computes :
      calculateDepthImbalanceBps overflowChecks bid ask = .ok bps) :
    -10000 ≤ bps.value ∧
      bps.value ≤ 10000 ∧
      bps.value = truncate (imbalance bid ask) ∧
      (bid.value = 0 → ask.value = 0 → bps.value = 0) ∧
      calculateDepthImbalanceBps overflowChecks ask bid =
        .ok { value := -bps.value } := by
  have isCut :=
    (meets_calculateDepthImbalanceBps bidNonneg askNonneg sumFits).of_ok
      computes
  have within : |bps.value| ≤ 10000 := by
    rw [isCut]
    exact abs_truncate_le (abs_imbalance_le bidNonneg askNonneg)
  refine ⟨(abs_le.mp within).1, (abs_le.mp within).2, isCut, ?_, ?_⟩
  · intro bidZero askZero
    rw [FixedDecimal.value_eq_zero_iff] at bidZero askZero
    rw [isCut, imbalance, bidZero, askZero, add_zero, div_zero,
      truncate_zero]
  · exact calculateDepthImbalanceBps_swap bidNonneg askNonneg sumFits within
      computes

/-- Two quantities of two scales, a third of the whole apart. -/
theorem calculateDepthImbalanceBps_ratio_third :
    (-10000 : Int) ≤ 3333 ∧
      (3333 : Int) ≤ 10000 ∧
      (3333 : Int) =
        truncate
          (imbalance { value := 2, scale := 0 }
            { value := 100, scale := 2 }) ∧
      ((2 : Int) = 0 → (100 : Int) = 0 → (3333 : Int) = 0) ∧
      calculateDepthImbalanceBps false { value := 100, scale := 2 }
          { value := 2, scale := 0 } =
        .ok { value := -3333 } := by
  have computes :
      calculateDepthImbalanceBps false { value := 2, scale := 0 }
          { value := 100, scale := 2 } =
        .ok { value := 3333 } := by
    rfl
  exact calculateDepthImbalanceBps_ratio (by decide) (by decide)
    (fun _ _ => by decide) computes

end Imbalance

section Spread

variable
  {overflowChecks : Bool}
  {bestBid bestAsk referencePrice : FixedDecimal}

/-- The spread relative to a price. -/
def relativeSpread
    (bestBid bestAsk referencePrice : FixedDecimal) : ℚ :=
  (bestAsk.toRat - bestBid.toRat) / referencePrice.toRat

/-- The least whole number of basis points that is not below the spread. -/
structure CoversSpread
    (bestBid bestAsk referencePrice : FixedDecimal)
    (bps : Bps) : Prop where
  least :
    IsLeast
      { whole : Int |
        relativeSpread bestBid bestAsk referencePrice * 10000 ≤ whole }
      bps.value
  zero : bps.value = 0 → bestBid.toRat = bestAsk.toRat

/-- A quotient that is rounded up and narrowed does not wrap. -/
theorem roundUp_eq_ok
    {numerator value : Int}
    (fits : Fits 128 numerator)
    (nonneg : 0 ≤ numerator)
    (narrow : Fits 64 value)
    (computes : roundUp overflowChecks numerator 100000000 = .ok value) :
    value = ⌈(numerator : ℚ) / (100000000 : Nat)⌉ := by
  rw [Rat.ceil_intCast_div_natCast]
  unfold roundUp at computes
  split_ifs at computes with zero
  · obtain rfl := Except.ok.inj computes
    rw [zero]
    rfl
  · obtain ⟨sum, adds, computes⟩ := bind_eq_ok.mp computes
    obtain ⟨dividend, subtracts, divides⟩ := bind_eq_ok.mp computes
    obtain ⟨-, -, rfl⟩ := divide_eq_ok.mp divides
    obtain ⟨addTurns, isSum⟩ := exists_turns_of_unchecked adds
    obtain ⟨subTurns, isDividend⟩ := exists_turns_of_unchecked subtracts
    unfold Fits at fits narrow
    -- A turn would leave a quotient that is far from fitting 64 bits.
    have exactly : dividend = numerator + 99999999 := by
      have sign : Int.sign 100000000 = 1 := rfl
      rw [Int.tdiv_eq_ediv, sign] at narrow
      split_ifs at narrow with whole
      · omega
      · omega
    rw [exactly, Int.tdiv_eq_ediv_of_nonneg (by omega)]
    push_cast
    omega

/-- The spread is the ceiling of a cut number. -/
theorem calculateSpreadBps_eq_ceil
    {bps : Bps}
    (bidPositive : 0 < bestBid.value)
    (ordered : bestBid.toRat ≤ bestAsk.toRat)
    (referencePositive : 0 < referencePrice.value)
    (computes :
      calculateSpreadBps overflowChecks bestBid bestAsk referencePrice =
        .ok bps) :
    bps.value =
      ⌈(⌊relativeSpread bestBid bestAsk referencePrice * 10 ^ 8⌋ : ℚ) /
        (10000 : Nat)⌉ := by
  have bidNumber := FixedDecimal.value_nonneg_iff.mp bidPositive.le
  have askNonneg : 0 ≤ bestAsk.value :=
    FixedDecimal.value_nonneg_iff.mpr (bidNumber.trans ordered)
  have referenceNumber :=
    FixedDecimal.value_nonneg_iff.mp referencePositive.le
  have nonneg :
      0 ≤ relativeSpread bestBid bestAsk referencePrice * 10 ^ 8 := by
    have difference := sub_nonneg.mpr ordered
    unfold relativeSpread
    positivity
  obtain ⟨crossed, compares, computes⟩ := bind_eq_ok.mp computes
  obtain rfl := FixedDecimal.checkedLt_eq_ok compares
  rw [decide_eq_false (not_lt.mpr ordered)] at computes
  obtain ⟨spread, subtracts, computes⟩ := bind_eq_ok.mp computes
  obtain ⟨ratio, divides, computes⟩ := bind_eq_ok.mp computes
  obtain ⟨product, multiplies, computes⟩ := bind_eq_ok.mp computes
  obtain ⟨rounded, rounds, computes⟩ := bind_eq_ok.mp computes
  obtain ⟨value, narrows, computes⟩ := bind_eq_ok.mp computes
  obtain ⟨productFits, rfl⟩ := checked_eq_ok.mp multiplies
  obtain ⟨narrow, rfl⟩ := checked_eq_ok.mp narrows
  obtain rfl := Except.ok.inj computes
  have isSpread :=
    (FixedDecimal.meets_checkedSub_iff.mpr
      (FixedDecimal.difference_fits askNonneg bidPositive.le)).of_ok
        subtracts
  have isRatio :
      ratio.value =
        ⌊relativeSpread bestBid bestAsk referencePrice * 10 ^ 8⌋ := by
    have divisible :
        ¬ FixedDecimal.NegatesLeast spread referencePrice 8 := by
      rintro ⟨-, -, impossible⟩
      cases impossible
    have cut :=
      ((FixedDecimal.meets_divToScale_iff.mpr divisible).of_ok divides).cut
    rw [isSpread] at cut
    rw [cut, ← truncate_of_nonneg nonneg, relativeSpread]
  have ratioNonneg : 0 ≤ ratio.value := by
    rw [isRatio]
    exact Int.floor_nonneg.mpr nonneg
  have productNonneg : 0 ≤ ratio.value * 10000 := by
    positivity
  rw [max_eq_left productNonneg] at rounds
  have fraction :
      ((ratio.value * 10000 : Int) : ℚ) / (100000000 : Nat) =
        (ratio.value : ℚ) / (10000 : Nat) := by
    push_cast
    ring
  rw [← isRatio, ← fraction]
  exact roundUp_eq_ok productFits productNonneg narrow rounds

/-- The spread is not understated just if it is not above a whole number of
basis points by less than the digits that are kept. -/
theorem calculateSpreadBps_covers_iff
    {bps : Bps}
    (bidPositive : 0 < bestBid.value)
    (ordered : bestBid.toRat ≤ bestAsk.toRat)
    (referencePositive : 0 < referencePrice.value)
    (computes :
      calculateSpreadBps overflowChecks bestBid bestAsk referencePrice =
        .ok bps) :
    CoversSpread bestBid bestAsk referencePrice bps ↔
      ¬ JustAbove 10000
        (relativeSpread bestBid bestAsk referencePrice * 10 ^ 8) := by
  have isCeil :=
    calculateSpreadBps_eq_ceil bidPositive ordered referencePositive computes
  have basisPoints :
      relativeSpread bestBid bestAsk referencePrice * 10 ^ 8 /
          (10000 : Nat) =
        relativeSpread bestBid bestAsk referencePrice * 10000 := by
    push_cast
    ring
  rw [← ceil_floor_div_eq_iff (by decide), ← isCeil, basisPoints]
  have ceilLeast :
      IsLeast
        { whole : Int |
          relativeSpread bestBid bestAsk referencePrice * 10000 ≤ whole }
        ⌈relativeSpread bestBid bestAsk referencePrice * 10000⌉ :=
    Int.gc_ceil_coe.isLeast_l
  constructor
  · exact fun covers => covers.least.unique ceilLeast
  · intro same
    refine ⟨same ▸ ceilLeast, fun zero => ?_⟩
    have below :=
      Int.le_ceil (relativeSpread bestBid bestAsk referencePrice * 10000)
    rw [← same, zero, Int.cast_zero] at below
    have referenceNumber : 0 < referencePrice.toRat :=
      referencePrice.isPositive_iff.mp (decide_eq_true referencePositive)
    by_contra differs
    have wider : 0 < relativeSpread bestBid bestAsk referencePrice :=
      div_pos (sub_pos.mpr (ordered.lt_of_ne differs)) referenceNumber
    linarith

/-- A spread of one hundredth at one hundred is one basis point. -/
theorem calculateSpreadBps_covers_iff_hundredth :
    CoversSpread { value := 100, scale := 0 } { value := 10001, scale := 2 }
        { value := 100, scale := 0 } { value := 1 } ↔
      ¬ JustAbove 10000
        (relativeSpread { value := 100, scale := 0 }
          { value := 10001, scale := 2 } { value := 100, scale := 0 } *
            10 ^ 8) := by
  have computes :
      calculateSpreadBps false { value := 100, scale := 0 }
          { value := 10001, scale := 2 } { value := 100, scale := 0 } =
        .ok { value := 1 } := by
    rfl
  refine calculateSpreadBps_covers_iff (by decide) ?_ (by decide) computes
  unfold FixedDecimal.toRat
  norm_num

/-- A spread of one in a billion is none. -/
theorem calculateSpreadBps_understates :
    let bestBid : FixedDecimal := { value := 1000000000, scale := 0 }
    let bestAsk : FixedDecimal := { value := 1000000001, scale := 0 }
    (∀ overflowChecks,
        calculateSpreadBps overflowChecks bestBid bestAsk bestBid =
          .ok { value := 0 }) ∧
      bestBid.toRat < bestAsk.toRat ∧
      ¬ CoversSpread bestBid bestAsk bestBid { value := 0 } := by
  intro bestBid bestAsk
  have ordered : bestBid.toRat < bestAsk.toRat := by
    have atUnits : bestBid.padded 0 < bestAsk.padded 0 := by decide
    exact (FixedDecimal.toRat_lt_iff (by decide) (by decide)).mpr atUnits
  refine ⟨?_, ordered, fun covers => ordered.ne (covers.zero rfl)⟩
  rintro (_ | _) <;> rfl

/-- The midpoint of ordered prices is between them. -/
theorem midpointPrice_between
    {price : FixedDecimal}
    (bidPositive : 0 < bestBid.value)
    (ordered : bestBid.toRat ≤ bestAsk.toRat)
    (sumFits :
      FixedDecimal.CombinationFits (fun first second => first + second)
        bestBid bestAsk)
    (computes : midpointPrice overflowChecks bestBid bestAsk = .ok price) :
    bestBid.toRat ≤ price.toRat ∧ price.toRat ≤ bestAsk.toRat := by
  obtain ⟨total, adds, computes⟩ := bind_eq_ok.mp computes
  obtain ⟨-, -, rfl⟩ := (FixedDecimal.combineAligned_eq_ok sumFits).mp adds
  obtain ⟨value, halves, computes⟩ := bind_eq_ok.mp computes
  obtain ⟨-, -, rfl⟩ := divide_eq_ok.mp halves
  obtain rfl := Except.ok.inj computes
  have bidWithin := le_max_left bestBid.scale bestAsk.scale
  have askWithin := le_max_right bestBid.scale bestAsk.scale
  rw [← not_lt, FixedDecimal.toRat_lt_iff askWithin bidWithin, not_lt]
    at ordered
  have bidNonneg :=
    FixedDecimal.padded_nonneg bidPositive.le
      (max bestBid.scale bestAsk.scale)
  have sumNonneg :
      0 ≤ FixedDecimal.combinedValue (fun first second => first + second)
        bestBid bestAsk :=
    add_nonneg bidNonneg (bidNonneg.trans ordered)
  have halved := Int.tdiv_eq_ediv_of_nonneg sumNonneg (b := 2)
  constructor
  · rw [← not_lt, FixedDecimal.toRat_lt_iff le_rfl bidWithin,
      FixedDecimal.padded_of_le le_rfl]
    dsimp only
    rw [halved, FixedDecimal.combinedValue]
    omega
  · rw [← not_lt, FixedDecimal.toRat_lt_iff askWithin le_rfl,
      FixedDecimal.padded_of_le le_rfl]
    dsimp only
    rw [halved, FixedDecimal.combinedValue]
    omega

end Spread

end MarketIngest.MarketData
