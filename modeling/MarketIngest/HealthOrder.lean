import MarketIngest.SliceQuality

namespace MarketIngest.Build

open Normalize

/-!
# Health rows in any order

Files are read in the order in which their downloads complete, so the health
rows of a build can arrive in any order.  The health of a slice does not depend
on that order exactly if health rows of one symbol, and of one venue, that were
observed in the same millisecond report the same health.
-/

section Snapshots

variable {Number : Type}

/-- Rows of one symbol and one millisecond report the same health. -/
def SymbolTiesAgree (symbolHealth : List SymbolHealthInput) : Prop :=
  ∀ one ∈ symbolHealth, ∀ other ∈ symbolHealth,
    one.venue = other.venue →
    one.symbolNative = other.symbolNative →
    one.observedAtMs = other.observedAtMs →
    one.lastEventTimeMs = other.lastEventTimeMs ∧
      one.latencyMs = other.latencyMs ∧
      one.isTradeable = other.isTradeable ∧
      splitReasonCodes one.reasonCodes = splitReasonCodes other.reasonCodes

/-- Rows of one venue and one millisecond report the same health. -/
def SourceTiesAgree (sourceHealth : List SourceHealthInput) : Prop :=
  ∀ one ∈ sourceHealth, ∀ other ∈ sourceHealth,
    one.venue = other.venue →
    one.observedAtMs = other.observedAtMs →
    one.connectionStatus = other.connectionStatus ∧
      one.healthLevel = other.healthLevel ∧
      one.heartbeatDelayMs = other.heartbeatDelayMs ∧
      one.streamLagMs = other.streamLagMs ∧
      one.recentGapCount = other.recentGapCount ∧
      one.bookRebuildCount = other.bookRebuildCount

/-- The symbol health of a slice is a latest row of a group. -/
theorem latestSymbolHealth_eq_latestWithin
    (rows : List SymbolHealthInput)
    (slice : SliceRow Number) :
    latestSymbolHealth rows slice =
      latestWithin (fun row => (row.venue, row.symbolNative))
        SymbolHealthInput.observedAtMs symbolHealthSnapshot
        (slice.venue, slice.symbolNative) slice.windowEndMs rows := by
  rw [latestSymbolHealth, latestWithin]
  simp only [Prod.mk.injEq, Bool.decide_and]

/-- The source health of a slice is a latest row of a group. -/
theorem latestSourceHealth_eq_latestWithin
    (rows : List SourceHealthInput)
    (slice : SliceRow Number) :
    latestSourceHealth rows slice =
      latestWithin SourceHealthInput.venue
        SourceHealthInput.observedAtMs sourceHealthSnapshot
        slice.venue slice.windowEndMs rows :=
  rfl

/-- Ties of symbol health agree if they become the same snapshot. -/
theorem symbolTiesAgree_iff
    (symbolHealth : List SymbolHealthInput) :
    SymbolTiesAgree symbolHealth ↔
      TiesAgree (fun row => (row.venue, row.symbolNative))
        SymbolHealthInput.observedAtMs symbolHealthSnapshot
        symbolHealth := by
  constructor
  · intro agree one oneMember other otherMember sameGroup sameTime
    obtain ⟨sameVenue, sameSymbol⟩ := Prod.mk.inj sameGroup
    obtain ⟨sameEvent, sameLatency, sameTradeable, sameReasons⟩ :=
      agree one oneMember other otherMember sameVenue sameSymbol sameTime
    simp only [symbolHealthSnapshot, sameTime, sameEvent, sameLatency,
      sameTradeable, sameReasons]
  · intro agree one oneMember other otherMember sameVenue sameSymbol sameTime
    have same :=
      agree one oneMember other otherMember
        (Prod.ext sameVenue sameSymbol) sameTime
    simp only [symbolHealthSnapshot, SymbolHealthSnapshot.mk.injEq] at same
    obtain ⟨-, sameEvent, -, sameLatency, sameTradeable, sameReasons⟩ := same
    exact ⟨sameEvent, sameLatency, sameTradeable, sameReasons⟩

/-- Ties of source health agree if they become the same snapshot. -/
theorem sourceTiesAgree_iff
    (sourceHealth : List SourceHealthInput) :
    SourceTiesAgree sourceHealth ↔
      TiesAgree SourceHealthInput.venue
        SourceHealthInput.observedAtMs sourceHealthSnapshot
        sourceHealth := by
  constructor
  · intro agree one oneMember other otherMember sameVenue sameTime
    obtain ⟨sameStatus, sameLevel, sameDelay, sameLag, sameGaps,
      sameRebuilds⟩ :=
      agree one oneMember other otherMember sameVenue sameTime
    simp only [sourceHealthSnapshot, sameTime, sameStatus, sameLevel,
      sameDelay, sameLag, sameGaps, sameRebuilds]
  · intro agree one oneMember other otherMember sameVenue sameTime
    have same :=
      agree one oneMember other otherMember sameVenue sameTime
    simp only [sourceHealthSnapshot, SourceHealthSnapshot.mk.injEq] at same
    exact same.2

/-- If ties agree, the symbol health does not depend on the order. -/
theorem latestSymbolHealth_eq_of_perm
    {first second : List SymbolHealthInput}
    (agree : SymbolTiesAgree first)
    (permuted : first.Perm second)
    (slice : SliceRow Number) :
    latestSymbolHealth first slice = latestSymbolHealth second slice := by
  rw [latestSymbolHealth_eq_latestWithin,
    latestSymbolHealth_eq_latestWithin]
  exact latestWithin_eq_of_perm ((symbolTiesAgree_iff first).mp agree)
    permuted _ _

/-- If ties agree, the source health does not depend on the order. -/
theorem latestSourceHealth_eq_of_perm
    {first second : List SourceHealthInput}
    (agree : SourceTiesAgree first)
    (permuted : first.Perm second)
    (slice : SliceRow Number) :
    latestSourceHealth first slice = latestSourceHealth second slice := by
  rw [latestSourceHealth_eq_latestWithin,
    latestSourceHealth_eq_latestWithin]
  exact latestWithin_eq_of_perm ((sourceTiesAgree_iff first).mp agree)
    permuted _ _

/-- Health rows reach a slice through its two snapshots only. -/
theorem applyHealthAndGapsToRow_congr
    {symbolFirst symbolSecond : List SymbolHealthInput}
    {sourceFirst sourceSecond : List SourceHealthInput}
    {slice : SliceRow Number}
    (sameSymbol :
      latestSymbolHealth symbolFirst slice =
        latestSymbolHealth symbolSecond slice)
    (sameSource :
      latestSourceHealth sourceFirst slice =
        latestSourceHealth sourceSecond slice)
    (gapAlerts : List GapAlertInput)
    (inputRange : InputRange) :
    applyHealthAndGapsToRow symbolFirst sourceFirst gapAlerts inputRange
        slice =
      applyHealthAndGapsToRow symbolSecond sourceSecond gapAlerts inputRange
        slice := by
  rw [applyHealthAndGapsToRow, applyHealthAndGapsToRow, sameSymbol,
    sameSource]

end Snapshots

section OrderFree

variable
  (Number : Type)
  [NumberFormat Number]

/-- Two lists of health rows finish a slice in the same way. -/
structure SameHealth
    (symbolFirst symbolSecond : List SymbolHealthInput)
    (sourceFirst sourceSecond : List SourceHealthInput)
    (slice : SliceRow Number) : Prop where
  symbol :
    latestSymbolHealth symbolFirst slice =
      latestSymbolHealth symbolSecond slice
  source :
    latestSourceHealth sourceFirst slice =
      latestSourceHealth sourceSecond slice
  missingReasons :
    ∀ (gapAlerts : List GapAlertInput) (inputRange : InputRange),
      (finalizeSlice
        (applyHealthAndGapsToRow symbolFirst sourceFirst gapAlerts
          inputRange slice)).missingReasons =
      (finalizeSlice
        (applyHealthAndGapsToRow symbolSecond sourceSecond gapAlerts
          inputRange slice)).missingReasons
  completeness :
    ∀ (gapAlerts : List GapAlertInput) (inputRange : InputRange),
      (finalizeSlice
        (applyHealthAndGapsToRow symbolFirst sourceFirst gapAlerts
          inputRange slice)).sliceCompleteness =
      (finalizeSlice
        (applyHealthAndGapsToRow symbolSecond sourceSecond gapAlerts
          inputRange slice)).sliceCompleteness

/-- Every order of the health rows gives every slice the same health. -/
def HealthOrderFree
    (symbolHealth : List SymbolHealthInput)
    (sourceHealth : List SourceHealthInput) : Prop :=
  ∀ symbolReordered sourceReordered,
    symbolHealth.Perm symbolReordered →
    sourceHealth.Perm sourceReordered →
    ∀ slice : SliceRow Number,
      SameHealth Number symbolHealth symbolReordered
        sourceHealth sourceReordered slice

variable {Number}

/-- Equal snapshots finish a slice in the same way. -/
theorem sameHealth_of_snapshots
    {symbolFirst symbolSecond : List SymbolHealthInput}
    {sourceFirst sourceSecond : List SourceHealthInput}
    {slice : SliceRow Number}
    (sameSymbol :
      latestSymbolHealth symbolFirst slice =
        latestSymbolHealth symbolSecond slice)
    (sameSource :
      latestSourceHealth sourceFirst slice =
        latestSourceHealth sourceSecond slice) :
    SameHealth Number symbolFirst symbolSecond sourceFirst sourceSecond
      slice where
  symbol := sameSymbol
  source := sameSource
  missingReasons := by
    intro gapAlerts inputRange
    rw [applyHealthAndGapsToRow_congr sameSymbol sameSource]
  completeness := by
    intro gapAlerts inputRange
    rw [applyHealthAndGapsToRow_congr sameSymbol sameSource]

/-- A slice of any symbol with any end. -/
def anySlice (venue symbolNative : String) (windowEndMs : Int) :
    SliceRow Number :=
  { emptySlice
      { sha256Hex := fun _ => ""
        fromStr := fun _ => none
        parseF64 := fun _ => none }
      .withDefaults
      { venue := venue
        sourceRole := "primary"
        symbolNative := symbolNative
        symbolCanonical := symbolNative
        baseAsset := symbolNative
        quoteAsset := "USDT"
        marketType := "spot" }
      0 with
    windowEndMs := windowEndMs }

/-- Health is free of the order of rows exactly if all ties agree. -/
theorem healthOrderFree_iff_tiesAgree
    (symbolHealth : List SymbolHealthInput)
    (sourceHealth : List SourceHealthInput) :
    HealthOrderFree Number symbolHealth sourceHealth ↔
      SymbolTiesAgree symbolHealth ∧ SourceTiesAgree sourceHealth := by
  constructor
  · intro orderFree
    constructor
    · rw [symbolTiesAgree_iff, tiesAgree_iff_order_independent]
      intro reordered permuted wanted bound
      have same :=
        (orderFree reordered sourceHealth permuted (List.Perm.refl _)
          (anySlice wanted.1 wanted.2 bound)).symbol
      rw [latestSymbolHealth_eq_latestWithin,
        latestSymbolHealth_eq_latestWithin] at same
      exact same
    · rw [sourceTiesAgree_iff, tiesAgree_iff_order_independent]
      intro reordered permuted wanted bound
      have same :=
        (orderFree symbolHealth reordered (List.Perm.refl _) permuted
          (anySlice wanted "" bound)).source
      exact same
  · rintro ⟨symbolAgree, sourceAgree⟩ symbolReordered sourceReordered
      symbolPermuted sourcePermuted slice
    apply sameHealth_of_snapshots
    · exact latestSymbolHealth_eq_of_perm symbolAgree symbolPermuted slice
    · exact latestSourceHealth_eq_of_perm sourceAgree sourcePermuted slice

end OrderFree

/-- Health of BTC at Binance as one producer observed it. -/
def btcHealth (isTradeable : Bool) : SymbolHealthInput where
  venue := "binance"
  symbolNative := "BTCUSDT"
  observedAtMs := 500
  lastEventTimeMs := 490
  latencyMs := 5
  isTradeable := isTradeable
  reasonCodes := if isTradeable then "" else "halted"
  payloadSha256 :=
    if isTradeable then
      "e525ec058394fa8faff464c33ad907aed4f6b4e9a379bd43dae4c4c6dc77272f"
    else
      "03b97205d3029d7d81204478cae779514122406cad4b871a581b1ff089bfdc96"
  schemaVersion := "symbol_health_v1"

/--
Two producers observe BTC in the same millisecond, one of them halted: the order
of their rows decides about the slice.
-/
theorem tied_health_depends_on_order :
    ¬ HealthOrderFree Float [btcHealth true, btcHealth false] [] := by
  intro orderFree
  have same :=
    (orderFree [btcHealth false, btcHealth true] []
      (List.Perm.swap _ _ _) (List.Perm.refl _)
      (anySlice "binance" "BTCUSDT" 1000)).missingReasons []
      ⟨0, 1000⟩
  have halted :
      "venue_unavailable" ∈
        (finalizeSlice
          (applyHealthAndGapsToRow [btcHealth true, btcHealth false] [] []
            ⟨0, 1000⟩
            (anySlice "binance" "BTCUSDT" 1000 :
              SliceRow Float))).missingReasons := by
    decide
  have tradeable :
      "venue_unavailable" ∉
        (finalizeSlice
          (applyHealthAndGapsToRow [btcHealth false, btcHealth true] [] []
            ⟨0, 1000⟩
            (anySlice "binance" "BTCUSDT" 1000 :
              SliceRow Float))).missingReasons := by
    decide
  rw [same] at halted
  exact tradeable halted

end MarketIngest.Build
