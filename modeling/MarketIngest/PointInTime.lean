import MarketIngest.ProjectionSlices
import MarketIngest.RegimeContexts

namespace MarketIngest.Normalize

/-!
# Published features are point-in-time

Deltas and contexts up to a window are computed from the rows up to that window:
every computation looks back.  So two runs that agree up to a window publish the
same features up to it.
-/

section Deltas

variable {Number : Type}

/-- In sorted rows the partition point finds the last row at or before a time. -/
theorem valueAtOrBefore_eq
    {rows : List (SliceRow Number)}
    (ascending :
      rows.Pairwise (fun first second =>
        first.windowStartMs ≤ second.windowStartMs))
    (target : Int)
    (value : SliceRow Number → Option Number) :
    valueAtOrBefore rows target value =
      (rows.reverse.find? fun row =>
        decide (row.windowStartMs ≤ target)).bind value := by
  rw [← getElem?_partitionPoint ascending, valueAtOrBefore]
  split_ifs
  · rfl
  · rfl

/-- A value of the past does not depend on later rows. -/
theorem valueAtOrBefore_upTo
    {rows : List (SliceRow Number)}
    (ascending :
      rows.Pairwise (fun first second =>
        first.windowStartMs ≤ second.windowStartMs))
    {target window : Int}
    (earlier : target ≤ window)
    (value : SliceRow Number → Option Number) :
    valueAtOrBefore
        (rows.filter fun row => decide (row.windowStartMs ≤ window)) target
        value =
      valueAtOrBefore rows target value := by
  rw [valueAtOrBefore_eq (ascending.filter _),
    valueAtOrBefore_eq ascending, find?_reverse_upTo rows earlier]

variable
  [NumberFormat Number]
  (sha256Hex : String → String)
  (l1RunId : String)
  (knownAsOfMs : Int)

/-- The deltas of a slice are of its window. -/
theorem windowStartMs_of_mem_sliceDeltas
    {rows : List (SliceRow Number)}
    {row : SliceRow Number}
    {delta : MarketFeatureDelta Number}
    (member : delta ∈ sliceDeltas sha256Hex l1RunId knownAsOfMs rows row) :
    delta.windowStartMs = row.windowStartMs := by
  unfold sliceDeltas at member
  cases known : price row with
  | none =>
      simp only [known, List.nil_append, List.mem_singleton] at member
      rw [member]
      rfl
  | some valueNow =>
      simp only [known, List.cons_append, List.nil_append,
        List.mem_cons, List.not_mem_nil, or_false] at member
      rcases member with rfl | rfl
      · rfl
      · rfl

/-- The deltas of a slice look back. -/
theorem sliceDeltas_looksBack :
    LooksBack (fun _ => True)
      (fun row : SliceRow Number => row.windowStartMs)
      (fun delta : MarketFeatureDelta Number => delta.windowStartMs)
      (sliceDeltas sha256Hex l1RunId knownAsOfMs) where
  own := by
    intro rows row delta member
    exact
      windowStartMs_of_mem_sliceDeltas sha256Hex l1RunId knownAsOfMs member
  causal := by
    intro rows row window ascending _ within
    have quarter : row.windowStartMs - fifteenMinutesMs ≤ window := by
      unfold fifteenMinutesMs
      omega
    have hour : row.windowStartMs - oneHourMs ≤ window := by
      unfold oneHourMs
      omega
    unfold sliceDeltas
    simp only [valueAtOrBefore_upTo ascending quarter,
      valueAtOrBefore_upTo ascending hour]

/-- The deltas of the slices up to a window are the deltas up to it. -/
theorem spotFeatureDeltas_upTo
    (inputRange : InputRange)
    (slices : List (SliceRow Number))
    (window : Int) :
    (spotFeatureDeltas sha256Hex l1RunId inputRange knownAsOfMs
        slices).filter (fun delta => decide (delta.windowStartMs ≤ window)) =
      spotFeatureDeltas sha256Hex l1RunId inputRange knownAsOfMs
        (slices.filter fun row => decide (row.windowStartMs ≤ window)) :=
  (sliceDeltas_looksBack sha256Hex l1RunId knownAsOfMs).filter_groups
    symbolWindowKey _ (fun _ _ => trivial) window

/-- The value of a metric in the past does not depend on later observations. -/
theorem derivativeValueAtOrBefore_upTo
    (rows : List (DerivativeMetricObservation Number))
    {target window : Int}
    (earlier : target ≤ window) :
    derivativeValueAtOrBefore
        (rows.filter fun row => decide (row.exchangeTimestampMs ≤ window))
        target =
      derivativeValueAtOrBefore rows target := by
  rw [derivativeValueAtOrBefore, derivativeValueAtOrBefore,
    find?_reverse_upTo rows earlier]

/-- The deltas of an observation look back. -/
theorem derivativeFeatureDelta_looksBack :
    LooksBack (fun _ => True)
      (fun row : DerivativeMetricObservation Number =>
        row.exchangeTimestampMs)
      (fun delta : MarketFeatureDelta Number => delta.windowStartMs)
      (fun rows row =>
        [derivativeFeatureDelta sha256Hex l1RunId rows row]) where
  own := by
    intro rows row delta member
    rw [List.mem_singleton.mp member]
    rfl
  causal := by
    intro rows row window _ _ within
    have quarter : row.exchangeTimestampMs - fifteenMinutesMs ≤ window := by
      unfold fifteenMinutesMs
      omega
    have hour : row.exchangeTimestampMs - oneHourMs ≤ window := by
      unfold oneHourMs
      omega
    unfold derivativeFeatureDelta
    simp only [derivativeValueAtOrBefore_upTo rows quarter,
      derivativeValueAtOrBefore_upTo rows hour]

/-- The deltas of the observations up to a time are the deltas up to it. -/
theorem buildDerivativeFeatureDeltas_upTo
    (inputRange : InputRange)
    (metrics : List (DerivativeMetricObservation Number))
    (window : Int) :
    (buildDerivativeFeatureDeltas sha256Hex l1RunId inputRange
        metrics).filter (fun delta =>
          decide (delta.windowStartMs ≤ window)) =
      buildDerivativeFeatureDeltas sha256Hex l1RunId inputRange
        (metrics.filter fun row =>
          decide (row.exchangeTimestampMs ≤ window)) := by
  have upTo :=
    (derivativeFeatureDelta_looksBack sha256Hex l1RunId).filter_groups
      derivativeMetricKey
      (fun row => decide (inputRange.startMs ≤ row.exchangeTimestampMs))
      (fun _ (_ : _ ∈ metrics) => trivial) window
  simpa only [List.map_eq_flatMap, buildDerivativeFeatureDeltas,
    groupDerivativeMetrics] using upTo

/-- All deltas up to a window are those of the rows up to it. -/
theorem buildMarketFeatureDeltas_upTo
    (inputRange : InputRange)
    (slices : List (SliceRow Number))
    (metrics : List (DerivativeMetricObservation Number))
    (window : Int) :
    (buildMarketFeatureDeltas sha256Hex l1RunId inputRange knownAsOfMs
        slices metrics).filter (fun delta =>
          decide (delta.windowStartMs ≤ window)) =
      buildMarketFeatureDeltas sha256Hex l1RunId inputRange knownAsOfMs
        (slices.filter fun row => decide (row.windowStartMs ≤ window))
        (metrics.filter fun row =>
          decide (row.exchangeTimestampMs ≤ window)) := by
  rw [buildMarketFeatureDeltas, filter_sortBy, List.filter_append,
    spotFeatureDeltas_upTo, buildDerivativeFeatureDeltas_upTo]
  rfl

end Deltas

section Contexts

variable
  {Number : Type}
  [NumberFormat Number]

/-- A price of the past does not depend on later rows. -/
theorem priceWithWindowAtOrBefore_upTo
    (rows : List (SliceRow Number))
    {target window : Int}
    (earlier : target ≤ window) :
    priceWithWindowAtOrBefore
        (rows.filter fun row => decide (row.windowStartMs ≤ window)) target =
      priceWithWindowAtOrBefore rows target := by
  rw [priceWithWindowAtOrBefore, priceWithWindowAtOrBefore,
    find?_reverse_upTo rows earlier]

/-- The price before a row is the price at the last millisecond before it. -/
theorem nearestPriorPriceWithWindow_eq
    (rows : List (SliceRow Number))
    (currentWindowStartMs : Int) :
    nearestPriorPriceWithWindow rows currentWindowStartMs =
      priceWithWindowAtOrBefore rows (currentWindowStartMs - 1) := by
  unfold nearestPriorPriceWithWindow priceWithWindowAtOrBefore
  simp only [Int.le_sub_one_iff]

/-- The timestamp of a row is representable. -/
def SliceRow.Representable (row : SliceRow Number) : Prop :=
  i64Min ≤ row.windowStartMs ∧ row.windowStartMs ≤ i64Max

/-- The sample of a slice looks back. -/
theorem windowSample_looksBack :
    LooksBack SliceRow.Representable
      (fun row : SliceRow Number => row.windowStartMs)
      (fun sample : Int × ReturnSample Number => sample.1)
      (fun rows row => (windowSample rows row).toList) where
  own := by
    intro rows row sample member
    rw [Option.mem_toList, windowSample] at member
    obtain ⟨_, _, rfl⟩ := Option.map_eq_some_iff.mp member
    rfl
  causal := by
    intro rows row window _ representable within
    have hour : saturatingSub row.windowStartMs oneHourMs ≤ window := by
      have bounds := representable
      unfold SliceRow.Representable at bounds
      unfold saturatingSub clampI64 oneHourMs
      omega
    have before : row.windowStartMs - 1 ≤ window := by
      omega
    unfold windowSample returnSampleForRow
    simp only [nearestPriorPriceWithWindow_eq,
      priceWithWindowAtOrBefore_upTo rows hour,
      priceWithWindowAtOrBefore_upTo rows before]

/-- The samples of the slices up to a window are the samples up to it. -/
theorem windowSamples_upTo
    {slices : List (SliceRow Number)}
    (representable : ∀ row ∈ slices, row.Representable)
    (window : Int) :
    (windowSamples slices).filter
        (fun sample => decide (sample.1 ≤ window)) =
      windowSamples
        (slices.filter fun row => decide (row.windowStartMs ≤ window)) := by
  have upTo :=
    windowSample_looksBack.filter_groups symbolWindowKey (fun _ => true)
      representable window
  simpa only [List.filter_true, ← List.filterMap_eq_flatMap_toList,
    windowSamples, groupSlicesBySymbol] using upTo

/-- The samples of the windows up to a window are those of the slices up to
it. -/
theorem returnSamplesByWindow_upTo
    {slices : List (SliceRow Number)}
    (representable : ∀ row ∈ slices, row.Representable)
    (window : Int) :
    (returnSamplesByWindow slices).restrict
        (fun key => decide (key ≤ window)) =
      returnSamplesByWindow
        (slices.filter fun row => decide (row.windowStartMs ≤ window)) := by
  apply OrderedMap.ext_get?
  intro key
  have grouped (samples : List (Int × ReturnSample Number)) :=
    @OrderedMap.get?_foldl_upsert Int (List (ReturnSample Number)) _ _
      (fun sample : Int × ReturnSample Number => sample.1)
      (fun sample known => known.getD [] ++ [sample.2]) samples .empty key
  rw [OrderedMap.get?_restrict, returnSamplesByWindow,
    returnSamplesByWindow, grouped, grouped,
    ← windowSamples_upTo representable, List.filter_filter]
  by_cases within : key ≤ window
  · rw [if_pos (by simpa using within)]
    congr 1
    apply List.filter_congr
    intro sample _
    by_cases same : sample.1 = key
    · simp [same, within]
    · simp [same]
  · have none :
        (windowSamples slices).filter
            (fun sample =>
              decide (sample.1 = key) && decide (sample.1 ≤ window)) =
          [] := by
      rw [List.filter_eq_nil_iff]
      intro sample _
      by_cases same : sample.1 = key
      · simp [same, within]
      · simp [same]
    rw [if_neg (by simpa using within), none]
    rfl

variable [SquareRoot Number]

/-- The correlation up to a window does not depend on later windows. -/
theorem rollingCorrelationToBtc_restrict
    (returnsByWindow : OrderedMap Int (List (ReturnSample Number)))
    {current window : Int}
    (within : current ≤ window) :
    rollingCorrelationToBtc
        (returnsByWindow.restrict fun key => decide (key ≤ window)) current =
      rollingCorrelationToBtc returnsByWindow current := by
  have windows :
      ((returnsByWindow.restrict fun key =>
          decide (key ≤ window)).entries.filter fun entry =>
        decide (saturatingSub current oneHourMs ≤ entry.1) &&
          decide (entry.1 ≤ current)) =
        returnsByWindow.entries.filter fun entry =>
          decide (saturatingSub current oneHourMs ≤ entry.1) &&
            decide (entry.1 ≤ current) := by
    rw [OrderedMap.restrict, List.filter_filter]
    apply List.filter_congr
    intro entry _
    by_cases before : entry.1 ≤ current
    · simp [before, before.trans within]
    · simp [before]
  unfold rollingCorrelationToBtc
  simp only [windows]

/-- The contexts up to a window are those of the slices up to it. -/
theorem buildMarketRegimeContexts_upTo
    (sha256Hex : String → String)
    (l1RunId : String)
    (knownAsOfMs : Int)
    (inputRange : InputRange)
    {slices : List (SliceRow Number)}
    (representable : ∀ row ∈ slices, row.Representable)
    (window : Int) :
    (buildMarketRegimeContexts sha256Hex l1RunId knownAsOfMs inputRange
        slices).filter (fun context =>
          decide (context.windowStartMs ≤ window)) =
      buildMarketRegimeContexts sha256Hex l1RunId knownAsOfMs inputRange
        (slices.filter fun row => decide (row.windowStartMs ≤ window)) := by
  unfold buildMarketRegimeContexts
  simp only [← returnSamplesByWindow_upTo representable window]
  rw [List.filter_map]
  change List.map _
    ((((returnSamplesByWindow slices).entries.filter _).filter
      fun entry => decide (entry.1 ≤ window))) = _
  rw [List.filter_comm]
  apply List.map_congr_left
  intro entry member
  have within : entry.1 ≤ window := by
    have inWindow := (List.mem_filter.mp (List.mem_filter.mp member).1).2
    simpa using inWindow
  unfold regimeContextForWindow
  simp only [rollingCorrelationToBtc_restrict _ within]

end Contexts

end MarketIngest.Normalize

namespace MarketIngest.Build

open Normalize

section Labels

variable {Number : Type}

/-- The symbol of an identity. -/
def Identity.symbolWindowKey (identity : Identity) : SymbolWindowKey :=
  toLex (identity.venue,
    toLex (identity.symbolNative,
      toLex (identity.symbolCanonical, identity.marketType)))

/-- A slice has the symbol of an identity if their labels agree. -/
theorem symbolWindowKey_eq_iff
    {row : SliceRow Number}
    {identity : Identity} :
    Normalize.symbolWindowKey row = identity.symbolWindowKey ↔
      row.venue = identity.venue ∧
        row.symbolNative = identity.symbolNative ∧
        row.symbolCanonical = identity.symbolCanonical ∧
        row.marketType = identity.marketType := by
  simp only [Normalize.symbolWindowKey, Identity.symbolWindowKey,
    EmbeddingLike.apply_eq_iff_eq, Prod.mk.injEq]

/-- The slice is of the same symbol at the same venue. -/
def SameSymbol (first second : SliceRow Number) : Prop :=
  first.venue = second.venue ∧
    first.symbolCanonical = second.symbolCanonical

/-- The window of a slice contains an instant. -/
def WindowContains (row : SliceRow Number) (instant : Int) : Prop :=
  row.windowStartMs ≤ instant ∧ instant < row.windowEndMs

/-- Slices of one group are of the same symbol at the same venue. -/
theorem sameSymbol_of_symbolWindowKey_eq
    {first second : SliceRow Number}
    (same :
      Normalize.symbolWindowKey first = Normalize.symbolWindowKey second) :
    SameSymbol first second := by
  simp only [Normalize.symbolWindowKey, EmbeddingLike.apply_eq_iff_eq,
    Prod.mk.injEq] at same
  exact ⟨same.1, same.2.2.1⟩

end Labels

section Grid

variable
  {Number : Type}
  [NumberFormat Number]
  {codec : Codec Number}
  {args : NormalizeArgs}
  {scanRange inputRange : InputRange}
  {rows : List InputRow}
  {accumulator : BuildAccumulator Number}

/-- Finishing a slice keeps its symbol and its window. -/
theorem finish_labels
    (symbolHealth : List SymbolHealthInput)
    (sourceHealth : List SourceHealthInput)
    (gapAlerts : List GapAlertInput)
    (range : InputRange)
    (row : SliceRow Number) :
    let finished :=
      finalizeSlice
        (applyHealthAndGapsToRow symbolHealth sourceHealth gapAlerts range
          row)
    symbolWindowKey finished = symbolWindowKey row ∧
      finished.windowStartMs = row.windowStartMs ∧
      finished.windowEndMs = row.windowEndMs := by
  intro finished
  subst finished
  rw [applyHealthAndGapsToRow_eq, finalizeSlice_eq]
  generalize attached :
    ({ row with
        symbolHealthSnapshot := latestSymbolHealth symbolHealth row
        sourceHealthSnapshot := latestSourceHealth sourceHealth row
        qualityStale := _
        qualityGap := _
        missingReasons := _ } : SliceRow Number) = middle
  obtain ⟨midPrice, spreadBps, priced⟩ :=
    priceTop_frame (noted (normalizeEventOrder middle))
  rw [priced]
  subst attached
  exact ⟨rfl, rfl, rfl⟩

/-- A slice of the projections is of the grid of its symbol. -/
theorem exists_identity_of_mem_projectionSlices
    (holds : BuildHolds codec args scanRange inputRange rows accumulator)
    {finished : SliceRow Number}
    (member : finished ∈ accumulator.finish.projectionSlices) :
    ∃ identity : Identity,
      firstIdentity
          (rangeEvents codec args scanRange (lookbackRange args inputRange)
            rows)
          finished.venue finished.symbolCanonical = some identity ∧
        symbolWindowKey finished = identity.symbolWindowKey ∧
        isSeeded args (lookbackRange args inputRange)
          finished.windowStartMs = true ∧
        finished.windowEndMs =
          saturatingAdd finished.windowStartMs args.windowMs := by
  obtain ⟨key, value, entry, rfl⟩ := exists_entry_of_mem_finishSlices member
  obtain ⟨identity, windowStartMs, isIdentity, seeded, _, isRow⟩ :=
    holds.projection.seed_of_entry entry
  obtain ⟨symbol, starts, ends⟩ :=
    finish_labels accumulator.symbolHealth accumulator.sourceHealth
      accumulator.gapAlerts accumulator.projectionRange value
  have rowSymbol : symbolWindowKey value = identity.symbolWindowKey := by
    rw [isRow]
    rfl
  have ofIdentity := symbol.trans rowSymbol
  have rowStarts : value.windowStartMs = windowStartMs := by
    rw [isRow]
    rfl
  have rowEnds :
      value.windowEndMs = saturatingAdd windowStartMs args.windowMs := by
    rw [isRow]
    rfl
  have names := symbolWindowKey_eq_iff.mp ofIdentity
  refine ⟨identity, ?_, ofIdentity, ?_, ?_⟩
  · rw [names.1, names.2.2.1]
    exact isIdentity
  · rw [starts, rowStarts]
    exact seeded
  · rw [ends, rowEnds, starts, rowStarts]

/-- Slices of one symbol are in one group. -/
theorem symbolWindowKey_eq_of_sameSymbol
    (holds : BuildHolds codec args scanRange inputRange rows accumulator)
    {first second : SliceRow Number}
    (firstMember : first ∈ accumulator.finish.projectionSlices)
    (secondMember : second ∈ accumulator.finish.projectionSlices)
    (same : SameSymbol first second) :
    symbolWindowKey first = symbolWindowKey second := by
  obtain ⟨identity, isIdentity, firstKey, _, _⟩ :=
    exists_identity_of_mem_projectionSlices holds firstMember
  obtain ⟨other, isOther, secondKey, _, _⟩ :=
    exists_identity_of_mem_projectionSlices holds secondMember
  rw [same.1, same.2] at isIdentity
  rw [firstKey, secondKey,
    Option.some.inj (isIdentity.symm.trans isOther)]

/-- A symbol has one slice a window. -/
theorem eq_of_same_window
    (holds : BuildHolds codec args scanRange inputRange rows accumulator)
    {first second : SliceRow Number}
    (firstMember : first ∈ accumulator.finish.projectionSlices)
    (secondMember : second ∈ accumulator.finish.projectionSlices)
    (same : SameSymbol first second)
    (window : first.windowStartMs = second.windowStartMs) :
    first = second := by
  have distinct :
      (accumulator.finish.projectionSlices.map SliceRow.key).Nodup := by
    rw [projectionSlices_keys holds]
    exact OrderedMap.keys_nodup _
  apply List.inj_on_of_nodup_map distinct firstMember secondMember
  rw [SliceRow.key, SliceRow.key, same.1, same.2, window]

section Past

variable {interval : Int}

/-- The grid of an accepted range starts at a representable time. -/
private theorem gridStart_representable
    (accepted :
      validateRange inputRange.startMs inputRange.endMs args.windowMs
        interval = .ok ())
    (endRepresentable : inputRange.endMs ≤ i64Max) :
    i64Min ≤ (lookbackRange args inputRange).startMs := by
  obtain ⟨nonneg, nonempty⟩ := bounds_of_validateRange accepted
  exact lookbackRange_representable nonneg (by omega)

/-- Which windows the projections of an accepted range have. -/
theorem isSeeded_lookback
    (accepted :
      validateRange inputRange.startMs inputRange.endMs args.windowMs
        interval = .ok ())
    (endRepresentable : inputRange.endMs ≤ i64Max)
    {windowStartMs : Int} :
    isSeeded args (lookbackRange args inputRange) windowStartMs = true ↔
      (lookbackRange args inputRange).startMs ≤ windowStartMs ∧
        windowStartMs < inputRange.endMs ∧
        args.windowMs.1 ∣
          windowStartMs - (lookbackRange args inputRange).startMs := by
  obtain ⟨nonneg, nonempty⟩ := bounds_of_validateRange accepted
  exact
    isSeeded_iff_of_representable
      (lookbackRange_representable nonneg (by omega)) endRepresentable

/-- The instant before a slice lies in one window of its symbol. -/
theorem exists_windowContains
    (holds : BuildHolds codec args scanRange inputRange rows accumulator)
    (accepted :
      validateRange inputRange.startMs inputRange.endMs args.windowMs
        interval = .ok ())
    (endRepresentable : inputRange.endMs ≤ i64Max)
    {row : SliceRow Number}
    (member : row ∈ accumulator.finish.projectionSlices)
    {instant : Int}
    (onGrid : (lookbackRange args inputRange).startMs ≤ instant)
    (before : instant < row.windowStartMs) :
    ∃ past ∈ accumulator.finish.projectionSlices,
      SameSymbol past row ∧ WindowContains past instant := by
  have windowPositive : 0 < args.windowMs.1 := args.windowMs.2.1
  obtain ⟨identity, isIdentity, _, seeded, _⟩ :=
    exists_identity_of_mem_projectionSlices holds member
  obtain ⟨_, rowEnd, rowAligned⟩ :=
    (isSeeded_lookback accepted endRepresentable).mp seeded
  let gridStart := (lookbackRange args inputRange).startMs
  let windows := (instant - gridStart) / args.windowMs.1
  have lower : windows * args.windowMs.1 ≤ instant - gridStart :=
    Int.ediv_mul_le _ windowPositive.ne'
  have upper :
      instant - gridStart < windows * args.windowMs.1 + args.windowMs.1 := by
    have next := Int.lt_ediv_add_one_mul_self (instant - gridStart)
      windowPositive
    rwa [Int.add_mul, Int.one_mul] at next
  have notNegative : 0 ≤ windows * args.windowMs.1 :=
    Int.mul_nonneg
      (Int.ediv_nonneg (Int.sub_nonneg.mpr onGrid) windowPositive.le)
      windowPositive.le
  have pastSeeded :
      isSeeded args (lookbackRange args inputRange)
        (gridStart + windows * args.windowMs.1) = true := by
    rw [isSeeded_lookback accepted endRepresentable]
    refine ⟨by omega, by omega, ?_⟩
    rw [add_sub_cancel_left]
    exact Int.dvd_mul_left _ _
  have listed :
      sliceKey row.venue row.symbolCanonical
          (gridStart + windows * args.windowMs.1) ∈
        accumulator.finish.projectionSlices.map SliceRow.key := by
    rw [projectionSlices_keys holds, sliceKey_mem_projectionKeys_iff holds,
      isIdentity]
    exact ⟨rfl, pastSeeded⟩
  obtain ⟨past, pastMember, pastKey⟩ := List.mem_map.mp listed
  simp only [SliceRow.key, sliceKey, EmbeddingLike.apply_eq_iff_eq,
    Prod.mk.injEq] at pastKey
  obtain ⟨_, _, _, _, pastEnds⟩ :=
    exists_identity_of_mem_projectionSlices holds pastMember
  refine ⟨past, pastMember, ⟨pastKey.1, pastKey.2.1⟩, by omega, ?_⟩
  rw [pastEnds, pastKey.2.2, saturatingAdd, clampI64]
  omega

/-- A window that starts at or before an instant that another window contains
is not after it. -/
theorem windowStartMs_le_of_windowContains
    (holds : BuildHolds codec args scanRange inputRange rows accumulator)
    (accepted :
      validateRange inputRange.startMs inputRange.endMs args.windowMs
        interval = .ok ())
    (endRepresentable : inputRange.endMs ≤ i64Max)
    {past other : SliceRow Number}
    (pastMember : past ∈ accumulator.finish.projectionSlices)
    (otherMember : other ∈ accumulator.finish.projectionSlices)
    {instant : Int}
    (contains : WindowContains past instant)
    (starts : other.windowStartMs ≤ instant) :
    other.windowStartMs ≤ past.windowStartMs := by
  obtain ⟨_, _, _, pastSeeded, pastEnds⟩ :=
    exists_identity_of_mem_projectionSlices holds pastMember
  obtain ⟨_, _, _, otherSeeded, _⟩ :=
    exists_identity_of_mem_projectionSlices holds otherMember
  obtain ⟨afterStart, _, pastAligned⟩ :=
    (isSeeded_lookback accepted endRepresentable).mp pastSeeded
  obtain ⟨_, _, otherAligned⟩ :=
    (isSeeded_lookback accepted endRepresentable).mp otherSeeded
  have ends : instant < past.windowStartMs + args.windowMs.1 := by
    have within := contains.2
    have started := contains.1
    have gridStart := gridStart_representable accepted endRepresentable
    rw [pastEnds, saturatingAdd, clampI64] at within
    omega
  by_contra after
  have apart : args.windowMs.1 ∣ other.windowStartMs - past.windowStartMs := by
    have difference := Int.dvd_sub otherAligned pastAligned
    rwa [sub_sub_sub_cancel_right] at difference
  have atLeast := Int.le_of_dvd (by omega) apart
  omega

/-- What a feature says about an instant of the past. -/
structure PastValue
    (slices : List (SliceRow Number))
    (gridStartMs : Int)
    (row : SliceRow Number)
    (instant : Int)
    (valueOf : SliceRow Number → Option Number)
    (value : Option Number) : Prop where
  onGrid :
    gridStartMs ≤ instant →
      ∃ past ∈ slices,
        SameSymbol past row ∧ WindowContains past instant ∧
          value = valueOf past ∧
          ∀ other ∈ slices,
            SameSymbol other row → WindowContains other instant →
              other = past
  beforeGrid : instant < gridStartMs → value = none

/-- In the slices of a build, looking back finds the slice whose window contains
the instant. -/
theorem valueAtOrBefore_pastValue
    (holds : BuildHolds codec args scanRange inputRange rows accumulator)
    (accepted :
      validateRange inputRange.startMs inputRange.endMs args.windowMs
        interval = .ok ())
    (endRepresentable : inputRange.endMs ≤ i64Max)
    {group : List (SliceRow Number)}
    (isGroup :
      group ∈
        (groupSlicesBySymbol accumulator.finish.projectionSlices).values)
    {row : SliceRow Number}
    (member : row ∈ group)
    {instant : Int}
    (before : instant < row.windowStartMs)
    (valueOf : SliceRow Number → Option Number) :
    PastValue accumulator.finish.projectionSlices
      (lookbackRange args inputRange).startMs row instant valueOf
      (valueAtOrBefore group instant valueOf) := by
  obtain ⟨key, ofKey⟩ := exists_key_of_mem_groupByTime isGroup
  have ascending := groupByTime_ascending isGroup
  obtain ⟨rowMember, rowKey⟩ := (ofKey row).mp member
  rw [valueAtOrBefore_eq ascending]
  constructor
  case onGrid =>
    intro onGrid
    obtain ⟨past, pastMember, same, contains⟩ :=
      exists_windowContains holds accepted endRepresentable rowMember onGrid
        before
    have isPast :
        ∀ other ∈ accumulator.finish.projectionSlices,
          SameSymbol other row → WindowContains other instant →
            other = past := by
      intro other otherMember otherSame otherContains
      refine eq_of_same_window holds otherMember pastMember
        ⟨otherSame.1.trans same.1.symm, otherSame.2.trans same.2.symm⟩ ?_
      apply le_antisymm
      · exact
          windowStartMs_le_of_windowContains holds accepted endRepresentable
            pastMember otherMember contains otherContains.1
      · exact
          windowStartMs_le_of_windowContains holds accepted endRepresentable
            otherMember pastMember otherContains contains.1
    refine ⟨past, pastMember, same, contains, ?_, isPast⟩
    have inGroup : past ∈ group :=
      (ofKey past).mpr
        ⟨pastMember,
          (symbolWindowKey_eq_of_sameSymbol holds pastMember rowMember
            same).trans rowKey⟩
    cases last :
        group.reverse.find? fun row =>
          decide (row.windowStartMs ≤ instant) with
    | none =>
        have absent :=
          List.find?_eq_none.mp last past (List.mem_reverse.mpr inGroup)
        exact absurd contains.1 (by simpa using absent)
    | some found =>
        have foundInGroup : found ∈ group :=
          List.mem_reverse.mp (List.mem_of_find?_eq_some last)
        obtain ⟨foundMember, foundKey⟩ := (ofKey found).mp foundInGroup
        have foundStarts : found.windowStartMs ≤ instant := by
          simpa using List.find?_some last
        have isFound : found = past := by
          refine eq_of_same_window holds foundMember pastMember
            (sameSymbol_of_symbolWindowKey_eq
              (foundKey.trans ((ofKey past).mp inGroup).2.symm)) ?_
          apply le_antisymm
          · exact
              windowStartMs_le_of_windowContains holds accepted
                endRepresentable pastMember foundMember contains foundStarts
          · exact
              timeOf_le_of_find?_reverse ascending last inGroup contains.1
        rw [isFound]
        rfl
  case beforeGrid =>
    intro early
    have none :
        (group.reverse.find? fun row =>
          decide (row.windowStartMs ≤ instant)) = none := by
      rw [List.find?_eq_none]
      intro other inReverse
      have otherMember := ((ofKey other).mp (List.mem_reverse.mp inReverse)).1
      obtain ⟨_, _, _, seeded, _⟩ :=
        exists_identity_of_mem_projectionSlices holds otherMember
      have afterStart :=
        ((isSeeded_lookback accepted endRepresentable).mp seeded).1
      simp only [decide_eq_true_eq]
      omega
    rw [none]
    rfl

/-- A delta of a slice says what its metric was 15 minutes and an hour before. -/
structure LooksUpPast
    (slices : List (SliceRow Number))
    (gridStartMs : Int)
    (delta : MarketFeatureDelta Number)
    (row : SliceRow Number)
    (valueOf : SliceRow Number → Option Number) : Prop where
  symbol :
    delta.venue = row.venue ∧ delta.symbolCanonical = row.symbolCanonical
  window : delta.windowStartMs = row.windowStartMs
  quarter :
    PastValue slices gridStartMs row (row.windowStartMs - fifteenMinutesMs)
      valueOf delta.value15mAgo
  hour :
    PastValue slices gridStartMs row (row.windowStartMs - oneHourMs) valueOf
      delta.value1hAgo

/-- The deltas of the slices of a build look the past up on its grid. -/
theorem spotFeatureDeltas_lookUpPast
    (holds : BuildHolds codec args scanRange inputRange rows accumulator)
    (accepted :
      validateRange inputRange.startMs inputRange.endMs args.windowMs
        interval = .ok ())
    (endRepresentable : inputRange.endMs ≤ i64Max)
    {sha256Hex : String → String}
    {l1RunId : String}
    {range : InputRange}
    {knownAsOfMs : Int}
    {delta : MarketFeatureDelta Number}
    (member :
      delta ∈
        spotFeatureDeltas sha256Hex l1RunId range knownAsOfMs
          accumulator.finish.projectionSlices) :
    ∃ row ∈ accumulator.finish.projectionSlices,
      ∃ valueOf : SliceRow Number → Option Number,
        (delta.metricName = "price" ∧ valueOf = price ∨
          delta.metricName = "trade_volume" ∧ valueOf = volume) ∧
        LooksUpPast accumulator.finish.projectionSlices
          (lookbackRange args inputRange).startMs delta row valueOf := by
  obtain ⟨group, isGroup, inGroup⟩ := List.mem_flatMap.mp member
  obtain ⟨row, selected, made⟩ := List.mem_flatMap.mp inGroup
  have rowInGroup := (List.mem_filter.mp selected).1
  have past
      (instant : Int)
      (before : instant < row.windowStartMs)
      (valueOf : SliceRow Number → Option Number) :=
    valueAtOrBefore_pastValue holds accepted endRepresentable isGroup
      rowInGroup before valueOf
  have quarter : row.windowStartMs - fifteenMinutesMs < row.windowStartMs := by
    unfold fifteenMinutesMs
    omega
  have hour : row.windowStartMs - oneHourMs < row.windowStartMs := by
    unfold oneHourMs
    omega
  refine ⟨row, mem_of_mem_groupByTime isGroup rowInGroup, ?_⟩
  unfold sliceDeltas at made
  rcases List.mem_append.mp made with ofPrice | ofVolume
  · cases known : price row with
    | none =>
        rw [known] at ofPrice
        cases ofPrice
    | some valueNow =>
        rw [known] at ofPrice
        rw [List.mem_singleton.mp ofPrice]
        exact
          ⟨price, Or.inl ⟨rfl, rfl⟩,
            ⟨rfl, rfl⟩, rfl, past _ quarter price, past _ hour price⟩
  · rw [List.mem_singleton.mp ofVolume]
    exact
      ⟨volume, Or.inr ⟨rfl, rfl⟩,
        ⟨rfl, rfl⟩, rfl, past _ quarter volume, past _ hour volume⟩

end Past

end Grid

section Published

variable
  {Number : Type}
  [NumberFormat Number]
  [SquareRoot Number]

/-- Two inputs of the projections have the same rows up to a window. -/
structure AgreeUpTo
    (window : Int)
    (first second : List (SliceRow Number))
    (firstMetrics secondMetrics :
      List (DerivativeMetricObservation Number)) : Prop where
  representable :
    ∀ row ∈ first ++ second, row.Representable
  slices :
    (first.filter fun row => decide (row.windowStartMs ≤ window)) =
      second.filter fun row => decide (row.windowStartMs ≤ window)
  metrics :
    (firstMetrics.filter fun row =>
        decide (row.exchangeTimestampMs ≤ window)) =
      secondMetrics.filter fun row =>
        decide (row.exchangeTimestampMs ≤ window)

/-- Two inputs of the projections give the same features up to a window. -/
structure SameFeaturesUpTo
    (window : Int)
    (sha256Hex : String → String)
    (l1RunId : String)
    (inputRange : InputRange)
    (knownAsOfMs : Int)
    (first second : List (SliceRow Number))
    (firstMetrics secondMetrics :
      List (DerivativeMetricObservation Number)) : Prop where
  deltas :
    (buildMarketFeatureDeltas sha256Hex l1RunId inputRange knownAsOfMs
        first firstMetrics).filter (fun delta =>
          decide (delta.windowStartMs ≤ window)) =
      (buildMarketFeatureDeltas sha256Hex l1RunId inputRange knownAsOfMs
        second secondMetrics).filter fun delta =>
          decide (delta.windowStartMs ≤ window)
  contexts :
    (buildMarketRegimeContexts sha256Hex l1RunId knownAsOfMs inputRange
        first).filter (fun context =>
          decide (context.windowStartMs ≤ window)) =
      (buildMarketRegimeContexts sha256Hex l1RunId knownAsOfMs inputRange
        second).filter fun context =>
          decide (context.windowStartMs ≤ window)

/-- Inputs that agree up to a window give the same features up to it. -/
theorem AgreeUpTo.sameFeatures
    {window : Int}
    {first second : List (SliceRow Number)}
    {firstMetrics secondMetrics :
      List (DerivativeMetricObservation Number)}
    (agree : AgreeUpTo window first second firstMetrics secondMetrics)
    (sha256Hex : String → String)
    (l1RunId : String)
    (inputRange : InputRange)
    (knownAsOfMs : Int) :
    SameFeaturesUpTo window sha256Hex l1RunId inputRange knownAsOfMs first
      second firstMetrics secondMetrics where
  deltas := by
    rw [buildMarketFeatureDeltas_upTo, buildMarketFeatureDeltas_upTo,
      agree.slices, agree.metrics]
  contexts := by
    rw [buildMarketRegimeContexts_upTo sha256Hex l1RunId knownAsOfMs
        inputRange (fun row member =>
          agree.representable row (List.mem_append_left _ member)),
      buildMarketRegimeContexts_upTo sha256Hex l1RunId knownAsOfMs
        inputRange (fun row member =>
          agree.representable row (List.mem_append_right _ member)),
      agree.slices]

/-- Features do not depend on later rows, and those of a build look the past up
in the windows that contain it. -/
theorem publishedFeatures_pointInTime
    (sha256Hex : String → String)
    (l1RunId : String)
    (featureRange : InputRange)
    (knownAsOfMs window : Int)
    (first second : List (SliceRow Number))
    (firstMetrics secondMetrics :
      List (DerivativeMetricObservation Number))
    (agree : AgreeUpTo window first second firstMetrics secondMetrics)
    (codec : Codec Number)
    (args : NormalizeArgs)
    (inputRange scanRange : InputRange)
    (interval : Int)
    (accepted :
      validateRange inputRange.startMs inputRange.endMs args.windowMs
        interval = .ok ())
    (endRepresentable : inputRange.endMs ≤ i64Max)
    (metadata : BuildInputMetadata)
    (rows : List InputRow) :
    let projectionSlices :=
      (ingestRows codec args
        (BuildAccumulator.new args inputRange scanRange metadata)
        rows).finish.projectionSlices
    SameFeaturesUpTo window sha256Hex l1RunId featureRange knownAsOfMs
        first second firstMetrics secondMetrics ∧
      ∀ delta ∈
          spotFeatureDeltas sha256Hex l1RunId featureRange knownAsOfMs
            projectionSlices,
        ∃ row ∈ projectionSlices,
          ∃ valueOf : SliceRow Number → Option Number,
            (delta.metricName = "price" ∧ valueOf = price ∨
              delta.metricName = "trade_volume" ∧ valueOf = volume) ∧
            LooksUpPast projectionSlices
              (lookbackRange args inputRange).startMs delta row valueOf := by
  constructor
  · exact agree.sameFeatures sha256Hex l1RunId featureRange knownAsOfMs
  · intro delta member
    exact
      spotFeatureDeltas_lookUpPast (buildHolds_ingestRows metadata rows)
        accepted endRepresentable member

/-- A slice of BTC with one trade. -/
def pricedBtcSlice (windowStartMs : Int) (tradePrice : ℚ) : SliceRow ℚ :=
  { emptySlice btcCodec namedBucketArgs
      (Identity.fromEvent (btcTrade "t-1")) windowStartMs with
    lastTradePrice := some tradePrice
    tradeVolume := 2
    tradeCount := 1 }

/-- An open interest of BTC. -/
def btcInterest (exchangeTimestampMs : Int) :
    DerivativeMetricObservation ℚ where
  venue := "binance"
  sourceRole := "primary"
  marketType := "usdm_perpetual"
  metricName := "open_interest"
  symbolNative := "BTCUSDT"
  symbolCanonical := "BTC"
  baseAsset := "BTC"
  quoteAsset := "USDT"
  value := 5000
  unit := "base_asset"
  exchangeTimestampMs := exchangeTimestampMs
  ingestTimestampMs := exchangeTimestampMs + 10
  parentEventId := "evt_binance_open_interest_0"
  parentRunId := "run-1"

/-- The slices of two moments a quarter hour apart. -/
def quarterApart : List (SliceRow ℚ) :=
  [pricedBtcSlice 0 100, pricedBtcSlice 900000 110]

/-- A later crash and a later open interest change no feature of the first
quarter hour, whose last price is compared with its first one; and the features
of a build with one trade look the past up. -/
theorem publishedFeatures_pointInTime_btc :
    let built :=
      (ingestRows btcCodec namedBucketArgs
        (BuildAccumulator.new namedBucketArgs ⟨0, 1000⟩ ⟨0, 1000⟩ oneObject)
        [.rawEvent (btcTrade "t-1")]).finish.projectionSlices
    (SameFeaturesUpTo 900000 btcCodec.sha256Hex "l1_0_902000_1902000"
          ⟨0, 902000⟩ 1902000 (quarterApart ++ [pricedBtcSlice 901000 1])
          quarterApart [btcInterest 500, btcInterest 901500]
          [btcInterest 500] ∧
        ∀ delta ∈
            spotFeatureDeltas btcCodec.sha256Hex "l1_0_902000_1902000"
              ⟨0, 902000⟩ 1902000 built,
          ∃ row ∈ built,
            ∃ valueOf : SliceRow ℚ → Option ℚ,
              (delta.metricName = "price" ∧ valueOf = price ∨
                delta.metricName = "trade_volume" ∧ valueOf = volume) ∧
              LooksUpPast built
                (lookbackRange namedBucketArgs ⟨0, 1000⟩).startMs delta row
                valueOf) ∧
      (((buildMarketFeatureDeltas btcCodec.sha256Hex "l1_0_902000_1902000"
              ⟨0, 902000⟩ 1902000 quarterApart [btcInterest 500]).filter
            fun delta => delta.metricName = "price").map
          fun delta =>
            (delta.windowStartMs, delta.valueNow, delta.value15mAgo)) =
        [(0, 100, none), (900000, 110, some 100)] := by
  intro built
  have agree :
      AgreeUpTo 900000 (quarterApart ++ [pricedBtcSlice 901000 1])
        quarterApart [btcInterest 500, btcInterest 901500]
        [btcInterest 500] :=
    { representable := by
        intro row member
        simp only [quarterApart, List.cons_append, List.nil_append,
          List.mem_cons, List.not_mem_nil, or_false] at member
        rcases member with rfl | rfl | rfl | rfl | rfl
        all_goals
          unfold SliceRow.Representable
          decide
      slices := rfl
      metrics := rfl }
  exact
    ⟨publishedFeatures_pointInTime btcCodec.sha256Hex "l1_0_902000_1902000"
        ⟨0, 902000⟩ 1902000 900000 _ _ _ _ agree btcCodec namedBucketArgs
        ⟨0, 1000⟩ ⟨0, 1000⟩ 1000 (by decide) (by decide) oneObject
        [.rawEvent (btcTrade "t-1")],
      by decide +kernel⟩

end Published

end MarketIngest.Build
