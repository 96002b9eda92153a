import MarketIngest.HealthOrder

namespace MarketIngest.Build

open Normalize

/-!
# Finished slices

What health, gaps and the final pass add to a slice, field by field.  A finished
slice depends on the order of its events, parents and reasons only through what
sorting leaves of it.
-/

section Health

variable {Number : Type}

/-- The reasons that the health of a symbol gives. -/
def symbolHealthReasons
    (snapshot : Option SymbolHealthSnapshot)
    (windowStartMs : Int) : List String :=
  match snapshot with
  | none => ["symbol_health_missing"]
  | some known =>
      (if known.isTradeable then [] else ["venue_unavailable"]) ++
        (if known.lastReceivedTimeMs < windowStartMs then ["stale"] else [])

/-- How often the health of a symbol counts as stale. -/
def staleCount
    (snapshot : Option SymbolHealthSnapshot)
    (windowStartMs : Int) : Int :=
  match snapshot with
  | none => 0
  | some known =>
      if known.lastReceivedTimeMs < windowStartMs then 1 else 0

/-- The reasons that the health of a venue gives. -/
def sourceHealthReasons
    (snapshot : Option SourceHealthSnapshot) : List String :=
  match snapshot with
  | none => ["source_health_missing"]
  | some known =>
      if known.connectionStatus ≠ "connected" ∨
          ¬ isHealthyLevel known.healthLevel then
        ["source_stale"]
      else
        []

/-- The health of its symbol adds reasons to a slice. -/
theorem applySymbolHealthSnapshot_eq
    (row : SliceRow Number) :
    applySymbolHealthSnapshot row =
      { row with
        qualityStale :=
          row.qualityStale +
            staleCount row.symbolHealthSnapshot row.windowStartMs
        missingReasons :=
          row.missingReasons ++
            symbolHealthReasons row.symbolHealthSnapshot
              row.windowStartMs } := by
  unfold applySymbolHealthSnapshot symbolHealthReasons staleCount
  cases known : row.symbolHealthSnapshot with
  | none =>
      simp [pushMissing, known]
  | some snapshot =>
      by_cases stale : snapshot.lastReceivedTimeMs < row.windowStartMs
      · cases tradeable : snapshot.isTradeable <;>
          simp [pushMissing, known, tradeable, stale]
      · cases tradeable : snapshot.isTradeable with
        | false =>
            simp [pushMissing, known, tradeable, stale]
        | true =>
            simp only [tradeable, stale, if_true, if_false, List.append_nil,
              Int.add_zero, ← known]

/-- The health of its venue adds reasons to a slice. -/
theorem applySourceHealthSnapshot_eq
    (row : SliceRow Number) :
    applySourceHealthSnapshot row =
      { row with
        missingReasons :=
          row.missingReasons ++
            sourceHealthReasons row.sourceHealthSnapshot } := by
  unfold applySourceHealthSnapshot sourceHealthReasons
  cases known : row.sourceHealthSnapshot with
  | none =>
      simp [pushMissing, known]
  | some snapshot =>
      by_cases unhealthy :
          snapshot.connectionStatus ≠ "connected" ∨
            ¬ isHealthyLevel snapshot.healthLevel
      · simp only [if_pos unhealthy, pushMissing, known]
      · simp only [if_neg unhealthy, List.append_nil, ← known]

/-- Gaps are counted and add reasons to a slice. -/
theorem applyGapAlerts_eq
    (gapAlerts : List GapAlertInput)
    (row : SliceRow Number)
    (inputRange : InputRange) :
    applyGapAlerts gapAlerts row inputRange =
      { row with
        qualityGap :=
          row.qualityGap + (gapReasons gapAlerts row inputRange).length
        missingReasons :=
          row.missingReasons ++ gapReasons gapAlerts row inputRange } := by
  have pushed :
      ∀ (reasons : List String) (current : SliceRow Number),
        reasons.foldl
            (fun current reason =>
              pushMissing
                { current with qualityGap := current.qualityGap + 1 }
                reason)
            current =
          { current with
            qualityGap := current.qualityGap + reasons.length
            missingReasons := current.missingReasons ++ reasons } := by
    intro reasons
    induction reasons with
    | nil =>
        intro current
        simp
    | cons reason rest inductionHypothesis =>
        intro current
        rw [List.foldl_cons, inductionHypothesis]
        simp [pushMissing, Int.add_assoc, Int.add_comm 1]
  exact pushed _ row

/-- Health and gaps add snapshots, counts and reasons to a slice. -/
theorem applyHealthAndGapsToRow_eq
    (symbolHealth : List SymbolHealthInput)
    (sourceHealth : List SourceHealthInput)
    (gapAlerts : List GapAlertInput)
    (inputRange : InputRange)
    (row : SliceRow Number) :
    applyHealthAndGapsToRow symbolHealth sourceHealth gapAlerts inputRange
        row =
      { row with
        symbolHealthSnapshot := latestSymbolHealth symbolHealth row
        sourceHealthSnapshot := latestSourceHealth sourceHealth row
        qualityStale :=
          row.qualityStale +
            staleCount (latestSymbolHealth symbolHealth row)
              row.windowStartMs
        qualityGap :=
          row.qualityGap + (gapReasons gapAlerts row inputRange).length
        missingReasons :=
          row.missingReasons ++
            symbolHealthReasons (latestSymbolHealth symbolHealth row)
              row.windowStartMs ++
            sourceHealthReasons (latestSourceHealth sourceHealth row) ++
            gapReasons gapAlerts row inputRange } := by
  rw [applyHealthAndGapsToRow, applySymbolHealthSnapshot_eq,
    applySourceHealthSnapshot_eq, applyGapAlerts_eq]
  rfl

end Health

section Finalize

variable {Number : Type}

/-- The reasons that missing events give. -/
def silenceReasons (row : SliceRow Number) : List String :=
  if isSilent row then
    if 0 < row.qualityInvalid then ["all_invalid"] else ["trade_silence"]
  else
    []

/-- The reasons that a missing top of the book gives. -/
def missingTopReasons (row : SliceRow Number) : List String :=
  if row.bestBid.isNone ∧ row.bestAsk.isNone then
    ["depth_top_missing"]
  else
    []

/-- A slice after its reasons are noted and its parents are sets. -/
def noted (row : SliceRow Number) : SliceRow Number :=
  { row with
    parentEventIds := sortDedup row.parentEventIds
    parentRunIds := sortDedup row.parentRunIds
    missingReasons :=
      sortDedup
        (row.missingReasons ++ silenceReasons row ++
          missingTopReasons row) }

/-- Silence and a missing top are noted before the sets are sorted. -/
theorem sortSets_eq_noted
    (row : SliceRow Number) :
    sortSets (noteMissingTop (noteSilence row)) = noted row := by
  have silence :
      noteSilence row =
        { row with
          missingReasons := row.missingReasons ++ silenceReasons row } := by
    unfold noteSilence silenceReasons
    split_ifs <;> simp [pushMissing]
  rw [silence]
  unfold noteMissingTop noted missingTopReasons
  split_ifs <;> simp [sortSets, pushMissing]

variable [NumberFormat Number]

/-- A finished slice, from its ordered events. -/
theorem finalizeSlice_eq
    (row : SliceRow Number) :
    finalizeSlice row =
      { priceTop (noted (normalizeEventOrder row)) with
        sliceCompleteness :=
          completeness (priceTop (noted (normalizeEventOrder row))) } := by
  rw [finalizeSlice, sortSets_eq_noted]

/-- Pricing the top of the book sets the middle and the spread only. -/
theorem priceTop_frame
    (row : SliceRow Number) :
    ∃ midPrice spreadBps,
      priceTop row =
        { row with midPrice := midPrice, spreadBps := spreadBps } := by
  unfold priceTop
  split
  · exact ⟨_, _, rfl⟩
  · exact ⟨row.midPrice, row.spreadBps, rfl⟩

/-- What finishing a slice keeps or only puts in order. -/
structure FinishFrame (row finished : SliceRow Number) : Prop where
  key : finished.key = row.key
  qualityOk : finished.qualityOk = row.qualityOk
  qualityDelayed : finished.qualityDelayed = row.qualityDelayed
  qualityInvalid : finished.qualityInvalid = row.qualityInvalid
  tradeCount : finished.tradeCount = row.tradeCount
  tradeVolume : finished.tradeVolume = row.tradeVolume
  bookTickerCount : finished.bookTickerCount = row.bookTickerCount
  depthEventCount : finished.depthEventCount = row.depthEventCount
  tradeEvents : finished.tradeEvents.Perm row.tradeEvents
  bookTickerEvents : finished.bookTickerEvents.Perm row.bookTickerEvents
  depthEvents : finished.depthEvents.Perm row.depthEvents
  tickerEvents : finished.tickerEvents.Perm row.tickerEvents
  parentEventIds : finished.parentEventIds = sortDedup row.parentEventIds

/-- Finishing a slice keeps its counters and sorts its lists. -/
theorem finishFrame
    (symbolHealth : List SymbolHealthInput)
    (sourceHealth : List SourceHealthInput)
    (gapAlerts : List GapAlertInput)
    (inputRange : InputRange)
    (row : SliceRow Number) :
    FinishFrame row
      (finalizeSlice
        (applyHealthAndGapsToRow symbolHealth sourceHealth gapAlerts
          inputRange row)) := by
  rw [applyHealthAndGapsToRow_eq, finalizeSlice_eq]
  generalize attached :
    ({ row with
        symbolHealthSnapshot := latestSymbolHealth symbolHealth row
        sourceHealthSnapshot := latestSourceHealth sourceHealth row
        qualityStale := _
        qualityGap := _
        missingReasons := _ } : SliceRow Number) = middle
  obtain ⟨midPrice, spreadBps, priced⟩ :=
    priceTop_frame (noted (normalizeEventOrder middle))
  rw [priced]
  subst attached
  exact
    { key := rfl
      qualityOk := rfl
      qualityDelayed := rfl
      qualityInvalid := rfl
      tradeCount := rfl
      tradeVolume := rfl
      bookTickerCount := rfl
      depthEventCount := rfl
      tradeEvents := sortBy_perm _ _
      bookTickerEvents := sortBy_perm _ _
      depthEvents := sortBy_perm _ _
      tickerEvents := sortBy_perm _ _
      parentEventIds := rfl }

/-- A finished slice is made from a stored one. -/
theorem exists_entry_of_mem_finishSlices
    {accumulator : BuildAccumulator Number}
    {range : InputRange}
    {rows : SliceRows Number}
    {finished : SliceRow Number}
    (member : finished ∈ finishSlices accumulator range rows) :
    ∃ key row,
      (key, row) ∈ rows.entries ∧
        finished =
          finalizeSlice
            (applyHealthAndGapsToRow accumulator.symbolHealth
              accumulator.sourceHealth accumulator.gapAlerts range row) := by
  obtain ⟨row, among, rfl⟩ := List.mem_map.mp member
  obtain ⟨⟨key, value⟩, entry, rfl⟩ := List.mem_map.mp among
  exact ⟨key, value, entry, rfl⟩

/-- Slices that are stored under their own keys keep them. -/
theorem finishSlices_keys
    (accumulator : BuildAccumulator Number)
    (range : InputRange)
    {rows : SliceRows Number}
    (own : ∀ key row, (key, row) ∈ rows.entries → row.key = key) :
    (finishSlices accumulator range rows).map SliceRow.key = rows.keys := by
  rw [finishSlices, OrderedMap.values, OrderedMap.keys, List.map_map,
    List.map_map]
  apply List.map_congr_left
  rintro ⟨key, row⟩ entry
  have framed :=
    finishFrame accumulator.symbolHealth accumulator.sourceHealth
      accumulator.gapAlerts range row
  exact framed.key.trans (own key row entry)

end Finalize

end MarketIngest.Build
