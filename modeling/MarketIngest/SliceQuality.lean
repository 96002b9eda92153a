import MarketIngest.BuildAccumulator
import MarketIngest.Canonical

namespace MarketIngest.Build

open Normalize

/-!
# Finishing slices

At the end of a build every slice gets the latest health of its symbol and of
its venue and the gaps of its window.  Then its events are put in order, its
last values are taken from them, and its completeness is decided.
-/

section Health

variable {Number : Type}

/-- The reason codes of a health row, which are joined by semicolons. -/
def splitReasonCodes (reasonCodes : String) : List String :=
  ((reasonCodes.toList.splitOn ';').map String.ofList).filter
    (fun value => value ≠ "")

/-- The snapshot that a symbol-health row becomes. -/
def symbolHealthSnapshot (row : SymbolHealthInput) : SymbolHealthSnapshot where
  observedAtMs := row.observedAtMs
  lastEventTimeMs := row.lastEventTimeMs
  lastReceivedTimeMs := saturatingAdd row.lastEventTimeMs row.latencyMs
  latencyMs := row.latencyMs
  isTradeable := row.isTradeable
  reasonCodes := splitReasonCodes row.reasonCodes

/-- The latest health of the symbol of a slice up to its end. -/
def latestSymbolHealth
    (rows : List SymbolHealthInput)
    (slice : SliceRow Number) : Option SymbolHealthSnapshot :=
  (maxByKey SymbolHealthInput.observedAtMs
    (rows.filter (fun row =>
      row.venue = slice.venue &&
        row.symbolNative = slice.symbolNative &&
        row.observedAtMs ≤ slice.windowEndMs))).map symbolHealthSnapshot

/-- The snapshot that a source-health row becomes. -/
def sourceHealthSnapshot (row : SourceHealthInput) : SourceHealthSnapshot where
  observedAtMs := row.observedAtMs
  connectionStatus := row.connectionStatus
  healthLevel := row.healthLevel
  heartbeatDelayMs := row.heartbeatDelayMs
  streamLagMs := row.streamLagMs
  recentGapCount := row.recentGapCount
  bookRebuildCount := row.bookRebuildCount

/-- The latest health of the venue of a slice up to its end. -/
def latestSourceHealth
    (rows : List SourceHealthInput)
    (slice : SliceRow Number) : Option SourceHealthSnapshot :=
  (maxByKey SourceHealthInput.observedAtMs
    (rows.filter (fun row =>
      row.venue = slice.venue &&
        row.observedAtMs ≤ slice.windowEndMs))).map sourceHealthSnapshot

/-- Levels that count as healthy. -/
def isHealthyLevel (value : String) : Bool :=
  value = "ok" || value = "healthy" || value = "nominal"

/-- Note why the slice is not complete. -/
def pushMissing
    (row : SliceRow Number)
    (reason : String) : SliceRow Number :=
  { row with missingReasons := row.missingReasons ++ [reason] }

/-- Judge the slice by the health of its symbol. -/
def applySymbolHealthSnapshot (row : SliceRow Number) : SliceRow Number :=
  match row.symbolHealthSnapshot with
  | none => pushMissing row "symbol_health_missing"
  | some snapshot =>
      let judged :=
        if snapshot.isTradeable then row
        else pushMissing row "venue_unavailable"
      if snapshot.lastReceivedTimeMs < judged.windowStartMs then
        pushMissing
          { judged with qualityStale := judged.qualityStale + 1 } "stale"
      else
        judged

/-- Judge the slice by the health of its venue. -/
def applySourceHealthSnapshot (row : SliceRow Number) : SliceRow Number :=
  match row.sourceHealthSnapshot with
  | none => pushMissing row "source_health_missing"
  | some snapshot =>
      if snapshot.connectionStatus ≠ "connected" ∨
          ¬ isHealthyLevel snapshot.healthLevel then
        pushMissing row "source_stale"
      else
        row

/-- The gap lies in the window of the slice and in the range. -/
def gapAppliesToRow
    (gap : GapAlertInput)
    (row : SliceRow Number)
    (inputRange : InputRange) : Bool :=
  gap.venue = row.venue &&
    gap.symbolNative = row.symbolNative &&
    row.windowStartMs ≤ gap.detectedAtMs &&
    gap.detectedAtMs < row.windowEndMs &&
    inputRange.startMs ≤ gap.detectedAtMs &&
    gap.detectedAtMs < inputRange.endMs

/-- The reasons that gap alerts give. -/
def gapReasons
    (gapAlerts : List GapAlertInput)
    (row : SliceRow Number)
    (inputRange : InputRange) : List String :=
  (gapAlerts.filter (fun gap => gapAppliesToRow gap row inputRange)).map
    (fun gap => "gap_alert." ++ gap.gapType)

/-- Count the gaps of the slice. -/
def applyGapAlerts
    (gapAlerts : List GapAlertInput)
    (row : SliceRow Number)
    (inputRange : InputRange) : SliceRow Number :=
  (gapReasons gapAlerts row inputRange).foldl
    (fun current reason =>
      pushMissing
        { current with qualityGap := current.qualityGap + 1 } reason)
    row

/-- Attach health and gaps to a slice. -/
def applyHealthAndGapsToRow
    (symbolHealth : List SymbolHealthInput)
    (sourceHealth : List SourceHealthInput)
    (gapAlerts : List GapAlertInput)
    (inputRange : InputRange)
    (row : SliceRow Number) : SliceRow Number :=
  let attached :=
    { row with
      symbolHealthSnapshot := latestSymbolHealth symbolHealth row
      sourceHealthSnapshot := latestSourceHealth sourceHealth row }
  applyGapAlerts gapAlerts
    (applySourceHealthSnapshot (applySymbolHealthSnapshot attached))
    inputRange

end Health

section Finalize

variable {Number : Type}

/-- Position of a trade: venue time, sequence, arrival, identifier. -/
def tradeOrderKey
    (trade : TradeNormalized Number) :
    Int ×ₗ (Int ×ₗ (Int ×ₗ String)) :=
  toLex (trade.exchangeTimestampMs,
    toLex (trade.exchangeSequence.getD i64Max,
      toLex (trade.ingestTimestampMs, trade.parentEventId)))

/-- Position of a top of the book. -/
def bookOrderKey
    (book : BookTickerNormalized Number) :
    Int ×ₗ (Int ×ₗ (Int ×ₗ String)) :=
  toLex (book.exchangeTimestampMs,
    toLex (book.exchangeSequence.getD i64Max,
      toLex (book.ingestTimestampMs, book.parentEventId)))

/-- Position of an event that is kept as a reference. -/
def compactOrderKey (event : CompactEventRef) : Int ×ₗ (Int ×ₗ String) :=
  toLex (event.exchangeTimestampMs,
    toLex (event.ingestTimestampMs, event.parentEventId))

/-- Put the events in order and take the last values from them. -/
def normalizeEventOrder (row : SliceRow Number) : SliceRow Number :=
  let tradeEvents := sortBy tradeOrderKey row.tradeEvents
  let bookTickerEvents := sortBy bookOrderKey row.bookTickerEvents
  let lastTrade := tradeEvents.getLast?
  let lastBook := bookTickerEvents.getLast?
  { row with
    tradeEvents := tradeEvents
    lastTradePrice :=
      (lastTrade.map (fun trade => trade.price)).or row.lastTradePrice
    lastTradeSize :=
      (lastTrade.map (fun trade => trade.quantity)).or row.lastTradeSize
    bookTickerEvents := bookTickerEvents
    bestBid := (lastBook.map (fun book => book.bestBid)).or row.bestBid
    bestAsk := (lastBook.map (fun book => book.bestAsk)).or row.bestAsk
    depthEvents := sortBy compactOrderKey row.depthEvents
    tickerEvents := sortBy compactOrderKey row.tickerEvents }

/-- No event reached the slice. -/
def isSilent (row : SliceRow Number) : Bool :=
  row.tradeCount = 0 && row.bookTickerCount = 0 &&
    row.depthEventCount = 0 && row.tickerEvents.isEmpty

/-- How complete the slice is. -/
def completeness (row : SliceRow Number) : String :=
  if "venue_unavailable" ∈ row.missingReasons then
    "incomplete"
  else if isSilent row then
    "incomplete"
  else if 0 < row.qualityInvalid ∧ row.qualityOk = 0 then
    "incomplete"
  else if row.missingReasons ≠ [] ∨ 0 < row.qualityDelayed ∨
      0 < row.qualityStale ∨ 0 < row.qualityGap ∨ 0 < row.qualityInvalid then
    "partial"
  else if row.sourceRole = "reference" then
    "reference_only"
  else
    "complete"

/-- Note that no event reached the slice. -/
def noteSilence (row : SliceRow Number) : SliceRow Number :=
  if isSilent row then
    if 0 < row.qualityInvalid then
      pushMissing row "all_invalid"
    else
      pushMissing row "trade_silence"
  else
    row

/-- Note that the slice has no top of the book. -/
def noteMissingTop (row : SliceRow Number) : SliceRow Number :=
  if row.bestBid.isNone ∧ row.bestAsk.isNone then
    pushMissing row "depth_top_missing"
  else
    row

/-- Parents and reasons become sets. -/
def sortSets (row : SliceRow Number) : SliceRow Number :=
  { row with
    parentEventIds := sortDedup row.parentEventIds
    parentRunIds := sortDedup row.parentRunIds
    missingReasons := sortDedup row.missingReasons }

/-- Middle and spread of the top of the book. -/
def priceTop
    [NumberFormat Number]
    (row : SliceRow Number) : SliceRow Number :=
  match row.bestBid, row.bestAsk with
  | some bid, some ask =>
      let mid := (bid + ask) / NumberFormat.ofNat 2
      { row with
        midPrice := some mid
        spreadBps :=
          if 0 < mid then
            some ((ask - bid) / mid * NumberFormat.ofNat 10000)
          else
            none }
  | _, _ => row

/-- Finish a slice. -/
def finalizeSlice
    [NumberFormat Number]
    (row : SliceRow Number) : SliceRow Number :=
  let priced :=
    priceTop (sortSets (noteMissingTop (noteSilence (normalizeEventOrder row))))
  { priced with sliceCompleteness := completeness priced }

end Finalize

/-- What a build results in. -/
structure BuildResult (Number : Type) where
  slices : List (SliceRow Number)
  projectionSlices : List (SliceRow Number)
  projectionDerivativeMetrics : List (DerivativeMetricObservation Number)
  inputObjectKeys : List String
  runMode : String
  fallbackAlert : Bool
  inputLocalObjectCount : Nat
  inputS3ObjectCount : Nat
  inputRecordCount : Nat
  duplicateEventCount : Nat
  invalidEventCount : Nat
  payloadHashMismatchCount : Nat
  inputSchemaVersions : List String
  status : BuildStatus
  failureReason : Option String

section Finish

variable
  {Number : Type}
  [NumberFormat Number]

/-- Finish all slices of a range. -/
def finishSlices
    (accumulator : BuildAccumulator Number)
    (range : InputRange)
    (rows : SliceRows Number) : List (SliceRow Number) :=
  rows.values.map (fun row =>
    finalizeSlice
      (applyHealthAndGapsToRow accumulator.symbolHealth
        accumulator.sourceHealth accumulator.gapAlerts range row))

/-- Status and failure reason of a build. -/
def finishStatus
    (stats : BuildStats)
    (slices : List (SliceRow Number)) : BuildStatus × Option String :=
  if 0 < stats.payloadHashMismatchCount then
    (.blocked, some "payload_hash_mismatch")
  else if slices.isEmpty then
    (.empty, some "no_l1_slices")
  else
    (.success, none)

/-- Finish a build. -/
def BuildAccumulator.finish
    (accumulator : BuildAccumulator Number) : BuildResult Number :=
  let slices :=
    finishSlices accumulator accumulator.inputRange accumulator.rows
  let projectionSlices :=
    finishSlices accumulator accumulator.projectionRange
      accumulator.projectionRows
  let (status, failureReason) := finishStatus accumulator.stats slices
  { slices := slices
    projectionSlices := projectionSlices
    projectionDerivativeMetrics := accumulator.projectionDerivativeMetrics
    inputObjectKeys := accumulator.metadata.inputObjectKeys
    runMode := accumulator.metadata.runMode
    fallbackAlert := accumulator.metadata.fallbackAlert
    inputLocalObjectCount := accumulator.metadata.inputLocalObjectCount
    inputS3ObjectCount := accumulator.metadata.inputS3ObjectCount
    inputRecordCount := accumulator.stats.inputRecordCount
    duplicateEventCount := accumulator.stats.duplicateEventCount
    invalidEventCount := accumulator.stats.invalidEventCount
    payloadHashMismatchCount := accumulator.stats.payloadHashMismatchCount
    inputSchemaVersions := accumulator.schemaVersions.keys
    status := status
    failureReason := failureReason }

/-- What publication needs to know of a build. -/
def BuildResult.summary
    (build : BuildResult Number) : Normalize.BuildResult where
  payloadHashMismatchCount := build.payloadHashMismatchCount
  sliceCount := build.slices.length

/-- The status of a finished build is the status of its summary. -/
theorem finish_status
    (accumulator : BuildAccumulator Number) :
    (accumulator.finish.status, accumulator.finish.failureReason) =
      accumulator.finish.summary.finish := by
  have emptiness :
      ∀ slices : List (SliceRow Number),
        slices.isEmpty = true ↔ slices.length = 0 := by
    intro slices
    rw [List.isEmpty_iff, List.length_eq_zero_iff]
  simp only [BuildAccumulator.finish, BuildResult.summary,
    Normalize.BuildResult.finish, finishStatus, emptiness, gt_iff_lt]

end Finish

end MarketIngest.Build
