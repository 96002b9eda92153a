import MarketIngest.IndexPointer
import MarketIngest.Payload

namespace MarketIngest.Build

open Normalize

/-!
# Reading rows into slices

A build goes through the rows of its input one after the other.  A raw event is
checked, deduplicated by its identifier and applied to the slice of its venue,
symbol and window.  The first event of a symbol seeds the slices of all windows
of the range.  Health rows and gap alerts are collected for the end.
-/

/-- Counters of a build. -/
structure BuildStats where
  inputRecordCount : Nat
  duplicateEventCount : Nat
  invalidEventCount : Nat
  payloadHashMismatchCount : Nat
  deriving Repr, DecidableEq

/-- All counters at zero. -/
def BuildStats.zero : BuildStats where
  inputRecordCount := 0
  duplicateEventCount := 0
  invalidEventCount := 0
  payloadHashMismatchCount := 0

/-- Count a record that was read. -/
def BuildStats.countRecord (stats : BuildStats) : BuildStats :=
  { stats with inputRecordCount := stats.inputRecordCount + 1 }

/-- Count a duplicate. -/
def BuildStats.countDuplicate (stats : BuildStats) : BuildStats :=
  { stats with duplicateEventCount := stats.duplicateEventCount + 1 }

/-- Count an invalid record. -/
def BuildStats.countInvalid (stats : BuildStats) : BuildStats :=
  { stats with invalidEventCount := stats.invalidEventCount + 1 }

/-- Count a payload that does not have its hash. -/
def BuildStats.countHashMismatch (stats : BuildStats) : BuildStats :=
  { stats with
    payloadHashMismatchCount := stats.payloadHashMismatchCount + 1 }

/-- A venue and a symbol. -/
abbrev IdentityKey := String ×ₗ String

/-- The venue and symbol of an event. -/
def identityKey (event : RawInputEvent) : IdentityKey :=
  toLex (event.venue, event.symbolCanonical)

/-- What the slices of a symbol at a venue have in common. -/
structure Identity where
  venue : String
  sourceRole : String
  symbolNative : String
  symbolCanonical : String
  baseAsset : String
  quoteAsset : String
  marketType : String
  deriving Repr, DecidableEq

/-- The identity that an event carries. -/
def Identity.fromEvent (event : RawInputEvent) : Identity where
  venue := event.venue
  sourceRole := event.sourceRole
  symbolNative := event.symbolNative
  symbolCanonical := event.symbolCanonical
  baseAsset := event.baseAsset
  quoteAsset := event.quoteAsset
  marketType := event.marketType

/-- Where the input of a build comes from. -/
structure BuildInputMetadata where
  runMode : String
  fallbackAlert : Bool
  inputLocalObjectCount : Nat
  inputS3ObjectCount : Nat
  inputObjectKeys : List String
  deriving Repr, DecidableEq

/-- A set of texts in ascending order. -/
abbrev TextSet := OrderedMap String Unit

/-- Slices by key. -/
abbrev SliceRows (Number : Type) := OrderedMap SliceKey (SliceRow Number)

/-- The state of a build. -/
structure BuildAccumulator (Number : Type) where
  inputRange : InputRange
  scanRange : InputRange
  projectionRange : InputRange
  inputIdentities : OrderedMap IdentityKey Identity
  projectionIdentities : OrderedMap IdentityKey Identity
  rows : SliceRows Number
  projectionRows : SliceRows Number
  projectionDerivativeMetrics : List (DerivativeMetricObservation Number)
  symbolHealth : List SymbolHealthInput
  sourceHealth : List SourceHealthInput
  gapAlerts : List GapAlertInput
  stats : BuildStats
  projectionStats : BuildStats
  schemaVersions : TextSet
  seenEventIds : TextSet
  metadata : BuildInputMetadata

variable {Number : Type}

/-- The range that the projections of a run look back to. -/
def lookbackRange
    (args : NormalizeArgs)
    (inputRange : InputRange) : InputRange where
  startMs := saturatingSub inputRange.startMs args.projectionLookbackMs
  endMs := inputRange.endMs

/-- The state before the first row. -/
def BuildAccumulator.new
    (args : NormalizeArgs)
    (inputRange scanRange : InputRange)
    (metadata : BuildInputMetadata) : BuildAccumulator Number where
  inputRange := inputRange
  scanRange := scanRange
  projectionRange := lookbackRange args inputRange
  inputIdentities := .empty
  projectionIdentities := .empty
  rows := .empty
  projectionRows := .empty
  projectionDerivativeMetrics := []
  symbolHealth := []
  sourceHealth := []
  gapAlerts := []
  stats := .zero
  projectionStats := .zero
  schemaVersions := .empty
  seenEventIds := .empty
  metadata := metadata

section Slices

variable
  [NumberFormat Number]
  (codec : Codec Number)
  (args : NormalizeArgs)

/-- The slice of a window before its first event. -/
def emptySlice
    (identity : Identity)
    (windowStartMs : Int) : SliceRow Number where
  sliceId :=
    codec.sha256Hex
      (identity.venue ++ "|" ++ identity.symbolCanonical ++ "|" ++
        toString windowStartMs ++ "|" ++ toString args.windowMs.1 ++ "|" ++
        sliceSchemaVersion)
  venue := identity.venue
  sourceRole := identity.sourceRole
  symbolNative := identity.symbolNative
  symbolCanonical := identity.symbolCanonical
  baseAsset := identity.baseAsset
  quoteAsset := identity.quoteAsset
  marketType := identity.marketType
  windowMs := args.windowMs
  windowStartMs := windowStartMs
  windowEndMs := saturatingAdd windowStartMs args.windowMs
  sliceCompleteness := ""
  missingReasons := []
  qualityOk := 0
  qualityDelayed := 0
  qualityStale := 0
  qualityGap := 0
  qualityInvalid := 0
  tradeCount := 0
  tradeVolume := 0
  lastTradePrice := none
  lastTradeSize := none
  bestBid := none
  bestAsk := none
  midPrice := none
  spreadBps := none
  bookTickerCount := 0
  depthEventCount := 0
  depthBookRebuilt := false
  tradeEvents := []
  bookTickerEvents := []
  depthEvents := []
  tickerEvents := []
  symbolHealthSnapshot := none
  sourceHealthSnapshot := none
  parentEventIds := []
  parentRunIds := []

/-- The loop over the windows to seed, with a bound on its rounds. -/
def seedWindowStartsFrom
    (windowMs endMs : Int) :
    Nat → Int → List Int
  | 0, _ => []
  | rounds + 1, current =>
      if current < endMs then
        current ::
          seedWindowStartsFrom windowMs endMs rounds
            (saturatingAdd current windowMs)
      else
        []

/-- The windows that a symbol is seeded for. -/
def seedWindowStarts (inputRange : InputRange) (windowMs : Int) : List Int :=
  seedWindowStartsFrom windowMs inputRange.endMs
    (inputRange.endMs - inputRange.startMs).toNat inputRange.startMs

/-- Seed the slices of a symbol; slices that exist stay. -/
def seedIdentitySlices
    (inputRange : InputRange)
    (identity : Identity)
    (rows : SliceRows Number) : SliceRows Number :=
  (seedWindowStarts inputRange args.windowMs).foldl
    (fun current windowStartMs =>
      current.upsert
        (sliceKey identity.venue identity.symbolCanonical windowStartMs)
        (fun known =>
          known.getD (emptySlice codec args identity windowStartMs)))
    rows

/-- Derivative metrics are not part of any slice. -/
def isDerivativeMarketEvent (event : RawInputEvent) : Bool :=
  event.venue = "binance" &&
    (event.eventType = "funding_rate_snapshot" ||
      event.eventType = "open_interest_snapshot")

/-- The event becomes a parent of the slice. -/
def pushParent
    (row : SliceRow Number)
    (event : RawInputEvent) : SliceRow Number :=
  { row with
    parentEventIds := row.parentEventIds ++ [event.eventId]
    parentRunIds := row.parentRunIds ++ [event.producerRunId] }

/-- The event came later than the accepted latency. -/
def isDelayed (event : RawInputEvent) : Bool :=
  args.maxLatencyMs.1 <
    saturatingSub event.ingestTimestampMs event.exchangeTimestampMs

/-- Count the event as in time or as delayed. -/
def markEventQuality
    (row : SliceRow Number)
    (event : RawInputEvent) : SliceRow Number :=
  if isDelayed args event then
    { row with qualityDelayed := row.qualityDelayed + 1 }
  else
    { row with qualityOk := row.qualityOk + 1 }

/-- Count the event as invalid, in the slice and in the build. -/
def markInvalid
    (row : SliceRow Number)
    (stats : BuildStats)
    (reason : String) : SliceRow Number × BuildStats :=
  ({ row with
      qualityInvalid := row.qualityInvalid + 1
      missingReasons := row.missingReasons ++ [reason] },
    stats.countInvalid)

/-- Add a trade to its slice. -/
def applyTradeEvent
    (row : SliceRow Number)
    (event : RawInputEvent)
    (stats : BuildStats) : SliceRow Number × BuildStats :=
  match parseTrade codec event with
  | some trade =>
      (pushParent
        (markEventQuality args
          { row with
            tradeCount := row.tradeCount + 1
            tradeVolume := row.tradeVolume + trade.quantity
            lastTradePrice := some trade.price
            lastTradeSize := some trade.quantity
            tradeEvents := row.tradeEvents ++ [trade] }
          event)
        event,
        stats)
  | none => markInvalid row stats "parse_trade_failed"

/-- Keep the reference to a snapshot of the book. -/
def pushDepthSnapshot
    (row : SliceRow Number)
    (event : RawInputEvent) : SliceRow Number :=
  if event.eventType = "depth_snapshot" then
    pushParent
      { row with
        depthEventCount := row.depthEventCount + 1
        depthEvents := row.depthEvents ++ [compactRef event] }
      event
  else
    row

/-- Add a top of the book to its slice. -/
def applyBookEvent
    (row : SliceRow Number)
    (event : RawInputEvent)
    (stats : BuildStats) : SliceRow Number × BuildStats :=
  let (parsed, counted) :=
    match parseBookTicker codec event with
    | some book =>
        (pushParent
          (markEventQuality args
            { row with
              bookTickerCount := row.bookTickerCount + 1
              bestBid := some book.bestBid
              bestAsk := some book.bestAsk
              bookTickerEvents := row.bookTickerEvents ++ [book] }
            event)
          event,
          stats)
    | none =>
        if event.eventType = "book_ticker" then
          markInvalid row stats "parse_book_ticker_failed"
        else
          (row, stats)
  (pushDepthSnapshot parsed event, counted)

/-- Add a change of the book to its slice. -/
def applyCompactDepthEvent
    (row : SliceRow Number)
    (event : RawInputEvent) : SliceRow Number :=
  pushParent
    (markEventQuality args
      { row with
        depthEventCount := row.depthEventCount + 1
        depthEvents := row.depthEvents ++ [compactRef event] }
      event)
    event

/-- Add a ticker to its slice. -/
def applyTickerEvent
    (row : SliceRow Number)
    (event : RawInputEvent) : SliceRow Number :=
  pushParent
    (markEventQuality args
      { row with tickerEvents := row.tickerEvents ++ [compactRef event] }
      event)
    event

/-- Add an event to its slice, by the type of the event. -/
def applyToRow
    (row : SliceRow Number)
    (event : RawInputEvent)
    (stats : BuildStats) : SliceRow Number × BuildStats :=
  if event.eventType = "trade" then
    applyTradeEvent codec args row event stats
  else if event.eventType = "book_ticker" ∨
      event.eventType = "depth_snapshot" then
    applyBookEvent codec args row event stats
  else if event.eventType = "depth_delta" then
    (applyCompactDepthEvent args row event, stats)
  else if event.eventType = "ticker" then
    (applyTickerEvent args row event, stats)
  else
    markInvalid row stats "unknown_event_type"

/-- Key of the slice of an event. -/
def eventSliceKey (event : RawInputEvent) : SliceKey :=
  sliceKey event.venue event.symbolCanonical
    (event.exchangeTimestampMs / args.windowMs * args.windowMs)

/-- The event lies in the range. -/
def inRange (range : InputRange) (event : RawInputEvent) : Bool :=
  range.startMs ≤ event.exchangeTimestampMs &&
    event.exchangeTimestampMs < range.endMs

/-- Apply an event of the range; an event without a slice is dropped. -/
def applyEvent
    (inputRange : InputRange)
    (event : RawInputEvent)
    (rows : SliceRows Number)
    (stats : BuildStats) : SliceRows Number × BuildStats :=
  if ¬ inRange inputRange event then
    (rows, stats)
  else
    match rows.get? (eventSliceKey args event) with
    | none => (rows, stats)
    | some row =>
        let (applied, counted) := applyToRow codec args row event stats
        (rows.insert (eventSliceKey args event) applied, counted)

end Slices

section Ingest

variable
  [NumberFormat Number]
  (codec : Codec Number)
  (args : NormalizeArgs)

/-- The first event of a symbol registers it and seeds its slices. -/
def ensureIdentity
    (range : InputRange)
    (event : RawInputEvent)
    (identities : OrderedMap IdentityKey Identity)
    (rows : SliceRows Number) :
    OrderedMap IdentityKey Identity × SliceRows Number :=
  match identities.get? (identityKey event) with
  | some _ => (identities, rows)
  | none =>
      let identity := Identity.fromEvent event
      (identities.insert (identityKey event) identity,
        seedIdentitySlices codec args range identity rows)

/-- Read a derivative metric inside the range of the projections. -/
def ingestDerivativeEvent
    (accumulator : BuildAccumulator Number)
    (event : RawInputEvent) : BuildAccumulator Number :=
  if ¬ inRange accumulator.projectionRange event then
    accumulator
  else
    match parseDerivativeMetric codec event with
    | none =>
        { accumulator with stats := accumulator.stats.countInvalid }
    | some observation =>
        { accumulator with
          projectionDerivativeMetrics :=
            accumulator.projectionDerivativeMetrics ++ [observation] }

/-- Apply an event to the slices of the projections, if it is in range. -/
def ingestProjectionEvent
    (accumulator : BuildAccumulator Number)
    (event : RawInputEvent) : BuildAccumulator Number :=
  if ¬ inRange accumulator.projectionRange event then
    accumulator
  else
    let (identities, seeded) :=
      ensureIdentity codec args accumulator.projectionRange event
        accumulator.projectionIdentities accumulator.projectionRows
    let (rows, stats) :=
      applyEvent codec args accumulator.projectionRange event seeded
        accumulator.projectionStats
    { accumulator with
      projectionIdentities := identities
      projectionRows := rows
      projectionStats := stats }

/-- Apply an event to the slices of the input range, if it is in range. -/
def ingestInputEvent
    (accumulator : BuildAccumulator Number)
    (event : RawInputEvent) : BuildAccumulator Number :=
  if ¬ inRange accumulator.inputRange event then
    accumulator
  else
    let (identities, seeded) :=
      ensureIdentity codec args accumulator.inputRange event
        accumulator.inputIdentities accumulator.rows
    let (rows, stats) :=
      applyEvent codec args accumulator.inputRange event seeded
        accumulator.stats
    { accumulator with
      inputIdentities := identities
      rows := rows
      stats := stats }

/-- Apply an event to both ranges. -/
def ingestSpotEvent
    (accumulator : BuildAccumulator Number)
    (event : RawInputEvent) : BuildAccumulator Number :=
  ingestInputEvent codec args
    (ingestProjectionEvent codec args accumulator event) event

/-- Count a record and note its schema. -/
def BuildAccumulator.countRecord
    (accumulator : BuildAccumulator Number)
    (schemaVersion : String) : BuildAccumulator Number :=
  { accumulator with
    stats := accumulator.stats.countRecord
    schemaVersions := accumulator.schemaVersions.insert schemaVersion () }

/-- Read a raw event. -/
def ingestRawEvent
    (accumulator : BuildAccumulator Number)
    (event : RawInputEvent) : BuildAccumulator Number :=
  let counted := accumulator.countRecord event.schemaVersion
  if event.schemaVersion ≠ "raw_market_event_v2" then
    { counted with stats := counted.stats.countInvalid }
  else if codec.sha256Hex event.payloadJson ≠ event.payloadSha256 then
    { counted with stats := counted.stats.countHashMismatch.countInvalid }
  else if event.exchangeTimestampMs ≤ 0 ∨
      saturatingAdd counted.scanRange.endMs args.clockSkewMarginMs ≤
        event.exchangeTimestampMs then
    { counted with stats := counted.stats.countInvalid }
  else if (counted.seenEventIds.get? event.eventId).isSome then
    { counted with stats := counted.stats.countDuplicate }
  else
    let seen :=
      { counted with
        seenEventIds := counted.seenEventIds.insert event.eventId () }
    if isDerivativeMarketEvent event then
      ingestDerivativeEvent codec seen event
    else
      ingestSpotEvent codec args seen event

/-- Read a symbol-health row. -/
def ingestSymbolHealth
    (accumulator : BuildAccumulator Number)
    (row : SymbolHealthInput) : BuildAccumulator Number :=
  let counted := accumulator.countRecord row.schemaVersion
  let payload :=
    row.venue ++ ":" ++ row.symbolNative ++ ":" ++
      toString row.observedAtMs ++ ":" ++ row.reasonCodes
  if row.schemaVersion ≠ "symbol_health_v1" then
    { counted with stats := counted.stats.countInvalid }
  else if codec.sha256Hex payload ≠ row.payloadSha256 then
    { counted with stats := counted.stats.countInvalid.countHashMismatch }
  else
    { counted with symbolHealth := counted.symbolHealth ++ [row] }

/-- Count a row with the wrong schema or the wrong hash. -/
def countUnreadable
    (stats : BuildStats)
    (schemaVersion expected : String) : BuildStats :=
  if schemaVersion = expected then
    stats.countInvalid.countHashMismatch
  else
    stats.countInvalid

/-- Read a source-health row. -/
def ingestSourceHealth
    (accumulator : BuildAccumulator Number)
    (row : SourceHealthInput) : BuildAccumulator Number :=
  let counted := accumulator.countRecord row.schemaVersion
  if row.schemaVersion ≠ "source_health_v2" ∨
      codec.sha256Hex row.payloadJson ≠ row.payloadSha256 then
    { counted with
      stats :=
        countUnreadable counted.stats row.schemaVersion "source_health_v2" }
  else
    { counted with sourceHealth := counted.sourceHealth ++ [row] }

/-- Read a gap alert. -/
def ingestGapAlert
    (accumulator : BuildAccumulator Number)
    (row : GapAlertInput) : BuildAccumulator Number :=
  let counted := accumulator.countRecord row.schemaVersion
  if row.schemaVersion ≠ "gap_alert_v1" ∨
      codec.sha256Hex row.payloadJson ≠ row.payloadSha256 then
    { counted with
      stats :=
        countUnreadable counted.stats row.schemaVersion "gap_alert_v1" }
  else
    { counted with gapAlerts := counted.gapAlerts ++ [row] }

end Ingest

end MarketIngest.Build
