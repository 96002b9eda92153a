import MarketIngest.NumberFormat
import Mathlib.Data.Prod.Lex

namespace MarketIngest.Normalize

/-!
# Input rows and slices

A run reads rows of four families and turns the raw events into slices: one row
for each venue, symbol and window.  Numbers are double-precision unless another
format is given.
-/

/-- A raw event as it was stored. -/
structure RawInputEvent where
  eventId : String
  producerRunId : String
  venue : String
  sourceRole : String
  marketType : String
  eventType : String
  symbolNative : String
  symbolCanonical : String
  baseAsset : String
  quoteAsset : String
  exchangeTimestampMs : Int
  ingestTimestampMs : Int
  exchangeSequence : Option Int
  payloadJson : String
  payloadSha256 : String
  schemaVersion : String
  deriving Repr, DecidableEq

/-- The health of a symbol at a venue, as it was observed. -/
structure SymbolHealthInput where
  venue : String
  symbolNative : String
  observedAtMs : Int
  lastEventTimeMs : Int
  latencyMs : Int
  isTradeable : Bool
  reasonCodes : String
  payloadSha256 : String
  schemaVersion : String
  deriving Repr, DecidableEq

/-- The health of the connection to a venue, as it was observed. -/
structure SourceHealthInput where
  venue : String
  observedAtMs : Int
  connectionStatus : String
  heartbeatDelayMs : Int
  streamLagMs : Int
  recentGapCount : Int
  bookRebuildCount : Int
  healthLevel : String
  payloadJson : String
  payloadSha256 : String
  schemaVersion : String
  deriving Repr, DecidableEq

/-- A gap in the events of a symbol. -/
structure GapAlertInput where
  venue : String
  symbolNative : String
  gapType : String
  detectedAtMs : Int
  payloadJson : String
  payloadSha256 : String
  schemaVersion : String
  deriving Repr, DecidableEq

/-- A parsed trade. -/
structure TradeNormalized (Number : Type := Float) where
  exchangeTimestampMs : Int
  ingestTimestampMs : Int
  price : Number
  quantity : Number
  side : String
  exchangeSequence : Option Int
  parentEventId : String
  deriving DecidableEq

/-- A parsed top of the book. -/
structure BookTickerNormalized (Number : Type := Float) where
  exchangeTimestampMs : Int
  ingestTimestampMs : Int
  bestBid : Number
  bestBidQty : Number
  bestAsk : Number
  bestAskQty : Number
  exchangeSequence : Option Int
  parentEventId : String
  deriving DecidableEq

/-- A reference to an event that is kept without its payload. -/
structure CompactEventRef where
  exchangeTimestampMs : Int
  ingestTimestampMs : Int
  eventType : String
  parentEventId : String
  deriving Repr, DecidableEq

/-- A parsed funding rate or open interest. -/
structure DerivativeMetricObservation (Number : Type := Float) where
  venue : String
  sourceRole : String
  marketType : String
  metricName : String
  symbolNative : String
  symbolCanonical : String
  baseAsset : String
  quoteAsset : String
  value : Number
  unit : String
  exchangeTimestampMs : Int
  ingestTimestampMs : Int
  parentEventId : String
  parentRunId : String
  deriving DecidableEq

/-- The health of a symbol that a slice carries. -/
structure SymbolHealthSnapshot where
  observedAtMs : Int
  lastEventTimeMs : Int
  lastReceivedTimeMs : Int
  latencyMs : Int
  isTradeable : Bool
  reasonCodes : List String
  deriving Repr, DecidableEq

/-- The health of a venue that a slice carries. -/
structure SourceHealthSnapshot where
  observedAtMs : Int
  connectionStatus : String
  healthLevel : String
  heartbeatDelayMs : Int
  streamLagMs : Int
  recentGapCount : Int
  bookRebuildCount : Int
  deriving Repr, DecidableEq

/-- One window of one symbol at one venue. -/
structure SliceRow (Number : Type := Float) where
  sliceId : String
  venue : String
  sourceRole : String
  symbolNative : String
  symbolCanonical : String
  baseAsset : String
  quoteAsset : String
  marketType : String
  windowMs : Int
  windowStartMs : Int
  windowEndMs : Int
  sliceCompleteness : String
  missingReasons : List String
  qualityOk : Int
  qualityDelayed : Int
  qualityStale : Int
  qualityGap : Int
  qualityInvalid : Int
  tradeCount : Int
  tradeVolume : Number
  lastTradePrice : Option Number
  lastTradeSize : Option Number
  bestBid : Option Number
  bestAsk : Option Number
  midPrice : Option Number
  spreadBps : Option Number
  bookTickerCount : Int
  depthEventCount : Int
  depthBookRebuilt : Bool
  tradeEvents : List (TradeNormalized Number)
  bookTickerEvents : List (BookTickerNormalized Number)
  depthEvents : List CompactEventRef
  tickerEvents : List CompactEventRef
  symbolHealthSnapshot : Option SymbolHealthSnapshot
  sourceHealthSnapshot : Option SourceHealthSnapshot
  parentEventIds : List String
  parentRunIds : List String
  deriving DecidableEq

/-- Key of a slice, ordered by venue, then symbol, then window. -/
abbrev SliceKey := String ×ₗ (String ×ₗ Int)

/-- The key of a venue, a symbol and a window. -/
def sliceKey
    (venue symbolCanonical : String)
    (windowStartMs : Int) : SliceKey :=
  toLex (venue, toLex (symbolCanonical, windowStartMs))

/-- The key of a slice. -/
def SliceRow.key
    {Number : Type}
    (row : SliceRow Number) : SliceKey :=
  sliceKey row.venue row.symbolCanonical row.windowStartMs

end MarketIngest.Normalize
