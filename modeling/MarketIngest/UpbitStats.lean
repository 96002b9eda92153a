import MarketIngest.FoldCounts
import MarketIngest.Saturating
import MarketIngest.UpbitEvents

namespace MarketIngest.Upbit

/-!
# Statistics of a watched Upbit stream

The statistics count every message by its kind, track the last trade and the
last book of every market, and raise a gap alert where the next one is older.
An error of the exchange is an alert of its own, and a message of no known kind
counts as malformed although it was parsed.
-/

/-- The top of a book. -/
structure UpbitBestQuote (Number : Type) where
  symbol : String
  bestBid : Number
  bestBidSize : Number
  bestAsk : Number
  bestAskSize : Number
  exchangeTimestampMs : Int
  streamType : String

/-- A detected gap. -/
structure UpbitGapAlert where
  gapType : String
  symbol : String
  detectedAtMs : Int
  expectedSequenceId : Option Int
  observedSequenceId : Option Int
  healAction : String
  healStatus : String
  deriving Repr, DecidableEq

/-- How many gap alerts are kept for the storage. -/
def maxStoredGapAlerts : Nat :=
  1000

/-- How many gap alerts a report shows. -/
def maxRecentGapAlerts : Nat :=
  20

/-- Add an alert at the end of a bounded queue. -/
def pushBounded
    (alerts : List UpbitGapAlert)
    (alert : UpbitGapAlert)
    (bound : Nat) : List UpbitGapAlert :=
  let pushed := alerts ++ [alert]
  if pushed.length > bound then pushed.tail else pushed

/-- The statistics of a worker. -/
structure UpbitIngestWatchStats (Number : Type) where
  plannedStreamCount : Nat
  receivedMessages : Nat
  parsedMessages : Nat
  malformedMessages : Nat
  controlMessages : Nat
  pingsReceived : Nat
  pongsReceived : Nat
  closeMessages : Nat
  statusMessages : Nat
  kindCounts : OrderedMap String Nat
  symbolCounts : OrderedMap String Nat
  tickerMessages : Nat
  tradeMessages : Nat
  orderbookMessages : Nat
  derivedBookTickers : Nat
  sequenceAnomalies : Nat
  sourceHealthStatus : String
  sourceHealthEvents : Nat
  reconnectCount : Nat
  lastReconnectAtMs : Option Int
  gapAlertCount : Nat
  recentGapAlerts : List UpbitGapAlert
  lastExchangeTimestampMs : Option Int
  lastIngestTimestampMs : Option Int
  latestStreamLagMs : Int
  symbolLastEventTimeMs : OrderedMap String Int
  symbolLastIngestTimeMs : OrderedMap String Int
  gapAlerts : List UpbitGapAlert
  lastBestQuotes : OrderedMap String (UpbitBestQuote Number)
  lastTradeSequenceBySymbol : OrderedMap String Int
  lastOrderbookTimestampBySymbol : OrderedMap String Int

variable {Number : Type}

namespace UpbitIngestWatchStats

/-- The statistics of a worker that starts. -/
def new (plannedStreamCount : Nat) : UpbitIngestWatchStats Number where
  plannedStreamCount := plannedStreamCount
  receivedMessages := 0
  parsedMessages := 0
  malformedMessages := 0
  controlMessages := 0
  pingsReceived := 0
  pongsReceived := 0
  closeMessages := 0
  statusMessages := 0
  kindCounts := .empty
  symbolCounts := .empty
  tickerMessages := 0
  tradeMessages := 0
  orderbookMessages := 0
  derivedBookTickers := 0
  sequenceAnomalies := 0
  sourceHealthStatus := "connected"
  sourceHealthEvents := 1
  reconnectCount := 0
  lastReconnectAtMs := none
  gapAlertCount := 0
  recentGapAlerts := []
  lastExchangeTimestampMs := none
  lastIngestTimestampMs := none
  latestStreamLagMs := 0
  symbolLastEventTimeMs := .empty
  symbolLastIngestTimeMs := .empty
  gapAlerts := []
  lastBestQuotes := .empty
  lastTradeSequenceBySymbol := .empty
  lastOrderbookTimestampBySymbol := .empty

/-- Count an alert and keep it in both queues. -/
def recordGapAlert
    (stats : UpbitIngestWatchStats Number)
    (alert : UpbitGapAlert) : UpbitIngestWatchStats Number :=
  { stats with
    gapAlertCount := stats.gapAlertCount + 1
    gapAlerts := pushBounded stats.gapAlerts alert maxStoredGapAlerts
    recentGapAlerts :=
      pushBounded stats.recentGapAlerts alert maxRecentGapAlerts }

/-- Note when the last message came, and how late. -/
def recordTiming
    (stats : UpbitIngestWatchStats Number)
    (exchangeTimestampMs ingestTimestampMs : Int) :
    UpbitIngestWatchStats Number :=
  { stats with
    lastExchangeTimestampMs := some exchangeTimestampMs
    lastIngestTimestampMs := some ingestTimestampMs
    latestStreamLagMs :=
      max (saturatingSub ingestTimestampMs exchangeTimestampMs) 0 }

/-- Count a trade, and compare it with the last one of its market. -/
def recordTrade
    (stats : UpbitIngestWatchStats Number)
    (message : UpbitTradeMessage Number)
    (detectedAtMs : Int) : UpbitIngestWatchStats Number :=
  let counted :=
    { stats with
      tradeMessages := stats.tradeMessages + 1
      lastTradeSequenceBySymbol :=
        stats.lastTradeSequenceBySymbol.insert message.code
          message.sequentialId }
  match stats.lastTradeSequenceBySymbol.get? message.code with
  | none => counted
  | some lastSequence =>
      if message.sequentialId < lastSequence then
        { counted with
          sequenceAnomalies := counted.sequenceAnomalies + 1 }.recordGapAlert
          { gapType := "ordering_violation"
            symbol := message.code
            detectedAtMs := detectedAtMs
            expectedSequenceId := some lastSequence
            observedSequenceId := some message.sequentialId
            healAction := "mark_incomplete_and_continue"
            healStatus := "detected" }
      else
        counted

/-- Track a book, and compare it with the last one of its market. -/
def trackOrderbook
    (stats : UpbitIngestWatchStats Number)
    (message : UpbitOrderbookMessage Number)
    (detectedAtMs : Int) : UpbitIngestWatchStats Number :=
  let counted :=
    { stats with
      orderbookMessages := stats.orderbookMessages + 1
      lastOrderbookTimestampBySymbol :=
        stats.lastOrderbookTimestampBySymbol.insert message.code
          message.timestamp }
  match stats.lastOrderbookTimestampBySymbol.get? message.code with
  | none => counted
  | some lastTimestamp =>
      if message.timestamp < lastTimestamp then
        counted.recordGapAlert
          { gapType := "ordering_violation"
            symbol := message.code
            detectedAtMs := detectedAtMs
            expectedSequenceId := some lastTimestamp
            observedSequenceId := some message.timestamp
            healAction := "refetch_snapshot"
            healStatus := "detected" }
      else
        counted

/-- Take a book into the statistics, and keep its top. -/
def recordOrderbook
    (stats : UpbitIngestWatchStats Number)
    (message : UpbitOrderbookMessage Number)
    (detectedAtMs : Int) : UpbitIngestWatchStats Number :=
  let tracked := stats.trackOrderbook message detectedAtMs
  match message.orderbookUnits.head? with
  | none => tracked
  | some unit =>
      { tracked with
        derivedBookTickers := tracked.derivedBookTickers + 1
        lastBestQuotes :=
          tracked.lastBestQuotes.insert message.code
            { symbol := message.code
              bestBid := unit.bidPrice
              bestBidSize := unit.bidSize
              bestAsk := unit.askPrice
              bestAskSize := unit.askSize
              exchangeTimestampMs := message.timestamp
              streamType := message.streamType.getD "UNKNOWN" } }

/-- Note the time of a message of a market. -/
def timeEvent
    (stats : UpbitIngestWatchStats Number)
    (event : UpbitParsedEvent Number)
    (detectedAtMs : Int) : UpbitIngestWatchStats Number :=
  match event.exchangeTimestampMs, event.symbol with
  | some exchangeTimestampMs, some symbol =>
      let timed := stats.recordTiming exchangeTimestampMs detectedAtMs
      { timed with
        symbolLastEventTimeMs :=
          timed.symbolLastEventTimeMs.insert symbol exchangeTimestampMs
        symbolLastIngestTimeMs :=
          timed.symbolLastIngestTimeMs.insert symbol detectedAtMs }
  | some exchangeTimestampMs, none =>
      stats.recordTiming exchangeTimestampMs detectedAtMs
  | none, _ => stats

/-- Count a message and its time, before it is compared with others. -/
def countEvent
    (stats : UpbitIngestWatchStats Number)
    (event : UpbitParsedEvent Number)
    (detectedAtMs : Int) : UpbitIngestWatchStats Number :=
  let timed :=
    { stats with parsedMessages := stats.parsedMessages + 1 }.timeEvent
      event detectedAtMs
  { timed with
    kindCounts := countOne timed.kindCounts event.kindName
    symbolCounts :=
      match event.symbol with
      | some symbol => countOne timed.symbolCounts symbol
      | none => timed.symbolCounts }

/-- Take a message into the statistics. -/
def recordEvent
    (stats : UpbitIngestWatchStats Number)
    (event : UpbitParsedEvent Number)
    (detectedAtMs : Int) : UpbitIngestWatchStats Number :=
  let counted := stats.countEvent event detectedAtMs
  match event with
  | .ticker _ => { counted with tickerMessages := counted.tickerMessages + 1 }
  | .trade message => counted.recordTrade message detectedAtMs
  | .orderbook message => counted.recordOrderbook message detectedAtMs
  | .status _ => { counted with statusMessages := counted.statusMessages + 1 }
  | .error _ _ =>
      counted.recordGapAlert
        { gapType := "upbit_error"
          symbol := "venue"
          detectedAtMs := detectedAtMs
          expectedSequenceId := none
          observedSequenceId := none
          healAction := "inspect_error"
          healStatus := "detected" }
  | .unknown _ =>
      { counted with malformedMessages := counted.malformedMessages + 1 }

/-- Report a lost connection. -/
def recordReconnect
    (stats : UpbitIngestWatchStats Number)
    (reason : String)
    (nowMs : Int) : UpbitIngestWatchStats Number :=
  { stats with
    reconnectCount := stats.reconnectCount + 1
    lastReconnectAtMs := some nowMs
    sourceHealthStatus := "reconnecting"
    sourceHealthEvents := stats.sourceHealthEvents + 1 }.recordGapAlert
    { gapType := "ws_reconnect"
      symbol := ""
      detectedAtMs := nowMs
      expectedSequenceId := none
      observedSequenceId := none
      healAction := "reconnect_with_backoff"
      healStatus := reason }

/-- Set the status of the source, and count the change. -/
def setStatus
    (stats : UpbitIngestWatchStats Number)
    (status : String) : UpbitIngestWatchStats Number :=
  { stats with
    sourceHealthStatus := status
    sourceHealthEvents := stats.sourceHealthEvents + 1 }

/-- Judge the health of the source by what was counted. -/
def updateHealth
    (stats : UpbitIngestWatchStats Number) : UpbitIngestWatchStats Number :=
  stats.setStatus
    (if stats.receivedMessages = 0 then
      "waiting_for_messages"
    else if stats.malformedMessages > 0 ∨ stats.gapAlertCount > 0 then
      "degraded"
    else
      "connected")

end UpbitIngestWatchStats

end MarketIngest.Upbit
