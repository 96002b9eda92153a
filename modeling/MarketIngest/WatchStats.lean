import MarketIngest.CappedLog
import MarketIngest.OrderedMap
import MarketIngest.Saturating
import MarketIngest.Text

namespace MarketIngest.Binance

/-!
# Statistics of a watched stream

The statistics of a realtime worker live as long as the worker, over all
sessions of its websocket.  They track the last trade of every stream and the
last depth update of every symbol, and raise a gap alert where the next one
does not continue it.  A reconnect is reported as a gap alert of its own.

The README says that the trackers are reset after a reconnect.  They are not,
so the first message of a new session is compared with the last one of the
session before.
-/

/-- A trade. -/
structure BinanceTradeMessage where
  eventTimeMs : Int
  symbol : String
  tradeId : Int
  tradeTimeMs : Int
  deriving Repr, DecidableEq

/-- A ticker. -/
structure BinanceTickerMessage where
  eventTimeMs : Int
  symbol : String
  lastTradeId : Int
  deriving Repr, DecidableEq

/-- A change of the best bid or ask. -/
structure BinanceBookTickerMessage where
  updateId : Int
  symbol : String
  deriving Repr, DecidableEq

/-- An update of the depth of a book. -/
structure BinanceDiffDepthMessage where
  eventTimeMs : Int
  symbol : String
  firstUpdateId : Int
  finalUpdateId : Int
  deriving Repr, DecidableEq

/-- A parsed message. -/
inductive BinanceParsedEvent where
  | trade (message : BinanceTradeMessage)
  | ticker (message : BinanceTickerMessage)
  | bookTicker (message : BinanceBookTickerMessage)
  | diffDepth (message : BinanceDiffDepthMessage)
  deriving Repr, DecidableEq

/-- A parsed message and the stream that it came from. -/
structure BinanceParsedEnvelope where
  stream : String
  event : BinanceParsedEvent
  deriving Repr, DecidableEq

namespace BinanceParsedEvent

/-- The kind under which a message is counted. -/
def kindName : BinanceParsedEvent → String
  | .trade _ => "trade"
  | .ticker _ => "ticker"
  | .bookTicker _ => "bookTicker"
  | .diffDepth _ => "depth@100ms"

/-- The symbol of a message. -/
def symbol : BinanceParsedEvent → String
  | .trade message => message.symbol
  | .ticker message => message.symbol
  | .bookTicker message => message.symbol
  | .diffDepth message => message.symbol

/-- The time of a message at the exchange. -/
def exchangeTimestampMs (fallbackMs : Int) : BinanceParsedEvent → Int
  | .trade message => message.tradeTimeMs
  | .ticker message => message.eventTimeMs
  | .bookTicker _ => fallbackMs
  | .diffDepth message => message.eventTimeMs

/-- The number of a message. -/
def numericSequence : BinanceParsedEvent → Int
  | .trade message => message.tradeId
  | .ticker message => message.lastTradeId
  | .bookTicker message => message.updateId
  | .diffDepth message => message.finalUpdateId

end BinanceParsedEvent

/-- A detected gap. -/
structure BinanceL0GapAlert where
  gapType : String
  symbol : String
  detectedAtMs : Int
  expectedSequenceId : Option Int
  observedSequenceId : Option Int
  healAction : String
  healStatus : String
  deriving Repr, DecidableEq

/-- How many gap alerts are kept for the storage. -/
def maxStoredGapAlerts : Nat :=
  1000

/-- How many gap alerts a report shows. -/
def maxRecentGapAlerts : Nat :=
  20

/-- The statistics of a worker. -/
structure BinanceL0WatchStats where
  receivedMessages : Nat
  parsedMessages : Nat
  malformedMessages : Nat
  kindCounts : OrderedMap String Nat
  symbolCounts : OrderedMap String Nat
  tickerMessages : Nat
  tradeMessages : Nat
  bookTickerMessages : Nat
  depthDeltaMessages : Nat
  sequenceAnomalies : Nat
  sourceHealthStatus : String
  sourceHealthEvents : Nat
  reconnectCount : Nat
  lastReconnectAtMs : Option Int
  gapAlertCount : Nat
  recentGapAlerts : List BinanceL0GapAlert
  gapAlerts : List BinanceL0GapAlert
  lastExchangeTimestampMs : Option Int
  lastIngestTimestampMs : Option Int
  latestStreamLagMs : Int
  symbolLastEventTimeMs : OrderedMap String Int
  symbolLastIngestTimeMs : OrderedMap String Int
  lastSequenceByStream : OrderedMap String Int
  lastDepthFinalUpdateBySymbol : OrderedMap String Int

/-- An alert about a trade that is older than the last one of its stream. -/
def orderingViolation
    (symbol : String)
    (previous sequence detectedAtMs : Int) : BinanceL0GapAlert where
  gapType := "ordering_violation"
  symbol := symbol
  detectedAtMs := detectedAtMs
  expectedSequenceId := some (saturatingAdd previous 1)
  observedSequenceId := some sequence
  healAction := "mark_incomplete_and_continue"
  healStatus := "detected"

/-- An alert about a depth update that does not continue the last one. -/
def depthUpdateIdGap
    (symbol : String)
    (expected firstUpdateId detectedAtMs : Int) : BinanceL0GapAlert where
  gapType := "depth_update_id_gap"
  symbol := symbol
  detectedAtMs := detectedAtMs
  expectedSequenceId := some expected
  observedSequenceId := some firstUpdateId
  healAction := "refetch_snapshot"
  healStatus := "detected"

/-- An alert about a lost connection. -/
def wsReconnect
    (reason : String)
    (nowMs : Int) : BinanceL0GapAlert where
  gapType := "ws_reconnect"
  symbol := ""
  detectedAtMs := nowMs
  expectedSequenceId := none
  observedSequenceId := none
  healAction := "reconnect_with_backoff"
  healStatus := reason

/-- Add an alert at the end of a bounded queue. -/
def pushBounded
    (alerts : List BinanceL0GapAlert)
    (alert : BinanceL0GapAlert)
    (bound : Nat) : List BinanceL0GapAlert :=
  let pushed := alerts ++ [alert]
  if pushed.length > bound then pushed.tail else pushed

namespace BinanceL0WatchStats

/-- The statistics of a worker that starts. -/
def new : BinanceL0WatchStats where
  receivedMessages := 0
  parsedMessages := 0
  malformedMessages := 0
  kindCounts := .empty
  symbolCounts := .empty
  tickerMessages := 0
  tradeMessages := 0
  bookTickerMessages := 0
  depthDeltaMessages := 0
  sequenceAnomalies := 0
  sourceHealthStatus := "connected"
  sourceHealthEvents := 1
  reconnectCount := 0
  lastReconnectAtMs := none
  gapAlertCount := 0
  recentGapAlerts := []
  gapAlerts := []
  lastExchangeTimestampMs := none
  lastIngestTimestampMs := none
  latestStreamLagMs := 0
  symbolLastEventTimeMs := .empty
  symbolLastIngestTimeMs := .empty
  lastSequenceByStream := .empty
  lastDepthFinalUpdateBySymbol := .empty

/-- Count an alert and keep it in both queues. -/
def recordGapAlert
    (stats : BinanceL0WatchStats)
    (alert : BinanceL0GapAlert) : BinanceL0WatchStats :=
  { stats with
    gapAlertCount := stats.gapAlertCount + 1
    gapAlerts := pushBounded stats.gapAlerts alert maxStoredGapAlerts
    recentGapAlerts :=
      pushBounded stats.recentGapAlerts alert maxRecentGapAlerts }

/-- Note when the last message came, and how late. -/
def recordTiming
    (stats : BinanceL0WatchStats)
    (exchangeTimestampMs ingestTimestampMs : Int) : BinanceL0WatchStats :=
  { stats with
    lastExchangeTimestampMs := some exchangeTimestampMs
    lastIngestTimestampMs := some ingestTimestampMs
    latestStreamLagMs :=
      max (saturatingSub ingestTimestampMs exchangeTimestampMs) 0 }

/-- Track a trade, and compare it with the last one of its stream. -/
def recordTradeOrderingGap
    (stats : BinanceL0WatchStats)
    (symbol stream : String)
    (sequence detectedAtMs : Int) : BinanceL0WatchStats :=
  let tracked :=
    { stats with
      lastSequenceByStream :=
        stats.lastSequenceByStream.insert stream sequence }
  match stats.lastSequenceByStream.get? stream with
  | none => tracked
  | some previous =>
      if sequence < previous then
        { tracked with
          sequenceAnomalies := tracked.sequenceAnomalies + 1 }.recordGapAlert
          (orderingViolation symbol previous sequence detectedAtMs)
      else
        tracked

/-- Track a depth update, and compare it with the last one of its symbol. -/
def recordDepthUpdateIdGap
    (stats : BinanceL0WatchStats)
    (symbol : String)
    (firstUpdateId finalUpdateId detectedAtMs : Int) :
    BinanceL0WatchStats :=
  let tracked :=
    { stats with
      lastDepthFinalUpdateBySymbol :=
        stats.lastDepthFinalUpdateBySymbol.insert symbol finalUpdateId }
  match stats.lastDepthFinalUpdateBySymbol.get? symbol with
  | none => tracked
  | some previousFinalUpdateId =>
      let expected := saturatingAdd previousFinalUpdateId 1
      if firstUpdateId ≠ expected then
        { tracked with
          sequenceAnomalies := tracked.sequenceAnomalies + 1 }.recordGapAlert
          (depthUpdateIdGap symbol expected firstUpdateId detectedAtMs)
      else
        tracked

/-- Count a message and its time, before it is compared with others. -/
def countEvent
    (stats : BinanceL0WatchStats)
    (envelope : BinanceParsedEnvelope)
    (detectedAtMs : Int) : BinanceL0WatchStats :=
  let symbol := Text.toAsciiUppercase envelope.event.symbol
  let exchangeTimestampMs :=
    envelope.event.exchangeTimestampMs detectedAtMs
  let timed :=
    { stats with parsedMessages := stats.parsedMessages + 1 }.recordTiming
      exchangeTimestampMs detectedAtMs
  { timed with
    symbolLastEventTimeMs :=
      timed.symbolLastEventTimeMs.insert symbol exchangeTimestampMs
    symbolLastIngestTimeMs :=
      timed.symbolLastIngestTimeMs.insert symbol detectedAtMs
    kindCounts :=
      timed.kindCounts.insert envelope.event.kindName
        ((timed.kindCounts.get? envelope.event.kindName).getD 0 + 1)
    symbolCounts :=
      timed.symbolCounts.insert symbol
        ((timed.symbolCounts.get? symbol).getD 0 + 1) }

/-- Take a message into the statistics. -/
def recordEvent
    (stats : BinanceL0WatchStats)
    (envelope : BinanceParsedEnvelope)
    (detectedAtMs : Int) : BinanceL0WatchStats :=
  let symbol := Text.toAsciiUppercase envelope.event.symbol
  let counted := stats.countEvent envelope detectedAtMs
  match envelope.event with
  | .trade _ =>
      { counted with
        tradeMessages := counted.tradeMessages + 1 }.recordTradeOrderingGap
        symbol envelope.stream envelope.event.numericSequence detectedAtMs
  | .ticker _ =>
      { counted with tickerMessages := counted.tickerMessages + 1 }
  | .bookTicker _ =>
      { counted with bookTickerMessages := counted.bookTickerMessages + 1 }
  | .diffDepth message =>
      { counted with
        depthDeltaMessages :=
          counted.depthDeltaMessages + 1 }.recordDepthUpdateIdGap
        symbol message.firstUpdateId message.finalUpdateId detectedAtMs

/-- Report a lost connection. -/
def recordReconnect
    (stats : BinanceL0WatchStats)
    (reason : String)
    (nowMs : Int) : BinanceL0WatchStats :=
  { stats with
    reconnectCount := stats.reconnectCount + 1
    lastReconnectAtMs := some nowMs
    sourceHealthStatus := "reconnecting"
    sourceHealthEvents := stats.sourceHealthEvents + 1 }.recordGapAlert
    (wsReconnect reason nowMs)

/-- The alert about a trade, if it is older than the last one. -/
def tradeGap?
    (stats : BinanceL0WatchStats)
    (symbol stream : String)
    (sequence detectedAtMs : Int) : Option BinanceL0GapAlert :=
  match stats.lastSequenceByStream.get? stream with
  | none => none
  | some previous =>
      if sequence < previous then
        some (orderingViolation symbol previous sequence detectedAtMs)
      else
        none

/-- The alert about a depth update, if it does not continue the last one. -/
def depthGap?
    (stats : BinanceL0WatchStats)
    (symbol : String)
    (firstUpdateId detectedAtMs : Int) : Option BinanceL0GapAlert :=
  match stats.lastDepthFinalUpdateBySymbol.get? symbol with
  | none => none
  | some previous =>
      if firstUpdateId ≠ saturatingAdd previous 1 then
        some (depthUpdateIdGap symbol (saturatingAdd previous 1)
          firstUpdateId detectedAtMs)
      else
        none

end BinanceL0WatchStats

/-- A call that changes the statistics. -/
inductive WatchCall where
  | recordEvent
      (envelope : BinanceParsedEnvelope)
      (detectedAtMs : Int)
  | recordReconnect
      (reason : String)
      (nowMs : Int)
  deriving Repr, DecidableEq

namespace WatchCall

/-- Make the call. -/
def perform
    (stats : BinanceL0WatchStats) :
    WatchCall → BinanceL0WatchStats
  | .recordEvent envelope detectedAtMs =>
      stats.recordEvent envelope detectedAtMs
  | .recordReconnect reason nowMs => stats.recordReconnect reason nowMs

/-- A lost connection. -/
def isReconnect : WatchCall → Bool
  | .recordEvent _ _ => false
  | .recordReconnect _ _ => true

/-- The sequence of a trade of the stream. -/
def sequenceOf (stream : String) : WatchCall → Option Int
  | .recordEvent ⟨source, .trade message⟩ _ =>
      if source = stream then some message.tradeId else none
  | _ => none

/-- The final update of a depth update of the symbol. -/
def finalUpdateOf (symbol : String) : WatchCall → Option Int
  | .recordEvent ⟨_, .diffDepth message⟩ _ =>
      if Text.toAsciiUppercase message.symbol = symbol then
        some message.finalUpdateId
      else
        none
  | _ => none

/-- The alert that a call raises. -/
def alert?
    (stats : BinanceL0WatchStats) :
    WatchCall → Option BinanceL0GapAlert
  | .recordEvent ⟨stream, .trade message⟩ detectedAtMs =>
      stats.tradeGap? (Text.toAsciiUppercase message.symbol) stream
        message.tradeId detectedAtMs
  | .recordEvent ⟨_, .diffDepth message⟩ detectedAtMs =>
      stats.depthGap? (Text.toAsciiUppercase message.symbol)
        message.firstUpdateId detectedAtMs
  | .recordEvent _ _ => none
  | .recordReconnect reason nowMs => some (wsReconnect reason nowMs)

end WatchCall

/-- The statistics after some calls. -/
def statsAfter (calls : List WatchCall) : BinanceL0WatchStats :=
  calls.foldl WatchCall.perform .new

section Calls

variable
  (stats : BinanceL0WatchStats)
  (call : WatchCall)

/-- Count an anomaly and record its alert, if a message raised one. -/
def BinanceL0WatchStats.noteAnomaly
    (stats : BinanceL0WatchStats) :
    Option BinanceL0GapAlert → BinanceL0WatchStats
  | none => stats
  | some alert =>
      { stats with
        sequenceAnomalies := stats.sequenceAnomalies + 1 }.recordGapAlert
        alert

/-- An anomaly leaves what is known of the trades. -/
@[simp] theorem BinanceL0WatchStats.noteAnomaly_lastSequenceByStream
    (alert : Option BinanceL0GapAlert) :
    (stats.noteAnomaly alert).lastSequenceByStream =
      stats.lastSequenceByStream := by
  cases alert <;> rfl

/-- An anomaly leaves what is known of the depth updates. -/
@[simp] theorem BinanceL0WatchStats.noteAnomaly_lastDepthFinalUpdateBySymbol
    (alert : Option BinanceL0GapAlert) :
    (stats.noteAnomaly alert).lastDepthFinalUpdateBySymbol =
      stats.lastDepthFinalUpdateBySymbol := by
  cases alert <;> rfl

/-- A trade is tracked, and its alert is noted. -/
theorem BinanceL0WatchStats.recordTradeOrderingGap_eq
    (symbol stream : String)
    (sequence detectedAtMs : Int) :
    stats.recordTradeOrderingGap symbol stream sequence detectedAtMs =
      { stats with
        lastSequenceByStream :=
          stats.lastSequenceByStream.insert stream sequence }.noteAnomaly
        (stats.tradeGap? symbol stream sequence detectedAtMs) := by
  unfold recordTradeOrderingGap tradeGap?
  cases stats.lastSequenceByStream.get? stream with
  | none =>
      rfl
  | some previous =>
      by_cases older : sequence < previous
      · simp only [if_pos older]
        rfl
      · simp only [if_neg older]
        rfl

/-- A depth update is tracked, and its alert is noted. -/
theorem BinanceL0WatchStats.recordDepthUpdateIdGap_eq
    (symbol : String)
    (firstUpdateId finalUpdateId detectedAtMs : Int) :
    stats.recordDepthUpdateIdGap symbol firstUpdateId finalUpdateId
        detectedAtMs =
      { stats with
        lastDepthFinalUpdateBySymbol :=
          stats.lastDepthFinalUpdateBySymbol.insert symbol
            finalUpdateId }.noteAnomaly
        (stats.depthGap? symbol firstUpdateId detectedAtMs) := by
  unfold recordDepthUpdateIdGap depthGap?
  cases stats.lastDepthFinalUpdateBySymbol.get? symbol with
  | none =>
      rfl
  | some previous =>
      by_cases gap : firstUpdateId ≠ saturatingAdd previous 1
      · simp only [if_pos gap]
        rfl
      · simp only [if_neg gap]
        rfl

/-- A call tracks the trade that it has. -/
theorem WatchCall.perform_lastSequence
    (stream : String) :
    (call.perform stats).lastSequenceByStream.get? stream =
      (call.sequenceOf stream).or
        (stats.lastSequenceByStream.get? stream) := by
  cases call with
  | recordReconnect reason nowMs =>
      rfl
  | recordEvent envelope detectedAtMs =>
      rcases envelope with ⟨source, event⟩
      cases event with
      | ticker message =>
          rfl
      | bookTicker message =>
          rfl
      | diffDepth message =>
          change (BinanceL0WatchStats.recordDepthUpdateIdGap
            _ _ _ _ _).lastSequenceByStream.get? stream = _
          rw [BinanceL0WatchStats.recordDepthUpdateIdGap_eq,
            BinanceL0WatchStats.noteAnomaly_lastSequenceByStream]
          rfl
      | trade message =>
          change (BinanceL0WatchStats.recordTradeOrderingGap
            _ _ _ _ _).lastSequenceByStream.get? stream = _
          rw [BinanceL0WatchStats.recordTradeOrderingGap_eq,
            BinanceL0WatchStats.noteAnomaly_lastSequenceByStream,
            OrderedMap.get?_insert]
          by_cases same : source = stream
          · simp [WatchCall.sequenceOf, BinanceParsedEvent.numericSequence,
              same]
          · simp only [Ne.symm same, if_false, WatchCall.sequenceOf, same,
              Option.none_or]
            rfl

/-- A call tracks the depth update that it has. -/
theorem WatchCall.perform_lastFinalUpdate
    (symbol : String) :
    (call.perform stats).lastDepthFinalUpdateBySymbol.get? symbol =
      (call.finalUpdateOf symbol).or
        (stats.lastDepthFinalUpdateBySymbol.get? symbol) := by
  cases call with
  | recordReconnect reason nowMs =>
      rfl
  | recordEvent envelope detectedAtMs =>
      rcases envelope with ⟨source, event⟩
      cases event with
      | ticker message =>
          rfl
      | bookTicker message =>
          rfl
      | trade message =>
          change (BinanceL0WatchStats.recordTradeOrderingGap
            _ _ _ _ _).lastDepthFinalUpdateBySymbol.get? symbol = _
          rw [BinanceL0WatchStats.recordTradeOrderingGap_eq,
            BinanceL0WatchStats.noteAnomaly_lastDepthFinalUpdateBySymbol]
          rfl
      | diffDepth message =>
          change (BinanceL0WatchStats.recordDepthUpdateIdGap
            _ _ _ _ _).lastDepthFinalUpdateBySymbol.get? symbol = _
          rw [BinanceL0WatchStats.recordDepthUpdateIdGap_eq,
            BinanceL0WatchStats.noteAnomaly_lastDepthFinalUpdateBySymbol,
            OrderedMap.get?_insert]
          by_cases same : Text.toAsciiUppercase message.symbol = symbol
          · simp [WatchCall.finalUpdateOf, BinanceParsedEvent.symbol, same]
          · simp only [BinanceParsedEvent.symbol, Ne.symm same, if_false,
              WatchCall.finalUpdateOf, same, Option.none_or]
            rfl

/-- Some statistics recorded nothing, or one alert more. -/
def Records
    (before after : BinanceL0WatchStats)
    (alert : Option BinanceL0GapAlert) : Prop :=
  after.gapAlertCount = before.gapAlertCount + alert.toList.length ∧
  after.gapAlerts =
    alert.elim before.gapAlerts
      (pushBounded before.gapAlerts · maxStoredGapAlerts)

/-- An anomaly is recorded with its alert. -/
theorem BinanceL0WatchStats.noteAnomaly_records
    (alert : Option BinanceL0GapAlert) :
    Records stats (stats.noteAnomaly alert) alert := by
  cases alert with
  | none =>
      exact ⟨rfl, rfl⟩
  | some alert =>
      exact ⟨rfl, rfl⟩

/-- A call records the alert that it raises. -/
theorem WatchCall.perform_records :
    Records stats (call.perform stats) (call.alert? stats) := by
  cases call with
  | recordReconnect reason nowMs =>
      exact ⟨rfl, rfl⟩
  | recordEvent envelope detectedAtMs =>
      rcases envelope with ⟨source, event⟩
      cases event with
      | ticker message =>
          exact ⟨rfl, rfl⟩
      | bookTicker message =>
          exact ⟨rfl, rfl⟩
      | trade message =>
          change Records _ (BinanceL0WatchStats.recordTradeOrderingGap ..) _
          rw [BinanceL0WatchStats.recordTradeOrderingGap_eq]
          exact BinanceL0WatchStats.noteAnomaly_records ..
      | diffDepth message =>
          change Records _ (BinanceL0WatchStats.recordDepthUpdateIdGap ..) _
          rw [BinanceL0WatchStats.recordDepthUpdateIdGap_eq]
          exact BinanceL0WatchStats.noteAnomaly_records ..

end Calls

/-- One more call. -/
theorem statsAfter_concat
    (calls : List WatchCall)
    (call : WatchCall) :
    statsAfter (calls ++ [call]) = call.perform (statsAfter calls) :=
  List.foldl_concat ..

/-- The sequence of the last trade of a stream. -/
def lastSequence
    (calls : List WatchCall)
    (stream : String) : Option Int :=
  (calls.filterMap (WatchCall.sequenceOf stream)).getLast?

/-- The final update of the last depth update of a symbol. -/
def lastFinalUpdate
    (calls : List WatchCall)
    (symbol : String) : Option Int :=
  (calls.filterMap (WatchCall.finalUpdateOf symbol)).getLast?

/-- What a map tracks is the last value of the calls. -/
private theorem getLast?_filterMap_concat
    {Value : Type}
    (valueOf : WatchCall → Option Value)
    (calls : List WatchCall)
    (call : WatchCall) :
    ((calls ++ [call]).filterMap valueOf).getLast? =
      (valueOf call).or (calls.filterMap valueOf).getLast? := by
  rw [List.filterMap_append, List.getLast?_append, List.filterMap_cons,
    List.filterMap_nil]
  cases valueOf call with
  | none =>
      rfl
  | some value =>
      rfl

/-- The last trade of every stream is tracked over all sessions. -/
theorem statsAfter_lastSequence
    (calls : List WatchCall)
    (stream : String) :
    (statsAfter calls).lastSequenceByStream.get? stream =
      lastSequence calls stream := by
  induction calls using List.reverseRecOn with
  | nil =>
      rfl
  | append_singleton calls call inductionHypothesis =>
      rw [statsAfter_concat, WatchCall.perform_lastSequence,
        inductionHypothesis, lastSequence, lastSequence,
        getLast?_filterMap_concat]

/-- The last depth update of every symbol is tracked over all sessions. -/
theorem statsAfter_lastFinalUpdate
    (calls : List WatchCall)
    (symbol : String) :
    (statsAfter calls).lastDepthFinalUpdateBySymbol.get? symbol =
      lastFinalUpdate calls symbol := by
  induction calls using List.reverseRecOn with
  | nil =>
      rfl
  | append_singleton calls call inductionHypothesis =>
      rw [statsAfter_concat, WatchCall.perform_lastFinalUpdate,
        inductionHypothesis, lastFinalUpdate, lastFinalUpdate,
        getLast?_filterMap_concat]

end MarketIngest.Binance
