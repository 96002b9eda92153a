import MarketIngest.LiveCounters
import MarketIngest.UpbitWorker

namespace MarketIngest.Upbit

open Live
open Wire

/-!
# Accounts of the worker of Upbit

The statistics of the worker are sums over what its websocket delivered.  What
counts as malformed is a text that is not understood, a message of no known
kind, a broken connection, and a message that could not be stored or whose bytes
are not UTF-8.
-/

variable {Number : Type}

/-- How messages of Upbit are counted. -/
def counting : Counting (UpbitParsedEnvelope Number) where
  kind := fun envelope => envelope.event.kindName
  symbol := fun envelope => envelope.event.symbol
  unknown := fun envelope => envelope.event.kindName = "unknown"
  closesControl := false

namespace UpbitIngestWatchStats

/-- The counters of some statistics. -/
def counters (stats : UpbitIngestWatchStats Number) : Counters where
  received := stats.receivedMessages
  parsed := stats.parsedMessages
  malformed := stats.malformedMessages
  controls := stats.controlMessages
  pings := stats.pingsReceived
  pongs := stats.pongsReceived
  closes := stats.closeMessages
  reconnects := stats.reconnectCount
  kinds := stats.kindCounts
  symbols := stats.symbolCounts

/-- The counters of the messages by their kinds. -/
def kindCounters
    (stats : UpbitIngestWatchStats Number) : Nat × Nat × Nat × Nat × Nat :=
  (stats.tickerMessages, stats.tradeMessages, stats.orderbookMessages,
    stats.derivedBookTickers, stats.statusMessages)

end UpbitIngestWatchStats

section Steps

variable
  (stats : UpbitIngestWatchStats Number)
  (detectedAtMs : Int)

private theorem recordTrade_counters
    (message : UpbitTradeMessage Number) :
    (stats.recordTrade message detectedAtMs).counters = stats.counters ∧
      (stats.recordTrade message detectedAtMs).kindCounters =
        (stats.tickerMessages, stats.tradeMessages + 1,
          stats.orderbookMessages, stats.derivedBookTickers,
          stats.statusMessages) := by
  unfold UpbitIngestWatchStats.recordTrade
  dsimp only
  split
  · exact ⟨rfl, rfl⟩
  · split <;> exact ⟨rfl, rfl⟩

private theorem trackOrderbook_counters
    (message : UpbitOrderbookMessage Number) :
    (stats.trackOrderbook message detectedAtMs).counters = stats.counters ∧
      (stats.trackOrderbook message detectedAtMs).kindCounters =
        (stats.tickerMessages, stats.tradeMessages,
          stats.orderbookMessages + 1, stats.derivedBookTickers,
          stats.statusMessages) := by
  unfold UpbitIngestWatchStats.trackOrderbook
  dsimp only
  split
  · exact ⟨rfl, rfl⟩
  · split <;> exact ⟨rfl, rfl⟩

private theorem recordOrderbook_counters
    (message : UpbitOrderbookMessage Number) :
    (stats.recordOrderbook message detectedAtMs).counters =
        stats.counters ∧
      (stats.recordOrderbook message detectedAtMs).kindCounters =
        (stats.tickerMessages, stats.tradeMessages,
          stats.orderbookMessages + 1,
          stats.derivedBookTickers +
            (if message.orderbookUnits.isEmpty then 0 else 1),
          stats.statusMessages) := by
  obtain ⟨counters, kinds⟩ :=
    trackOrderbook_counters stats detectedAtMs message
  unfold UpbitIngestWatchStats.recordOrderbook
  dsimp only
  cases message.orderbookUnits with
  | nil =>
      exact ⟨counters, kinds⟩
  | cons unit rest =>
      refine ⟨counters, ?_⟩
      unfold UpbitIngestWatchStats.kindCounters at kinds ⊢
      simp_all

/-- The statistics change as messages of Upbit are counted. -/
theorem countsBy_upbitVenue
    (codec : WireCodec Number)
    (markets : List (UpbitMarket Number)) :
    CountsBy (upbitVenue codec markets) counting
      UpbitIngestWatchStats.counters := by
  intro stats call
  cases call with
  | event envelope detectedAtMs =>
      rcases envelope with ⟨event, payload⟩
      cases event with
      | trade message =>
          exact (recordTrade_counters
            (stats.countEvent (.trade message) detectedAtMs) detectedAtMs
            message).1
      | orderbook message =>
          exact (recordOrderbook_counters
            (stats.countEvent (.orderbook message) detectedAtMs)
            detectedAtMs message).1
      | ticker message => rfl
      | status text => rfl
      | error name text => rfl
      | unknown value => rfl
  | _ => rfl

/-- The message is a book that has levels. -/
def hasLevels (envelope : UpbitParsedEnvelope Number) : Bool :=
  match envelope.event with
  | .orderbook message => !message.orderbookUnits.isEmpty
  | _ => false

/-- The message is of the kind with the name. -/
def isKind (kind : String) (envelope : UpbitParsedEnvelope Number) : Bool :=
  envelope.event.kindName = kind

/-- A message raises the counters of its kind. -/
private theorem kindCounters_perform
    (call : StatsCall (UpbitParsedEnvelope Number)) :
    (perform stats call).kindCounters =
      (stats.tickerMessages +
          (if countsEvent (isKind "ticker") call then 1 else 0),
        stats.tradeMessages +
          (if countsEvent (isKind "trade") call then 1 else 0),
        stats.orderbookMessages +
          (if countsEvent (isKind "orderbook") call then 1 else 0),
        stats.derivedBookTickers +
          (if countsEvent hasLevels call then 1 else 0),
        stats.statusMessages +
          (if countsEvent (isKind "status") call then 1 else 0)) := by
  cases call with
  | event envelope detectedAtMs =>
      rcases envelope with ⟨event, payload⟩
      cases event with
      | trade message =>
          exact (recordTrade_counters
            (stats.countEvent (.trade message) detectedAtMs) detectedAtMs
            message).2
      | orderbook message =>
          refine (recordOrderbook_counters
            (stats.countEvent (.orderbook message) detectedAtMs)
            detectedAtMs message).2.trans ?_
          have levels :
              countsEvent hasLevels
                  (.event ⟨.orderbook message, payload⟩ detectedAtMs) =
                !message.orderbookUnits.isEmpty :=
            rfl
          rw [levels]
          cases message.orderbookUnits.isEmpty <;> rfl
      | ticker message => rfl
      | status text => rfl
      | error name text => rfl
      | unknown value => rfl
  | _ => rfl

end Steps

section Runs

/-- The counters of the kinds count the messages of their kinds. -/
private theorem kindCounters_foldl
    (plannedStreamCount : Nat)
    (calls : List (StatsCall (UpbitParsedEnvelope Number))) :
    (calls.foldl perform (.new plannedStreamCount)).kindCounters =
      (eventCount (isKind "ticker") calls, eventCount (isKind "trade") calls,
        eventCount (isKind "orderbook") calls, eventCount hasLevels calls,
        eventCount (isKind "status") calls) := by
  have counted
      (asked : UpbitParsedEnvelope Number → Bool)
      (measure : UpbitIngestWatchStats Number → Nat)
      (nothing : measure (.new plannedStreamCount) = 0)
      (one : ∀ stats call,
        measure (perform stats call) =
          measure stats + if countsEvent asked call then 1 else 0) :
      measure (calls.foldl perform (.new plannedStreamCount)) =
        eventCount asked calls := by
    rw [foldl_eventCount asked calls measure one, nothing, Nat.zero_add]
  have tickers :=
    counted (isKind "ticker") UpbitIngestWatchStats.tickerMessages rfl
      fun stats call => congrArg (·.1) (kindCounters_perform stats call)
  have trades :=
    counted (isKind "trade") UpbitIngestWatchStats.tradeMessages rfl
      fun stats call => congrArg (·.2.1) (kindCounters_perform stats call)
  have orderbooks :=
    counted (isKind "orderbook") UpbitIngestWatchStats.orderbookMessages rfl
      fun stats call => congrArg (·.2.2.1) (kindCounters_perform stats call)
  have derived :=
    counted hasLevels UpbitIngestWatchStats.derivedBookTickers rfl
      fun stats call => congrArg (·.2.2.2.1) (kindCounters_perform stats call)
  have statuses :=
    counted (isKind "status") UpbitIngestWatchStats.statusMessages rfl
      fun stats call => congrArg (·.2.2.2.2) (kindCounters_perform stats call)
  unfold UpbitIngestWatchStats.kindCounters
  rw [tickers, trades, orderbooks, derived, statuses]

/--
In every run the statistics account for all that the worker took, and count
the messages of every kind.
-/
theorem upbit_accounts
    (codec : WireCodec Number)
    (world : SinkWorld)
    (config : UpbitRunConfig Number)
    (startedAt : Nat)
    (rounds : List Round) :
    let worker :=
      (watchUpbitIngestStreams codec world config startedAt rounds).1.worker
    Accounts (upbitVenue codec config.markets) counting
        worker.stats.counters worker.taken worker.counted ∧
      worker.stats.kindCounters =
        (eventCount (isKind "ticker") worker.counted,
          eventCount (isKind "trade") worker.counted,
          eventCount (isKind "orderbook") worker.counted,
          eventCount hasLevels worker.counted,
          eventCount (isKind "status") worker.counted) := by
  intro worker
  constructor
  · refine accounts_watchRounds (countsBy_upbitVenue codec config.markets)
      rounds _ rfl rfl ?_
    intro input member
    cases member
  · obtain ⟨calls, counted, stats⟩ :=
      @watch_kept _ codec world config startedAt rounds _ (kept_logged False)
    have counted : worker.counted = calls :=
      counted.trans (List.nil_append _)
    rw [counted, stats]
    exact kindCounters_foldl (config.markets.length * 3) calls

end Runs

end MarketIngest.Upbit
