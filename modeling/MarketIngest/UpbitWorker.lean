import MarketIngest.LiveHealth
import MarketIngest.LiveSmoke
import MarketIngest.UpbitStats

namespace MarketIngest.Upbit

open Binance (ReconnectPolicy)
open Live
open Normalize (JsonValue)
open Parquet (L0Draft)
open Storage (L0StorageSink StorageReport)
open Wire

/-!
# The live worker of Upbit

The worker watches the tickers, trades and books of its markets.  A message
that could not be handled ends its session and counts as malformed, and a run
with malformed messages does not succeed.  So a run that succeeds lost nothing.
-/

variable {Number : Type}

/-- Change the statistics. -/
def perform
    (stats : UpbitIngestWatchStats Number) :
    StatsCall (UpbitParsedEnvelope Number) → UpbitIngestWatchStats Number
  | .received => { stats with receivedMessages := stats.receivedMessages + 1 }
  | .malformed =>
      { stats with malformedMessages := stats.malformedMessages + 1 }
  | .ping =>
      { stats with
        controlMessages := stats.controlMessages + 1
        pingsReceived := stats.pingsReceived + 1 }
  | .pong =>
      { stats with
        controlMessages := stats.controlMessages + 1
        pongsReceived := stats.pongsReceived + 1 }
  | .close => { stats with closeMessages := stats.closeMessages + 1 }
  | .event envelope detectedAtMs =>
      stats.recordEvent envelope.event detectedAtMs
  | .reconnect reason nowMs => stats.recordReconnect reason nowMs
  | .updateHealth => stats.updateHealth
  | .finished status => stats.setStatus status

/-- How messages of Upbit are handled. -/
def upbitVenue
    (codec : WireCodec Number)
    (markets : List (UpbitMarket Number)) :
    Venue (UpbitIngestWatchStats Number) (UpbitParsedEnvelope Number) where
  parse := parseUpbitPayload codec
  drafts := rawMarketEventDrafts (marketsByCode markets)
  perform := perform
  countsMessageErrors := true

section Health

variable
  (codec : WireCodec Number)
  (stats : UpbitIngestWatchStats Number)

/-- What the health of the worker is judged by. -/
def healthView : HealthView where
  venue := "upbit"
  sourceRole := "execution"
  sourceHealthStatus := stats.sourceHealthStatus
  receivedMessages := stats.receivedMessages
  malformedMessages := stats.malformedMessages
  gapAlertCount := stats.gapAlertCount
  lastIngestTimestampMs := stats.lastIngestTimestampMs
  latestStreamLagMs := stats.latestStreamLagMs
  symbols := stats.symbolCounts.keys
  symbolLastEventTimeMs := stats.symbolLastEventTimeMs
  symbolLastIngestTimeMs := stats.symbolLastIngestTimeMs

/-- The payload of the health of the source. -/
def sourceHealthPayload (observedAtMs : Int) : JsonValue Number :=
  jsonObject
    [("received_messages", codec.integer stats.receivedMessages),
      ("parsed_messages", codec.integer stats.parsedMessages),
      ("malformed_messages", codec.integer stats.malformedMessages),
      ("symbols_seen", codec.integer stats.symbolCounts.entries.length),
      ("ticker_messages", codec.integer stats.tickerMessages),
      ("trade_messages", codec.integer stats.tradeMessages),
      ("orderbook_messages", codec.integer stats.orderbookMessages),
      ("derived_book_tickers", codec.integer stats.derivedBookTickers),
      ("gap_alert_count", codec.integer stats.gapAlertCount),
      ("last_exchange_timestamp_ms",
        codec.optionalInteger stats.lastExchangeTimestampMs),
      ("last_ingest_timestamp_ms",
        codec.optionalInteger stats.lastIngestTimestampMs),
      ("stream_lag_ms", codec.integer stats.latestStreamLagMs),
      ("symbol_health",
        symbolHealthPayload codec (healthView stats) observedAtMs)]

/-- A gap alert as both venues keep it. -/
def UpbitGapAlert.live (alert : UpbitGapAlert) : GapAlert where
  gapType := alert.gapType
  symbol := alert.symbol
  detectedAtMs := alert.detectedAtMs
  expectedSequenceId := alert.expectedSequenceId
  observedSequenceId := alert.observedSequenceId
  healAction := alert.healAction
  healStatus := alert.healStatus

/-- The drafts that the worker appends at the end. -/
def finalDrafts (finish : Finish) : List L0Draft :=
  Live.finalDrafts codec (healthView stats)
    (stats.gapAlerts.map UpbitGapAlert.live) finish.sourceObservedAtMs
    finish.symbolsObservedAtMs
    (sourceHealthPayload codec stats finish.sourceObservedAtMs)

end Health

section Reports

/-- What the worker is run with; durations are in nanoseconds. -/
structure UpbitRunConfig (Number : Type) where
  markets : List (UpbitMarket Number)
  duration : Nat
  logInterval : Nat
  allowPartialSymbolCoverage : Bool
  storage : Option (L0StorageSink L0Draft)

/-- The report of a run. -/
structure UpbitL0SmokeReport where
  symbolCount : Nat
  expectedSymbolCount : Nat
  plannedStreamCount : Nat
  streamKinds : List String
  symbolsSeenCount : Nat
  missingSymbols : List String
  coverageOk : Bool
  receivedMessages : Nat
  parsedMessages : Nat
  malformedMessages : Nat
  sourceHealthStatus : String
  tickerMessages : Nat
  tradeMessages : Nat
  orderbookMessages : Nat
  derivedBookTickers : Nat
  gapAlertCount : Nat
  closeMessages : Nat
  storage : Option StorageReport

/-- Build the report of a run. -/
def buildReport
    (markets : List (UpbitMarket Number))
    (plannedStreamCount : Nat)
    (storage : Option StorageReport)
    (stats : UpbitIngestWatchStats Number) : UpbitL0SmokeReport :=
  let expectedSymbols := markets.map UpbitMarket.market
  let missingSymbols :=
    expectedSymbols.filter fun symbol =>
      (stats.symbolCounts.get? symbol).isNone
  { symbolCount := markets.length
    expectedSymbolCount := expectedSymbols.dedup.length
    plannedStreamCount := plannedStreamCount
    streamKinds := ["ticker", "trade", "orderbook"]
    symbolsSeenCount := stats.symbolCounts.entries.length
    missingSymbols := missingSymbols
    coverageOk := missingSymbols.isEmpty
    receivedMessages := stats.receivedMessages
    parsedMessages := stats.parsedMessages
    malformedMessages := stats.malformedMessages
    sourceHealthStatus := stats.sourceHealthStatus
    tickerMessages := stats.tickerMessages
    tradeMessages := stats.tradeMessages
    orderbookMessages := stats.orderbookMessages
    derivedBookTickers := stats.derivedBookTickers
    gapAlertCount := stats.gapAlertCount
    closeMessages := stats.closeMessages
    storage := storage }

variable
  (report : UpbitL0SmokeReport)
  (allowPartialSymbolCoverage : Bool)

/-- Check what was received. -/
def validateMessageReport : Except String Unit :=
  if report.receivedMessages = 0 then
    .error "Upbit ingest smoke received zero messages"
  else if !report.coverageOk && !allowPartialSymbolCoverage then
    .error
      ("Upbit symbol coverage incomplete: " ++
        toString report.missingSymbols.length ++ " missing symbols")
  else if report.malformedMessages > 0 then
    .error "Upbit ingest smoke observed malformed messages"
  else if report.orderbookMessages > 0 ∧ report.derivedBookTickers = 0 then
    .error "Upbit ingest smoke derived zero book_ticker events"
  else
    .ok ()

/-- Check what was stored. -/
def validateStorageReport (storage : StorageReport) : Except String Unit := do
  Storage.validateCommonStorageReport storage "Upbit"
  if report.gapAlertCount > 0 ∧
      !Storage.storageHasFamily storage "gap_alert" then
    .error "Upbit L0 storage observed gaps but uploaded no gap_alert"
  else
    .ok ()

/-- Check the report of a run. -/
def validateReport : Except String Unit := do
  validateMessageReport report allowPartialSymbolCoverage
  match report.storage with
  | some storage => validateStorageReport report storage
  | none => .ok ()

end Reports

section Runs

variable
  (codec : WireCodec Number)
  (world : SinkWorld)
  (config : UpbitRunConfig Number)

/-- What the sessions of a run are told. -/
def sessionConfig
    (policy : ReconnectPolicy)
    (startedAt : Nat) : SessionConfig where
  deadline := startedAt + config.duration
  logInterval := config.logInterval
  staleTimeout := policy.staleMessageTimeout.nanos
  snapshotInterval := none

/-- The worker that watches the streams. -/
def watchUpbitIngestStreams
    (startedAt : Nat)
    (rounds : List Round) :
    Watch (UpbitIngestWatchStats Number) (UpbitParsedEnvelope Number) × Bool :=
  let policy := ReconnectPolicy.default24x7
  watchRounds (upbitVenue codec config.markets) world policy
    (sessionConfig config policy startedAt) rounds
    { worker := .start (.new (config.markets.length * 3)) config.storage
      currentBackoff := policy.initialBackoff
      slept := [] }

/-- Check the report of the statistics of a run. -/
def validateRun
    (stats : UpbitIngestWatchStats Number)
    (storage : Option StorageReport) : Except String Unit :=
  validateReport
    (buildReport config.markets (config.markets.length * 3) storage stats)
    config.allowPartialSymbolCoverage

/-- A run of the worker over the rounds that it meets. -/
def runUpbitL0Smoke
    (startedAt : Nat)
    (rounds : List Round)
    (finish : Finish) :
    Worker (UpbitIngestWatchStats Number) (UpbitParsedEnvelope Number) ×
      Option (Except SmokeError Unit) :=
  finishRun world (fun stats => finalDrafts codec stats finish)
    (validateRun config) finish.manifestFails
    (watchUpbitIngestStreams codec world config startedAt rounds)

end Runs

section Malformed

variable
  {stats : UpbitIngestWatchStats Number}
  {detectedAtMs : Int}

@[simp] theorem recordGapAlert_malformed
    (alert : UpbitGapAlert) :
    (stats.recordGapAlert alert).malformedMessages =
      stats.malformedMessages :=
  rfl

@[simp] theorem recordTrade_malformed
    (message : UpbitTradeMessage Number) :
    (stats.recordTrade message detectedAtMs).malformedMessages =
      stats.malformedMessages := by
  unfold UpbitIngestWatchStats.recordTrade
  dsimp only
  split
  · rfl
  · split <;> rfl

@[simp] theorem trackOrderbook_malformed
    (message : UpbitOrderbookMessage Number) :
    (stats.trackOrderbook message detectedAtMs).malformedMessages =
      stats.malformedMessages := by
  unfold UpbitIngestWatchStats.trackOrderbook
  dsimp only
  split
  · rfl
  · split <;> rfl

@[simp] theorem recordOrderbook_malformed
    (message : UpbitOrderbookMessage Number) :
    (stats.recordOrderbook message detectedAtMs).malformedMessages =
      stats.malformedMessages := by
  unfold UpbitIngestWatchStats.recordOrderbook
  dsimp only
  split <;> simp

@[simp] theorem countEvent_malformed
    (event : UpbitParsedEvent Number) :
    (stats.countEvent event detectedAtMs).malformedMessages =
      stats.malformedMessages := by
  unfold UpbitIngestWatchStats.countEvent UpbitIngestWatchStats.timeEvent
  dsimp only
  split <;> rfl

/-- Nothing that the worker counts makes the malformed messages fewer. -/
theorem malformed_le_perform
    (call : StatsCall (UpbitParsedEnvelope Number)) :
    stats.malformedMessages ≤ (perform stats call).malformedMessages := by
  cases call with
  | event envelope detectedAtMs =>
      unfold perform UpbitIngestWatchStats.recordEvent
      dsimp only
      cases envelope.event <;> simp
  | malformed =>
      exact Nat.le_succ _
  | _ => exact le_rfl

/-- A counted malformed message stays counted. -/
theorem malformed_pos_of_mem
    (calls : List (StatsCall (UpbitParsedEnvelope Number)))
    (counted : 0 < stats.malformedMessages ∨ .malformed ∈ calls) :
    0 < (calls.foldl perform stats).malformedMessages := by
  induction calls generalizing stats with
  | nil =>
      obtain before | member := counted
      · exact before
      · cases member
  | cons call rest inductionHypothesis =>
      apply inductionHypothesis
      obtain before | member := counted
      · exact .inl (before.trans_le (malformed_le_perform call))
      · obtain rfl | later := List.mem_cons.mp member
        · exact .inl (Nat.succ_pos _)
        · exact .inr later

end Malformed

section Success

/-- An accepted report has no malformed message and no failed upload. -/
theorem validateRun_ok
    {config : UpbitRunConfig Number}
    {stats : UpbitIngestWatchStats Number}
    {storage : Option StorageReport}
    (accepted : validateRun config stats storage = .ok ()) :
    stats.malformedMessages = 0 ∧
      ∀ report, storage = some report → report.failedUploadCount = 0 := by
  unfold validateRun validateReport at accepted
  cases messages :
    validateMessageReport
      (buildReport config.markets (config.markets.length * 3) storage stats)
      config.allowPartialSymbolCoverage with
  | error message =>
      rw [messages] at accepted
      cases accepted
  | ok =>
      rw [messages] at accepted
      constructor
      · unfold validateMessageReport at messages
        split at messages
        · cases messages
        · split at messages
          · cases messages
          · split at messages
            · cases messages
            · next none =>
                exact Nat.eq_zero_of_not_pos none
      · rintro report rfl
        change validateStorageReport _ report = .ok () at accepted
        unfold validateStorageReport at accepted
        cases common :
          Storage.validateCommonStorageReport report "Upbit" with
        | error message =>
            rw [common] at accepted
            cases accepted
        | ok =>
            exact Storage.failedUploadCount_of_validate common

variable
  {codec : WireCodec Number}
  {world : SinkWorld}
  {config : UpbitRunConfig Number}
  {sinkConfig : Storage.AcceptedConfig}
  {hash : String → Nat}
  {livePublisher : Bool}
  {startedAt : Nat}
  {rounds : List Round}
  {finish : Finish}
  {worker :
    Worker (UpbitIngestWatchStats Number) (UpbitParsedEnvelope Number)}

/-- A relation that every step keeps holds over the watch of a run. -/
theorem watch_kept
    {relation :
      Worker (UpbitIngestWatchStats Number) (UpbitParsedEnvelope Number) →
      Worker (UpbitIngestWatchStats Number) (UpbitParsedEnvelope Number) →
      Prop}
    (kept : Kept (upbitVenue codec config.markets) world False relation) :
    relation (.start (.new (config.markets.length * 3)) config.storage)
      (watchUpbitIngestStreams codec world config startedAt
        rounds).1.worker := by
  refine kept.watchRounds ?_ rounds
    { worker := .start (.new (config.markets.length * 3)) config.storage
      currentBackoff := ReconnectPolicy.default24x7.initialBackoff
      slept := [] }
  intro snapshots
  cases snapshots

/-- A run without malformed messages had no error from its sink. -/
private theorem returnsAll_watch
    {initial : Storage.SinkHistory L0Draft}
    (created : config.storage = some initial.sink)
    (none :
      (watchUpbitIngestStreams codec world config startedAt
        rounds).1.worker.stats.malformedMessages = 0) :
    ReturnsAll initial
      (watchUpbitIngestStreams codec world config startedAt
        rounds).1.worker.called := by
  have clean :=
    @watch_kept _ codec world config startedAt rounds _
      (@kept_clean _ _ initial _ _ rfl)
  obtain ⟨calls, counted, stats⟩ :=
    @watch_kept _ codec world config startedAt rounds _ (kept_logged False)
  have counted :
      (watchUpbitIngestStreams codec world config startedAt
        rounds).1.worker.counted = calls :=
    counted.trans (List.nil_append _)
  rw [created] at clean
  refine clean.returned rfl trivial ?_
  rw [counted]
  intro malformed
  have positive :=
    @malformed_pos_of_mem _ (.new (config.markets.length * 3)) calls
      (.inr malformed)
  rw [stats] at none
  exact positive.ne' none

/--
A run that succeeds uploaded the drafts of every message that its websocket
delivered, and its final drafts: nothing is missing, doubled or left behind.
-/
theorem upbit_success_uploads_all
    (created :
      config.storage = some (.new sinkConfig hash livePublisher))
    (ran :
      runUpbitL0Smoke codec world config startedAt rounds finish =
        (worker, some (.ok ()))) :
    ∃ sink arrivals,
      worker.storage = some sink ∧
      sink.buffered = 0 ∧
      sink.ledger.failedRecords = [] ∧
      worker.taken =
        (arrivals : List (Message × Int)).map (fun arrival =>
            .message arrival.1 arrival.2) ++
          [.drafts (finalDrafts codec worker.stats finish)] ∧
      uploadedDrafts sink =
        offersOf (upbitVenue codec config.markets) worker.taken := by
  have advances :=
    @watch_kept _ codec world config startedAt rounds _
      (@kept_advances _ _ (newSink sinkConfig hash livePublisher) _ _ False)
  obtain ⟨arrivals, taken⟩ :=
    @watch_kept _ codec world config startedAt rounds _ kept_takesMessages
  rw [created] at advances
  obtain ⟨⟨sink, uploaded⟩, ended, accepted⟩ :=
    finishRun_uploads
      (fun accepted => (validateRun_ok accepted).2 _ rfl) advances ran
  have returned :=
    ended.returned
      (returnsAll_watch created
        (ended.stats ▸ (validateRun_ok accepted).1))
  refine ⟨sink, arrivals, uploaded.storage, uploaded.nothingWaits,
    uploaded.nothingFailed, ?_, uploaded.exactly.mpr returned.keepsAll⟩
  rw [ended.taken, taken]
  rfl

/-- A market. -/
def krwBtc : UpbitMarket ℚ where
  market := "KRW-BTC"
  baseAsset := "BTC"
  quoteAsset := "KRW"
  koreanName := "Bitcoin"
  englishName := "Bitcoin"
  accTradePrice24h := 1

/-- A trade of the market. -/
def btcTrade : JsonValue ℚ :=
  .object
    [("type", .text "trade"),
      ("code", .text "KRW-BTC"),
      ("timestamp", .number 100),
      ("trade_timestamp", .number 90),
      ("trade_price", .number 100),
      ("trade_volume", .number 1),
      ("ask_bid", .text "BID"),
      ("sequential_id", .number 42)]

/-- A codec that reads one text. -/
def tradeCodec : WireCodec ℚ where
  sha256Hex := id
  fromStr := fun text => if text = "trade" then some btcTrade else none
  parseF64 := fun _ => none
  toString := fun _ => "json"
  asI64 := fun number => if number.den = 1 then some number.num else none
  ofInteger := fun value => value

/-- A run of one second that watches one market. -/
def oneMarket : UpbitRunConfig ℚ where
  markets := [krwBtc]
  duration := 1000000000
  logInterval := 1000000000
  allowPartialSymbolCoverage := false
  storage := some (.new Storage.pairConfig (fun _ => 0) false)

/-- A run that takes one trade uploads it. -/
theorem upbit_success_uploads_all_trade :
    ∃ sink arrivals,
      (runUpbitL0Smoke tradeCodec calmWorld oneMarket 0
          (oneMessage "trade" 1000000000) calmFinish).1.storage =
        some sink ∧
      sink.buffered = 0 ∧
      sink.ledger.failedRecords = [] ∧
      (runUpbitL0Smoke tradeCodec calmWorld oneMarket 0
          (oneMessage "trade" 1000000000) calmFinish).1.taken =
        (arrivals : List (Message × Int)).map (fun arrival =>
            .message arrival.1 arrival.2) ++
          [.drafts
            (finalDrafts tradeCodec
              (runUpbitL0Smoke tradeCodec calmWorld oneMarket 0
                (oneMessage "trade" 1000000000) calmFinish).1.stats
              calmFinish)] ∧
      uploadedDrafts sink =
        offersOf (upbitVenue tradeCodec oneMarket.markets)
          (runUpbitL0Smoke tradeCodec calmWorld oneMarket 0
            (oneMessage "trade" 1000000000) calmFinish).1.taken :=
  upbit_success_uploads_all rfl (Prod.ext rfl (by decide +kernel))

end Success

end MarketIngest.Upbit
