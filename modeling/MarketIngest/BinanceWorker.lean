import MarketIngest.LiveHealth
import MarketIngest.LiveSmoke
import MarketIngest.RestSnapshots

namespace MarketIngest.Binance

open Backfill (BinanceMarket)
open Live
open Normalize (JsonValue)
open Parquet (L0Draft)
open Storage (L0StorageSink StorageReport)
open Wire

/-!
# The live worker of Binance

The worker stores a snapshot of every book, and snapshots of its derivatives,
before it watches the streams of its markets.  A message whose draft could not
be stored ends its session, but is not counted as malformed.  So a run may
succeed although its sink lost drafts.
-/

variable {Number : Type}

/-- The statistics of a worker, with the counts that no gap depends on. -/
structure BinanceLiveStats extends BinanceL0WatchStats where
  plannedStreamCount : Nat
  controlMessages : Nat
  pingsReceived : Nat
  pongsReceived : Nat
  closeMessages : Nat
  depthSnapshotMessages : Nat

namespace BinanceLiveStats

/-- The statistics of a worker that starts. -/
def new (plannedStreamCount : Nat) : BinanceLiveStats where
  toBinanceL0WatchStats := .new
  plannedStreamCount := plannedStreamCount
  controlMessages := 0
  pingsReceived := 0
  pongsReceived := 0
  closeMessages := 0
  depthSnapshotMessages := 0

/-- Set the status of the source, and count the change. -/
def setStatus
    (stats : BinanceLiveStats)
    (status : String) : BinanceLiveStats :=
  { stats with
    sourceHealthStatus := status
    sourceHealthEvents := stats.sourceHealthEvents + 1 }

/-- Judge the health of the source by what was counted. -/
def updateHealth (stats : BinanceLiveStats) : BinanceLiveStats :=
  stats.setStatus
    (if stats.receivedMessages = 0 then
      "waiting_for_messages"
    else if stats.malformedMessages > 0 ∨ stats.gapAlertCount > 0 then
      "degraded"
    else
      "connected")

/-- Change the statistics. -/
def perform
    (stats : BinanceLiveStats) :
    StatsCall BinanceLiveEnvelope → BinanceLiveStats
  | .received => { stats with receivedMessages := stats.receivedMessages + 1 }
  | .malformed =>
      { stats with malformedMessages := stats.malformedMessages + 1 }
  | .ping =>
      { stats with
        controlMessages := stats.controlMessages + 1
        pingsReceived := stats.pingsReceived + 1 }
  | .pong =>
      { stats with
        controlMessages := stats.controlMessages + 1
        pongsReceived := stats.pongsReceived + 1 }
  | .close =>
      { stats with
        controlMessages := stats.controlMessages + 1
        closeMessages := stats.closeMessages + 1 }.setStatus "closed"
  | .event envelope detectedAtMs =>
      { stats with
        toBinanceL0WatchStats :=
          stats.toBinanceL0WatchStats.recordEvent
            envelope.toBinanceParsedEnvelope detectedAtMs }
  | .reconnect reason nowMs =>
      { stats with
        toBinanceL0WatchStats :=
          stats.toBinanceL0WatchStats.recordReconnect reason nowMs }
  | .updateHealth => stats.updateHealth
  | .finished status => stats.setStatus status

end BinanceLiveStats

/-- How messages of Binance are handled. -/
def binanceVenue
    (codec : WireCodec Number)
    (markets : List BinanceMarket) :
    Venue BinanceLiveStats BinanceLiveEnvelope where
  parse := fun rawJson =>
    (parseBinancePayload codec rawJson).toOption.map fun envelope => [envelope]
  drafts := fun envelope ingestTimestampMs =>
    (rawMarketEventDraft (marketsByRaw markets) envelope
      ingestTimestampMs).toList
  perform := BinanceLiveStats.perform
  countsMessageErrors := false

section Health

variable
  (codec : WireCodec Number)
  (stats : BinanceLiveStats)

/-- What the health of the worker is judged by. -/
def healthView : HealthView where
  venue := "binance"
  sourceRole := "reference"
  sourceHealthStatus := stats.sourceHealthStatus
  receivedMessages := stats.receivedMessages
  malformedMessages := stats.malformedMessages
  gapAlertCount := stats.gapAlertCount
  lastIngestTimestampMs := stats.lastIngestTimestampMs
  latestStreamLagMs := stats.latestStreamLagMs
  symbols := stats.symbolCounts.keys
  symbolLastEventTimeMs := stats.symbolLastEventTimeMs
  symbolLastIngestTimeMs := stats.symbolLastIngestTimeMs

/-- The payload of the health of the source. -/
def sourceHealthPayload (observedAtMs : Int) : JsonValue Number :=
  jsonObject
    [("received_messages", codec.integer stats.receivedMessages),
      ("parsed_messages", codec.integer stats.parsedMessages),
      ("malformed_messages", codec.integer stats.malformedMessages),
      ("symbols_seen", codec.integer stats.symbolCounts.entries.length),
      ("ticker_messages", codec.integer stats.tickerMessages),
      ("trade_messages", codec.integer stats.tradeMessages),
      ("book_ticker_messages", codec.integer stats.bookTickerMessages),
      ("depth_delta_messages", codec.integer stats.depthDeltaMessages),
      ("depth_snapshot_messages",
        codec.integer stats.depthSnapshotMessages),
      ("gap_alert_count", codec.integer stats.gapAlertCount),
      ("last_exchange_timestamp_ms",
        codec.optionalInteger stats.lastExchangeTimestampMs),
      ("last_ingest_timestamp_ms",
        codec.optionalInteger stats.lastIngestTimestampMs),
      ("stream_lag_ms", codec.integer stats.latestStreamLagMs),
      ("symbol_health",
        symbolHealthPayload codec (healthView stats) observedAtMs)]

/-- A gap alert as both venues keep it. -/
def BinanceL0GapAlert.live (alert : BinanceL0GapAlert) : GapAlert where
  gapType := alert.gapType
  symbol := alert.symbol
  detectedAtMs := alert.detectedAtMs
  expectedSequenceId := alert.expectedSequenceId
  observedSequenceId := alert.observedSequenceId
  healAction := alert.healAction
  healStatus := alert.healStatus

/-- The drafts that the worker appends at the end. -/
def finalDrafts (finish : Finish) : List L0Draft :=
  Live.finalDrafts codec (healthView stats)
    (stats.gapAlerts.map BinanceL0GapAlert.live) finish.sourceObservedAtMs
    finish.symbolsObservedAtMs
    (sourceHealthPayload codec stats finish.sourceObservedAtMs)

end Health

section Reports

/-- What the worker is run with; durations are in nanoseconds. -/
structure BinanceRunConfig where
  markets : List BinanceMarket
  streamKinds : List BinanceStreamKind
  duration : Nat
  logInterval : Nat
  derivativeSnapshotInterval : Nat
  expectSymbolCount : Nat
  allowPartialSymbolCoverage : Bool
  storage : Option (L0StorageSink L0Draft)

/-- The report of a run. -/
structure BinanceL0SmokeReport where
  restDepthSnapshotRecords : Nat
  derivatives : BinanceDerivativeSnapshotReport
  derivativeSnapshotRecords : Nat
  symbolCount : Nat
  expectedSymbolCount : Nat
  plannedStreamCount : Nat
  streamKinds : List String
  symbolsSeenCount : Nat
  missingSymbols : List String
  coverageOk : Bool
  receivedMessages : Nat
  parsedMessages : Nat
  malformedMessages : Nat
  sourceHealthStatus : String
  tickerMessages : Nat
  tradeMessages : Nat
  bookTickerMessages : Nat
  depthDeltaMessages : Nat
  depthSnapshotMessages : Nat
  gapAlertCount : Nat
  closeMessages : Nat
  storage : Option StorageReport

/-- Build the report of a run. -/
def buildReport
    (config : BinanceRunConfig)
    (plannedStreamCount restDepthSnapshotRecords : Nat)
    (derivatives : BinanceDerivativeSnapshotReport)
    (storage : Option StorageReport)
    (stats : BinanceLiveStats) : BinanceL0SmokeReport :=
  let expectedSymbols :=
    config.markets.map fun market => Text.toAsciiUppercase market.rawSymbol
  let missingSymbols :=
    expectedSymbols.filter fun symbol =>
      (stats.symbolCounts.get? symbol).isNone
  { restDepthSnapshotRecords := restDepthSnapshotRecords
    derivatives := derivatives
    derivativeSnapshotRecords :=
      derivatives.fundingRateSnapshotRecords +
        derivatives.openInterestSnapshotRecords
    symbolCount := config.markets.length
    expectedSymbolCount := config.expectSymbolCount
    plannedStreamCount := plannedStreamCount
    streamKinds := config.streamKinds.map BinanceStreamKind.suffix
    symbolsSeenCount := stats.symbolCounts.entries.length
    missingSymbols := missingSymbols
    coverageOk := missingSymbols.isEmpty
    receivedMessages := stats.receivedMessages
    parsedMessages := stats.parsedMessages
    malformedMessages := stats.malformedMessages
    sourceHealthStatus := stats.sourceHealthStatus
    tickerMessages := stats.tickerMessages
    tradeMessages := stats.tradeMessages
    bookTickerMessages := stats.bookTickerMessages
    depthDeltaMessages := stats.depthDeltaMessages
    depthSnapshotMessages := stats.depthSnapshotMessages
    gapAlertCount := stats.gapAlertCount
    closeMessages := stats.closeMessages
    storage := storage }

variable
  (report : BinanceL0SmokeReport)
  (allowPartialSymbolCoverage : Bool)

/-- Check what was received. -/
def validateMessageReport : Except String Unit :=
  if report.receivedMessages = 0 then
    .error "Binance ingest smoke received zero messages"
  else if !report.coverageOk && !allowPartialSymbolCoverage then
    .error
      ("Binance symbol coverage incomplete: " ++
        toString report.missingSymbols.length ++ " missing symbols")
  else if report.malformedMessages > 0 then
    .error "Binance ingest smoke observed malformed messages"
  else
    .ok ()

/-- Check what was stored. -/
def validateStorageReport (storage : StorageReport) : Except String Unit := do
  Storage.validateCommonStorageReport storage "Binance"
  if report.gapAlertCount > 0 ∧
      !Storage.storageHasFamily storage "gap_alert" then
    .error "Binance L0 storage observed gaps but uploaded no gap_alert"
  else if report.depthSnapshotMessages = 0 then
    .error "Binance L0 storage did not record REST depth_snapshot events"
  else
    .ok ()

/-- Check the report of a run. -/
def validateReport : Except String Unit := do
  validateMessageReport report allowPartialSymbolCoverage
  match report.storage with
  | some storage => validateStorageReport report storage
  | none => .ok ()

end Reports

section Runs

variable
  (codec : WireCodec Number)
  (world : SinkWorld)
  (config : BinanceRunConfig)

/-- A worker of this venue. -/
abbrev BinanceWorker :=
  Worker BinanceLiveStats BinanceLiveEnvelope

/-- What the exchange answers about books, and when. -/
structure DepthAnswers (Number : Type) where
  ingestTimestampMs : BinanceMarket → Int
  depth : BinanceMarket → Option (JsonValue Number)

/-- Store a snapshot of the book of every market, up to the first failure. -/
def appendDepthSnapshots
    (answers : DepthAnswers Number) :
    List BinanceMarket → BinanceWorker → BinanceWorker × Except SmokeError Unit
  | [], worker => (worker, .ok ())
  | market :: rest, worker =>
      match answers.depth market with
      | none => (worker, .error .request)
      | some value =>
          match
            depthSnapshotDraft codec market (answers.ingestTimestampMs market)
              value with
          | .error _ => (worker, .error .request)
          | .ok draft =>
              match worker.appendDrafts world [.raw draft] with
              | (after, .error failure) => (after, .error (.storage failure))
              | (after, .ok ()) => appendDepthSnapshots answers rest after

/-- Store the first snapshots of the derivatives, and flush them. -/
def appendDerivativeSnapshots
    (batch : SnapshotBatch)
    (worker : BinanceWorker) : BinanceWorker × Except SmokeError Unit :=
  match worker.appendDrafts world (batch.drafts.map .raw) with
  | (after, .error failure) => (after, .error (.storage failure))
  | (after, .ok ()) =>
      if batch.completes then
        match after.flushAll world with
        | (flushed, .error failure) => (flushed, .error (.storage failure))
        | (flushed, .ok ()) => (flushed, .ok ())
      else
        (after, .error .log)

/-- Store the snapshots that come before the watch, if there is a sink. -/
def appendFirstSnapshots
    (depth : DepthAnswers Number)
    (derivatives : SnapshotBatch)
    (worker : BinanceWorker) : BinanceWorker × Except SmokeError Unit :=
  match worker.storage with
  | none => (worker, .ok ())
  | some _ =>
      match appendDepthSnapshots codec world depth config.markets worker with
      | (after, .error failure) => (after, .error failure)
      | (after, .ok ()) => appendDerivativeSnapshots world derivatives after

/-- What the sessions of a run are told. -/
def sessionConfig
    (policy : ReconnectPolicy)
    (startedAt : Nat) : SessionConfig where
  deadline := startedAt + config.duration
  logInterval := config.logInterval
  staleTimeout := policy.staleMessageTimeout.nanos
  snapshotInterval := some config.derivativeSnapshotInterval

/-- The worker that watches the streams. -/
def watchBinanceStreams
    (startedAt : Nat)
    (rounds : List Round)
    (worker : BinanceWorker) :
    Watch BinanceLiveStats BinanceLiveEnvelope × Bool :=
  let policy := ReconnectPolicy.default24x7
  watchRounds (binanceVenue codec config.markets) world policy
    (sessionConfig config policy startedAt) rounds
    { worker := worker
      currentBackoff := policy.initialBackoff
      slept := [] }

/-- How many snapshots of books were stored before the watch. -/
def restDepthSnapshotRecords : Nat :=
  if config.storage.isSome then config.markets.length else 0

/-- Count the snapshots of books that were stored before the watch. -/
def countDepthSnapshots
    (watched : Watch BinanceLiveStats BinanceLiveEnvelope × Bool) :
    Watch BinanceLiveStats BinanceLiveEnvelope × Bool :=
  ({ watched.1 with
      worker :=
        { watched.1.worker with
          stats :=
            { watched.1.worker.stats with
              depthSnapshotMessages :=
                watched.1.worker.stats.depthSnapshotMessages +
                  restDepthSnapshotRecords config } } },
    watched.2)

/-- How many streams a run subscribes to. -/
def streamCount : Nat :=
  (config.markets.map fun market =>
      Text.toAsciiUppercase market.rawSymbol).dedup.length *
    config.streamKinds.length

/-- The report of the derivatives of a run without a sink. -/
def noDerivatives : BinanceDerivativeSnapshotReport where
  fundingRateSnapshotRecords := 0
  openInterestSnapshotRecords := 0
  unsupportedFuturesSymbolCount := 0
  failureCount := 0

/-- Check the report of the statistics of a run. -/
def validateRun
    (derivatives : BinanceDerivativeSnapshotReport)
    (stats : BinanceLiveStats)
    (storage : Option StorageReport) : Except String Unit :=
  validateReport
    (buildReport config (streamCount config)
      (restDepthSnapshotRecords config)
      (if config.storage.isSome then derivatives else noDerivatives) storage
      stats)
    config.allowPartialSymbolCoverage

/-- A run of the worker over the answers and rounds that it meets. -/
def runBinanceL0Smoke
    (depth : DepthAnswers Number)
    (answers : DerivativeAnswers Number)
    (startedAt : Nat)
    (rounds : List Round)
    (finish : Finish) :
    BinanceWorker × Option (Except SmokeError Unit) :=
  let fetched := fetchDerivativeSnapshots codec answers config.markets
  match
    appendFirstSnapshots codec world config depth fetched.batch
      (.start (.new (streamCount config)) config.storage) with
  | (failed, .error failure) => (failed, some (.error failure))
  | (worker, .ok ()) =>
      finishRun world (fun stats => finalDrafts codec stats finish)
        (validateRun config fetched.report) finish.manifestFails
        (countDepthSnapshots config
          (watchBinanceStreams codec world config startedAt rounds worker))

end Runs

section Delays

variable
  {venue : Venue BinanceLiveStats BinanceLiveEnvelope}
  {world : SinkWorld}
  {policy : ReconnectPolicy}
  {config : SessionConfig}

/-- The messages that were counted as events. -/
def countedMessages
    (calls : List (StatsCall BinanceLiveEnvelope)) : List SessionMessage :=
  calls.filterMap fun
    | .event envelope detectedAtMs =>
        some ⟨envelope.toBinanceParsedEnvelope, detectedAtMs⟩
    | _ => none

variable (venue world policy config) in
/-- What the loop of connections finds in the rounds that a worker meets. -/
def watchedRounds :
    List Round →
    Watch BinanceLiveStats BinanceLiveEnvelope →
    List WatchRound
  | [], _ => []
  | round :: rest, watch =>
      let met (connection : Binance.Connection) : WatchRound :=
        { shutdownFlag := round.shutdownFlag
          pastDeadline := config.deadline ≤ round.startedAt
          connection := connection
          nowMs := round.nowMs }
      if round.shutdownFlag || decide (config.deadline ≤ round.startedAt) then
        [met .failed]
      else
        match round.connection with
        | .connectFailed =>
            met .failed ::
              watchedRounds rest
                (watch.reconnect venue policy "connect_failed" round.nowMs)
        | .subscribeFailed =>
            met .failed ::
              watchedRounds rest
                (watch.reconnect venue policy "subscribe_failed" round.nowMs)
        | .opened startedAt iterations =>
            match
              runSession venue world config startedAt iterations
                watch.worker with
            | (_, none) => []
            | (after, some ended) =>
                let messages :=
                  countedMessages
                    (after.counted.drop watch.worker.counted.length)
                met (.session messages (.ok ended)) ::
                  (match ended with
                  | .disconnected reason =>
                      watchedRounds rest
                        ({ watch with worker := after }.reconnect venue policy
                          reason round.nowMs)
                  | _ => [])

/-- A worker sleeps as the loop of connections does, and ends where it ends. -/
theorem watchRounds_slept
    (rounds : List Round)
    {watch : Watch BinanceLiveStats BinanceLiveEnvelope}
    {state : WatchState}
    (backoff : state.currentBackoff = watch.currentBackoff)
    (slept : state.slept = watch.slept) :
    let watched := watchRounds venue world policy config rounds watch
    let looped :=
      watchLoop policy (watchedRounds venue world policy config rounds watch)
        state
    watched.1.slept = looped.1.slept ∧ watched.2 = looped.2.isSome := by
  induction rounds generalizing watch state with
  | nil =>
      exact ⟨slept.symm, rfl⟩
  | cons round rest inductionHypothesis =>
      have reconnected (watch : Watch BinanceLiveStats BinanceLiveEnvelope)
          (state : WatchState)
          (backoff : state.currentBackoff = watch.currentBackoff)
          (slept : state.slept = watch.slept)
          (reason otherReason : String) :=
        @inductionHypothesis
          (watch.reconnect venue policy reason round.nowMs)
          (state.reconnect policy otherReason round.nowMs)
          (congrArg policy.nextBackoff backoff)
          (by
            unfold WatchState.reconnect Watch.reconnect
            rw [slept, backoff])
      unfold watchRounds watchedRounds
      dsimp only
      by_cases flagged : round.shutdownFlag = true
      · simp only [flagged, Bool.true_or, if_true, watchLoop]
        exact ⟨slept.symm, rfl⟩
      · by_cases late : config.deadline ≤ round.startedAt
        · simp only [flagged, late, decide_true, Bool.or_true, if_true,
            watchLoop]
          exact ⟨slept.symm, rfl⟩
        · simp only [flagged, late, decide_false, Bool.or_self, if_false]
          cases round.connection with
          | connectFailed =>
              exact reconnected watch state backoff slept _ _
          | subscribeFailed =>
              exact reconnected watch state backoff slept _ _
          | opened startedAt iterations =>
              dsimp only
              rcases
                runSession venue world config startedAt iterations
                  watch.worker with
                ⟨after, ended | ended⟩
              · exact ⟨slept.symm, rfl⟩
              · cases ended with
                | shutdownRequested => exact ⟨slept.symm, rfl⟩
                | deadlineReached => exact ⟨slept.symm, rfl⟩
                | disconnected reason =>
                    exact reconnected { watch with worker := after }
                      (state.watch _) backoff slept _ _

/-- The streams are watched with the delays of the loop of connections. -/
theorem watchBinanceStreams_slept
    (codec : WireCodec Number)
    (runConfig : BinanceRunConfig)
    (startedAt : Nat)
    (rounds : List Round)
    (worker : BinanceWorker) :
    let policy := ReconnectPolicy.default24x7
    let watched :=
      watchBinanceStreams codec world runConfig startedAt rounds worker
    let looped :=
      watchBinanceL0Streams
        (watchedRounds (binanceVenue codec runConfig.markets) world policy
          (sessionConfig runConfig policy startedAt) rounds
          { worker := worker
            currentBackoff := policy.initialBackoff
            slept := [] })
    watched.1.slept = looped.1.slept ∧ watched.2 = looped.2.isSome :=
  watchRounds_slept rounds rfl rfl

end Delays

section Uploads

variable
  {codec : WireCodec Number}
  {world : SinkWorld}
  {config : BinanceRunConfig}
  {initial : Storage.SinkHistory L0Draft}
  {venue : Venue BinanceLiveStats BinanceLiveEnvelope}

/-- Drafts of the worker itself are stored as it takes them. -/
private theorem advances_appendDrafts
    (drafts : List L0Draft)
    (worker : BinanceWorker) :
    Advances initial venue worker (worker.appendDrafts world drafts).1 := by
  obtain ⟨stores, -⟩ :=
    @stores_appendAll _ _ initial world (worker.take (.drafts drafts)) drafts
  have frame :=
    Worker.appendAll_frame world drafts (worker.take (.drafts drafts))
  exact .of_input frame.1 (stores.from_eq rfl rfl)

/-- The snapshots of the books are stored as they are taken. -/
private theorem advances_appendDepthSnapshots
    (answers : DepthAnswers Number)
    (markets : List BinanceMarket)
    (worker : BinanceWorker) :
    Advances initial venue worker
      (appendDepthSnapshots codec world answers markets worker).1 := by
  induction markets generalizing worker with
  | nil =>
      exact .of_eq rfl (.of_eq rfl rfl)
  | cons market rest inductionHypothesis =>
      unfold appendDepthSnapshots
      split
      · exact .of_eq rfl (.of_eq rfl rfl)
      · split
        · exact .of_eq rfl (.of_eq rfl rfl)
        · next draft _ =>
            have appended :=
              @advances_appendDrafts world initial venue [.raw draft] worker
            revert appended
            rcases worker.appendDrafts world [.raw draft] with
              ⟨after, failure | done⟩
            · exact id
            · intro appended
              exact appended.trans (inductionHypothesis after)

/-- The first snapshots of the derivatives are stored as they are taken. -/
private theorem advances_appendDerivativeSnapshots
    (batch : SnapshotBatch)
    (worker : BinanceWorker) :
    Advances initial venue worker
      (appendDerivativeSnapshots world batch worker).1 := by
  have appended :=
    @advances_appendDrafts world initial venue (batch.drafts.map .raw) worker
  unfold appendDerivativeSnapshots
  revert appended
  rcases worker.appendDrafts world (batch.drafts.map .raw) with
    ⟨after, failure | done⟩
  · exact id
  · intro appended
    dsimp only
    split
    · have flushed :
          Advances initial venue worker (after.flushAll world).1 :=
        appended.trans
          (.of_eq (Worker.flushAll_frame world after).1 stores_flushAll)
      revert flushed
      rcases after.flushAll world with ⟨flushed, failure | done⟩ <;> exact id
    · exact appended

/-- The snapshots before the watch are stored as they are taken. -/
private theorem advances_appendFirstSnapshots
    (depth : DepthAnswers Number)
    (derivatives : SnapshotBatch)
    (worker : BinanceWorker) :
    Advances initial venue worker
      (appendFirstSnapshots codec world config depth derivatives
        worker).1 := by
  unfold appendFirstSnapshots
  split
  · exact .of_eq rfl (.of_eq rfl rfl)
  · have stored :=
      @advances_appendDepthSnapshots _ codec world initial venue depth
        config.markets worker
    revert stored
    rcases appendDepthSnapshots codec world depth config.markets worker with
      ⟨after, failure | done⟩
    · exact id
    · intro stored
      exact stored.trans (advances_appendDerivativeSnapshots _ _)

/-- A watch stores what it takes. -/
private theorem advances_watch
    (startedAt : Nat)
    (rounds : List Round)
    (worker : BinanceWorker) :
    Advances initial (binanceVenue codec config.markets) worker
      (countDepthSnapshots config
        (watchBinanceStreams codec world config startedAt rounds
          worker)).1.worker := by
  have watched :
      Advances initial (binanceVenue codec config.markets) worker
        (watchBinanceStreams codec world config startedAt rounds
          worker).1.worker :=
    (kept_advances True).watchRounds (fun _ => trivial) rounds
      { worker := worker
        currentBackoff := ReconnectPolicy.default24x7.initialBackoff
        slept := [] }
  exact watched.trans (.of_eq rfl (.of_eq rfl rfl))

/-- An accepted report has no failed upload. -/
private theorem validateRun_ok
    {derivatives : BinanceDerivativeSnapshotReport}
    {stats : BinanceLiveStats}
    {report : StorageReport}
    (accepted :
      validateRun config derivatives stats (some report) = .ok ()) :
    report.failedUploadCount = 0 := by
  unfold validateRun validateReport at accepted
  cases messages :
    validateMessageReport
      (buildReport config (streamCount config)
        (restDepthSnapshotRecords config)
        (if config.storage.isSome then derivatives else noDerivatives)
        (some report) stats)
      config.allowPartialSymbolCoverage with
  | error message =>
      rw [messages] at accepted
      cases accepted
  | ok =>
      rw [messages] at accepted
      change validateStorageReport _ report = .ok () at accepted
      unfold validateStorageReport at accepted
      cases common :
        Storage.validateCommonStorageReport report "Binance" with
      | error message =>
          rw [common] at accepted
          cases accepted
      | ok =>
          exact Storage.failedUploadCount_of_validate common

variable
  {sinkConfig : Storage.AcceptedConfig}
  {hash : String → Nat}
  {livePublisher : Bool}
  {depth : DepthAnswers Number}
  {answers : DerivativeAnswers Number}
  {startedAt : Nat}
  {rounds : List Round}
  {finish : Finish}
  {worker : BinanceWorker}

/--
A run that succeeds uploaded no more than the drafts of the messages and
snapshots that it took, and its final drafts.  It uploaded all of them exactly
if every call to its sink kept its draft, which its report does not tell.
-/
theorem binance_success_uploads_iff
    (created :
      config.storage = some (.new sinkConfig hash livePublisher))
    (ran :
      runBinanceL0Smoke codec world config depth answers startedAt rounds
        finish = (worker, some (.ok ()))) :
    ∃ sink,
      worker.storage = some sink ∧
      sink.buffered = 0 ∧
      sink.ledger.failedRecords = [] ∧
      uploadedDrafts sink ≤
        offersOf (binanceVenue codec config.markets) worker.taken ∧
      (uploadedDrafts sink =
          offersOf (binanceVenue codec config.markets) worker.taken ↔
        KeepsAll (newSink sinkConfig hash livePublisher) worker.called) := by
  have first :=
    @advances_appendFirstSnapshots _ codec world config
      (newSink sinkConfig hash livePublisher)
      (binanceVenue codec config.markets) depth
      (fetchDerivativeSnapshots codec answers config.markets).batch
      (.start (.new (streamCount config)) config.storage)
  unfold runBinanceL0Smoke at ran
  dsimp only at ran
  revert ran first
  rcases
    appendFirstSnapshots codec world config depth
      (fetchDerivativeSnapshots codec answers config.markets).batch
      (.start (.new (streamCount config)) config.storage) with
    ⟨started, failure | done⟩
  · intro ran
    cases ran
  · intro ran first
    have advances :=
      first.trans
        (@advances_watch _ codec world config _ startedAt rounds started)
    rw [created] at advances
    obtain ⟨⟨sink, uploaded⟩, -, -⟩ :=
      finishRun_uploads validateRun_ok advances ran
    exact ⟨sink, uploaded.storage, uploaded.nothingWaits,
      uploaded.nothingFailed, uploaded.noMore, uploaded.exactly⟩

/-- A market. -/
def btcUsdt : BinanceMarket where
  rawSymbol := "BTCUSDT"
  baseAsset := "BTC"
  quoteAsset := "USDT"

/-- A codec that reads one trade. -/
def oneTradeCodec : WireCodec ℚ where
  sha256Hex := id
  fromStr := fun text =>
    if text = "trade" then
      some
        (.object
          [("stream", .text "btcusdt@trade"),
            ("data",
              .object
                [("E", .number 1), ("s", .text "BTCUSDT"), ("t", .number 42),
                  ("T", .number 2)])])
    else
      none
  parseF64 := fun _ => none
  toString := fun _ => "json"
  asI64 := fun number => if number.den = 1 then some number.num else none
  ofInteger := fun value => value

/-- A sink whose live ticks must be published. -/
def requiredNats : Storage.AcceptedConfig :=
  ⟨{ Storage.pairConfig.1 with
      liveNats :=
        some
          { url := "nats://localhost:4222"
            stream := "MARKET_LIVE"
            subjectPrefix := "market_live_tick.created"
            required := true } },
    rfl⟩

/-- A run of one second that watches one market. -/
def oneBinanceMarket : BinanceRunConfig where
  markets := [btcUsdt]
  streamKinds := [.trade]
  duration := 1000000000
  logInterval := 1000000000
  derivativeSnapshotInterval := 300000000000
  expectSymbolCount := 1
  allowPartialSymbolCoverage := false
  storage := some (.new requiredNats (fun _ => 0) true)

/-- The third call to the sink cannot publish its tick. -/
def unpublishedTrade : SinkWorld :=
  { calmWorld with
    publish := fun index => if index = 2 then .failed else .published }

/-- The book of the market. -/
def oneBook : DepthAnswers ℚ where
  ingestTimestampMs := fun _ => 100
  depth := fun _ => some (.object [("lastUpdateId", .number 7)])

/-- The exchange does not answer about derivatives. -/
def noAnswers : DerivativeAnswers ℚ where
  ingestTimestampMs := 100
  premiumIndex := none
  openInterest := fun _ => none
  logFails := false

/-- A run that succeeds although its sink did not take the first trade. -/
theorem binance_success_uploads_iff_unpublished :
    ∃ sink,
      (runBinanceL0Smoke oneTradeCodec unpublishedTrade oneBinanceMarket
          oneBook noAnswers 0
          (oneMessage "trade" 5 ++ oneMessage "trade" 1000000000)
          calmFinish).1.storage = some sink ∧
      sink.buffered = 0 ∧
      sink.ledger.failedRecords = [] ∧
      uploadedDrafts sink ≤
        offersOf (binanceVenue oneTradeCodec oneBinanceMarket.markets)
          (runBinanceL0Smoke oneTradeCodec unpublishedTrade oneBinanceMarket
            oneBook noAnswers 0
            (oneMessage "trade" 5 ++ oneMessage "trade" 1000000000)
            calmFinish).1.taken ∧
      (uploadedDrafts sink =
          offersOf (binanceVenue oneTradeCodec oneBinanceMarket.markets)
            (runBinanceL0Smoke oneTradeCodec unpublishedTrade
              oneBinanceMarket oneBook noAnswers 0
              (oneMessage "trade" 5 ++ oneMessage "trade" 1000000000)
              calmFinish).1.taken ↔
        KeepsAll (newSink requiredNats (fun _ => 0) true)
          (runBinanceL0Smoke oneTradeCodec unpublishedTrade oneBinanceMarket
            oneBook noAnswers 0
            (oneMessage "trade" 5 ++ oneMessage "trade" 1000000000)
            calmFinish).1.called) :=
  binance_success_uploads_iff rfl (Prod.ext rfl (by decide +kernel))

/-- Of two trades, the run uploaded one. -/
example :
    let ended :=
      (runBinanceL0Smoke oneTradeCodec unpublishedTrade oneBinanceMarket
        oneBook noAnswers 0
        (oneMessage "trade" 5 ++ oneMessage "trade" 1000000000)
        calmFinish).1
    (ended.storage.map fun sink => sink.ledger.uploadedRecords.length,
        (ended.taken.flatMap
          (Input.offers
            (binanceVenue oneTradeCodec oneBinanceMarket.markets))).length) =
      (some 5, 6) := by
  decide +kernel

end Uploads

end MarketIngest.Binance
