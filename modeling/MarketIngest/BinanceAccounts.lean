import MarketIngest.BinanceWorker
import MarketIngest.LiveCounters

namespace MarketIngest.Binance

open Live
open Wire

/-!
# Accounts of the worker of Binance

The statistics of the worker are sums over what its websocket delivered after
its first snapshots.  What counts as malformed is a text that is not understood
and a broken connection, but not a message that could not be stored or whose
bytes are not UTF-8.
-/

variable {Number : Type}

/-- How messages of Binance are counted. -/
def counting : Counting BinanceLiveEnvelope where
  kind := fun envelope => envelope.event.kindName
  symbol := fun envelope =>
    some (Text.toAsciiUppercase envelope.event.symbol)
  unknown := fun _ => false
  closesControl := true

namespace BinanceLiveStats

/-- The counters of some statistics. -/
def counters (stats : BinanceLiveStats) : Counters where
  received := stats.receivedMessages
  parsed := stats.parsedMessages
  malformed := stats.malformedMessages
  controls := stats.controlMessages
  pings := stats.pingsReceived
  pongs := stats.pongsReceived
  closes := stats.closeMessages
  reconnects := stats.reconnectCount
  kinds := stats.kindCounts
  symbols := stats.symbolCounts

/-- The counters of the messages by their kinds. -/
def kindCounters (stats : BinanceLiveStats) : Nat × Nat × Nat × Nat :=
  (stats.tickerMessages, stats.tradeMessages, stats.bookTickerMessages,
    stats.depthDeltaMessages)

end BinanceLiveStats

section Steps

variable
  (stats : BinanceLiveStats)
  (call : StatsCall BinanceLiveEnvelope)

/-- Statistics that differ in what is known of gaps have the same counters. -/
private theorem noteAnomaly_counters
    (gaps : BinanceL0WatchStats)
    (alert : Option BinanceL0GapAlert) :
    { stats with
          toBinanceL0WatchStats := gaps.noteAnomaly alert }.counters =
        { stats with toBinanceL0WatchStats := gaps }.counters ∧
      { stats with
          toBinanceL0WatchStats := gaps.noteAnomaly alert }.kindCounters =
        { stats with toBinanceL0WatchStats := gaps }.kindCounters := by
  cases alert <;> exact ⟨rfl, rfl⟩

/-- The statistics change as messages of Binance are counted. -/
theorem countsBy_binanceVenue
    (codec : WireCodec Number)
    (markets : List Backfill.BinanceMarket) :
    CountsBy (binanceVenue codec markets) counting
      BinanceLiveStats.counters := by
  intro stats call
  cases call with
  | event envelope detectedAtMs =>
      rcases envelope with ⟨⟨stream, event⟩, payload⟩
      cases event with
      | trade message =>
          change
            { stats with
              toBinanceL0WatchStats :=
                BinanceL0WatchStats.recordTradeOrderingGap
                  _ _ _ _ _ }.counters = _
          rw [BinanceL0WatchStats.recordTradeOrderingGap_eq,
            (noteAnomaly_counters _ _ _).1]
          rfl
      | diffDepth message =>
          change
            { stats with
              toBinanceL0WatchStats :=
                BinanceL0WatchStats.recordDepthUpdateIdGap
                  _ _ _ _ _ }.counters = _
          rw [BinanceL0WatchStats.recordDepthUpdateIdGap_eq,
            (noteAnomaly_counters _ _ _).1]
          rfl
      | ticker message => rfl
      | bookTicker message => rfl
  | _ => rfl

/-- The message is of the kind with the name. -/
def isKind (kind : String) (envelope : BinanceLiveEnvelope) : Bool :=
  envelope.event.kindName = kind

/-- A message raises the counter of its kind. -/
private theorem kindCounters_perform :
    (stats.perform call).kindCounters =
      (stats.tickerMessages +
          (if countsEvent (isKind "ticker") call then 1 else 0),
        stats.tradeMessages +
          (if countsEvent (isKind "trade") call then 1 else 0),
        stats.bookTickerMessages +
          (if countsEvent (isKind "bookTicker") call then 1 else 0),
        stats.depthDeltaMessages +
          (if countsEvent (isKind "depth@100ms") call then 1 else 0)) := by
  cases call with
  | event envelope detectedAtMs =>
      rcases envelope with ⟨⟨stream, event⟩, payload⟩
      cases event with
      | trade message =>
          change
            { stats with
              toBinanceL0WatchStats :=
                BinanceL0WatchStats.recordTradeOrderingGap
                  _ _ _ _ _ }.kindCounters = _
          rw [BinanceL0WatchStats.recordTradeOrderingGap_eq,
            (noteAnomaly_counters _ _ _).2]
          rfl
      | diffDepth message =>
          change
            { stats with
              toBinanceL0WatchStats :=
                BinanceL0WatchStats.recordDepthUpdateIdGap
                  _ _ _ _ _ }.kindCounters = _
          rw [BinanceL0WatchStats.recordDepthUpdateIdGap_eq,
            (noteAnomaly_counters _ _ _).2]
          rfl
      | ticker message => rfl
      | bookTicker message => rfl
  | _ => rfl

end Steps

section Snapshots

variable
  {codec : WireCodec Number}
  {world : SinkWorld}
  {config : BinanceRunConfig}
  {first second third worker : BinanceWorker}

/-- A worker took drafts of its own only, and counted nothing. -/
structure TakesDrafts (before after : BinanceWorker) : Prop where
  taken :
    ∃ drafts : List (List Parquet.L0Draft),
      after.taken = before.taken ++ drafts.map Input.drafts
  counted : after.counted = before.counted
  stats : after.stats = before.stats

theorem TakesDrafts.refl : TakesDrafts worker worker where
  taken := ⟨[], (List.append_nil _).symm⟩
  counted := rfl
  stats := rfl

theorem TakesDrafts.trans
    (earlier : TakesDrafts first second)
    (later : TakesDrafts second third) :
    TakesDrafts first third where
  taken := by
    obtain ⟨drafts, taken⟩ := earlier.taken
    obtain ⟨others, takenLater⟩ := later.taken
    exact ⟨drafts ++ others, by
      rw [takenLater, taken, List.append_assoc, List.map_append]⟩
  counted := later.counted.trans earlier.counted
  stats := later.stats.trans earlier.stats

private theorem takesDrafts_appendDrafts
    (drafts : List Parquet.L0Draft)
    (worker : BinanceWorker) :
    TakesDrafts worker (worker.appendDrafts world drafts).1 :=
  have frame :=
    Worker.appendAll_frame world drafts (worker.take (.drafts drafts))
  { taken := ⟨[drafts], frame.1⟩
    counted := frame.2.1
    stats := frame.2.2 }

private theorem takesDrafts_appendDepthSnapshots
    (answers : DepthAnswers Number)
    (markets : List Backfill.BinanceMarket)
    (worker : BinanceWorker) :
    TakesDrafts worker
      (appendDepthSnapshots codec world answers markets worker).1 := by
  induction markets generalizing worker with
  | nil =>
      exact .refl
  | cons market rest inductionHypothesis =>
      unfold appendDepthSnapshots
      split
      · exact .refl
      · split
        · exact .refl
        · next draft _ =>
            have appended :=
              @takesDrafts_appendDrafts world [.raw draft] worker
            revert appended
            rcases worker.appendDrafts world [.raw draft] with
              ⟨after, failure | done⟩
            · exact id
            · intro appended
              exact appended.trans (inductionHypothesis after)

private theorem takesDrafts_appendDerivativeSnapshots
    (batch : SnapshotBatch)
    (worker : BinanceWorker) :
    TakesDrafts worker
      (appendDerivativeSnapshots world batch worker).1 := by
  have appended :=
    @takesDrafts_appendDrafts world (batch.drafts.map .raw) worker
  unfold appendDerivativeSnapshots
  revert appended
  rcases worker.appendDrafts world (batch.drafts.map .raw) with
    ⟨after, failure | done⟩
  · exact id
  · intro appended
    dsimp only
    split
    · have frame := Worker.flushAll_frame world after
      have flushed : TakesDrafts worker (after.flushAll world).1 :=
        appended.trans
          { taken := ⟨[], frame.1.trans (List.append_nil _).symm⟩
            counted := frame.2.1
            stats := frame.2.2 }
      revert flushed
      rcases after.flushAll world with ⟨flushed, failure | done⟩ <;> exact id
    · exact appended

/-- The snapshots before the watch are drafts of the worker itself. -/
private theorem takesDrafts_appendFirstSnapshots
    (depth : DepthAnswers Number)
    (derivatives : SnapshotBatch)
    (worker : BinanceWorker) :
    TakesDrafts worker
      (appendFirstSnapshots codec world config depth derivatives
        worker).1 := by
  unfold appendFirstSnapshots
  split
  · exact .refl
  · have stored :=
      @takesDrafts_appendDepthSnapshots _ codec world depth config.markets
        worker
    revert stored
    rcases appendDepthSnapshots codec world depth config.markets worker with
      ⟨after, failure | done⟩
    · exact id
    · intro stored
      exact stored.trans (takesDrafts_appendDerivativeSnapshots _ _)

end Snapshots

section Runs

/-- The counters of the kinds count the messages of their kinds. -/
private theorem kindCounters_foldl
    (plannedStreamCount : Nat)
    (calls : List (StatsCall BinanceLiveEnvelope)) :
    (calls.foldl BinanceLiveStats.perform
        (.new plannedStreamCount)).kindCounters =
      (eventCount (isKind "ticker") calls, eventCount (isKind "trade") calls,
        eventCount (isKind "bookTicker") calls,
        eventCount (isKind "depth@100ms") calls) := by
  have counted
      (asked : BinanceLiveEnvelope → Bool)
      (measure : BinanceLiveStats → Nat)
      (nothing : measure (.new plannedStreamCount) = 0)
      (one : ∀ stats call,
        measure (BinanceLiveStats.perform stats call) =
          measure stats + if countsEvent asked call then 1 else 0) :
      measure
          (calls.foldl BinanceLiveStats.perform (.new plannedStreamCount)) =
        eventCount asked calls := by
    rw [foldl_eventCount asked calls measure one, nothing, Nat.zero_add]
  have tickers :=
    counted (isKind "ticker") (·.tickerMessages) rfl
      fun stats call => congrArg (·.1) (kindCounters_perform stats call)
  have trades :=
    counted (isKind "trade") (·.tradeMessages) rfl
      fun stats call => congrArg (·.2.1) (kindCounters_perform stats call)
  have bookTickers :=
    counted (isKind "bookTicker") (·.bookTickerMessages) rfl
      fun stats call => congrArg (·.2.2.1) (kindCounters_perform stats call)
  have depths :=
    counted (isKind "depth@100ms") (·.depthDeltaMessages) rfl
      fun stats call => congrArg (·.2.2.2) (kindCounters_perform stats call)
  exact congr (congrArg Prod.mk tickers)
    (congr (congrArg Prod.mk trades) (congr (congrArg Prod.mk bookTickers)
      depths))

/--
In every run the statistics account for all that the worker took after its
first snapshots, and count the messages of every kind.
-/
theorem binance_accounts
    (codec : WireCodec Number)
    (world : SinkWorld)
    (config : BinanceRunConfig)
    (depth : DepthAnswers Number)
    (derivatives : SnapshotBatch)
    (startedAt : Nat)
    (rounds : List Round) :
    let started :=
      (appendFirstSnapshots codec world config depth derivatives
        (.start (.new (streamCount config)) config.storage)).1
    let worker :=
      (watchBinanceStreams codec world config startedAt rounds
        started).1.worker
    Accounts (binanceVenue codec config.markets) counting
        worker.stats.counters worker.taken worker.counted ∧
      worker.stats.kindCounters =
        (eventCount (isKind "ticker") worker.counted,
          eventCount (isKind "trade") worker.counted,
          eventCount (isKind "bookTicker") worker.counted,
          eventCount (isKind "depth@100ms") worker.counted) := by
  intro started worker
  have snapshots :
      TakesDrafts (.start (.new (streamCount config)) config.storage)
        started :=
    takesDrafts_appendFirstSnapshots depth derivatives _
  let watch : Watch BinanceLiveStats BinanceLiveEnvelope :=
    { worker := started
      currentBackoff := ReconnectPolicy.default24x7.initialBackoff
      slept := [] }
  constructor
  · refine accounts_watchRounds
      (countsBy_binanceVenue codec config.markets) rounds watch
      snapshots.counted (congrArg _ snapshots.stats) ?_
    intro input member
    obtain ⟨drafts, taken⟩ := snapshots.taken
    have taken : started.taken = drafts.map Input.drafts :=
      taken.trans (List.nil_append _)
    change input ∈ started.taken at member
    rw [taken, List.mem_map] at member
    obtain ⟨appended, -, rfl⟩ := member
    exact ⟨appended, rfl⟩
  · obtain ⟨calls, counted, stats⟩ :
        Logged (binanceVenue codec config.markets) started worker :=
      (kept_logged True).watchRounds (fun _ => trivial) rounds watch
    have counted : worker.counted = calls := by
      rw [counted, snapshots.counted]
      exact List.nil_append _
    rw [counted, stats, snapshots.stats]
    exact kindCounters_foldl (streamCount config) calls

end Runs

end MarketIngest.Binance
