import MarketIngest.BackfillPages
import MarketIngest.BootstrapMarker
import MarketIngest.ProducerRuns

namespace MarketIngest.Backfill

open Build Fallible Normalize Paging Storage Supervisor

/-!
# The events that a backfill leaves

A trade that is appended becomes a record with the number and the arrival time
that it got, and a reader takes a raw event from the record.  The backfill of a
market over a chunk leaves the events of the trades of the chunk, numbered one
after the other.
-/

section Records

/-- The columns of a trade that the sink carries without reading them. -/
structure TradeColumns where
  sourceRole : String
  marketType : String
  symbolCanonical : String
  baseAsset : String
  quoteAsset : String
  exchangeSequence : Option Int
  payloadJson : String
  deriving Repr, DecidableEq

variable
  (payloadJson : BinanceMarket → AggTrade → String)
  (sha256Hex : String → String)

/-- The carried columns of a trade. -/
def tradeColumns
    (market : BinanceMarket)
    (trade : AggTrade) : TradeColumns where
  sourceRole := "reference"
  marketType := "spot"
  symbolCanonical := market.baseAsset
  baseAsset := market.baseAsset
  quoteAsset := market.quoteAsset
  exchangeSequence := some trade.aggregateTradeId
  payloadJson := payloadJson market trade

/-- Only trades carry columns that are looked at later. -/
def tradePayloads : DraftPayloads (Option TradeColumns) where
  trade := fun market trade => some (tradeColumns payloadJson market trade)
  emptyGap := fun _ _ _ => none
  symbolHealth := fun _ _ => none
  sourceHealth := fun _ _ _ _ _ => none

/-- The raw event that a reader takes from a record. -/
def rawEventOf : L0Record (Option TradeColumns) → Option RawInputEvent
  | .raw record =>
      record.payload.map (fun columns =>
        { eventId := record.eventId
          producerRunId := record.producerRunId
          venue := record.venue
          sourceRole := columns.sourceRole
          marketType := columns.marketType
          eventType := record.eventType
          symbolNative := record.symbolNative
          symbolCanonical := columns.symbolCanonical
          baseAsset := columns.baseAsset
          quoteAsset := columns.quoteAsset
          exchangeTimestampMs := record.exchangeTimestampMs
          ingestTimestampMs := record.ingestTimestampMs
          exchangeSequence := columns.exchangeSequence
          payloadJson := columns.payloadJson
          payloadSha256 := sha256Hex columns.payloadJson
          schemaVersion := "raw_market_event_v2" })
  | _ => none

/-- The draft of a trade with all of its columns. -/
def fullTradeDraft
    (market : BinanceMarket)
    (trade : AggTrade)
    (nowMs : Int) : Parquet.RawMarketEventDraft where
  eventType := "trade"
  venue := "binance"
  sourceRole := "reference"
  marketType := "spot"
  symbolNative := market.rawSymbol
  symbolCanonical := market.baseAsset
  baseAsset := market.baseAsset
  quoteAsset := market.quoteAsset
  exchangeTimestampMs := trade.tradeTimestampMs
  ingestTimestampMs := nowMs
  sequenceId := "binance:trade:" ++ toString trade.aggregateTradeId
  sequenceTag := "binance:trade:" ++ toString trade.aggregateTradeId
  exchangeSequence := some trade.aggregateTradeId
  diffFirstUpdateId := none
  diffFinalUpdateId := none
  isSnapshot := false
  streamType := "HISTORICAL_REST"
  streamPhase := "backfill"
  payloadJson := payloadJson market trade

/-- The event that a reader takes from the written columns of a trade. -/
def tradeEvent
    (market : BinanceMarket)
    (runId : String)
    (nowMs : Int)
    (ordinal : Nat)
    (trade : AggTrade) : RawInputEvent :=
  sharedRawEvent
    (.fromDraft sha256Hex (fullTradeDraft payloadJson market trade nowMs)
      runId ordinal)

/-- The records that calls append, one call after the other. -/
def callRecords
    {Payload : Type} :
    L0StorageSink Payload → List (SinkCall Payload) →
    List (L0Record Payload)
  | _, [] => []
  | sink, call :: rest =>
      (call.record? sink).toList ++ callRecords (call.perform sink).1 rest

variable
  {payloadJson sha256Hex}
  {environment : BackfillEnvironment (Option TradeColumns)}
  {market : BinanceMarket}

/-- The record of an appended trade has the columns of the trade. -/
private theorem rawEventOf_tradeCall
    (payloads : environment.payloads = tradePayloads payloadJson)
    (sink : L0StorageSink (Option TradeColumns))
    (ordinal : Nat)
    (trade : AggTrade) :
    ((tradeCall environment market ordinal trade).record? sink).toList.filterMap
        (rawEventOf sha256Hex) =
      [tradeEvent payloadJson sha256Hex market sink.config.1.runId
        (environment.clockAt ordinal) sink.nextOrdinal trade] := by
  rw [tradeCall, payloads]
  rfl

/-- Appending a trade keeps the configuration and takes a number. -/
private theorem perform_tradeCall
    (sink : L0StorageSink (Option TradeColumns))
    (ordinal : Nat)
    (trade : AggTrade) :
    ((tradeCall environment market ordinal trade).perform sink).1.config =
        sink.config ∧
      ((tradeCall environment market ordinal trade).perform
          sink).1.nextOrdinal =
        sink.nextOrdinal + 1 := by
  constructor
  · simp only [tradeCall, SinkCall.perform,
      L0StorageSink.appendRawMarketEvent]
    split <;> rfl
  · exact SinkCall.perform_nextOrdinal sink _

/-- Gap alerts leave no raw events. -/
private theorem events_gapAlerts
    (sink : L0StorageSink (Option TradeColumns))
    (alerts : List (GapAlertDraft (Option TradeColumns) × FileOutcome)) :
    (callRecords sink
        (alerts.map (fun alert =>
          .appendGapAlert alert.1 alert.2))).filterMap
        (rawEventOf sha256Hex) =
      [] := by
  induction alerts generalizing sink with
  | nil =>
      rfl
  | cons alert rest inductionHypothesis =>
      rw [List.map_cons, callRecords, List.filterMap_append,
        inductionHypothesis]
      rfl

/-- Appended trades leave their events, in order and numbered. -/
private theorem events_tradeCalls
    (payloads : environment.payloads = tradePayloads payloadJson)
    (sink : L0StorageSink (Option TradeColumns))
    (trades : List AggTrade)
    (alerts : List (GapAlertDraft (Option TradeColumns) × FileOutcome)) :
    (callRecords sink
        (tradeCalls environment market sink.nextOrdinal trades ++
          alerts.map (fun alert =>
            .appendGapAlert alert.1 alert.2))).filterMap
        (rawEventOf sha256Hex) =
      (trades.zipIdx sink.nextOrdinal).map (fun stamp =>
        tradeEvent payloadJson sha256Hex market sink.config.1.runId
          (environment.clockAt stamp.2) stamp.2 stamp.1) := by
  induction trades generalizing sink with
  | nil =>
      exact events_gapAlerts sink alerts
  | cons trade rest inductionHypothesis =>
      obtain ⟨sameConfig, next⟩ :=
        @perform_tradeCall environment market sink sink.nextOrdinal trade
      have later :=
        inductionHypothesis
          ((tradeCall environment market sink.nextOrdinal trade).perform
            sink).1
      rw [sameConfig, next] at later
      rw [tradeCalls, List.zipIdx_cons, List.map_cons, List.cons_append,
        callRecords, List.filterMap_append,
        rawEventOf_tradeCall payloads]
      simp only [List.map_cons, List.singleton_append]
      exact congrArg _ later

end Records

section Runs

/-- A backfill of a market, from a state of its sink to another. -/
structure SymbolRun where
  environment : BackfillEnvironment (Option TradeColumns)
  args : BackfillArgs
  before : BackfillState (Option TradeColumns)
  report : SymbolBackfillReport
  after : BackfillState (Option TradeColumns)

namespace SymbolRun

variable
  (run : SymbolRun)

/-- The reading of the clock when a record gets its number. -/
def clockAt (ordinal : Nat) : Int :=
  run.environment.clockAt ordinal

/-- The trades of a tape that the run takes, with their numbers. -/
def stamps (tape : List AggTrade) : List (AggTrade × Nat) :=
  (rangeTrades run.args tape).zipIdx run.before.next

/-- The raw events that the run leaves. -/
def events (sha256Hex : String → String) : List RawInputEvent :=
  (callRecords run.before.history.sink
    (run.after.calls.drop run.before.calls.length)).filterMap
    (rawEventOf sha256Hex)

/-- The event of a numbered trade of the run. -/
def eventOf
    (payloadJson : BinanceMarket → AggTrade → String)
    (sha256Hex : String → String)
    (market : BinanceMarket)
    (stamp : AggTrade × Nat) : RawInputEvent :=
  tradeEvent payloadJson sha256Hex market
    run.before.history.sink.config.1.runId (run.clockAt stamp.2) stamp.2
    stamp.1

/-- The run is a backfill of a chunk, and it returned. -/
structure Backfills
    (payloadJson : BinanceMarket → AggTrade → String)
    (market : BinanceMarket)
    (tape : List AggTrade)
    (chunk : BootstrapChunk) : Prop where
  payloads : run.environment.payloads = tradePayloads payloadJson
  inputStartMs : run.args.inputStartMs = chunk.startMs
  inputEndMs : run.args.inputEndMs = chunk.endMs
  exchange : AnswersFrom run.environment run.args market tape
  returned :
    (backfillSymbol run.environment run.args market).Returns run.before
      run.report run.after

variable
  {run}
  {payloadJson : BinanceMarket → AggTrade → String}
  {market : BinanceMarket}
  {tape : List AggTrade}
  {chunk : BootstrapChunk}

/-- A backfill leaves the events of its trades. -/
theorem Backfills.events_eq
    (backfills : run.Backfills payloadJson market tape chunk)
    (isTape : IsTape tradeId tradeTime tape)
    (sha256Hex : String → String) :
    run.events sha256Hex =
      (run.stamps tape).map
        (run.eventOf payloadJson sha256Hex market) := by
  obtain ⟨alerts, calls⟩ :=
    backfillSymbol_returns isTape backfills.exchange backfills.returned
  rw [events, calls, List.append_assoc, List.drop_left]
  exact events_tradeCalls backfills.payloads _ _ alerts

/-- The trades of a run are those of its chunk and of its end. -/
theorem Backfills.mem_stamps
    (backfills : run.Backfills payloadJson market tape chunk)
    {stamp : AggTrade × Nat}
    (member : stamp ∈ run.stamps tape) :
    stamp.1 ∈ tape ∧
      chunk.startMs ≤ tradeTime stamp.1 ∧
      tradeTime stamp.1 ≤ chunk.endMs := by
  have inRange : stamp.1 ∈ rangeTrades run.args tape :=
    List.fst_mem_of_mem_zipIdx member
  obtain ⟨inTape, within⟩ := List.mem_filter.mp inRange
  rw [decide_eq_true_eq, backfills.inputStartMs,
    backfills.inputEndMs] at within
  exact ⟨inTape, within⟩

/-- Every trade of the chunk and of its end is taken. -/
theorem Backfills.exists_stamp
    (backfills : run.Backfills payloadJson market tape chunk)
    {trade : AggTrade}
    (inTape : trade ∈ tape)
    (started : chunk.startMs ≤ tradeTime trade)
    (notOver : tradeTime trade ≤ chunk.endMs) :
    ∃ stamp ∈ run.stamps tape, stamp.1 = trade := by
  have inRange : trade ∈ rangeTrades run.args tape := by
    refine List.mem_filter.mpr ⟨inTape, ?_⟩
    rw [decide_eq_true_eq, backfills.inputStartMs, backfills.inputEndMs]
    exact ⟨started, notOver⟩
  have fronts :
      (run.stamps tape).map Prod.fst = rangeTrades run.args tape :=
    List.zipIdx_map_fst _ _
  rw [← fronts] at inRange
  exact List.mem_map.mp inRange

end SymbolRun

end Runs

end MarketIngest.Backfill
