import MarketIngest.Fallible
import MarketIngest.SinkUploads

namespace MarketIngest.Backfill

open Storage

/-!
# The backfill of a time range

A backfill asks the exchange for the trades of each market, page by page,
appends them to an L0 sink together with gap alerts and health records, flushes
the sink and uploads a manifest.  It stops at the first error.  The answers of
the exchange, the clock, and the outcomes of all files are those of an
environment.
-/

variable {Payload : Type}

/-- Arguments of a backfill of Binance. -/
structure BackfillArgs where
  inputStartMs : Int
  inputEndMs : Int
  expectSymbolCount : Nat
  symbols : Option (List String)
  l0S3Bucket : String
  l0SpoolRoot : String
  l0FlushRecords : Nat
  l0ShardCount : Nat
  deriving Repr, DecidableEq

/-- Failures of a backfill; the last one is that its process is ended. -/
inductive BackfillError where
  | invalidArgs (message : String)
  | invalidConfig (message : String)
  | request
  | storage (error : StorageError)
  | killed
  deriving Repr, DecidableEq

/-- A bucket name that is not a placeholder. -/
def validateRealBucket
    (name value : String) : Except BackfillError Unit :=
  if isBlank value then
    .error (.invalidArgs (name ++ " requires a bucket"))
  else if value.toList.contains '<' || value.toList.contains '>' then
    .error (.invalidArgs
      (name ++
        " must be a real bucket name, not a public-doc placeholder"))
  else
    .ok ()

/-- An argument that must be positive. -/
def parsePositive (value : Int) (name : String) :
    Except BackfillError Unit :=
  if value ≤ 0 then
    .error (.invalidArgs (name ++ " must be positive"))
  else
    .ok ()

/-- Check the arguments of a backfill. -/
def validateCompletedArgs
    (parsed : BackfillArgs) : Except BackfillError Unit := do
  parsePositive parsed.inputStartMs "--input-start-ms"
  parsePositive parsed.inputEndMs "--input-end-ms"
  if parsed.inputEndMs ≤ parsed.inputStartMs then
    .error (.invalidArgs
      "--input-end-ms must be greater than --input-start-ms")
  else if parsed.l0S3Bucket.isEmpty then
    .error (.invalidArgs "--l0-s3-bucket is required")
  else
    validateRealBucket "--l0-s3-bucket" parsed.l0S3Bucket

/-- A market of the exchange. -/
structure BinanceMarket where
  rawSymbol : String
  baseAsset : String
  quoteAsset : String
  deriving Repr, DecidableEq

/-- Take the requested symbols out of the enabled markets. -/
def takeMarkets :
    List String →
    OrderedMap String BinanceMarket →
    Except BackfillError (List BinanceMarket)
  | [], _ => .ok []
  | symbol :: rest, byRaw =>
      match byRaw.get? symbol with
      | none =>
          .error (.invalidArgs
            ("unknown Binance symbol in --symbols: " ++ symbol))
      | some market => do
          let markets ← takeMarkets rest (byRaw.erase symbol)
          .ok (market :: markets)

/-- The markets that a backfill covers. -/
def resolveMarkets
    (args : BackfillArgs)
    (enabled : List BinanceMarket) :
    Except BackfillError (List BinanceMarket) :=
  match args.symbols with
  | some symbols =>
      takeMarkets symbols
        (enabled.foldl
          (fun byRaw market => byRaw.insert market.rawSymbol market)
          .empty)
  | none =>
      if enabled.length ≠ args.expectSymbolCount then
        .error (.invalidConfig
          ("expected " ++ toString args.expectSymbolCount ++
            " enabled Binance symbols, found " ++
            toString enabled.length))
      else
        .ok enabled

/-- An aggregated trade as the exchange reports it. -/
structure AggTrade where
  aggregateTradeId : Int
  price : String
  quantity : String
  firstTradeId : Int
  lastTradeId : Int
  tradeTimestampMs : Int
  isBuyerMaker : Bool
  isBestMatch : Bool
  deriving Repr, DecidableEq

/-- How many trades a full page has. -/
def binancePageLimit : Nat :=
  1000

/-- What the backfill reports for one symbol. -/
structure SymbolBackfillReport where
  symbolNative : String
  symbolCanonical : String
  recordCount : Nat
  firstEventTimeMs : Option Int
  lastEventTimeMs : Option Int
  gapAlertCount : Nat
  status : String
  deriving Repr, DecidableEq

/-- Nothing was seen yet. -/
def SymbolBackfillReport.empty
    (symbolNative symbolCanonical : String) : SymbolBackfillReport where
  symbolNative := symbolNative
  symbolCanonical := symbolCanonical
  recordCount := 0
  firstEventTimeMs := none
  lastEventTimeMs := none
  gapAlertCount := 0
  status := "empty"

/-- Count an appended trade. -/
def SymbolBackfillReport.observe
    (report : SymbolBackfillReport)
    (exchangeTimestampMs : Int) : SymbolBackfillReport :=
  { report with
    recordCount := report.recordCount + 1
    firstEventTimeMs :=
      some ((report.firstEventTimeMs.map
        (min · exchangeTimestampMs)).getD exchangeTimestampMs)
    lastEventTimeMs :=
      some ((report.lastEventTimeMs.map
        (max · exchangeTimestampMs)).getD exchangeTimestampMs)
    status := "ok" }

/-- Count a gap. -/
def SymbolBackfillReport.noteGap
    (report : SymbolBackfillReport) : SymbolBackfillReport :=
  { report with
    gapAlertCount := report.gapAlertCount + 1
    status := if report.recordCount > 0 then "partial" else report.status }

/-- The columns of drafts that are rendered and never inspected. -/
structure DraftPayloads (Payload : Type) where
  trade : BinanceMarket → AggTrade → Payload
  emptyGap : Int → Int → String → Payload
  symbolHealth : SymbolBackfillReport → Int → Payload
  sourceHealth : BackfillArgs → Int → Nat → Nat → Nat → Payload

/-- What the surroundings of a backfill decide. -/
structure BackfillEnvironment (Payload : Type) where
  payloads : DraftPayloads Payload
  hash : String → Nat
  nowSecs : Int
  clockAt : Nat → Int
  observedAtMs : Int
  enabledMarkets : Except String (List BinanceMarket)
  clientFails : Bool
  sinkFails : Bool
  tradesByTime : BinanceMarket → Option (List AggTrade)
  tradesFromId : BinanceMarket → List (Option (List AggTrade))
  fileAt : Nat → FileOutcome
  flushFiles : L0StorageSink.FlushFiles
  manifestUploaded : Bool
  killedAfter : Option Nat

/-- The sink of a backfill: as it was created, and after some calls. -/
structure BackfillState (Payload : Type) where
  initial : SinkHistory Payload
  history : SinkHistory Payload
  calls : List (SinkCall Payload)

/-- A part of a backfill. -/
abbrev Program (Payload : Type) :=
  Fallible (BackfillState Payload) BackfillError

/-- The ordinal of the next record. -/
def nextOrdinal : Program Payload Nat := do
  let state ← get
  pure state.history.sink.nextOrdinal

/-- Make a call to the sink, unless the process is ended before. -/
def makeCall
    (environment : BackfillEnvironment Payload)
    (call : SinkCall Payload) : Program Payload Unit := do
  let state ← get
  if environment.killedAfter = some state.calls.length then
    throw .killed
  else
    set { state with
      history := stepCall state.history call
      calls := state.calls ++ [call] }
    match (call.perform state.history.sink).2 with
    | .ok () => pure ()
    | .error failure => throw (.storage failure)

/-- The draft of a trade. -/
def rawTradeDraft
    (payloads : DraftPayloads Payload)
    (market : BinanceMarket)
    (trade : AggTrade)
    (nowMs : Int) : RawMarketEventDraft Payload where
  eventType := "trade"
  venue := "binance"
  symbolNative := market.rawSymbol
  exchangeTimestampMs := trade.tradeTimestampMs
  ingestTimestampMs := nowMs
  payload := payloads.trade market trade

/-- Append the trades of a page; the flag says that the range has ended. -/
def appendPage
    (environment : BackfillEnvironment Payload)
    (args : BackfillArgs)
    (market : BinanceMarket) :
    List AggTrade →
    SymbolBackfillReport →
    Program Payload (Bool × SymbolBackfillReport)
  | [], report => pure (false, report)
  | trade :: rest, report =>
      if trade.tradeTimestampMs > args.inputEndMs then
        pure (true, report)
      else if trade.tradeTimestampMs < args.inputStartMs then
        appendPage environment args market rest report
      else do
        let ordinal ← nextOrdinal
        makeCall environment
          (.appendRawMarketEvent
            (rawTradeDraft environment.payloads market trade
              (environment.clockAt ordinal))
            .noMarkPrice (environment.fileAt ordinal))
        appendPage environment args market rest
          (report.observe trade.tradeTimestampMs)

/-- Append the alert that a range has no trades. -/
def appendNoTradeGap
    (environment : BackfillEnvironment Payload)
    (args : BackfillArgs)
    (market : BinanceMarket)
    (report : SymbolBackfillReport) :
    Program Payload SymbolBackfillReport := do
  let ordinal ← nextOrdinal
  makeCall environment
    (.appendGapAlert
      { venue := "binance"
        symbolNative := market.rawSymbol
        gapType := "historical_range_empty"
        detectedAtMs := environment.clockAt ordinal
        payload :=
          environment.payloads.emptyGap args.inputStartMs args.inputEndMs
            "no_trade_records_returned" }
      (environment.fileAt ordinal))
  pure report.noteGap

/-- The pages after the first one, one answer of the exchange for each. -/
def appendPagesFrom
    (environment : BackfillEnvironment Payload)
    (args : BackfillArgs)
    (market : BinanceMarket) :
    List (Option (List AggTrade)) →
    Int →
    SymbolBackfillReport →
    Program Payload SymbolBackfillReport
  | [], _, _ => throw .request
  | none :: _, _, _ => throw .request
  | some page :: rest, nextFromId, report =>
      if page.isEmpty then
        pure report
      else do
        let (stop, report) ←
          appendPage environment args market page report
        let nextCandidate :=
          (page.getLast?.map (·.aggregateTradeId + 1)).getD nextFromId
        if nextCandidate ≤ nextFromId then
          throw (.invalidConfig
            ("Binance aggTrades cursor did not advance for " ++
              market.rawSymbol))
        else if !stop && page.length = binancePageLimit then
          appendPagesFrom environment args market rest nextCandidate report
        else
          pure report

/-- Backfill one market. -/
def backfillSymbol
    (environment : BackfillEnvironment Payload)
    (args : BackfillArgs)
    (market : BinanceMarket) :
    Program Payload SymbolBackfillReport := do
  let report := SymbolBackfillReport.empty market.rawSymbol market.baseAsset
  match environment.tradesByTime market with
  | none => throw .request
  | some firstPage =>
      if firstPage.isEmpty then
        appendNoTradeGap environment args market report
      else do
        let (stop, report) ←
          appendPage environment args market firstPage report
        let nextFromId :=
          (firstPage.getLast?.map (·.aggregateTradeId + 1)).getD 0
        let report ←
          if !stop && firstPage.length = binancePageLimit then
            appendPagesFrom environment args market
              (environment.tradesFromId market) nextFromId report
          else
            pure report
        if report.recordCount = 0 then
          appendNoTradeGap environment args market report
        else
          pure report

/-- Backfill some markets one after the other. -/
def backfillSymbols
    (environment : BackfillEnvironment Payload)
    (args : BackfillArgs) :
    List BinanceMarket → Program Payload (List SymbolBackfillReport)
  | [] => pure []
  | market :: rest => do
      let report ← backfillSymbol environment args market
      let reports ← backfillSymbols environment args rest
      pure (report :: reports)

/-- Append the health of the symbols. -/
def appendSymbolHealthFor
    (environment : BackfillEnvironment Payload)
    (venue : String)
    (observedAtMs : Int) :
    List SymbolBackfillReport → Program Payload Unit
  | [] => pure ()
  | symbol :: rest => do
      let ordinal ← nextOrdinal
      makeCall environment
        (.appendSymbolHealth
          { venue := venue
            symbolNative := symbol.symbolNative
            observedAtMs := observedAtMs
            payload :=
              environment.payloads.symbolHealth symbol observedAtMs }
          (environment.fileAt ordinal))
      appendSymbolHealthFor environment venue observedAtMs rest

/-- Append the health records of the run. -/
def writeHealthAndReport
    (environment : BackfillEnvironment Payload)
    (args : BackfillArgs)
    (markets : List BinanceMarket)
    (symbols : List SymbolBackfillReport) : Program Payload Unit := do
  let totalRecordCount := (symbols.map (·.recordCount)).sum
  let totalGapAlertCount := (symbols.map (·.gapAlertCount)).sum
  appendSymbolHealthFor environment "binance" environment.observedAtMs
    symbols
  let ordinal ← nextOrdinal
  makeCall environment
    (.appendSourceHealth
      { venue := "binance"
        observedAtMs := environment.observedAtMs
        payload :=
          environment.payloads.sourceHealth args environment.observedAtMs
            markets.length totalRecordCount totalGapAlertCount }
      (environment.fileAt ordinal))

/-- Upload the manifest; only a failure is returned. -/
def uploadManifest
    (environment : BackfillEnvironment Payload) : Program Payload Unit :=
  if environment.manifestUploaded then
    pure ()
  else
    throw (.storage .aws)

/-- The backfill of the markets, without its final flush. -/
def runBinance
    (environment : BackfillEnvironment Payload)
    (args : BackfillArgs) : Program Payload Unit := do
  match environment.enabledMarkets with
  | .error message => throw (.invalidConfig message)
  | .ok enabled =>
      match resolveMarkets args enabled with
      | .error failure => throw failure
      | .ok markets =>
          if environment.clientFails then
            throw .request
          else do
            let symbols ← backfillSymbols environment args markets
            writeHealthAndReport environment args markets symbols

/-- The storage configuration of a backfill. -/
def storageConfig
    (args : BackfillArgs)
    (nowSecs : Int) : L0StorageConfig where
  bucket := args.l0S3Bucket
  spoolRoot := args.l0SpoolRoot
  runId := "market-backfill-binance-" ++ toString nowSecs
  flushRecords := args.l0FlushRecords
  shardCount := args.l0ShardCount
  liveNats := none

/-- The backfill with its final flush and its manifest. -/
def runWithSink
    (environment : BackfillEnvironment Payload)
    (args : BackfillArgs) : Program Payload Unit := do
  runBinance environment args
  makeCall environment (.flushAll environment.flushFiles false)
  uploadManifest environment

/-- The state of a backfill that has just created its sink. -/
def BackfillState.start
    (config : AcceptedConfig)
    (hash : String → Nat) : BackfillState Payload where
  initial := .start config hash false
  history := .start config hash false
  calls := []

/-- The process of a backfill: its sink, if it has one, and its result. -/
def runBackfill
    (environment : BackfillEnvironment Payload)
    (args : BackfillArgs) :
    Option (BackfillState Payload) × Except BackfillError Unit :=
  match validateCompletedArgs args with
  | .error failure => (none, .error failure)
  | .ok () =>
      let config := storageConfig args environment.nowSecs
      match valid : validateConfig config with
      | .error failure => (none, .error (.storage failure))
      | .ok () =>
          if environment.sinkFails then
            (none, .error (.storage .aws))
          else
            let (after, result) :=
              (runWithSink environment args).outcome
                (.start ⟨config, valid⟩ environment.hash)
            (some after, result)

section Calls

open Fallible

variable
  {environment : BackfillEnvironment Payload}
  {args : BackfillArgs}

/-- The state is that of a new sink after calls that all returned. -/
structure Sound (state : BackfillState Payload) : Prop where
  new :
    ∃ config hash, state.initial = .start config hash false
  reached :
    state.history = Runs.run stepCall state.initial state.calls
  returned :
    Runs.Along stepCall
      (fun history call => call.Returned history.sink)
      state.initial state.calls

/-- How a call returns. -/
theorem makeCall_returns
    {call : SinkCall Payload}
    {before after : BackfillState Payload}
    {value : Unit}
    (returned : (makeCall environment call).Returns before value after) :
    after =
        { before with
          history := stepCall before.history call
          calls := before.calls ++ [call] } ∧
      call.Returned before.history.sink := by
  simp only [makeCall] at returned
  obtain ⟨state, between, read, rest⟩ := returns_bind.mp returned
  cases read
  split_ifs at rest with ended
  · cases rest
  · obtain ⟨_, written, stored, result⟩ := returns_bind.mp rest
    cases stored
    split at result
    · rename_i ok
      cases result
      exact ⟨rfl, ok⟩
    · cases result

/-- A call that returns keeps the state sound. -/
theorem makeCall_keeps
    (call : SinkCall Payload) :
    (makeCall environment call).Keeps Sound := by
  intro before value after sound returned
  obtain ⟨shape, callReturned⟩ := makeCall_returns returned
  subst shape
  refine ⟨sound.new, ?_, ?_⟩
  · rw [Runs.run_append, ← sound.reached]
    rfl
  · rw [Runs.along_append, ← sound.reached]
    exact ⟨sound.returned, callReturned, trivial⟩

/-- Reading the next ordinal changes nothing. -/
private theorem nextOrdinal_keeps :
    (nextOrdinal : Program Payload Nat).Keeps Sound := by
  intro before value after sound returned
  cases returned
  exact sound

/-- The trades of a page. -/
private theorem appendPage_keeps
    (market : BinanceMarket)
    (page : List AggTrade)
    (report : SymbolBackfillReport) :
    (appendPage environment args market page report).Keeps Sound := by
  induction page generalizing report with
  | nil =>
      exact keeps_pure _
  | cons trade rest inductionHypothesis =>
      simp only [appendPage]
      split_ifs
      · exact keeps_pure _
      · exact inductionHypothesis report
      · refine keeps_bind nextOrdinal_keeps (fun ordinal => ?_)
        exact keeps_bind (makeCall_keeps _)
          (fun _ => inductionHypothesis _)

/-- The alert that a range has no trades. -/
private theorem appendNoTradeGap_keeps
    (market : BinanceMarket)
    (report : SymbolBackfillReport) :
    (appendNoTradeGap environment args market report).Keeps Sound := by
  refine keeps_bind nextOrdinal_keeps (fun ordinal => ?_)
  exact keeps_bind (makeCall_keeps _) (fun _ => keeps_pure _)

/-- The pages after the first one. -/
private theorem appendPagesFrom_keeps
    (market : BinanceMarket)
    (answers : List (Option (List AggTrade)))
    (nextFromId : Int)
    (report : SymbolBackfillReport) :
    (appendPagesFrom environment args market answers nextFromId
      report).Keeps Sound := by
  induction answers generalizing nextFromId report with
  | nil =>
      exact keeps_throw _
  | cons answer rest inductionHypothesis =>
      cases answer with
      | none =>
          exact keeps_throw _
      | some page =>
          simp only [appendPagesFrom]
          split
          · exact keeps_pure _
          · refine keeps_bind (appendPage_keeps market page report) ?_
            rintro ⟨stop, appended⟩
            split_ifs
            · exact keeps_throw _
            · exact inductionHypothesis _ _
            · exact keeps_pure _

/-- The backfill of one market. -/
private theorem backfillSymbol_keeps
    (market : BinanceMarket) :
    (backfillSymbol environment args market).Keeps Sound := by
  simp only [backfillSymbol]
  split
  · exact keeps_throw _
  · split
    · exact appendNoTradeGap_keeps market _
    · have finished (report : SymbolBackfillReport) :
          (if report.recordCount = 0 then
            appendNoTradeGap environment args market report
          else
            pure report).Keeps Sound := by
        split_ifs
        · exact appendNoTradeGap_keeps market _
        · exact keeps_pure _
      refine keeps_bind (appendPage_keeps market _ _) ?_
      rintro ⟨stop, appended⟩
      split_ifs
      · exact keeps_bind (appendPagesFrom_keeps market _ _ _) finished
      · exact keeps_bind (keeps_pure _) finished

/-- The backfill of all markets. -/
private theorem backfillSymbols_keeps
    (markets : List BinanceMarket) :
    (backfillSymbols environment args markets).Keeps Sound := by
  induction markets with
  | nil =>
      exact keeps_pure _
  | cons market rest inductionHypothesis =>
      refine keeps_bind (backfillSymbol_keeps market) (fun report => ?_)
      exact keeps_bind inductionHypothesis (fun reports => keeps_pure _)

/-- The health of the symbols. -/
private theorem appendSymbolHealthFor_keeps
    (venue : String)
    (observedAtMs : Int)
    (symbols : List SymbolBackfillReport) :
    (appendSymbolHealthFor environment venue observedAtMs symbols).Keeps Sound := by
  induction symbols with
  | nil =>
      exact keeps_pure _
  | cons symbol rest inductionHypothesis =>
      refine keeps_bind nextOrdinal_keeps (fun ordinal => ?_)
      exact keeps_bind (makeCall_keeps _) (fun _ => inductionHypothesis)

/-- The backfill before its final flush. -/
theorem runBinance_keeps :
    (runBinance environment args).Keeps Sound := by
  simp only [runBinance]
  split
  · exact keeps_throw _
  · split
    · exact keeps_throw _
    · split_ifs
      · exact keeps_throw _
      · refine keeps_bind (backfillSymbols_keeps _) (fun symbols => ?_)
        refine keeps_bind
          (appendSymbolHealthFor_keeps _ _ symbols) (fun _ => ?_)
        exact keeps_bind nextOrdinal_keeps
          (fun ordinal => makeCall_keeps _)

/-- A backfill that returns has ended with a final flush that returned. -/
theorem runWithSink_returns
    {config : AcceptedConfig}
    {hash : String → Nat}
    {after : BackfillState Payload}
    {value : Unit}
    (returned :
      (runWithSink environment args).Returns (.start config hash) value
        after) :
    Sound after ∧
      ∃ earlier,
        after.calls =
          earlier ++ [.flushAll environment.flushFiles false] := by
  have initially :
      Sound (.start config hash : BackfillState Payload) :=
    ⟨⟨config, hash, rfl⟩, rfl, trivial⟩
  simp only [runWithSink] at returned
  obtain ⟨_, appended, binance, rest⟩ := returns_bind.mp returned
  obtain ⟨_, flushed, flush, manifest⟩ := returns_bind.mp rest
  have appendedSound := runBinance_keeps _ _ _ initially binance
  have flushedSound := makeCall_keeps _ _ _ _ appendedSound flush
  have same : flushed = after := by
    unfold uploadManifest at manifest
    split_ifs at manifest
    · exact (returns_pure.mp manifest).2
    · exact absurd manifest not_returns_throw
  subst same
  refine ⟨flushedSound, appended.calls, ?_⟩
  rw [(makeCall_returns flush).1]

end Calls

/-- A backfill that returns has a sink whose calls all returned. -/
theorem runBackfill_returns
    {environment : BackfillEnvironment Payload}
    {args : BackfillArgs}
    {state : Option (BackfillState Payload)}
    (returned : runBackfill environment args = (state, .ok ())) :
    ∃ after earlier,
      state = some after ∧
      Sound after ∧
      after.calls =
        earlier ++ [.flushAll environment.flushFiles false] := by
  unfold runBackfill at returned
  split at returned
  · cases returned
  · simp only at returned
    split at returned
    · cases returned
    · split_ifs at returned
      · cases returned
      · rename_i valid _
        set outcome :=
          (runWithSink environment args).outcome
            (.start ⟨_, valid⟩ environment.hash) with shape
        obtain ⟨after, result⟩ := outcome
        simp only [Prod.mk.injEq] at returned
        obtain ⟨rfl, rfl⟩ := returned
        obtain ⟨sound, earlier, calls⟩ := runWithSink_returns shape.symm
        exact ⟨after, earlier, rfl, sound, calls⟩

end MarketIngest.Backfill
