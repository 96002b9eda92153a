import MarketIngest.BinanceEvents
import MarketIngest.LiveWorker

namespace MarketIngest.Binance

open Backfill (BinanceMarket)
open Live (SnapshotBatch)
open Normalize (JsonValue)
open Parquet (RawMarketEventDraft)
open Wire

/-!
# Snapshots over REST

Before it watches its streams, a worker takes a snapshot of every book, and
before and while it watches it takes snapshots of the funding rates and of the
open interest of its markets.  One answer has the funding rates of all markets;
it also says which markets have an open interest to ask for.
-/

variable {Number : Type}

section Drafts

variable (codec : WireCodec Number)

/-- A text or a number as text. -/
def stringOrNumber : Option (JsonValue Number) → Option String
  | some (.text value) => some value
  | some (.number value) => some (codec.toString (.number value))
  | _ => none

/-- The whole number of a field, or else another one. -/
def integerFieldOr
    (value : JsonValue Number)
    (name : String)
    (fallback : Int) : Int :=
  ((value.get name).bind codec.asInteger).getD fallback

/-- The draft of a snapshot of the book of a market. -/
def depthSnapshotDraft
    (market : BinanceMarket)
    (ingestTimestampMs : Int)
    (value : JsonValue Number) :
    Except BinanceIngestError RawMarketEventDraft :=
  match (value.get "lastUpdateId").bind codec.asInteger with
  | none =>
      .error (.invalidMessage
        ("Binance depth snapshot missing lastUpdateId for " ++
          market.rawSymbol))
  | some lastUpdateId =>
      let sequenceTag := "binance:depth_snapshot:" ++ toString lastUpdateId
      .ok
        { eventType := "depth_snapshot"
          venue := "binance"
          sourceRole := "reference"
          marketType := "spot"
          symbolNative := market.rawSymbol
          symbolCanonical := market.baseAsset
          baseAsset := market.baseAsset
          quoteAsset := market.quoteAsset
          exchangeTimestampMs := ingestTimestampMs
          ingestTimestampMs := ingestTimestampMs
          sequenceId := sequenceTag
          sequenceTag := sequenceTag
          exchangeSequence := some lastUpdateId
          diffFirstUpdateId := none
          diffFinalUpdateId := none
          isSnapshot := true
          streamType := "REST_SNAPSHOT"
          streamPhase := "snapshot"
          payloadJson := codec.toString value }

/-- The draft of a snapshot of a derivative. -/
def derivativeSnapshotDraft
    (eventType : String)
    (market : BinanceMarket)
    (exchangeTimestampMs ingestTimestampMs : Int)
    (sequenceTag : String)
    (payload : JsonValue Number) : RawMarketEventDraft where
  eventType := eventType
  venue := "binance"
  sourceRole := "derivatives"
  marketType := "usdm_perpetual"
  symbolNative := market.rawSymbol
  symbolCanonical := market.baseAsset
  baseAsset := market.baseAsset
  quoteAsset := market.quoteAsset
  exchangeTimestampMs := exchangeTimestampMs
  ingestTimestampMs := ingestTimestampMs
  sequenceId := sequenceTag
  sequenceTag := sequenceTag
  exchangeSequence := none
  diffFirstUpdateId := none
  diffFinalUpdateId := none
  isSnapshot := true
  streamType := "REST_SNAPSHOT"
  streamPhase := "snapshot"
  payloadJson := codec.toString payload

/-- The payload of a funding rate. -/
def fundingPayload
    (record : JsonValue Number)
    (symbol fundingRate : String)
    (exchangeTimestampMs : Int) : JsonValue Number :=
  jsonObject
    [("provider", .text "binance_usdm"),
      ("source_endpoint", .text "/fapi/v1/premiumIndex"),
      ("symbol", .text symbol),
      ("funding_rate", .text fundingRate),
      ("lastFundingRate", .text fundingRate),
      ("unit", .text "ratio"),
      ("event_time_ms", codec.integer exchangeTimestampMs),
      ("raw", record)]

/-- The draft of a funding rate. -/
def fundingSnapshotDraft
    (record : JsonValue Number)
    (symbol : String)
    (market : BinanceMarket)
    (fundingRate : String)
    (ingestTimestampMs : Int) : RawMarketEventDraft :=
  let exchangeTimestampMs :=
    integerFieldOr codec record "time" ingestTimestampMs
  derivativeSnapshotDraft codec "funding_rate_snapshot" market
    exchangeTimestampMs ingestTimestampMs
    ("binance:funding_rate:" ++ symbol ++ ":" ++
      toString exchangeTimestampMs)
    (fundingPayload codec record symbol fundingRate exchangeTimestampMs)

/-- The records of an answer about funding rates. -/
def premiumIndexRecords :
    JsonValue Number → Except BinanceIngestError (List (JsonValue Number))
  | .array records => .ok records
  | .object record => .ok [.object record]
  | _ =>
      .error (.invalidMessage
        "Binance premiumIndex returned non-object response")

/-- The funding rates of an answer, and the symbols that it knows. -/
structure FundingRateSnapshotBatch where
  drafts : List RawMarketEventDraft
  supportedSymbols : List String
  deriving Repr, DecidableEq

/-- The symbol of a record. -/
def recordSymbol (record : JsonValue Number) : Option String :=
  (record.get "symbol").bind JsonValue.asStr

/-- The draft of a record of a known market that has a funding rate. -/
def fundingDraft?
    (bySymbol : OrderedMap String BinanceMarket)
    (ingestTimestampMs : Int)
    (record : JsonValue Number) : Option RawMarketEventDraft := do
  let symbol ← recordSymbol record
  let market ← bySymbol.get? symbol
  let fundingRate ← stringOrNumber codec (record.get "lastFundingRate")
  some
    (fundingSnapshotDraft codec record symbol market fundingRate
      ingestTimestampMs)

/-- The markets by their own symbols. -/
def marketsBySymbol
    (markets : List BinanceMarket) : OrderedMap String BinanceMarket :=
  markets.foldl
    (fun bySymbol market => bySymbol.insert market.rawSymbol market)
    .empty

/-- The funding rates of an answer. -/
def fundingSnapshotBatchFromValue
    (value : JsonValue Number)
    (markets : List BinanceMarket)
    (ingestTimestampMs : Int) :
    Except BinanceIngestError FundingRateSnapshotBatch := do
  let records ← premiumIndexRecords value
  .ok
    { drafts :=
        records.filterMap
          (fundingDraft? codec (marketsBySymbol markets) ingestTimestampMs)
      supportedSymbols := records.filterMap recordSymbol }

/-- The payload of an open interest. -/
def openInterestPayload
    (value : JsonValue Number)
    (symbol openInterest : String)
    (exchangeTimestampMs : Int) : JsonValue Number :=
  jsonObject
    [("provider", .text "binance_usdm"),
      ("source_endpoint", .text "/fapi/v1/openInterest"),
      ("symbol", .text symbol),
      ("open_interest", .text openInterest),
      ("openInterest", .text openInterest),
      ("unit", .text "contracts"),
      ("event_time_ms", codec.integer exchangeTimestampMs),
      ("raw", value)]

/-- The draft of an open interest. -/
def openInterestSnapshotDraftFromValue
    (value : JsonValue Number)
    (market : BinanceMarket)
    (ingestTimestampMs : Int) :
    Except BinanceIngestError RawMarketEventDraft :=
  match stringOrNumber codec (value.get "openInterest") with
  | none =>
      .error (.invalidMessage
        ("Binance openInterest missing openInterest for " ++
          market.rawSymbol))
  | some openInterest =>
      let exchangeTimestampMs :=
        integerFieldOr codec value "time" ingestTimestampMs
      .ok
        (derivativeSnapshotDraft codec "open_interest_snapshot" market
          exchangeTimestampMs ingestTimestampMs
          ("binance:open_interest:" ++ market.rawSymbol ++ ":" ++
            toString exchangeTimestampMs)
          (openInterestPayload codec value market.rawSymbol openInterest
            exchangeTimestampMs))

end Drafts

section Fetching

variable (codec : WireCodec Number)

/-- What the exchange answers while snapshots are fetched, if it does. -/
structure DerivativeAnswers (Number : Type) where
  ingestTimestampMs : Int
  premiumIndex : Option (JsonValue Number)
  openInterest : BinanceMarket → Option (JsonValue Number)
  logFails : Bool

/-- Whether to ask for the open interest of a symbol. -/
def shouldFetchOpenInterest
    (supportedFuturesSymbols : Option (List String))
    (symbol : String) : Bool :=
  match supportedFuturesSymbols with
  | none => true
  | some symbols => symbols.contains symbol

/-- What fetching the open interest of one market leads to. -/
inductive OpenInterest where
  | unsupported
  | fetched (draft : RawMarketEventDraft)
  | failed
  deriving Repr, DecidableEq

/-- Fetch the open interest of a market, if it has one. -/
def fetchOpenInterest
    (answers : DerivativeAnswers Number)
    (supported : Option (List String))
    (market : BinanceMarket) : OpenInterest :=
  if shouldFetchOpenInterest supported market.rawSymbol then
    match answers.openInterest market with
    | none => .failed
    | some value =>
        match
          openInterestSnapshotDraftFromValue codec value market
            answers.ingestTimestampMs with
        | .ok draft => .fetched draft
        | .error _ => .failed
  else
    .unsupported

/-- How many snapshots were taken, and how many were not. -/
structure BinanceDerivativeSnapshotReport where
  fundingRateSnapshotRecords : Nat
  openInterestSnapshotRecords : Nat
  unsupportedFuturesSymbolCount : Nat
  failureCount : Nat
  deriving Repr, DecidableEq

/-- Snapshots, whether their fetching came to its end, and its report. -/
structure FetchedSnapshots where
  batch : SnapshotBatch
  report : BinanceDerivativeSnapshotReport
  deriving Repr, DecidableEq

/-- Fetch the open interest of markets; a log that fails ends it. -/
def fetchOpenInterests
    (answers : DerivativeAnswers Number)
    (supported : Option (List String)) :
    List BinanceMarket → FetchedSnapshots → FetchedSnapshots
  | [], fetched => fetched
  | market :: rest, fetched =>
      match fetchOpenInterest codec answers supported market with
      | .unsupported =>
          if answers.logFails then
            { fetched with batch := { fetched.batch with completes := false } }
          else
            fetchOpenInterests answers supported rest
              { fetched with
                report :=
                  { fetched.report with
                    unsupportedFuturesSymbolCount :=
                      fetched.report.unsupportedFuturesSymbolCount + 1 } }
      | .fetched draft =>
          fetchOpenInterests answers supported rest
            { batch :=
                { fetched.batch with
                  drafts := fetched.batch.drafts ++ [draft] }
              report :=
                { fetched.report with
                  openInterestSnapshotRecords :=
                    fetched.report.openInterestSnapshotRecords + 1 } }
      | .failed =>
          if answers.logFails then
            { fetched with batch := { fetched.batch with completes := false } }
          else
            fetchOpenInterests answers supported rest
              { fetched with
                report :=
                  { fetched.report with
                    failureCount := fetched.report.failureCount + 1 } }

/-- The answer about funding rates, if it came and is understood. -/
def fetchFundingRateSnapshotBatch
    (answers : DerivativeAnswers Number)
    (markets : List BinanceMarket) : Option FundingRateSnapshotBatch := do
  let value ← answers.premiumIndex
  (fundingSnapshotBatchFromValue codec value markets
    answers.ingestTimestampMs).toOption

/-- Fetch the snapshots of the derivatives of all markets. -/
def fetchDerivativeSnapshots
    (answers : DerivativeAnswers Number)
    (markets : List BinanceMarket) : FetchedSnapshots :=
  match fetchFundingRateSnapshotBatch codec answers markets with
  | some batch =>
      fetchOpenInterests codec answers (some batch.supportedSymbols) markets
        { batch :=
            { drafts := batch.drafts
              completes := true }
          report :=
            { fundingRateSnapshotRecords := batch.drafts.length
              openInterestSnapshotRecords := 0
              unsupportedFuturesSymbolCount := 0
              failureCount := 0 } }
  | none =>
      let failed :=
        { batch :=
            { drafts := []
              completes := !answers.logFails }
          report :=
            { fundingRateSnapshotRecords := 0
              openInterestSnapshotRecords := 0
              unsupportedFuturesSymbolCount := 0
              failureCount := 1 } }
      if answers.logFails then
        failed
      else
        fetchOpenInterests codec answers none markets failed

end Fetching

end MarketIngest.Binance
