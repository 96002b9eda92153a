import MarketIngest.BackfillRequests

namespace MarketIngest.Backfill

open Fallible Normalize Storage

/-!
# The backfill of Upbit

Upbit serves the recent trades of a market from the latest to the earliest.  The
backfill asks for a first page up to the end of its range and goes on from the
last trade of each page, until a page is not full or has a trade from before the
range.  It refuses a page that ends where the page before it has ended.
-/

variable {Number Payload : Type}

/-- For how many days trades are recent. -/
def upbitRecentWindowDays : Int :=
  7

/-- How many trades a full page has. -/
def upbitPageLimit : Nat :=
  200

/-- A market of Upbit. -/
structure UpbitBackfillMarket where
  market : String
  baseAsset : String
  quoteAsset : String
  deriving Repr, DecidableEq

/-- A trade as Upbit reports it. -/
structure UpbitTrade (Number : Type) where
  market : String
  timestamp : Int
  tradePrice : Number
  tradeVolume : Number
  askBid : String
  sequentialId : Int
  deriving Repr, DecidableEq

/-- Where the first page starts. -/
structure UpbitInitialCursor where
  toTime : String
  daysAgo : Option Int
  deriving Repr, DecidableEq

/-- A request for recent trades. -/
structure TicksRequest where
  market : String
  count : Nat
  initial : Option UpbitInitialCursor
  cursor : Option Int
  deriving Repr, DecidableEq

/-- What the surroundings of a backfill of Upbit decide. -/
structure UpbitEnvironment (Number Payload : Type) where
  surroundings : BackfillEnvironment Payload
  tradePayload : UpbitBackfillMarket → UpbitTrade Number → Payload
  nowMs : Int

/-- The date of a timestamp, if it has one. -/
def datetimeFromMs (value : Int) : Except BackfillError Int :=
  if representableTimestamp value then
    .ok value
  else
    .error (.invalidArgs
      ("timestamp " ++ toString value ++ " is outside supported range"))

/-- The time of day of a timestamp. -/
def clockText (timestampMs : Int) : String :=
  let secs := (timestampMs % dayMs / 1000).toNat
  Text.zeroPadded 2 (secs / 3600) ++ ":" ++
    Text.zeroPadded 2 (secs / 60 % 60) ++ ":" ++
    Text.zeroPadded 2 (secs % 60)

/-- Where a range ends, in terms of the exchange. -/
def initialCursor
    (nowMs inputEndMs : Int) : Except BackfillError UpbitInitialCursor := do
  let ended ← datetimeFromMs inputEndMs
  let daysAgo := nowMs / dayMs - ended / dayMs
  if 0 ≤ daysAgo ∧ daysAgo ≤ upbitRecentWindowDays then
    .ok
      { toTime := clockText ended
        daysAgo := if daysAgo = 0 then none else some daysAgo }
  else
    .error (.invalidArgs
      ("Upbit end range must be within the most recent " ++
        toString upbitRecentWindowDays ++ " UTC days"))

/-- The text of the error of a cursor that stays. -/
def upbitCursorStays (market : String) : String :=
  "Upbit cursor did not advance for " ++ market

/-- The cursor after a page. -/
def advanceCursor
    (page : List (UpbitTrade Number))
    (currentCursor : Option Int)
    (market : String) : Except BackfillError (Option Int) :=
  match page.getLast? with
  | none => .ok currentCursor
  | some lastTrade =>
      let nextCursor := lastTrade.sequentialId
      if currentCursor = some nextCursor then
        .error (.invalidConfig (upbitCursorStays market))
      else
        .ok (some nextCursor)

/-- An exchange, by what it answers to its n-th request. -/
structure TicksServer (Number : Type) where
  answer : Nat → TicksRequest → Option (List (UpbitTrade Number))
  representable :
    ∀ number request page,
      answer number request = some page →
        ∀ trade ∈ page,
          i64Min ≤ trade.sequentialId ∧ trade.sequentialId ≤ i64Max

section Loop

variable
  (server : TicksServer Number)
  (environment : UpbitEnvironment Number Payload)
  (args : BackfillArgs)
  (market : UpbitBackfillMarket)

/-- The draft of a trade. -/
def upbitTradeDraft
    (trade : UpbitTrade Number)
    (nowMs : Int) : RawMarketEventDraft Payload where
  eventType := "trade"
  venue := "upbit"
  symbolNative := market.market
  exchangeTimestampMs := trade.timestamp
  ingestTimestampMs := nowMs
  payload := environment.tradePayload market trade

/-- Append the trades of a page; the flag says that the start was reached. -/
def appendPageTrades :
    List (UpbitTrade Number) →
    Bool →
    SymbolBackfillReport →
    Program Payload (Bool × SymbolBackfillReport)
  | [], reachedStart, report => pure (reachedStart, report)
  | trade :: rest, reachedStart, report =>
      if trade.timestamp > args.inputEndMs then
        appendPageTrades rest reachedStart report
      else if trade.timestamp < args.inputStartMs then
        appendPageTrades rest true report
      else do
        let ordinal ← nextOrdinal
        makeCall environment.surroundings
          (.appendRawMarketEvent
            (upbitTradeDraft environment market trade
              (environment.surroundings.clockAt ordinal))
            .noMarkPrice (environment.surroundings.fileAt ordinal))
        appendPageTrades rest reachedStart (report.observe trade.timestamp)

/-- The loop over the pages, for a number of rounds; no report means that it
still goes on. -/
def readTicksFrom
    (initial : UpbitInitialCursor) :
    Nat →
    Option Int →
    Bool →
    SymbolBackfillReport →
    Requesting Payload TicksRequest (Option SymbolBackfillReport)
  | 0, _, _, _ => pure none
  | rounds + 1, nextCursor, isFirst, report => do
      let page ←
        fetchPage server.answer
          { market := market.market
            count := upbitPageLimit
            initial := if isFirst then some initial else none
            cursor := nextCursor }
      if page.isEmpty then
        pure (some report)
      else do
        let (reachedStart, report) ←
          onFirst (appendPageTrades environment args market page false report)
        if reachedStart then
          pure (some report)
        else
          match advanceCursor page nextCursor market.market with
          | .error failure => throw failure
          | .ok cursor =>
              if page.length < upbitPageLimit then
                pure (some report)
              else
                readTicksFrom initial rounds cursor false report

/-- Append the alert that a range has no trades. -/
def appendUpbitGap
    (report : SymbolBackfillReport) :
    Program Payload SymbolBackfillReport := do
  let ordinal ← nextOrdinal
  makeCall environment.surroundings
    (.appendGapAlert
      { venue := "upbit"
        symbolNative := market.market
        gapType := "historical_range_empty"
        detectedAtMs := environment.surroundings.clockAt ordinal
        payload :=
          environment.surroundings.payloads.emptyGap args.inputStartMs
            args.inputEndMs "no_trade_records_returned" }
      (environment.surroundings.fileAt ordinal))
  pure report.noteGap

/-- Backfill one market, for a number of rounds of its loop. -/
def requestUpbitSymbol
    (rounds : Nat) :
    Requesting Payload TicksRequest (Option SymbolBackfillReport) := do
  let report := SymbolBackfillReport.empty market.market market.baseAsset
  match initialCursor environment.nowMs args.inputEndMs with
  | .error failure => throw failure
  | .ok initial => do
      let read ←
        readTicksFrom server environment args market initial rounds none true
          report
      match read with
      | none => pure none
      | some report =>
          if report.recordCount = 0 then do
            let noted ←
              onFirst (appendUpbitGap environment args market report)
            pure (some noted)
          else
            pure (some report)

end Loop

end MarketIngest.Backfill
