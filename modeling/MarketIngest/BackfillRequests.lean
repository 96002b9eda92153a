import MarketIngest.BackfillPages
import MarketIngest.Cursors
import MarketIngest.FallibleParts

namespace MarketIngest.Backfill

open Fallible Paging Storage

/-!
# The requests of a backfill

The backfill of a market asks the exchange for a first page by time and for the
others from an identifier on.  Here the requests are recorded, the exchange may
answer each of them in any way, and the identifier after the last one of a page
wraps around as 64-bit integers do.
-/

variable {Payload : Type}

/-- A request for aggregated trades. -/
inductive AggTradesRequest where
  | byTime (startMs endMs : Int)
  | fromId (id : Int)
  deriving Repr, DecidableEq

/-- An exchange, by what it answers to its n-th request; no answer is a failure.
The identifiers of trades are 64-bit integers. -/
structure AggTradesServer where
  answer : Nat → AggTradesRequest → Option (List AggTrade)
  representable :
    ∀ number request page,
      answer number request = some page →
        ∀ trade ∈ page,
          i64Min ≤ trade.aggregateTradeId ∧
            trade.aggregateTradeId ≤ i64Max

/-- The sink of a backfill and the requests that were sent. -/
abbrev RequestState (Payload Request : Type) :=
  BackfillState Payload × List Request

/-- A part of a backfill that may send requests. -/
abbrev Requesting (Payload Request : Type) :=
  Fallible (RequestState Payload Request) BackfillError

/-- Send a request and take the answer. -/
def fetchPage
    {Request Trade : Type}
    (answer : Nat → Request → Option (List Trade))
    (request : Request) : Requesting Payload Request (List Trade) := do
  let (sink, requests) ← get
  set (sink, requests ++ [request])
  match answer requests.length request with
  | none => throw .request
  | some page => pure page

/-- Ask for a page of aggregated trades. -/
def fetchAggTrades
    (server : AggTradesServer)
    (request : AggTradesRequest) :
    Requesting Payload AggTradesRequest (List AggTrade) :=
  fetchPage server.answer request

/-- A server that answers is asked. -/
theorem fetchPage_returns
    {Request Trade : Type}
    {answer : Nat → Request → Option (List Trade)}
    {request : Request}
    {page : List Trade}
    {before : RequestState Payload Request}
    (answered : answer before.2.length request = some page) :
    (fetchPage answer request).Returns before page
      (before.1, before.2 ++ [request]) := by
  unfold fetchPage
  refine returns_bind.mpr ⟨before, before, rfl, ?_⟩
  refine returns_bind.mpr ⟨(), (before.1, before.2 ++ [request]), rfl, ?_⟩
  simp only [answered]
  rfl

/-- What was fetched is the answer. -/
theorem eq_of_fetchPage_returns
    {Request Trade : Type}
    {answer : Nat → Request → Option (List Trade)}
    {request : Request}
    {page : List Trade}
    {before after : RequestState Payload Request}
    (returned : (fetchPage answer request).Returns before page after) :
    answer before.2.length request = some page ∧
      after = (before.1, before.2 ++ [request]) := by
  unfold fetchPage at returned
  obtain ⟨_, _, read, rest⟩ := returns_bind.mp returned
  cases read
  obtain ⟨_, _, stored, result⟩ := returns_bind.mp rest
  cases stored
  cases answered : answer before.2.length request with
  | none =>
      simp only [answered] at result
      exact absurd result not_returns_throw
  | some answer =>
      simp only [answered] at result
      obtain ⟨rfl, rfl⟩ := returns_pure.mp result
      exact ⟨rfl, rfl⟩

section Loop

variable
  (server : AggTradesServer)
  (environment : BackfillEnvironment Payload)
  (args : BackfillArgs)
  (market : BinanceMarket)

/-- The identifier after the last one of a page. -/
def nextCandidate (nextFromId : Int) (page : List AggTrade) : Int :=
  (page.getLast?.map
    (fun trade => wrappingAdd trade.aggregateTradeId 1)).getD nextFromId

/-- What the loop does with a page, and how it goes on. -/
def takePage
    (page : List AggTrade)
    (nextFromId : Int)
    (report : SymbolBackfillReport)
    (goOn :
      Int →
      SymbolBackfillReport →
      Requesting Payload AggTradesRequest (Option SymbolBackfillReport)) :
    Requesting Payload AggTradesRequest (Option SymbolBackfillReport) :=
  if page.isEmpty then
    pure (some report)
  else do
    let (stop, report) ←
      onFirst (appendPage environment args market page report)
    if nextCandidate nextFromId page ≤ nextFromId then
      throw (.invalidConfig
        ("Binance aggTrades cursor did not advance for " ++
          market.rawSymbol))
    else if !stop && page.length = binancePageLimit then
      goOn (nextCandidate nextFromId page) report
    else
      pure (some report)

/-- The loop over the pages after the first one, for a number of rounds; no
report means that it still goes on. -/
def readPagesFrom :
    Nat →
    Int →
    SymbolBackfillReport →
    Requesting Payload AggTradesRequest (Option SymbolBackfillReport)
  | 0, _, _ => pure none
  | rounds + 1, nextFromId, report => do
      let page ← fetchAggTrades server (.fromId nextFromId)
      takePage environment args market page nextFromId report
        (readPagesFrom rounds)

/-- Append the alert that a range has no trades, if none was appended. -/
def noteNoTrades
    (report : SymbolBackfillReport) :
    Requesting Payload AggTradesRequest (Option SymbolBackfillReport) := do
  if report.recordCount = 0 then
    let noted ← onFirst (appendNoTradeGap environment args market report)
    pure (some noted)
  else
    pure (some report)

/-- What follows the first page: the loop over the others, if it is needed. -/
def readOn
    (rounds : Nat)
    (firstPage : List AggTrade)
    (stop : Bool)
    (report : SymbolBackfillReport) :
    Requesting Payload AggTradesRequest (Option SymbolBackfillReport) :=
  if !stop && firstPage.length = binancePageLimit then do
    let read ←
      readPagesFrom server environment args market rounds
        (nextCandidate 0 firstPage) report
    match read with
    | none => pure none
    | some report => noteNoTrades environment args market report
  else
    noteNoTrades environment args market report

/-- Backfill one market, for a number of rounds of its loop. -/
def requestSymbol
    (rounds : Nat) :
    Requesting Payload AggTradesRequest (Option SymbolBackfillReport) := do
  let report := SymbolBackfillReport.empty market.rawSymbol market.baseAsset
  let firstPage ←
    fetchAggTrades server (.byTime args.inputStartMs args.inputEndMs)
  if firstPage.isEmpty then do
    let noted ← onFirst (appendNoTradeGap environment args market report)
    pure (some noted)
  else do
    let (stop, report) ←
      onFirst (appendPage environment args market firstPage report)
    readOn server environment args market rounds firstPage stop report

end Loop

end MarketIngest.Backfill
