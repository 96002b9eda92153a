import MarketIngest.SliceQuality

namespace MarketIngest.Build

open Normalize

/-!
# What events contribute to a slice

Every event adds at most one trade, one top of the book, one depth reference and
one ticker reference to its slice, or a reason for being invalid.  A slice after
any number of events is a summary of these contributions.
-/

/-- The event is counted in time or delayed. -/
theorem markEventQuality_eq
    {Number : Type}
    (args : NormalizeArgs)
    (row : SliceRow Number)
    (event : RawInputEvent) :
    markEventQuality args row event =
      { row with
        qualityOk := row.qualityOk + (if isDelayed args event then 0 else 1)
        qualityDelayed :=
          row.qualityDelayed + (if isDelayed args event then 1 else 0) } := by
  unfold markEventQuality
  split <;> simp

variable
  {Number : Type}
  [NumberFormat Number]
  (codec : Codec Number)
  (args : NormalizeArgs)

/-- The trade that an event contributes. -/
def tradeOf (event : RawInputEvent) : Option (TradeNormalized Number) :=
  if event.eventType = "trade" then parseTrade codec event else none

/-- The top of the book that an event contributes. -/
def bookOf (event : RawInputEvent) : Option (BookTickerNormalized Number) :=
  if event.eventType = "book_ticker" ∨ event.eventType = "depth_snapshot" then
    parseBookTicker codec event
  else
    none

/-- The depth reference that an event contributes. -/
def depthOf (event : RawInputEvent) : Option CompactEventRef :=
  if event.eventType = "depth_snapshot" ∨ event.eventType = "depth_delta" then
    some (compactRef event)
  else
    none

/-- The ticker reference that an event contributes. -/
def tickerOf (event : RawInputEvent) : Option CompactEventRef :=
  if event.eventType = "ticker" then some (compactRef event) else none

/-- Types of events that have a place in a slice. -/
def isKnownType (eventType : String) : Bool :=
  eventType = "trade" || eventType = "book_ticker" ||
    eventType = "depth_snapshot" || eventType = "depth_delta" ||
    eventType = "ticker"

/-- Why an event is invalid in its slice. -/
def invalidReason (event : RawInputEvent) : Option String :=
  if event.eventType = "trade" ∧ parseTrade codec event = none then
    some "parse_trade_failed"
  else if event.eventType = "book_ticker" ∧
      parseBookTicker codec event = none then
    some "parse_book_ticker_failed"
  else if isKnownType event.eventType then
    none
  else
    some "unknown_event_type"

/-- The event counts as in time or as delayed. -/
def isJudged (event : RawInputEvent) : Bool :=
  (tradeOf codec event).isSome || (bookOf codec event).isSome ||
    event.eventType = "depth_delta" || event.eventType = "ticker"

/-- The event as a parent, once for each of its contributions. -/
def parentsOf (event : RawInputEvent) : List RawInputEvent :=
  (if isJudged codec event then [event] else []) ++
    (if event.eventType = "depth_snapshot" then [event] else [])

/-- A slice with the contributions of events added in order. -/
def summarize
    (row : SliceRow Number)
    (events : List RawInputEvent) : SliceRow Number :=
  let trades := events.filterMap (tradeOf codec)
  let books := events.filterMap (bookOf codec)
  let depths := events.filterMap depthOf
  let parents := events.flatMap (parentsOf codec)
  { row with
    missingReasons :=
      row.missingReasons ++ events.filterMap (invalidReason codec)
    qualityOk :=
      row.qualityOk +
        events.countP (fun event =>
          isJudged codec event && !isDelayed args event)
    qualityDelayed :=
      row.qualityDelayed +
        events.countP (fun event =>
          isJudged codec event && isDelayed args event)
    qualityInvalid :=
      row.qualityInvalid +
        events.countP (fun event => (invalidReason codec event).isSome)
    tradeCount := row.tradeCount + trades.length
    tradeVolume :=
      (trades.map (fun trade => trade.quantity)).foldl
        (fun sum quantity => sum + quantity) row.tradeVolume
    lastTradePrice :=
      (trades.getLast?.map (fun trade => trade.price)).or row.lastTradePrice
    lastTradeSize :=
      (trades.getLast?.map (fun trade => trade.quantity)).or row.lastTradeSize
    bestBid := (books.getLast?.map (fun book => book.bestBid)).or row.bestBid
    bestAsk := (books.getLast?.map (fun book => book.bestAsk)).or row.bestAsk
    bookTickerCount := row.bookTickerCount + books.length
    depthEventCount := row.depthEventCount + depths.length
    tradeEvents := row.tradeEvents ++ trades
    bookTickerEvents := row.bookTickerEvents ++ books
    depthEvents := row.depthEvents ++ depths
    tickerEvents := row.tickerEvents ++ events.filterMap tickerOf
    parentEventIds :=
      row.parentEventIds ++ parents.map (fun event => event.eventId)
    parentRunIds :=
      row.parentRunIds ++ parents.map (fun event => event.producerRunId) }

/-- The counters of a build after an event was applied to its slice. -/
def countApplied
    (stats : BuildStats)
    (event : RawInputEvent) : BuildStats :=
  if (invalidReason codec event).isSome then stats.countInvalid else stats

/-- Without events nothing changes. -/
@[simp] theorem summarize_nil
    (row : SliceRow Number) :
    summarize codec args row [] = row := by
  simp [summarize]

/-- Contributions add up along a list of events. -/
theorem summarize_append
    (row : SliceRow Number)
    (first second : List RawInputEvent) :
    summarize codec args row (first ++ second) =
      summarize codec args (summarize codec args row first) second := by
  simp only [summarize, List.filterMap_append, List.flatMap_append,
    List.map_append, List.foldl_append, List.countP_append,
    List.length_append, List.getLast?_append, Option.map_or, Option.or_assoc,
    List.append_assoc, Nat.cast_add, Int.add_assoc]

section Handlers

variable
  (row : SliceRow Number)
  (event : RawInputEvent)
  (stats : BuildStats)

/-- A trade is contributed, or a reason why it is none. -/
private theorem applyTradeEvent_eq_summarize
    (isTrade : event.eventType = "trade") :
    applyTradeEvent codec args row event stats =
      (summarize codec args row [event], countApplied codec stats event) := by
  unfold applyTradeEvent
  cases parsed : parseTrade codec event with
  | none =>
      simp [markInvalid, summarize, countApplied, tradeOf, bookOf, depthOf,
        tickerOf, invalidReason, isJudged, parentsOf, parsed, isTrade]
  | some trade =>
      by_cases delayed : isDelayed args event <;>
        simp [markEventQuality_eq, pushParent, summarize, countApplied,
          tradeOf, bookOf, depthOf, tickerOf, invalidReason, isKnownType,
          isJudged, parentsOf, parsed, isTrade, delayed]

/-- A top of the book is contributed, or a reason why it is none. -/
private theorem applyBookEvent_eq_of_ticker
    (isBook : event.eventType = "book_ticker") :
    applyBookEvent codec args row event stats =
      (summarize codec args row [event], countApplied codec stats event) := by
  unfold applyBookEvent pushDepthSnapshot
  cases parsed : parseBookTicker codec event with
  | none =>
      simp [markInvalid, summarize, countApplied, tradeOf, bookOf, depthOf,
        tickerOf, invalidReason, isJudged, parentsOf, parsed, isBook]
  | some book =>
      by_cases delayed : isDelayed args event <;>
        simp [markEventQuality_eq, pushParent, summarize, countApplied,
          tradeOf, bookOf, depthOf, tickerOf, invalidReason, isKnownType,
          isJudged, parentsOf, parsed, isBook, delayed]

/-- A snapshot of the book is referred to, whether it has a top or not. -/
private theorem applyBookEvent_eq_of_snapshot
    (isSnapshot : event.eventType = "depth_snapshot") :
    applyBookEvent codec args row event stats =
      (summarize codec args row [event], countApplied codec stats event) := by
  unfold applyBookEvent pushDepthSnapshot
  cases parsed : parseBookTicker codec event with
  | none =>
      simp [pushParent, summarize, countApplied, tradeOf, bookOf, depthOf,
        tickerOf, invalidReason, isKnownType, isJudged, parentsOf, parsed,
        isSnapshot]
  | some book =>
      by_cases delayed : isDelayed args event <;>
        simp [markEventQuality_eq, pushParent, summarize, countApplied,
          tradeOf, bookOf, depthOf, tickerOf, invalidReason, isKnownType,
          isJudged, parentsOf, parsed, isSnapshot, delayed]

/-- A change of the book is referred to. -/
private theorem applyCompactDepthEvent_eq_summarize
    (isDelta : event.eventType = "depth_delta") :
    (applyCompactDepthEvent args row event, stats) =
      (summarize codec args row [event], countApplied codec stats event) := by
  by_cases delayed : isDelayed args event <;>
    simp [applyCompactDepthEvent, markEventQuality_eq, pushParent,
      summarize, countApplied, tradeOf, bookOf, depthOf, tickerOf,
      invalidReason, isKnownType, isJudged, parentsOf, isDelta, delayed]

/-- A ticker is referred to. -/
private theorem applyTickerEvent_eq_summarize
    (isTicker : event.eventType = "ticker") :
    (applyTickerEvent args row event, stats) =
      (summarize codec args row [event], countApplied codec stats event) := by
  by_cases delayed : isDelayed args event <;>
    simp [applyTickerEvent, markEventQuality_eq, pushParent,
      summarize, countApplied, tradeOf, bookOf, depthOf, tickerOf,
      invalidReason, isKnownType, isJudged, parentsOf, isTicker, delayed]

/-- Applying one event adds its contributions. -/
theorem applyToRow_eq_summarize :
    applyToRow codec args row event stats =
      (summarize codec args row [event], countApplied codec stats event) := by
  unfold applyToRow
  split_ifs with isTrade isBook isDelta isTicker
  · exact applyTradeEvent_eq_summarize codec args row event stats isTrade
  · rcases isBook with isBook | isSnapshot
    · exact applyBookEvent_eq_of_ticker codec args row event stats isBook
    · exact
        applyBookEvent_eq_of_snapshot codec args row event stats isSnapshot
  · exact
      applyCompactDepthEvent_eq_summarize codec args row event stats isDelta
  · exact applyTickerEvent_eq_summarize codec args row event stats isTicker
  · rw [not_or] at isBook
    simp [markInvalid, summarize, countApplied, tradeOf, bookOf, depthOf,
      tickerOf, invalidReason, isKnownType, isJudged, parentsOf, isTrade,
      isBook, isDelta, isTicker]

end Handlers

end MarketIngest.Build
