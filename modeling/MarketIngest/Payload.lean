import MarketIngest.SliceRow

namespace MarketIngest.Normalize

/-!
# Payloads of raw events

The payload of an event is JSON text of the venue.  Decoding JSON, parsing
decimal numbers and hashing are library functions and stay parameters.  What is
done with a decoded payload follows the venue and the type of the event.
-/

/-- A decoded JSON value. -/
inductive JsonValue (Number : Type) where
  | null
  | bool (value : Bool)
  | number (value : Number)
  | text (value : String)
  | array (items : List (JsonValue Number))
  | object (fields : List (String × JsonValue Number))

/-- The library functions that payloads go through. -/
structure Codec (Number : Type) where
  sha256Hex : String → String
  fromStr : String → Option (JsonValue Number)
  parseF64 : String → Option Number

variable {Number : Type}

/-- The field of an object. -/
def JsonValue.get
    (value : JsonValue Number)
    (field : String) : Option (JsonValue Number) :=
  match value with
  | .object fields => fields.lookup field
  | _ => none

/-- The first item of an array. -/
def JsonValue.firstItem
    (value : JsonValue Number) : Option (JsonValue Number) :=
  match value with
  | .array items => items.head?
  | _ => none

/-- The truth value, if it is one. -/
def JsonValue.asBool (value : JsonValue Number) : Option Bool :=
  match value with
  | .bool flag => some flag
  | _ => none

/-- The text, if it is one. -/
def JsonValue.asStr (value : JsonValue Number) : Option String :=
  match value with
  | .text content => some content
  | _ => none

section Parsing

variable
  [NumberFormat Number]
  (codec : Codec Number)

/-- The payload inside the envelope of a combined stream. -/
def binanceData (value : JsonValue Number) : Option (JsonValue Number) :=
  value.get "data"

/-- A number, which venues also write as text. -/
def numberFromValue (value : JsonValue Number) : Option Number :=
  match value with
  | .number number => some number
  | .text content => codec.parseF64 content
  | _ => none

/-- A numeric field. -/
def numberField
    (value : JsonValue Number)
    (field : String) : Option Number := do
  numberFromValue codec (← value.get field)

/-- A trade of an event, if price and quantity are positive. -/
def validTrade
    (event : RawInputEvent)
    (price quantity : Number)
    (side : String) : Option (TradeNormalized Number) :=
  if price ≤ 0 ∨ quantity ≤ 0 then
    none
  else
    some
      { exchangeTimestampMs := event.exchangeTimestampMs
        ingestTimestampMs := event.ingestTimestampMs
        price := price
        quantity := quantity
        side := side
        exchangeSequence := event.exchangeSequence
        parentEventId := event.eventId }

/-- A trade of Binance; the side is that of the taker. -/
def parseBinanceTrade
    (event : RawInputEvent)
    (data : JsonValue Number) : Option (TradeNormalized Number) := do
  let price ← numberField codec data "p"
  let quantity ← numberField codec data "q"
  let buyerIsMaker :=
    ((data.get "m").bind (fun flag => flag.asBool)).getD false
  validTrade event price quantity (if buyerIsMaker then "sell" else "buy")

/-- The side of a trade of Upbit. -/
def upbitSide (data : JsonValue Number) : Option String :=
  match (data.get "ask_bid").bind (fun side => side.asStr) with
  | some "BID" => some "buy"
  | some "ASK" => some "sell"
  | _ => none

/-- A trade of Upbit; a trade without a known side is none. -/
def parseUpbitTrade
    (event : RawInputEvent)
    (data : JsonValue Number) : Option (TradeNormalized Number) := do
  let price ← numberField codec data "trade_price"
  let quantity ← numberField codec data "trade_volume"
  let side ← upbitSide data
  validTrade event price quantity side

/-- The trade that an event reports. -/
def parseTrade (event : RawInputEvent) : Option (TradeNormalized Number) := do
  let value ← codec.fromStr event.payloadJson
  let data := (binanceData value).getD value
  match event.venue with
  | "binance" => parseBinanceTrade codec event data
  | "upbit" => parseUpbitTrade codec event data
  | _ => none

/-- A top of the book, if both sides are positive and do not cross. -/
def validBook
    (event : RawInputEvent)
    (bestBid bestBidQty bestAsk bestAskQty : Number) :
    Option (BookTickerNormalized Number) :=
  if bestBid ≤ 0 ∨ bestAsk ≤ 0 ∨ bestBidQty < 0 ∨ bestAskQty < 0 then
    none
  else if bestAsk < bestBid then
    none
  else
    some
      { exchangeTimestampMs := event.exchangeTimestampMs
        ingestTimestampMs := event.ingestTimestampMs
        bestBid := bestBid
        bestBidQty := bestBidQty
        bestAsk := bestAsk
        bestAskQty := bestAskQty
        exchangeSequence := event.exchangeSequence
        parentEventId := event.eventId }

/-- A book ticker of Binance. -/
def parseBinanceBookTicker
    (event : RawInputEvent)
    (data : JsonValue Number) :
    Option (BookTickerNormalized Number) := do
  let bestBid ← numberField codec data "b"
  let bestBidQty ← numberField codec data "B"
  let bestAsk ← numberField codec data "a"
  let bestAskQty ← numberField codec data "A"
  validBook event bestBid bestBidQty bestAsk bestAskQty

/-- The first unit of an order book of Upbit. -/
def parseUpbitOrderbookTop
    (event : RawInputEvent)
    (data : JsonValue Number) :
    Option (BookTickerNormalized Number) := do
  let first ← (← data.get "orderbook_units").firstItem
  let bestBid ← numberField codec first "bid_price"
  let bestBidQty ← numberField codec first "bid_size"
  let bestAsk ← numberField codec first "ask_price"
  let bestAskQty ← numberField codec first "ask_size"
  validBook event bestBid bestBidQty bestAsk bestAskQty

/-- The top of the book that an event reports. -/
def parseBookTicker
    (event : RawInputEvent) : Option (BookTickerNormalized Number) := do
  let value ← codec.fromStr event.payloadJson
  let data := (binanceData value).getD value
  match event.venue, event.eventType with
  | "binance", "book_ticker" => parseBinanceBookTicker codec event data
  | "upbit", "depth_snapshot" => parseUpbitOrderbookTop codec event data
  | _, _ => none

/-- Name, value and unit of the metric in a payload. -/
def derivativeMetric
    (event : RawInputEvent)
    (value : JsonValue Number) : Option (String × Number × String) :=
  match event.venue, event.eventType with
  | "binance", "funding_rate_snapshot" => do
      let rate ←
        (value.get "funding_rate").or (value.get "lastFundingRate")
      pure ("funding_rate", ← numberFromValue codec rate, "ratio")
  | "binance", "open_interest_snapshot" => do
      let interest ←
        (value.get "open_interest").or (value.get "openInterest")
      pure ("open_interest", ← numberFromValue codec interest, "contracts")
  | _, _ => none

/-- The funding rate or open interest that an event reports. -/
def parseDerivativeMetric
    (event : RawInputEvent) :
    Option (DerivativeMetricObservation Number) := do
  let value ← codec.fromStr event.payloadJson
  let (metricName, metricValue, unit) ← derivativeMetric codec event value
  if NumberFormat.isFinite metricValue then
    some
      { venue := event.venue
        sourceRole := event.sourceRole
        marketType := event.marketType
        metricName := metricName
        symbolNative := event.symbolNative
        symbolCanonical := event.symbolCanonical
        baseAsset := event.baseAsset
        quoteAsset := event.quoteAsset
        value := metricValue
        unit := unit
        exchangeTimestampMs := event.exchangeTimestampMs
        ingestTimestampMs := event.ingestTimestampMs
        parentEventId := event.eventId
        parentRunId := event.producerRunId }
  else
    none

/-- The reference to an event whose payload is not kept. -/
def compactRef (event : RawInputEvent) : CompactEventRef where
  exchangeTimestampMs := event.exchangeTimestampMs
  ingestTimestampMs := event.ingestTimestampMs
  eventType := event.eventType
  parentEventId := event.eventId

/-- A valid trade refers to its event. -/
private theorem parentEventId_of_validTrade
    {event : RawInputEvent}
    {price quantity : Number}
    {side : String}
    {trade : TradeNormalized Number}
    (valid : validTrade event price quantity side = some trade) :
    trade.parentEventId = event.eventId := by
  unfold validTrade at valid
  split_ifs at valid
  rw [← Option.some.inj valid]

/-- A valid top of the book refers to its event. -/
private theorem parentEventId_of_validBook
    {event : RawInputEvent}
    {bestBid bestBidQty bestAsk bestAskQty : Number}
    {book : BookTickerNormalized Number}
    (valid :
      validBook event bestBid bestBidQty bestAsk bestAskQty = some book) :
    book.parentEventId = event.eventId := by
  unfold validBook at valid
  split_ifs at valid
  rw [← Option.some.inj valid]

/-- A trade refers to the event that reports it. -/
theorem parentEventId_of_parseTrade
    {event : RawInputEvent}
    {trade : TradeNormalized Number}
    (parsed : parseTrade codec event = some trade) :
    trade.parentEventId = event.eventId := by
  simp only [parseTrade, Option.bind_eq_bind,
    Option.bind_eq_some_iff] at parsed
  obtain ⟨value, -, parsed⟩ := parsed
  split at parsed
  · simp only [parseBinanceTrade, Option.bind_eq_bind,
      Option.bind_eq_some_iff] at parsed
    obtain ⟨price, -, quantity, -, valid⟩ := parsed
    exact parentEventId_of_validTrade valid
  · simp only [parseUpbitTrade, Option.bind_eq_bind,
      Option.bind_eq_some_iff] at parsed
    obtain ⟨price, -, quantity, -, side, -, valid⟩ := parsed
    exact parentEventId_of_validTrade valid
  · cases parsed

/-- A top of the book refers to the event that reports it. -/
theorem parentEventId_of_parseBookTicker
    {event : RawInputEvent}
    {book : BookTickerNormalized Number}
    (parsed : parseBookTicker codec event = some book) :
    book.parentEventId = event.eventId := by
  simp only [parseBookTicker, Option.bind_eq_bind,
    Option.bind_eq_some_iff] at parsed
  obtain ⟨value, -, parsed⟩ := parsed
  split at parsed
  · simp only [parseBinanceBookTicker, Option.bind_eq_bind,
      Option.bind_eq_some_iff] at parsed
    obtain ⟨bid, -, bidQty, -, ask, -, askQty, -, valid⟩ := parsed
    exact parentEventId_of_validBook valid
  · simp only [parseUpbitOrderbookTop, Option.bind_eq_bind,
      Option.bind_eq_some_iff] at parsed
    obtain ⟨units, -, first, -, bid, -, bidQty, -, ask, -, askQty, -,
      valid⟩ := parsed
    exact parentEventId_of_validBook valid
  · cases parsed

end Parsing

end MarketIngest.Normalize
