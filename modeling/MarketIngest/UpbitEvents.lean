import MarketIngest.L0Columns
import MarketIngest.OrderedMap
import MarketIngest.WireJson

namespace MarketIngest.Upbit

open Normalize (JsonValue)
open Parquet (RawMarketEventDraft)
open Wire

/-!
# Messages of Upbit

A text of Upbit holds one message or an array of them.  A message says itself
of which kind it is.  Messages about a market are stored, with the message
itself as the payload; notices of the exchange are only counted.
-/

/-- A ticker. -/
structure UpbitTickerMessage (Number : Type) where
  eventType : String
  code : String
  timestamp : Int
  tradeTimestamp : Option Int
  tradePrice : Option Number
  accTradePrice24h : Option Number
  accTradeVolume24h : Option Number
  streamType : Option String

/-- A trade. -/
structure UpbitTradeMessage (Number : Type) where
  eventType : String
  code : String
  timestamp : Int
  tradeTimestamp : Int
  tradePrice : Number
  tradeVolume : Number
  askBid : String
  sequentialId : Int
  bestAskPrice : Option Number
  bestAskSize : Option Number
  bestBidPrice : Option Number
  bestBidSize : Option Number
  streamType : Option String

/-- A level of a book, with both of its sides. -/
structure UpbitOrderbookUnit (Number : Type) where
  askPrice : Number
  bidPrice : Number
  askSize : Number
  bidSize : Number

/-- A book. -/
structure UpbitOrderbookMessage (Number : Type) where
  eventType : String
  code : String
  timestamp : Int
  totalAskSize : Number
  totalBidSize : Number
  orderbookUnits : List (UpbitOrderbookUnit Number)
  streamType : Option String
  level : Option Number

/-- A parsed message. -/
inductive UpbitParsedEvent (Number : Type) where
  | ticker (message : UpbitTickerMessage Number)
  | trade (message : UpbitTradeMessage Number)
  | orderbook (message : UpbitOrderbookMessage Number)
  | status (text : String)
  | error (name message : String)
  | unknown (value : JsonValue Number)

/-- A parsed message with its own text. -/
structure UpbitParsedEnvelope (Number : Type) where
  event : UpbitParsedEvent Number
  payloadJson : String

variable {Number : Type}

namespace UpbitParsedEvent

/-- The kind under which a message is counted. -/
def kindName : UpbitParsedEvent Number → String
  | .ticker _ => "ticker"
  | .trade _ => "trade"
  | .orderbook _ => "orderbook"
  | .status _ => "status"
  | .error _ _ => "error"
  | .unknown _ => "unknown"

/-- The market of a message. -/
def symbol : UpbitParsedEvent Number → Option String
  | .ticker message => some message.code
  | .trade message => some message.code
  | .orderbook message => some message.code
  | .status _ | .error _ _ | .unknown _ => none

/-- The time of a message at the exchange. -/
def exchangeTimestampMs : UpbitParsedEvent Number → Option Int
  | .ticker message => some message.timestamp
  | .trade message => some message.tradeTimestamp
  | .orderbook message => some message.timestamp
  | .status _ | .error _ _ | .unknown _ => none

end UpbitParsedEvent

section Decoding

variable (codec : WireCodec Number)

/-- What a message says about its own kind. -/
structure UpbitMessageHeader where
  eventType : Option String
  status : Option String
  error : Option (String × String)

/-- Decode the name and the text of an error. -/
def decodeErrorPayload
    (value : JsonValue Number) : Option (String × String) := do
  let fields ← structFields ["name", "message"] value
  let name ← requiredField JsonValue.asStr fields "name"
  let message ← requiredField JsonValue.asStr fields "message"
  some (name, message)

/-- Decode what a message says about its own kind. -/
def decodeHeader (value : JsonValue Number) : Option UpbitMessageHeader := do
  let fields ← structFields ["type", "status", "error"] value
  let eventType ← optionalField JsonValue.asStr fields "type"
  let status ← optionalField JsonValue.asStr fields "status"
  let error ← optionalField decodeErrorPayload fields "error"
  some
    { eventType := eventType
      status := status
      error := error }

/-- Decode a ticker. -/
def decodeTicker
    (value : JsonValue Number) : Option (UpbitTickerMessage Number) := do
  let fields ←
    structFields
      ["type", "code", "timestamp", "trade_timestamp", "trade_price",
        "acc_trade_price_24h", "acc_trade_volume_24h", "stream_type"]
      value
  let eventType ← requiredField JsonValue.asStr fields "type"
  let code ← requiredField JsonValue.asStr fields "code"
  let timestamp ← requiredField codec.asInteger fields "timestamp"
  let tradeTimestamp ←
    optionalField codec.asInteger fields "trade_timestamp"
  let tradePrice ← optionalField asNumber fields "trade_price"
  let accTradePrice24h ← optionalField asNumber fields "acc_trade_price_24h"
  let accTradeVolume24h ← optionalField asNumber fields "acc_trade_volume_24h"
  let streamType ← optionalField JsonValue.asStr fields "stream_type"
  some
    { eventType := eventType
      code := code
      timestamp := timestamp
      tradeTimestamp := tradeTimestamp
      tradePrice := tradePrice
      accTradePrice24h := accTradePrice24h
      accTradeVolume24h := accTradeVolume24h
      streamType := streamType }

/-- Decode a trade. -/
def decodeTrade
    (value : JsonValue Number) : Option (UpbitTradeMessage Number) := do
  let fields ←
    structFields
      ["type", "code", "timestamp", "trade_timestamp", "trade_price",
        "trade_volume", "ask_bid", "sequential_id", "best_ask_price",
        "best_ask_size", "best_bid_price", "best_bid_size", "stream_type"]
      value
  let eventType ← requiredField JsonValue.asStr fields "type"
  let code ← requiredField JsonValue.asStr fields "code"
  let timestamp ← requiredField codec.asInteger fields "timestamp"
  let tradeTimestamp ← requiredField codec.asInteger fields "trade_timestamp"
  let tradePrice ← requiredField asNumber fields "trade_price"
  let tradeVolume ← requiredField asNumber fields "trade_volume"
  let askBid ← requiredField JsonValue.asStr fields "ask_bid"
  let sequentialId ← requiredField codec.asInteger fields "sequential_id"
  let bestAskPrice ← optionalField asNumber fields "best_ask_price"
  let bestAskSize ← optionalField asNumber fields "best_ask_size"
  let bestBidPrice ← optionalField asNumber fields "best_bid_price"
  let bestBidSize ← optionalField asNumber fields "best_bid_size"
  let streamType ← optionalField JsonValue.asStr fields "stream_type"
  some
    { eventType := eventType
      code := code
      timestamp := timestamp
      tradeTimestamp := tradeTimestamp
      tradePrice := tradePrice
      tradeVolume := tradeVolume
      askBid := askBid
      sequentialId := sequentialId
      bestAskPrice := bestAskPrice
      bestAskSize := bestAskSize
      bestBidPrice := bestBidPrice
      bestBidSize := bestBidSize
      streamType := streamType }

/-- Decode a level of a book. -/
def decodeOrderbookUnit
    (value : JsonValue Number) : Option (UpbitOrderbookUnit Number) := do
  let fields ←
    structFields ["ask_price", "bid_price", "ask_size", "bid_size"] value
  let askPrice ← requiredField asNumber fields "ask_price"
  let bidPrice ← requiredField asNumber fields "bid_price"
  let askSize ← requiredField asNumber fields "ask_size"
  let bidSize ← requiredField asNumber fields "bid_size"
  some
    { askPrice := askPrice
      bidPrice := bidPrice
      askSize := askSize
      bidSize := bidSize }

/-- Decode a book. -/
def decodeOrderbook
    (value : JsonValue Number) : Option (UpbitOrderbookMessage Number) := do
  let fields ←
    structFields
      ["type", "code", "timestamp", "total_ask_size", "total_bid_size",
        "orderbook_units", "stream_type", "level"]
      value
  let eventType ← requiredField JsonValue.asStr fields "type"
  let code ← requiredField JsonValue.asStr fields "code"
  let timestamp ← requiredField codec.asInteger fields "timestamp"
  let totalAskSize ← requiredField asNumber fields "total_ask_size"
  let totalBidSize ← requiredField asNumber fields "total_bid_size"
  let orderbookUnits ←
    defaultedList decodeOrderbookUnit fields "orderbook_units"
  let streamType ← optionalField JsonValue.asStr fields "stream_type"
  let level ← optionalField asNumber fields "level"
  some
    { eventType := eventType
      code := code
      timestamp := timestamp
      totalAskSize := totalAskSize
      totalBidSize := totalBidSize
      orderbookUnits := orderbookUnits
      streamType := streamType
      level := level }

/-- Parse one message; a status or an error goes before its kind. -/
def parseOneValue
    (value : JsonValue Number) : Option (UpbitParsedEvent Number) := do
  let header ← decodeHeader value
  match header.status, header.error with
  | some status, _ => some (.status status)
  | none, some (name, message) => some (.error name message)
  | none, none =>
      match header.eventType with
      | some "ticker" => (decodeTicker codec value).map .ticker
      | some "trade" => (decodeTrade codec value).map .trade
      | some "orderbook" => (decodeOrderbook codec value).map .orderbook
      | _ => some (.unknown value)

/-- Parse one message, and keep its text. -/
def parseOneEnvelope
    (value : JsonValue Number) : Option (UpbitParsedEnvelope Number) :=
  (parseOneValue codec value).map fun event =>
    { event := event
      payloadJson := codec.toString value }

/-- Parse a text; one bad message spoils the others of its array. -/
def parseUpbitPayload
    (rawJson : String) : Option (List (UpbitParsedEnvelope Number)) := do
  match ← codec.fromStr rawJson with
  | .array items => items.mapM (parseOneEnvelope codec)
  | value => [value].mapM (parseOneEnvelope codec)

end Decoding

section Drafts

/-- A market of the exchange. -/
structure UpbitMarket (Number : Type) where
  market : String
  baseAsset : String
  quoteAsset : String
  koreanName : String
  englishName : String
  accTradePrice24h : Number

/-- The markets by their codes. -/
def marketsByCode
    (markets : List (UpbitMarket Number)) :
    OrderedMap String (UpbitMarket Number) :=
  markets.foldl
    (fun byCode market => byCode.insert market.market market)
    .empty

/-- The stream of a message, if it names one. -/
def streamType (value : Option String) : String :=
  value.getD "UNKNOWN"

/-- The phase of a stream. -/
def streamPhase (streamType : String) : String :=
  match streamType with
  | "SNAPSHOT" => "snapshot"
  | "REALTIME" => "realtime"
  | _ => "unknown"

/-- The draft of a message about a market. -/
def draft
    (eventType : String)
    (market : UpbitMarket Number)
    (exchangeTimestampMs : Int)
    (sequenceId streamType : String)
    (exchangeSequence : Option Int)
    (payloadJson : String)
    (ingestTimestampMs : Int) : RawMarketEventDraft where
  eventType := eventType
  venue := "upbit"
  sourceRole := "execution"
  marketType := "spot"
  symbolNative := market.market
  symbolCanonical := market.baseAsset
  baseAsset := market.baseAsset
  quoteAsset := market.quoteAsset
  exchangeTimestampMs := exchangeTimestampMs
  ingestTimestampMs := ingestTimestampMs
  sequenceId := sequenceId
  sequenceTag := sequenceId
  exchangeSequence := exchangeSequence
  diffFirstUpdateId := none
  diffFinalUpdateId := none
  isSnapshot := eventType = "depth_snapshot"
  streamType := streamType
  streamPhase := streamPhase streamType
  payloadJson := payloadJson

/-- The drafts of a message, none of a market that is not watched. -/
def rawMarketEventDrafts
    (byCode : OrderedMap String (UpbitMarket Number))
    (envelope : UpbitParsedEnvelope Number)
    (ingestTimestampMs : Int) : List RawMarketEventDraft :=
  match envelope.event with
  | .ticker message =>
      ((byCode.get? message.code).map fun market =>
        draft "ticker" market message.timestamp
          ("upbit:ticker:ts-" ++ toString message.timestamp)
          (streamType message.streamType) none envelope.payloadJson
          ingestTimestampMs).toList
  | .trade message =>
      ((byCode.get? message.code).map fun market =>
        draft "trade" market message.tradeTimestamp
          ("upbit:trade:" ++ toString message.sequentialId)
          (streamType message.streamType) (some message.sequentialId)
          envelope.payloadJson ingestTimestampMs).toList
  | .orderbook message =>
      ((byCode.get? message.code).map fun market =>
        draft "depth_snapshot" market message.timestamp
          ("upbit:orderbook:ts-" ++ toString message.timestamp)
          (streamType message.streamType) none envelope.payloadJson
          ingestTimestampMs).toList
  | .status _ | .error _ _ | .unknown _ => []

end Drafts

end MarketIngest.Upbit
