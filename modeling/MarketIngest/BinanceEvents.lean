import MarketIngest.Backfill
import MarketIngest.L0Columns
import MarketIngest.TextSearch
import MarketIngest.WatchStats
import MarketIngest.WireJson

namespace MarketIngest.Binance

open Backfill (BinanceMarket)
open Normalize (JsonValue)
open Parquet (RawMarketEventDraft)
open Wire

/-!
# Messages of Binance

A message of the combined stream names the stream that it comes from, and the
name says of which kind its data is.  Its draft carries the whole message as
its payload.
-/

/-- A kind of stream. -/
inductive BinanceStreamKind where
  | trade
  | ticker
  | bookTicker
  | diffDepth100ms
  | partialDepth5
  | partialDepth10
  | partialDepth20
  deriving Repr, DecidableEq

/-- The end of the name of a stream. -/
def BinanceStreamKind.suffix : BinanceStreamKind → String
  | .trade => "trade"
  | .ticker => "ticker"
  | .bookTicker => "bookTicker"
  | .diffDepth100ms => "depth@100ms"
  | .partialDepth5 => "depth5"
  | .partialDepth10 => "depth10"
  | .partialDepth20 => "depth20"

/-- Why a message is not understood. -/
inductive BinanceIngestError where
  | json
  | invalidMessage (message : String)
  deriving Repr, DecidableEq

/-- A parsed message with its own text. -/
structure BinanceLiveEnvelope extends BinanceParsedEnvelope where
  payloadJson : String
  deriving Repr, DecidableEq

namespace BinanceParsedEvent

/-- The type under which a message is stored. -/
def storageEventType : BinanceParsedEvent → String
  | .trade _ => "trade"
  | .ticker _ => "ticker"
  | .bookTicker _ => "book_ticker"
  | .diffDepth _ => "depth_delta"

/-- The identifier of a message. -/
def sequenceId : BinanceParsedEvent → String
  | .trade message => "binance:trade:" ++ toString message.tradeId
  | .ticker message => "binance:ticker:" ++ toString message.lastTradeId
  | .bookTicker message => "binance:book_ticker:" ++ toString message.updateId
  | .diffDepth message =>
      "binance:depth_delta:" ++ toString message.finalUpdateId

/-- The number of a message at the exchange. -/
def exchangeSequence (event : BinanceParsedEvent) : Option Int :=
  some event.numericSequence

/-- The first update of a message about the depth of a book. -/
def diffFirstUpdateId : BinanceParsedEvent → Option Int
  | .diffDepth message => some message.firstUpdateId
  | _ => none

/-- The last update of a message about the depth of a book. -/
def diffFinalUpdateId : BinanceParsedEvent → Option Int
  | .diffDepth message => some message.finalUpdateId
  | _ => none

end BinanceParsedEvent

/-- The kind of a stream. -/
def streamKind (stream : String) :
    Except BinanceIngestError BinanceStreamKind :=
  match Text.splitOnce? "@".toList stream.toList with
  | none => .error (.invalidMessage ("invalid Binance stream name: " ++ stream))
  | some (_, rest) =>
      match String.ofList rest with
      | "trade" => .ok .trade
      | "ticker" => .ok .ticker
      | "bookTicker" => .ok .bookTicker
      | "depth@100ms" => .ok .diffDepth100ms
      | "depth5" => .ok .partialDepth5
      | "depth10" => .ok .partialDepth10
      | "depth20" => .ok .partialDepth20
      | suffix =>
          .error (.invalidMessage
            ("unsupported Binance stream suffix: " ++ suffix))

section Decoding

variable
  {Number : Type}
  (codec : WireCodec Number)

/-- Decode a trade. -/
def decodeTrade (data : JsonValue Number) : Option BinanceTradeMessage := do
  let fields ← structFields ["E", "s", "t", "T"] data
  let eventTimeMs ← requiredField codec.asInteger fields "E"
  let symbol ← requiredField JsonValue.asStr fields "s"
  let tradeId ← requiredField codec.asInteger fields "t"
  let tradeTimeMs ← requiredField codec.asInteger fields "T"
  some
    { eventTimeMs := eventTimeMs
      symbol := symbol
      tradeId := tradeId
      tradeTimeMs := tradeTimeMs }

/-- Decode a ticker. -/
def decodeTicker (data : JsonValue Number) : Option BinanceTickerMessage := do
  let fields ← structFields ["E", "s", "L"] data
  let eventTimeMs ← requiredField codec.asInteger fields "E"
  let symbol ← requiredField JsonValue.asStr fields "s"
  let lastTradeId ← requiredField codec.asInteger fields "L"
  some
    { eventTimeMs := eventTimeMs
      symbol := symbol
      lastTradeId := lastTradeId }

/-- Decode a change of the best bid or ask. -/
def decodeBookTicker
    (data : JsonValue Number) : Option BinanceBookTickerMessage := do
  let fields ← structFields ["u", "s"] data
  let updateId ← requiredField codec.asInteger fields "u"
  let symbol ← requiredField JsonValue.asStr fields "s"
  some
    { updateId := updateId
      symbol := symbol }

/-- Decode an update of the depth of a book. -/
def decodeDiffDepth
    (data : JsonValue Number) : Option BinanceDiffDepthMessage := do
  let fields ← structFields ["E", "s", "U", "u"] data
  let eventTimeMs ← requiredField codec.asInteger fields "E"
  let symbol ← requiredField JsonValue.asStr fields "s"
  let firstUpdateId ← requiredField codec.asInteger fields "U"
  let finalUpdateId ← requiredField codec.asInteger fields "u"
  some
    { eventTimeMs := eventTimeMs
      symbol := symbol
      firstUpdateId := firstUpdateId
      finalUpdateId := finalUpdateId }

/-- Decode the data of a message of some kind. -/
def decodeEvent
    (data : JsonValue Number) :
    BinanceStreamKind → Except BinanceIngestError BinanceParsedEvent
  | .trade => ((decodeTrade codec data).map .trade).elim (.error .json) .ok
  | .ticker => ((decodeTicker codec data).map .ticker).elim (.error .json) .ok
  | .bookTicker =>
      ((decodeBookTicker codec data).map .bookTicker).elim (.error .json) .ok
  | .diffDepth100ms =>
      ((decodeDiffDepth codec data).map .diffDepth).elim (.error .json) .ok
  | .partialDepth5 | .partialDepth10 | .partialDepth20 =>
      .error (.invalidMessage
        "Binance partial depth WS is disabled; use REST /api/v3/depth snapshots")

/-- The stream and the data of a message. -/
def decodeCombined
    (value : JsonValue Number) : Option (String × JsonValue Number) := do
  let fields ← structFields ["stream", "data"] value
  let stream ← requiredField JsonValue.asStr fields "stream"
  let data ← fields.lookup "data"
  some (stream, data)

/-- Parse the text of a message. -/
def parseBinancePayload
    (rawJson : String) : Except BinanceIngestError BinanceLiveEnvelope :=
  match codec.fromStr rawJson with
  | none => .error .json
  | some value =>
      match decodeCombined value with
      | none => .error .json
      | some (stream, data) => do
          let kind ← streamKind stream
          let event ← decodeEvent codec data kind
          .ok
            { stream := stream
              event := event
              payloadJson := codec.toString value }

end Decoding

section Drafts

/-- The markets by the symbols of the exchange. -/
def marketsByRaw
    (markets : List BinanceMarket) : OrderedMap String BinanceMarket :=
  markets.foldl
    (fun byRaw market =>
      byRaw.insert (Text.toAsciiUppercase market.rawSymbol) market)
    .empty

/-- The draft of a message of a known market. -/
def rawMarketEventDraft
    (byRaw : OrderedMap String BinanceMarket)
    (envelope : BinanceLiveEnvelope)
    (ingestTimestampMs : Int) : Option RawMarketEventDraft := do
  let market ← byRaw.get? (Text.toAsciiUppercase envelope.event.symbol)
  some
    { eventType := envelope.event.storageEventType
      venue := "binance"
      sourceRole := "reference"
      marketType := "spot"
      symbolNative := market.rawSymbol
      symbolCanonical := market.baseAsset
      baseAsset := market.baseAsset
      quoteAsset := market.quoteAsset
      exchangeTimestampMs :=
        envelope.event.exchangeTimestampMs ingestTimestampMs
      ingestTimestampMs := ingestTimestampMs
      sequenceId := envelope.event.sequenceId
      sequenceTag := envelope.event.sequenceId
      exchangeSequence := envelope.event.exchangeSequence
      diffFirstUpdateId := envelope.event.diffFirstUpdateId
      diffFinalUpdateId := envelope.event.diffFinalUpdateId
      isSnapshot := envelope.event.storageEventType = "depth_snapshot"
      streamType := "REALTIME"
      streamPhase := "realtime"
      payloadJson := envelope.payloadJson }

end Drafts

end MarketIngest.Binance
