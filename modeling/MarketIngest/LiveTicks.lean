import MarketIngest.ColumnDecode
import MarketIngest.FiniteValues
import MarketIngest.RowAccounting
import MarketIngest.Saturating
import MarketIngest.WireJson

namespace MarketIngest.Live

open Normalize
open Parquet (RawMarketEventRecord)

/-!
# Live ticks

A sink publishes a tick for every raw market event that has a price, before the
event is stored.  The tick reads the payload in its own way.  It shows the same
numbers as the trade or the top of the book that the normalizer reads of the
stored event, if these numbers are finite.
-/

/-- The prices of a payload. -/
structure QuoteFields (Number : Type) where
  priceSource : String
  lastPrice : Option Number
  bestBidPrice : Option Number
  bestAskPrice : Option Number
  tradeVolume : Option Number

/-- A payload without prices. -/
def QuoteFields.default {Number : Type} : QuoteFields Number where
  priceSource := ""
  lastPrice := none
  bestBidPrice := none
  bestAskPrice := none
  tradeVolume := none

/-- The tick of a raw market event. -/
structure MarketLiveTick (Number : Type) where
  schemaVersion : String
  eventId : String
  producerRunId : String
  venue : String
  sourceRole : String
  marketType : String
  eventType : String
  symbolNative : String
  symbolCanonical : String
  baseAsset : String
  quoteAsset : String
  exchangeTimestampMs : Int
  ingestTimestampMs : Int
  latencyMs : Int
  sequenceId : String
  sequenceTag : String
  priceSource : String
  lastPrice : Option Number
  bestBidPrice : Option Number
  bestAskPrice : Option Number
  markPrice : Option Number
  tradeVolume : Option Number
  payloadSha256 : String

variable {Number : Type}

section Quotes

variable
  [NumberFormat Number]
  (codec : Codec Number)

/-- The number is a price. -/
def isPrice (number : Number) : Bool :=
  NumberFormat.isFinite number && decide (0 < number)

/-- A number that is a price. -/
def parseNumberValue (value : JsonValue Number) : Option Number :=
  (numberFromValue codec value).filter isPrice

/-- A field that is a price. -/
def numericField
    (value : JsonValue Number)
    (field : String) : Option Number :=
  (value.get field).bind (parseNumberValue codec)

/-- The price of the first level of a book. -/
def firstLevelPrice
    (value : JsonValue Number)
    (field : String) : Option Number :=
  match (value.get field).bind JsonValue.firstItem with
  | some (.array items) => items.head?.bind (parseNumberValue codec)
  | some (.object fields) => numericField codec (.object fields) "price"
  | _ => none

/-- The middle of bid and ask, or the one of them that there is. -/
def midpoint (bid ask : Option Number) : Option Number :=
  match bid, ask with
  | some bid, some ask =>
      if bid ≤ ask then some ((bid + ask) / NumberFormat.ofNat 2) else none
  | some bid, none => some bid
  | none, some ask => some ask
  | none, none => none

/-- The prices of a payload of Binance. -/
def quoteFromBinancePayload
    (eventType : String)
    (payload : JsonValue Number) : Option (QuoteFields Number) :=
  let data := (payload.get "data").getD payload
  match eventType with
  | "trade" =>
      some
        { QuoteFields.default with
          priceSource := "trade"
          lastPrice := numericField codec data "p"
          tradeVolume := numericField codec data "q" }
  | "ticker" =>
      some
        { QuoteFields.default with
          priceSource := "ticker_last"
          lastPrice := numericField codec data "c"
          tradeVolume := numericField codec data "v" }
  | "book_ticker" =>
      some
        { QuoteFields.default with
          priceSource := "book_ticker_mid"
          bestBidPrice := numericField codec data "b"
          bestAskPrice := numericField codec data "a" }
  | "depth_delta" | "depth_snapshot" =>
      some
        { QuoteFields.default with
          priceSource := "depth_top_mid"
          bestBidPrice :=
            (firstLevelPrice codec data "b").or
              (firstLevelPrice codec data "bids")
          bestAskPrice :=
            (firstLevelPrice codec data "a").or
              (firstLevelPrice codec data "asks") }
  | _ => none

/-- The prices of a payload of Upbit. -/
def quoteFromUpbitPayload
    (eventType : String)
    (payload : JsonValue Number) : Option (QuoteFields Number) :=
  match eventType with
  | "trade" =>
      some
        { priceSource := "trade"
          lastPrice := numericField codec payload "trade_price"
          bestBidPrice := numericField codec payload "best_bid_price"
          bestAskPrice := numericField codec payload "best_ask_price"
          tradeVolume := numericField codec payload "trade_volume" }
  | "ticker" =>
      some
        { QuoteFields.default with
          priceSource := "ticker_trade_price"
          lastPrice := numericField codec payload "trade_price"
          tradeVolume := numericField codec payload "acc_trade_volume_24h" }
  | "depth_snapshot" =>
      let top := (payload.get "orderbook_units").bind JsonValue.firstItem
      some
        { QuoteFields.default with
          priceSource := "orderbook_top_mid"
          bestBidPrice := top.bind (numericField codec · "bid_price")
          bestAskPrice := top.bind (numericField codec · "ask_price") }
  | _ => none

/-- The prices of a payload. -/
def quoteFromPayload
    (record : RawMarketEventRecord)
    (payload : JsonValue Number) : Option (QuoteFields Number) :=
  match record.venue with
  | "binance" => quoteFromBinancePayload codec record.eventType payload
  | "upbit" => quoteFromUpbitPayload codec record.eventType payload
  | _ => none

/-- The prices of a stored event. -/
def quoteOf (record : RawMarketEventRecord) : QuoteFields Number :=
  ((codec.fromStr record.payloadJson).bind
    (quoteFromPayload codec record)).getD .default

namespace MarketLiveTick

/-- The tick of a raw market event. -/
def fromRawMarketEvent
    (record : RawMarketEventRecord) : MarketLiveTick Number :=
  let quote := quoteOf codec record
  { schemaVersion := "market_live_tick_v1"
    eventId := record.eventId
    producerRunId := record.producerRunId
    venue := record.venue
    sourceRole := record.sourceRole
    marketType := record.marketType
    eventType := record.eventType
    symbolNative := record.symbolNative
    symbolCanonical := record.symbolCanonical
    baseAsset := record.baseAsset
    quoteAsset := record.quoteAsset
    exchangeTimestampMs := record.exchangeTimestampMs
    ingestTimestampMs := record.ingestTimestampMs
    latencyMs :=
      saturatingSub record.ingestTimestampMs record.exchangeTimestampMs
    sequenceId := record.sequenceId
    sequenceTag := record.sequenceTag
    priceSource := quote.priceSource
    lastPrice := quote.lastPrice
    bestBidPrice := quote.bestBidPrice
    bestAskPrice := quote.bestAskPrice
    markPrice :=
      quote.lastPrice.or (midpoint quote.bestBidPrice quote.bestAskPrice)
    tradeVolume := quote.tradeVolume
    payloadSha256 := record.payloadSha256 }

/-- The tick has a price to publish. -/
def hasMarkPrice (tick : MarketLiveTick Number) : Bool :=
  tick.markPrice.any isPrice

end MarketLiveTick

end Quotes

section Agreement

variable
  [NumberFormat Number]
  {codec : Codec Number}
  {record : RawMarketEventRecord}

/-- The tick shows the trade. -/
structure ShowsTrade
    (tick : MarketLiveTick Number)
    (trade : TradeNormalized Number) : Prop where
  eventId : tick.eventId = trade.parentEventId
  exchangeTimestampMs :
    tick.exchangeTimestampMs = trade.exchangeTimestampMs
  ingestTimestampMs : tick.ingestTimestampMs = trade.ingestTimestampMs
  lastPrice : tick.lastPrice = some trade.price
  tradeVolume : tick.tradeVolume = some trade.quantity
  markPrice : tick.markPrice = some trade.price
  published : tick.hasMarkPrice = true

/-- The tick shows the prices of the book, and their middle. -/
structure ShowsBook
    (tick : MarketLiveTick Number)
    (book : BookTickerNormalized Number) : Prop where
  eventId : tick.eventId = book.parentEventId
  exchangeTimestampMs :
    tick.exchangeTimestampMs = book.exchangeTimestampMs
  ingestTimestampMs : tick.ingestTimestampMs = book.ingestTimestampMs
  bestBidPrice : tick.bestBidPrice = some book.bestBid
  bestAskPrice : tick.bestAskPrice = some book.bestAsk
  markPrice :
    tick.markPrice =
      some ((book.bestBid + book.bestAsk) / NumberFormat.ofNat 2)

/-- The prices of the book are finite, positive, and do not cross. -/
structure FinitePrices (book : BookTickerNormalized Number) : Prop where
  bestBid : isPrice book.bestBid = true
  bestAsk : isPrice book.bestAsk = true
  ordered : book.bestBid ≤ book.bestAsk

/-- A payload of Upbit is not wrapped as those of Binance are. -/
def Unwrapped
    (codec : Codec Number)
    (record : RawMarketEventRecord) : Prop :=
  record.venue = "upbit" →
    ∀ value, codec.fromStr record.payloadJson = some value →
      binanceData value = none

/-- A price is finite and positive. -/
theorem isPrice_iff
    {number : Number} :
    isPrice number = true ↔
      NumberFormat.isFinite number = true ∧ 0 < number := by
  rw [isPrice, Bool.and_eq_true, decide_eq_true_eq]

/-- A field that is a price is a numeric field that is one. -/
private theorem numericField_eq
    (value : JsonValue Number)
    (field : String) :
    numericField codec value field =
      (numberField codec value field).filter isPrice := by
  unfold numericField numberField parseNumberValue
  cases value.get field <;> rfl

/-- A filtered number is shown just if it is a price. -/
private theorem filter_eq_some_iff
    {number : Number} :
    (some number).filter isPrice = some number ↔ isPrice number = true := by
  rw [Option.filter_some]
  split
  · next price => exact ⟨fun _ => price, fun _ => rfl⟩
  · next special => exact ⟨nofun, fun price => absurd price special⟩

/-- The prices of a trade are those that its payload states. -/
private theorem quoteOf_trade
    {stated : Number × Number × String}
    (isTrade : record.eventType = "trade")
    (unwrapped : Unwrapped codec record)
    (isStated :
      statedTrade codec (sharedRawEvent record) = some stated) :
    (quoteOf codec record).lastPrice = (some stated.1).filter isPrice ∧
      (quoteOf codec record).tradeVolume =
        (some stated.2.1).filter isPrice := by
  obtain ⟨value, decoded, isStated⟩ := Option.bind_eq_some_iff.mp isStated
  have decoded : codec.fromStr record.payloadJson = some value := decoded
  have plain := fun isUpbit => unwrapped isUpbit value decoded
  have venue : (sharedRawEvent record).venue = record.venue := rfl
  unfold quoteOf quoteFromPayload
  rw [decoded, Option.bind_some, isTrade]
  rw [venue] at isStated
  revert isStated plain
  generalize record.venue = venue
  intro isStated plain
  dsimp only at isStated
  split at isStated
  · obtain ⟨price, hasPrice, isStated⟩ := Option.bind_eq_some_iff.mp isStated
    obtain ⟨quantity, hasQuantity, isStated⟩ :=
      Option.bind_eq_some_iff.mp isStated
    obtain rfl := Option.some.inj isStated
    rw [← hasPrice, ← hasQuantity, ← numericField_eq, ← numericField_eq]
    exact ⟨rfl, rfl⟩
  · obtain ⟨price, hasPrice, isStated⟩ := Option.bind_eq_some_iff.mp isStated
    obtain ⟨quantity, hasQuantity, isStated⟩ :=
      Option.bind_eq_some_iff.mp isStated
    obtain ⟨side, -, isStated⟩ := Option.bind_eq_some_iff.mp isStated
    obtain rfl := Option.some.inj isStated
    rw [plain rfl, Option.getD_none] at hasPrice hasQuantity
    rw [← hasPrice, ← hasQuantity, ← numericField_eq, ← numericField_eq]
    exact ⟨rfl, rfl⟩
  · cases isStated

/-- The prices of a top of the book are those that its payload states. -/
private theorem quoteOf_book
    {stated : StatedBook Number}
    (unwrapped : Unwrapped codec record)
    (isStated :
      statedBook codec (sharedRawEvent record) = some stated) :
    (quoteOf codec record).lastPrice = none ∧
      (quoteOf codec record).bestBidPrice =
        (some stated.bestBid).filter isPrice ∧
      (quoteOf codec record).bestAskPrice =
        (some stated.bestAsk).filter isPrice := by
  obtain ⟨value, decoded, isStated⟩ := Option.bind_eq_some_iff.mp isStated
  have decoded : codec.fromStr record.payloadJson = some value := decoded
  have plain := fun isUpbit => unwrapped isUpbit value decoded
  have venue : (sharedRawEvent record).venue = record.venue := rfl
  have eventType : (sharedRawEvent record).eventType = record.eventType := rfl
  unfold quoteOf quoteFromPayload
  rw [decoded, Option.bind_some]
  rw [venue, eventType] at isStated
  revert isStated plain
  generalize record.venue = venue, record.eventType = eventType
  intro isStated plain
  dsimp only at isStated
  split at isStated
  · obtain ⟨bid, hasBid, isStated⟩ := Option.bind_eq_some_iff.mp isStated
    obtain ⟨bidQty, -, isStated⟩ := Option.bind_eq_some_iff.mp isStated
    obtain ⟨ask, hasAsk, isStated⟩ := Option.bind_eq_some_iff.mp isStated
    obtain ⟨askQty, -, isStated⟩ := Option.bind_eq_some_iff.mp isStated
    obtain rfl := Option.some.inj isStated
    rw [← hasBid, ← hasAsk, ← numericField_eq, ← numericField_eq]
    exact ⟨rfl, rfl, rfl⟩
  · rw [plain rfl, Option.getD_none] at isStated
    obtain ⟨units, hasUnits, isStated⟩ := Option.bind_eq_some_iff.mp isStated
    obtain ⟨first, isFirst, isStated⟩ := Option.bind_eq_some_iff.mp isStated
    obtain ⟨bid, hasBid, isStated⟩ := Option.bind_eq_some_iff.mp isStated
    obtain ⟨bidQty, -, isStated⟩ := Option.bind_eq_some_iff.mp isStated
    obtain ⟨ask, hasAsk, isStated⟩ := Option.bind_eq_some_iff.mp isStated
    obtain ⟨askQty, -, isStated⟩ := Option.bind_eq_some_iff.mp isStated
    obtain rfl := Option.some.inj isStated
    unfold quoteFromUpbitPayload
    dsimp only
    rw [hasUnits, Option.bind_some, isFirst, ← hasBid, ← hasAsk,
      ← numericField_eq, ← numericField_eq]
    exact ⟨rfl, rfl, rfl⟩
  · cases isStated

/-- A tick shows a trade that the normalizer reads just if it is finite. -/
theorem showsTrade_iff
    {trade : TradeNormalized Number}
    (isTrade : record.eventType = "trade")
    (unwrapped : Unwrapped codec record)
    (parsed : parseTrade codec (sharedRawEvent record) = some trade) :
    ShowsTrade (.fromRawMarketEvent codec record) trade ↔
      FiniteTrade trade := by
  rw [parseTrade_eq] at parsed
  obtain ⟨stated, isStated, valid⟩ := Option.bind_eq_some_iff.mp parsed
  obtain ⟨price, quantity⟩ := quoteOf_trade isTrade unwrapped isStated
  unfold validTrade at valid
  split at valid
  · cases valid
  · obtain rfl := Option.some.inj valid
    constructor
    · intro shows
      have isPriced :=
        filter_eq_some_iff.mp (price.symm.trans shows.lastPrice)
      have isSized :=
        filter_eq_some_iff.mp (quantity.symm.trans shows.tradeVolume)
      rw [isPrice_iff] at isPriced isSized
      exact
        { price := isPriced.1
          pricePositive := isPriced.2
          quantity := isSized.1
          quantityPositive := isSized.2 }
    · intro finite
      have isPriced : isPrice stated.1 = true :=
        isPrice_iff.mpr ⟨finite.price, finite.pricePositive⟩
      have isSized : isPrice stated.2.1 = true :=
        isPrice_iff.mpr ⟨finite.quantity, finite.quantityPositive⟩
      have lastPrice := price.trans (filter_eq_some_iff.mpr isPriced)
      have markPrice :
          (MarketLiveTick.fromRawMarketEvent codec record).markPrice =
            some stated.1 := by
        change (quoteOf codec record).lastPrice.or _ = _
        rw [lastPrice, Option.some_or]
      exact
        { eventId := rfl
          exchangeTimestampMs := rfl
          ingestTimestampMs := rfl
          lastPrice := lastPrice
          tradeVolume := quantity.trans (filter_eq_some_iff.mpr isSized)
          markPrice := markPrice
          published := by
            rw [MarketLiveTick.hasMarkPrice, markPrice]
            exact isPriced }

/-- A tick shows a top of the book just if its prices are finite. -/
theorem showsBook_iff
    {book : BookTickerNormalized Number}
    (unwrapped : Unwrapped codec record)
    (parsed : parseBookTicker codec (sharedRawEvent record) = some book) :
    ShowsBook (.fromRawMarketEvent codec record) book ↔
      FinitePrices book := by
  rw [parseBookTicker_eq] at parsed
  obtain ⟨stated, isStated, valid⟩ := Option.bind_eq_some_iff.mp parsed
  obtain ⟨last, bid, ask⟩ := quoteOf_book unwrapped isStated
  unfold validBook at valid
  split at valid
  · cases valid
  · split at valid
    · cases valid
    · obtain rfl := Option.some.inj valid
      have markPrice :
          (MarketLiveTick.fromRawMarketEvent codec record).markPrice =
            midpoint ((some stated.bestBid).filter isPrice)
              ((some stated.bestAsk).filter isPrice) := by
        change (quoteOf codec record).lastPrice.or _ = _
        rw [last, Option.none_or, bid, ask]
      constructor
      · intro shows
        have isBid := bid.symm.trans shows.bestBidPrice
        have isAsk := ask.symm.trans shows.bestAskPrice
        have middle := markPrice.symm.trans shows.markPrice
        rw [isBid, isAsk] at middle
        refine ⟨filter_eq_some_iff.mp isBid, filter_eq_some_iff.mp isAsk, ?_⟩
        unfold midpoint at middle
        dsimp only at middle
        split at middle
        · next ordered => exact ordered
        · cases middle
      · intro finite
        have isBid := filter_eq_some_iff.mpr finite.bestBid
        have isAsk := filter_eq_some_iff.mpr finite.bestAsk
        dsimp only at isBid isAsk
        refine
          { eventId := rfl
            exchangeTimestampMs := rfl
            ingestTimestampMs := rfl
            bestBidPrice := bid.trans isBid
            bestAskPrice := ask.trans isAsk
            markPrice := ?_ }
        rw [markPrice, isBid, isAsk]
        exact if_pos finite.ordered

/--
A tick shows the trades and tops of the book that the normalizer reads of the
stored event just if their numbers are finite.
-/
theorem live_tick_shows
    (unwrapped : Unwrapped codec record) :
    (∀ trade,
        record.eventType = "trade" →
        parseTrade codec (sharedRawEvent record) = some trade →
        (ShowsTrade (.fromRawMarketEvent codec record) trade ↔
          FiniteTrade trade)) ∧
      ∀ book,
        parseBookTicker codec (sharedRawEvent record) = some book →
        (ShowsBook (.fromRawMarketEvent codec record) book ↔
          FinitePrices book) := by
  constructor
  · intro trade isTrade parsed
    exact showsTrade_iff isTrade unwrapped parsed
  · intro book parsed
    exact showsBook_iff unwrapped parsed

end Agreement

section Sample

/-- A trade of BTC at Binance, as it is stored. -/
def btcRecord : RawMarketEventRecord where
  eventId := "evt_binance_trade_510_0"
  producerRunId := "run-1"
  venue := "binance"
  sourceRole := "primary"
  marketType := "spot"
  eventType := "trade"
  symbolNative := "BTCUSDT"
  symbolCanonical := "BTC"
  baseAsset := "BTC"
  quoteAsset := "USDT"
  exchangeTimestampMs := 500
  ingestTimestampMs := 510
  sequenceId := "7"
  sequenceTag := "7"
  exchangeSequence := some 7
  diffFirstUpdateId := none
  diffFinalUpdateId := none
  isSnapshot := false
  streamType := "realtime"
  streamPhase := "live"
  payloadJson := Build.btcPayload
  payloadSha256 := Build.btcCodec.sha256Hex Build.btcPayload
  schemaVersion := "raw_market_event_v2"

/-- The trade that the normalizer reads of it. -/
def btcTrade : TradeNormalized ℚ where
  exchangeTimestampMs := 500
  ingestTimestampMs := 510
  price := 201 / 2
  quantity := 2
  side := "buy"
  exchangeSequence := some 7
  parentEventId := "evt_binance_trade_510_0"

/-- A book of one level, as Upbit sends it. -/
def krwPayload : String :=
  "\x7b\"orderbook_units\":[\x7b\"bid_price\":100," ++
    "\"bid_size\":1,\"ask_price\":102,\"ask_size\":3\x7d]\x7d"

/-- The value of that text. -/
def krwValue : JsonValue ℚ :=
  .object
    [("orderbook_units",
      .array
        [.object
          [("bid_price", .number 100), ("bid_size", .number 1),
            ("ask_price", .number 102), ("ask_size", .number 3)]])]

/-- The codec that also reads the book. -/
def bookCodec : Codec ℚ :=
  { Build.btcCodec with
    sha256Hex := fun text =>
      if text = krwPayload then
        "9e60715413ffe9c16ca678e789e051c9a51cc61164ca2a1970a31772fae8bbc5"
      else
        Build.btcCodec.sha256Hex text
    fromStr := fun text =>
      if text = krwPayload then
        some krwValue
      else
        Build.btcCodec.fromStr text }

/-- A book of BTC at Upbit, as it is stored. -/
def krwRecord : RawMarketEventRecord :=
  { btcRecord with
    eventId := "evt_upbit_depth_snapshot_510_1"
    venue := "upbit"
    eventType := "depth_snapshot"
    symbolNative := "KRW-BTC"
    quoteAsset := "KRW"
    sequenceId := "500"
    sequenceTag := "500"
    exchangeSequence := none
    isSnapshot := true
    payloadJson := krwPayload
    payloadSha256 := bookCodec.sha256Hex krwPayload }

/-- The top of the book that the normalizer reads of it. -/
def krwBook : BookTickerNormalized ℚ where
  exchangeTimestampMs := 500
  ingestTimestampMs := 510
  bestBid := 100
  bestBidQty := 1
  bestAsk := 102
  bestAskQty := 3
  exchangeSequence := none
  parentEventId := "evt_upbit_depth_snapshot_510_1"

/-- The tick of the trade shows it, and that of the book shows its top. -/
theorem live_tick_shows_trade_and_book :
    ShowsTrade (.fromRawMarketEvent bookCodec btcRecord) btcTrade ∧
      ShowsBook (.fromRawMarketEvent bookCodec krwRecord) krwBook := by
  have ofTrade :=
    @live_tick_shows ℚ _ bookCodec btcRecord
      fun isUpbit => absurd isUpbit (by decide)
  have plain : Unwrapped bookCodec krwRecord := by
    intro _ value reads
    simp only [bookCodec, krwRecord, if_true, Option.some.injEq] at reads
    subst reads
    rfl
  have ofBook := live_tick_shows plain
  constructor
  · refine (ofTrade.1 btcTrade rfl ?_).mpr ⟨rfl, ?_, rfl, ?_⟩
    · decide +kernel
    · decide +kernel
    · decide +kernel
  · refine (ofBook.2 krwBook ?_).mpr ⟨?_, ?_, ?_⟩
    · decide +kernel
    · decide +kernel
    · decide +kernel
    · decide +kernel

end Sample

end MarketIngest.Live
