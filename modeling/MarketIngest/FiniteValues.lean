import MarketIngest.LastValues
import MarketIngest.SpecialNumbers

namespace MarketIngest.Normalize

/-!
# Finite values in slices

Venues write numbers as text, and the text may name a number that is infinite or
not a number.  Prices and quantities are refused if they are not positive, which
neither of these is.  What is not refused goes into the slices.
-/

section Stated

variable
  {Number : Type}
  [NumberFormat Number]
  (codec : Codec Number)

/-- Price, quantity and side that the payload of a trade states. -/
def statedTrade
    (event : RawInputEvent) : Option (Number × Number × String) := do
  let value ← codec.fromStr event.payloadJson
  let data := (binanceData value).getD value
  match event.venue with
  | "binance" => do
      let price ← numberField codec data "p"
      let quantity ← numberField codec data "q"
      let buyerIsMaker :=
        ((data.get "m").bind (fun flag => flag.asBool)).getD false
      pure (price, quantity, if buyerIsMaker then "sell" else "buy")
  | "upbit" => do
      let price ← numberField codec data "trade_price"
      let quantity ← numberField codec data "trade_volume"
      let side ← upbitSide data
      pure (price, quantity, side)
  | _ => none

/-- A trade is parsed from what its payload states. -/
theorem parseTrade_eq (event : RawInputEvent) :
    parseTrade codec event =
      (statedTrade codec event).bind (fun stated =>
        validTrade event stated.1 stated.2.1 stated.2.2) := by
  unfold parseTrade statedTrade
  cases codec.fromStr event.payloadJson with
  | none => rfl
  | some value =>
      simp only [Option.bind_eq_bind, Option.bind_some]
      generalize event.venue = venue
      split
      · simp only [parseBinanceTrade, Option.bind_eq_bind,
          Option.bind_assoc]
        rfl
      · simp only [parseUpbitTrade, Option.bind_eq_bind,
          Option.bind_assoc]
        rfl
      · simp

/-- The bid, its quantity, the ask and its quantity. -/
structure StatedBook (Number : Type) where
  bestBid : Number
  bestBidQty : Number
  bestAsk : Number
  bestAskQty : Number

/-- The top of the book that a payload states. -/
def statedBook (event : RawInputEvent) : Option (StatedBook Number) := do
  let value ← codec.fromStr event.payloadJson
  let data := (binanceData value).getD value
  match event.venue, event.eventType with
  | "binance", "book_ticker" => do
      let bestBid ← numberField codec data "b"
      let bestBidQty ← numberField codec data "B"
      let bestAsk ← numberField codec data "a"
      let bestAskQty ← numberField codec data "A"
      pure ⟨bestBid, bestBidQty, bestAsk, bestAskQty⟩
  | "upbit", "depth_snapshot" => do
      let first ← (← data.get "orderbook_units").firstItem
      let bestBid ← numberField codec first "bid_price"
      let bestBidQty ← numberField codec first "bid_size"
      let bestAsk ← numberField codec first "ask_price"
      let bestAskQty ← numberField codec first "ask_size"
      pure ⟨bestBid, bestBidQty, bestAsk, bestAskQty⟩
  | _, _ => none

/-- A top of the book is parsed from what its payload states. -/
theorem parseBookTicker_eq (event : RawInputEvent) :
    parseBookTicker codec event =
      (statedBook codec event).bind (fun stated =>
        validBook event stated.bestBid stated.bestBidQty stated.bestAsk
          stated.bestAskQty) := by
  unfold parseBookTicker statedBook
  cases codec.fromStr event.payloadJson with
  | none => rfl
  | some value =>
      simp only [Option.bind_eq_bind, Option.bind_some]
      generalize event.venue = venue, event.eventType = eventType
      split
      · simp only [parseBinanceBookTicker, Option.bind_eq_bind,
          Option.bind_assoc]
        rfl
      · simp only [parseUpbitOrderbookTop, Option.bind_eq_bind,
          Option.bind_assoc]
        rfl
      · simp

/-- Price and quantity are finite and positive. -/
structure FiniteTrade (trade : TradeNormalized Number) : Prop where
  price : NumberFormat.isFinite trade.price = true
  pricePositive : 0 < trade.price
  quantity : NumberFormat.isFinite trade.quantity = true
  quantityPositive : 0 < trade.quantity

/-- Prices are finite, positive and do not cross; quantities are finite and not
negative. -/
structure FiniteBook (book : BookTickerNormalized Number) : Prop where
  bestBid : NumberFormat.isFinite book.bestBid = true
  bestBidPositive : 0 < book.bestBid
  bestBidQty : NumberFormat.isFinite book.bestBidQty = true
  bestBidQtyNonneg : 0 ≤ book.bestBidQty
  bestAsk : NumberFormat.isFinite book.bestAsk = true
  bestAskPositive : 0 < book.bestAsk
  bestAskQty : NumberFormat.isFinite book.bestAskQty = true
  bestAskQtyNonneg : 0 ≤ book.bestAskQty
  ordered : book.bestBid ≤ book.bestAsk

/-- If price or quantity is not finite, one of them is at most zero. -/
def TradeRefused (event : RawInputEvent) : Prop :=
  ∀ stated, statedTrade codec event = some stated →
    (NumberFormat.isFinite stated.1 = false ∨
      NumberFormat.isFinite stated.2.1 = false) →
    stated.1 ≤ 0 ∨ stated.2.1 ≤ 0

/-- If a number of a top of the book is not finite, a price is at most zero, a
quantity is negative, or the prices cross. -/
def BookRefused (event : RawInputEvent) : Prop :=
  ∀ stated, statedBook codec event = some stated →
    (NumberFormat.isFinite stated.bestBid = false ∨
      NumberFormat.isFinite stated.bestBidQty = false ∨
      NumberFormat.isFinite stated.bestAsk = false ∨
      NumberFormat.isFinite stated.bestAskQty = false) →
    stated.bestBid ≤ 0 ∨ stated.bestAsk ≤ 0 ∨ stated.bestBidQty < 0 ∨
      stated.bestAskQty < 0 ∨ stated.bestAsk < stated.bestBid

end Stated

section Events

variable
  {rounding : Rounding}
  {codec : Codec (SpecialNumber rounding)}
  {event : RawInputEvent}

/-- Parsed trades are finite exactly if those that are not are refused. -/
theorem finiteTrade_iff :
    (∀ trade, parseTrade codec event = some trade → FiniteTrade trade) ↔
      TradeRefused codec event := by
  rw [parseTrade_eq]
  constructor
  · intro finite stated isStated special
    by_contra kept
    have parsed :
        validTrade event stated.1 stated.2.1 stated.2.2 = some _ :=
      if_neg kept
    obtain ⟨price, _, quantity, _⟩ :=
      finite _ (by rw [isStated, Option.bind_some]; exact parsed)
    rcases special with special | special
    · exact absurd price (by rw [special]; decide)
    · exact absurd quantity (by rw [special]; decide)
  · intro refused trade parsed
    obtain ⟨stated, isStated, valid⟩ := Option.bind_eq_some_iff.mp parsed
    unfold validTrade at valid
    split_ifs at valid with kept
    obtain rfl := Option.some.inj valid
    rw [not_or] at kept
    have finite :
        NumberFormat.isFinite stated.1 = true ∧
          NumberFormat.isFinite stated.2.1 = true := by
      by_contra special
      refine absurd (refused stated isStated ?_) (not_or.mpr kept)
      rwa [not_and_or, Bool.not_eq_true, Bool.not_eq_true] at special
    exact
      { price := finite.1
        pricePositive := SpecialNumber.pos_of_not_le_zero finite.1 kept.1
        quantity := finite.2
        quantityPositive :=
          SpecialNumber.pos_of_not_le_zero finite.2 kept.2 }

/-- Parsed tops of the book are finite exactly if those that are not are
refused. -/
theorem finiteBook_iff :
    (∀ book, parseBookTicker codec event = some book → FiniteBook book) ↔
      BookRefused codec event := by
  rw [parseBookTicker_eq]
  constructor
  · intro finite stated isStated special
    by_contra kept
    simp only [not_or] at kept
    obtain ⟨bid, ask, bidQty, askQty, ordered⟩ := kept
    have parsed :
        validBook event stated.bestBid stated.bestBidQty stated.bestAsk
          stated.bestAskQty = some _ :=
      (if_neg (by simp only [not_or]; exact ⟨bid, ask, bidQty, askQty⟩)).trans
        (if_neg ordered)
    have valid :=
      finite _ (by rw [isStated, Option.bind_some]; exact parsed)
    rcases special with special | special | special | special
    · exact absurd valid.bestBid (by rw [special]; decide)
    · exact absurd valid.bestBidQty (by rw [special]; decide)
    · exact absurd valid.bestAsk (by rw [special]; decide)
    · exact absurd valid.bestAskQty (by rw [special]; decide)
  · intro refused book parsed
    obtain ⟨stated, isStated, valid⟩ := Option.bind_eq_some_iff.mp parsed
    unfold validBook at valid
    split_ifs at valid with signs crossed
    obtain rfl := Option.some.inj valid
    simp only [not_or] at signs
    obtain ⟨bid, ask, bidQty, askQty⟩ := signs
    have finite :
        NumberFormat.isFinite stated.bestBid = true ∧
          NumberFormat.isFinite stated.bestBidQty = true ∧
          NumberFormat.isFinite stated.bestAsk = true ∧
          NumberFormat.isFinite stated.bestAskQty = true := by
      by_contra special
      refine absurd (refused stated isStated ?_) ?_
      · simpa only [not_and_or, Bool.not_eq_true] using special
      · simp only [not_or]
        exact ⟨bid, ask, bidQty, askQty, crossed⟩
    obtain ⟨bidFinite, bidQtyFinite, askFinite, askQtyFinite⟩ := finite
    exact
      { bestBid := bidFinite
        bestBidPositive := SpecialNumber.pos_of_not_le_zero bidFinite bid
        bestBidQty := bidQtyFinite
        bestBidQtyNonneg := SpecialNumber.le_of_not_lt rfl bidQtyFinite bidQty
        bestAsk := askFinite
        bestAskPositive := SpecialNumber.pos_of_not_le_zero askFinite ask
        bestAskQty := askQtyFinite
        bestAskQtyNonneg := SpecialNumber.le_of_not_lt rfl askQtyFinite askQty
        ordered := SpecialNumber.le_of_not_lt bidFinite askFinite crossed }

end Events

end MarketIngest.Normalize

namespace MarketIngest.Build

open Normalize

section Slices

variable
  {rounding : Rounding}
  {codec : Codec (SpecialNumber rounding)}
  {args : NormalizeArgs}

/-- The values of a slice are finite. -/
structure FiniteSlice (slice : SliceRow (SpecialNumber rounding)) : Prop where
  tradeVolume : NumberFormat.isFinite slice.tradeVolume = true
  lastTradePrice :
    ∀ price ∈ slice.lastTradePrice, NumberFormat.isFinite price = true
  bestBid : ∀ price ∈ slice.bestBid, NumberFormat.isFinite price = true
  bestAsk : ∀ price ∈ slice.bestAsk, NumberFormat.isFinite price = true
  midPrice : ∀ price ∈ slice.midPrice, NumberFormat.isFinite price = true

/-- The parsed trades and tops of the book of events are finite. -/
structure FiniteEvents
    (codec : Codec (SpecialNumber rounding))
    (events : List RawInputEvent) : Prop where
  trades :
    ∀ event ∈ events, ∀ trade,
      parseTrade codec event = some trade → FiniteTrade trade
  books :
    ∀ event ∈ events, ∀ book,
      parseBookTicker codec event = some book → FiniteBook book

/-- Neither the quantities of the trades of events nor the two prices of their
latest top of the book add up to more than can be represented. -/
structure SumsStayFinite
    (codec : Codec (SpecialNumber rounding))
    (events : List RawInputEvent) : Prop where
  quantities :
    NumberFormat.isFinite (sumOf (tradeQuantities codec events)) = true
  prices :
    ∀ book, IsLatest bookOrderKey (events.filterMap (bookOf codec)) book →
      NumberFormat.isFinite (book.bestBid + book.bestAsk) = true

/-- Trades of finite events are finite. -/
theorem FiniteEvents.trade
    {events : List RawInputEvent}
    (finite : FiniteEvents codec events)
    {trade : TradeNormalized (SpecialNumber rounding)}
    (member : trade ∈ events.filterMap (tradeOf codec)) :
    FiniteTrade trade := by
  obtain ⟨event, among, derived⟩ := List.mem_filterMap.mp member
  unfold tradeOf at derived
  split_ifs at derived
  exact finite.trades event among trade derived

/-- Tops of the book of finite events are finite. -/
theorem FiniteEvents.book
    {events : List RawInputEvent}
    (finite : FiniteEvents codec events)
    {book : BookTickerNormalized (SpecialNumber rounding)}
    (member : book ∈ events.filterMap (bookOf codec)) :
    FiniteBook book := by
  obtain ⟨event, among, derived⟩ := List.mem_filterMap.mp member
  unfold bookOf at derived
  split_ifs at derived
  exact finite.books event among book derived

/-- A slice of finite events is finite exactly if its sums stay finite. -/
theorem finiteSlice_iff
    {events : List RawInputEvent}
    (finite : FiniteEvents codec events)
    (distinct : (events.map (fun event => event.eventId)).Nodup)
    {slice : SliceRow (SpecialNumber rounding)}
    (values :
      FinishedValues (events.filterMap (tradeOf codec))
        (events.filterMap (bookOf codec)) slice) :
    FiniteSlice slice ↔ SumsStayFinite codec events := by
  have last := values.lastValues distinct
  have volume :
      slice.tradeVolume = sumOf (tradeQuantities codec events) :=
    values.tradeVolume
  constructor
  · intro finiteSlice
    refine ⟨volume ▸ finiteSlice.tradeVolume, ?_⟩
    intro book isLatest
    obtain ⟨latest, isLast, _, _, mid⟩ :=
      last.lastBook (List.ne_nil_of_mem isLatest.member)
    obtain rfl := isLast.unique isLatest
    have finiteBook := finite.book isLatest.member
    rw [← SpecialNumber.isFinite_mean_iff finiteBook.bestBid
      finiteBook.bestAsk]
    exact finiteSlice.midPrice _ mid
  · intro sums
    have trade (price : SpecialNumber rounding)
        (isPrice : price ∈ slice.lastTradePrice) :
        NumberFormat.isFinite price = true := by
      by_cases received : events.filterMap (tradeOf codec) = []
      · rw [(last.noTrade received).1] at isPrice
        cases isPrice
      · obtain ⟨trade, isLatest, own, _⟩ := last.lastTrade received
        rw [own] at isPrice
        rw [← Option.mem_some.mp isPrice]
        exact (finite.trade isLatest.member).price
    by_cases received : events.filterMap (bookOf codec) = []
    · obtain ⟨noBid, noAsk, noMid⟩ := last.noBook received
      exact
        { tradeVolume := volume ▸ sums.quantities
          lastTradePrice := trade
          bestBid := by simp [noBid]
          bestAsk := by simp [noAsk]
          midPrice := by simp [noMid] }
    · obtain ⟨book, isLatest, bid, ask, mid⟩ := last.lastBook received
      have finiteBook := finite.book isLatest.member
      exact
        { tradeVolume := volume ▸ sums.quantities
          lastTradePrice := trade
          bestBid := by simpa [bid] using finiteBook.bestBid
          bestAsk := by simpa [ask] using finiteBook.bestAsk
          midPrice := by
            rw [mid]
            intro price isPrice
            rw [← Option.mem_some.mp isPrice,
              SpecialNumber.isFinite_mean_iff finiteBook.bestBid
                finiteBook.bestAsk]
            exact sums.prices book isLatest }

/-- In no slice of a range does anything add up to too much. -/
def SliceSumsStayFinite
    (codec : Codec (SpecialNumber rounding))
    (args : NormalizeArgs)
    (scanRange range : InputRange)
    (rows : List InputRow) : Prop :=
  ∀ venue symbolCanonical windowStartMs,
    (firstIdentity (rangeEvents codec args scanRange range rows) venue
        symbolCanonical).isSome →
    isSeeded args range windowStartMs = true →
    SumsStayFinite codec
      (sliceEvents codec args scanRange range rows
        (sliceKey venue symbolCanonical windowStartMs))

/-- Finite events stay finite in a slice. -/
theorem FiniteEvents.sliceEvents
    {scanRange range : InputRange}
    {rows : List InputRow}
    (finite : FiniteEvents codec (rows.filterMap InputRow.rawEvent?))
    (key : SliceKey) :
    FiniteEvents codec (sliceEvents codec args scanRange range rows key) where
  trades := fun event member =>
    finite.trades event
      (mem_of_mem_rangeEvents (List.mem_of_mem_filter member))
  books := fun event member =>
    finite.books event
      (mem_of_mem_rangeEvents (List.mem_of_mem_filter member))

/-- The slices of a range with finite events are finite exactly if in none of
them anything adds up to too much. -/
theorem finishSlices_finite_iff
    {scanRange range : InputRange}
    {rows : List InputRow}
    {state : RangeState (SpecialNumber rounding)}
    (holds :
      RangeHolds codec args range
        (rangeEvents codec args scanRange range rows) state)
    (finite : FiniteEvents codec (rows.filterMap InputRow.rawEvent?))
    (accumulator : BuildAccumulator (SpecialNumber rounding)) :
    (∀ slice ∈ finishSlices accumulator range state.rows,
        FiniteSlice slice) ↔
      SliceSumsStayFinite codec args scanRange range rows := by
  have own
      {slice : SliceRow (SpecialNumber rounding)}
      (member : slice ∈ finishSlices accumulator range state.rows) :
      FiniteSlice slice ↔
        SumsStayFinite codec
          (sliceEvents codec args scanRange range rows slice.key) :=
    finiteSlice_iff (finite.sliceEvents slice.key)
      (sliceEvents_nodup scanRange range rows slice.key)
      (finishedValues_of_mem_finishSlices holds member)
  constructor
  · intro slices venue symbolCanonical windowStartMs known seeded
    obtain ⟨slice, member, isKey⟩ :=
      exists_finished_of_seeded holds known seeded accumulator
    rw [← isKey]
    exact (own member).mp (slices slice member)
  · intro sums slice member
    obtain ⟨identity, windowStartMs, isIdentity, seeded, isKey, _⟩ :=
      seed_of_mem_finishSlices holds member
    rw [own member, isKey]
    exact sums _ _ _ (by rw [isIdentity]; rfl) seeded

/-- When the slices of the input range are finite. -/
theorem finish_slices_finite_iff
    {inputRange scanRange : InputRange}
    {rows : List InputRow}
    {accumulator : BuildAccumulator (SpecialNumber rounding)}
    (holds : BuildHolds codec args scanRange inputRange rows accumulator)
    (finite : FiniteEvents codec (rows.filterMap InputRow.rawEvent?)) :
    (∀ slice ∈ accumulator.finish.slices, FiniteSlice slice) ↔
      SliceSumsStayFinite codec args scanRange inputRange rows := by
  change
    (∀ slice ∈
      finishSlices accumulator accumulator.inputRange accumulator.rows,
      FiniteSlice slice) ↔ _
  rw [holds.sameInputRange]
  exact finishSlices_finite_iff holds.input finite accumulator

/-- When the slices of the projections are finite. -/
theorem finish_projectionSlices_finite_iff
    {inputRange scanRange : InputRange}
    {rows : List InputRow}
    {accumulator : BuildAccumulator (SpecialNumber rounding)}
    (holds : BuildHolds codec args scanRange inputRange rows accumulator)
    (finite : FiniteEvents codec (rows.filterMap InputRow.rawEvent?)) :
    (∀ slice ∈ accumulator.finish.projectionSlices, FiniteSlice slice) ↔
      SliceSumsStayFinite codec args scanRange
        (lookbackRange args inputRange) rows := by
  change
    (∀ slice ∈
      finishSlices accumulator accumulator.projectionRange
        accumulator.projectionRows,
      FiniteSlice slice) ↔ _
  rw [holds.sameProjectionRange]
  exact finishSlices_finite_iff holds.projection finite accumulator

/-- Only finite values enter the slices of a build. -/
structure OnlyFiniteValues
    (codec : Codec (SpecialNumber rounding))
    (args : NormalizeArgs)
    (inputRange scanRange : InputRange)
    (metadata : BuildInputMetadata)
    (rows : List InputRow) : Prop where
  events : FiniteEvents codec (rows.filterMap InputRow.rawEvent?)
  slices :
    ∀ slice ∈
      (ingestRows codec args
        (BuildAccumulator.new args inputRange scanRange metadata)
        rows).finish.slices,
      FiniteSlice slice
  projectionSlices :
    ∀ slice ∈
      (ingestRows codec args
        (BuildAccumulator.new args inputRange scanRange metadata)
        rows).finish.projectionSlices,
      FiniteSlice slice

/-- No special value passes the checks of the payloads, and in no slice does
anything add up to too much. -/
structure NothingSpecial
    (codec : Codec (SpecialNumber rounding))
    (args : NormalizeArgs)
    (inputRange scanRange : InputRange)
    (rows : List InputRow) : Prop where
  trades :
    ∀ event ∈ rows.filterMap InputRow.rawEvent?, TradeRefused codec event
  books :
    ∀ event ∈ rows.filterMap InputRow.rawEvent?, BookRefused codec event
  slices : SliceSumsStayFinite codec args scanRange inputRange rows
  projectionSlices :
    SliceSumsStayFinite codec args scanRange (lookbackRange args inputRange)
      rows

/-- Only finite values enter exactly if nothing special passes the checks and
nothing adds up to too much. -/
theorem onlyFiniteValues_iff
    (codec : Codec (SpecialNumber rounding))
    (args : NormalizeArgs)
    (inputRange scanRange : InputRange)
    (metadata : BuildInputMetadata)
    (rows : List InputRow) :
    OnlyFiniteValues codec args inputRange scanRange metadata rows ↔
      NothingSpecial codec args inputRange scanRange rows := by
  have holds :
      BuildHolds codec args scanRange inputRange rows
        (ingestRows codec args
          (BuildAccumulator.new args inputRange scanRange metadata) rows) :=
    buildHolds_ingestRows metadata rows
  constructor
  · intro only
    exact
      { trades := fun event member =>
          finiteTrade_iff.mp (only.events.trades event member)
        books := fun event member =>
          finiteBook_iff.mp (only.events.books event member)
        slices :=
          (finish_slices_finite_iff holds only.events).mp only.slices
        projectionSlices :=
          (finish_projectionSlices_finite_iff holds only.events).mp
            only.projectionSlices }
  · intro nothing
    have finite :
        FiniteEvents codec (rows.filterMap InputRow.rawEvent?) :=
      { trades := fun event member =>
          finiteTrade_iff.mpr (nothing.trades event member)
        books := fun event member =>
          finiteBook_iff.mpr (nothing.books event member) }
    exact
      { events := finite
        slices := (finish_slices_finite_iff holds finite).mpr nothing.slices
        projectionSlices :=
          (finish_projectionSlices_finite_iff holds finite).mpr
            nothing.projectionSlices }

end Slices

section Sample

/-- The payload of a trade without a price. -/
def nanPayload : String :=
  "\x7b\"p\":\"NaN\",\"q\":\"2\",\"m\":false\x7d"

/-- Hashing and decoding of the payload. -/
def nanCodec : Codec (SpecialNumber binary64) where
  sha256Hex := fun _ =>
    "934377404ceb827b0964c688595508d6991c4fb82f941556f2234b17310d30c2"
  fromStr := fun text =>
    if text = nanPayload then
      some (.object
        [("p", .text "NaN"), ("q", .text "2"), ("m", .bool false)])
    else
      none
  parseF64 := fun text =>
    if text = "NaN" then some .nan
    else if text = "2" then some (.finite 2)
    else none

/-- A trade of BTC whose price is not a number. -/
def nanTrade : RawInputEvent :=
  { btcTrade "t-1" with
    payloadJson := nanPayload
    payloadSha256 :=
      "934377404ceb827b0964c688595508d6991c4fb82f941556f2234b17310d30c2" }

/-- A price that is not a number is the last price of a slice. -/
theorem nanTrade_enters :
    (ingestRows nanCodec oneWindowBackArgs
          (BuildAccumulator.new oneWindowBackArgs ⟨0, 1000⟩ ⟨0, 1000⟩
            oneObject)
          [.rawEvent nanTrade]).finish.slices.map
        (fun slice => slice.lastTradePrice) = [some .nan] ∧
      ¬ OnlyFiniteValues nanCodec oneWindowBackArgs ⟨0, 1000⟩ ⟨0, 1000⟩
        oneObject [.rawEvent nanTrade] := by
  have shown :
      (ingestRows nanCodec oneWindowBackArgs
            (BuildAccumulator.new oneWindowBackArgs ⟨0, 1000⟩ ⟨0, 1000⟩
              oneObject)
            [.rawEvent nanTrade]).finish.slices.map
          (fun slice => slice.lastTradePrice) = [some .nan] := by
    decide +kernel
  refine ⟨shown, fun only => ?_⟩
  obtain ⟨slice, member, isNan⟩ :=
    List.mem_map.mp (shown.symm ▸ List.mem_singleton.mpr rfl)
  have finite := (only.slices slice member).lastTradePrice .nan isNan
  exact Bool.false_ne_true finite

end Sample

end MarketIngest.Build
