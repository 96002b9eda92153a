import MarketIngest.DownloadOrder
import MarketIngest.ProjectionSlices

namespace MarketIngest.Build

open Normalize

/-!
# Last values of a slice

The last price and the top of the book are set by every event of a slice, and
once more when the slice is finished and its events are in order.  So they are
those of the latest event, in whatever order the events came.
-/

section Stored

variable
  {Number : Type}
  {args : NormalizeArgs}

/-- The events of a range that belong to a slice. -/
def sliceEvents
    (codec : Codec Number)
    (args : NormalizeArgs)
    (scanRange range : InputRange)
    (rows : List InputRow)
    (key : SliceKey) : List RawInputEvent :=
  (rangeEvents codec args scanRange range rows).filter (fun event =>
    eventSliceKey args event = key)

/-- The events of a slice have different identifiers. -/
theorem sliceEvents_nodup
    {codec : Codec Number}
    (scanRange range : InputRange)
    (rows : List InputRow)
    (key : SliceKey) :
    ((sliceEvents codec args scanRange range rows key).map
      (fun event => event.eventId)).Nodup :=
  (firsts_nodup _).sublist
    ((List.filter_sublist.trans List.filter_sublist).map _)

variable
  [NumberFormat Number]
  {codec : Codec Number}

/-- A symbol with events has a finished slice for every seeded window. -/
theorem exists_finished_of_seeded
    {range : InputRange}
    {events : List RawInputEvent}
    {state : RangeState Number}
    (holds : RangeHolds codec args range events state)
    {venue symbolCanonical : String}
    {windowStartMs : Int}
    (known : (firstIdentity events venue symbolCanonical).isSome)
    (seeded : isSeeded args range windowStartMs = true)
    (accumulator : BuildAccumulator Number) :
    ∃ finished ∈ finishSlices accumulator range state.rows,
      finished.key = sliceKey venue symbolCanonical windowStartMs := by
  obtain ⟨identity, isIdentity⟩ := Option.isSome_iff_exists.mp known
  have held := holds.rows venue symbolCanonical windowStartMs
  rw [sliceAfter, if_pos seeded, isIdentity, Option.map_some] at held
  have entry := OrderedMap.get?_eq_some_iff.mp held
  obtain ⟨rfl, rfl⟩ := names_of_firstIdentity isIdentity
  refine ⟨_, List.mem_map_of_mem (List.mem_map_of_mem entry), ?_⟩
  exact (finishFrame _ _ _ range _).key

end Stored

section Values

variable
  {Number : Type}
  [NumberFormat Number]
  {codec : Codec Number}
  {args : NormalizeArgs}

/-- The last values of a slice are those of the latest of its events. -/
structure LastValues
    (codec : Codec Number)
    (events : List RawInputEvent)
    (slice : SliceRow Number) : Prop where
  trades : slice.tradeEvents.Perm (events.filterMap (tradeOf codec))
  tradesAscending :
    slice.tradeEvents.Pairwise (fun first second =>
      tradeOrderKey first < tradeOrderKey second)
  lastTrade :
    events.filterMap (tradeOf codec) ≠ [] →
      ∃ trade,
        IsLatest tradeOrderKey (events.filterMap (tradeOf codec)) trade ∧
          slice.lastTradePrice = some trade.price ∧
          slice.lastTradeSize = some trade.quantity
  noTrade :
    events.filterMap (tradeOf codec) = [] →
      slice.lastTradePrice = none ∧ slice.lastTradeSize = none
  books : slice.bookTickerEvents.Perm (events.filterMap (bookOf codec))
  booksAscending :
    slice.bookTickerEvents.Pairwise (fun first second =>
      bookOrderKey first < bookOrderKey second)
  lastBook :
    events.filterMap (bookOf codec) ≠ [] →
      ∃ book,
        IsLatest bookOrderKey (events.filterMap (bookOf codec)) book ∧
          slice.bestBid = some book.bestBid ∧
          slice.bestAsk = some book.bestAsk ∧
          slice.midPrice =
            some ((book.bestBid + book.bestAsk) / NumberFormat.ofNat 2)
  noBook :
    events.filterMap (bookOf codec) = [] →
      slice.bestBid = none ∧ slice.bestAsk = none ∧ slice.midPrice = none
  reasonsAscending :
    slice.missingReasons.Pairwise (fun first second => first < second)

/-- Items of events with different identifiers have different keys. -/
theorem nodup_map_filterMap
    {Item Key : Type}
    {derive' : RawInputEvent → Option Item}
    {idOf : Item → String}
    {key : Item → Key}
    (refers :
      ∀ event item, derive' event = some item → idOf item = event.eventId)
    (keyed : ∀ one other, key one = key other → idOf one = idOf other)
    {events : List RawInputEvent}
    (distinct : (events.map (fun event => event.eventId)).Nodup) :
    ((events.filterMap derive').map key).Nodup := by
  rw [List.Nodup, List.pairwise_map, List.pairwise_filterMap]
  refine (List.pairwise_map.mp distinct).imp ?_
  intro one other apart item derived otherItem otherDerived sameKey
  apply apart
  rw [← refers _ _ derived, ← refers _ _ otherDerived,
    keyed _ _ sameKey]

/-- Trades of different events have different places. -/
theorem tradeOrderKeys_nodup
    {events : List RawInputEvent}
    (distinct : (events.map (fun event => event.eventId)).Nodup) :
    ((events.filterMap (tradeOf codec)).map tradeOrderKey).Nodup := by
  refine nodup_map_filterMap parentEventId_of_tradeOf ?_ distinct
  intro one other sameKey
  simp only [tradeOrderKey, EmbeddingLike.apply_eq_iff_eq,
    Prod.mk.injEq] at sameKey
  exact sameKey.2.2.2

/-- Tops of the book of different events have different places. -/
theorem bookOrderKeys_nodup
    {events : List RawInputEvent}
    (distinct : (events.map (fun event => event.eventId)).Nodup) :
    ((events.filterMap (bookOf codec)).map bookOrderKey).Nodup := by
  refine nodup_map_filterMap parentEventId_of_bookOf ?_ distinct
  intro one other sameKey
  simp only [bookOrderKey, EmbeddingLike.apply_eq_iff_eq,
    Prod.mk.injEq] at sameKey
  exact sameKey.2.2.2

/-- The top of the book gives the middle. -/
theorem priceTop_midPrice
    (row : SliceRow Number) :
    (priceTop row).midPrice =
      match row.bestBid, row.bestAsk with
      | some bid, some ask => some ((bid + ask) / NumberFormat.ofNat 2)
      | _, _ => row.midPrice := by
  unfold priceTop
  cases row.bestBid with
  | none =>
      rfl
  | some bid =>
      cases row.bestAsk with
      | none => rfl
      | some ask => rfl

/-- A finished slice has its events in order and takes its values from them. -/
structure FinishedValues
    (trades : List (TradeNormalized Number))
    (books : List (BookTickerNormalized Number))
    (slice : SliceRow Number) : Prop where
  tradeEvents : slice.tradeEvents = sortBy tradeOrderKey trades
  tradeVolume :
    slice.tradeVolume = sumOf (trades.map (fun trade => trade.quantity))
  lastTradePrice :
    slice.lastTradePrice =
      (sortBy tradeOrderKey trades).getLast?.map (fun trade => trade.price)
  lastTradeSize :
    slice.lastTradeSize =
      (sortBy tradeOrderKey trades).getLast?.map (fun trade => trade.quantity)
  bookTickerEvents : slice.bookTickerEvents = sortBy bookOrderKey books
  bestBid :
    slice.bestBid =
      (sortBy bookOrderKey books).getLast?.map (fun book => book.bestBid)
  bestAsk :
    slice.bestAsk =
      (sortBy bookOrderKey books).getLast?.map (fun book => book.bestAsk)
  midPrice :
    slice.midPrice =
      (sortBy bookOrderKey books).getLast?.map (fun book =>
        (book.bestBid + book.bestAsk) / NumberFormat.ofNat 2)
  missingReasons :
    slice.missingReasons.Pairwise (fun first second => first < second)

/-- Finishing a seed with contributions takes its values from them. -/
theorem finishedValues_of_seed
    (symbolHealth : List SymbolHealthInput)
    (sourceHealth : List SourceHealthInput)
    (gapAlerts : List GapAlertInput)
    (range : InputRange)
    (identity : Identity)
    (windowStartMs : Int)
    (events : List RawInputEvent) :
    FinishedValues (events.filterMap (tradeOf codec))
      (events.filterMap (bookOf codec))
      (finalizeSlice
        (applyHealthAndGapsToRow symbolHealth sourceHealth gapAlerts range
          (summarize codec args
            (emptySlice codec args identity windowStartMs) events))) := by
  rw [finalizeSlice_eq, normalizeEventOrder_applyHealth,
    normalizeEventOrder_summarize]
  generalize ordered :
    noted
      ({ summarize codec args (emptySlice codec args identity windowStartMs)
          events with
        symbolHealthSnapshot := _
        sourceHealthSnapshot := _
        qualityStale := _
        qualityGap := _
        missingReasons := _
        tradeEvents := _
        lastTradePrice := _
        lastTradeSize := _
        bookTickerEvents := _
        bestBid := _
        bestAsk := _
        depthEvents := _
        tickerEvents := _ } : SliceRow Number) = row
  have mid := priceTop_midPrice row
  obtain ⟨midPrice, spreadBps, priced⟩ := priceTop_frame row
  rw [priced] at mid
  rw [priced]
  subst ordered
  exact
    { tradeEvents := rfl
      tradeVolume := rfl
      lastTradePrice := rfl
      lastTradeSize := rfl
      bookTickerEvents := rfl
      bestBid := rfl
      bestAsk := rfl
      midPrice := by
        refine mid.trans ?_
        cases
            (sortBy bookOrderKey
              (events.filterMap (bookOf codec))).getLast? with
        | none => rfl
        | some last => rfl
      missingReasons := sortDedup_ascending _ }

/-- Only no items have no last one when sorted. -/
theorem exists_getLast?_sortBy
    {Item Key : Type}
    [LinearOrder Key]
    (key : Item → Key)
    {items : List Item}
    (nonempty : items ≠ []) :
    ∃ last, (sortBy key items).getLast? = some last := by
  cases sorted : (sortBy key items).getLast? with
  | some last =>
      exact ⟨last, rfl⟩
  | none =>
      have permuted := sortBy_perm key items
      rw [List.getLast?_eq_none_iff.mp sorted] at permuted
      exact absurd permuted.nil_eq.symm nonempty

/-- Values that are taken from ordered events are those of the latest event. -/
theorem FinishedValues.lastValues
    {events : List RawInputEvent}
    {slice : SliceRow Number}
    (values :
      FinishedValues (events.filterMap (tradeOf codec))
        (events.filterMap (bookOf codec)) slice)
    (distinct : (events.map (fun event => event.eventId)).Nodup) :
    LastValues codec events slice where
  trades := by
    rw [values.tradeEvents]
    exact sortBy_perm _ _
  tradesAscending := by
    rw [values.tradeEvents]
    exact sortBy_strict (tradeOrderKeys_nodup distinct)
  lastTrade := by
    intro received
    obtain ⟨trade, isLast⟩ := exists_getLast?_sortBy tradeOrderKey received
    refine ⟨trade, ?_, ?_, ?_⟩
    · exact isLatest_of_getLast?_sortBy (tradeOrderKeys_nodup distinct) isLast
    · rw [values.lastTradePrice, isLast]
      rfl
    · rw [values.lastTradeSize, isLast]
      rfl
  noTrade := by
    intro nothing
    rw [values.lastTradePrice, values.lastTradeSize, nothing]
    exact ⟨rfl, rfl⟩
  books := by
    rw [values.bookTickerEvents]
    exact sortBy_perm _ _
  booksAscending := by
    rw [values.bookTickerEvents]
    exact sortBy_strict (bookOrderKeys_nodup distinct)
  lastBook := by
    intro received
    obtain ⟨book, isLast⟩ := exists_getLast?_sortBy bookOrderKey received
    refine ⟨book, ?_, ?_, ?_, ?_⟩
    · exact isLatest_of_getLast?_sortBy (bookOrderKeys_nodup distinct) isLast
    · rw [values.bestBid, isLast]
      rfl
    · rw [values.bestAsk, isLast]
      rfl
    · rw [values.midPrice, isLast]
      rfl
  noBook := by
    intro nothing
    rw [values.bestBid, values.bestAsk, values.midPrice, nothing]
    exact ⟨rfl, rfl, rfl⟩
  reasonsAscending := values.missingReasons

/-- The finished slices of a range take their values from their events. -/
theorem finishedValues_of_mem_finishSlices
    {scanRange range : InputRange}
    {rows : List InputRow}
    {state : RangeState Number}
    (holds :
      RangeHolds codec args range
        (rangeEvents codec args scanRange range rows) state)
    {accumulator : BuildAccumulator Number}
    {finished : SliceRow Number}
    (member : finished ∈ finishSlices accumulator range state.rows) :
    FinishedValues
      ((sliceEvents codec args scanRange range rows
        finished.key).filterMap (tradeOf codec))
      ((sliceEvents codec args scanRange range rows
        finished.key).filterMap (bookOf codec))
      finished := by
  obtain ⟨identity, windowStartMs, _, _, _, isFinished⟩ :=
    seed_of_mem_finishSlices holds member
  exact
    Eq.mpr (congrArg (FinishedValues _ _) isFinished)
      (finishedValues_of_seed _ _ _ _ identity windowStartMs _)

/-- After any rows, in any order, the slices of a build and those of its
projections have the values of their latest events. -/
theorem finishedSlices_lastValues
    (codec : Codec Number)
    (args : NormalizeArgs)
    (inputRange scanRange : InputRange)
    (metadata : BuildInputMetadata)
    (rows : List InputRow)
    (slice : SliceRow Number) :
    (slice ∈
        (ingestRows codec args
          (BuildAccumulator.new args inputRange scanRange metadata)
          rows).finish.slices →
      LastValues codec
        (sliceEvents codec args scanRange inputRange rows slice.key)
        slice) ∧
    (slice ∈
        (ingestRows codec args
          (BuildAccumulator.new args inputRange scanRange metadata)
          rows).finish.projectionSlices →
      LastValues codec
        (sliceEvents codec args scanRange (lookbackRange args inputRange)
          rows slice.key)
        slice) := by
  have holds :
      BuildHolds codec args scanRange inputRange rows
        (ingestRows codec args
          (BuildAccumulator.new args inputRange scanRange metadata) rows) :=
    buildHolds_ingestRows metadata rows
  constructor
  · intro member
    change slice ∈ finishSlices _ _ _ at member
    rw [holds.sameInputRange] at member
    exact
      (finishedValues_of_mem_finishSlices holds.input member).lastValues
        (sliceEvents_nodup scanRange inputRange rows _)
  · intro member
    change slice ∈ finishSlices _ _ _ at member
    rw [holds.sameProjectionRange] at member
    exact
      (finishedValues_of_mem_finishSlices holds.projection
          member).lastValues
        (sliceEvents_nodup scanRange (lookbackRange args inputRange) rows _)

end Values

end MarketIngest.Build
