import MarketIngest.BackfilledTrades
import MarketIngest.MergedSources
import MarketIngest.ReadRange
import MarketIngest.SliceTrades

/-!
# Adjacent chunks of history

The bootstrap divides history into chunks that do not contain their ends, and
has them backfilled one by one.  The backfill of a chunk takes the trades of its
last millisecond as well, so those of the millisecond between two chunks are
appended by both runs.  A build counts each of them once only if the two records
get the same identifier.
-/

namespace MarketIngest.Supervisor

section Chunks

/-- The multiple of the chunk length that a value is not below. -/
def alignDownToChunk (value chunkMs : Int) : Int :=
  value / chunkMs * chunkMs

/-- The loop over chunks, with a bound on its rounds. -/
def bootstrapChunksFrom
    (chunkMs endBound : Int) :
    Nat → Int → List BootstrapChunk
  | 0, _ => []
  | rounds + 1, cursor =>
      if cursor < endBound then
        let endMs := min (saturatingAdd cursor chunkMs) endBound
        let rest := bootstrapChunksFrom chunkMs endBound rounds endMs
        if cursor < endMs then
          ⟨cursor, endMs⟩ :: rest
        else
          rest
      else
        []

/-- The chunks of the history up to an hour ago. -/
def bootstrapChunks
    (bootstrapLookbackDays bootstrapChunkHours nowMs : Int) :
    List BootstrapChunk :=
  let lookbackMs :=
    saturatingMul (saturatingMul bootstrapLookbackDays 24) 3600000
  let chunkMs := saturatingMul bootstrapChunkHours 3600000
  if chunkMs ≤ 0 then
    []
  else
    let endBound := alignDownToChunk (saturatingSub nowMs 3600000) chunkMs
    let startBound :=
      alignDownToChunk (saturatingSub endBound lookbackMs) chunkMs
    bootstrapChunksFrom chunkMs endBound
      ((endBound - startBound) / chunkMs + 1).toNat startBound

variable
  {chunkMs endBound : Int}

/-- A round of the loop adds a chunk that is not empty. -/
theorem bootstrapChunksFrom_succ
    (positive : 0 < chunkMs)
    (representable : endBound ≤ i64Max)
    (rounds : Nat)
    (cursor : Int) :
    bootstrapChunksFrom chunkMs endBound (rounds + 1) cursor =
      if cursor < endBound then
        ⟨cursor, min (saturatingAdd cursor chunkMs) endBound⟩ ::
          bootstrapChunksFrom chunkMs endBound rounds
            (min (saturatingAdd cursor chunkMs) endBound)
      else
        [] := by
  rw [bootstrapChunksFrom]
  by_cases before : cursor < endBound
  · have nonempty :
        cursor < min (saturatingAdd cursor chunkMs) endBound := by
      unfold saturatingAdd clampI64
      omega
    rw [if_pos before, if_pos before]
    exact if_pos nonempty
  · rw [if_neg before, if_neg before]

/-- The chunks of the loop are not empty and end in time. -/
private theorem bounds_of_mem_chunksFrom
    {rounds : Nat}
    {cursor : Int}
    {chunk : BootstrapChunk}
    (member : chunk ∈ bootstrapChunksFrom chunkMs endBound rounds cursor) :
    chunk.startMs < chunk.endMs ∧ chunk.endMs ≤ endBound := by
  induction rounds generalizing cursor with
  | zero =>
      cases member
  | succ rounds inductionHypothesis =>
      rw [bootstrapChunksFrom] at member
      simp only at member
      split_ifs at member with before nonempty
      · rcases List.mem_cons.mp member with rfl | later
        · exact ⟨nonempty, min_le_right _ _⟩
        · exact inductionHypothesis later
      · exact inductionHypothesis member
      · cases member

/-- The first chunk of the loop starts where the loop does. -/
private theorem head_chunksFrom
    (positive : 0 < chunkMs)
    (representable : endBound ≤ i64Max)
    {rounds : Nat}
    {cursor : Int}
    {chunk : BootstrapChunk}
    (isHead :
      chunk ∈ (bootstrapChunksFrom chunkMs endBound rounds cursor).head?) :
    chunk.startMs = cursor := by
  cases rounds with
  | zero =>
      cases isHead
  | succ rounds =>
      rw [bootstrapChunksFrom_succ positive representable] at isHead
      split_ifs at isHead with before
      · cases isHead
        rfl
      · cases isHead

/-- Each chunk of the loop ends where the next one starts. -/
private theorem chain_chunksFrom
    (positive : 0 < chunkMs)
    (representable : endBound ≤ i64Max)
    (rounds : Nat)
    (cursor : Int) :
    (bootstrapChunksFrom chunkMs endBound rounds cursor).IsChain
      (fun one next => one.endMs = next.startMs) := by
  induction rounds generalizing cursor with
  | zero =>
      exact List.isChain_nil
  | succ rounds inductionHypothesis =>
      rw [bootstrapChunksFrom_succ positive representable]
      split_ifs with before
      · refine List.isChain_cons.mpr ⟨?_, inductionHypothesis _⟩
        intro next isHead
        exact (head_chunksFrom positive representable isHead).symm
      · exact List.isChain_nil

/-- Two consecutive chunks meet, and end an hour ago. -/
theorem consecutive_chunks
    {lookbackDays chunkHours nowMs : Int}
    (nowRepresentable : nowMs ≤ i64Max)
    {before later : List BootstrapChunk}
    {first second : BootstrapChunk}
    (consecutive :
      bootstrapChunks lookbackDays chunkHours nowMs =
        before ++ first :: second :: later) :
    first.endMs = second.startMs ∧
      first.startMs < first.endMs ∧
      second.startMs < second.endMs ∧
      second.endMs < i64Max := by
  unfold bootstrapChunks at consecutive
  simp only at consecutive
  split_ifs at consecutive with degenerate
  · simp at consecutive
  · have positive := not_le.mp degenerate
    set chunkMs := saturatingMul chunkHours 3600000
    set endBound := alignDownToChunk (saturatingSub nowMs 3600000) chunkMs
      with isEnd
    have early : endBound < i64Max := by
      have aligned :
          endBound ≤ saturatingSub nowMs 3600000 := by
        rw [isEnd, alignDownToChunk]
        exact Int.ediv_mul_le _ positive.ne'
      unfold saturatingSub clampI64 i64Min at aligned
      unfold i64Max at *
      omega
    have chain :=
      consecutive ▸ chain_chunksFrom positive early.le _ _
    have inChunks
        {chunk : BootstrapChunk}
        (member : chunk ∈ before ++ first :: second :: later) :=
      bounds_of_mem_chunksFrom (consecutive ▸ member)
    have firstBounds := inChunks (by simp : first ∈ _)
    have secondBounds := inChunks (by simp : second ∈ _)
    exact
      ⟨(List.isChain_append_cons_cons.mp chain).2.1, firstBounds.1,
        secondBounds.1, secondBounds.2.trans_lt early⟩

end Chunks

end MarketIngest.Supervisor

namespace MarketIngest.Backfill

open Build Normalize Paging Storage Supervisor

variable
  {Number : Type}
  [NumberFormat Number]
  {codec : Codec Number}
  {payloadJson : BinanceMarket → AggTrade → String}
  {market : BinanceMarket}
  {tape : List AggTrade}

section Trades

/-- The payloads of the trades of a tape are decoded to their fields. -/
def ReadsBack
    (codec : Codec Number)
    (payloadJson : BinanceMarket → AggTrade → String)
    (market : BinanceMarket)
    (tape : List AggTrade) : Prop :=
  ∀ trade ∈ tape,
    ∃ value data,
      codec.fromStr (payloadJson market trade) = some value ∧
      value.get "data" = some data ∧
      data.get "p" = some (.text trade.price) ∧
      data.get "q" = some (.text trade.quantity) ∧
      data.get "m" = some (.bool trade.isBuyerMaker)

/-- Price and quantity of a trade are numbers, and positive. -/
def IsPriced (codec : Codec Number) (trade : AggTrade) : Prop :=
  ∃ price quantity,
    codec.parseF64 trade.price = some price ∧
    codec.parseF64 trade.quantity = some quantity ∧
    ¬ (price ≤ 0 ∨ quantity ≤ 0)

variable
  {runId : String}
  {nowMs : Int}
  {ordinal : Nat}
  {trade : AggTrade}

/-- What the event of a trade contributes are its price and quantity. -/
private theorem tradeOf_tradeEvent
    (readsBack : ReadsBack codec payloadJson market tape)
    (inTape : trade ∈ tape) :
    tradeOf codec
        (tradeEvent payloadJson codec.sha256Hex market runId nowMs ordinal
          trade) =
      (codec.parseF64 trade.price).bind (fun price =>
        (codec.parseF64 trade.quantity).bind (fun quantity =>
          validTrade
            (tradeEvent payloadJson codec.sha256Hex market runId nowMs
              ordinal trade)
            price quantity
            (if trade.isBuyerMaker then "sell" else "buy"))) := by
  obtain ⟨value, data, decoded, isData, price, quantity, maker⟩ :=
    readsBack trade inTape
  have payload :
      (tradeEvent payloadJson codec.sha256Hex market runId nowMs ordinal
        trade).payloadJson = payloadJson market trade :=
    rfl
  have isTrade :
      (tradeEvent payloadJson codec.sha256Hex market runId nowMs ordinal
        trade).eventType = "trade" :=
    rfl
  have atBinance :
      (tradeEvent payloadJson codec.sha256Hex market runId nowMs ordinal
        trade).venue = "binance" :=
    rfl
  rw [tradeOf, if_pos isTrade, parseTrade, payload, decoded]
  simp only [Option.bind_eq_bind, Option.bind_some, binanceData, isData,
    Option.getD_some, atBinance, parseBinanceTrade, numberField, price,
    quantity, maker, numberFromValue, JsonValue.asBool]

/-- A trade is contributed exactly if it is priced. -/
private theorem tradeOf_isSome_iff
    (readsBack : ReadsBack codec payloadJson market tape)
    (inTape : trade ∈ tape) :
    (∃ counted,
      tradeOf codec
        (tradeEvent payloadJson codec.sha256Hex market runId nowMs ordinal
          trade) = some counted) ↔
      IsPriced codec trade := by
  rw [tradeOf_tradeEvent readsBack inTape]
  simp only [Option.bind_eq_some_iff, validTrade, Option.ite_none_left_eq_some]
  constructor
  · rintro ⟨counted, price, isPrice, quantity, isQuantity, positive, _⟩
    exact ⟨price, quantity, isPrice, isQuantity, positive⟩
  · rintro ⟨price, quantity, isPrice, isQuantity, positive⟩
    exact ⟨_, price, isPrice, quantity, isQuantity, positive, rfl⟩

/-- A contributed trade has the identifier and the quantity of the trade. -/
private theorem fields_of_tradeOf
    (readsBack : ReadsBack codec payloadJson market tape)
    (inTape : trade ∈ tape)
    {counted : TradeNormalized Number}
    (contributed :
      tradeOf codec
        (tradeEvent payloadJson codec.sha256Hex market runId nowMs ordinal
          trade) = some counted) :
    counted.exchangeSequence = some (tradeId trade) ∧
      codec.parseF64 trade.quantity = some counted.quantity := by
  rw [tradeOf_tradeEvent readsBack inTape] at contributed
  simp only [Option.bind_eq_some_iff, validTrade,
    Option.ite_none_left_eq_some] at contributed
  obtain ⟨price, _, quantity, isQuantity, _, shape⟩ := contributed
  cases shape
  exact ⟨rfl, isQuantity⟩

end Trades

section Counting

/-- The slices count every trade of a range once. -/
structure CountTradesOnce
    (codec : Codec Number)
    (range : InputRange)
    (tape : List AggTrade)
    (slices : List (SliceRow Number)) : Prop where
  once :
    ((slices.flatMap (fun slice => slice.tradeEvents)).map
        (fun counted => counted.exchangeSequence)).Perm
      ((tape.filter (fun trade =>
        range.startMs ≤ tradeTime trade ∧
          tradeTime trade < range.endMs)).map
        (fun trade => some (tradeId trade)))
  quantities :
    ∀ slice ∈ slices, ∀ counted ∈ slice.tradeEvents,
      ∃ trade ∈ tape,
        counted.exchangeSequence = some (tradeId trade) ∧
          codec.parseF64 trade.quantity = some counted.quantity
  tradeCount :
    ∀ slice ∈ slices, slice.tradeCount = slice.tradeEvents.length
  tradeVolume :
    ∀ slice ∈ slices,
      ∃ order : List (TradeNormalized Number),
        order.Perm slice.tradeEvents ∧
          slice.tradeVolume =
            sumOf (order.map (fun counted => counted.quantity))

/-- Builds over events and any other rows count every trade once. -/
def TradesCountedOnce
    (codec : Codec Number)
    (args : NormalizeArgs)
    (range : InputRange)
    (tape : List AggTrade)
    (events : List RawInputEvent) : Prop :=
  ∀ (rows : List InputRow) (metadata : BuildInputMetadata),
    (rows.filterMap InputRow.rawEvent?).Perm events →
    CountTradesOnce codec range tape
      (ingestRows codec args
        (BuildAccumulator.new args range (scanRangeOf args range) metadata)
        rows).finish.slices

/-- Number and clock reading agree just for the trades that both runs take. -/
def StampsAgree
    (tape : List AggTrade)
    (firstRun secondRun : SymbolRun) : Prop :=
  ∀ one ∈ firstRun.stamps tape, ∀ other ∈ secondRun.stamps tape,
    (one.2 = other.2 ∧
        firstRun.clockAt one.2 = secondRun.clockAt other.2 ↔
      one.1 = other.1)

/-- The trades of a range have positive times, prices and quantities. -/
def TradesValid
    (codec : Codec Number)
    (range : InputRange)
    (tape : List AggTrade) : Prop :=
  ∀ trade ∈ tape,
    range.startMs ≤ tradeTime trade →
    tradeTime trade < range.endMs →
    0 < tradeTime trade ∧ IsPriced codec trade

/-- The range of both chunks. -/
def bothChunks (first second : BootstrapChunk) : InputRange where
  startMs := first.startMs
  endMs := second.endMs

/-- Two runs backfill chunks that meet, and a build covers both chunks. -/
structure AdjacentRuns
    (codec : Codec Number)
    (args : NormalizeArgs)
    (payloadJson : BinanceMarket → AggTrade → String)
    (market : BinanceMarket)
    (tape : List AggTrade)
    (first second : BootstrapChunk)
    (firstRun secondRun : SymbolRun) : Prop where
  isTape : IsTape tradeId tradeTime tape
  readsBack : ReadsBack codec payloadJson market tape
  meets : first.endMs = second.startMs
  firstNonempty : first.startMs < first.endMs
  secondNonempty : second.startMs < second.endMs
  representable : second.endMs < i64Max
  accepted :
    ∃ interval,
      validateRange (bothChunks first second).startMs
        (bothChunks first second).endMs args.windowMs interval = .ok ()
  backfillsFirst : firstRun.Backfills payloadJson market tape first
  backfillsSecond : secondRun.Backfills payloadJson market tape second

variable
  {args : NormalizeArgs}
  {first second : BootstrapChunk}
  {firstRun secondRun : SymbolRun}

/-- The events of both runs. -/
def bothEvents
    (sha256Hex : String → String)
    (firstRun secondRun : SymbolRun) : List RawInputEvent :=
  firstRun.events sha256Hex ++ secondRun.events sha256Hex

namespace AdjacentRuns

variable
  (adjacent :
    AdjacentRuns codec args payloadJson market tape first second firstRun
      secondRun)

include adjacent

omit [NumberFormat Number] in
/-- The events are those of trades, and not after the last chunk. -/
private theorem event_cases
    {event : RawInputEvent}
    (member : event ∈ bothEvents codec.sha256Hex firstRun secondRun) :
    ∃ runId nowMs ordinal,
      ∃ trade ∈ tape,
        first.startMs ≤ tradeTime trade ∧
          tradeTime trade ≤ second.endMs ∧
          event =
            tradeEvent payloadJson codec.sha256Hex market runId nowMs
              ordinal trade := by
  have meets := adjacent.meets
  have firstNonempty := adjacent.firstNonempty
  have secondNonempty := adjacent.secondNonempty
  rcases List.mem_append.mp member with inFirst | inSecond
  · rw [adjacent.backfillsFirst.events_eq adjacent.isTape] at inFirst
    obtain ⟨stamp, stamped, rfl⟩ := List.mem_map.mp inFirst
    obtain ⟨inTape, started, notOver⟩ :=
      adjacent.backfillsFirst.mem_stamps stamped
    exact ⟨_, _, _, stamp.1, inTape, started, by omega, rfl⟩
  · rw [adjacent.backfillsSecond.events_eq adjacent.isTape] at inSecond
    obtain ⟨stamp, stamped, rfl⟩ := List.mem_map.mp inSecond
    obtain ⟨inTape, started, notOver⟩ :=
      adjacent.backfillsSecond.mem_stamps stamped
    exact ⟨_, _, _, stamp.1, inTape, by omega, notOver, rfl⟩

omit [NumberFormat Number] in
/-- Every trade of the range has an event. -/
private theorem exists_event
    {trade : AggTrade}
    (inTape : trade ∈ tape)
    (started : first.startMs ≤ tradeTime trade)
    (notOver : tradeTime trade ≤ second.endMs) :
    ∃ runId nowMs ordinal,
      tradeEvent payloadJson codec.sha256Hex market runId nowMs ordinal
          trade ∈
        bothEvents codec.sha256Hex firstRun secondRun := by
  have meets := adjacent.meets
  unfold bothEvents
  rw [adjacent.backfillsFirst.events_eq adjacent.isTape,
    adjacent.backfillsSecond.events_eq adjacent.isTape]
  by_cases early : tradeTime trade ≤ first.endMs
  · obtain ⟨stamp, stamped, rfl⟩ :=
      adjacent.backfillsFirst.exists_stamp inTape started early
    exact ⟨_, _, _,
      List.mem_append_left _ (List.mem_map_of_mem stamped)⟩
  · obtain ⟨stamp, stamped, rfl⟩ :=
      adjacent.backfillsSecond.exists_stamp inTape (by omega) notOver
    exact ⟨_, _, _,
      List.mem_append_right _ (List.mem_map_of_mem stamped)⟩

omit [NumberFormat Number] in
/-- An event of a trade is readable if its time is positive. -/
private theorem isReadable_tradeEvent
    {runId : String}
    {nowMs : Int}
    {ordinal : Nat}
    {trade : AggTrade}
    (notOver : tradeTime trade ≤ second.endMs) :
    isReadable codec args (scanRangeOf args (bothChunks first second))
        (.rawEvent
          (tradeEvent payloadJson codec.sha256Hex market runId nowMs ordinal
            trade)) =
      decide (0 < tradeTime trade) := by
  have written :
      SinkWritten codec
        (.rawEvent
          (tradeEvent payloadJson codec.sha256Hex market runId nowMs ordinal
            trade)) :=
    ⟨.raw (fullTradeDraft payloadJson market trade nowMs), runId, ordinal,
      rfl⟩
  have early := adjacent.representable
  have margin := args.scanMarginMs.2.1
  have skew := args.clockSkewMarginMs.2.1
  have inTime :
      tradeTime trade <
        saturatingAdd
          (scanRangeOf args (bothChunks first second)).endMs
          args.clockSkewMarginMs := by
    simp only [scanRangeOf, bothChunks, saturatingAdd, clampI64]
    omega
  rw [written.isReadable_eq]
  change timeValid args _ _ = _
  unfold timeValid
  change (decide (0 < tradeTime trade) && decide (tradeTime trade < _)) = _
  rw [decide_eq_true inTime, Bool.and_true]

/-- With valid trades all events are readable. -/
private theorem readableEvents_eq
    (valid : TradesValid codec (bothChunks first second) tape)
    {rows : List InputRow}
    (permuted :
      (rows.filterMap InputRow.rawEvent?).Perm
        (bothEvents codec.sha256Hex firstRun secondRun)) :
    readableEvents codec args (scanRangeOf args (bothChunks first second))
        rows =
      rows.filterMap InputRow.rawEvent? := by
  rw [readableEvents, List.filterMap_filter]
  apply List.filterMap_congr
  intro row member
  cases row with
  | rawEvent event =>
      have among : event ∈ rows.filterMap InputRow.rawEvent? :=
        List.mem_filterMap.mpr ⟨_, member, rfl⟩
      obtain ⟨runId, nowMs, ordinal, trade, inTape, started, notOver, rfl⟩ :=
        adjacent.event_cases (permuted.mem_iff.mp among)
      have positive : 0 < tradeTime trade := by
        by_cases inside : tradeTime trade < second.endMs
        · exact (valid trade inTape started inside).1
        · have meets := adjacent.meets
          have firstNonempty := adjacent.firstNonempty
          have secondNonempty := adjacent.secondNonempty
          obtain ⟨interval, accepted⟩ := adjacent.accepted
          have nonneg : 0 ≤ first.startMs :=
            (windowAligned_of_validateRange args.windowMs.2.1 accepted).1
          omega
      rw [adjacent.isReadable_tradeEvent notOver, decide_eq_true positive,
        if_pos rfl]
  | _ =>
      split <;> rfl

/-- The trades that a build counts, by their identifiers. -/
private theorem counted_perm
    (valid : TradesValid codec (bothChunks first second) tape)
    {rows : List InputRow}
    (permuted :
      (rows.filterMap InputRow.rawEvent?).Perm
        (bothEvents codec.sha256Hex firstRun secondRun))
    (metadata : BuildInputMetadata) :
    (((ingestRows codec args
          (BuildAccumulator.new args (bothChunks first second)
            (scanRangeOf args (bothChunks first second)) metadata)
          rows).finish.slices.flatMap
          (fun slice => slice.tradeEvents)).map
        (fun counted => counted.exchangeSequence)).Perm
      (((firsts (fun event => event.eventId)
          (rows.filterMap InputRow.rawEvent?)).filter
          (inRange (bothChunks first second))).map
        (fun event => event.exchangeSequence)) := by
  obtain ⟨interval, accepted⟩ := adjacent.accepted
  have representable : (bothChunks first second).endMs ≤ i64Max :=
    adjacent.representable.le
  have holds :
      BuildHolds codec args (scanRangeOf args (bothChunks first second))
        (bothChunks first second) rows _ :=
    buildHolds_ingestRows metadata rows
  have trades := sliceTrades_perm accepted representable holds
  refine (trades.map _).trans (.of_eq ?_)
  rw [rangeEvents, freshEvents, adjacent.readableEvents_eq valid permuted]
  set fresh :=
    firsts (fun event : RawInputEvent => event.eventId)
      (rows.filterMap InputRow.rawEvent?) with isFresh
  have cases {event : RawInputEvent} (member : event ∈ fresh) :=
    adjacent.event_cases (permuted.mem_iff.mp (mem_of_mem_firsts member))
  -- Events of trades are no derivative metrics.
  have sameEvents :
      fresh.filter (isSliceEvent (bothChunks first second)) =
        fresh.filter (inRange (bothChunks first second)) := by
    apply List.filter_congr
    intro event member
    obtain ⟨runId, nowMs, ordinal, trade, -, -, -, rfl⟩ := cases member
    rfl
  rw [sameEvents, List.map_filterMap]
  apply List.filterMap_eq_map_iff_forall_eq_some.mpr
  intro event member
  obtain ⟨isFresh, within⟩ := List.mem_filter.mp member
  obtain ⟨runId, nowMs, ordinal, trade, inTape, started, notOver, rfl⟩ :=
    cases isFresh
  simp only [inRange, Bool.and_eq_true, decide_eq_true_eq] at within
  have priced := (valid trade inTape started within.2).2
  obtain ⟨counted, contributed⟩ :=
    (tradeOf_isSome_iff adjacent.readsBack inTape).mpr priced
  rw [contributed, Option.map_some,
    (fields_of_tradeOf adjacent.readsBack inTape contributed).1]
  rfl

end AdjacentRuns

/-- Identifiers of trades agree exactly if number and reading agree. -/
private theorem eventId_eq_iff_stamps
    {firstRunId secondRunId : String}
    {firstNow secondNow : Int}
    {firstOrdinal secondOrdinal : Nat}
    {one other : AggTrade}
    {sha256Hex : String → String} :
    (tradeEvent payloadJson sha256Hex market firstRunId firstNow
        firstOrdinal one).eventId =
        (tradeEvent payloadJson sha256Hex market secondRunId secondNow
          secondOrdinal other).eventId ↔
      firstOrdinal = secondOrdinal ∧ firstNow = secondNow := by
  refine (@eventId_eq_iff sha256Hex firstRunId secondRunId
    (firstOrdinal, fullTradeDraft payloadJson market one firstNow)
    (secondOrdinal, fullTradeDraft payloadJson market other
      secondNow)).trans ?_
  simp [Meet, fullTradeDraft]

/-- The event of a trade lies in a range exactly if the trade does. -/
private theorem inRange_tradeEvent
    {runId : String}
    {nowMs : Int}
    {ordinal : Nat}
    {trade : AggTrade}
    {sha256Hex : String → String}
    (range : InputRange) :
    inRange range
        (tradeEvent payloadJson sha256Hex market runId nowMs ordinal
          trade) =
      decide
        (range.startMs ≤ tradeTime trade ∧
          tradeTime trade < range.endMs) := by
  rw [Bool.decide_and]
  rfl

/-- Trades of a tape with one identifier are the same. -/
private theorem eq_of_tradeId
    (isTape : IsTape tradeId tradeTime tape)
    {one other : AggTrade}
    (oneInTape : one ∈ tape)
    (otherInTape : other ∈ tape)
    (sameId : tradeId one = tradeId other) :
    one = other := by
  have distinct : (tape.map tradeId).Nodup :=
    List.pairwise_map.mpr (isTape.numbers.imp (fun below => below.ne))
  exact List.inj_on_of_nodup_map distinct oneInTape otherInTape sameId

/-- A tape has no trade twice. -/
private theorem tape_nodup
    (isTape : IsTape tradeId tradeTime tape) :
    tape.Nodup :=
  isTape.numbers.imp (fun below same => below.ne (congrArg tradeId same))

/-- The events of a run have different identifiers. -/
private theorem eventIds_of_run
    {run : SymbolRun}
    {chunk : BootstrapChunk}
    (isTape : IsTape tradeId tradeTime tape)
    (backfills : run.Backfills payloadJson market tape chunk)
    (sha256Hex : String → String) :
    ((run.events sha256Hex).map (fun event => event.eventId)).Nodup := by
  have numbers : ((run.stamps tape).map Prod.snd).Nodup := by
    rw [SymbolRun.stamps, List.zipIdx_map_snd]
    exact List.nodup_range'
  rw [backfills.events_eq isTape, List.map_map]
  refine List.Nodup.map_on ?_ numbers.of_map
  intro one oneMember other otherMember sameId
  exact List.inj_on_of_nodup_map numbers oneMember otherMember
    (eventId_eq_iff_stamps.mp sameId).1

/-- The events of a run are those of different trades. -/
private theorem exchangeSequences_of_run
    {run : SymbolRun}
    {chunk : BootstrapChunk}
    (isTape : IsTape tradeId tradeTime tape)
    (backfills : run.Backfills payloadJson market tape chunk)
    (sha256Hex : String → String) :
    ((run.events sha256Hex).map
      (fun event => event.exchangeSequence)).Nodup := by
  have trades : ((run.stamps tape).map Prod.fst).Nodup := by
    rw [SymbolRun.stamps, List.zipIdx_map_fst]
    exact (tape_nodup isTape).filter _
  rw [backfills.events_eq isTape, List.map_map]
  refine List.Nodup.map_on ?_ trades.of_map
  intro one oneMember other otherMember sameSequence
  exact List.inj_on_of_nodup_map trades oneMember otherMember
    (eq_of_tradeId isTape (backfills.mem_stamps oneMember).1
      (backfills.mem_stamps otherMember).1 (Option.some.inj sameSequence))

namespace AdjacentRuns

variable
  (adjacent :
    AdjacentRuns codec args payloadJson market tape first second firstRun
      secondRun)

include adjacent

omit [NumberFormat Number] in
/-- The two runs are sources of the trades of the range. -/
private theorem sources :
    Sources (fun event => event.eventId)
      (fun event => event.exchangeSequence)
      (inRange (bothChunks first second))
      (firstRun.events codec.sha256Hex) (secondRun.events codec.sha256Hex)
      ((tape.filter (fun trade =>
        (bothChunks first second).startMs ≤ tradeTime trade ∧
          tradeTime trade < (bothChunks first second).endMs)).map
        (fun trade => some (tradeId trade))) where
  firstIds :=
    eventIds_of_run adjacent.isTape adjacent.backfillsFirst _
  secondIds :=
    eventIds_of_run adjacent.isTape adjacent.backfillsSecond _
  firstNames :=
    exchangeSequences_of_run adjacent.isTape adjacent.backfillsFirst _
  secondNames :=
    exchangeSequences_of_run adjacent.isTape adjacent.backfillsSecond _
  sameWanted := by
    intro one oneMember other otherMember sameSequence
    obtain ⟨_, _, _, oneTrade, oneInTape, -, -, rfl⟩ :=
      adjacent.event_cases oneMember
    obtain ⟨_, _, _, otherTrade, otherInTape, -, -, rfl⟩ :=
      adjacent.event_cases otherMember
    have same :=
      eq_of_tradeId adjacent.isTape oneInTape otherInTape
        (Option.some.inj sameSequence)
    rw [same]
    rfl
  distinct := by
    refine List.Nodup.map_on ?_ ((tape_nodup adjacent.isTape).filter _)
    intro one oneMember other otherMember sameId
    exact eq_of_tradeId adjacent.isTape (List.mem_filter.mp oneMember).1
      (List.mem_filter.mp otherMember).1 (Option.some.inj sameId)
  covers := by
    intro name
    rw [List.mem_map]
    constructor
    · rintro ⟨trade, member, rfl⟩
      obtain ⟨inTape, within⟩ := List.mem_filter.mp member
      rw [decide_eq_true_eq] at within
      obtain ⟨runId, nowMs, ordinal, isEvent⟩ :=
        adjacent.exists_event inTape within.1 within.2.le
      refine ⟨_, isEvent, ?_, rfl⟩
      rw [inRange_tradeEvent, decide_eq_true within]
    · rintro ⟨event, member, within, rfl⟩
      obtain ⟨_, _, _, trade, inTape, -, -, rfl⟩ :=
        adjacent.event_cases member
      rw [inRange_tradeEvent] at within
      exact ⟨trade, List.mem_filter.mpr ⟨inTape, within⟩, rfl⟩

omit [NumberFormat Number] in
/-- Identifiers and trades agree exactly if the stamps do. -/
private theorem agree_iff_stampsAgree :
    Agree (fun event => event.eventId)
        (fun event => event.exchangeSequence)
        (inRange (bothChunks first second))
        (firstRun.events codec.sha256Hex)
        (secondRun.events codec.sha256Hex) ↔
      StampsAgree tape firstRun secondRun := by
  have meets := adjacent.meets
  have secondNonempty := adjacent.secondNonempty
  unfold Agree StampsAgree
  rw [adjacent.backfillsFirst.events_eq adjacent.isTape,
    adjacent.backfillsSecond.events_eq adjacent.isTape]
  simp only [List.forall_mem_map]
  refine forall₂_congr (fun one oneMember => ?_)
  refine forall₂_congr (fun other otherMember => ?_)
  obtain ⟨oneInTape, started, notOver⟩ :=
    adjacent.backfillsFirst.mem_stamps oneMember
  obtain ⟨otherInTape, -, -⟩ :=
    adjacent.backfillsSecond.mem_stamps otherMember
  -- The trades of the first run are all before the end of the range.
  have within :
      inRange (bothChunks first second)
          (firstRun.eventOf payloadJson codec.sha256Hex market one) =
        true := by
    have inside :
        (bothChunks first second).startMs ≤ tradeTime one.1 ∧
          tradeTime one.1 < (bothChunks first second).endMs := by
      simp only [bothChunks]
      omega
    rw [SymbolRun.eventOf, inRange_tradeEvent, decide_eq_true inside]
  have names :
      (firstRun.eventOf payloadJson codec.sha256Hex market
          one).exchangeSequence =
          (secondRun.eventOf payloadJson codec.sha256Hex market
            other).exchangeSequence ↔
        one.1 = other.1 := by
    constructor
    · intro sameSequence
      exact eq_of_tradeId adjacent.isTape oneInTape otherInTape
        (Option.some.inj sameSequence)
    · intro sameTrade
      exact congrArg (fun trade => some (tradeId trade)) sameTrade
  rw [names]
  simp only [within, true_or, forall_const]
  exact iff_congr eventId_eq_iff_stamps Iff.rfl

/-- Counting of slices is right but for which trades there are. -/
private theorem countTradesOnce_of_once
    {rows : List InputRow}
    (permuted :
      (rows.filterMap InputRow.rawEvent?).Perm
        (bothEvents codec.sha256Hex firstRun secondRun))
    {accumulator : BuildAccumulator Number}
    (holds :
      BuildHolds codec args (scanRangeOf args (bothChunks first second))
        (bothChunks first second) rows accumulator)
    (once :
      ((accumulator.finish.slices.flatMap
          (fun slice => slice.tradeEvents)).map
          (fun counted => counted.exchangeSequence)).Perm
        ((tape.filter (fun trade =>
          (bothChunks first second).startMs ≤ tradeTime trade ∧
            tradeTime trade < (bothChunks first second).endMs)).map
          (fun trade => some (tradeId trade)))) :
    CountTradesOnce codec (bothChunks first second) tape
      accumulator.finish.slices where
  once := once
  quantities := by
    intro slice member counted inSlice
    obtain ⟨interval, accepted⟩ := adjacent.accepted
    have representable : (bothChunks first second).endMs ≤ i64Max :=
      adjacent.representable.le
    have inRange :=
      (sliceTrades_perm accepted representable holds).mem_iff.mp
        (List.mem_flatMap.mpr ⟨slice, member, inSlice⟩)
    obtain ⟨event, isEvent, contributed⟩ := List.mem_filterMap.mp inRange
    have isRead :=
      mem_of_mem_readableEvents
        (mem_of_mem_firsts (List.mem_filter.mp isEvent).1)
    obtain ⟨_, _, _, trade, inTape, -, -, rfl⟩ :=
      adjacent.event_cases (permuted.mem_iff.mp isRead)
    exact ⟨trade, inTape,
      fields_of_tradeOf adjacent.readsBack inTape contributed⟩
  tradeCount := fun slice member =>
    (rowAccounts_of_mem_finish holds member).tradeCount
  tradeVolume := fun slice member =>
    ⟨_, (rowAccounts_of_mem_finish holds member).tradeEvents.symm,
      (rowAccounts_of_mem_finish holds member).tradeVolume⟩

/-- Counted trades are valid. -/
private theorem tradesValid_of_countedOnce
    (counted :
      TradesCountedOnce codec args (bothChunks first second) tape
        (bothEvents codec.sha256Hex firstRun secondRun)) :
    TradesValid codec (bothChunks first second) tape := by
  intro trade inTape started inside
  let rows : List InputRow :=
    (bothEvents codec.sha256Hex firstRun secondRun).map .rawEvent
  have permuted :
      (rows.filterMap InputRow.rawEvent?).Perm
        (bothEvents codec.sha256Hex firstRun secondRun) := by
    rw [List.filterMap_map]
    exact .of_eq (List.filterMap_some)
  let metadata : BuildInputMetadata := ⟨"", false, 0, 0, []⟩
  have once := (counted rows metadata permuted).once
  have holds :
      BuildHolds codec args (scanRangeOf args (bothChunks first second))
        (bothChunks first second) rows _ :=
    buildHolds_ingestRows metadata rows
  have isName :
      some (tradeId trade) ∈
        ((tape.filter (fun trade =>
          (bothChunks first second).startMs ≤ tradeTime trade ∧
            tradeTime trade < (bothChunks first second).endMs)).map
          (fun trade => some (tradeId trade))) :=
    List.mem_map.mpr
      ⟨trade, List.mem_filter.mpr ⟨inTape, by simp [started, inside]⟩, rfl⟩
  obtain ⟨normalized, inSlices, isTrade⟩ :=
    List.mem_map.mp (once.mem_iff.mpr isName)
  obtain ⟨interval, accepted⟩ := adjacent.accepted
  have representable : (bothChunks first second).endMs ≤ i64Max :=
    adjacent.representable.le
  obtain ⟨event, isEvent, contributed⟩ :=
    List.mem_filterMap.mp
      ((sliceTrades_perm accepted representable holds).mem_iff.mp inSlices)
  have isReadableEvent :=
    mem_of_mem_firsts (List.mem_filter.mp isEvent).1
  obtain ⟨row, isRow, ofRow⟩ := List.mem_filterMap.mp isReadableEvent
  obtain ⟨inRows, readable⟩ := List.mem_filter.mp isRow
  obtain ⟨_, _, _, found, foundInTape, -, notOver, rfl⟩ :=
    adjacent.event_cases
      (permuted.mem_iff.mp (mem_of_mem_readableEvents isReadableEvent))
  have same : found = trade := by
    apply eq_of_tradeId adjacent.isTape foundInTape inTape
    rw [(fields_of_tradeOf adjacent.readsBack foundInTape
      contributed).1] at isTrade
    exact Option.some.inj isTrade
  subst same
  cases row with
  | rawEvent event =>
      cases ofRow
      rw [adjacent.isReadable_tradeEvent notOver] at readable
      exact ⟨of_decide_eq_true readable,
        (tradeOf_isSome_iff adjacent.readsBack inTape).mp
          ⟨normalized, contributed⟩⟩
  | _ =>
      cases ofRow

/-- What it takes that every trade is counted once. -/
private theorem tradesCountedOnce_iff :
    TradesCountedOnce codec args (bothChunks first second) tape
        (bothEvents codec.sha256Hex firstRun secondRun) ↔
      TradesValid codec (bothChunks first second) tape ∧
        StampsAgree tape firstRun secondRun := by
  have keepsOnce :=
    (keepsOnce_iff adjacent.sources).trans adjacent.agree_iff_stampsAgree
  constructor
  · intro counted
    have valid := adjacent.tradesValid_of_countedOnce counted
    refine ⟨valid, keepsOnce.mp ?_⟩
    intro order permuted
    have sameEvents :
        (order.map InputRow.rawEvent).filterMap InputRow.rawEvent? =
          order := by
      rw [List.filterMap_map]
      exact List.filterMap_some
    have read :
        ((order.map InputRow.rawEvent).filterMap
          InputRow.rawEvent?).Perm
          (bothEvents codec.sha256Hex firstRun secondRun) := by
      rw [sameEvents]
      exact permuted.symm
    have once := (counted _ ⟨"", false, 0, 0, []⟩ read).once
    have kept :=
      adjacent.counted_perm valid read ⟨"", false, 0, 0, []⟩
    rw [sameEvents] at kept
    exact kept.symm.trans once
  · rintro ⟨valid, agree⟩ rows metadata permuted
    have kept := keepsOnce.mpr agree _ permuted.symm
    exact adjacent.countTradesOnce_of_once permuted
      (buildHolds_ingestRows metadata rows)
      ((adjacent.counted_perm valid permuted metadata).trans kept)

end AdjacentRuns

/--
Two backfills of consecutive chunks and a build over both count every trade once
exactly if the trades are valid and the two records of a trade between the
chunks get the same number at the same reading of the clock, and records of
different trades do not.
-/
theorem consecutiveChunks_countOnce_iff
    (codec : Codec Number)
    (args : NormalizeArgs)
    (interval : Int)
    (payloadJson : BinanceMarket → AggTrade → String)
    (market : BinanceMarket)
    (tape : List AggTrade)
    (isTape : IsTape tradeId tradeTime tape)
    (readsBack : ReadsBack codec payloadJson market tape)
    (lookbackDays chunkHours nowMs : Int)
    (nowRepresentable : nowMs ≤ i64Max)
    (before later : List BootstrapChunk)
    (first second : BootstrapChunk)
    (consecutive :
      bootstrapChunks lookbackDays chunkHours nowMs =
        before ++ first :: second :: later)
    (accepted :
      validateRange first.startMs second.endMs args.windowMs interval =
        .ok ())
    (firstRun secondRun : SymbolRun)
    (backfillsFirst : firstRun.Backfills payloadJson market tape first)
    (backfillsSecond : secondRun.Backfills payloadJson market tape second) :
    TradesCountedOnce codec args (bothChunks first second) tape
        (bothEvents codec.sha256Hex firstRun secondRun) ↔
      TradesValid codec (bothChunks first second) tape ∧
        StampsAgree tape firstRun secondRun := by
  obtain ⟨meets, firstNonempty, secondNonempty, representable⟩ :=
    consecutive_chunks nowRepresentable consecutive
  have adjacent :
      AdjacentRuns codec args payloadJson market tape first second firstRun
        secondRun :=
    { isTape := isTape
      readsBack := readsBack
      meets := meets
      firstNonempty := firstNonempty
      secondNonempty := secondNonempty
      representable := representable
      accepted := ⟨interval, accepted⟩
      backfillsFirst := backfillsFirst
      backfillsSecond := backfillsSecond }
  exact adjacent.tradesCountedOnce_iff

end Counting

section Sample

/-- The market of BTC. -/
def btcMarket : BinanceMarket where
  rawSymbol := "BTCUSDT"
  baseAsset := "BTC"
  quoteAsset := "USDT"

/-- A trade of BTC. -/
def chunkTrade (aggregateTradeId tradeTimestampMs : Int) : AggTrade where
  aggregateTradeId := aggregateTradeId
  price := "100.5"
  quantity := "2"
  firstTradeId := aggregateTradeId
  lastTradeId := aggregateTradeId
  tradeTimestampMs := tradeTimestampMs
  isBuyerMaker := false
  isBestMatch := true

/-- The payload of a trade as text. -/
def payloadText (market : BinanceMarket) (trade : AggTrade) : String :=
  "\x7b\"data\":\x7b\"E\":" ++ toString trade.tradeTimestampMs ++
    ",\"M\":" ++ toString trade.isBestMatch ++
    ",\"T\":" ++ toString trade.tradeTimestampMs ++
    ",\"a\":" ++ toString trade.aggregateTradeId ++
    ",\"e\":\"trade\",\"f\":" ++ toString trade.firstTradeId ++
    ",\"l\":" ++ toString trade.lastTradeId ++
    ",\"m\":" ++ toString trade.isBuyerMaker ++
    ",\"p\":\"" ++ trade.price ++ "\",\"q\":\"" ++ trade.quantity ++
    "\",\"s\":\"" ++ market.rawSymbol ++
    "\",\"source\":\"aggTrades\"\x7d\x7d"

/-- The decoded payload of a trade. -/
def payloadValue
    (market : BinanceMarket)
    (trade : AggTrade) : JsonValue ℚ :=
  .object
    [("data", .object
      [("E", .number trade.tradeTimestampMs),
        ("M", .bool trade.isBestMatch),
        ("T", .number trade.tradeTimestampMs),
        ("a", .number trade.aggregateTradeId),
        ("e", .text "trade"),
        ("f", .number trade.firstTradeId),
        ("l", .number trade.lastTradeId),
        ("m", .bool trade.isBuyerMaker),
        ("p", .text trade.price),
        ("q", .text trade.quantity),
        ("s", .text market.rawSymbol),
        ("source", .text "aggTrades")])]

/-- The hashes of the payloads of the example trades. -/
def payloadHashes : List (String × String) :=
  [(payloadText btcMarket (chunkTrade 7 129600000),
      "0804737442c0c749cf4f5ebd136f4ed2b112e56302a9d2902575f6f488728219"),
    (payloadText btcMarket (chunkTrade 7 86401000),
      "a1bc00a5dfa51f09eae59aa36cf0d93a4aabdbfcc1e46d069e5516dba4b51c35"),
    (payloadText btcMarket (chunkTrade 8 129600001),
      "975ef78b8d607e85bbe5c3c2149b954a0892f62a2a9ffae6a0db697bcc39b48f")]

/-- Decoding of the payloads of some trades, in exact arithmetic. -/
def tapeCodec (tape : List AggTrade) : Codec ℚ where
  sha256Hex := fun text => (payloadHashes.lookup text).getD ""
  fromStr := fun text =>
    (tape.find? (fun trade => payloadText btcMarket trade = text)).map
      (payloadValue btcMarket)
  parseF64 := fun text =>
    if text = "100.5" then some (201 / 2)
    else if text = "2" then some 2
    else none

/-- Trades of BTC at one price are read back. -/
private theorem chunkTrades_readBack
    (ids : List (Int × Int)) :
    ReadsBack
      (tapeCodec (ids.map (fun entry => chunkTrade entry.1 entry.2)))
      payloadText btcMarket
      (ids.map (fun entry => chunkTrade entry.1 entry.2)) := by
  intro trade inTape
  have isKnown :
      ((ids.map (fun entry => chunkTrade entry.1 entry.2)).find?
        (fun known =>
          payloadText btcMarket known =
            payloadText btcMarket trade)).isSome := by
    rw [List.find?_isSome]
    exact ⟨trade, inTape, by simp⟩
  obtain ⟨known, isFound⟩ := Option.isSome_iff_exists.mp isKnown
  obtain ⟨entry, _, rfl⟩ := List.mem_map.mp inTape
  obtain ⟨other, _, rfl⟩ :=
    List.mem_map.mp (List.mem_of_find?_eq_some isFound)
  have decoded :
      (tapeCodec (ids.map (fun entry =>
          chunkTrade entry.1 entry.2))).fromStr
          (payloadText btcMarket (chunkTrade entry.1 entry.2)) =
        some (payloadValue btcMarket (chunkTrade other.1 other.2)) :=
    congrArg (Option.map (payloadValue btcMarket)) isFound
  exact ⟨_, _, decoded, rfl, rfl, rfl, rfl⟩

/-- Trades of BTC are priced. -/
private theorem chunkTrade_isPriced
    (tape : List AggTrade)
    (aggregateTradeId tradeTimestampMs : Int) :
    IsPriced (tapeCodec tape)
      (chunkTrade aggregateTradeId tradeTimestampMs) := by
  refine ⟨201 / 2, 2, rfl, rfl, ?_⟩
  norm_num

/-- The arguments of the backfill of a chunk. -/
def chunkArgs (chunk : BootstrapChunk) : BackfillArgs where
  inputStartMs := chunk.startMs
  inputEndMs := chunk.endMs
  expectSymbolCount := 1
  symbols := some ["BTCUSDT"]
  l0S3Bucket := "market-ingest-l0"
  l0SpoolRoot := "/spool"
  l0FlushRecords := 1000
  l0ShardCount := 1

/-- Surroundings in which nothing fails and the clock stands still. -/
def calmEnvironment
    (tape : List AggTrade)
    (chunk : BootstrapChunk)
    (nowMs : Int) : BackfillEnvironment (Option TradeColumns) where
  payloads := tradePayloads payloadText
  hash := fun _ => 0
  nowSecs := nowMs / 1000
  clockAt := fun _ => nowMs
  observedAtMs := nowMs
  enabledMarkets := .ok [btcMarket]
  clientFails := false
  sinkFails := false
  tradesByTime := fun _ => some (firstPage (chunkArgs chunk) tape)
  tradesFromId := fun _ =>
    (answers tradeId binancePageLimit tape (tape.length + 1)
      (nextNumber tradeId 0 (firstPage (chunkArgs chunk) tape))).map some
  fileAt := fun _ => .uploaded
  flushFiles :=
    { raw := fun _ => .uploaded
      health := fun _ => .uploaded
      symbolHealth := fun _ => .uploaded
      gap := fun _ => .uploaded }
  manifestUploaded := true
  killedAfter := none

/-- A chunk is backfilled by a new run at a time. -/
private theorem exists_chunkRun
    {tape : List AggTrade}
    (isTape : IsTape tradeId tradeTime tape)
    (chunk : BootstrapChunk)
    (nowMs : Int) :
    ∃ run : SymbolRun,
      run.Backfills payloadText btcMarket tape chunk ∧
      (∀ ordinal, run.clockAt ordinal = nowMs) ∧
      run.stamps tape = (rangeTrades (chunkArgs chunk) tape).zipIdx 1 := by
  let environment := calmEnvironment tape chunk nowMs
  let before : BackfillState (Option TradeColumns) :=
    .start
      ⟨runConfig "market-backfill-binance-172860",
        runConfig_accepted "market-backfill-binance-172860"⟩
      environment.hash
  have total :
      (backfillSymbol environment (chunkArgs chunk) btcMarket).Total :=
    backfillSymbol_total ⟨fun _ => rfl, rfl⟩ isTape rfl rfl
  obtain ⟨report, after, returned⟩ := total before
  exact
    ⟨⟨environment, chunkArgs chunk, before, report, after⟩,
      { payloads := rfl
        inputStartMs := rfl
        inputEndMs := rfl
        exchange := ⟨rfl, _, rfl⟩
        returned := returned },
      fun _ => rfl, rfl⟩

/-- The two halves of a day are chunks of twelve hours. -/
private theorem halfDays_consecutive :
    bootstrapChunks 1 12 176400000 =
      [] ++ ⟨86400000, 129600000⟩ :: ⟨129600000, 172800000⟩ :: [] := by
  decide

/-- Trades that are not between the chunks are counted once. -/
theorem halfDays_counted_once :
    ∃ firstRun secondRun : SymbolRun,
      firstRun.Backfills payloadText btcMarket
        [chunkTrade 7 86401000, chunkTrade 8 129600001]
        ⟨86400000, 129600000⟩ ∧
      secondRun.Backfills payloadText btcMarket
        [chunkTrade 7 86401000, chunkTrade 8 129600001]
        ⟨129600000, 172800000⟩ ∧
      TradesCountedOnce
        (tapeCodec [chunkTrade 7 86401000, chunkTrade 8 129600001])
        .withDefaults ⟨86400000, 172800000⟩
        [chunkTrade 7 86401000, chunkTrade 8 129600001]
        (bothEvents
          (tapeCodec [chunkTrade 7 86401000,
            chunkTrade 8 129600001]).sha256Hex firstRun secondRun) := by
  have isTape :
      IsTape tradeId tradeTime
        [chunkTrade 7 86401000, chunkTrade 8 129600001] :=
    ⟨by decide, by decide⟩
  obtain ⟨firstRun, backfillsFirst, firstClock, firstStamps⟩ :=
    exists_chunkRun isTape ⟨86400000, 129600000⟩ 172860000
  obtain ⟨secondRun, backfillsSecond, secondClock, secondStamps⟩ :=
    exists_chunkRun isTape ⟨129600000, 172800000⟩ 172920000
  refine ⟨firstRun, secondRun, backfillsFirst, backfillsSecond, ?_⟩
  refine
    (consecutiveChunks_countOnce_iff _ .withDefaults 86400000 payloadText
      btcMarket _ isTape
      (chunkTrades_readBack [(7, 86401000), (8, 129600001)]) 1 12 176400000
      (by decide) [] [] ⟨86400000, 129600000⟩ ⟨129600000, 172800000⟩
      halfDays_consecutive (by decide) firstRun secondRun backfillsFirst
      backfillsSecond).mpr ⟨?_, ?_⟩
  · intro trade inTape started _
    refine ⟨lt_of_lt_of_le (by decide) started, ?_⟩
    obtain ⟨entry, _, rfl⟩ :=
      List.mem_map.mp
        (show trade ∈ [((7 : Int), (86401000 : Int)), (8, 129600001)].map
          (fun entry => chunkTrade entry.1 entry.2) from inTape)
    exact chunkTrade_isPriced _ _ _
  · intro one oneMember other otherMember
    rw [firstStamps] at oneMember
    rw [secondStamps] at otherMember
    have isOne : one = (chunkTrade 7 86401000, 1) :=
      List.mem_singleton.mp oneMember
    have isOther : other = (chunkTrade 8 129600001, 1) :=
      List.mem_singleton.mp otherMember
    rw [isOne, isOther, firstClock, secondClock]
    decide

/--
A trade in the millisecond between two chunks is appended by both runs, with the
same number at different times, and counted twice.
-/
theorem boundaryTrade_counted_twice :
    bootstrapChunks 1 12 176400000 =
        [] ++ ⟨86400000, 129600000⟩ :: ⟨129600000, 172800000⟩ :: [] ∧
      ∃ firstRun secondRun : SymbolRun,
        firstRun.Backfills payloadText btcMarket [chunkTrade 7 129600000]
          ⟨86400000, 129600000⟩ ∧
        secondRun.Backfills payloadText btcMarket [chunkTrade 7 129600000]
          ⟨129600000, 172800000⟩ ∧
        TradesValid (tapeCodec [chunkTrade 7 129600000])
          ⟨86400000, 172800000⟩ [chunkTrade 7 129600000] ∧
        ¬ TradesCountedOnce (tapeCodec [chunkTrade 7 129600000])
          .withDefaults ⟨86400000, 172800000⟩ [chunkTrade 7 129600000]
          (bothEvents (tapeCodec [chunkTrade 7 129600000]).sha256Hex
            firstRun secondRun) := by
  have isTape :
      IsTape tradeId tradeTime [chunkTrade 7 129600000] :=
    ⟨by decide, by decide⟩
  obtain ⟨firstRun, backfillsFirst, firstClock, firstStamps⟩ :=
    exists_chunkRun isTape ⟨86400000, 129600000⟩ 172860000
  obtain ⟨secondRun, backfillsSecond, secondClock, secondStamps⟩ :=
    exists_chunkRun isTape ⟨129600000, 172800000⟩ 172920000
  refine ⟨halfDays_consecutive, firstRun, secondRun, backfillsFirst,
    backfillsSecond, ?_, ?_⟩
  · intro trade inTape _ _
    rw [List.mem_singleton.mp inTape]
    exact ⟨by decide, chunkTrade_isPriced _ _ _⟩
  · intro counted
    have adjacent :
        AdjacentRuns (tapeCodec [chunkTrade 7 129600000]) .withDefaults
          payloadText btcMarket [chunkTrade 7 129600000]
          ⟨86400000, 129600000⟩ ⟨129600000, 172800000⟩ firstRun
          secondRun :=
      { isTape := isTape
        readsBack := chunkTrades_readBack [(7, 129600000)]
        meets := rfl
        firstNonempty := by decide
        secondNonempty := by decide
        representable := by decide
        accepted := ⟨86400000, by decide⟩
        backfillsFirst := backfillsFirst
        backfillsSecond := backfillsSecond }
    have agree := (adjacent.tradesCountedOnce_iff.mp counted).2
    have oneMember :
        (chunkTrade 7 129600000, 1) ∈
          firstRun.stamps [chunkTrade 7 129600000] := by
      rw [firstStamps]
      exact List.mem_singleton.mpr rfl
    have otherMember :
        (chunkTrade 7 129600000, 1) ∈
          secondRun.stamps [chunkTrade 7 129600000] := by
      rw [secondStamps]
      exact List.mem_singleton.mpr rfl
    have sameReading := ((agree _ oneMember _ otherMember).mpr rfl).2
    rw [firstClock, secondClock] at sameReading
    exact absurd sameReading (by decide)

end Sample

end MarketIngest.Backfill
