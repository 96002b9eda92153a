import MarketIngest.BackfillRequests
import MarketIngest.TapeEnds

namespace MarketIngest.Backfill

open Fallible Paging Storage

/-!
# What a backfill of a market is complete about

The exchange serves a tape of trades.  The backfill of a market reads the pages
of its range, appends the trades of the range once and in order, and reports
them.  The identifier after the greatest 64-bit integer is not there to be asked
for, and a page that ends at it stops the backfill with an error.
-/

variable {Payload : Type}

/-- A tape of trades that an exchange serves. -/
structure TradeTape where
  trades : List AggTrade
  isTape : IsTape tradeId tradeTime trades
  representable :
    ∀ trade ∈ trades,
      i64Min ≤ trade.aggregateTradeId ∧ trade.aggregateTradeId ≤ i64Max

namespace TradeTape

/-- What is answered from a tape. -/
def page (tape : TradeTape) : AggTradesRequest → List AggTrade
  | .byTime startMs endMs =>
      (between tradeTime startMs endMs tape.trades).take binancePageLimit
  | .fromId id => (fromNumber tradeId id tape.trades).take binancePageLimit

/-- Every page is a part of the tape. -/
theorem mem_of_mem_page
    {tape : TradeTape}
    {request : AggTradesRequest}
    {trade : AggTrade}
    (member : trade ∈ tape.page request) :
    trade ∈ tape.trades := by
  cases request with
  | byTime startMs endMs =>
      exact List.mem_of_mem_filter (List.mem_of_mem_take member)
  | fromId id =>
      exact List.mem_of_mem_filter (List.mem_of_mem_take member)

/-- The exchange that serves a tape. -/
def server (tape : TradeTape) : AggTradesServer where
  answer := fun _ request => some (tape.page request)
  representable := fun _ _ _ answered trade member =>
    tape.representable trade
      (mem_of_mem_page (Option.some.inj answered ▸ member))

end TradeTape

/-- The report of a backfill over the trades of its range. -/
def rangeReport
    (market : BinanceMarket)
    (trades : List AggTrade) : SymbolBackfillReport where
  symbolNative := market.rawSymbol
  symbolCanonical := market.baseAsset
  recordCount := trades.length
  firstEventTimeMs := trades.head?.map tradeTime
  lastEventTimeMs := trades.getLast?.map tradeTime
  gapAlertCount := if trades.isEmpty then 1 else 0
  status := if trades.isEmpty then "empty" else "ok"

/-- The call that appends the alert that a range has no trades. -/
def noTradesCall
    (environment : BackfillEnvironment Payload)
    (args : BackfillArgs)
    (market : BinanceMarket)
    (ordinal : Nat) : SinkCall Payload :=
  .appendGapAlert
    { venue := "binance"
      symbolNative := market.rawSymbol
      gapType := "historical_range_empty"
      detectedAtMs := environment.clockAt ordinal
      payload :=
        environment.payloads.emptyGap args.inputStartMs args.inputEndMs
          "no_trade_records_returned" }
    (environment.fileAt ordinal)

/-- The calls of a backfill over the trades of its range. -/
def rangeCalls
    (environment : BackfillEnvironment Payload)
    (args : BackfillArgs)
    (market : BinanceMarket)
    (next : Nat)
    (trades : List AggTrade) : List (SinkCall Payload) :=
  tradeCalls environment market next trades ++
    if trades.isEmpty then
      [noTradesCall environment args market next]
    else
      []

/-- The backfill ends, appends the trades of its range, each of them once and in
order, reports them, and raises the alert that there are none just then. -/
def CompletesRange
    (environment : BackfillEnvironment Payload)
    (args : BackfillArgs)
    (market : BinanceMarket)
    (tape : TradeTape)
    (before : BackfillState Payload) : Prop :=
  ∃ rounds after,
    (requestSymbol tape.server environment args market rounds).Returns
      (before, [])
      (some (rangeReport market (rangeTrades args tape.trades))) after ∧
    after.1.calls =
      before.calls ++
        rangeCalls environment args market before.next
          (rangeTrades args tape.trades)

/-- The last trade of a list has the greatest identifier. -/
def EndsAtGreatestId (trades : List AggTrade) : Prop :=
  trades.getLast?.map tradeId = some i64Max

/-- The pages of the backfill come to the end of the tape, and the trade there
has the greatest identifier. -/
structure ReadsGreatestId
    (args : BackfillArgs)
    (tape : TradeTape) : Prop where
  full : binancePageLimit ≤ (rangeTrades args tape.trades).length
  tapeEnds : EndsAtGreatestId tape.trades
  reached :
    (beyond tradeTime args.inputEndMs tape.trades).length ≤
      binancePageLimit -
        (rangeTrades args tape.trades).length % binancePageLimit

section Steps

variable
  {environment : BackfillEnvironment Payload}
  {args : BackfillArgs}
  {market : BinanceMarket}

/-- How a page is appended when nothing fails. -/
theorem appendPage_untroubled
    (untroubled : Untroubled environment)
    (args : BackfillArgs)
    (market : BinanceMarket)
    (page : List AggTrade)
    (report : SymbolBackfillReport)
    (before : BackfillState Payload) :
    ∃ after,
      (appendPage environment args market page report).Returns before
        (passes tradeTime args.inputEndMs page,
          observeAll report
            (taken tradeTime args.inputStartMs args.inputEndMs page))
        after ∧
      Appends environment market
        (taken tradeTime args.inputStartMs args.inputEndMs page)
        before after := by
  obtain ⟨⟨stop, appended⟩, after, returned⟩ :=
    appendPage_total untroubled page report before
  obtain ⟨stops, counted, appends⟩ := appendPage_returns returned
  subst stops counted
  exact ⟨after, returned, appends⟩

/-- How the alert that a range has no trades is appended. -/
theorem appendNoTradeGap_untroubled
    (untroubled : Untroubled environment)
    (args : BackfillArgs)
    (market : BinanceMarket)
    (report : SymbolBackfillReport)
    (before : BackfillState Payload) :
    ∃ after,
      (appendNoTradeGap environment args market report).Returns before
        report.noteGap after ∧
      after.calls =
        before.calls ++ [noTradesCall environment args market before.next] := by
  obtain ⟨noted, after, returned⟩ :=
    appendNoTradeGap_total untroubled report before
  obtain ⟨ordinal, _, read, rest⟩ := returns_bind.mp returned
  cases read
  obtain ⟨_, between, called, finished⟩ := returns_bind.mp rest
  obtain ⟨rfl, rfl⟩ := returns_pure.mp finished
  refine ⟨between, returned, ?_⟩
  rw [(makeCall_returns called).1]
  rfl

end Steps

section Loop

variable
  {environment : BackfillEnvironment Payload}
  {args : BackfillArgs}
  {market : BinanceMarket}
  {tape : TradeTape}

/-- After the greatest identifier the least one follows. -/
theorem nextCandidate_of_endsAtGreatestId
    {page : List AggTrade}
    (greatest : EndsAtGreatestId page)
    (nextFromId : Int) :
    nextCandidate nextFromId page = i64Min := by
  obtain ⟨last, isLast, isGreatest⟩ := Option.map_eq_some_iff.mp greatest
  rw [nextCandidate, isLast]
  change wrappingAdd (tradeId last) 1 = i64Min
  rw [isGreatest, wrappingAdd_i64Max]

/-- After any other identifier the next one follows. -/
theorem nextCandidate_eq_nextNumber
    {page : List AggTrade}
    (representable :
      ∀ trade ∈ page,
        i64Min ≤ trade.aggregateTradeId ∧ trade.aggregateTradeId ≤ i64Max)
    (notGreatest : ¬ EndsAtGreatestId page)
    (nextFromId : Int) :
    nextCandidate nextFromId page = nextNumber tradeId nextFromId page := by
  cases isLast : page.getLast? with
  | none =>
      rw [nextCandidate, nextNumber, isLast]
      rfl
  | some last =>
      obtain ⟨lower, upper⟩ :=
        representable last (List.mem_of_getLast? isLast)
      have smaller : last.aggregateTradeId < i64Max := by
        refine lt_of_le_of_ne upper (fun same => notGreatest ?_)
        rw [EndsAtGreatestId, isLast, Option.map_some, tradeId, same]
      rw [nextCandidate, nextNumber, isLast, Option.map_some,
        Option.map_some, Option.getD_some, Option.getD_some,
        wrappingAdd_one lower smaller]
      rfl

/-- A page that is not the last one of the tape does not end at the greatest
identifier. -/
theorem not_endsAtGreatestId_take
    {items : List AggTrade}
    (ascending :
      items.Pairwise (fun one other => tradeId one < tradeId other))
    (representable : ∀ trade ∈ items, tradeId trade ≤ i64Max)
    {count : Nat}
    (more : count < items.length) :
    ¬ EndsAtGreatestId (items.take count) := by
  intro greatest
  obtain ⟨last, isLast, isGreatest⟩ := Option.map_eq_some_iff.mp greatest
  have someBehind : items.drop count ≠ [] := by
    rw [Ne, List.drop_eq_nil_iff]
    omega
  obtain ⟨later, isLater⟩ := List.exists_mem_of_ne_nil _ someBehind
  have split := List.take_append_drop count items
  rw [← split] at ascending
  have larger :=
    (List.pairwise_append.mp ascending).2.2 last
      (List.mem_of_getLast? isLast) later isLater
  have := representable later (List.mem_of_mem_drop isLater)
  omega

/-- The rest of a tape is a tape. -/
theorem rest_facts
    {nextFromId : Int}
    {items : List AggTrade}
    (isRest : fromNumber tradeId nextFromId tape.trades = items) :
    IsTape tradeId tradeTime items ∧
      ∀ trade ∈ items, tradeId trade ≤ i64Max := by
  subst isRest
  refine
    ⟨⟨tape.isTape.numbers.filter _, tape.isTape.times.filter _⟩, ?_⟩
  intro trade member
  exact (tape.representable trade (List.mem_of_mem_filter member)).2

/-- The page goes on with the items behind it. -/
structure GoesOn
    (tape : TradeTape)
    (nextFromId : Int)
    (items : List AggTrade) : Prop where
  advances :
    nextFromId < nextCandidate nextFromId (items.take binancePageLimit)
  behind :
    fromNumber tradeId
        (nextCandidate nextFromId (items.take binancePageLimit))
        tape.trades =
      items.drop binancePageLimit

/-- A page goes on unless it ends at the greatest identifier. -/
theorem goesOn_of_not_endsAtGreatestId
    {nextFromId : Int}
    {items : List AggTrade}
    (isRest : fromNumber tradeId nextFromId tape.trades = items)
    (nonempty : items ≠ [])
    (notGreatest : ¬ EndsAtGreatestId (items.take binancePageLimit)) :
    GoesOn tape nextFromId items := by
  have representable :
      ∀ trade ∈ items.take binancePageLimit,
        i64Min ≤ trade.aggregateTradeId ∧
          trade.aggregateTradeId ≤ i64Max := by
    intro trade member
    have inItems := List.mem_of_mem_take member
    rw [← isRest] at inItems
    exact tape.representable trade (List.mem_of_mem_filter inItems)
  have notNil : items.take binancePageLimit ≠ [] := by
    rw [Ne, List.take_eq_nil_iff]
    rintro (isZero | isNil)
    · cases isZero
    · exact nonempty isNil
  obtain ⟨advances, behind⟩ :=
    fromNumber_next tape.isTape.numbers
      (isRest.trans (List.take_append_drop binancePageLimit items).symm)
      notNil
  rw [← nextCandidate_eq_nextNumber representable notGreatest]
    at advances behind
  exact ⟨advances, behind⟩

/-- The page from which the loop cannot go on will be read. -/
structure ComesToGreatestId
    (args : BackfillArgs)
    (items : List AggTrade) : Prop where
  tapeEnds : EndsAtGreatestId items
  reached : EndsTape tradeTime args.inputEndMs binancePageLimit items

/-- A page inside the range does not change what the loop comes to. -/
theorem comesToGreatestId_drop_iff
    {items : List AggTrade}
    (more : binancePageLimit < items.length)
    (within :
      passes tradeTime args.inputEndMs (items.take binancePageLimit) =
        false) :
    ComesToGreatestId args (items.drop binancePageLimit) ↔
      ComesToGreatestId args items := by
  have sameEnd :
      (items.drop binancePageLimit).getLast? = items.getLast? := by
    rw [List.getLast?_drop, if_neg (by omega)]
  have sameGreatest :
      EndsAtGreatestId (items.drop binancePageLimit) ↔
        EndsAtGreatestId items := by
    rw [EndsAtGreatestId, EndsAtGreatestId, sameEnd]
  constructor
  · rintro ⟨greatest, reached⟩
    exact ⟨sameGreatest.mp greatest, (endsTape_drop_iff more within).mp reached⟩
  · rintro ⟨greatest, reached⟩
    exact
      ⟨sameGreatest.mpr greatest, (endsTape_drop_iff more within).mpr reached⟩

/-- The loop behind a page that was appended. -/
private theorem takePage_returns
    (untroubled : Untroubled environment)
    (args : BackfillArgs)
    (market : BinanceMarket)
    {page : List AggTrade}
    {nextFromId : Int}
    (nonempty : page ≠ [])
    (advances : nextFromId < nextCandidate nextFromId page)
    (report : SymbolBackfillReport)
    (goOn :
      Int →
      SymbolBackfillReport →
      Requesting Payload AggTradesRequest (Option SymbolBackfillReport))
    (before : RequestState Payload AggTradesRequest) :
    ∃ sink,
      Appends environment market
        (taken tradeTime args.inputStartMs args.inputEndMs page)
        before.1 sink ∧
      ∀ value after,
        (if !passes tradeTime args.inputEndMs page &&
              page.length = binancePageLimit then
            goOn (nextCandidate nextFromId page)
              (observeAll report
                (taken tradeTime args.inputStartMs args.inputEndMs page))
          else
            pure (some (observeAll report
              (taken tradeTime args.inputStartMs args.inputEndMs
                page)))).Returns (sink, before.2) value after →
        (takePage environment args market page nextFromId report
          goOn).Returns before value after := by
  obtain ⟨sink, appended, appends⟩ :=
    appendPage_untroubled untroubled args market page report before.1
  refine ⟨sink, appends, fun value after rest => ?_⟩
  unfold takePage
  rw [if_neg (by simpa using nonempty)]
  refine returns_bind.mpr ⟨_, _, appended.onFirst before.2, ?_⟩
  simp only [if_neg (not_le.mpr advances)]
  exact rest

/-- The loop reads on until the range ends, if it does not come to the greatest
identifier. -/
theorem readPagesFrom_completes
    (untroubled : Untroubled environment)
    (args : BackfillArgs)
    (market : BinanceMarket)
    {rounds : Nat}
    {nextFromId : Int}
    {items : List AggTrade}
    (isRest : fromNumber tradeId nextFromId tape.trades = items)
    (notGreatest : ¬ ComesToGreatestId args items)
    (enough : items.length < rounds)
    (report : SymbolBackfillReport)
    (before : RequestState Payload AggTradesRequest) :
    ∃ after,
      (readPagesFrom tape.server environment args market rounds nextFromId
        report).Returns before
        (some (observeAll report (rangeTrades args items))) after ∧
      Appends environment market (rangeTrades args items) before.1
        after.1 := by
  induction rounds generalizing nextFromId items report before with
  | zero =>
      omega
  | succ rounds inductionHypothesis =>
      obtain ⟨⟨ascending, ordered⟩, representable⟩ := rest_facts isRest
      have answered :
          tape.page (.fromId nextFromId) = items.take binancePageLimit := by
        rw [TradeTape.page, isRest]
      have fetched :
          (fetchAggTrades tape.server (.fromId nextFromId)).Returns before
            (items.take binancePageLimit)
            (before.1, before.2 ++ [.fromId nextFromId]) :=
        fetchPage_returns (congrArg some answered)
      have inRange :
          rangeTrades args items =
            taken tradeTime args.inputStartMs args.inputEndMs
              (items.take binancePageLimit ++
                items.drop binancePageLimit) := by
        rw [List.take_append_drop, rangeTrades, taken_eq_between ordered]
      unfold readPagesFrom
      by_cases isNil : items = []
      · subst isNil
        refine ⟨(before.1, before.2 ++ [.fromId nextFromId]), ?_,
          .refl before.1⟩
        refine returns_bind.mpr ⟨_, _, fetched, ?_⟩
        exact returns_pure.mpr ⟨rfl, rfl⟩
      · have notGreatestPage :
            ¬ EndsAtGreatestId (items.take binancePageLimit) := by
          rcases Nat.lt_or_ge binancePageLimit items.length with more | fits
          · exact not_endsAtGreatestId_take ascending representable more
          · intro greatest
            rw [List.take_of_length_le fits] at greatest
            exact notGreatest ⟨greatest, endsTape_of_length_le fits⟩
        have goesOn := goesOn_of_not_endsAtGreatestId isRest isNil
          notGreatestPage
        have notNil : items.take binancePageLimit ≠ [] := by
          rw [Ne, List.take_eq_nil_iff]
          rintro (isZero | nothing)
          · cases isZero
          · exact isNil nothing
        obtain ⟨sink, appends, continued⟩ :=
          takePage_returns untroubled args market notNil goesOn.advances
            report (readPagesFrom tape.server environment args market rounds)
            (before.1, before.2 ++ [.fromId nextFromId])
        cases passing :
            passes tradeTime args.inputEndMs
              (items.take binancePageLimit) with
        | true =>
            refine ⟨(sink, before.2 ++ [.fromId nextFromId]), ?_, ?_⟩
            · refine returns_bind.mpr ⟨_, _, fetched, continued _ _ ?_⟩
              rw [passing, if_neg (by simp), inRange,
                taken_append_of_passes passing]
              exact returns_pure.mpr ⟨rfl, rfl⟩
            · rw [inRange, taken_append_of_passes passing]
              exact appends
        | false =>
            have split :
                rangeTrades args items =
                  taken tradeTime args.inputStartMs args.inputEndMs
                      (items.take binancePageLimit) ++
                    rangeTrades args (items.drop binancePageLimit) := by
              rw [inRange, taken_append_of_not_passes passing, rangeTrades,
                taken_eq_between ordered.drop]
            by_cases full :
                (items.take binancePageLimit).length = binancePageLimit
            · have shorter :
                  (items.drop binancePageLimit).length < rounds := by
                have positive := List.length_pos_iff.mpr isNil
                rw [List.length_drop]
                unfold binancePageLimit
                omega
              have restNotGreatest :
                  ¬ ComesToGreatestId args
                    (items.drop binancePageLimit) := by
                rw [List.length_take] at full
                rcases Nat.lt_or_ge binancePageLimit items.length with
                  more | fits
                · rw [comesToGreatestId_drop_iff more passing]
                  exact notGreatest
                · rintro ⟨greatest, _⟩
                  rw [EndsAtGreatestId,
                    List.drop_eq_nil_of_le fits] at greatest
                  cases greatest
              obtain ⟨after, returned, restAppends⟩ :=
                inductionHypothesis goesOn.behind restNotGreatest shorter
                  (observeAll report
                    (taken tradeTime args.inputStartMs args.inputEndMs
                      (items.take binancePageLimit)))
                  (sink, before.2 ++ [.fromId nextFromId])
              refine ⟨after, ?_, ?_⟩
              · refine returns_bind.mpr ⟨_, _, fetched, continued _ _ ?_⟩
                rw [passing, if_pos (by simp [full]), split,
                  observeAll_append]
                exact returned
              · rw [split]
                exact appends.trans restAppends
            · have fewer : items.length ≤ binancePageLimit := by
                rw [List.length_take] at full
                omega
              have nothing :
                  rangeTrades args (items.drop binancePageLimit) = [] := by
                rw [List.drop_eq_nil_of_le fewer]
                rfl
              rw [nothing, List.append_nil] at split
              refine ⟨(sink, before.2 ++ [.fromId nextFromId]), ?_, ?_⟩
              · refine returns_bind.mpr ⟨_, _, fetched, continued _ _ ?_⟩
                rw [passing, decide_eq_false full, if_neg (by simp), split]
                exact returns_pure.mpr ⟨rfl, rfl⟩
              · rw [split]
                exact appends

/-- A loop that comes to the greatest identifier does not end with a report. -/
theorem readPagesFrom_fails
    (rounds : Nat)
    {nextFromId : Int}
    (lower : i64Min ≤ nextFromId)
    {items : List AggTrade}
    (isRest : fromNumber tradeId nextFromId tape.trades = items)
    (greatest : ComesToGreatestId args items)
    {report read : SymbolBackfillReport}
    {before after : RequestState Payload AggTradesRequest} :
    ¬ (readPagesFrom tape.server environment args market rounds nextFromId
      report).Returns before (some read) after := by
  induction rounds generalizing nextFromId items report before with
  | zero =>
      intro returned
      obtain ⟨same, _⟩ := returns_pure.mp returned
      cases same
  | succ rounds inductionHypothesis =>
      intro returned
      unfold readPagesFrom at returned
      obtain ⟨page, asked, fetched, rest⟩ := returns_bind.mp returned
      obtain ⟨answered, rfl⟩ := eq_of_fetchPage_returns fetched
      have isPage : page = items.take binancePageLimit := by
        rw [← Option.some.inj answered, TradeTape.page, isRest]
      subst isPage
      have notNil : items.take binancePageLimit ≠ [] := by
        intro isNil
        rcases List.take_eq_nil_iff.mp isNil with isZero | nothing
        · cases isZero
        · have tapeEnds := greatest.tapeEnds
          rw [nothing] at tapeEnds
          cases tapeEnds
      unfold takePage at rest
      rw [if_neg (by simpa using notNil)] at rest
      obtain ⟨⟨stop, appended⟩, between, append, continued⟩ :=
        returns_bind.mp rest
      obtain ⟨pageReturned, _⟩ := returns_onFirst.mp append
      obtain ⟨stops, _, _⟩ := appendPage_returns pageReturned
      subst stops
      obtain ⟨⟨ascending, ordered⟩, representable⟩ := rest_facts isRest
      -- A page with all the rest ends at the greatest identifier.
      have stuck_of_fits (fits : items.length ≤ binancePageLimit) :
          nextCandidate nextFromId (items.take binancePageLimit) ≤
            nextFromId := by
        rw [List.take_of_length_le fits,
          nextCandidate_of_endsAtGreatestId greatest.tapeEnds]
        exact lower
      simp only at continued
      split_ifs at continued with stuck more
      · exact absurd continued not_returns_throw
      · have longer : binancePageLimit < items.length :=
          not_le.mp (fun fits => stuck (stuck_of_fits fits))
        have goesOn :=
          goesOn_of_not_endsAtGreatestId isRest
            (fun nothing => notNil (by rw [nothing]; rfl))
            (not_endsAtGreatestId_take ascending representable longer)
        have within :
            passes tradeTime args.inputEndMs
              (items.take binancePageLimit) = false := by
          have both := more
          simp only [Bool.and_eq_true, Bool.not_eq_true'] at both
          exact both.1
        exact inductionHypothesis (lower.trans goesOn.advances.le)
          goesOn.behind
          ((comesToGreatestId_drop_iff longer within).mpr greatest) continued
      · have longer : binancePageLimit < items.length :=
          not_le.mp (fun fits => stuck (stuck_of_fits fits))
        have full :
            (items.take binancePageLimit).length = binancePageLimit := by
          rw [List.length_take, Nat.min_eq_left longer.le]
        have passing :
            passes tradeTime args.inputEndMs
              (items.take binancePageLimit) = true := by
          simpa [full] using more
        exact not_endsTape_of_passes ordered longer passing greatest.reached

end Loop

section FirstPage

variable
  {args : BackfillArgs}
  {market : BinanceMarket}
  {tape : TradeTape}

/-- Trades in the order of their times are reported as they are observed. -/
theorem observeAll_empty
    {trades : List AggTrade}
    (ordered :
      trades.Pairwise (fun one other => tradeTime one ≤ tradeTime other))
    (nonempty : trades ≠ []) :
    observeAll (.empty market.rawSymbol market.baseAsset) trades =
      rangeReport market trades := by
  induction trades using List.reverseRecOn with
  | nil =>
      exact absurd rfl nonempty
  | append_singleton trades trade inductionHypothesis =>
      rw [observeAll_append]
      by_cases isNil : trades = []
      · subst isNil
        rfl
      · obtain ⟨before, _, later⟩ := List.pairwise_append.mp ordered
        obtain ⟨first, others, rfl⟩ := List.exists_cons_of_ne_nil isNil
        have notEarlier : tradeTime first ≤ tradeTime trade :=
          later first List.mem_cons_self trade
            (List.mem_singleton_self trade)
        have last := List.getLast_mem (List.cons_ne_nil first others)
        have notLater :
            tradeTime ((first :: others).getLast (List.cons_ne_nil _ _)) ≤
              tradeTime trade :=
          later _ last trade (List.mem_singleton_self trade)
        rw [inductionHypothesis before isNil]
        simp [observeAll, SymbolBackfillReport.observe, rangeReport,
          List.getLast?_eq_some_getLast, notEarlier, notLater]

/-- A first page that ends at the greatest identifier ends the tape. -/
theorem readsGreatestId_of_firstPage
    (full : binancePageLimit ≤ (rangeTrades args tape.trades).length)
    (greatest : EndsAtGreatestId (firstPage args tape.trades)) :
    ReadsGreatestId args tape ∧ ComesToGreatestId args tape.trades := by
  obtain ⟨last, isLast, isGreatest⟩ := Option.map_eq_some_iff.mp greatest
  have inPage := List.mem_of_getLast? isLast
  obtain ⟨inTape, within⟩ :=
    List.mem_filter.mp (List.mem_of_mem_take inPage)
  simp only [decide_eq_true_eq] at within
  have nothing : beyond tradeTime args.inputEndMs tape.trades = [] := by
    rw [beyond, List.filter_eq_nil_iff]
    intro trade member
    have upper : tradeId trade ≤ i64Max := (tape.representable trade member).2
    simp only [decide_eq_true_eq]
    intro late
    have larger :=
      tape.isTape.number_lt_of_time_lt inTape member (by omega)
    omega
  have tapeEnds : EndsAtGreatestId tape.trades := by
    cases ends : tape.trades.getLast? with
    | none =>
        rw [List.getLast?_eq_none_iff] at ends
        rw [ends] at inTape
        cases inTape
    | some final =>
        have upper : tradeId final ≤ i64Max :=
          (tape.representable final (List.mem_of_getLast? ends)).2
        have lower := number_le_last tape.isTape.numbers ends inTape
        rw [EndsAtGreatestId, ends, Option.map_some]
        congr 1
        omega
  have reached :
      EndsTape tradeTime args.inputEndMs binancePageLimit tape.trades := by
    rw [EndsTape, nothing]
    exact Nat.zero_le _
  refine ⟨⟨full, tapeEnds, ?_⟩, ⟨tapeEnds, reached⟩⟩
  rw [nothing]
  exact Nat.zero_le _

/-- What follows after a full first page that does not end the tape. -/
theorem rest_of_firstPage
    (full : binancePageLimit ≤ (rangeTrades args tape.trades).length)
    (notGreatest : ¬ EndsAtGreatestId (firstPage args tape.trades)) :
    ∃ next ≤ i64Max,
      next = nextCandidate 0 (firstPage args tape.trades) ∧
      rangeTrades args (fromNumber tradeId next tape.trades) =
        (rangeTrades args tape.trades).drop binancePageLimit ∧
      (∀ trade ∈ fromNumber tradeId next tape.trades,
        args.inputStartMs ≤ tradeTime trade) ∧
      beyond tradeTime args.inputEndMs
          (fromNumber tradeId next tape.trades) =
        beyond tradeTime args.inputEndMs tape.trades := by
  have representable :
      ∀ trade ∈ firstPage args tape.trades,
        i64Min ≤ trade.aggregateTradeId ∧
          trade.aggregateTradeId ≤ i64Max := fun trade member =>
    tape.representable trade
      (List.mem_of_mem_filter (List.mem_of_mem_take member))
  have isNext := nextCandidate_eq_nextNumber representable notGreatest 0
  have notNil : firstPage args tape.trades ≠ [] := by
    intro isNil
    rcases List.take_eq_nil_iff.mp isNil with isZero | nothing
    · cases isZero
    · rw [nothing] at full
      exact absurd full (by decide)
  cases isLast : (firstPage args tape.trades).getLast? with
  | none =>
      exact absurd (List.getLast?_eq_none_iff.mp isLast) notNil
  | some last =>
      have inPage := List.mem_of_getLast? isLast
      obtain ⟨inTape, within⟩ :=
        List.mem_filter.mp (List.mem_of_mem_take inPage)
      simp only [decide_eq_true_eq] at within
      have isNumber :
          nextNumber tradeId 0 (firstPage args tape.trades) =
            tradeId last + 1 := by
        rw [nextNumber, isLast]
        rfl
      have bounded : tradeId last < i64Max := by
        refine lt_of_le_of_ne (representable last inPage).2 (fun same => ?_)
        apply notGreatest
        rw [EndsAtGreatestId, isLast, Option.map_some, same]
      have others :=
        between_fromNumber_next tape.isTape
          (List.take_append_drop binancePageLimit
            (rangeTrades args tape.trades)).symm notNil
      rw [isNumber] at isNext
      refine ⟨tradeId last + 1, bounded, isNext.symm, ?_, ?_, ?_⟩
      · rw [← isNumber]
        exact others
      · intro trade member
        obtain ⟨tradeInTape, fromOn⟩ := List.mem_filter.mp member
        simp only [decide_eq_true_eq] at fromOn
        have later :=
          tape.isTape.time_le_of_number_lt inTape tradeInTape (by omega)
        omega
      · rw [beyond, beyond, fromNumber, List.filter_filter]
        apply List.filter_congr
        intro trade member
        by_cases late : args.inputEndMs < tradeTime trade
        · have larger :=
            tape.isTape.number_lt_of_time_lt inTape member (by omega)
          simp only [late, decide_true, Bool.true_and,
            decide_eq_true_eq]
          omega
        · simp [late]

/-- After a full first page the loop comes to the greatest identifier just if
the range does. -/
theorem comesToGreatestId_iff_readsGreatestId
    (full : binancePageLimit ≤ (rangeTrades args tape.trades).length)
    (notGreatest : ¬ EndsAtGreatestId (firstPage args tape.trades)) :
    ComesToGreatestId args
        (fromNumber tradeId
          (nextCandidate 0 (firstPage args tape.trades)) tape.trades) ↔
      ReadsGreatestId args tape := by
  obtain ⟨next, bounded, isNext, inRange, started, sameBeyond⟩ :=
    rest_of_firstPage full notGreatest
  rw [← isNext]
  have allInside :
      inside tradeTime args.inputEndMs
          (fromNumber tradeId next tape.trades) =
        (rangeTrades args tape.trades).drop binancePageLimit := by
    rw [← inRange, inside, rangeTrades, between]
    apply List.filter_congr
    intro trade member
    simp [started trade member]
  have sameReached :
      EndsTape tradeTime args.inputEndMs binancePageLimit
          (fromNumber tradeId next tape.trades) ↔
        (beyond tradeTime args.inputEndMs tape.trades).length ≤
          binancePageLimit -
            (rangeTrades args tape.trades).length % binancePageLimit := by
    have counted :
        ((rangeTrades args tape.trades).length - binancePageLimit) %
            binancePageLimit =
          (rangeTrades args tape.trades).length % binancePageLimit := by
      rw [← Nat.mod_eq_sub_mod full]
    rw [EndsTape, allInside, sameBeyond, List.length_drop, counted]
  have sameEnds :
      EndsAtGreatestId (fromNumber tradeId next tape.trades) ↔
        EndsAtGreatestId tape.trades := by
    by_cases isNil : fromNumber tradeId next tape.trades = []
    · constructor
      · intro ends
        rw [isNil] at ends
        cases ends
      · intro ends
        obtain ⟨final, isFinal, isGreatest⟩ :=
          Option.map_eq_some_iff.mp ends
        have member : final ∈ fromNumber tradeId next tape.trades := by
          refine List.mem_filter.mpr ⟨List.mem_of_getLast? isFinal, ?_⟩
          rw [isGreatest]
          simpa using bounded
        rw [isNil] at member
        cases member
    · rw [EndsAtGreatestId, EndsAtGreatestId,
        getLast?_fromNumber tape.isTape.numbers isNil]
  constructor
  · rintro ⟨ends, reached⟩
    exact ⟨full, sameEnds.mp ends, sameReached.mp reached⟩
  · rintro ⟨_, ends, reached⟩
    exact ⟨sameEnds.mpr ends, sameReached.mpr reached⟩

end FirstPage

section Symbol

variable
  {environment : BackfillEnvironment Payload}
  {args : BackfillArgs}
  {market : BinanceMarket}
  {tape : TradeTape}

/-- A full range has a full first page. -/
private theorem length_firstPage
    (full : binancePageLimit ≤ (rangeTrades args tape.trades).length) :
    (firstPage args tape.trades).length = binancePageLimit := by
  rw [firstPage, List.length_take, Nat.min_eq_left full]

/-- Without trades in its range the backfill appends the alert. -/
theorem requestSymbol_empty
    (untroubled : Untroubled environment)
    (nothing : rangeTrades args tape.trades = [])
    (before : BackfillState Payload) :
    CompletesRange environment args market tape before := by
  have page :
      tape.page (.byTime args.inputStartMs args.inputEndMs) = [] := by
    change (rangeTrades args tape.trades).take binancePageLimit = []
    rw [nothing, List.take_nil]
  have fetched :
      (fetchAggTrades tape.server
          (.byTime args.inputStartMs args.inputEndMs)).Returns
        (before, []) []
        (before, [.byTime args.inputStartMs args.inputEndMs]) :=
    fetchPage_returns (congrArg some page)
  obtain ⟨sink, noted, calls⟩ :=
    appendNoTradeGap_untroubled untroubled args market
      (.empty market.rawSymbol market.baseAsset) before
  refine ⟨0, (sink, [.byTime args.inputStartMs args.inputEndMs]), ?_, ?_⟩
  · unfold requestSymbol
    refine returns_bind.mpr ⟨_, _, fetched, ?_⟩
    refine returns_bind.mpr ⟨_, _, noted.onFirst _, ?_⟩
    rw [nothing]
    exact returns_pure.mpr ⟨rfl, rfl⟩
  · rw [nothing]
    exact calls

/-- How the backfill goes on after a first page with trades. -/
theorem requestSymbol_firstPage
    (untroubled : Untroubled environment)
    (market : BinanceMarket)
    (nonempty : rangeTrades args tape.trades ≠ [])
    (before : BackfillState Payload) :
    ∃ sink,
      Appends environment market (firstPage args tape.trades) before sink ∧
      ∀ rounds,
        (requestSymbol tape.server environment args market rounds).outcome
            (before, []) =
          (readOn tape.server environment args market rounds
            (firstPage args tape.trades) false
            (observeAll (.empty market.rawSymbol market.baseAsset)
              (firstPage args tape.trades))).outcome
            (sink, [.byTime args.inputStartMs args.inputEndMs]) := by
  have fetched :
      (fetchAggTrades tape.server
          (.byTime args.inputStartMs args.inputEndMs)).Returns
        (before, []) (firstPage args tape.trades)
        (before, [.byTime args.inputStartMs args.inputEndMs]) :=
    fetchPage_returns rfl
  have notNil : firstPage args tape.trades ≠ [] := by
    intro isNil
    rcases List.take_eq_nil_iff.mp isNil with isZero | nothing
    · cases isZero
    · exact nonempty nothing
  obtain ⟨sink, appended, appends⟩ :=
    appendPage_untroubled untroubled args market
      (firstPage args tape.trades)
      (.empty market.rawSymbol market.baseAsset) before
  have within :
      passes tradeTime args.inputEndMs (firstPage args tape.trades) =
        false :=
    passes_take_between tape.trades binancePageLimit
  have takesPage :
      taken tradeTime args.inputStartMs args.inputEndMs
          (firstPage args tape.trades) =
        firstPage args tape.trades :=
    taken_take_between tape.trades binancePageLimit
  rw [within, takesPage] at appended
  rw [takesPage] at appends
  refine ⟨sink, appends, fun rounds => ?_⟩
  unfold requestSymbol
  rw [outcome_bind_of_returns fetched, if_neg (by simpa using notNil),
    outcome_bind_of_returns (appended.onFirst _)]

/-- A report of some trades needs no alert. -/
private theorem noteNoTrades_returns
    {trades : List AggTrade}
    (nonempty : trades ≠ [])
    (state : RequestState Payload AggTradesRequest) :
    (noteNoTrades environment args market
      (rangeReport market trades)).Returns state
      (some (rangeReport market trades)) state := by
  have counted : (rangeReport market trades).recordCount ≠ 0 := by
    simpa [rangeReport] using nonempty
  unfold noteNoTrades
  rw [if_neg counted]
  exact returns_pure.mpr ⟨rfl, rfl⟩

/-- What is left of a range after its first page is reported with it. -/
private theorem report_range
    (nonempty : rangeTrades args tape.trades ≠ []) :
    observeAll (.empty market.rawSymbol market.baseAsset)
        (rangeTrades args tape.trades) =
      rangeReport market (rangeTrades args tape.trades) :=
  observeAll_empty (tape.isTape.times.filter _) nonempty

/-- The calls of a range with trades are those that append them. -/
private theorem calls_of_appends
    {before after : BackfillState Payload}
    (nonempty : rangeTrades args tape.trades ≠ [])
    (appends :
      Appends environment market (rangeTrades args tape.trades) before
        after) :
    after.calls =
      before.calls ++
        rangeCalls environment args market before.next
          (rangeTrades args tape.trades) := by
  rw [rangeCalls, if_neg (by simpa using nonempty), List.append_nil]
  exact appends.calls

/-- A range that fits on its first page is complete. -/
theorem completesRange_of_short
    (untroubled : Untroubled environment)
    (nonempty : rangeTrades args tape.trades ≠ [])
    (short : (rangeTrades args tape.trades).length < binancePageLimit)
    (before : BackfillState Payload) :
    CompletesRange environment args market tape before := by
  obtain ⟨sink, appends, goesOn⟩ :=
    requestSymbol_firstPage untroubled market nonempty before
  have whole :
      firstPage args tape.trades = rangeTrades args tape.trades :=
    List.take_of_length_le short.le
  rw [whole] at appends goesOn
  refine ⟨0, (sink, [.byTime args.inputStartMs args.inputEndMs]), ?_,
    calls_of_appends nonempty appends⟩
  rw [Returns, goesOn, readOn, if_neg (by simpa using short.ne),
    report_range nonempty]
  exact noteNoTrades_returns nonempty _

/-- A longer range is complete unless it comes to the greatest identifier. -/
theorem completesRange_of_full
    (untroubled : Untroubled environment)
    (full : binancePageLimit ≤ (rangeTrades args tape.trades).length)
    (notGreatest : ¬ ReadsGreatestId args tape)
    (before : BackfillState Payload) :
    CompletesRange environment args market tape before := by
  have nonempty : rangeTrades args tape.trades ≠ [] := by
    intro isNil
    rw [isNil] at full
    exact absurd full (by decide)
  have pageNotGreatest :
      ¬ EndsAtGreatestId (firstPage args tape.trades) :=
    fun greatest =>
      notGreatest (readsGreatestId_of_firstPage full greatest).1
  obtain ⟨next, _, isNext, others, _⟩ :=
    rest_of_firstPage full pageNotGreatest
  obtain ⟨sink, appends, goesOn⟩ :=
    requestSymbol_firstPage untroubled market nonempty before
  obtain ⟨after, read, restAppends⟩ :=
    readPagesFrom_completes untroubled args market rfl
      (fun greatest =>
        notGreatest
          ((comesToGreatestId_iff_readsGreatestId full
            pageNotGreatest).mp greatest))
      (Nat.lt_succ_of_le (List.length_filter_le _ tape.trades))
      (observeAll (.empty market.rawSymbol market.baseAsset)
        (firstPage args tape.trades))
      (sink, [.byTime args.inputStartMs args.inputEndMs])
  rw [← isNext, others] at read restAppends
  have whole :
      firstPage args tape.trades ++
          (rangeTrades args tape.trades).drop binancePageLimit =
        rangeTrades args tape.trades :=
    List.take_append_drop _ _
  rw [← observeAll_append, whole, report_range nonempty] at read
  have allAppends := appends.trans restAppends
  rw [whole] at allAppends
  refine ⟨tape.trades.length + 1, after, ?_,
    calls_of_appends nonempty allAppends⟩
  rw [Returns, goesOn, readOn,
    if_pos (by simpa using length_firstPage full), ← isNext]
  exact returns_bind.mpr ⟨_, _, read, noteNoTrades_returns nonempty _⟩

/-- A range that comes to the greatest identifier does not end with a report. -/
theorem not_completesRange
    (untroubled : Untroubled environment)
    (greatest : ReadsGreatestId args tape)
    (before : BackfillState Payload) :
    ¬ CompletesRange environment args market tape before := by
  rintro ⟨rounds, after, returned, _⟩
  have nonempty : rangeTrades args tape.trades ≠ [] := by
    intro isNil
    have full := greatest.full
    rw [isNil] at full
    exact absurd full (by decide)
  obtain ⟨sink, _, goesOn⟩ :=
    requestSymbol_firstPage untroubled market nonempty before
  rw [Returns, goesOn, readOn,
    if_pos (by simpa using length_firstPage greatest.full)] at returned
  obtain ⟨read, between, pages, rest⟩ := returns_bind.mp returned
  have lower : i64Min ≤ nextCandidate 0 (firstPage args tape.trades) := by
    cases isLast : (firstPage args tape.trades).getLast? with
    | none =>
        rw [nextCandidate, isLast]
        decide
    | some last =>
        rw [nextCandidate, isLast]
        exact (wrappingAdd_bounds _ _).1
  cases read with
  | none =>
      obtain ⟨same, _⟩ := returns_pure.mp rest
      cases same
  | some report =>
      by_cases pageGreatest : EndsAtGreatestId (firstPage args tape.trades)
      · have all :
            fromNumber tradeId
                (nextCandidate 0 (firstPage args tape.trades)) tape.trades =
              tape.trades := by
          rw [nextCandidate_of_endsAtGreatestId pageGreatest, fromNumber,
            List.filter_eq_self]
          intro trade member
          exact decide_eq_true (tape.representable trade member).1
        exact readPagesFrom_fails rounds lower all
          (readsGreatestId_of_firstPage greatest.full pageGreatest).2 pages
      · exact readPagesFrom_fails rounds lower rfl
          ((comesToGreatestId_iff_readsGreatestId greatest.full
            pageGreatest).mpr greatest) pages

/--
The backfill of a market is complete exactly when its pages do not come to a
trade with the greatest identifier.
-/
theorem completesRange_iff
    (untroubled : Untroubled environment)
    (before : BackfillState Payload) :
    CompletesRange environment args market tape before ↔
      ¬ ReadsGreatestId args tape := by
  constructor
  · intro completes greatest
    exact not_completesRange untroubled greatest before completes
  · intro notGreatest
    by_cases isNil : rangeTrades args tape.trades = []
    · exact requestSymbol_empty untroubled isNil before
    · rcases Nat.lt_or_ge (rangeTrades args tape.trades).length
        binancePageLimit with short | full
      · exact completesRange_of_short untroubled isNil short before
      · exact completesRange_of_full untroubled full notGreatest before

end Symbol

section Sample

/-- Surroundings in which nothing fails. -/
def quietEnvironment : BackfillEnvironment Unit where
  payloads :=
    { trade := fun _ _ => ()
      emptyGap := fun _ _ _ => ()
      symbolHealth := fun _ _ => ()
      sourceHealth := fun _ _ _ _ _ => () }
  hash := fun _ => 0
  nowSecs := 1700000000
  clockAt := fun _ => 1700000000000
  observedAtMs := 1700000000000
  enabledMarkets := .ok []
  clientFails := false
  sinkFails := false
  tradesByTime := fun _ => none
  tradesFromId := fun _ => []
  fileAt := fun _ => .uploaded
  flushFiles :=
    { raw := fun _ => .uploaded
      health := fun _ => .uploaded
      symbolHealth := fun _ => .uploaded
      gap := fun _ => .uploaded }
  manifestUploaded := true
  killedAfter := none

/-- A backfill of one second. -/
def oneSecondArgs : BackfillArgs where
  inputStartMs := 1000
  inputEndMs := 2000
  expectSymbolCount := 1
  symbols := none
  l0S3Bucket := "market-l0"
  l0SpoolRoot := "spool"
  l0FlushRecords := 100000
  l0ShardCount := 1

/-- The market of ether. -/
def ethMarket : BinanceMarket where
  rawSymbol := "ETHUSDT"
  baseAsset := "ETH"
  quoteAsset := "USDT"

/-- A trade in the first millisecond of the range. -/
def startTrade (aggregateTradeId : Int) : AggTrade where
  aggregateTradeId := aggregateTradeId
  price := "1800.5"
  quantity := "2"
  firstTradeId := aggregateTradeId
  lastTradeId := aggregateTradeId
  tradeTimestampMs := 1000
  isBuyerMaker := false
  isBestMatch := true

/-- A sink that was just created. -/
def newSink : BackfillState Unit :=
  .start
    ⟨{ bucket := "market-l0"
       spoolRoot := "spool"
       runId := "run-1"
       flushRecords := 100000
       shardCount := 1
       liveNats := none },
      rfl⟩
    (fun _ => 0)

/-- Nothing fails in quiet surroundings. -/
theorem quietEnvironment_untroubled : Untroubled quietEnvironment where
  files := fun _ => rfl
  neverKilled := rfl

/-- Trades of one millisecond with successive identifiers. -/
def startTrades (first : Int) (count : Nat) : List AggTrade :=
  (List.range count).map (fun index : Nat => startTrade (first + index))

/-- What such a trade is. -/
theorem exists_of_mem_startTrades
    {first : Int}
    {count : Nat}
    {trade : AggTrade}
    (member : trade ∈ startTrades first count) :
    ∃ index < count, trade = startTrade (first + index) := by
  obtain ⟨index, inRange, rfl⟩ := List.mem_map.mp member
  exact ⟨index, List.mem_range.mp inRange, rfl⟩

/-- Such trades are a tape. -/
theorem isTape_startTrades
    (first : Int)
    (count : Nat) :
    IsTape tradeId tradeTime (startTrades first count) where
  numbers := by
    rw [startTrades, List.pairwise_map]
    refine List.pairwise_lt_range.imp ?_
    intro one other smaller
    change first + (one : Int) < first + other
    omega
  times := by
    rw [startTrades, List.pairwise_map]
    exact List.pairwise_lt_range.imp (fun _ => le_refl _)

/-- All of such trades are in the range, and none is behind it. -/
theorem startTrades_in_range
    (first : Int)
    (count : Nat) :
    rangeTrades oneSecondArgs (startTrades first count) =
        startTrades first count ∧
      beyond tradeTime oneSecondArgs.inputEndMs (startTrades first count) =
        [] := by
  constructor
  · rw [rangeTrades, between, List.filter_eq_self]
    intro trade member
    obtain ⟨index, _, rfl⟩ := exists_of_mem_startTrades member
    rfl
  · rw [beyond, List.filter_eq_nil_iff]
    intro trade member
    obtain ⟨index, _, rfl⟩ := exists_of_mem_startTrades member
    exact Bool.false_ne_true

/-- How many such trades there are, and which one is the last. -/
theorem startTrades_end
    (first : Int)
    (count : Nat) :
    (startTrades first (count + 1)).length = count + 1 ∧
      (startTrades first (count + 1)).getLast?.map tradeId =
        some (first + count) := by
  refine ⟨by rw [startTrades, List.length_map, List.length_range], ?_⟩
  rw [startTrades, List.range_succ, List.map_append]
  simp [startTrade, tradeId]

/-- A tape of such trades up to the greatest identifier. -/
def greatestTape
    (count : Nat)
    (small : (count : Int) ≤ i64Max) : TradeTape where
  trades := startTrades (i64Max - count) (count + 1)
  isTape := isTape_startTrades _ _
  representable := by
    intro trade member
    obtain ⟨index, below, rfl⟩ := exists_of_mem_startTrades member
    change i64Min ≤ i64Max - (count : Int) + index ∧
      i64Max - (count : Int) + index ≤ i64Max
    unfold i64Min at *
    unfold i64Max at *
    omega

/-- A full page of such trades comes to the greatest identifier. -/
theorem greatestTape_readsGreatestId
    {count : Nat}
    (small : (count : Int) ≤ i64Max)
    (full : binancePageLimit ≤ count + 1) :
    ReadsGreatestId oneSecondArgs (greatestTape count small) := by
  obtain ⟨all, nothing⟩ :=
    startTrades_in_range (i64Max - count) (count + 1)
  obtain ⟨counted, last⟩ := startTrades_end (i64Max - count) count
  refine ⟨?_, ?_, ?_⟩
  · rw [greatestTape, all, counted]
    exact full
  · rw [EndsAtGreatestId, greatestTape, last, sub_add_cancel]
  · rw [greatestTape, nothing]
    exact Nat.zero_le _

/-- The backfill of a page of such trades ends with an error. -/
theorem greatestTape_not_completesRange :
    ¬ CompletesRange quietEnvironment oneSecondArgs ethMarket
      (greatestTape 999 (by decide)) newSink :=
  not_completesRange quietEnvironment_untroubled
    (greatestTape_readsGreatestId _ (by decide)) newSink

/-- A tape of three trades. -/
def threeTrades : TradeTape where
  trades := startTrades 7 3
  isTape := isTape_startTrades 7 3
  representable := by decide

/-- The backfill of three trades is complete. -/
theorem threeTrades_completesRange :
    CompletesRange quietEnvironment oneSecondArgs ethMarket threeTrades
      newSink :=
  (completesRange_iff quietEnvironment_untroubled newSink).mpr
    (fun greatest => absurd greatest.full (by decide))

end Sample

end MarketIngest.Backfill
