import MarketIngest.Backfill
import MarketIngest.PagedTape

namespace MarketIngest.Backfill

open Fallible Paging Storage

/-!
# What the backfill of a market appends

The exchange answers from a tape of trades: by time with both ends of the range
included, and from a trade identifier on.  The backfill of a market reads the
tape page by page and appends the trades of the range in order, each of them
once, and a trade of the last millisecond of the range as well.
-/

variable
  {Payload : Type}
  {environment : BackfillEnvironment Payload}
  {args : BackfillArgs}
  {market : BinanceMarket}

/-- The identifier of a trade. -/
def tradeId (trade : AggTrade) : Int :=
  trade.aggregateTradeId

/-- The time of a trade. -/
def tradeTime (trade : AggTrade) : Int :=
  trade.tradeTimestampMs

/-- The trades of a tape in a range, both of its ends included. -/
def rangeTrades (args : BackfillArgs) (tape : List AggTrade) :
    List AggTrade :=
  between tradeTime args.inputStartMs args.inputEndMs tape

/-- The first page of a range. -/
def firstPage (args : BackfillArgs) (tape : List AggTrade) : List AggTrade :=
  (rangeTrades args tape).take binancePageLimit

/-- The exchange answers from its tape of the market. -/
structure AnswersFrom
    (environment : BackfillEnvironment Payload)
    (args : BackfillArgs)
    (market : BinanceMarket)
    (tape : List AggTrade) : Prop where
  byTime : environment.tradesByTime market = some (firstPage args tape)
  fromId :
    ∃ rounds,
      environment.tradesFromId market =
        (answers tradeId binancePageLimit tape rounds
          (nextNumber tradeId 0 (firstPage args tape))).map some

/-- The ordinal of the next record. -/
def BackfillState.next (state : BackfillState Payload) : Nat :=
  state.history.sink.nextOrdinal

/-- The call that appends a trade under an ordinal. -/
def tradeCall
    (environment : BackfillEnvironment Payload)
    (market : BinanceMarket)
    (ordinal : Nat)
    (trade : AggTrade) : SinkCall Payload :=
  .appendRawMarketEvent
    (rawTradeDraft environment.payloads market trade
      (environment.clockAt ordinal))
    .noMarkPrice (environment.fileAt ordinal)

/-- The calls that append trades under successive ordinals. -/
def tradeCalls
    (environment : BackfillEnvironment Payload)
    (market : BinanceMarket)
    (next : Nat)
    (trades : List AggTrade) : List (SinkCall Payload) :=
  (trades.zipIdx next).map
    (fun stamp => tradeCall environment market stamp.2 stamp.1)

/-- Between two states exactly the trades were appended. -/
structure Appends
    (environment : BackfillEnvironment Payload)
    (market : BinanceMarket)
    (trades : List AggTrade)
    (before after : BackfillState Payload) : Prop where
  calls :
    after.calls =
      before.calls ++ tradeCalls environment market before.next trades
  next : after.next = before.next + trades.length

/-- Without a step no trades are appended. -/
theorem Appends.refl
    (state : BackfillState Payload) :
    Appends environment market [] state state :=
  ⟨(List.append_nil _).symm, rfl⟩

/-- Trades are appended one after the other. -/
theorem Appends.trans
    {first second : List AggTrade}
    {before between after : BackfillState Payload}
    (earlier : Appends environment market first before between)
    (later : Appends environment market second between after) :
    Appends environment market (first ++ second) before after where
  calls := by
    rw [later.calls, earlier.calls, earlier.next, tradeCalls, tradeCalls,
      tradeCalls, List.zipIdx_append, List.map_append, List.append_assoc]
  next := by
    rw [later.next, earlier.next, List.length_append, Nat.add_assoc]

/-- A call that appends a trade appends it. -/
theorem appends_of_tradeCall
    {trade : AggTrade}
    {before after : BackfillState Payload}
    {value : Unit}
    (returned :
      (makeCall environment
        (tradeCall environment market before.next trade)).Returns before value
        after) :
    Appends environment market [trade] before after := by
  have shape := (makeCall_returns returned).1
  subst shape
  exact ⟨rfl, SinkCall.perform_nextOrdinal before.history.sink _⟩

section Pages

/-- A report after some more trades. -/
def observeAll
    (report : SymbolBackfillReport)
    (trades : List AggTrade) : SymbolBackfillReport :=
  trades.foldl (fun report trade => report.observe (tradeTime trade)) report

/-- Trades are observed one after the other. -/
theorem observeAll_append
    (report : SymbolBackfillReport)
    (first second : List AggTrade) :
    observeAll report (first ++ second) =
      observeAll (observeAll report first) second :=
  List.foldl_append

/-- A page is taken up to the end of the range, and the report observes what was
taken of it. -/
theorem appendPage_returns
    {page : List AggTrade}
    {report appended : SymbolBackfillReport}
    {stop : Bool}
    {before after : BackfillState Payload}
    (returned :
      (appendPage environment args market page report).Returns before
        (stop, appended) after) :
    stop = passes tradeTime args.inputEndMs page ∧
      appended =
        observeAll report
          (taken tradeTime args.inputStartMs args.inputEndMs page) ∧
      Appends environment market
        (taken tradeTime args.inputStartMs args.inputEndMs page)
        before after := by
  induction page generalizing report before with
  | nil =>
      obtain ⟨same, rfl⟩ := returns_pure.mp returned
      cases same
      exact ⟨rfl, rfl, .refl before⟩
  | cons trade rest inductionHypothesis =>
      unfold appendPage at returned
      split_ifs at returned with beyond early
      · obtain ⟨same, rfl⟩ := returns_pure.mp returned
        cases same
        have late : ¬ tradeTime trade ≤ args.inputEndMs := not_le.mpr beyond
        have nothing :
            taken tradeTime args.inputStartMs args.inputEndMs
              (trade :: rest) = [] := by
          rw [taken, List.takeWhile_cons_of_neg (by simpa using late)]
          rfl
        rw [nothing]
        refine ⟨?_, rfl, .refl before⟩
        simp [passes, tradeTime, beyond]
      · obtain ⟨stops, observed, appends⟩ := inductionHypothesis returned
        have inTime : tradeTime trade ≤ args.inputEndMs := not_lt.mp beyond
        have notYet : ¬ args.inputStartMs ≤ tradeTime trade :=
          not_le.mpr early
        have others :
            taken tradeTime args.inputStartMs args.inputEndMs
                (trade :: rest) =
              taken tradeTime args.inputStartMs args.inputEndMs rest := by
          rw [taken, List.takeWhile_cons_of_pos (by simpa using inTime),
            List.filter_cons_of_neg (by simpa using notYet)]
          rfl
        rw [others]
        refine ⟨?_, observed, appends⟩
        rw [stops, passes, passes, List.any_cons,
          decide_eq_false (not_lt.mpr inTime), Bool.false_or]
      · obtain ⟨ordinal, _, read, rest'⟩ := returns_bind.mp returned
        cases read
        obtain ⟨_, between, called, continued⟩ := returns_bind.mp rest'
        obtain ⟨stops, observed, appends⟩ := inductionHypothesis continued
        have inTime : tradeTime trade ≤ args.inputEndMs := not_lt.mp beyond
        have started : args.inputStartMs ≤ tradeTime trade :=
          not_lt.mp early
        have first :
            taken tradeTime args.inputStartMs args.inputEndMs
                (trade :: rest) =
              trade ::
                taken tradeTime args.inputStartMs args.inputEndMs rest := by
          rw [taken, List.takeWhile_cons_of_pos (by simpa using inTime),
            List.filter_cons_of_pos (by simpa using started)]
          rfl
        rw [first]
        refine ⟨?_, observed, (appends_of_tradeCall called).trans appends⟩
        rw [stops, passes, passes, List.any_cons,
          decide_eq_false (not_lt.mpr inTime), Bool.false_or]

/-- The pages from an identifier on are taken up to the end of the range. -/
theorem appendPagesFrom_returns
    {tape : List AggTrade}
    (isTape : IsTape tradeId tradeTime tape)
    {rounds : Nat}
    {nextFromId : Int}
    {report appended : SymbolBackfillReport}
    {before after : BackfillState Payload}
    (returned :
      (appendPagesFrom environment args market
        ((answers tradeId binancePageLimit tape rounds nextFromId).map some)
        nextFromId report).Returns before appended after) :
    Appends environment market
      (rangeTrades args (fromNumber tradeId nextFromId tape))
      before after := by
  induction rounds generalizing nextFromId report before with
  | zero =>
      exact absurd returned not_returns_throw
  | succ rounds inductionHypothesis =>
      set rest := fromNumber tradeId nextFromId tape with isRest
      have ordered :
          rest.Pairwise (fun one other =>
            tradeTime one ≤ tradeTime other) :=
        isTape.times.filter _
      have split : rest = rest.take binancePageLimit ++
          rest.drop binancePageLimit :=
        (List.take_append_drop _ _).symm
      rw [answers, List.map_cons] at returned
      unfold appendPagesFrom at returned
      simp only [← isRest] at returned
      split at returned
      · rename_i isEmpty
        obtain ⟨_, rfl⟩ := returns_pure.mp returned
        have nothing : rest = [] := by
          rw [List.isEmpty_iff, List.take_eq_nil_iff] at isEmpty
          exact isEmpty.resolve_left (by decide)
        rw [nothing]
        exact .refl before
      · rename_i nonempty
        obtain ⟨⟨stop, paged⟩, between, page, continued⟩ :=
          returns_bind.mp returned
        obtain ⟨stops, _, appends⟩ := appendPage_returns page
        have notNil : rest.take binancePageLimit ≠ [] :=
          fun isNil => nonempty (by rw [isNil]; rfl)
        have next :=
          (fromNumber_next isTape.numbers (isRest.symm.trans split)
            notNil)
        rw [rangeTrades, ← taken_eq_between ordered, split]
        simp only at continued
        split_ifs at continued with stuck more
        · exact absurd continued not_returns_throw
        · -- The page is full and inside the range, so the next one is read.
          have goesOn :
              stop = false ∧
                (rest.take binancePageLimit).length = binancePageLimit := by
            simpa using more
          have remaining := inductionHypothesis continued
          have behind :
              fromNumber tradeId
                  (nextNumber tradeId nextFromId
                    (rest.take binancePageLimit)) tape =
                rest.drop binancePageLimit :=
            next.2
          change Appends environment market
            (rangeTrades args
              (fromNumber tradeId
                (nextNumber tradeId nextFromId
                  (rest.take binancePageLimit)) tape))
            between after at remaining
          rw [behind, rangeTrades,
            ← taken_eq_between (ordered.drop)] at remaining
          rw [taken_append_of_not_passes (stops.symm.trans goesOn.1)]
          exact appends.trans remaining
        · obtain ⟨same, rfl⟩ := returns_pure.mp continued
          by_cases stopped : stop = true
          · rw [taken_append_of_passes (stops.symm.trans stopped)]
            exact appends
          · have short :
                (rest.take binancePageLimit).length ≠ binancePageLimit := by
              intro full
              exact more (by simp [stopped, full])
            have last : rest.drop binancePageLimit = [] := by
              rw [List.length_take] at short
              exact List.drop_eq_nil_of_le (by omega)
            rw [last, List.append_nil]
            exact appends

/-- The alert that a range has no trades is no trade. -/
private theorem appendNoTradeGap_returns
    {report appended : SymbolBackfillReport}
    {before after : BackfillState Payload}
    (returned :
      (appendNoTradeGap environment args market report).Returns before
        appended after) :
    ∃ draft file, after.calls = before.calls ++ [.appendGapAlert draft file] := by
  obtain ⟨ordinal, _, read, rest⟩ := returns_bind.mp returned
  cases read
  obtain ⟨_, between, called, finished⟩ := returns_bind.mp rest
  obtain ⟨_, rfl⟩ := returns_pure.mp finished
  exact ⟨_, _, by rw [(makeCall_returns called).1]⟩

/--
The backfill of a market appends the trades of its range in order, and after
them at most an alert.
-/
theorem backfillSymbol_returns
    {tape : List AggTrade}
    (isTape : IsTape tradeId tradeTime tape)
    (exchange : AnswersFrom environment args market tape)
    {report : SymbolBackfillReport}
    {before after : BackfillState Payload}
    (returned :
      (backfillSymbol environment args market).Returns before report
        after) :
    ∃ alerts : List (GapAlertDraft Payload × FileOutcome),
      after.calls =
        before.calls ++
          tradeCalls environment market before.next
            (rangeTrades args tape) ++
          alerts.map (fun alert => .appendGapAlert alert.1 alert.2) := by
  obtain ⟨rounds, fromId⟩ := exchange.fromId
  have ordered :
      tape.Pairwise (fun one other => tradeTime one ≤ tradeTime other) :=
    isTape.times
  -- After the trades of the range the state is left, or one alert follows.
  have finish
      {reached : BackfillState Payload}
      (appends :
        Appends environment market (rangeTrades args tape) before reached)
      (ended :
        after = reached ∨
          ∃ draft file,
            after.calls = reached.calls ++ [.appendGapAlert draft file]) :
      ∃ alerts : List (GapAlertDraft Payload × FileOutcome),
        after.calls =
          before.calls ++
            tradeCalls environment market before.next
              (rangeTrades args tape) ++
            alerts.map (fun alert => .appendGapAlert alert.1 alert.2) := by
    rcases ended with rfl | ⟨draft, file, calls⟩
    · exact ⟨[], by rw [appends.calls, List.map_nil, List.append_nil]⟩
    · exact ⟨[(draft, file)], by rw [calls, appends.calls]; rfl⟩
  have split :
      rangeTrades args tape =
        firstPage args tape ++
          (rangeTrades args tape).drop binancePageLimit :=
    (List.take_append_drop _ _).symm
  unfold backfillSymbol at returned
  rw [exchange.byTime, fromId] at returned
  simp only at returned
  split at returned
  · rename_i isEmpty
    have nothing : rangeTrades args tape = [] := by
      rw [List.isEmpty_iff, firstPage, List.take_eq_nil_iff] at isEmpty
      exact isEmpty.resolve_left (by decide)
    refine finish (nothing ▸ Appends.refl before) (.inr ?_)
    exact appendNoTradeGap_returns returned
  · rename_i nonempty
    have notNil : firstPage args tape ≠ [] :=
      fun isNil => nonempty (by rw [isNil]; rfl)
    obtain ⟨⟨stop, paged⟩, between, page, continued⟩ :=
      returns_bind.mp returned
    obtain ⟨stops, _, appends⟩ := appendPage_returns page
    have inside : stop = false :=
      stops.trans (passes_take_between tape binancePageLimit)
    have takesPage :
        taken tradeTime args.inputStartMs args.inputEndMs
            (firstPage args tape) =
          firstPage args tape :=
      taken_take_between tape binancePageLimit
    rw [takesPage] at appends
    have conclude
        {reached : BackfillState Payload}
        {final : SymbolBackfillReport}
        (all :
          Appends environment market (rangeTrades args tape) before reached)
        (ended :
          (if final.recordCount = 0 then
              appendNoTradeGap environment args market final
            else
              pure final).Returns reached report after) := by
      refine finish all ?_
      split_ifs at ended
      · exact .inr (appendNoTradeGap_returns ended)
      · exact .inl (returns_pure.mp ended).2.symm
    split_ifs at continued with more
    · obtain ⟨final, reached, pages, ended⟩ := returns_bind.mp continued
      have remaining := appendPagesFrom_returns isTape pages
      rw [rangeTrades,
        between_fromNumber_next isTape split notNil] at remaining
      refine conclude ?_ ended
      rw [split]
      exact appends.trans remaining
    · obtain ⟨final, reached, pages, ended⟩ := returns_bind.mp continued
      obtain ⟨rfl, rfl⟩ := returns_pure.mp pages
      have short :
          (firstPage args tape).length ≠ binancePageLimit := by
        intro full
        exact more (by simp [inside, full])
      have last :
          (rangeTrades args tape).drop binancePageLimit = [] := by
        rw [firstPage, List.length_take] at short
        exact List.drop_eq_nil_of_le (by omega)
      refine conclude ?_ ended
      rw [split, last, List.append_nil]
      exact appends

end Pages

section Totality

/-- Nothing outside of the backfill fails. -/
structure Untroubled (environment : BackfillEnvironment Payload) : Prop where
  files : ∀ ordinal, environment.fileAt ordinal = .uploaded
  neverKilled : environment.killedAfter = none

/-- Reading the next ordinal returns. -/
theorem nextOrdinal_total :
    (nextOrdinal : Program Payload Nat).Total :=
  fun before => ⟨before.next, before, rfl⟩

/-- A call that every sink accepts returns. -/
theorem makeCall_total
    (untroubled : Untroubled environment)
    {call : SinkCall Payload}
    (accepted : ∀ sink, call.Returned sink) :
    (makeCall environment call).Total := by
  intro before
  have isOk : (call.perform before.history.sink).2 = .ok () :=
    accepted before.history.sink
  refine ⟨(), { before with
    history := stepCall before.history call
    calls := before.calls ++ [call] }, ?_⟩
  unfold makeCall
  refine returns_bind.mpr ⟨before, before, rfl, ?_⟩
  rw [untroubled.neverKilled, if_neg (by simp)]
  refine returns_bind.mpr ⟨(), _, rfl, ?_⟩
  rw [isOk]
  rfl

/-- A record that is buffered or uploaded is accepted. -/
private theorem appendRecord_uploaded
    {Key Record : Type}
    [LinearOrder Key]
    {config : L0StorageConfig}
    {family : ObjectFamily Key Record Payload}
    {partition : Key}
    {record : Record}
    {outcome : FileOutcome}
    {buffered : PartitionBuffers Key Record}
    {ledger : UploadLedger Payload}
    (uploaded : outcome = .uploaded) :
    (appendRecord config family partition record outcome buffered
      ledger).2.2 = .ok () := by
  apply appendRecord_ok_iff.mpr
  intro _
  rw [uploaded]
  rfl

/-- Every sink accepts a raw market event. -/
theorem rawCall_returned
    {file : FileOutcome}
    (uploaded : file = .uploaded)
    (draft : RawMarketEventDraft Payload)
    (sink : L0StorageSink Payload) :
    (SinkCall.appendRawMarketEvent draft .noMarkPrice file).Returned
      sink := by
  have published : sink.publishLiveTick .noMarkPrice = .ok () := by
    unfold L0StorageSink.publishLiveTick
    split <;> rfl
  change (sink.appendRawMarketEvent _ .noMarkPrice _).2 = .ok ()
  rw [appendRawMarketEvent_ok published]
  exact appendRecord_uploaded uploaded

/-- Every sink accepts a gap alert. -/
theorem gapCall_returned
    {file : FileOutcome}
    (uploaded : file = .uploaded)
    (draft : GapAlertDraft Payload)
    (sink : L0StorageSink Payload) :
    (SinkCall.appendGapAlert draft file).Returned sink :=
  appendRecord_uploaded uploaded

/-- The alert that a range has no trades is appended. -/
theorem appendNoTradeGap_total
    (untroubled : Untroubled environment)
    (report : SymbolBackfillReport) :
    (appendNoTradeGap environment args market report).Total := by
  refine total_bind nextOrdinal_total (fun ordinal => ?_)
  exact total_bind
    (makeCall_total untroubled
      (gapCall_returned (untroubled.files ordinal) _))
    (fun _ => total_pure _)

/-- A page is appended to its end. -/
theorem appendPage_total
    (untroubled : Untroubled environment)
    (page : List AggTrade)
    (report : SymbolBackfillReport) :
    (appendPage environment args market page report).Total := by
  induction page generalizing report with
  | nil =>
      exact total_pure _
  | cons trade rest inductionHypothesis =>
      unfold appendPage
      split_ifs
      · exact total_pure _
      · exact inductionHypothesis report
      · refine total_bind nextOrdinal_total (fun ordinal => ?_)
        exact total_bind
          (makeCall_total untroubled
            (rawCall_returned (untroubled.files ordinal) _))
          (fun _ => inductionHypothesis _)

/-- With enough answers the pages are read to their end. -/
private theorem appendPagesFrom_total
    (untroubled : Untroubled environment)
    {tape : List AggTrade}
    (isTape : IsTape tradeId tradeTime tape)
    {rounds : Nat}
    {nextFromId : Int}
    (enough : (fromNumber tradeId nextFromId tape).length < rounds)
    (report : SymbolBackfillReport) :
    (appendPagesFrom environment args market
      ((answers tradeId binancePageLimit tape rounds nextFromId).map some)
      nextFromId report).Total := by
  induction rounds generalizing nextFromId report with
  | zero =>
      cases enough
  | succ rounds inductionHypothesis =>
      set rest := fromNumber tradeId nextFromId tape with isRest
      have split : rest = rest.take binancePageLimit ++
          rest.drop binancePageLimit :=
        (List.take_append_drop _ _).symm
      rw [answers, List.map_cons]
      unfold appendPagesFrom
      simp only [← isRest]
      split
      · exact total_pure _
      · rename_i nonempty
        have notNil : rest.take binancePageLimit ≠ [] :=
          fun isNil => nonempty (by rw [isNil]; rfl)
        obtain ⟨advances, behind⟩ :=
          fromNumber_next isTape.numbers (isRest.symm.trans split) notNil
        have restNotNil : rest ≠ [] :=
          fun isNil => notNil (by rw [isNil, List.take_nil])
        have shorter :
            (fromNumber tradeId
                (nextNumber tradeId nextFromId
                  (rest.take binancePageLimit)) tape).length <
              rounds := by
          rw [behind, List.length_drop]
          have positive := List.length_pos_iff.mpr restNotNil
          unfold binancePageLimit
          omega
        refine total_bind (appendPage_total untroubled _ report) ?_
        rintro ⟨stop, paged⟩
        simp only
        split_ifs with stuck
        · exact absurd stuck (not_le.mpr advances)
        · exact inductionHypothesis shorter paged
        · exact total_pure _

/-- An untroubled backfill of a market returns. -/
theorem backfillSymbol_total
    (untroubled : Untroubled environment)
    {tape : List AggTrade}
    (isTape : IsTape tradeId tradeTime tape)
    (byTime : environment.tradesByTime market = some (firstPage args tape))
    (fromId :
      environment.tradesFromId market =
        (answers tradeId binancePageLimit tape (tape.length + 1)
          (nextNumber tradeId 0 (firstPage args tape))).map some) :
    (backfillSymbol environment args market).Total := by
  have conclude (report : SymbolBackfillReport) :
      (if report.recordCount = 0 then
          appendNoTradeGap environment args market report
        else
          pure report).Total := by
    split_ifs
    · exact appendNoTradeGap_total untroubled report
    · exact total_pure report
  have enough (number : Int) :
      (fromNumber tradeId number tape).length < tape.length + 1 :=
    Nat.lt_succ_of_le (List.length_filter_le _ _)
  unfold backfillSymbol
  rw [byTime, fromId]
  simp only
  split
  · exact appendNoTradeGap_total untroubled _
  · refine total_bind (appendPage_total untroubled _ _) ?_
    rintro ⟨stop, paged⟩
    simp only
    split_ifs
    · exact total_bind
        (appendPagesFrom_total untroubled isTape (enough _) paged) conclude
    · exact total_bind (total_pure paged) conclude

end Totality

end MarketIngest.Backfill
