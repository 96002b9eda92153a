import MarketIngest.BackfillCompleteness
import MarketIngest.UpbitBackfill

namespace MarketIngest.Backfill

open Fallible Storage

/-!
# The ends of the backfills

An exchange may answer with any pages.  The loop over Binance only goes on with
a greater identifier, so it never asks twice for the same.  The loop over Upbit
only checks that a page does not end where the one before it has ended, and asks
again for what it has asked for as soon as pages repeat in a longer cycle.
-/

variable {Payload : Type}

/-- The outcomes of a backfill by the number of rounds of its loop. -/
abbrev Outcomes (Payload Request : Type) :=
  Nat →
    RequestState Payload Request ×
      Except BackfillError (Option SymbolBackfillReport)

/-- The loop never sends two requests with the same cursor, sends finitely many,
and stops with a report or because its cursor did not advance. -/
structure PagingEnds
    {Request : Type}
    (outcomes : Outcomes Payload Request)
    (cursorOf : Request → Option Int)
    (stays : String) : Prop where
  distinct : ∀ rounds, ((outcomes rounds).1.2.map cursorOf).Nodup
  finite : ∃ most, ∀ rounds, (outcomes rounds).1.2.length ≤ most
  stops :
    ∃ rounds,
      (∃ report, (outcomes rounds).2 = .ok (some report)) ∨
        (outcomes rounds).2 = .error (.invalidConfig stays)

section Notes

variable {Request : Type}

/-- A backfill sends the requests of its loop and ends as the loop does. -/
structure EndsAs
    (loop whole :
      RequestState Payload Request ×
        Except BackfillError (Option SymbolBackfillReport)) : Prop where
  requests : whole.1.2 = loop.1.2
  reported :
    (∃ report, loop.2 = .ok (some report)) →
      ∃ report, whole.2 = .ok (some report)
  failed : ∀ failure, loop.2 = .error failure → whole.2 = .error failure
  running : loop.2 = .ok none → whole.2 = .ok none

/-- What is noted after the loop changes neither its requests nor its end. -/
theorem endsAs_of_note
    {note :
      SymbolBackfillReport →
      Requesting Payload Request (Option SymbolBackfillReport)}
    (notes :
      ∀ report state,
        ∃ sink noted,
          (note report).outcome state = ((sink, state.2), .ok (some noted)))
    (loop : Requesting Payload Request (Option SymbolBackfillReport))
    (before : RequestState Payload Request) :
    EndsAs (loop.outcome before)
      ((do
        let read ← loop
        match read with
        | none => pure none
        | some report => note report :
        Requesting Payload Request
          (Option SymbolBackfillReport)).outcome before) := by
  rw [outcome_bind]
  rcases loop.outcome before with ⟨state, result⟩
  cases result with
  | error failure =>
      exact
        { requests := rfl
          reported := fun ⟨_, same⟩ => nomatch same
          failed := fun _ same => same
          running := fun same => nomatch same }
  | ok read =>
      cases read with
      | none =>
          exact
            { requests := rfl
              reported := fun ⟨_, same⟩ => nomatch same
              failed := fun _ same => nomatch same
              running := fun _ => rfl }
      | some report =>
          obtain ⟨sink, noted, outcome⟩ := notes report state
          simp only [outcome]
          exact
            { requests := rfl
              reported := fun _ => ⟨noted, rfl⟩
              failed := fun _ same => nomatch same
              running := fun same => nomatch same }

end Notes

section Binance

/-- The cursor of a request. -/
def AggTradesRequest.cursor : AggTradesRequest → Option Int
  | .byTime _ _ => none
  | .fromId id => some id

/-- The text of the error of an identifier that does not advance. -/
def binanceCursorStays (market : BinanceMarket) : String :=
  "Binance aggTrades cursor did not advance for " ++ market.rawSymbol

variable
  {server : AggTradesServer}
  {environment : BackfillEnvironment Payload}

/-- What the loop has done after a number of rounds. -/
structure AsksAscending
    (market : BinanceMarket)
    (rounds : Nat)
    (nextFromId : Int)
    (before : RequestState Payload AggTradesRequest)
    (outcome :
      RequestState Payload AggTradesRequest ×
        Except BackfillError (Option SymbolBackfillReport))
    (ids : List Int) : Prop where
  requests : outcome.1.2 = before.2 ++ ids.map .fromId
  ascending : ids.Pairwise (· < ·)
  bounded : ∀ id ∈ ids, nextFromId ≤ id ∧ id ≤ i64Max
  result :
    (∃ report, outcome.2 = .ok (some report)) ∨
      outcome.2 = .error (.invalidConfig (binanceCursorStays market)) ∨
      (outcome.2 = .ok none ∧ ids.length = rounds)

/-- The identifier after a page is representable. -/
theorem nextCandidate_bounds
    {page : List AggTrade}
    (nonempty : page ≠ [])
    (nextFromId : Int) :
    i64Min ≤ nextCandidate nextFromId page ∧
      nextCandidate nextFromId page ≤ i64Max := by
  cases isLast : page.getLast? with
  | none =>
      exact absurd (List.getLast?_eq_none_iff.mp isLast) nonempty
  | some last =>
      rw [nextCandidate, isLast]
      exact wrappingAdd_bounds _ _

/-- The loop asks for ever greater identifiers. -/
theorem readPagesFrom_asksAscending
    (untroubled : Untroubled environment)
    (answers :
      ∀ number request, ∃ page, server.answer number request = some page)
    (args : BackfillArgs)
    (market : BinanceMarket)
    (rounds : Nat)
    {nextFromId : Int}
    (upper : nextFromId ≤ i64Max)
    (report : SymbolBackfillReport)
    (before : RequestState Payload AggTradesRequest) :
    ∃ ids,
      AsksAscending market rounds nextFromId before
        ((readPagesFrom server environment args market rounds nextFromId
          report).outcome before) ids := by
  induction rounds generalizing nextFromId report before with
  | zero =>
      exact ⟨[], (List.append_nil _).symm, .nil, by simp,
        .inr (.inr ⟨rfl, rfl⟩)⟩
  | succ rounds inductionHypothesis =>
      obtain ⟨page, answered⟩ :=
        answers before.2.length (.fromId nextFromId)
      have fetched :
          (fetchAggTrades server (.fromId nextFromId)).Returns before page
            (before.1, before.2 ++ [.fromId nextFromId]) :=
        fetchPage_returns answered
      -- Whatever ends the loop here, this was its only request.
      have last
          {outcome :
            RequestState Payload AggTradesRequest ×
              Except BackfillError (Option SymbolBackfillReport)}
          (requests : outcome.1.2 = before.2 ++ [.fromId nextFromId])
          (result :
            (∃ report, outcome.2 = .ok (some report)) ∨
              outcome.2 =
                .error (.invalidConfig (binanceCursorStays market))) :
          AsksAscending market (rounds + 1) nextFromId before outcome
            [nextFromId] :=
        ⟨requests, List.pairwise_singleton _ _,
          fun id member => by
            rw [List.mem_singleton.mp member]
            exact ⟨le_refl _, upper⟩,
          result.elim .inl (fun failed => .inr (.inl failed))⟩
      rw [readPagesFrom, outcome_bind_of_returns fetched, takePage]
      by_cases isNil : page = []
      · rw [if_pos (by simpa using isNil)]
        exact ⟨[nextFromId], last rfl (.inl ⟨report, rfl⟩)⟩
      · obtain ⟨sink, appended, _⟩ :=
          appendPage_untroubled untroubled args market page report before.1
        rw [if_neg (by simpa using isNil),
          outcome_bind_of_returns (appended.onFirst _)]
        simp only
        split_ifs with stuck more
        · exact ⟨[nextFromId], last rfl (.inr rfl)⟩
        · obtain ⟨_, nextUpper⟩ := nextCandidate_bounds isNil nextFromId
          obtain ⟨ids, requests, ascending, bounded, result⟩ :=
            inductionHypothesis nextUpper
              (observeAll report
                (Paging.taken tradeTime args.inputStartMs args.inputEndMs
                  page))
              (sink, before.2 ++ [.fromId nextFromId])
          refine ⟨nextFromId :: ids, ?_, ?_, ?_, ?_⟩
          · rw [requests, List.map_cons, List.append_assoc]
            rfl
          · refine List.pairwise_cons.mpr ⟨fun id member => ?_, ascending⟩
            have := (bounded id member).1
            omega
          · intro id member
            rcases List.mem_cons.mp member with rfl | later
            · exact ⟨le_refl _, upper⟩
            · have := bounded id later
              omega
          · exact result.imp_right (Or.imp_right (fun running =>
              ⟨running.1, by rw [List.length_cons, running.2]⟩))
        · exact ⟨[nextFromId], last rfl (.inl ⟨_, rfl⟩)⟩

/-- The alert about an empty range needs no request. -/
theorem noteNoTrades_outcome
    (untroubled : Untroubled environment)
    (args : BackfillArgs)
    (market : BinanceMarket)
    (report : SymbolBackfillReport)
    (state : RequestState Payload AggTradesRequest) :
    ∃ sink noted,
      (noteNoTrades environment args market report).outcome state =
        ((sink, state.2), .ok (some noted)) := by
  unfold noteNoTrades
  by_cases nothing : report.recordCount = 0
  · obtain ⟨sink, noted, _⟩ :=
      appendNoTradeGap_untroubled untroubled args market report state.1
    refine ⟨sink, report.noteGap, ?_⟩
    rw [if_pos nothing, outcome_bind_of_returns (noted.onFirst state.2)]
    rfl
  · refine ⟨state.1, report, ?_⟩
    rw [if_neg nothing]
    rfl

/-- The backfill of a market of Binance asks by time, and then for ever greater
identifiers. -/
theorem requestSymbol_asksAscending
    (untroubled : Untroubled environment)
    (answers :
      ∀ number request, ∃ page, server.answer number request = some page)
    (args : BackfillArgs)
    (market : BinanceMarket)
    (rounds : Nat)
    (before : BackfillState Payload) :
    ∃ ids,
      AsksAscending market rounds i64Min
        (before, [.byTime args.inputStartMs args.inputEndMs])
        ((requestSymbol server environment args market rounds).outcome
          (before, [])) ids := by
  obtain ⟨page, answered⟩ :=
    answers 0 (.byTime args.inputStartMs args.inputEndMs)
  have fetched :
      (fetchAggTrades server
          (.byTime args.inputStartMs args.inputEndMs)).Returns
        (before, []) page
        (before, [.byTime args.inputStartMs args.inputEndMs]) :=
    fetchPage_returns answered
  -- Without the loop there are no other requests.
  have alone
      {outcome :
        RequestState Payload AggTradesRequest ×
          Except BackfillError (Option SymbolBackfillReport)}
      {report : SymbolBackfillReport}
      (requests :
        outcome.1.2 = [.byTime args.inputStartMs args.inputEndMs])
      (result : outcome.2 = .ok (some report)) :
      AsksAscending market rounds i64Min
        (before, [.byTime args.inputStartMs args.inputEndMs]) outcome [] :=
    ⟨requests, .nil, by simp, .inl ⟨report, result⟩⟩
  unfold requestSymbol
  rw [outcome_bind_of_returns fetched]
  by_cases isNil : page = []
  · obtain ⟨sink, noted, _⟩ :=
      appendNoTradeGap_untroubled untroubled args market
        (.empty market.rawSymbol market.baseAsset) before
    rw [if_pos (by simpa using isNil),
      outcome_bind_of_returns (noted.onFirst _)]
    exact ⟨[], alone rfl rfl⟩
  · obtain ⟨sink, appended, _⟩ :=
      appendPage_untroubled untroubled args market page
        (.empty market.rawSymbol market.baseAsset) before
    rw [if_neg (by simpa using isNil),
      outcome_bind_of_returns (appended.onFirst _)]
    simp only
    unfold readOn
    split_ifs with more
    · obtain ⟨lower, upper⟩ := nextCandidate_bounds isNil 0
      obtain ⟨ids, requests, ascending, bounded, result⟩ :=
        readPagesFrom_asksAscending untroubled answers args market rounds
          upper
          (observeAll (.empty market.rawSymbol market.baseAsset)
            (Paging.taken tradeTime args.inputStartMs args.inputEndMs page))
          (sink, [.byTime args.inputStartMs args.inputEndMs])
      have within : ∀ id ∈ ids, i64Min ≤ id ∧ id ≤ i64Max :=
        fun id member =>
          ⟨lower.trans (bounded id member).1, (bounded id member).2⟩
      have ends :=
        endsAs_of_note (noteNoTrades_outcome untroubled args market)
          (readPagesFrom server environment args market rounds
            (nextCandidate 0 page)
            (observeAll (.empty market.rawSymbol market.baseAsset)
              (Paging.taken tradeTime args.inputStartMs args.inputEndMs
                page)))
          (sink, [.byTime args.inputStartMs args.inputEndMs])
      refine ⟨ids, ends.requests.trans requests, ascending, within, ?_⟩
      exact result.imp ends.reported
        (Or.imp (ends.failed _)
          (fun running => ⟨ends.running running.1, running.2⟩))
    · obtain ⟨after, noted, outcome⟩ :=
        noteNoTrades_outcome untroubled args market
          (observeAll (.empty market.rawSymbol market.baseAsset)
            (Paging.taken tradeTime args.inputStartMs args.inputEndMs page))
          (sink, [.byTime args.inputStartMs args.inputEndMs])
      rw [outcome]
      exact ⟨[], alone rfl rfl⟩

/-- The backfill of a market of Binance ends on any pages. -/
theorem requestSymbol_pagingEnds
    (untroubled : Untroubled environment)
    (answers :
      ∀ number request, ∃ page, server.answer number request = some page)
    (args : BackfillArgs)
    (market : BinanceMarket)
    (before : BackfillState Payload) :
    PagingEnds
      (fun rounds =>
        (requestSymbol server environment args market rounds).outcome
          (before, []))
      AggTradesRequest.cursor (binanceCursorStays market) := by
  have asks (rounds : Nat) :=
    requestSymbol_asksAscending untroubled answers args market rounds before
  have few {ids : List Int}
      (ascending : ids.Pairwise (· < ·))
      (within : ∀ id ∈ ids, i64Min ≤ id ∧ id ≤ i64Max) :
      ids.length ≤ i64Count :=
    length_le_of_distinct (ascending.imp ne_of_lt) within
  constructor
  · intro rounds
    obtain ⟨ids, requests, ascending, _, _⟩ := asks rounds
    rw [requests, List.map_append, List.map_map]
    refine List.nodup_cons.mpr ⟨?_, ?_⟩
    · simp [AggTradesRequest.cursor]
    · have distinct : ids.Nodup := ascending.imp ne_of_lt
      exact distinct.map (Option.some_injective Int)
  · refine ⟨i64Count + 1, fun rounds => ?_⟩
    obtain ⟨ids, requests, ascending, within, _⟩ := asks rounds
    rw [requests, List.length_append, List.length_map, Nat.add_comm]
    exact Nat.add_le_add_right (few ascending within) 1
  · obtain ⟨ids, _, ascending, within, result⟩ := asks (i64Count + 1)
    refine ⟨i64Count + 1, ?_⟩
    rcases result with reported | failed | ⟨_, running⟩
    · exact .inl reported
    · exact .inr failed
    · have := few ascending within
      omega

end Binance

section Upbit

variable {Number : Type}

/-- The pages that an exchange returns, one for each request. -/
structure TickPages (Number : Type) where
  page : Nat → List (UpbitTrade Number)
  representable :
    ∀ number, ∀ trade ∈ page number,
      i64Min ≤ trade.sequentialId ∧ trade.sequentialId ≤ i64Max

namespace TickPages

/-- The exchange that returns the pages. -/
def server (pages : TickPages Number) : TicksServer Number where
  answer := fun number _ => some (pages.page number)
  representable := fun number _ _ answered trade member =>
    pages.representable number trade
      (Option.some.inj answered ▸ member)

/-- Where a page ends. -/
def endOf (pages : TickPages Number) (number : Nat) : Option Int :=
  (pages.page number).getLast?.map UpbitTrade.sequentialId

/-- The cursor of the request for a page: where the page before it ends. -/
def cursorAt (pages : TickPages Number) : Nat → Option Int
  | 0 => none
  | number + 1 => pages.endOf number

/-- The page has a trade from before the range. -/
def reachesStart
    (args : BackfillArgs)
    (page : List (UpbitTrade Number)) : Bool :=
  page.any (fun trade =>
    trade.timestamp ≤ args.inputEndMs && trade.timestamp < args.inputStartMs)

/-- The page is full and inside the range, and ends elsewhere than the one
before it. -/
structure GoesOn
    (pages : TickPages Number)
    (args : BackfillArgs)
    (number : Nat) : Prop where
  full : upbitPageLimit ≤ (pages.page number).length
  inRange : reachesStart args (pages.page number) = false
  moves : pages.cursorAt number ≠ pages.endOf number

/-- As long as pages go on, none ends where an earlier one has ended that is not
the one just before it. -/
def NeverReturns (pages : TickPages Number) (args : BackfillArgs) : Prop :=
  ∀ earlier later,
    earlier + 1 < later →
    (∀ number ≤ later, pages.GoesOn args number) →
    pages.endOf earlier ≠ pages.endOf later

end TickPages

variable
  {environment : UpbitEnvironment Number Payload}
  {pages : TickPages Number}

/-- How a page is appended when nothing fails. -/
theorem appendPageTrades_untroubled
    (untroubled : Untroubled environment.surroundings)
    (args : BackfillArgs)
    (market : UpbitBackfillMarket)
    (page : List (UpbitTrade Number))
    (reached : Bool)
    (report : SymbolBackfillReport)
    (before : BackfillState Payload) :
    ∃ appended after,
      (appendPageTrades environment args market page reached
        report).Returns before
        (reached || TickPages.reachesStart args page, appended) after := by
  induction page generalizing reached report before with
  | nil =>
      refine ⟨report, before, returns_pure.mpr ⟨?_, rfl⟩⟩
      rw [TickPages.reachesStart, List.any_nil, Bool.or_false]
  | cons trade rest inductionHypothesis =>
      unfold appendPageTrades
      split_ifs with late early
      · obtain ⟨appended, after, returned⟩ :=
          inductionHypothesis reached report before
        refine ⟨appended, after, ?_⟩
        have notYet :
            decide (trade.timestamp ≤ args.inputEndMs) = false :=
          decide_eq_false (not_le.mpr late)
        rw [TickPages.reachesStart, List.any_cons, notYet,
          Bool.false_and, Bool.false_or]
        exact returned
      · obtain ⟨appended, after, returned⟩ :=
          inductionHypothesis true report before
        refine ⟨appended, after, ?_⟩
        rw [Bool.true_or] at returned
        rw [TickPages.reachesStart, List.any_cons,
          decide_eq_true (not_lt.mp late), decide_eq_true early,
          Bool.true_and, Bool.true_or, Bool.or_true]
        exact returned
      · obtain ⟨_, between, called⟩ :=
          makeCall_total untroubled
            (rawCall_returned (untroubled.files before.next)
              (upbitTradeDraft environment market trade
                (environment.surroundings.clockAt before.next)))
            before
        obtain ⟨appended, after, returned⟩ :=
          inductionHypothesis reached (report.observe trade.timestamp)
            between
        refine ⟨appended, after, ?_⟩
        rw [TickPages.reachesStart, List.any_cons, decide_eq_false early,
          Bool.and_false, Bool.false_or]
        refine returns_bind.mpr ⟨before.next, before, rfl, ?_⟩
        exact returns_bind.mpr ⟨_, between, called, returned⟩

/-- The cursor moves to the end of the page, if it was elsewhere. -/
theorem advanceCursor_eq
    {page : List (UpbitTrade Number)}
    (nonempty : page ≠ [])
    (current : Option Int)
    (market : String) :
    advanceCursor page current market =
      if current = page.getLast?.map UpbitTrade.sequentialId then
        .error (.invalidConfig (upbitCursorStays market))
      else
        .ok (page.getLast?.map UpbitTrade.sequentialId) := by
  cases isLast : page.getLast? with
  | none =>
      exact absurd (List.getLast?_eq_none_iff.mp isLast) nonempty
  | some last =>
      rw [advanceCursor, isLast]
      rfl

/-- What the loop has done after a number of rounds. -/
structure AsksPages
    (pages : TickPages Number)
    (args : BackfillArgs)
    (market : UpbitBackfillMarket)
    (rounds first : Nat)
    (before : RequestState Payload TicksRequest)
    (outcome :
      RequestState Payload TicksRequest ×
        Except BackfillError (Option SymbolBackfillReport))
    (count : Nat) : Prop where
  cursors :
    outcome.1.2.map TicksRequest.cursor =
      before.2.map TicksRequest.cursor ++
        (List.range' first count).map pages.cursorAt
  wentOn :
    ∀ number, first ≤ number → number + 1 < first + count →
      pages.GoesOn args number
  asked :
    ∀ more < rounds,
      (∀ number, first ≤ number → number < first + more →
        pages.GoesOn args number) →
      more < count
  result :
    (∃ report, outcome.2 = .ok (some report)) ∨
      outcome.2 = .error (.invalidConfig (upbitCursorStays market.market)) ∨
      (outcome.2 = .ok none ∧ count = rounds)

/-- The loop asks for each page with the end of the page before it. -/
theorem readTicksFrom_asksPages
    (pages : TickPages Number)
    (untroubled : Untroubled environment.surroundings)
    (args : BackfillArgs)
    (market : UpbitBackfillMarket)
    (initial : UpbitInitialCursor)
    (rounds first : Nat)
    (isFirst : Bool)
    (report : SymbolBackfillReport)
    (before : RequestState Payload TicksRequest)
    (position : before.2.length = first) :
    ∃ count,
      AsksPages pages args market rounds first before
        ((readTicksFrom pages.server environment args market initial rounds
          (pages.cursorAt first) isFirst report).outcome before) count := by
  induction rounds generalizing first isFirst report before with
  | zero =>
      refine ⟨0, ?_, ?_, ?_, .inr (.inr ⟨rfl, rfl⟩)⟩
      · exact (List.append_nil _).symm
      · intro number notBefore early
        omega
      · intro more few
        exact absurd few (Nat.not_lt_zero more)
  | succ rounds inductionHypothesis =>
      let request : TicksRequest :=
        { market := market.market
          count := upbitPageLimit
          initial := if isFirst then some initial else none
          cursor := pages.cursorAt first }
      have fetched :
          (fetchPage pages.server.answer request).Returns before
            (pages.page first) (before.1, before.2 ++ [request]) := by
        apply fetchPage_returns
        rw [position]
        rfl
      -- Whatever ends the loop here, this was its only request.
      have last
          {outcome :
            RequestState Payload TicksRequest ×
              Except BackfillError (Option SymbolBackfillReport)}
          (ended : ¬ pages.GoesOn args first)
          (requests : outcome.1.2 = before.2 ++ [request])
          (result :
            (∃ report, outcome.2 = .ok (some report)) ∨
              outcome.2 =
                .error (.invalidConfig (upbitCursorStays market.market))) :
          AsksPages pages args market (rounds + 1) first before outcome 1 := by
        refine ⟨?_, ?_, ?_, result.imp_right .inl⟩
        · rw [requests, List.map_append]
          rfl
        · intro number notBefore early
          omega
        · intro more few went
          by_contra many
          exact ended (went first (le_refl _) (by omega))
      rw [readTicksFrom, outcome_bind_of_returns fetched]
      by_cases isNil : pages.page first = []
      · rw [if_pos (by simpa using isNil)]
        refine ⟨1, last (fun goes => ?_) rfl (.inl ⟨report, rfl⟩)⟩
        have full := goes.full
        rw [isNil, List.length_nil] at full
        exact absurd full (by decide)
      · obtain ⟨appended, sink, returned⟩ :=
          appendPageTrades_untroubled untroubled args market
            (pages.page first) false report before.1
        rw [if_neg (by simpa using isNil),
          outcome_bind_of_returns (returned.onFirst _)]
        simp only [Bool.false_or]
        by_cases reached :
            TickPages.reachesStart args (pages.page first) = true
        · rw [if_pos reached]
          refine ⟨1, last (fun goes => ?_) rfl (.inl ⟨appended, rfl⟩)⟩
          exact absurd reached (by rw [goes.inRange]; decide)
        · have advanced :
              advanceCursor (pages.page first) (pages.cursorAt first)
                  market.market =
                if pages.cursorAt first = pages.endOf first then
                  .error (.invalidConfig (upbitCursorStays market.market))
                else
                  .ok (pages.endOf first) :=
            advanceCursor_eq isNil _ _
          rw [if_neg reached, advanced]
          by_cases moves : pages.cursorAt first = pages.endOf first
          · rw [if_pos moves]
            exact ⟨1, last (fun goes => goes.moves moves) rfl (.inr rfl)⟩
          · rw [if_neg moves]
            simp only
            by_cases short : (pages.page first).length < upbitPageLimit
            · rw [if_pos short]
              exact ⟨1, last (fun goes => absurd goes.full (not_le.mpr short))
                rfl (.inl ⟨appended, rfl⟩)⟩
            · rw [if_neg short]
              have goes : pages.GoesOn args first :=
                ⟨not_lt.mp short, by simpa using reached, moves⟩
              obtain ⟨count, cursors, wentOn, asked, result⟩ :=
                inductionHypothesis (first + 1) false appended
                  (sink, before.2 ++ [request])
                  (by rw [List.length_append, position]; rfl)
              refine ⟨count + 1, ?_, ?_, ?_, ?_⟩
              · rw [List.range'_succ, List.map_cons]
                exact cursors.trans (by
                  rw [List.map_append, List.append_assoc]
                  rfl)
              · intro number notBefore early
                by_cases isFirstPage : number = first
                · exact isFirstPage ▸ goes
                · exact wentOn number (by omega) (by omega)
              · intro more few went
                cases more with
                | zero => exact Nat.succ_pos count
                | succ more =>
                    exact Nat.succ_lt_succ
                      (asked more (by omega)
                        (fun number notBefore early =>
                          went number (by omega) (by omega)))
              · exact result.imp_right (Or.imp_right (fun running =>
                  ⟨running.1, by rw [running.2]⟩))

/-- The alert about an empty range needs no request. -/
theorem noteUpbitGap_outcome
    (untroubled : Untroubled environment.surroundings)
    (args : BackfillArgs)
    (market : UpbitBackfillMarket)
    (report : SymbolBackfillReport)
    (state : RequestState Payload TicksRequest) :
    ∃ sink noted,
      (if report.recordCount = 0 then do
          let noted ← onFirst (appendUpbitGap environment args market report)
          pure (some noted)
        else
          pure (some report) :
        Requesting Payload TicksRequest
          (Option SymbolBackfillReport)).outcome state =
        ((sink, state.2), .ok (some noted)) := by
  by_cases nothing : report.recordCount = 0
  · obtain ⟨_, after, called⟩ :=
      makeCall_total untroubled
        (gapCall_returned (untroubled.files state.1.next)
          { venue := "upbit"
            symbolNative := market.market
            gapType := "historical_range_empty"
            detectedAtMs := environment.surroundings.clockAt state.1.next
            payload :=
              environment.surroundings.payloads.emptyGap args.inputStartMs
                args.inputEndMs "no_trade_records_returned" })
        state.1
    have noted :
        (appendUpbitGap environment args market report).Returns state.1
          report.noteGap after :=
      returns_bind.mpr ⟨state.1.next, state.1, rfl,
        returns_bind.mpr ⟨_, after, called, rfl⟩⟩
    refine ⟨after, report.noteGap, ?_⟩
    rw [if_pos nothing, outcome_bind_of_returns (noted.onFirst state.2)]
    rfl
  · refine ⟨state.1, report, ?_⟩
    rw [if_neg nothing]
    rfl

/-- The backfill of a market of Upbit asks for pages from the first on. -/
theorem requestUpbitSymbol_asksPages
    (pages : TickPages Number)
    (untroubled : Untroubled environment.surroundings)
    (args : BackfillArgs)
    (market : UpbitBackfillMarket)
    {initial : UpbitInitialCursor}
    (supported :
      initialCursor environment.nowMs args.inputEndMs = .ok initial)
    (rounds : Nat)
    (before : BackfillState Payload) :
    ∃ count,
      AsksPages pages args market rounds 0 (before, [])
        ((requestUpbitSymbol pages.server environment args market
          rounds).outcome (before, [])) count := by
  obtain ⟨count, cursors, wentOn, asked, result⟩ :=
    readTicksFrom_asksPages pages untroubled args market initial
      rounds 0 true (.empty market.market market.baseAsset) (before, []) rfl
  unfold requestUpbitSymbol
  rw [supported]
  have ends :=
    endsAs_of_note (noteUpbitGap_outcome untroubled args market)
      (readTicksFrom pages.server environment args market initial rounds none
        true (.empty market.market market.baseAsset))
      (before, [])
  refine ⟨count, ?_, wentOn, asked, ?_⟩
  · exact (congrArg (List.map TicksRequest.cursor) ends.requests).trans
      cursors
  · exact result.imp ends.reported
      (Or.imp (ends.failed _)
        (fun running => ⟨ends.running running.1, running.2⟩))

/-- A page after which the loop goes on ends at a representable identifier. -/
theorem TickPages.GoesOn.endOf
    {args : BackfillArgs}
    {number : Nat}
    (goes : pages.GoesOn args number) :
    ∃ id, pages.endOf number = some id ∧ i64Min ≤ id ∧ id ≤ i64Max := by
  cases isLast : (pages.page number).getLast? with
  | none =>
      have full := goes.full
      rw [List.getLast?_eq_none_iff.mp isLast, List.length_nil] at full
      exact absurd full (by decide)
  | some last =>
      refine ⟨last.sequentialId, ?_, ?_⟩
      · rw [TickPages.endOf, isLast]
        rfl
      · exact pages.representable number last (List.mem_of_getLast? isLast)

/-- The cursors of the requests differ when no page returns. -/
theorem TickPages.NeverReturns.cursorAt_ne
    {args : BackfillArgs}
    (never : pages.NeverReturns args)
    {count earlier later : Nat}
    (wentOn : ∀ number, number + 1 < count → pages.GoesOn args number)
    (ordered : earlier < later)
    (asked : later < count) :
    pages.cursorAt earlier ≠ pages.cursorAt later := by
  obtain ⟨previous, rfl⟩ : ∃ previous, later = previous + 1 :=
    ⟨later - 1, by omega⟩
  have goes := wentOn previous asked
  cases earlier with
  | zero =>
      obtain ⟨id, isEnd, _⟩ := goes.endOf
      rw [TickPages.cursorAt, TickPages.cursorAt, isEnd]
      exact nofun
  | succ earlier =>
      by_cases adjacent : earlier + 1 = previous
      · have moves := goes.moves
        rw [← adjacent] at moves ⊢
        exact moves
      · exact never earlier previous (by omega)
          (fun number notAfter => wentOn number (by omega))

/-- Only so many requests have different cursors. -/
theorem TickPages.NeverReturns.count_le
    {args : BackfillArgs}
    (never : pages.NeverReturns args)
    {count : Nat}
    (wentOn : ∀ number, number + 1 < count → pages.GoesOn args number) :
    count ≤ i64Count + 1 := by
  let endId (number : Nat) : Int := (pages.endOf number).getD 0
  have ends (number : Nat) (early : number + 1 < count) :
      pages.endOf number = some (endId number) ∧
        i64Min ≤ endId number ∧ endId number ≤ i64Max := by
    obtain ⟨id, isEnd, bounds⟩ := (wentOn number early).endOf
    have isId : endId number = id := by simp only [endId, isEnd]; rfl
    rw [isId]
    exact ⟨isEnd, bounds⟩
  have distinct :
      ((List.range (count - 1)).map endId).Pairwise (· ≠ ·) := by
    rw [List.pairwise_map]
    refine List.pairwise_lt_range.imp_of_mem ?_
    intro earlier later _ isLater ordered same
    have early := List.mem_range.mp isLater
    apply never.cursorAt_ne wentOn (Nat.succ_lt_succ ordered) (by omega)
    rw [TickPages.cursorAt, TickPages.cursorAt,
      (ends earlier (by omega)).1, (ends later (by omega)).1, same]
  have few :=
    length_le_of_distinct distinct
      (fun id member => by
        obtain ⟨number, isNumber, rfl⟩ := List.mem_map.mp member
        have early := List.mem_range.mp isNumber
        exact (ends number (by omega)).2)
  rw [List.length_map, List.length_range] at few
  omega

/-- The backfill of a market of Upbit ends exactly if no page returns to where
an earlier one has ended. -/
theorem requestUpbitSymbol_pagingEnds_iff
    (untroubled : Untroubled environment.surroundings)
    (args : BackfillArgs)
    (market : UpbitBackfillMarket)
    {initial : UpbitInitialCursor}
    (supported :
      initialCursor environment.nowMs args.inputEndMs = .ok initial)
    (before : BackfillState Payload) :
    PagingEnds
        (fun rounds =>
          (requestUpbitSymbol pages.server environment args market
            rounds).outcome (before, []))
        TicksRequest.cursor (upbitCursorStays market.market) ↔
      pages.NeverReturns args := by
  have asks (rounds : Nat) :=
    requestUpbitSymbol_asksPages pages untroubled args market
      supported rounds before
  constructor
  · intro ends earlier later ordered wentOn same
    obtain ⟨count, cursors, _, asked, _⟩ := asks (later + 2)
    have enough : later + 1 < count :=
      asked (later + 1) (Nat.lt_succ_self _)
        (fun number _ early => wentOn number (by omega))
    have distinct := ends.distinct (later + 2)
    simp only [cursors, List.map_nil, List.nil_append,
      ← List.range_eq_range'] at distinct
    have coincide :=
      List.inj_on_of_nodup_map distinct
        (List.mem_range.mpr (by omega : earlier + 1 < count))
        (List.mem_range.mpr enough) same
    omega
  · intro never
    have went {rounds count : Nat}
        {outcome :
          RequestState Payload TicksRequest ×
            Except BackfillError (Option SymbolBackfillReport)}
        (asked : AsksPages pages args market rounds 0 (before, []) outcome
          count) :
        ∀ number, number + 1 < count → pages.GoesOn args number :=
      fun number early =>
        asked.wentOn number (Nat.zero_le number) (by omega)
    constructor
    · intro rounds
      obtain ⟨count, asked⟩ := asks rounds
      rw [asked.cursors, List.map_nil, List.nil_append,
        ← List.range_eq_range', List.Nodup, List.pairwise_map]
      refine List.pairwise_lt_range.imp_of_mem ?_
      intro earlier later _ isLater ordered
      exact never.cursorAt_ne (went asked) ordered (List.mem_range.mp isLater)
    · refine ⟨i64Count + 1, fun rounds => ?_⟩
      obtain ⟨count, asked⟩ := asks rounds
      have sent := congrArg List.length asked.cursors
      rw [List.length_map, List.length_append, List.length_map,
        List.length_map, List.length_range', List.length_nil,
        Nat.zero_add] at sent
      rw [sent]
      exact never.count_le (went asked)
    · obtain ⟨count, asked⟩ := asks (i64Count + 2)
      refine ⟨i64Count + 2, ?_⟩
      rcases asked.result with reported | failed | ⟨_, running⟩
      · exact .inl reported
      · exact .inr failed
      · have := never.count_le (went asked)
        omega

end Upbit

/-- On any pages the backfill of a market of Binance ends, and the backfill of a
market of Upbit ends exactly if no page returns to where an earlier one has
ended. -/
theorem backfillPaging_ends_iff
    {Number : Type}
    {server : AggTradesServer}
    {binance : BackfillEnvironment Payload}
    {pages : TickPages Number}
    {upbit : UpbitEnvironment Number Payload}
    (answers :
      ∀ number request, ∃ page, server.answer number request = some page)
    (binanceUntroubled : Untroubled binance)
    (upbitUntroubled : Untroubled upbit.surroundings)
    (args : BackfillArgs)
    (binanceMarket : BinanceMarket)
    (upbitMarket : UpbitBackfillMarket)
    {initial : UpbitInitialCursor}
    (supported : initialCursor upbit.nowMs args.inputEndMs = .ok initial)
    (before : BackfillState Payload) :
    PagingEnds
        (fun rounds =>
          (requestSymbol server binance args binanceMarket rounds).outcome
            (before, []))
        AggTradesRequest.cursor (binanceCursorStays binanceMarket) ∧
      (PagingEnds
          (fun rounds =>
            (requestUpbitSymbol pages.server upbit args upbitMarket
              rounds).outcome (before, []))
          TicksRequest.cursor (upbitCursorStays upbitMarket.market) ↔
        pages.NeverReturns args) :=
  ⟨requestSymbol_pagingEnds binanceUntroubled answers args binanceMarket
      before,
    requestUpbitSymbol_pagingEnds_iff upbitUntroubled args upbitMarket
      supported before⟩

section Sample

/-- A trade with an identifier. -/
def tick (sequentialId : Int) : UpbitTrade Unit where
  market := "KRW-ETH"
  timestamp := 1000
  tradePrice := ()
  tradeVolume := ()
  askBid := "BID"
  sequentialId := sequentialId

/-- A market of Upbit. -/
def krwEth : UpbitBackfillMarket where
  market := "KRW-ETH"
  baseAsset := "ETH"
  quoteAsset := "KRW"

/-- Surroundings in which nothing fails. -/
def quietUpbit : UpbitEnvironment Unit Unit where
  surroundings := quietEnvironment
  tradePayload := fun _ _ => ()
  nowMs := 2000

/-- The range of one second is recent. -/
theorem quietUpbit_supported :
    initialCursor quietUpbit.nowMs oneSecondArgs.inputEndMs =
      .ok { toTime := "00:00:02", daysAgo := none } := by
  decide

/-- An exchange with a full page of trades and three more. -/
def fullPageServer : AggTradesServer where
  answer := fun number _ =>
    some (if number = 0 then startTrades 7 1000 else startTrades 1007 3)
  representable := by
    intro number _ page answered trade member
    rw [← Option.some.inj answered] at member
    split at member
    all_goals
      obtain ⟨index, small, rfl⟩ := exists_of_mem_startTrades member
      simp only [startTrade, i64Min, i64Max]
      omega

/-- Three full pages that end at different trades, and then short ones. -/
def fallingPages : TickPages Unit where
  page := fun number =>
    if number < 3 then List.replicate 200 (tick (9 - number)) else [tick 0]
  representable := by
    intro number trade member
    split at member
    · rw [List.eq_of_mem_replicate member]
      simp only [tick, i64Min, i64Max]
      omega
    · rw [List.mem_singleton.mp member]
      decide

/-- A short page is the last one. -/
theorem fallingPages_short
    {number : Nat}
    (goes : fallingPages.GoesOn oneSecondArgs number) :
    number < 3 := by
  by_contra short
  have page : fallingPages.page number = [tick 0] := if_neg short
  have full := goes.full
  rw [page] at full
  exact absurd full (by decide)

/-- Where a full page ends. -/
theorem fallingPages_endOf
    {number : Nat}
    (full : number < 3) :
    fallingPages.endOf number = some (9 - (number : Int)) := by
  have page :
      fallingPages.page number = List.replicate 200 (tick (9 - number)) :=
    if_pos full
  rw [TickPages.endOf, page, List.getLast?_replicate, if_neg (by decide)]
  rfl

/-- No page returns to where an earlier one has ended. -/
theorem fallingPages_neverReturns :
    fallingPages.NeverReturns oneSecondArgs := by
  intro earlier later ordered wentOn same
  have full := fallingPages_short (wentOn later le_rfl)
  rw [fallingPages_endOf full, fallingPages_endOf (by omega)] at same
  have := Option.some.inj same
  omega

/-- The backfills over full pages go on, and end with the short ones. -/
theorem fallingPages_pagingEnds :
    PagingEnds
        (fun rounds =>
          (requestSymbol fullPageServer quietEnvironment oneSecondArgs
            ethMarket rounds).outcome (newSink, []))
        AggTradesRequest.cursor (binanceCursorStays ethMarket) ∧
      PagingEnds
        (fun rounds =>
          (requestUpbitSymbol fallingPages.server quietUpbit oneSecondArgs
            krwEth rounds).outcome (newSink, []))
        TicksRequest.cursor (upbitCursorStays krwEth.market) := by
  have ends :=
    @backfillPaging_ends_iff _ _ fullPageServer quietEnvironment fallingPages
      quietUpbit (fun _ _ => ⟨_, rfl⟩) quietEnvironment_untroubled
      quietEnvironment_untroubled oneSecondArgs ethMarket krwEth _
      quietUpbit_supported newSink
  exact ⟨ends.1, ends.2.mpr fallingPages_neverReturns⟩

/-- Two full pages in turn. -/
def alternatingPages : TickPages Unit where
  page := fun number => List.replicate 200 (tick (number % 2 : Nat))
  representable := by
    intro number trade member
    rw [List.eq_of_mem_replicate member]
    have few : number % 2 < 2 := Nat.mod_lt number (by decide)
    simp only [tick, i64Min, i64Max]
    omega

/-- Where the two pages end. -/
theorem alternatingPages_endOf (number : Nat) :
    alternatingPages.endOf number = some ((number % 2 : Nat) : Int) := by
  rw [TickPages.endOf, alternatingPages, List.getLast?_replicate,
    if_neg (by decide)]
  rfl

/-- The two pages go on for ever. -/
theorem alternatingPages_goesOn (number : Nat) :
    alternatingPages.GoesOn oneSecondArgs number where
  full := by rw [alternatingPages, List.length_replicate]; decide
  inRange := by
    refine List.any_eq_false.mpr fun trade member => ?_
    rw [List.eq_of_mem_replicate member]
    exact Bool.false_ne_true
  moves := by
    cases number with
    | zero =>
        rw [alternatingPages_endOf]
        exact nofun
    | succ number =>
        rw [TickPages.cursorAt, alternatingPages_endOf,
          alternatingPages_endOf]
        intro same
        have := Int.ofNat.inj (Option.some.inj same)
        omega

/-- The backfill asks again and again for the two pages. -/
theorem alternatingPages_not_pagingEnds :
    ¬ PagingEnds
      (fun rounds =>
        (requestUpbitSymbol alternatingPages.server quietUpbit oneSecondArgs
          krwEth rounds).outcome (newSink, []))
      TicksRequest.cursor (upbitCursorStays krwEth.market) := by
  rw [requestUpbitSymbol_pagingEnds_iff quietEnvironment_untroubled
    oneSecondArgs krwEth quietUpbit_supported newSink]
  intro never
  refine never 0 2 (by decide) (fun number _ =>
    alternatingPages_goesOn number) ?_
  rw [alternatingPages_endOf, alternatingPages_endOf]

end Sample

end MarketIngest.Backfill
