import MarketIngest.BuildSummary
import MarketIngest.FinishedSlice

namespace MarketIngest.Build

open Normalize

/-!
# Every event is accounted for

An event is invalid, a duplicate, a metric, outside the input range, or it is
applied to exactly one slice.  For a range that was accepted, that slice exists
and lies inside the range.  The counters and lists of a finished slice are those
of the events that were applied to it.
-/

/-- What happens to a raw event. -/
inductive Disposition where
  | invalid
  | duplicate
  | derivative
  | outside
  | applied (key : SliceKey)
  deriving DecidableEq

section Windows

/-- An accepted range starts and ends with windows. -/
theorem windowAligned_of_validateRange
    {windowMs interval : Int}
    {inputRange : InputRange}
    (windowPositive : 0 < windowMs)
    (accepted :
      validateRange inputRange.startMs inputRange.endMs windowMs interval =
        .ok ()) :
    0 ≤ inputRange.startMs ∧ windowMs ∣ inputRange.startMs ∧
      windowMs ∣ inputRange.endMs := by
  unfold validateRange at accepted
  split_ifs at accepted with bounds window schedule
  all_goals
    simp only [windowPositive, true_and, not_or, not_not, not_lt, not_le]
      at bounds window
    exact ⟨bounds.1, Int.dvd_of_tmod_eq_zero window.1,
      Int.dvd_of_tmod_eq_zero window.2⟩

/-- Slices are seeded for the windows that pointers are written for. -/
private theorem seedWindowStartsFrom_eq
    {windowMs endMs : Int}
    (windowPositive : 0 < windowMs)
    (endRepresentable : endMs ≤ i64Max)
    (rounds : Nat)
    {current : Int}
    (representable : i64Min ≤ current) :
    seedWindowStartsFrom windowMs endMs rounds current =
      indexWindowStartsFrom windowMs endMs rounds current := by
  induction rounds generalizing current with
  | zero =>
      rfl
  | succ rounds inductionHypothesis =>
      rw [seedWindowStartsFrom, indexWindowStartsFrom]
      split_ifs with below beyond stuck
      · -- The next window saturates, so the loop ends there.
        have saturated : saturatingAdd current windowMs = i64Max := by
          simp only [saturatingAdd, clampI64, i64Min, i64Max] at *
          omega
        rw [saturated]
        cases rounds with
        | zero => rfl
        | succ rounds =>
            rw [seedWindowStartsFrom, if_neg (by omega)]
      · omega
      · have next :
            saturatingAdd current windowMs = current + windowMs :=
          saturatingAdd_of_mem (by omega) (not_lt.mp beyond)
        rw [next, inductionHypothesis (by omega)]
      · rfl

/-- Seeding and publication go through the same windows. -/
theorem seedWindowStarts_eq
    {windowMs : Int}
    (windowPositive : 0 < windowMs)
    {inputRange : InputRange}
    (startRepresentable : i64Min ≤ inputRange.startMs)
    (endRepresentable : inputRange.endMs ≤ i64Max) :
    seedWindowStarts inputRange windowMs =
      indexWindowStarts inputRange windowMs := by
  rw [seedWindowStarts,
    seedWindowStartsFrom_eq windowPositive endRepresentable _
      startRepresentable,
    indexWindowStarts]
  split_ifs with degenerate
  · have nothing :
        (inputRange.endMs - inputRange.startMs).toNat = 0 := by
      omega
    rw [nothing]
    rfl
  · rfl

/-- Which windows are seeded. -/
theorem isSeeded_iff_of_representable
    {args : NormalizeArgs}
    {inputRange : InputRange}
    (startRepresentable : i64Min ≤ inputRange.startMs)
    (endRepresentable : inputRange.endMs ≤ i64Max)
    {windowStartMs : Int} :
    isSeeded args inputRange windowStartMs = true ↔
      inputRange.startMs ≤ windowStartMs ∧
        windowStartMs < inputRange.endMs ∧
        args.windowMs.1 ∣ windowStartMs - inputRange.startMs := by
  rw [← mem_indexWindowStarts_iff args.windowMs.2.1 endRepresentable,
    isSeeded, decide_eq_true_eq,
    seedWindowStarts_eq args.windowMs.2.1 startRepresentable
      endRepresentable]

/-- Which windows of an accepted range are seeded. -/
theorem isSeeded_iff
    {args : NormalizeArgs}
    {inputRange : InputRange}
    (nonneg : 0 ≤ inputRange.startMs)
    (endRepresentable : inputRange.endMs ≤ i64Max)
    {windowStartMs : Int} :
    isSeeded args inputRange windowStartMs = true ↔
      inputRange.startMs ≤ windowStartMs ∧
        windowStartMs < inputRange.endMs ∧
        args.windowMs.1 ∣ windowStartMs - inputRange.startMs :=
  isSeeded_iff_of_representable
    (le_trans (by decide : i64Min ≤ 0) nonneg) endRepresentable

/-- The window of an event of an accepted range is seeded and inside it. -/
theorem window_of_inRange
    {args : NormalizeArgs}
    {inputRange : InputRange}
    {interval : Int}
    (accepted :
      validateRange inputRange.startMs inputRange.endMs args.windowMs
        interval = .ok ())
    (endRepresentable : inputRange.endMs ≤ i64Max)
    {event : RawInputEvent}
    (within : inRange inputRange event = true) :
    isSeeded args inputRange (eventWindowStart args event) = true ∧
      inputRange.startMs ≤ eventWindowStart args event ∧
      eventWindowStart args event + args.windowMs ≤ inputRange.endMs := by
  have windowPositive := args.windowMs.2.1
  obtain ⟨nonneg, ⟨first, isFirst⟩, ⟨last, isLast⟩⟩ :=
    windowAligned_of_validateRange windowPositive accepted
  simp only [inRange, Bool.and_eq_true, decide_eq_true_eq] at within
  rw [isSeeded_iff nonneg endRepresentable]
  have lower : first ≤ event.exchangeTimestampMs / args.windowMs.1 := by
    rw [Int.le_ediv_iff_mul_le windowPositive, Int.mul_comm, ← isFirst]
    exact within.1
  have upper : event.exchangeTimestampMs / args.windowMs.1 < last := by
    rw [Int.ediv_lt_iff_lt_mul windowPositive, Int.mul_comm, ← isLast]
    exact within.2
  have start :
      inputRange.startMs ≤ eventWindowStart args event := by
    rw [eventWindowStart, isFirst, Int.mul_comm args.windowMs.1]
    exact Int.mul_le_mul_of_nonneg_right lower windowPositive.le
  have finish :
      eventWindowStart args event + args.windowMs ≤ inputRange.endMs := by
    have next : event.exchangeTimestampMs / args.windowMs.1 + 1 ≤ last :=
      upper
    have scaled :=
      Int.mul_le_mul_of_nonneg_right next windowPositive.le
    rw [eventWindowStart, isLast, Int.mul_comm args.windowMs.1 last]
    linarith [scaled]
  refine ⟨⟨start, by omega, ?_⟩, start, finish⟩
  rw [eventWindowStart, isFirst]
  exact Int.dvd_sub (Int.dvd_mul_left _ _) (Int.dvd_mul_right _ _)

end Windows

section Dispositions

variable
  {Number : Type}
  [NumberFormat Number]
  (codec : Codec Number)
  (args : NormalizeArgs)
  (scanRange inputRange : InputRange)

/-- What an event is to come to after the rows before it. -/
def disposition
    (history : List InputRow)
    (event : RawInputEvent) : Disposition :=
  if ¬ isReadable codec args scanRange (.rawEvent event) then
    .invalid
  else if event.eventId ∈
      (readableEvents codec args scanRange history).map
        (fun earlier => earlier.eventId) then
    .duplicate
  else if isDerivativeMarketEvent event then
    .derivative
  else if ¬ inRange inputRange event then
    .outside
  else
    .applied (eventSliceKey args event)

/-- The events of rows that come to a disposition, after earlier rows. -/
def disposedEvents
    (wanted : Disposition) :
    List InputRow → List InputRow → List RawInputEvent
  | _, [] => []
  | history, row :: rest =>
      row.rawEvent?.toList.filter (fun event =>
        disposition codec args scanRange inputRange history event = wanted) ++
        disposedEvents wanted (history ++ [row]) rest

/-- What reading an event does to the slices of the input range. -/
inductive Disposed
    (history : List InputRow)
    (event : RawInputEvent)
    (before after : BuildAccumulator Number) : Disposition → Prop where
  | invalid
      (unreadable :
        isReadable codec args scanRange (.rawEvent event) = false)
      (rows : after.rows = before.rows)
      (counted :
        after.stats.invalidEventCount =
          before.stats.invalidEventCount + 1) :
      Disposed history event before after .invalid
  | duplicate
      (readable :
        isReadable codec args scanRange (.rawEvent event) = true)
      (repeated :
        event.eventId ∈
          (readableEvents codec args scanRange history).map
            (fun earlier => earlier.eventId))
      (rows : after.rows = before.rows)
      (counted :
        after.stats.duplicateEventCount =
          before.stats.duplicateEventCount + 1) :
      Disposed history event before after .duplicate
  | derivative
      (readable :
        isReadable codec args scanRange (.rawEvent event) = true)
      (fresh :
        event.eventId ∉
          (readableEvents codec args scanRange history).map
            (fun earlier => earlier.eventId))
      (isDerivative : isDerivativeMarketEvent event = true)
      (rows : after.rows = before.rows) :
      Disposed history event before after .derivative
  | outside
      (readable :
        isReadable codec args scanRange (.rawEvent event) = true)
      (fresh :
        event.eventId ∉
          (readableEvents codec args scanRange history).map
            (fun earlier => earlier.eventId))
      (isSpot : isDerivativeMarketEvent event = false)
      (notInRange : inRange inputRange event = false)
      (rows : after.rows = before.rows) :
      Disposed history event before after .outside
  | applied
      (readable :
        isReadable codec args scanRange (.rawEvent event) = true)
      (fresh :
        event.eventId ∉
          (readableEvents codec args scanRange history).map
            (fun earlier => earlier.eventId))
      (isSpot : isDerivativeMarketEvent event = false)
      (within : inRange inputRange event = true)
      (row : SliceRow Number)
      (exists' :
        (ensureIdentity codec args inputRange event before.inputIdentities
          before.rows).2.get? (eventSliceKey args event) = some row)
      (startInside :
        inputRange.startMs ≤ eventWindowStart args event)
      (endInside :
        eventWindowStart args event + args.windowMs ≤ inputRange.endMs)
      (rows :
        after.rows =
          (ensureIdentity codec args inputRange event before.inputIdentities
            before.rows).2.insert (eventSliceKey args event)
            (applyToRow codec args row event before.stats).1) :
      Disposed history event before after
        (.applied (eventSliceKey args event))

variable {codec args scanRange inputRange}

/-- What is done to an event is its disposition. -/
theorem Disposed.eq_disposition
    {history : List InputRow}
    {event : RawInputEvent}
    {before after : BuildAccumulator Number}
    {found : Disposition}
    (disposed :
      Disposed codec args scanRange inputRange history event before after
        found) :
    found = disposition codec args scanRange inputRange history event := by
  cases disposed with
  | invalid unreadable rows counted =>
      simp [disposition, unreadable]
  | duplicate readable repeated rows counted =>
      simp only [disposition, readable, repeated, not_true_eq_false,
        if_false, if_true]
  | derivative readable fresh isDerivative rows =>
      simp only [disposition, readable, fresh, isDerivative,
        not_true_eq_false, if_false, if_true]
  | outside readable fresh isSpot notInRange rows =>
      simp only [disposition, readable, fresh, isSpot, notInRange,
        not_true_eq_false, Bool.false_eq_true, not_false_eq_true, if_false,
        if_true]
  | applied readable fresh isSpot within row exists' startInside endInside
      rows =>
      simp only [disposition, readable, fresh, isSpot, within,
        not_true_eq_false, Bool.false_eq_true, if_false]

/-- Seeding the identity of a noted event is seeding it before. -/
private theorem rows_of_applied
    {before : BuildAccumulator Number}
    {event : RawInputEvent}
    (sameRange : before.inputRange = inputRange)
    (within : inRange inputRange event = true)
    {row : SliceRow Number}
    (found :
      (ensureIdentity codec args inputRange event before.inputIdentities
        before.rows).2.get? (eventSliceKey args event) = some row) :
    (ingestSpotEvent codec args (noteSeen before event) event).rows =
      (ensureIdentity codec args inputRange event before.inputIdentities
        before.rows).2.insert (eventSliceKey args event)
        (applyToRow codec args row event before.stats).1 := by
  subst sameRange
  rw [ingestSpotEvent, ingestInputEvent_eq, ingestProjectionEvent_eq]
  simp only [noteSeen, BuildAccumulator.inputState, ingestRange, within,
    not_true_eq_false, if_false, applyEvent, found, applyToRow_eq_summarize]

/-- After any rows every event comes to its disposition. -/
theorem disposed_step
    {interval : Int}
    (accepted :
      validateRange inputRange.startMs inputRange.endMs args.windowMs
        interval = .ok ())
    (endRepresentable : inputRange.endMs ≤ i64Max)
    {history : List InputRow}
    {before : BuildAccumulator Number}
    (holds :
      BuildHolds codec args scanRange inputRange history before)
    (event : RawInputEvent) :
    Disposed codec args scanRange inputRange history event before
      (ingestRow codec args before (.rawEvent event))
      (disposition codec args scanRange inputRange history event) := by
  cases readable : isReadable codec args scanRange (.rawEvent event) with
  | false =>
      rw [disposition, if_pos (by simp [readable])]
      refine .invalid readable ?_ ?_
      · rw [ingestRow_of_unreadable holds.sameScanRange readable]
      · rw [ingestRow_of_unreadable holds.sameScanRange readable]
        unfold rejectedStats
        split_ifs <;> rfl
  | true =>
      rw [disposition, if_neg (by simp [readable]),
        ingestRow_rawEvent holds.sameScanRange readable]
      simp only [holds.seen]
      split_ifs with repeated derivative within
      · exact .duplicate readable repeated rfl rfl
      · refine .derivative readable repeated derivative ?_
        rw [ingestDerivativeEvent_eq]
        rfl
      · have isSpot : isDerivativeMarketEvent event = false := by
          simpa using derivative
        obtain ⟨seeded, startInside, endInside⟩ :=
          window_of_inRange accepted endRepresentable within
        -- The identity is known by now, so the seeded window has a slice.
        have known :
            (firstIdentity
              (rangeEvents codec args scanRange inputRange history ++ [event])
              event.venue event.symbolCanonical).isSome :=
          firstIdentity_isSome_of_last _ _
        obtain ⟨identity, isIdentity⟩ := Option.isSome_iff_exists.mp known
        have stored :=
          (ensureIdentity_spec holds.input event).2 event.venue
            event.symbolCanonical (eventWindowStart args event)
        rw [isIdentity, sliceAfter, if_pos seeded, Option.map_some]
          at stored
        exact .applied readable repeated isSpot within _ stored startInside
          endInside (rows_of_applied holds.sameInputRange within stored)
      · refine .outside readable repeated (by simpa using derivative)
          (by simpa using within) ?_
        rw [ingestSpotEvent, ingestInputEvent_eq, ingestProjectionEvent_eq]
        simp only [noteSeen, holds.sameInputRange]
        rw [ingestRange_of_not_inRange (by simpa using within)]
        rfl

/-- Every event comes to exactly one disposition. -/
theorem existsUnique_disposed
    {interval : Int}
    (accepted :
      validateRange inputRange.startMs inputRange.endMs args.windowMs
        interval = .ok ())
    (endRepresentable : inputRange.endMs ≤ i64Max)
    (metadata : BuildInputMetadata)
    (history : List InputRow)
    (event : RawInputEvent) :
    ∃! found,
      Disposed codec args scanRange inputRange history event
        (ingestRows codec args
          (BuildAccumulator.new args inputRange scanRange metadata) history)
        (ingestRows codec args
          (BuildAccumulator.new args inputRange scanRange metadata)
          (history ++ [.rawEvent event]))
        found := by
  refine ⟨disposition codec args scanRange inputRange history event, ?_, ?_⟩
  · rw [ingestRows, ingestRows, List.foldl_append]
    exact disposed_step accepted endRepresentable
      (buildHolds_ingestRows metadata history) event
  · intro found disposed
    exact disposed.eq_disposition

end Dispositions

section Order

variable
  {Number : Type}
  {codec : Codec Number}
  {args : NormalizeArgs}
  {scanRange inputRange : InputRange}

/-- The fresh events of a slice after one more row. -/
private theorem sliceEvents_concat
    (history : List InputRow)
    (row : InputRow)
    (key : SliceKey) :
    (rangeEvents codec args scanRange inputRange (history ++ [row])).filter
        (fun event => eventSliceKey args event = key) =
      (rangeEvents codec args scanRange inputRange history).filter
          (fun event => eventSliceKey args event = key) ++
        row.rawEvent?.toList.filter (fun event =>
          disposition codec args scanRange inputRange history event =
            .applied key) := by
  cases isEvent : row.rawEvent? with
  | none =>
      rw [rangeEvents, freshEvents_of_no_event (Or.inr isEvent),
        rangeEvents]
      simp
  | some event =>
      obtain rfl : row = .rawEvent event := by
        cases row <;> simp_all [InputRow.rawEvent?]
      cases readable :
          isReadable codec args scanRange (.rawEvent event) with
      | false =>
          rw [rangeEvents, freshEvents_of_no_event (Or.inl readable),
            rangeEvents]
          simp [disposition, readable]
      | true =>
          have known :
              event.eventId ∈
                  (freshEvents codec args scanRange history).map
                    (fun earlier => earlier.eventId) ↔
                event.eventId ∈
                  (readableEvents codec args scanRange history).map
                    (fun earlier => earlier.eventId) := by
            rw [freshEvents, mem_map_firsts_iff]
          rw [rangeEvents, freshEvents_rawEvent readable, keepFirst]
          by_cases repeated :
              event.eventId ∈
                (readableEvents codec args scanRange history).map
                  (fun earlier => earlier.eventId)
          · rw [if_pos (known.mpr repeated), Option.toList_some,
              List.filter_cons_of_neg, List.filter_nil, List.append_nil,
              rangeEvents]
            simp only [disposition, readable, repeated, not_true_eq_false,
              if_false, if_true, reduceCtorEq, decide_false,
              Bool.false_eq_true, not_false_eq_true]
          · rw [if_neg (fun member => repeated (known.mp member)),
              List.filter_append, List.filter_append, rangeEvents,
              Option.toList_some]
            congr 1
            have value :
                disposition codec args scanRange inputRange history event =
                  if isDerivativeMarketEvent event then .derivative
                  else if ¬ inRange inputRange event then .outside
                  else .applied (eventSliceKey args event) := by
              rw [disposition, if_neg (by simp [readable]), if_neg repeated]
            simp only [List.filter_cons, List.filter_nil, value]
            cases derivative : isDerivativeMarketEvent event <;>
              cases within : inRange inputRange event <;>
              simp [isSliceEvent, derivative, within, List.filter_cons]

/-- The events applied to a slice are its fresh events, in their order. -/
theorem disposedEvents_applied
    (history rows : List InputRow)
    (key : SliceKey) :
    (rangeEvents codec args scanRange inputRange history).filter
          (fun event => eventSliceKey args event = key) ++
        disposedEvents codec args scanRange inputRange (.applied key)
          history rows =
      (rangeEvents codec args scanRange inputRange
        (history ++ rows)).filter
          (fun event => eventSliceKey args event = key) := by
  induction rows generalizing history with
  | nil =>
      rw [disposedEvents, List.append_nil, List.append_nil]
  | cons row rest inductionHypothesis =>
      rw [disposedEvents, ← List.append_assoc, ← sliceEvents_concat,
        inductionHypothesis, List.append_assoc, List.singleton_append]

end Order

section Accounting

variable
  {Number : Type}
  [NumberFormat Number]
  (codec : Codec Number)

/-- The row accounts for the events that were applied to it. -/
structure RowAccounts
    (events : List RawInputEvent)
    (row : SliceRow Number) : Prop where
  tradeCount : row.tradeCount = row.tradeEvents.length
  bookTickerCount : row.bookTickerCount = row.bookTickerEvents.length
  depthEventCount : row.depthEventCount = row.depthEvents.length
  tradeEvents : row.tradeEvents.Perm (events.filterMap (tradeOf codec))
  bookTickerEvents :
    row.bookTickerEvents.Perm (events.filterMap (bookOf codec))
  tradeVolume :
    row.tradeVolume =
      sumOf ((events.filterMap (tradeOf codec)).map
        (fun trade => trade.quantity))
  judged :
    row.qualityOk + row.qualityDelayed =
      (events.filterMap (tradeOf codec)).length +
        (events.filterMap (bookOf codec)).length +
        events.countP (fun event => event.eventType = "depth_delta") +
        events.countP (fun event => event.eventType = "ticker")
  qualityInvalid :
    row.qualityInvalid =
      events.countP (fun event =>
        event.eventType = "trade" && (parseTrade codec event).isNone ||
          event.eventType = "book_ticker" &&
            (parseBookTicker codec event).isNone ||
          !isKnownType event.eventType)
  parentsAscending :
    row.parentEventIds.Pairwise (fun first second => first < second)
  parents :
    ∀ eventId,
      eventId ∈ row.parentEventIds ↔
        ∃ event ∈ events,
          event.eventId = eventId ∧ invalidReason codec event = none

/-- Judged events are trades, tops of the book, depth deltas and tickers. -/
theorem countP_isJudged
    (events : List RawInputEvent) :
    events.countP (isJudged codec) =
      (events.filterMap (tradeOf codec)).length +
        (events.filterMap (bookOf codec)).length +
        events.countP (fun event => event.eventType = "depth_delta") +
        events.countP (fun event => event.eventType = "ticker") := by
  induction events with
  | nil =>
      rfl
  | cons event rest inductionHypothesis =>
      rw [List.countP_cons, inductionHypothesis, List.countP_cons,
        List.countP_cons]
      unfold isJudged
      cases isTrade : tradeOf codec event <;>
        cases isBook : bookOf codec event <;>
        by_cases isDelta : event.eventType = "depth_delta" <;>
        by_cases isTicker : event.eventType = "ticker" <;>
        simp_all [tradeOf, bookOf] <;>
        omega

/-- Invalid events are unparsable ones and those of unknown type. -/
theorem countP_invalid
    (events : List RawInputEvent) :
    events.countP (fun event => (invalidReason codec event).isSome) =
      events.countP (fun event =>
        event.eventType = "trade" && (parseTrade codec event).isNone ||
          event.eventType = "book_ticker" &&
            (parseBookTicker codec event).isNone ||
          !isKnownType event.eventType) := by
  apply List.countP_congr
  intro event _
  unfold invalidReason
  by_cases trade : event.eventType = "trade" ∧ parseTrade codec event = none
  · simp [trade]
  · by_cases book :
        event.eventType = "book_ticker" ∧ parseBookTicker codec event = none
    · simp [book]
    · rw [if_neg trade, if_neg book]
      rw [not_and] at trade book
      cases known : isKnownType event.eventType <;>
        simp_all [Option.isNone_iff_eq_none]

/-- An event has parents to add exactly if it is not invalid. -/
theorem mem_parentsOf_iff
    {event parent : RawInputEvent} :
    parent ∈ parentsOf codec event ↔
      parent = event ∧ invalidReason codec event = none := by
  unfold parentsOf isJudged tradeOf bookOf invalidReason isKnownType
  by_cases trade : event.eventType = "trade"
  · cases parsed : parseTrade codec event <;> simp [trade]
  · by_cases book : event.eventType = "book_ticker"
    · cases parsed : parseBookTicker codec event <;> simp [book]
    · by_cases snapshot : event.eventType = "depth_snapshot"
      · cases parsed : parseBookTicker codec event <;> simp [snapshot]
      · by_cases delta : event.eventType = "depth_delta"
        · simp [delta]
        · by_cases ticker : event.eventType = "ticker" <;>
            simp [trade, book, snapshot, delta, ticker]

/-- Judged events are in time or delayed. -/
theorem countP_judged_split
    (args : NormalizeArgs)
    (events : List RawInputEvent) :
    events.countP (fun event =>
        isJudged codec event && !isDelayed args event) +
      events.countP (fun event =>
        isJudged codec event && isDelayed args event) =
      events.countP (isJudged codec) := by
  induction events with
  | nil =>
      rfl
  | cons event rest inductionHypothesis =>
      rw [List.countP_cons, List.countP_cons, List.countP_cons,
        ← inductionHypothesis]
      cases isJudged codec event <;>
        cases isDelayed args event <;>
        simp <;>
        omega

variable {codec}

/-- A finished slice accounts for the events that were applied to it. -/
theorem rowAccounts_of_finishFrame
    {args : NormalizeArgs}
    {identity : Identity}
    {windowStartMs : Int}
    {events : List RawInputEvent}
    {finished : SliceRow Number}
    (framed :
      FinishFrame
        (summarize codec args (emptySlice codec args identity windowStartMs)
          events)
        finished) :
    RowAccounts codec events finished where
  tradeCount := by
    rw [framed.tradeCount, framed.tradeEvents.length_eq]
    simp [summarize, emptySlice]
  bookTickerCount := by
    rw [framed.bookTickerCount, framed.bookTickerEvents.length_eq]
    simp [summarize, emptySlice]
  depthEventCount := by
    rw [framed.depthEventCount, framed.depthEvents.length_eq]
    simp [summarize, emptySlice]
  tradeEvents := framed.tradeEvents
  bookTickerEvents := framed.bookTickerEvents
  tradeVolume := framed.tradeVolume
  judged := by
    have split := countP_judged_split codec args events
    have judged := countP_isJudged codec events
    rw [framed.qualityOk, framed.qualityDelayed]
    simp only [summarize, emptySlice]
    omega
  qualityInvalid := by
    rw [framed.qualityInvalid, ← countP_invalid]
    simp [summarize, emptySlice]
  parentsAscending := by
    rw [framed.parentEventIds]
    exact sortDedup_ascending _
  parents := by
    intro eventId
    rw [framed.parentEventIds, mem_sortDedup]
    simp only [summarize, emptySlice, List.nil_append, List.mem_map,
      List.mem_flatMap, mem_parentsOf_iff]
    constructor
    · rintro ⟨parent, ⟨event, member, rfl, valid⟩, sameId⟩
      exact ⟨parent, member, sameId, valid⟩
    · rintro ⟨event, member, sameId, valid⟩
      exact ⟨event, ⟨event, member, rfl, valid⟩, sameId⟩

/-- A finished slice is made from a seed with the events of its key. -/
theorem seed_of_mem_finishSlices
    {args : NormalizeArgs}
    {range finishRange : InputRange}
    {events : List RawInputEvent}
    {state : RangeState Number}
    (holds : RangeHolds codec args range events state)
    {accumulator : BuildAccumulator Number}
    {finished : SliceRow Number}
    (member : finished ∈ finishSlices accumulator finishRange state.rows) :
    ∃ identity windowStartMs,
      firstIdentity events identity.venue identity.symbolCanonical =
          some identity ∧
        isSeeded args range windowStartMs = true ∧
        finished.key =
          sliceKey identity.venue identity.symbolCanonical windowStartMs ∧
        finished =
          finalizeSlice
            (applyHealthAndGapsToRow accumulator.symbolHealth
              accumulator.sourceHealth accumulator.gapAlerts finishRange
              (summarize codec args
                (emptySlice codec args identity windowStartMs)
                (events.filter (fun event =>
                  eventSliceKey args event = finished.key)))) := by
  obtain ⟨key, row, entry, rfl⟩ := exists_entry_of_mem_finishSlices member
  obtain ⟨identity, windowStartMs, isIdentity, seeded, isKey, isRow⟩ :=
    holds.seed_of_entry entry
  have framed :=
    finishFrame accumulator.symbolHealth accumulator.sourceHealth
      accumulator.gapAlerts finishRange row
  have ownKey := framed.key.trans (holds.key_of_entry entry)
  refine ⟨identity, windowStartMs, isIdentity, seeded, ownKey.trans isKey, ?_⟩
  rw [ownKey, ← isRow]

/-- Finished slices account for the events that they were given. -/
theorem rowAccounts_of_mem_finishSlices
    {args : NormalizeArgs}
    {range finishRange : InputRange}
    {events : List RawInputEvent}
    {state : RangeState Number}
    (holds : RangeHolds codec args range events state)
    {accumulator : BuildAccumulator Number}
    {finished : SliceRow Number}
    (member : finished ∈ finishSlices accumulator finishRange state.rows) :
    RowAccounts codec
      (events.filter (fun event => eventSliceKey args event = finished.key))
      finished := by
  obtain ⟨identity, windowStartMs, -, -, -, isFinished⟩ :=
    seed_of_mem_finishSlices holds member
  have framed :=
    finishFrame accumulator.symbolHealth accumulator.sourceHealth
      accumulator.gapAlerts finishRange
      (summarize codec args (emptySlice codec args identity windowStartMs)
        (events.filter (fun event =>
          eventSliceKey args event = finished.key)))
  rw [← isFinished] at framed
  exact rowAccounts_of_finishFrame framed

/-- The slices of a finished build account for the events read. -/
theorem rowAccounts_of_mem_finish
    {args : NormalizeArgs}
    {scanRange inputRange : InputRange}
    {rows : List InputRow}
    {accumulator : BuildAccumulator Number}
    (holds :
      BuildHolds codec args scanRange inputRange rows accumulator)
    {finished : SliceRow Number}
    (member : finished ∈ accumulator.finish.slices) :
    RowAccounts codec
      (disposedEvents codec args scanRange inputRange
        (.applied finished.key) [] rows)
      finished := by
  have applied :
      disposedEvents codec args scanRange inputRange
          (.applied finished.key) [] rows =
        (rangeEvents codec args scanRange inputRange rows).filter
          (fun event => eventSliceKey args event = finished.key) :=
    disposedEvents_applied [] rows _
  rw [applied]
  exact rowAccounts_of_mem_finishSlices holds.input member

/-- Every event of a build is accounted for, in one place and in its slice. -/
theorem events_accounted
    (args : NormalizeArgs)
    (scanRange inputRange : InputRange)
    (interval : Int)
    (accepted :
      validateRange inputRange.startMs inputRange.endMs args.windowMs
        interval = .ok ())
    (endRepresentable : inputRange.endMs ≤ i64Max)
    (metadata : BuildInputMetadata)
    (rows : List InputRow) :
    (∀ history event later,
      rows = history ++ .rawEvent event :: later →
      ∃! found,
        Disposed codec args scanRange inputRange history event
          (ingestRows codec args
            (BuildAccumulator.new args inputRange scanRange metadata)
            history)
          (ingestRows codec args
            (BuildAccumulator.new args inputRange scanRange metadata)
            (history ++ [.rawEvent event]))
          found) ∧
    ∀ row ∈
      (ingestRows codec args
        (BuildAccumulator.new args inputRange scanRange metadata)
        rows).finish.slices,
      RowAccounts codec
        (disposedEvents codec args scanRange inputRange (.applied row.key)
          [] rows)
        row := by
  constructor
  · intro history event later _
    exact existsUnique_disposed accepted endRepresentable metadata history
      event
  · intro row member
    exact rowAccounts_of_mem_finish (buildHolds_ingestRows metadata rows)
      member

end Accounting

section Sample

/-- The payload of a trade of BTC. -/
def btcPayload : String :=
  "\x7b\"p\":\"100.5\",\"q\":\"2\",\"m\":false\x7d"

/-- Hashing and decoding of the payload, in exact arithmetic. -/
def btcCodec : Codec ℚ where
  sha256Hex := fun text =>
    if text = btcPayload then
      "3ded94df088cf3c991db8f4c18b936ef775e6b9ced6ecd9993ca491a9b84a44d"
    else
      "5c76746a387c6b4d9a5f94772d18f3cd0728221bfba65409e196a0daef67078f"
  fromStr := fun text =>
    if text = btcPayload then
      some (.object
        [("p", .text "100.5"), ("q", .text "2"), ("m", .bool false)])
    else
      none
  parseF64 := fun text =>
    if text = "100.5" then some (201 / 2)
    else if text = "2" then some 2
    else none

/-- A trade of BTC at Binance. -/
def btcTrade (eventId : String) : RawInputEvent where
  eventId := eventId
  producerRunId := "run-1"
  venue := "binance"
  sourceRole := "primary"
  marketType := "spot"
  eventType := "trade"
  symbolNative := "BTCUSDT"
  symbolCanonical := "BTC"
  baseAsset := "BTC"
  quoteAsset := "USDT"
  exchangeTimestampMs := 500
  ingestTimestampMs := 510
  exchangeSequence := none
  payloadJson := btcPayload
  payloadSha256 :=
    "3ded94df088cf3c991db8f4c18b936ef775e6b9ced6ecd9993ca491a9b84a44d"
  schemaVersion := "raw_market_event_v2"

/-- The input of a build from one object. -/
def oneObject : BuildInputMetadata where
  runMode := "catchup"
  fallbackAlert := false
  inputLocalObjectCount := 0
  inputS3ObjectCount := 1
  inputObjectKeys := ["raw_market_event/part-1.parquet"]

/-- Two trades and a repetition of the first are accounted for. -/
theorem btcTrades_accounted :
    validateRange 0 1000 NormalizeArgs.withDefaults.windowMs 1000 =
        .ok () ∧
      ∀ row ∈
        (ingestRows btcCodec .withDefaults
          (BuildAccumulator.new .withDefaults ⟨0, 1000⟩ ⟨0, 1000⟩ oneObject)
          [.rawEvent (btcTrade "t-1"), .rawEvent (btcTrade "t-2"),
            .rawEvent (btcTrade "t-1")]).finish.slices,
        RowAccounts btcCodec
          (disposedEvents btcCodec .withDefaults ⟨0, 1000⟩ ⟨0, 1000⟩
            (.applied row.key) []
            [.rawEvent (btcTrade "t-1"), .rawEvent (btcTrade "t-2"),
              .rawEvent (btcTrade "t-1")])
          row := by
  have accepted :
      validateRange 0 1000 NormalizeArgs.withDefaults.windowMs 1000 =
        .ok () := by
    decide
  exact ⟨accepted,
    (events_accounted .withDefaults ⟨0, 1000⟩ ⟨0, 1000⟩ 1000 accepted
      (by decide) oneObject _).2⟩

end Sample

end MarketIngest.Build
