import MarketIngest.SnapshotRetries
import MarketIngest.SyncedBooks

namespace MarketIngest.MarketData

/-!
# Where every update goes

A received update waits in the buffer of its book until it leaves: it is
applied to the book, ignored because the book is not older, or discarded.  The
ledger of a run notes in which step which updates leave.  Nothing else is lost,
and a step that discards an update records an alert.
-/

/-- How an update leaves. -/
inductive Fate where
  | applied
  | ignored
  | discarded
  deriving Repr, DecidableEq

/-- An update that leaves. -/
structure Departure where
  event : BinanceDiffDepthMessage
  fate : Fate
  deriving Repr, DecidableEq

/-- Updates that leave in the same way. -/
def departing
    (fate : Fate)
    (events : List BinanceDiffDepthMessage) : List Departure :=
  events.map fun event => { event := event, fate := fate }

/-- The updates that leave in a replay. -/
def replayDepartures :
    BinanceLocalOrderBook →
    List BinanceDiffDepthMessage → List Departure
  | _, [] => []
  | book, event :: rest =>
      match book.lastUpdateId.elim .next (continuation · event) with
      | .old =>
          { event := event, fate := .ignored } :: replayDepartures book rest
      | .gap => departing .discarded rest
      | .next =>
          match applyDepthDelta book event with
          | .error _ => departing .discarded (event :: rest)
          | .ok applied =>
              { event := event, fate := .applied } ::
                replayDepartures applied rest

/-- The book of a snapshot that can be read. -/
def snapshotBook?
    (snapshot : BinanceOrderBookSnapshot) : Option BinanceLocalOrderBook :=
  match parseSnapshotLevels snapshot.bids,
      parseSnapshotLevels snapshot.asks with
  | .ok bids, .ok asks =>
      some
        { lastUpdateId := some snapshot.lastUpdateId
          bids := bids
          asks := asks
          bufferedEvents := [] }
  | _, _ => none

/-- The updates that leave when a snapshot comes. -/
def snapshotDepartures
    (book : BinanceLocalOrderBook)
    (snapshot : BinanceOrderBookSnapshot) : List Departure :=
  match snapshotBook? snapshot with
  | none => []
  | some started =>
      let old :=
        book.bufferedEvents.filter fun event =>
          !decide (event.finalUpdateId > snapshot.lastUpdateId)
      let retained :=
        book.bufferedEvents.filter fun event =>
          decide (event.finalUpdateId > snapshot.lastUpdateId)
      departing .ignored old ++
        match retained with
        | [] => []
        | firstEvent :: _ =>
            if firstEvent.firstUpdateId > snapshot.lastUpdateId + 1 then
              []
            else
              replayDepartures started retained

/-- The updates that leave when one is received. -/
def receiveDepartures
    (book : BinanceLocalOrderBook)
    (event : BinanceDiffDepthMessage) : List Departure :=
  match book.lastUpdateId with
  | none =>
      if book.bufferedAtCapacity then
        departing .discarded book.bufferedEvents
      else
        []
  | some lastUpdateId =>
      match continuation lastUpdateId event with
      | .old => departing .ignored [event]
      | .gap => departing .discarded book.bufferedEvents
      | .next =>
          match applyDepthDelta book event with
          | .ok _ => departing .applied [event]
          | .error _ =>
              departing .discarded (book.bufferedEvents ++ [event])

/-- Updates leave a book one after the other. -/
inductive Leave :
    BinanceLocalOrderBook →
    List Departure → BinanceLocalOrderBook → Prop where
  | done (book : BinanceLocalOrderBook) : Leave book [] book
  /-- An update is applied to the book. -/
  | applied
      {book next after : BinanceLocalOrderBook}
      {event : BinanceDiffDepthMessage}
      {others : List Departure}
      (applies : applyDepthDelta book event = .ok next)
      (leave : Leave next others after) :
      Leave book ({ event := event, fate := .applied } :: others) after
  /-- An update is not newer than the book. -/
  | ignored
      {book after : BinanceLocalOrderBook}
      {event : BinanceDiffDepthMessage}
      {others : List Departure}
      {last : Nat}
      (known : book.lastUpdateId = some last)
      (old : event.finalUpdateId ≤ last)
      (leave : Leave book others after) :
      Leave book ({ event := event, fate := .ignored } :: others) after
  /-- An update is discarded. -/
  | discarded
      {book after : BinanceLocalOrderBook}
      (event : BinanceDiffDepthMessage)
      {others : List Departure}
      (leave : Leave book others after) :
      Leave book ({ event := event, fate := .discarded } :: others) after

/-- The receipt of an update, or of an answer. -/
structure LedgerStep where
  symbol : String
  before : DepthSyncState
  after : DepthSyncState
  start : BinanceLocalOrderBook
  arrivals : List BinanceDiffDepthMessage
  departures : List Departure

/-- An update is received. -/
def receiveStep
    (state : DepthSyncState)
    (call : DepthCall) : LedgerStep where
  symbol := call.rawSymbol
  before := state
  after := receiveDepthEvent state call
  start := state.book call.rawSymbol
  arrivals := [call.event]
  departures := receiveDepartures (state.book call.rawSymbol) call.event

/-- The exchange answers to a request for a snapshot. -/
def answerStep
    (state : DepthSyncState)
    (rawSymbol : String)
    (receivedTimeMs : Int)
    (answer : SnapshotAnswer) : LedgerStep where
  symbol := rawSymbol
  before := state
  after := fetchAndSyncSnapshot state rawSymbol receivedTimeMs answer
  start :=
    match answer with
    | .failed _ => state.book rawSymbol
    | .fetched snapshot =>
        (snapshotBook? snapshot).getD
          (syncDepthBookFromSnapshot (state.book rawSymbol) snapshot).1
  arrivals := []
  departures :=
    match answer with
    | .failed _ => []
    | .fetched snapshot =>
        snapshotDepartures (state.book rawSymbol) snapshot

/-- The steps of a call. -/
def stepsOf
    (state : DepthSyncState)
    (call : DepthCall) : List LedgerStep :=
  let received := receiveDepthEvent state call
  if shouldFetchSnapshot received call.rawSymbol then
    [receiveStep state call,
      answerStep received call.rawSymbol call.receivedTimeMs call.answer]
  else
    [receiveStep state call]

/-- The steps of some calls. -/
def ledgerFrom (state : DepthSyncState) : List DepthCall → List LedgerStep
  | [] => []
  | call :: rest =>
      stepsOf state call ++
        ledgerFrom (handleDiffDepthEvent state call) rest

/-- The steps of a run. -/
def ledger (calls : List DepthCall) : List LedgerStep :=
  ledgerFrom .new calls

namespace LedgerStep

/-- The alert that a step records. -/
def alert? (step : LedgerStep) : Option BinanceGapAlert :=
  newAlert? step.before.stats step.after.stats

/-- The step records an overflow. -/
def overflows (step : LedgerStep) : Bool :=
  step.alert?.any fun alert => alert.gapType = "buffered_overflow"

/-- How many updates a step discards. -/
def discardedCount (step : LedgerStep) : Nat :=
  step.departures.countP fun departure => departure.fate = .discarded

/-- What a step does to the updates that leave in it. -/
structure Explains (step : LedgerStep) : Prop where
  leave :
    ∃ last,
      Leave step.start step.departures last ∧
        (step.after.book step.symbol =
            { last with
              bufferedEvents :=
                (step.after.book step.symbol).bufferedEvents } ∨
          (step.after.book step.symbol).isSynced = false ∧
            step.alert?.isSome = true)
  alerted :
    ∀ departure ∈ step.departures,
      departure.fate = .discarded →
        ∃ alert, step.alert? = some alert ∧ alert.symbol = step.symbol
  dropped :
    ∀ alert,
      step.alert? = some alert →
        alert.gapType = "buffered_overflow" →
          alert.healStatus =
            "dropped_count=" ++ toString step.discardedCount

end LedgerStep

/-- Every step begins where the one before it ended. -/
def Linked :
    DepthSyncState → List LedgerStep → DepthSyncState → Prop
  | state, [], last => state = last
  | state, step :: rest, last =>
      step.before = state ∧ Linked step.after rest last

/-- The updates of a symbol that leave in some steps. -/
def departed
    (symbol : String)
    (steps : List LedgerStep) : List BinanceDiffDepthMessage :=
  steps.flatMap fun step =>
    if step.symbol = symbol then
      step.departures.map fun departure => departure.event
    else
      []

/-- No update of a run is dropped silently. -/
structure NoSilentDrop (calls : List DepthCall) : Prop where
  linked : Linked .new (ledger calls) (depthState calls)
  bounded :
    ∀ step ∈ ledger calls, ∀ symbol,
      (step.after.book symbol).bufferedEvents.length ≤ maxBufferedEvents
  accounted :
    ∀ symbol,
      (received symbol calls).Perm
        (departed symbol (ledger calls) ++
          ((depthState calls).book symbol).bufferedEvents)
  explained : ∀ step ∈ ledger calls, step.Explains
  alertsCounted :
    (depthState calls).stats.gapAlertCount =
      (ledger calls).countP fun step => step.alert?.isSome
  overflowsCounted :
    (depthState calls).stats.bufferOverflowCount =
      (ledger calls).countP LedgerStep.overflows

section Leaving

variable
  {book after : BinanceLocalOrderBook}
  {events : List BinanceDiffDepthMessage}
  {others : List Departure}

/-- The updates that leave in the same way. -/
@[simp] theorem map_event_departing
    (fate : Fate)
    (events : List BinanceDiffDepthMessage) :
    (departing fate events).map (fun departure => departure.event) =
      events := by
  rw [departing, List.map_map]
  exact List.map_id events

/-- Updates are ignored before others leave. -/
theorem Leave.ignoredAll
    {last : Nat}
    (known : book.lastUpdateId = some last)
    (old : ∀ event ∈ events, event.finalUpdateId ≤ last)
    (leave : Leave book others after) :
    Leave book (departing .ignored events ++ others) after := by
  induction events with
  | nil =>
      exact leave
  | cons event rest inductionHypothesis =>
      rw [List.forall_mem_cons] at old
      exact .ignored known old.1 (inductionHypothesis old.2)

/-- All updates may be discarded. -/
theorem leave_discarded
    (book : BinanceLocalOrderBook)
    (events : List BinanceDiffDepthMessage) :
    Leave book (departing .discarded events) book := by
  induction events with
  | nil =>
      exact .done book
  | cons event rest inductionHypothesis =>
      exact .discarded event inductionHypothesis

/-- How many updates are discarded. -/
theorem countP_discarded
    (events : List BinanceDiffDepthMessage) :
    (departing .discarded events).countP
        (fun departure => departure.fate = .discarded) =
      events.length := by
  rw [departing, List.countP_map, List.countP_eq_length.mpr]
  intro event member
  rfl

/-- An update that was ignored or applied was not discarded. -/
theorem not_mem_departing
    {fate : Fate}
    (kept : fate ≠ .discarded) :
    ∀ departure ∈ departing fate events, departure.fate ≠ .discarded := by
  intro departure member
  obtain ⟨event, -, rfl⟩ := List.mem_map.mp member
  exact kept

end Leaving

/-- How waiting updates leave, and what they leave. -/
structure Handles
    (start : BinanceLocalOrderBook)
    (waiting : List BinanceDiffDepthMessage)
    (departures : List Departure)
    (result : BinanceLocalOrderBook × Except BinanceGapAlert Unit) :
    Prop where
  conserved :
    waiting.Perm
      (departures.map (fun departure => departure.event) ++
        result.1.bufferedEvents)
  leave :
    ∃ last,
      Leave start departures last ∧
        (result.1 =
            { last with bufferedEvents := result.1.bufferedEvents } ∨
          result.1 = .empty ∧ ∃ alert, result.2 = .error alert)
  kept :
    result.2 = .ok () →
      ∀ departure ∈ departures, departure.fate ≠ .discarded
  other :
    ∀ alert, result.2 = .error alert → alert.gapType ≠ "buffered_overflow"

section Snapshots

variable
  {start next : BinanceLocalOrderBook}
  {event : BinanceDiffDepthMessage}
  {waiting events : List BinanceDiffDepthMessage}
  {departures : List Departure}
  {result : BinanceLocalOrderBook × Except BinanceGapAlert Unit}

/-- One update leaves before others. -/
private theorem Handles.cons
    {fate : Fate}
    (handles : Handles next waiting departures result)
    (leaves :
      ∀ {others last},
        Leave next others last →
          Leave start ({ event := event, fate := fate } :: others) last)
    (kept : fate ≠ .discarded) :
    Handles start (event :: waiting)
      ({ event := event, fate := fate } :: departures) result where
  conserved := handles.conserved.cons event
  leave := by
    obtain ⟨last, leave, ends⟩ := handles.leave
    exact ⟨last, leaves leave, ends⟩
  kept := fun done => List.forall_mem_cons.mpr ⟨kept, handles.kept done⟩
  other := handles.other

/-- Old updates are ignored before others leave. -/
private theorem Handles.ignoredAll
    {last : Nat}
    (handles : Handles start waiting departures result)
    (known : start.lastUpdateId = some last)
    (old : ∀ event ∈ events, event.finalUpdateId ≤ last) :
    Handles start (events ++ waiting)
      (departing .ignored events ++ departures) result where
  conserved := by
    rw [List.map_append, map_event_departing, List.append_assoc]
    exact handles.conserved.append_left events
  leave := by
    obtain ⟨last, leave, ends⟩ := handles.leave
    exact ⟨last, leave.ignoredAll known old, ends⟩
  kept := fun done =>
    List.forall_mem_append.mpr
      ⟨not_mem_departing (by decide), handles.kept done⟩
  other := handles.other

/-- Updates may all stay. -/
private theorem handles_nil
    {outcome : Except BinanceGapAlert Unit}
    (isLevels : next = { start with bufferedEvents := waiting })
    (other :
      ∀ alert, outcome = .error alert →
        alert.gapType ≠ "buffered_overflow") :
    Handles start waiting [] (next, outcome) where
  conserved := by
    rw [isLevels]
    exact List.Perm.refl waiting
  leave := ⟨start, .done start, .inl (by rw [isLevels])⟩
  kept := by simp
  other := other

/-- The order of the waiting updates does not matter. -/
private theorem Handles.of_perm
    (handles : Handles start waiting departures result)
    (same : events.Perm waiting) :
    Handles start events departures result where
  conserved := same.trans handles.conserved
  leave := handles.leave
  kept := handles.kept
  other := handles.other

/-- How the updates of a replay leave. -/
theorem replayBuffered_handles
    (book : BinanceLocalOrderBook)
    (pending : List BinanceDiffDepthMessage)
    (empty : book.bufferedEvents = []) :
    Handles book pending (replayDepartures book pending)
      (replayBuffered book pending) := by
  induction pending generalizing book with
  | nil =>
      refine handles_nil (by rw [← empty]) ?_
      rintro _ ⟨⟩
  | cons event rest inductionHypothesis =>
      unfold replayBuffered replayDepartures
      cases standing :
          book.lastUpdateId.elim .next (continuation · event) with
      | old =>
          cases known : book.lastUpdateId with
          | none =>
              rw [known] at standing
              cases standing
          | some last =>
              rw [known, Option.elim_some] at standing
              have old := continuation_eq_old_iff.mp standing
              exact (inductionHypothesis book empty).cons
                (fun leave => .ignored known old leave) (by decide)
      | gap =>
          constructor
          · simp only [map_event_departing, empty, List.nil_append]
            exact (List.perm_append_singleton event rest).symm
          · exact ⟨book, leave_discarded book rest, .inl rfl⟩
          · rintro ⟨⟩
          · rintro alert ⟨⟩
            simp [snapshotGapAlert]
      | next =>
          cases applies : applyDepthDelta book event with
          | error alert =>
              constructor
              · simp only [map_event_departing]
                rw [BinanceLocalOrderBook.resetAfterOverflow,
                  BinanceLocalOrderBook.empty, List.append_nil]
              · exact
                  ⟨book, leave_discarded book _, .inr ⟨rfl, alert, rfl⟩⟩
              · rintro ⟨⟩
              · rintro other ⟨⟩
                obtain ⟨side, field, value, reason, rfl⟩ :=
                  applyDepthDelta_alert applies
                simp [depthLevelParseAlert]
          | ok applied =>
              have stillEmpty : applied.bufferedEvents = [] :=
                (applyDepthDelta_bufferedEvents applies).trans empty
              exact (inductionHypothesis applied stillEmpty).cons
                (fun leave => .applied applies leave) (by decide)

/-- How the updates leave when a snapshot comes. -/
theorem syncDepthBookFromSnapshot_handles
    (book : BinanceLocalOrderBook)
    (snapshot : BinanceOrderBookSnapshot) :
    Handles
      ((snapshotBook? snapshot).getD
        (syncDepthBookFromSnapshot book snapshot).1)
      book.bufferedEvents (snapshotDepartures book snapshot)
      (syncDepthBookFromSnapshot book snapshot) := by
  unfold syncDepthBookFromSnapshot snapshotDepartures snapshotBook?
  dsimp only
  cases bids : parseSnapshotLevels snapshot.bids with
  | error reason =>
      refine handles_nil rfl ?_
      rintro _ ⟨⟩
      simp [snapshotParseAlert]
  | ok bidLevels =>
      cases asks : parseSnapshotLevels snapshot.asks with
      | error reason =>
          refine handles_nil rfl ?_
          rintro _ ⟨⟩
          simp [snapshotParseAlert]
      | ok askLevels =>
          dsimp only
          have whole :=
            (List.filter_append_perm
              (fun event : BinanceDiffDepthMessage =>
                decide (event.finalUpdateId > snapshot.lastUpdateId))
              book.bufferedEvents).symm.trans List.perm_append_comm
          refine Handles.of_perm (Handles.ignoredAll ?_ rfl ?_) whole
          · cases book.bufferedEvents.filter fun event =>
                decide (event.finalUpdateId > snapshot.lastUpdateId) with
            | nil =>
                refine handles_nil rfl ?_
                rintro _ ⟨⟩
            | cons firstEvent others =>
                dsimp only
                split_ifs with misaligned
                · refine handles_nil rfl ?_
                  rintro _ ⟨⟩
                  simp [snapshotGapAlert]
                · exact replayBuffered_handles _ _ rfl
          · intro event member
            have notNewer := List.of_mem_filter member
            simpa using notNewer

end Snapshots

/-- How many alerts were recorded, and how many overflows. -/
def BinanceIngestWatchStats.alertCounts
    (stats : BinanceIngestWatchStats) : Nat × Nat :=
  (stats.gapAlertCount, stats.bufferOverflowCount)

namespace LedgerStep

/-- What a step records, and which updates it discards. -/
inductive Records (step : LedgerStep) : Prop where
  /-- It records nothing and discards nothing. -/
  | nothing
      (recorded : step.alert? = none)
      (kept :
        ∀ departure ∈ step.departures, departure.fate ≠ .discarded)
      (counts :
        step.after.stats.alertCounts = step.before.stats.alertCounts)
  /-- It records an alert that is no overflow. -/
  | alert
      (alert : BinanceGapAlert)
      (recorded : step.alert? = some alert)
      (symbol : alert.symbol = step.symbol)
      (other : alert.gapType ≠ "buffered_overflow")
      (counts :
        step.after.stats.alertCounts =
          (step.before.stats.gapAlertCount + 1,
            step.before.stats.bufferOverflowCount))
  /-- It records an overflow. -/
  | overflow
      (alert : BinanceGapAlert)
      (recorded : step.alert? = some alert)
      (symbol : alert.symbol = step.symbol)
      (isOverflow : alert.gapType = "buffered_overflow")
      (dropped :
        alert.healStatus =
          "dropped_count=" ++ toString step.discardedCount)
      (counts :
        step.after.stats.alertCounts =
          (step.before.stats.gapAlertCount + 1,
            step.before.stats.bufferOverflowCount + 1))

/-- What a step does. -/
structure Sound (step : LedgerStep) : Prop where
  conserved :
    ((step.before.book step.symbol).bufferedEvents ++ step.arrivals).Perm
      (step.departures.map (fun departure => departure.event) ++
        (step.after.book step.symbol).bufferedEvents)
  others :
    ∀ symbol, symbol ≠ step.symbol →
      step.after.book symbol = step.before.book symbol
  leave :
    ∃ last,
      Leave step.start step.departures last ∧
        (step.after.book step.symbol =
            { last with
              bufferedEvents :=
                (step.after.book step.symbol).bufferedEvents } ∨
          (step.after.book step.symbol).isSynced = false ∧
            step.alert?.isSome = true)
  records : step.Records
  bounded :
    (step.before.book step.symbol).bufferedEvents.length ≤
        maxBufferedEvents →
      (step.after.book step.symbol).bufferedEvents.length ≤
        maxBufferedEvents

end LedgerStep

section Answer

variable
  {state : DepthSyncState}
  {rawSymbol : String}

/-- What a snapshot does. -/
private theorem answerStep_fetched_sound
    (found :
      state.books.get? rawSymbol = some (state.book rawSymbol))
    (receivedTimeMs : Int)
    (snapshot : BinanceOrderBookSnapshot) :
    (answerStep state rawSymbol receivedTimeMs
      (.fetched snapshot)).Sound := by
  have handles :=
    syncDepthBookFromSnapshot_handles (state.book rawSymbol) snapshot
  have after :=
    fetchAndSyncSnapshot_fetched_book state rawSymbol receivedTimeMs found
      snapshot
  have stats :=
    congrArg DepthSyncState.stats
      (fetchAndSyncSnapshot_fetched_eq state rawSymbol receivedTimeMs found
        snapshot)
  dsimp only at stats
  have conserved := handles.conserved
  rw [← after] at conserved
  constructor
  case conserved =>
    rw [← List.append_nil (state.book rawSymbol).bufferedEvents]
      at conserved
    exact conserved
  case others =>
    exact fun symbol other =>
      fetchAndSyncSnapshot_book_other state rawSymbol receivedTimeMs
        (.fetched snapshot) other
  case leave =>
    obtain ⟨last, leave, ends⟩ := handles.leave
    rw [← after] at ends
    refine ⟨last, leave, ends.imp_right ?_⟩
    rintro ⟨isEmpty, alert, fails⟩
    rw [fails] at stats
    constructor
    · exact congrArg BinanceLocalOrderBook.isSynced isEmpty
    · exact Option.isSome_of_eq_some (newAlert?_eq_some stats rfl)
  case records =>
    cases outcome :
        (syncDepthBookFromSnapshot (state.book rawSymbol) snapshot).2 with
    | ok done =>
        rw [outcome] at stats
        have counts :=
          congrArg BinanceIngestWatchStats.alertCounts stats
        exact .nothing
          (newAlert?_eq_none
            (congrArg BinanceIngestWatchStats.gapAlertCount stats :))
          (handles.kept outcome) counts
    | error alert =>
        rw [outcome] at stats
        have counts :=
          congrArg BinanceIngestWatchStats.alertCounts stats
        exact .alert _ (newAlert?_eq_some stats rfl)
          rfl (handles.other alert outcome) counts
  case bounded =>
    intro bounded
    have fewer := conserved.length_eq
    rw [List.length_append] at fewer
    exact (Nat.le_add_left ..).trans (fewer.symm.le.trans bounded)

/-- What an answer does. -/
theorem answerStep_sound
    (found :
      state.books.get? rawSymbol = some (state.book rawSymbol))
    (receivedTimeMs : Int)
    (answer : SnapshotAnswer) :
    (answerStep state rawSymbol receivedTimeMs answer).Sound := by
  cases answer with
  | fetched snapshot =>
      exact answerStep_fetched_sound found receivedTimeMs snapshot
  | failed error =>
      constructor
      case conserved =>
        exact List.perm_append_comm
      case others =>
        exact fun symbol other => rfl
      case leave =>
        exact ⟨_, .done _, .inl rfl⟩
      case records =>
        refine .alert _ (newAlert?_eq_some rfl rfl) rfl ?_ rfl
        simp [snapshotFetchFailedAlert]
      case bounded =>
        exact id

end Answer

section Receive

variable
  (state : DepthSyncState)
  (call : DepthCall)

/-- What receiving an update does, case by case. -/
private theorem receiveStep_sound_of
    {after : BinanceLocalOrderBook}
    {departures : List Departure}
    (book : (receiveDepthEvent state call).book call.rawSymbol = after)
    (departs :
      receiveDepartures (state.book call.rawSymbol) call.event =
        departures)
    (conserved :
      ((state.book call.rawSymbol).bufferedEvents ++ [call.event]).Perm
        (departures.map (fun departure => departure.event) ++
          after.bufferedEvents))
    (leave :
      ∃ last,
        Leave (state.book call.rawSymbol) departures last ∧
          (after = { last with bufferedEvents := after.bufferedEvents } ∨
            after.isSynced = false ∧
              (receiveStep state call).alert?.isSome = true))
    (records : (receiveStep state call).Records)
    (bounded :
      (state.book call.rawSymbol).bufferedEvents.length ≤
          maxBufferedEvents →
        after.bufferedEvents.length ≤ maxBufferedEvents) :
    (receiveStep state call).Sound := by
  subst book departs
  exact
    { conserved := conserved
      others := fun symbol other =>
        receiveDepthEvent_book_other state call other
      leave := leave
      records := records
      bounded := bounded }

/-- An update that records nothing. -/
private theorem receiveStep_quiet_sound
    {after : BinanceLocalOrderBook}
    {departures : List Departure}
    (book : (receiveDepthEvent state call).book call.rawSymbol = after)
    (stats : (receiveDepthEvent state call).stats = state.stats)
    (departs :
      receiveDepartures (state.book call.rawSymbol) call.event =
        departures)
    (conserved :
      ((state.book call.rawSymbol).bufferedEvents ++ [call.event]).Perm
        (departures.map (fun departure => departure.event) ++
          after.bufferedEvents))
    (leave :
      ∃ last,
        Leave (state.book call.rawSymbol) departures last ∧
          after = { last with bufferedEvents := after.bufferedEvents })
    (kept : ∀ departure ∈ departures, departure.fate ≠ .discarded)
    (bounded :
      (state.book call.rawSymbol).bufferedEvents.length ≤
          maxBufferedEvents →
        after.bufferedEvents.length ≤ maxBufferedEvents) :
    (receiveStep state call).Sound := by
  have records : (receiveStep state call).Records := by
    subst departs
    exact .nothing
      (newAlert?_eq_none
        (congrArg BinanceIngestWatchStats.gapAlertCount stats :))
      kept
      (congrArg BinanceIngestWatchStats.alertCounts stats :)
  obtain ⟨last, leave, isLast⟩ := leave
  exact receiveStep_sound_of state call book departs conserved
    ⟨last, leave, .inl isLast⟩ records bounded

/-- An update that resets the book. -/
private theorem receiveStep_reset_sound
    {after : BinanceLocalOrderBook}
    {discarded : List BinanceDiffDepthMessage}
    (book : (receiveDepthEvent state call).book call.rawSymbol = after)
    (departs :
      receiveDepartures (state.book call.rawSymbol) call.event =
        departing .discarded discarded)
    (conserved :
      (state.book call.rawSymbol).bufferedEvents ++ [call.event] =
        discarded ++ after.bufferedEvents)
    (unsynced : after.isSynced = false)
    (alerts : (receiveStep state call).alert?.isSome = true)
    (records : (receiveStep state call).Records)
    (few : after.bufferedEvents.length ≤ 1) :
    (receiveStep state call).Sound := by
  apply receiveStep_sound_of state call book departs
  · rw [map_event_departing, conserved]
  · exact ⟨_, leave_discarded _ _, .inr ⟨unsynced, alerts⟩⟩
  · exact records
  · exact fun _ => few.trans (by decide)

/-- What receiving an update of a synced book does. -/
private theorem receiveStep_synced_sound
    {last : Nat}
    (known : (state.book call.rawSymbol).lastUpdateId = some last) :
    (receiveStep state call).Sound := by
  have book := receiveDepthEvent_book_same state call
  have stats := (receiveDepthEvent_rest state call).2
  have departs :=
    receiveDepartures.eq_1 (state.book call.rawSymbol) call.event
  have synced : (state.book call.rawSymbol).isSynced = true := by
    rw [BinanceLocalOrderBook.isSynced, known, Option.isSome_some]
  rw [if_pos synced] at book stats
  unfold handleSyncedDepthEvent at book stats
  rw [known] at book stats departs
  dsimp only at book stats departs
  cases standing : continuation last call.event with
  | old =>
      rw [standing] at book stats departs
      have old := continuation_eq_old_iff.mp standing
      refine receiveStep_quiet_sound state call book stats departs ?_
        ⟨_, .ignored known old (.done _), rfl⟩
        (not_mem_departing (by decide)) id
      rw [map_event_departing]
      exact List.perm_append_comm
  | gap =>
      rw [standing] at book stats departs
      have recorded :=
        newAlert?_eq_some stats rfl
      have counts :=
        congrArg BinanceIngestWatchStats.alertCounts stats
      refine receiveStep_reset_sound state call book departs rfl rfl
        (Option.isSome_of_eq_some recorded)
        (.alert _ recorded rfl ?_ counts) le_rfl
      simp [sequenceGapAlert]
  | next =>
      rw [standing] at book stats departs
      dsimp only at book stats departs
      cases applies :
          applyDepthDelta (state.book call.rawSymbol) call.event with
      | ok applied =>
          rw [applies] at book stats departs
          have waiting := applyDepthDelta_bufferedEvents applies
          refine receiveStep_quiet_sound state call book stats departs ?_
            ⟨_, .applied applies (.done _), rfl⟩
            (not_mem_departing (by decide)) (by rw [waiting]; exact id)
          rw [map_event_departing, waiting]
          exact List.perm_append_comm
      | error alert =>
          rw [applies] at book stats departs
          have recorded :=
            newAlert?_eq_some stats rfl
          have counts :=
            congrArg BinanceIngestWatchStats.alertCounts stats
          refine receiveStep_reset_sound state call book departs
            (List.append_nil _).symm rfl
            (Option.isSome_of_eq_some recorded)
            (.alert _ recorded rfl ?_ counts) (Nat.zero_le _)
          obtain ⟨side, field, value, reason, rfl⟩ :=
            applyDepthDelta_alert applies
          simp [depthLevelParseAlert]

/-- What receiving an update of a waiting book does. -/
private theorem receiveStep_unsynced_sound
    (unknown : (state.book call.rawSymbol).lastUpdateId = none) :
    (receiveStep state call).Sound := by
  have book := receiveDepthEvent_book_same state call
  have stats := (receiveDepthEvent_rest state call).2
  have departs :=
    receiveDepartures.eq_1 (state.book call.rawSymbol) call.event
  have notSynced : ¬ (state.book call.rawSymbol).isSynced = true := by
    rw [BinanceLocalOrderBook.isSynced, unknown]
    exact Bool.false_ne_true
  rw [if_neg notSynced] at book stats
  unfold bufferUnsyncedDepthEvent at book stats
  rw [unknown] at departs
  dsimp only at departs
  cases full : (state.book call.rawSymbol).bufferedAtCapacity with
  | true =>
      rw [if_pos full] at book stats departs
      have recorded :=
        newAlert?_eq_some stats rfl
      have counts :=
        congrArg BinanceIngestWatchStats.alertCounts stats
      refine receiveStep_reset_sound state call book departs rfl rfl
        (Option.isSome_of_eq_some recorded)
        (.overflow _ recorded rfl rfl ?_ counts) le_rfl
      have dropped :
          (receiveStep state call).discardedCount =
            (state.book call.rawSymbol).bufferedEvents.length := by
        change List.countP _ (receiveDepartures _ _) = _
        rw [departs, countP_discarded]
      rw [dropped]
      rfl
  | false =>
      have room : ¬ (state.book call.rawSymbol).bufferedAtCapacity = true := by
        rw [full]
        exact Bool.false_ne_true
      rw [if_neg room] at book stats departs
      refine receiveStep_quiet_sound state call book stats departs
        (List.Perm.refl _) ⟨_, .done _, rfl⟩ (by simp) fun _ => ?_
      unfold BinanceLocalOrderBook.bufferedAtCapacity at full
      rw [decide_eq_false_iff_not, not_le] at full
      dsimp only
      rw [List.length_append]
      exact full

/-- What receiving an update does. -/
theorem receiveStep_sound :
    (receiveStep state call).Sound := by
  cases known : (state.book call.rawSymbol).lastUpdateId with
  | none =>
      exact receiveStep_unsynced_sound state call known
  | some last =>
      exact receiveStep_synced_sound state call known

end Receive

section Ledger

/-- The updates of a symbol that arrive in some steps. -/
def arrived
    (symbol : String)
    (steps : List LedgerStep) : List BinanceDiffDepthMessage :=
  steps.flatMap fun step =>
    if step.symbol = symbol then step.arrivals else []

variable
  {state last : DepthSyncState}
  {steps : List LedgerStep}

/-- A sound step explains itself. -/
theorem LedgerStep.Sound.explains
    {step : LedgerStep}
    (sound : step.Sound) :
    step.Explains := by
  refine ⟨sound.leave, ?_, ?_⟩
  · intro departure member discarded
    cases sound.records with
    | nothing recorded kept counts =>
        exact absurd discarded (kept departure member)
    | alert alert recorded symbol other counts =>
        exact ⟨alert, recorded, symbol⟩
    | overflow alert recorded symbol isOverflow dropped counts =>
        exact ⟨alert, recorded, symbol⟩
  · intro found isRecorded isOverflow
    cases sound.records with
    | nothing recorded kept counts =>
        rw [recorded] at isRecorded
        cases isRecorded
    | alert alert recorded symbol other counts =>
        rw [recorded] at isRecorded
        cases isRecorded
        exact absurd isOverflow other
    | overflow alert recorded symbol isOverflow dropped counts =>
        rw [recorded] at isRecorded
        cases isRecorded
        exact dropped

/-- A sound step counts what it records. -/
theorem LedgerStep.Sound.alertCounts
    {step : LedgerStep}
    (sound : step.Sound) :
    step.after.stats.alertCounts =
      (step.before.stats.gapAlertCount +
          (if step.alert?.isSome then 1 else 0),
        step.before.stats.bufferOverflowCount +
          (if step.overflows then 1 else 0)) := by
  unfold LedgerStep.overflows
  cases sound.records with
  | nothing recorded kept counts =>
      rw [counts, recorded]
      rfl
  | alert alert recorded symbol other counts =>
      simp [recorded, counts, other]
  | overflow alert recorded symbol isOverflow dropped counts =>
      simp [recorded, counts, isOverflow]

/-- A sound step accounts for the updates of every symbol. -/
theorem LedgerStep.Sound.accounts
    {step : LedgerStep}
    (sound : step.Sound)
    (symbol : String) :
    ((step.before.book symbol).bufferedEvents ++
        if step.symbol = symbol then step.arrivals else []).Perm
      ((if step.symbol = symbol then
          step.departures.map fun departure => departure.event
        else []) ++
        (step.after.book symbol).bufferedEvents) := by
  by_cases same : step.symbol = symbol
  · subst same
    rw [if_pos rfl, if_pos rfl]
    exact sound.conserved
  · rw [if_neg same, if_neg same, sound.others symbol (Ne.symm same),
      List.append_nil, List.nil_append]

/-- What is accounted for in two parts is accounted for. -/
private theorem perm_accounts
    {waiting arrivals others leaving departing between remaining :
      List BinanceDiffDepthMessage}
    (now : (waiting ++ arrivals).Perm (leaving ++ between))
    (later : (between ++ others).Perm (departing ++ remaining)) :
    (waiting ++ (arrivals ++ others)).Perm
      ((leaving ++ departing) ++ remaining) := by
  rw [← List.append_assoc, List.append_assoc leaving]
  refine (now.append_right others).trans ?_
  rw [List.append_assoc]
  exact later.append_left leaving

/-- Linked sound steps account for the updates of every symbol. -/
theorem Linked.accounts
    (linked : Linked state steps last)
    (sound : ∀ step ∈ steps, step.Sound)
    (symbol : String) :
    ((state.book symbol).bufferedEvents ++ arrived symbol steps).Perm
      (departed symbol steps ++ (last.book symbol).bufferedEvents) := by
  induction steps generalizing state with
  | nil =>
      cases linked
      exact List.perm_append_comm
  | cons step rest inductionHypothesis =>
      obtain ⟨rfl, linked⟩ := linked
      rw [List.forall_mem_cons] at sound
      have now := sound.1.accounts symbol
      have later := inductionHypothesis linked sound.2
      exact perm_accounts now later

/-- Linked sound steps count what they record. -/
theorem Linked.alertCounts
    (linked : Linked state steps last)
    (sound : ∀ step ∈ steps, step.Sound) :
    last.stats.alertCounts =
      (state.stats.gapAlertCount +
          steps.countP (fun step => step.alert?.isSome),
        state.stats.bufferOverflowCount +
          steps.countP LedgerStep.overflows) := by
  induction steps generalizing state with
  | nil =>
      cases linked
      rfl
  | cons step rest inductionHypothesis =>
      obtain ⟨rfl, linked⟩ := linked
      rw [List.forall_mem_cons] at sound
      have now := Prod.ext_iff.mp sound.1.alertCounts
      have later := inductionHypothesis linked sound.2
      simp only [BinanceIngestWatchStats.alertCounts] at now later ⊢
      rw [later, now.1, now.2, List.countP_cons, List.countP_cons]
      simp only [Prod.mk.injEq]
      omega

/-- Linked sound steps keep the buffers within their bound. -/
theorem Linked.bounded
    (linked : Linked state steps last)
    (sound : ∀ step ∈ steps, step.Sound)
    (within :
      ∀ symbol,
        (state.book symbol).bufferedEvents.length ≤ maxBufferedEvents) :
    ∀ step ∈ steps, ∀ symbol,
      (step.after.book symbol).bufferedEvents.length ≤
        maxBufferedEvents := by
  induction steps generalizing state with
  | nil =>
      simp
  | cons step rest inductionHypothesis =>
      obtain ⟨rfl, linked⟩ := linked
      rw [List.forall_mem_cons] at sound ⊢
      have after (symbol : String) :
          (step.after.book symbol).bufferedEvents.length ≤
            maxBufferedEvents := by
        by_cases same : symbol = step.symbol
        · rw [same]
          exact sound.1.bounded (within step.symbol)
        · rw [sound.1.others symbol same]
          exact within symbol
      exact ⟨after, inductionHypothesis linked sound.2 after⟩

/-- Steps follow other steps. -/
theorem Linked.append
    {middle : DepthSyncState}
    {others : List LedgerStep}
    (linked : Linked state steps middle)
    (further : Linked middle others last) :
    Linked state (steps ++ others) last := by
  induction steps generalizing state with
  | nil =>
      cases linked
      exact further
  | cons step rest inductionHypothesis =>
      exact ⟨linked.1, inductionHypothesis linked.2⟩

/-- The steps of a call lead to the state after it. -/
theorem stepsOf_linked
    (state : DepthSyncState)
    (call : DepthCall) :
    Linked state (stepsOf state call) (handleDiffDepthEvent state call) := by
  unfold stepsOf handleDiffDepthEvent
  dsimp only
  split_ifs with fetches
  · exact ⟨rfl, rfl, rfl⟩
  · exact ⟨rfl, rfl⟩

/-- The steps of a call are sound. -/
theorem stepsOf_sound
    (state : DepthSyncState)
    (call : DepthCall) :
    ∀ step ∈ stepsOf state call, step.Sound := by
  unfold stepsOf
  dsimp only
  split_ifs with fetches
  · rw [List.forall_mem_cons, List.forall_mem_singleton]
    exact ⟨receiveStep_sound state call,
      answerStep_sound (receiveDepthEvent_get?_same state call) _ _⟩
  · rw [List.forall_mem_singleton]
    exact receiveStep_sound state call

/-- One update arrives with a call. -/
theorem arrived_stepsOf
    (symbol : String)
    (state : DepthSyncState)
    (call : DepthCall) :
    arrived symbol (stepsOf state call) =
      if call.rawSymbol = symbol then [call.event] else [] := by
  unfold stepsOf
  dsimp only
  split_ifs with fetches same same <;>
    simp [arrived, receiveStep, answerStep, same]

/-- The steps of some calls. -/
theorem ledgerFrom_linked
    (state : DepthSyncState)
    (calls : List DepthCall) :
    Linked state (ledgerFrom state calls)
        (Runs.run handleDiffDepthEvent state calls) ∧
      (∀ step ∈ ledgerFrom state calls, step.Sound) ∧
      ∀ symbol,
        arrived symbol (ledgerFrom state calls) =
          received symbol calls := by
  induction calls generalizing state with
  | nil =>
      exact ⟨rfl, by simp [ledgerFrom], fun symbol => rfl⟩
  | cons call rest inductionHypothesis =>
      obtain ⟨linked, sound, arrives⟩ :=
        inductionHypothesis (handleDiffDepthEvent state call)
      refine ⟨(stepsOf_linked state call).append linked,
        List.forall_mem_append.mpr ⟨stepsOf_sound state call, sound⟩,
        fun symbol => ?_⟩
      have together :
          arrived symbol (ledgerFrom state (call :: rest)) =
            arrived symbol (stepsOf state call) ++
              arrived symbol
                (ledgerFrom (handleDiffDepthEvent state call) rest) :=
        List.flatMap_append
      rw [together, arrives, arrived_stepsOf]
      by_cases same : call.rawSymbol = symbol
      · simp [received, same]
      · simp [received, same]

/-- In every run, updates are applied, ignored, or discarded with an alert, or
they still wait. -/
theorem depthUpdates_noSilentDrop
    (calls : List DepthCall) :
    NoSilentDrop calls := by
  obtain ⟨linked, sound, arrives⟩ := ledgerFrom_linked .new calls
  have counts := linked.alertCounts sound
  constructor
  case linked =>
    exact linked
  case bounded =>
    exact linked.bounded sound fun symbol => Nat.zero_le _
  case accounted =>
    intro symbol
    have accounts := linked.accounts sound symbol
    rw [arrives] at accounts
    exact accounts
  case explained =>
    exact fun step member => (sound step member).explains
  case alertsCounted =>
    exact (congrArg Prod.fst counts).trans (Nat.zero_add _)
  case overflowsCounted =>
    exact (congrArg Prod.snd counts).trans (Nat.zero_add _)

end Ledger

end MarketIngest.MarketData
