import MarketIngest.DepthSync

namespace MarketIngest.MarketData

/-!
# Announced snapshot retries

An alert about a book names what will heal it: a snapshot is fetched again.
For this the book must be unsynced and its symbol must not count as asked for,
so that the next update asks.  Two kinds of answers break this: a request that
fails leaves its symbol as asked for, and a snapshot that does not parse, or
that the buffered updates do not continue, leaves the book synced.
-/

/-- The alert announces that a snapshot is fetched again. -/
def announcesRetry (alert : BinanceGapAlert) : Bool :=
  alert.healAction = "refetch_snapshot" || alert.healAction = "retry_snapshot"

/-- The alert that was recorded, if one was. -/
def newAlert?
    (before after : BinanceIngestWatchStats) : Option BinanceGapAlert :=
  if after.gapAlertCount = before.gapAlertCount then
    none
  else
    after.recentGapAlerts.getLast?

/-- A state, and the symbols whose announced snapshot is outstanding. -/
structure RetryHistory where
  state : DepthSyncState
  announced : Finset String

/-- A worker that starts. -/
def RetryHistory.new : RetryHistory where
  state := .new
  announced := ∅

/-- Note the symbol of an alert that announces a snapshot. -/
def announce
    (announced : Finset String) :
    Option BinanceGapAlert → Finset String
  | none => announced
  | some alert =>
      if announcesRetry alert then
        insert alert.symbol announced
      else
        announced

/-- The call syncs the book of its symbol without an error. -/
def resyncs (state : DepthSyncState) (call : DepthCall) : Bool :=
  let received := receiveDepthEvent state call
  shouldFetchSnapshot received call.rawSymbol &&
    match call.answer with
    | .failed _ => false
    | .fetched snapshot =>
        match
          (syncDepthBookFromSnapshot (received.book call.rawSymbol)
            snapshot).2 with
        | .ok () => true
        | .error _ => false

/-- Handle a call and note what it announces. -/
def stepRetries
    (history : RetryHistory)
    (call : DepthCall) : RetryHistory :=
  let received := receiveDepthEvent history.state call
  let handled := handleDiffDepthEvent history.state call
  let announced :=
    announce
      (announce history.announced
        (newAlert? history.state.stats received.stats))
      (newAlert? received.stats handled.stats)
  { state := handled
    announced :=
      if resyncs history.state call then
        announced.erase call.rawSymbol
      else
        announced }

/-- Every announced snapshot is asked for with the next update. -/
def RetriesFollow (history : RetryHistory) : Prop :=
  ∀ symbol ∈ history.announced,
    (history.state.book symbol).isSynced = false ∧
      ∀ call : DepthCall,
        call.rawSymbol = symbol →
          shouldFetchSnapshot (receiveDepthEvent history.state call)
            symbol = true

/-- No update is missing, up to the first one that does not parse. -/
def WithoutGap : Nat → List BinanceDiffDepthMessage → Prop
  | _, [] => True
  | last, event :: rest =>
      match continuation last event with
      | .old => WithoutGap last rest
      | .gap => False
      | .next => event.Parses → WithoutGap event.finalUpdateId rest

/-- A snapshot parses, and the buffered updates continue it. -/
def Heals
    (book : BinanceLocalOrderBook)
    (snapshot : BinanceOrderBookSnapshot) : Prop :=
  snapshot.Parses ∧ WithoutGap snapshot.lastUpdateId book.bufferedEvents

/-- If the call asks for a snapshot, it gets one that heals the book. -/
def FetchHeals (history : RetryHistory) (call : DepthCall) : Prop :=
  shouldFetchSnapshot (receiveDepthEvent history.state call)
      call.rawSymbol = true →
    ∃ snapshot,
      call.answer = .fetched snapshot ∧
        Heals
          ((receiveDepthEvent history.state call).book call.rawSymbol)
          snapshot

section Sync

variable
  {book after : BinanceLocalOrderBook}
  {snapshot : BinanceOrderBookSnapshot}
  {alert : BinanceGapAlert}

/-- An update that does not parse announces a snapshot. -/
theorem applyDepthDelta_announces
    {event : BinanceDiffDepthMessage}
    (fails : applyDepthDelta book event = .error alert) :
    announcesRetry alert = true := by
  obtain ⟨side, field, value, reason, rfl⟩ := applyDepthDelta_alert fails
  rfl

/-- How a replay can end. -/
private theorem replayBuffered_cases
    {pending : List BinanceDiffDepthMessage}
    {last : Nat}
    (synced : book.lastUpdateId = some last) :
    ((replayBuffered book pending).2 = .ok () ∧
        WithoutGap last pending) ∨
      ∃ alert,
        (replayBuffered book pending).2 = .error alert ∧
          announcesRetry alert = true ∧
          (((replayBuffered book pending).1 = .empty ∧
              WithoutGap last pending) ∨
            ((replayBuffered book pending).1.isSynced = true ∧
              ¬ WithoutGap last pending)) := by
  induction pending generalizing book last with
  | nil =>
      exact Or.inl ⟨rfl, trivial⟩
  | cons event rest inductionHypothesis =>
      unfold replayBuffered WithoutGap
      rw [synced, Option.elim_some]
      cases standing : continuation last event with
      | old =>
          exact inductionHypothesis synced
      | gap =>
          exact Or.inr ⟨_, rfl, rfl, Or.inr ⟨rfl, id⟩⟩
      | next =>
          rcases applyDepthDelta_cases book event with
            ⟨parses, applies⟩ | ⟨unread, alert, fails⟩
          · dsimp only
            rw [applies]
            have later := inductionHypothesis
              (show BinanceLocalOrderBook.lastUpdateId
                  { book with
                    bids :=
                      applyParsedLevelUpdates book.bids
                        (parsedLevels event.bids)
                    asks :=
                      applyParsedLevelUpdates book.asks
                        (parsedLevels event.asks)
                    lastUpdateId := some event.finalUpdateId } =
                some event.finalUpdateId from rfl)
            simpa [parses] using later
          · dsimp only
            rw [fails]
            exact Or.inr
              ⟨alert, rfl, applyDepthDelta_announces fails,
                Or.inl ⟨rfl, fun parses => absurd parses unread⟩⟩

/-- Updates that a snapshot has already do not matter for gaps. -/
private theorem withoutGap_filter
    {pending : List BinanceDiffDepthMessage}
    {least last : Nat}
    (newer : least ≤ last) :
    WithoutGap last
        (pending.filter fun event => decide (event.finalUpdateId > least)) ↔
      WithoutGap last pending := by
  induction pending generalizing last with
  | nil =>
      rfl
  | cons event rest inductionHypothesis =>
      by_cases isNewer : event.finalUpdateId > least
      · rw [List.filter_cons_of_pos (by simpa using isNewer)]
        unfold WithoutGap
        cases standing : continuation last event with
        | old =>
            exact inductionHypothesis newer
        | gap =>
            rfl
        | next =>
            dsimp only
            rw [inductionHypothesis isNewer.le]
      · rw [List.filter_cons_of_neg (by simpa using isNewer)]
        have isOld : continuation last event = .old :=
          if_pos ((not_lt.mp isNewer).trans newer)
        rw [WithoutGap, isOld]
        exact inductionHypothesis newer

/-- How a sync can end. -/
theorem syncDepthBookFromSnapshot_cases
    (book : BinanceLocalOrderBook)
    (snapshot : BinanceOrderBookSnapshot) :
    ((syncDepthBookFromSnapshot book snapshot).2 = .ok () ∧
        Heals book snapshot) ∨
      ∃ alert,
        (syncDepthBookFromSnapshot book snapshot).2 = .error alert ∧
          announcesRetry alert = true ∧
          (((syncDepthBookFromSnapshot book snapshot).1 = .empty ∧
              Heals book snapshot) ∨
            ((syncDepthBookFromSnapshot book snapshot).1.isSynced = true ∧
              ¬ Heals book snapshot)) := by
  have parsesIff :
      snapshot.Parses ↔
        (∀ level ∈ snapshot.bids, LevelParses level) ∧
          ∀ level ∈ snapshot.asks, LevelParses level :=
    List.forall_mem_append
  unfold syncDepthBookFromSnapshot parseSnapshotLevels
  dsimp only
  by_cases bids : ∀ level ∈ snapshot.bids, LevelParses level
  · rw [parseSnapshotLevelsFrom_of_parses [] bids]
    dsimp only
    by_cases asks : ∀ level ∈ snapshot.asks, LevelParses level
    · rw [parseSnapshotLevelsFrom_of_parses [] asks]
      dsimp only
      have parses := parsesIff.mpr ⟨bids, asks⟩
      have healsIff :
          Heals book snapshot ↔
            WithoutGap snapshot.lastUpdateId
              (book.bufferedEvents.filter fun event =>
                decide (event.finalUpdateId > snapshot.lastUpdateId)) := by
        rw [withoutGap_filter le_rfl]
        exact and_iff_right parses
      have newer :
          ∀ event ∈
            book.bufferedEvents.filter (fun event =>
              decide (event.finalUpdateId > snapshot.lastUpdateId)),
            event.finalUpdateId > snapshot.lastUpdateId := by
        intro event member
        exact of_decide_eq_true (List.mem_filter.mp member).2
      rw [healsIff]
      generalize
        (book.bufferedEvents.filter fun event =>
          decide (event.finalUpdateId > snapshot.lastUpdateId)) = retained
        at newer
      cases retained with
      | nil =>
          exact Or.inl ⟨rfl, trivial⟩
      | cons firstEvent others =>
          dsimp only
          have isNewer := newer firstEvent (List.mem_cons_self ..)
          by_cases misaligned :
              firstEvent.firstUpdateId > snapshot.lastUpdateId + 1
          · rw [if_pos misaligned]
            have gap :
                continuation snapshot.lastUpdateId firstEvent = .gap := by
              rw [continuation, if_neg (not_le.mpr isNewer),
                if_pos misaligned]
            refine Or.inr ⟨_, rfl, rfl, Or.inr ⟨rfl, ?_⟩⟩
            rw [WithoutGap, gap]
            exact id
          · rw [if_neg misaligned]
            exact replayBuffered_cases rfl
    · obtain ⟨reason, fails⟩ :=
        parseSnapshotLevelsFrom_of_not_parses [] asks
      rw [fails]
      exact Or.inr
        ⟨_, rfl, rfl, Or.inr
          ⟨rfl, fun heals => asks (parsesIff.mp heals.1).2⟩⟩
  · obtain ⟨reason, fails⟩ :=
      parseSnapshotLevelsFrom_of_not_parses [] bids
    rw [fails]
    exact Or.inr
      ⟨_, rfl, rfl, Or.inr
        ⟨rfl, fun heals => bids (parsesIff.mp heals.1).1⟩⟩

end Sync

section Alerts

variable
  {stats : BinanceIngestWatchStats}
  {alert : BinanceGapAlert}

/-- A recorded alert is the new one. -/
theorem newAlert?_eq_some
    {counted after : BinanceIngestWatchStats}
    (recorded : after = counted.recordGapAlert alert)
    (same : counted.gapAlertCount = stats.gapAlertCount) :
    newAlert? stats after = some alert := by
  subst recorded
  unfold newAlert? BinanceIngestWatchStats.recordGapAlert
  dsimp only
  rw [if_neg (by omega)]
  split_ifs with full
  · cases recent : counted.recentGapAlerts with
    | nil =>
        rw [recent] at full
        simp at full
    | cons oldest rest =>
        rw [List.cons_append, List.tail_cons, List.getLast?_concat]
  · rw [List.getLast?_concat]

/-- Without a new alert there is none. -/
theorem newAlert?_eq_none
    {counted : BinanceIngestWatchStats}
    (same : counted.gapAlertCount = stats.gapAlertCount) :
    newAlert? stats counted = none :=
  if_pos same

end Alerts

section Receive

variable
  (state : DepthSyncState)
  (call : DepthCall)

/-- What receiving an update does to the book of its symbol. -/
inductive Received
    (state received : DepthSyncState)
    (call : DepthCall) : Prop where
  /-- It is applied to a synced book, or is old. -/
  | follows
      (stats : received.stats = state.stats)
      (attempted :
        received.snapshotAttempted = state.snapshotAttempted)
      (before : (state.book call.rawSymbol).isSynced = true)
      (after : (received.book call.rawSymbol).isSynced = true)
  /-- It resets the book. -/
  | resets
      (alert : BinanceGapAlert)
      (recorded : newAlert? state.stats received.stats = some alert)
      (announces : announcesRetry alert = true)
      (symbol : alert.symbol = call.rawSymbol)
      (attempted :
        received.snapshotAttempted =
          state.snapshotAttempted.erase call.rawSymbol)
      (after : (received.book call.rawSymbol).isSynced = false)
      (waiting :
        (received.book call.rawSymbol).bufferedEvents.length ≤ 1)
  /-- It waits for a snapshot. -/
  | waits
      (stats : received.stats = state.stats)
      (attempted :
        received.snapshotAttempted = state.snapshotAttempted)
      (before : (state.book call.rawSymbol).isSynced = false)
      (after : (received.book call.rawSymbol).isSynced = false)
      (waiting :
        (received.book call.rawSymbol).bufferedEvents =
          (state.book call.rawSymbol).bufferedEvents ++ [call.event])
      (room : (state.book call.rawSymbol).bufferedAtCapacity = false)

/-- What a received update leaves besides the book. -/
theorem receiveDepthEvent_rest :
    (receiveDepthEvent state call).snapshotAttempted =
        (if (state.book call.rawSymbol).isSynced then
          handleSyncedDepthEvent (state.book call.rawSymbol) call.event
            call.rawSymbol call.receivedTimeMs state.snapshotAttempted
            state.stats
        else
          bufferUnsyncedDepthEvent (state.book call.rawSymbol) call.event
            call.rawSymbol call.receivedTimeMs state.snapshotAttempted
            state.stats).2.1 ∧
      (receiveDepthEvent state call).stats =
        (if (state.book call.rawSymbol).isSynced then
          handleSyncedDepthEvent (state.book call.rawSymbol) call.event
            call.rawSymbol call.receivedTimeMs state.snapshotAttempted
            state.stats
        else
          bufferUnsyncedDepthEvent (state.book call.rawSymbol) call.event
            call.rawSymbol call.receivedTimeMs state.snapshotAttempted
            state.stats).2.2 := by
  unfold receiveDepthEvent
  exact ⟨rfl, rfl⟩

/-- An update follows, resets or waits. -/
theorem receiveDepthEvent_cases :
    Received state (receiveDepthEvent state call) call := by
  have book := receiveDepthEvent_book_same state call
  obtain ⟨attempted, stats⟩ := receiveDepthEvent_rest state call
  cases synced : (state.book call.rawSymbol).isSynced with
  | true =>
      rw [if_pos synced] at book attempted stats
      unfold BinanceLocalOrderBook.isSynced at synced
      obtain ⟨last, known⟩ := Option.isSome_iff_exists.mp synced
      unfold handleSyncedDepthEvent at book attempted stats
      rw [known] at book attempted stats
      dsimp only at book attempted stats
      cases standing : continuation last call.event with
      | old =>
          rw [standing] at book attempted stats
          refine .follows stats attempted synced ?_
          rw [book]
          exact synced
      | gap =>
          rw [standing] at book attempted stats
          refine .resets _
            (newAlert?_eq_some stats rfl) rfl rfl attempted ?_ ?_
          · rw [book]
            rfl
          · rw [book]
            exact le_rfl
      | next =>
          rw [standing] at book attempted stats
          rcases applyDepthDelta_cases (state.book call.rawSymbol)
              call.event with
            ⟨-, applies⟩ | ⟨-, alert, fails⟩
          · dsimp only at book attempted stats
            rw [applies] at book attempted stats
            refine .follows stats attempted synced ?_
            rw [book]
            rfl
          · dsimp only at book attempted stats
            rw [fails] at book attempted stats
            have announces := applyDepthDelta_announces fails
            refine .resets _
              (newAlert?_eq_some stats rfl)
              announces rfl attempted ?_ ?_
            · rw [book]
              rfl
            · rw [book]
              exact Nat.zero_le _
  | false =>
      have notSynced : ¬ (state.book call.rawSymbol).isSynced = true := by
        rw [synced]
        exact Bool.false_ne_true
      rw [if_neg notSynced] at book attempted stats
      unfold bufferUnsyncedDepthEvent at book attempted stats
      cases full : (state.book call.rawSymbol).bufferedAtCapacity with
      | true =>
          rw [if_pos full] at book attempted stats
          refine .resets _
            (newAlert?_eq_some stats rfl) rfl rfl attempted ?_ ?_
          · rw [book]
            rfl
          · rw [book]
            exact le_rfl
      | false =>
          have notFull :
              ¬ (state.book call.rawSymbol).bufferedAtCapacity = true := by
            rw [full]
            exact Bool.false_ne_true
          rw [if_neg notFull] at book attempted stats
          refine .waits stats attempted synced ?_ ?_ full
          · rw [book]
            exact synced
          · rw [book]

/-- When an update of an unsynced book asks for a snapshot. -/
theorem asks_iff
    (notSynced : (state.book call.rawSymbol).isSynced = false) :
    shouldFetchSnapshot (receiveDepthEvent state call) call.rawSymbol =
        true ↔
      call.rawSymbol ∉ state.snapshotAttempted ∨
        (state.book call.rawSymbol).bufferedAtCapacity = true := by
  rw [shouldFetchSnapshot_iff, receiveDepthEvent_book_same,
    (receiveDepthEvent_rest state call).1, notSynced]
  simp only [Bool.false_eq_true, if_false]
  unfold bufferUnsyncedDepthEvent
  split_ifs with full
  · simp [full, BinanceLocalOrderBook.resetAfterOverflow,
      BinanceLocalOrderBook.empty, BinanceLocalOrderBook.isSynced]
  · unfold BinanceLocalOrderBook.isSynced at notSynced ⊢
    simp [full, notSynced]

end Receive

section Fetch

variable
  (state : DepthSyncState)
  (rawSymbol : String)
  (receivedTimeMs : Int)

/-- What an answer does besides the books. -/
inductive Answered
    (state fetched : DepthSyncState)
    (rawSymbol : String) : SnapshotAnswer → Prop where
  /-- No snapshot came. -/
  | failed
      (error : String)
      (alert : BinanceGapAlert)
      (recorded : newAlert? state.stats fetched.stats = some alert)
      (announces : announcesRetry alert = true)
      (symbol : alert.symbol = rawSymbol)
      (attempted :
        fetched.snapshotAttempted =
          insert rawSymbol state.snapshotAttempted)
      (book : fetched.book rawSymbol = state.book rawSymbol) :
      Answered state fetched rawSymbol (.failed error)
  /-- The book was synced. -/
  | synced
      (snapshot : BinanceOrderBookSnapshot)
      (recorded : newAlert? state.stats fetched.stats = none)
      (done :
        (syncDepthBookFromSnapshot (state.book rawSymbol) snapshot).2 =
          .ok ())
      (heals : Heals (state.book rawSymbol) snapshot)
      (attempted :
        fetched.snapshotAttempted =
          insert rawSymbol state.snapshotAttempted) :
      Answered state fetched rawSymbol (.fetched snapshot)
  /-- The sync met an error. -/
  | misfit
      (snapshot : BinanceOrderBookSnapshot)
      (alert failure : BinanceGapAlert)
      (recorded : newAlert? state.stats fetched.stats = some alert)
      (announces : announcesRetry alert = true)
      (symbol : alert.symbol = rawSymbol)
      (done :
        (syncDepthBookFromSnapshot (state.book rawSymbol) snapshot).2 =
          .error failure)
      (book :
        (fetched.book rawSymbol = .empty ∧
            Heals (state.book rawSymbol) snapshot) ∨
          ((fetched.book rawSymbol).isSynced = true ∧
            ¬ Heals (state.book rawSymbol) snapshot))
      (attempted :
        fetched.snapshotAttempted =
          (insert rawSymbol state.snapshotAttempted).erase rawSymbol) :
      Answered state fetched rawSymbol (.fetched snapshot)

/-- An answer fails, syncs the book, or does not fit. -/
theorem fetchAndSyncSnapshot_cases
    {book : BinanceLocalOrderBook}
    (found : state.books.get? rawSymbol = some book)
    (answer : SnapshotAnswer) :
    Answered state
      (fetchAndSyncSnapshot state rawSymbol receivedTimeMs answer)
      rawSymbol answer := by
  cases answer with
  | failed error =>
      exact .failed error _ (newAlert?_eq_some rfl rfl) rfl rfl rfl rfl
  | fetched snapshot =>
      have isBook : state.book rawSymbol = book := by
        rw [DepthSyncState.book, found, Option.getD_some]
      have after :=
        fetchAndSyncSnapshot_fetched_book state rawSymbol receivedTimeMs
          found snapshot
      have shape :=
        fetchAndSyncSnapshot_fetched_eq state rawSymbol receivedTimeMs
          found snapshot
      dsimp only at shape
      rcases syncDepthBookFromSnapshot_cases book snapshot with
        ⟨done, heals⟩ | ⟨failure, fails, announces, ends⟩
      · rw [done] at shape
        rw [shape]
        exact .synced snapshot (newAlert?_eq_none rfl)
          (by rw [isBook]; exact done) (by rw [isBook]; exact heals) rfl
      · rw [fails] at shape
        rw [← after] at ends
        rw [shape] at ends ⊢
        exact .misfit snapshot _ failure (newAlert?_eq_some rfl rfl)
          announces rfl (by rw [isBook]; exact fails)
          (by rw [isBook]; exact ends) rfl

end Fetch

section Others

variable
  (state : DepthSyncState)
  (call : DepthCall)
  {symbol : String}

/-- A received update leaves which other symbols were asked for. -/
private theorem receiveDepthEvent_attempted_other
    (other : symbol ≠ call.rawSymbol) :
    symbol ∈ (receiveDepthEvent state call).snapshotAttempted ↔
      symbol ∈ state.snapshotAttempted := by
  cases receiveDepthEvent_cases state call with
  | follows stats attempted before after =>
      rw [attempted]
  | resets alert recorded announces isSymbol attempted after waiting =>
      rw [attempted, Finset.mem_erase]
      exact and_iff_right other
  | waits stats attempted before after waiting room =>
      rw [attempted]

/-- A call leaves the books of other symbols. -/
private theorem handleDiffDepthEvent_book_other
    (other : symbol ≠ call.rawSymbol) :
    (handleDiffDepthEvent state call).book symbol = state.book symbol := by
  rw [← receiveDepthEvent_book_other state call other]
  unfold handleDiffDepthEvent
  dsimp only
  split_ifs with fetches
  · exact fetchAndSyncSnapshot_book_other _ _ _ _ other
  · rfl

/-- A call leaves which other symbols were asked for. -/
private theorem handleDiffDepthEvent_attempted_other
    (other : symbol ≠ call.rawSymbol) :
    symbol ∈ (handleDiffDepthEvent state call).snapshotAttempted ↔
      symbol ∈ state.snapshotAttempted := by
  rw [← receiveDepthEvent_attempted_other state call other]
  cases fetches :
      shouldFetchSnapshot (receiveDepthEvent state call)
        call.rawSymbol with
  | false =>
      rw [handleDiffDepthEvent_of_not_fetch state call fetches]
  | true =>
      rw [handleDiffDepthEvent_of_fetch state call fetches]
      have answered :=
        fetchAndSyncSnapshot_cases (receiveDepthEvent state call)
          call.rawSymbol call.receivedTimeMs
          (receiveDepthEvent_get?_same state call) call.answer
      generalize call.answer = answer at answered
      cases answered with
      | failed error alert recorded announces isSymbol attempted book =>
          rw [attempted, Finset.mem_insert]
          exact or_iff_right other
      | synced snapshot recorded done heals attempted =>
          rw [attempted, Finset.mem_insert]
          exact or_iff_right other
      | misfit snapshot alert failure recorded announces isSymbol done
          book attempted =>
          rw [attempted, Finset.mem_erase, Finset.mem_insert]
          simp [other]

/-- Whether the next update of another symbol asks is left as it is. -/
private theorem asks_other
    (other : symbol ≠ call.rawSymbol)
    (notSynced : (state.book symbol).isSynced = false)
    {next : DepthCall}
    (isNext : next.rawSymbol = symbol) :
    shouldFetchSnapshot
          (receiveDepthEvent (handleDiffDepthEvent state call) next)
          symbol = true ↔
      shouldFetchSnapshot (receiveDepthEvent state next) symbol =
        true := by
  subst isNext
  have book := handleDiffDepthEvent_book_other state call other
  rw [asks_iff state next notSynced,
    asks_iff _ next (by rw [book]; exact notSynced), book,
    handleDiffDepthEvent_attempted_other state call other]

end Others

/-- A waiting book whose snapshot was not asked for has no updates. -/
def NothingWaits (history : RetryHistory) : Prop :=
  ∀ symbol,
    (history.state.book symbol).isSynced = false →
      symbol ∉ history.state.snapshotAttempted →
        (history.state.book symbol).bufferedEvents = []

/-- Nothing waits for a snapshot that was not asked for. -/
theorem stepRetries_nothingWaits
    {history : RetryHistory}
    (call : DepthCall)
    (nothing : NothingWaits history) :
    NothingWaits (stepRetries history call) := by
  intro symbol notSynced notAsked
  change
    ((handleDiffDepthEvent history.state call).book symbol).isSynced =
      false at notSynced
  change
    symbol ∉ (handleDiffDepthEvent history.state call).snapshotAttempted
    at notAsked
  change
    ((handleDiffDepthEvent history.state call).book
      symbol).bufferedEvents = []
  by_cases same : symbol = call.rawSymbol
  · subst same
    cases fetches :
        shouldFetchSnapshot (receiveDepthEvent history.state call)
          call.rawSymbol with
    | false =>
        rw [handleDiffDepthEvent_of_not_fetch _ _ fetches]
          at notSynced notAsked
        rw [← Bool.not_eq_true, shouldFetchSnapshot_iff] at fetches
        exact absurd ⟨notSynced, notAsked⟩ fetches
    | true =>
        rw [handleDiffDepthEvent_of_fetch _ _ fetches]
          at notSynced notAsked ⊢
        have answered :=
          fetchAndSyncSnapshot_cases
            (receiveDepthEvent history.state call) call.rawSymbol
            call.receivedTimeMs
            (receiveDepthEvent_get?_same history.state call) call.answer
        generalize call.answer = answer at *
        cases answered with
        | failed error alert recorded announces isSymbol attempted book =>
            rw [attempted] at notAsked
            exact absurd (Finset.mem_insert_self ..) notAsked
        | synced snapshot recorded done heals attempted =>
            rw [attempted] at notAsked
            exact absurd (Finset.mem_insert_self ..) notAsked
        | misfit snapshot alert failure recorded announces isSymbol done
            book attempted =>
            rcases book with ⟨empty, -⟩ | ⟨synced, -⟩
            · rw [empty]
              rfl
            · rw [synced] at notSynced
              cases notSynced
  · rw [handleDiffDepthEvent_book_other _ _ same] at notSynced ⊢
    rw [handleDiffDepthEvent_attempted_other _ _ same] at notAsked
    exact nothing symbol notSynced notAsked

section Announced

variable
  {announced : Finset String}
  {alert : BinanceGapAlert}
  {symbol : String}

/-- An alert that announces a snapshot notes its symbol. -/
private theorem mem_announce
    (announces : announcesRetry alert = true) :
    symbol ∈ announce announced (some alert) ↔
      symbol = alert.symbol ∨ symbol ∈ announced := by
  unfold announce
  dsimp only
  rw [if_pos announces, Finset.mem_insert]

/-- A received update announces nothing for other symbols. -/
private theorem mem_announce_receive_other
    (state : DepthSyncState)
    (call : DepthCall)
    (other : symbol ≠ call.rawSymbol) :
    symbol ∈
        announce announced
          (newAlert? state.stats (receiveDepthEvent state call).stats) ↔
      symbol ∈ announced := by
  cases receiveDepthEvent_cases state call with
  | follows stats attempted before after =>
      rw [newAlert?_eq_none (by rw [stats])]
      rfl
  | resets alert recorded announces isSymbol attempted after waiting =>
      rw [recorded, mem_announce announces, isSymbol]
      exact or_iff_right other
  | waits stats attempted before after waiting room =>
      rw [newAlert?_eq_none (by rw [stats])]
      rfl

/-- An answer announces nothing for other symbols. -/
private theorem mem_announce_handle_other
    (state : DepthSyncState)
    (call : DepthCall)
    (other : symbol ≠ call.rawSymbol) :
    symbol ∈
        announce announced
          (newAlert? (receiveDepthEvent state call).stats
            (handleDiffDepthEvent state call).stats) ↔
      symbol ∈ announced := by
  cases fetches :
      shouldFetchSnapshot (receiveDepthEvent state call)
        call.rawSymbol with
  | false =>
      rw [handleDiffDepthEvent_of_not_fetch state call fetches,
        newAlert?_eq_none rfl]
      rfl
  | true =>
      rw [handleDiffDepthEvent_of_fetch state call fetches]
      have answered :=
        fetchAndSyncSnapshot_cases (receiveDepthEvent state call)
          call.rawSymbol call.receivedTimeMs
          (receiveDepthEvent_get?_same state call) call.answer
      generalize call.answer = answer at *
      cases answered with
      | failed error alert recorded announces isSymbol attempted book =>
          rw [recorded, mem_announce announces, isSymbol]
          exact or_iff_right other
      | synced snapshot recorded done heals attempted =>
          rw [recorded]
          rfl
      | misfit snapshot alert failure recorded announces isSymbol done
          book attempted =>
          rw [recorded, mem_announce announces, isSymbol]
          exact or_iff_right other

/-- A call announces nothing for other symbols, and heals none of them. -/
private theorem mem_announced_other
    (history : RetryHistory)
    (call : DepthCall)
    (other : symbol ≠ call.rawSymbol) :
    symbol ∈ (stepRetries history call).announced ↔
      symbol ∈ history.announced := by
  unfold stepRetries
  dsimp only
  split_ifs with resynced
  · rw [Finset.mem_erase, mem_announce_handle_other _ _ other,
      mem_announce_receive_other _ _ other]
    exact and_iff_right other
  · rw [mem_announce_handle_other _ _ other,
      mem_announce_receive_other _ _ other]

end Announced

section Exact

variable
  {history : RetryHistory}
  {call : DepthCall}

/-- Only the symbol of a call can lose an announced snapshot by it. -/
private theorem stepRetries_follow_iff
    (follow : RetriesFollow history) :
    RetriesFollow (stepRetries history call) ↔
      (call.rawSymbol ∈ (stepRetries history call).announced →
        ((handleDiffDepthEvent history.state call).book
            call.rawSymbol).isSynced = false ∧
          ∀ next : DepthCall,
            next.rawSymbol = call.rawSymbol →
              shouldFetchSnapshot
                (receiveDepthEvent
                  (handleDiffDepthEvent history.state call) next)
                call.rawSymbol = true) := by
  constructor
  · exact fun later => later call.rawSymbol
  · intro own symbol announced
    by_cases same : symbol = call.rawSymbol
    · subst same
      exact own announced
    · rw [mem_announced_other history call same] at announced
      obtain ⟨notSynced, asks⟩ := follow symbol announced
      refine ⟨?_, fun next isNext => ?_⟩
      · change
          ((handleDiffDepthEvent history.state call).book
            symbol).isSynced = false
        rw [handleDiffDepthEvent_book_other _ _ same]
        exact notSynced
      · change
          shouldFetchSnapshot
            (receiveDepthEvent
              (handleDiffDepthEvent history.state call) next)
            symbol = true
        rw [asks_other history.state call same notSynced isNext]
        exact asks next isNext

/-- A call that does not ask announces nothing that is outstanding. -/
private theorem not_mem_announced_of_not_fetch
    (follow : RetriesFollow history)
    (quiet :
      shouldFetchSnapshot (receiveDepthEvent history.state call)
        call.rawSymbol = false) :
    call.rawSymbol ∉ (stepRetries history call).announced := by
  have notResynced : ¬ resyncs history.state call = true := by
    unfold resyncs
    dsimp only
    rw [quiet, Bool.false_and]
    exact Bool.false_ne_true
  unfold stepRetries
  dsimp only
  rw [if_neg notResynced,
    handleDiffDepthEvent_of_not_fetch history.state call quiet]
  have nothingNew :
      newAlert? (receiveDepthEvent history.state call).stats
        (receiveDepthEvent history.state call).stats = none :=
    newAlert?_eq_none rfl
  rw [nothingNew]
  change
    call.rawSymbol ∉
      announce history.announced
        (newAlert? history.state.stats
          (receiveDepthEvent history.state call).stats)
  rw [← Bool.not_eq_true, shouldFetchSnapshot_iff] at quiet
  cases receiveDepthEvent_cases history.state call with
  | follows stats attempted before after =>
      rw [newAlert?_eq_none (by rw [stats])]
      intro announced
      rw [(follow _ announced).1] at before
      cases before
  | resets alert recorded announces isSymbol attempted after waiting =>
      refine absurd ⟨after, ?_⟩ quiet
      rw [attempted]
      exact Finset.notMem_erase call.rawSymbol _
  | waits stats attempted before after waiting room =>
      rw [newAlert?_eq_none (by rw [stats])]
      intro announced
      have asks := (follow _ announced).2 call rfl
      exact absurd ((shouldFetchSnapshot_iff _ _).mp asks) quiet

/-- At most one update waits when a snapshot is asked for. -/
private theorem waiting_of_fetch
    (nothing : NothingWaits history)
    (fetches :
      shouldFetchSnapshot (receiveDepthEvent history.state call)
        call.rawSymbol = true) :
    ((receiveDepthEvent history.state call).book
        call.rawSymbol).isSynced = false ∧
      ((receiveDepthEvent history.state call).book
        call.rawSymbol).bufferedAtCapacity = false := by
  obtain ⟨notSynced, notAsked⟩ :=
    (shouldFetchSnapshot_iff history.state call).mp fetches
  refine ⟨notSynced, ?_⟩
  have few :
      ((receiveDepthEvent history.state call).book
        call.rawSymbol).bufferedEvents.length ≤ 1 := by
    cases receiveDepthEvent_cases history.state call with
    | follows stats attempted before after =>
        rw [notSynced] at after
        cases after
    | resets alert recorded announces isSymbol attempted after waiting =>
        exact waiting
    | waits stats attempted before after waiting room =>
        rw [attempted] at notAsked
        rw [waiting, nothing call.rawSymbol before notAsked]
        exact le_rfl
  have capacity : (1 : Nat) < maxBufferedEvents := by decide
  exact decide_eq_false (not_le.mpr (few.trans_lt capacity))

/-- A symbol whose book was synced is not announced any more. -/
private theorem not_mem_announced_of_resyncs
    (resynced : resyncs history.state call = true) :
    call.rawSymbol ∉ (stepRetries history call).announced := by
  unfold stepRetries
  dsimp only
  rw [if_pos resynced]
  exact Finset.notMem_erase call.rawSymbol _

/-- A symbol with a new alert after the answer is announced. -/
private theorem mem_announced_of_alert
    {alert : BinanceGapAlert}
    (notResynced : resyncs history.state call = false)
    (recorded :
      newAlert? (receiveDepthEvent history.state call).stats
        (handleDiffDepthEvent history.state call).stats = some alert)
    (announces : announcesRetry alert = true)
    (isSymbol : alert.symbol = call.rawSymbol) :
    call.rawSymbol ∈ (stepRetries history call).announced := by
  have isFalse : ¬ resyncs history.state call = true := by
    rw [notResynced]
    exact Bool.false_ne_true
  unfold stepRetries
  dsimp only
  rw [if_neg isFalse, recorded, mem_announce announces]
  exact Or.inl isSymbol.symm

/-- A call that asks and gets a snapshot resyncs if the sync succeeds. -/
private theorem resyncs_of_fetched
    (fetches :
      shouldFetchSnapshot (receiveDepthEvent history.state call)
        call.rawSymbol = true)
    {snapshot : BinanceOrderBookSnapshot}
    (isAnswer : call.answer = .fetched snapshot) :
    ((syncDepthBookFromSnapshot
          ((receiveDepthEvent history.state call).book call.rawSymbol)
          snapshot).2 = .ok () →
        resyncs history.state call = true) ∧
      ∀ failure,
        (syncDepthBookFromSnapshot
            ((receiveDepthEvent history.state call).book call.rawSymbol)
            snapshot).2 = .error failure →
          resyncs history.state call = false := by
  unfold resyncs
  dsimp only
  rw [fetches, isAnswer, Bool.true_and]
  dsimp only
  constructor
  · intro done
    rw [done]
  · intro failure done
    rw [done]

/-- A failed request syncs no book. -/
private theorem resyncs_of_failed
    {error : String}
    (isAnswer : call.answer = .failed error) :
    resyncs history.state call = false := by
  unfold resyncs
  dsimp only
  rw [isAnswer, Bool.and_false]

/--
A call keeps every announced snapshot coming exactly if, where it asks for a
snapshot, it gets one that heals the book.
-/
theorem stepRetries_exact
    (nothing : NothingWaits history)
    (follow : RetriesFollow history) :
    RetriesFollow (stepRetries history call) ↔ FetchHeals history call := by
  rw [stepRetries_follow_iff follow]
  cases fetches :
      shouldFetchSnapshot (receiveDepthEvent history.state call)
        call.rawSymbol with
  | false =>
      constructor
      · intro _ asks
        rw [fetches] at asks
        cases asks
      · intro _ announced
        exact absurd announced
          (not_mem_announced_of_not_fetch follow fetches)
  | true =>
      obtain ⟨notSynced, room⟩ := waiting_of_fetch nothing fetches
      have answered :=
        fetchAndSyncSnapshot_cases (receiveDepthEvent history.state call)
          call.rawSymbol call.receivedTimeMs
          (receiveDepthEvent_get?_same history.state call) call.answer
      rw [← handleDiffDepthEvent_of_fetch history.state call fetches]
        at answered
      cases isAnswer : call.answer with
      | failed error =>
          rw [isAnswer] at answered
          constructor
          · intro own
            cases answered with
            | failed _ alert recorded announces isSymbol attempted book =>
                obtain ⟨-, asks⟩ :=
                  own (mem_announced_of_alert (resyncs_of_failed isAnswer)
                    recorded announces isSymbol)
                have next := asks call rfl
                rw [asks_iff _ call (by rw [book]; exact notSynced),
                  attempted, book, room] at next
                simp at next
          · intro heals
            obtain ⟨snapshot, isFetched, -⟩ := heals fetches
            rw [isAnswer] at isFetched
            cases isFetched
      | fetched snapshot =>
          rw [isAnswer] at answered
          cases answered with
          | synced _ recorded done heals attempted =>
              constructor
              · exact fun _ _ => ⟨snapshot, isAnswer, heals⟩
              · intro _ announced
                exact absurd announced
                  (not_mem_announced_of_resyncs
                    ((resyncs_of_fetched fetches isAnswer).1 done))
          | misfit _ alert failure recorded announces isSymbol done book
              attempted =>
              have announced :=
                mem_announced_of_alert
                  ((resyncs_of_fetched fetches isAnswer).2 failure done)
                  recorded announces isSymbol
              rcases book with ⟨empty, heals⟩ | ⟨synced, misfits⟩
              · constructor
                · exact fun _ _ => ⟨snapshot, isAnswer, heals⟩
                · intro _ _
                  have reset :
                      ((handleDiffDepthEvent history.state call).book
                        call.rawSymbol).isSynced = false := by
                    rw [empty]
                    rfl
                  refine ⟨reset, fun next isNext => ?_⟩
                  rw [← isNext] at reset attempted ⊢
                  rw [asks_iff _ next reset, attempted]
                  exact Or.inl (Finset.notMem_erase next.rawSymbol _)
              · constructor
                · intro own
                  rw [(own announced).1] at synced
                  cases synced
                · intro heals
                  obtain ⟨other, isOther, fits⟩ := heals fetches
                  rw [isAnswer] at isOther
                  cases isOther
                  exact absurd fits misfits

end Exact

/-- Nothing waits before the first update. -/
private theorem nothingWaits_new :
    NothingWaits .new := fun _ _ _ => rfl

/-- Nothing is announced before the first update. -/
private theorem retriesFollow_new :
    RetriesFollow .new := by
  intro symbol announced
  cases announced

/--
The runs in which every announced snapshot is asked for with the next update
are exactly those in which every request gets a snapshot that heals the book.
-/
theorem retriesFollow_iff
    (calls : List DepthCall) :
    Runs.Always stepRetries RetriesFollow .new calls ↔
      Runs.Along stepRetries FetchHeals .new calls :=
  Runs.always_iff_along nothingWaits_new retriesFollow_new
    (fun call nothing => stepRetries_nothingWaits call nothing)
    (fun _ nothing follow => stepRetries_exact nothing follow)

/-- An update whose request for a snapshot fails. -/
def failedRequest : DepthCall where
  event := ⟨"BTCUSDT", 90, 100, [("50000.0", "1.5")], []⟩
  receivedTimeMs := 1779471443010
  answer := .failed "timeout"

/-- The retry is announced, and the next update does not ask. -/
theorem failedRequest_not_retried :
    ¬ Runs.Always stepRetries RetriesFollow .new [failedRequest] := by
  intro always
  have heals :=
    (stepRetries_exact nothingWaits_new retriesFollow_new).mp
      always.2
  have asks :=
    (asks_iff DepthSyncState.new failedRequest rfl).mpr
      (Or.inl (Finset.notMem_empty _))
  obtain ⟨snapshot, isFetched, -⟩ := heals asks
  cases isFetched

end MarketIngest.MarketData
