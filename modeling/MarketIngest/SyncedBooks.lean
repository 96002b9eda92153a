import MarketIngest.DepthSync

namespace MarketIngest.MarketData

/-!
# Every synced book is a replay

The updates and the fetched snapshots of a symbol are collected along a run.
If the fetched snapshots parse and the prices are compared as numbers, every
synced book is the replay of a fetched snapshot by received updates in order.
-/

/-- The updates of a symbol. -/
def received (symbol : String) (calls : List DepthCall) :
    List BinanceDiffDepthMessage :=
  calls.filterMap fun call =>
    if call.rawSymbol = symbol then some call.event else none

/-- The snapshot that a call fetches. -/
def fetchedBy
    (state : DepthSyncState)
    (call : DepthCall) : Option (String × BinanceOrderBookSnapshot) :=
  if shouldFetchSnapshot (receiveDepthEvent state call) call.rawSymbol then
    match call.answer with
    | .fetched snapshot => some (call.rawSymbol, snapshot)
    | .failed _ => none
  else
    none

/-- The snapshots that some calls fetch, with their symbols. -/
def fetchedFrom
    (state : DepthSyncState) :
    List DepthCall → List (String × BinanceOrderBookSnapshot)
  | [] => []
  | call :: rest =>
      (fetchedBy state call).toList ++
        fetchedFrom (handleDiffDepthEvent state call) rest

/-- The snapshots that a worker fetches, with their symbols. -/
def fetched
    (calls : List DepthCall) : List (String × BinanceOrderBookSnapshot) :=
  fetchedFrom .new calls

/-- A price of an update or a fetched snapshot. -/
def PriceOf (calls : List DepthCall) (price : FixedDecimal) : Prop :=
  (∃ call ∈ calls,
      price ∈
        (parsedLevels (call.event.bids ++ call.event.asks)).map
          Prod.fst) ∨
    ∃ origin ∈ fetched calls,
      price ∈
        (parsedLevels (origin.2.bids ++ origin.2.asks)).map Prod.fst

/-- What the books of a run are like. -/
structure BooksReplay (calls : List DepthCall) : Prop where
  replays :
    ∀ symbol,
      ((depthState calls).book symbol).isSynced = true →
        ∃ snapshot applied,
          (symbol, snapshot) ∈ fetched calls ∧
            applied.Sublist (received symbol calls) ∧
            IsReplay snapshot applied ((depthState calls).book symbol)
  grows :
    ∀ (call : DepthCall) (symbol : String) (before after : Nat),
      ((depthState calls).book symbol).lastUpdateId = some before →
        ((receiveDepthEvent (depthState calls) call).book
            symbol).lastUpdateId = some after →
          before ≤ after ∧
            (handleDiffDepthEvent (depthState calls) call).book symbol =
              (receiveDepthEvent (depthState calls) call).book symbol
  whole :
    ∀ (call : DepthCall) (last : Nat),
      ((depthState calls).book call.rawSymbol).lastUpdateId = some last →
        continuation last call.event = .next →
          ¬ call.event.Parses →
            (receiveDepthEvent (depthState calls) call).book
              call.rawSymbol = .empty
  wholeReplay :
    ∀ (symbol : String) (snapshot : BinanceOrderBookSnapshot)
      (after : BinanceLocalOrderBook) (alert : BinanceGapAlert),
      syncDepthBookFromSnapshot ((depthState calls).book symbol) snapshot =
          (after, .error alert) →
        alert.gapType = "depth_level_parse_failed" →
          after = .empty

section Run

variable
  (calls : List DepthCall)
  (call : DepthCall)

/-- One more call. -/
theorem depthState_concat :
    depthState (calls ++ [call]) =
      handleDiffDepthEvent (depthState calls) call :=
  List.foldl_concat ..

/-- One more call may fetch one more snapshot. -/
private theorem fetchedFrom_concat
    (state : DepthSyncState) :
    fetchedFrom state (calls ++ [call]) =
      fetchedFrom state calls ++
        (fetchedBy (Runs.run handleDiffDepthEvent state calls)
          call).toList := by
  induction calls generalizing state with
  | nil =>
      simp [fetchedFrom]
  | cons first rest inductionHypothesis =>
      simp only [List.cons_append, fetchedFrom, Runs.run_cons,
        inductionHypothesis, List.append_assoc]

/-- The snapshots of a worker after one more call. -/
theorem fetched_concat :
    fetched (calls ++ [call]) =
      fetched calls ++ (fetchedBy (depthState calls) call).toList :=
  fetchedFrom_concat calls call .new

/-- A fetched snapshot is the answer of a call. -/
theorem exists_answer_of_mem_fetchedFrom
    {state : DepthSyncState}
    {origin : String × BinanceOrderBookSnapshot}
    (member : origin ∈ fetchedFrom state calls) :
    ∃ call ∈ calls, call.answer = .fetched origin.2 := by
  induction calls generalizing state with
  | nil =>
      cases member
  | cons first rest inductionHypothesis =>
      rcases List.mem_append.mp member with now | later
      · refine ⟨first, List.mem_cons_self .., ?_⟩
        have isFetched := Option.mem_toList.mp now
        unfold fetchedBy at isFetched
        split_ifs at isFetched
        · cases answered : first.answer with
          | failed error =>
              rw [answered] at isFetched
              cases isFetched
          | fetched snapshot =>
              rw [answered] at isFetched
              cases isFetched
              rfl
      · obtain ⟨call, inRest, answered⟩ := inductionHypothesis later
        exact ⟨call, List.mem_cons_of_mem _ inRest, answered⟩

/-- The updates of a symbol after one more call. -/
theorem received_concat
    (symbol : String) :
    received symbol (calls ++ [call]) =
      received symbol calls ++
        if call.rawSymbol = symbol then [call.event] else [] := by
  rw [received, List.filterMap_append]
  by_cases same : call.rawSymbol = symbol
  · simp [received, same]
  · simp [received, same]

end Run

/-- What is known about one book in a run. -/
structure BookKnown
    (IsPrice : FixedDecimal → Prop)
    (snapshots : List BinanceOrderBookSnapshot)
    (updates : List BinanceDiffDepthMessage)
    (book : BinanceLocalOrderBook) : Prop where
  waiting : book.bufferedEvents.Sublist updates
  synced :
    book.isSynced = true →
      ∃ snapshot ∈ snapshots, ∃ applied : List BinanceDiffDepthMessage,
        applied.Sublist updates ∧ Follows IsPrice snapshot applied book

section Books

variable
  {IsPrice : FixedDecimal → Prop}
  {snapshots : List BinanceOrderBookSnapshot}
  {updates : List BinanceDiffDepthMessage}
  {book : BinanceLocalOrderBook}

/-- A book that is not synced needs to know only what waits. -/
theorem BookKnown.of_not_synced
    (waiting : book.bufferedEvents.Sublist updates)
    (notSynced : book.isSynced = false) :
    BookKnown IsPrice snapshots updates book where
  waiting := waiting
  synced := by
    intro isSynced
    rw [notSynced] at isSynced
    cases isSynced

/-- Nothing is known about an empty book. -/
theorem bookKnown_empty :
    BookKnown IsPrice snapshots updates .empty :=
  .of_not_synced (List.nil_sublist _) rfl

/-- More snapshots and more updates do no harm. -/
theorem BookKnown.mono
    {moreSnapshots : List BinanceOrderBookSnapshot}
    {moreUpdates : List BinanceDiffDepthMessage}
    (known : BookKnown IsPrice snapshots updates book)
    (snapshotsKept : snapshots ⊆ moreSnapshots)
    (updatesKept : updates.Sublist moreUpdates) :
    BookKnown IsPrice moreSnapshots moreUpdates book where
  waiting := known.waiting.trans updatesKept
  synced := by
    intro isSynced
    obtain ⟨snapshot, member, applied, part, follows⟩ :=
      known.synced isSynced
    exact
      ⟨snapshot, snapshotsKept member, applied, part.trans updatesKept,
        follows⟩

variable
  {event : BinanceDiffDepthMessage}
  {rawSymbol : String}
  {receivedTimeMs : Int}
  {snapshotAttempted : Finset String}
  {stats : BinanceIngestWatchStats}

/-- A synced book stays known when an update comes. -/
theorem BookKnown.handleSynced
    (aligned : PricesAligned IsPrice)
    (known : BookKnown IsPrice snapshots updates book)
    (isSynced : book.isSynced = true)
    (prices : event.HasPrices IsPrice) :
    BookKnown IsPrice snapshots (updates ++ [event])
      (handleSyncedDepthEvent book event rawSymbol receivedTimeMs
        snapshotAttempted stats).1 := by
  obtain ⟨snapshot, member, applied, part, follows⟩ :=
    known.synced isSynced
  have kept :
      BookKnown IsPrice snapshots (updates ++ [event]) book :=
    known.mono (List.Subset.refl _) (List.sublist_append_left ..)
  unfold handleSyncedDepthEvent
  rw [follows.last]
  dsimp only
  cases standing :
      continuation (lastId snapshot.lastUpdateId applied) event with
  | old =>
      exact kept
  | gap =>
      exact .of_not_synced (List.sublist_append_right ..) rfl
  | next =>
      dsimp only
      cases result : applyDepthDelta book event with
      | error alert =>
          exact bookKnown_empty
      | ok after =>
          obtain ⟨further, waiting⟩ :=
            follows.applyDepthDelta aligned prices standing result
          constructor
          · rw [waiting]
            exact kept.waiting
          · intro _
            exact
              ⟨snapshot, member, applied ++ [event],
                part.append (List.Sublist.refl _), further⟩

/-- A waiting book stays known when an update comes. -/
theorem BookKnown.bufferUnsynced
    (known : BookKnown IsPrice snapshots updates book)
    (notSynced : book.isSynced = false) :
    BookKnown IsPrice snapshots (updates ++ [event])
      (bufferUnsyncedDepthEvent book event rawSymbol receivedTimeMs
        snapshotAttempted stats).1 := by
  unfold bufferUnsyncedDepthEvent
  split
  · exact .of_not_synced (List.sublist_append_right ..) rfl
  · exact .of_not_synced
      (known.waiting.append (List.Sublist.refl _)) notSynced

/-- A book stays known when it is synced from a snapshot. -/
theorem BookKnown.sync
    (aligned : PricesAligned IsPrice)
    (known : BookKnown IsPrice snapshots updates book)
    (prices : ∀ event ∈ updates, event.HasPrices IsPrice)
    {snapshot : BinanceOrderBookSnapshot}
    (parses : snapshot.Parses)
    (snapshotPrices : snapshot.HasPrices IsPrice) :
    BookKnown IsPrice (snapshots ++ [snapshot]) updates
      (syncDepthBookFromSnapshot book snapshot).1 := by
  rcases syncDepthBookFromSnapshot_follows aligned parses snapshotPrices
      (fun event member => prices event (known.waiting.subset member)) with
    isReset | ⟨waiting, applied, part, follows⟩
  · rw [isReset]
    exact bookKnown_empty
  · constructor
    · exact waiting.trans known.waiting
    · intro _
      exact
        ⟨snapshot, by simp, applied, part.trans known.waiting, follows⟩

end Books

/-- The snapshots of a symbol. -/
def snapshotsOf
    (symbol : String)
    (origins : List (String × BinanceOrderBookSnapshot)) :
    List BinanceOrderBookSnapshot :=
  origins.filterMap fun origin =>
    if origin.1 = symbol then some origin.2 else none

/-- A snapshot of a symbol. -/
private theorem mem_snapshotsOf
    {symbol : String}
    {origins : List (String × BinanceOrderBookSnapshot)}
    {snapshot : BinanceOrderBookSnapshot} :
    snapshot ∈ snapshotsOf symbol origins ↔
      (symbol, snapshot) ∈ origins := by
  unfold snapshotsOf
  rw [List.mem_filterMap]
  constructor
  · rintro ⟨⟨owner, found⟩, member, same⟩
    split_ifs at same with isSymbol
    cases same
    exact isSymbol ▸ member
  · intro member
    exact ⟨(symbol, snapshot), member, by simp⟩

section Steps

variable
  {IsPrice : FixedDecimal → Prop}
  {state : DepthSyncState}
  {call : DepthCall}
  {origins : List (String × BinanceOrderBookSnapshot)}
  {updates : String → List BinanceDiffDepthMessage}

/-- The updates of a symbol with the one that comes. -/
private def updatesWith
    (updates : String → List BinanceDiffDepthMessage)
    (call : DepthCall)
    (symbol : String) : List BinanceDiffDepthMessage :=
  updates symbol ++ if call.rawSymbol = symbol then [call.event] else []

/-- All books stay known when an update comes. -/
private theorem receiveDepthEvent_known
    (aligned : PricesAligned IsPrice)
    (known :
      ∀ symbol,
        BookKnown IsPrice (snapshotsOf symbol origins) (updates symbol)
          (state.book symbol))
    (prices : call.event.HasPrices IsPrice)
    (symbol : String) :
    BookKnown IsPrice (snapshotsOf symbol origins)
      (updatesWith updates call symbol)
      ((receiveDepthEvent state call).book symbol) := by
  unfold updatesWith
  by_cases same : call.rawSymbol = symbol
  · subst same
    rw [if_pos rfl, receiveDepthEvent_book_same]
    split_ifs with isSynced
    · exact (known call.rawSymbol).handleSynced aligned isSynced prices
    · exact (known call.rawSymbol).bufferUnsynced (by simpa using isSynced)
  · rw [if_neg same, List.append_nil,
      receiveDepthEvent_book_other state call (Ne.symm same)]
    exact known symbol

/-- All books stay known when a call is handled. -/
private theorem handleDiffDepthEvent_known
    (aligned : PricesAligned IsPrice)
    (known :
      ∀ symbol,
        BookKnown IsPrice (snapshotsOf symbol origins) (updates symbol)
          (state.book symbol))
    (prices :
      ∀ symbol, ∀ event ∈ updatesWith updates call symbol,
        event.HasPrices IsPrice)
    (fetchedKnown :
      ∀ origin ∈ fetchedBy state call,
        origin.2.Parses ∧ origin.2.HasPrices IsPrice)
    (symbol : String) :
    BookKnown IsPrice
      (snapshotsOf symbol (origins ++ (fetchedBy state call).toList))
      (updatesWith updates call symbol)
      ((handleDiffDepthEvent state call).book symbol) := by
  have eventPrices : call.event.HasPrices IsPrice :=
    prices call.rawSymbol call.event (by simp [updatesWith])
  have receivedKnown :=
    receiveDepthEvent_known aligned known eventPrices symbol
  have more :
      snapshotsOf symbol origins ⊆
        snapshotsOf symbol (origins ++ (fetchedBy state call).toList) := by
    rw [snapshotsOf, snapshotsOf, List.filterMap_append]
    exact List.subset_append_left ..
  cases fetches :
      shouldFetchSnapshot (receiveDepthEvent state call)
        call.rawSymbol with
  | false =>
      rw [handleDiffDepthEvent_of_not_fetch state call fetches]
      exact receivedKnown.mono more (List.Sublist.refl _)
  | true =>
      rw [handleDiffDepthEvent_of_fetch state call fetches]
      cases answered : call.answer with
      | failed error =>
          exact receivedKnown.mono more (List.Sublist.refl _)
      | fetched snapshot =>
          by_cases same : call.rawSymbol = symbol
          · subst same
            rw [fetchAndSyncSnapshot_fetched_book _ _ _
              (receiveDepthEvent_get?_same state call)]
            have isFetched :
                fetchedBy state call =
                  some (call.rawSymbol, snapshot) := by
              simp [fetchedBy, fetches, answered]
            obtain ⟨parses, snapshotPrices⟩ :=
              fetchedKnown _ isFetched
            have synced :=
              receivedKnown.sync aligned (prices call.rawSymbol) parses
                snapshotPrices
            rw [isFetched, snapshotsOf, List.filterMap_append]
            simpa [snapshotsOf] using synced
          · rw [fetchAndSyncSnapshot_book_other _ _ _ _ (Ne.symm same)]
            exact receivedKnown.mono more (List.Sublist.refl _)

end Steps

/-- The updates of a run have prices of it. -/
private theorem hasPrices_of_mem_received
    {IsPrice : FixedDecimal → Prop}
    {calls : List DepthCall}
    (prices : ∀ call ∈ calls, call.event.HasPrices IsPrice)
    {symbol : String} :
    ∀ event ∈ received symbol calls, event.HasPrices IsPrice := by
  intro event member
  obtain ⟨call, inCalls, same⟩ := List.mem_filterMap.mp member
  split_ifs at same with isSymbol
  cases same
  exact prices call inCalls

/-- All books of a run are known. -/
theorem depthState_known
    {IsPrice : FixedDecimal → Prop}
    (aligned : PricesAligned IsPrice)
    (calls : List DepthCall)
    (prices : ∀ call ∈ calls, call.event.HasPrices IsPrice)
    (fetchedKnown :
      ∀ origin ∈ fetched calls,
        origin.2.Parses ∧ origin.2.HasPrices IsPrice)
    (symbol : String) :
    BookKnown IsPrice (snapshotsOf symbol (fetched calls))
      (received symbol calls) ((depthState calls).book symbol) := by
  induction calls using List.reverseRecOn generalizing symbol with
  | nil =>
      exact bookKnown_empty
  | append_singleton calls call inductionHypothesis =>
      rw [List.forall_mem_append] at prices
      rw [fetched_concat, List.forall_mem_append] at fetchedKnown
      have together := fun symbol : String =>
        received_concat calls call symbol
      rw [depthState_concat, fetched_concat, together]
      refine handleDiffDepthEvent_known aligned
        (inductionHypothesis prices.1 fetchedKnown.1) ?_ ?_ symbol
      · intro other event member
        rw [updatesWith, ← together] at member
        refine hasPrices_of_mem_received ?_ event member
        rw [List.forall_mem_append]
        exact prices
      · intro origin isFetched
        exact fetchedKnown.2 origin (Option.mem_toList.mpr isFetched)

/-- A replay that meets an update that does not parse resets the book. -/
private theorem replayBuffered_whole
    {pending : List BinanceDiffDepthMessage}
    {book after : BinanceLocalOrderBook}
    {alert : BinanceGapAlert}
    (result : replayBuffered book pending = (after, .error alert))
    (unread : alert.gapType = "depth_level_parse_failed") :
    after = .empty := by
  induction pending generalizing book with
  | nil =>
      cases result
  | cons event rest inductionHypothesis =>
      unfold replayBuffered at result
      cases standing :
          book.lastUpdateId.elim .next (continuation · event) with
      | old =>
          rw [standing] at result
          exact inductionHypothesis result
      | gap =>
          rw [standing] at result
          cases result
          simp [snapshotGapAlert] at unread
      | next =>
          rw [standing] at result
          cases applies : applyDepthDelta book event with
          | error failure =>
              rw [applies] at result
              cases result
              rfl
          | ok applied =>
              rw [applies] at result
              exact inductionHypothesis result

/-- A snapshot whose replay meets such an update resets the book. -/
theorem syncDepthBookFromSnapshot_whole
    {book after : BinanceLocalOrderBook}
    {snapshot : BinanceOrderBookSnapshot}
    {alert : BinanceGapAlert}
    (result :
      syncDepthBookFromSnapshot book snapshot = (after, .error alert))
    (unread : alert.gapType = "depth_level_parse_failed") :
    after = .empty := by
  unfold syncDepthBookFromSnapshot at result
  dsimp only at result
  cases bids : parseSnapshotLevels snapshot.bids with
  | error reason =>
      rw [bids] at result
      cases result
      simp [snapshotParseAlert] at unread
  | ok bidLevels =>
      rw [bids] at result
      dsimp only at result
      cases asks : parseSnapshotLevels snapshot.asks with
      | error reason =>
          rw [asks] at result
          cases result
          simp [snapshotParseAlert] at unread
      | ok askLevels =>
          rw [asks] at result
          dsimp only at result
          generalize
            (book.bufferedEvents.filter fun event =>
              decide (event.finalUpdateId > snapshot.lastUpdateId)) =
              retained at result
          cases retained with
          | nil =>
              cases result
          | cons firstEvent others =>
              dsimp only at result
              split_ifs at result with misaligned
              · cases result
                simp [snapshotGapAlert] at unread
              · exact replayBuffered_whole result unread

/-- An update for a synced book is applied or resets it, or is old. -/
theorem handleSyncedDepthEvent_grows
    {book : BinanceLocalOrderBook}
    {event : BinanceDiffDepthMessage}
    {rawSymbol : String}
    {receivedTimeMs : Int}
    {snapshotAttempted : Finset String}
    {stats : BinanceIngestWatchStats}
    {before after : Nat}
    (last : book.lastUpdateId = some before)
    (next :
      (handleSyncedDepthEvent book event rawSymbol receivedTimeMs
        snapshotAttempted stats).1.lastUpdateId = some after) :
    before ≤ after := by
  unfold handleSyncedDepthEvent at next
  rw [last] at next
  dsimp only at next
  cases standing : continuation before event with
  | old =>
      rw [standing] at next
      exact (Option.some.inj (last.symm.trans next)).le
  | gap =>
      rw [standing] at next
      cases next
  | next =>
      rw [standing] at next
      rcases applyDepthDelta_cases book event with
        ⟨-, applies⟩ | ⟨-, alert, fails⟩
      · rw [applies] at next
        cases next
        exact (continuation_eq_next_iff.mp standing).2.le
      · rw [fails] at next
        cases next

/--
In every state of a run whose fetched snapshots parse and whose prices are
compared as numbers, a synced book is the replay of a fetched snapshot.
-/
theorem depthBooks_replay
    (calls : List DepthCall)
    (parses : ∀ origin ∈ fetched calls, origin.2.Parses)
    (aligned : PricesAligned (PriceOf calls)) :
    BooksReplay calls := by
  have known :=
    depthState_known aligned calls
      (fun call member level inLevels =>
        Or.inl ⟨call, member, List.mem_map.mpr ⟨level, inLevels, rfl⟩⟩)
      (fun origin member =>
        ⟨parses origin member, fun level inLevels =>
          Or.inr
            ⟨origin, member, List.mem_map.mpr ⟨level, inLevels, rfl⟩⟩⟩)
  constructor
  · intro symbol isSynced
    obtain ⟨snapshot, member, applied, part, follows⟩ :=
      (known symbol).synced isSynced
    exact
      ⟨snapshot, applied, mem_snapshotsOf.mp member, part,
        follows.isReplay⟩
  · intro call symbol before after last next
    by_cases same : call.rawSymbol = symbol
    · subst same
      have isSynced :
          ((receiveDepthEvent (depthState calls) call).book
            call.rawSymbol).isSynced = true := by
        rw [BinanceLocalOrderBook.isSynced, next, Option.isSome_some]
      have quiet :
          shouldFetchSnapshot (receiveDepthEvent (depthState calls) call)
            call.rawSymbol = false := by
        rw [← Bool.not_eq_true, shouldFetchSnapshot_iff, isSynced]
        simp
      rw [handleDiffDepthEvent_of_not_fetch _ _ quiet]
      rw [receiveDepthEvent_book_same, if_pos] at next
      · exact ⟨handleSyncedDepthEvent_grows last next, rfl⟩
      · rw [BinanceLocalOrderBook.isSynced, last, Option.isSome_some]
    · have other := Ne.symm same
      rw [receiveDepthEvent_book_other _ _ other] at next ⊢
      refine ⟨(Option.some.inj (last.symm.trans next)).le, ?_⟩
      rw [← receiveDepthEvent_book_other (depthState calls) call other]
      unfold handleDiffDepthEvent
      dsimp only
      split_ifs with fetches
      · exact fetchAndSyncSnapshot_book_other _ _ _ _ other
      · rfl
  · intro call last synced next unread
    rw [receiveDepthEvent_book_same, if_pos]
    · unfold handleSyncedDepthEvent
      rw [synced]
      dsimp only
      rw [next]
      rcases applyDepthDelta_cases
          ((depthState calls).book call.rawSymbol) call.event with
        ⟨reads, -⟩ | ⟨-, alert, fails⟩
      · exact absurd reads unread
      · dsimp only
        rw [fails]
        rfl
    · rw [BinanceLocalOrderBook.isSynced, synced, Option.isSome_some]
  · intro symbol snapshot after alert result unread
    exact syncDepthBookFromSnapshot_whole result unread

/-- A snapshot with one price. -/
def bidSnapshot : BinanceOrderBookSnapshot where
  lastUpdateId := 95
  bids := [("50000.0", "2.0")]
  asks := []

/-- An update that makes the worker fetch this snapshot, and the next one. -/
def bidCalls : List DepthCall :=
  [{ event := ⟨"BTCUSDT", 90, 100, [("50000.0", "1.5")], []⟩
     receivedTimeMs := 1779471443010
     answer := .fetched bidSnapshot },
    { event := ⟨"BTCUSDT", 101, 104, [("50000.0", "0")], []⟩
      receivedTimeMs := 1779471443110
      answer := .failed "timeout" }]

/-- The only snapshot of these calls. -/
private theorem fetched_bidCalls :
    ∀ origin ∈ fetched bidCalls, origin.2 = bidSnapshot := by
  intro origin member
  obtain ⟨call, inCalls, answered⟩ :=
    exists_answer_of_mem_fetchedFrom bidCalls member
  rcases List.mem_cons.mp inCalls with rfl | later
  · exact (SnapshotAnswer.fetched.inj answered).symm
  · rw [List.mem_singleton.mp later] at answered
    cases answered

/-- The only price of these calls. -/
private theorem priceOf_bidCalls
    {price : FixedDecimal}
    (isPrice : PriceOf bidCalls price) :
    price = ⟨500000, 1⟩ := by
  rcases isPrice with ⟨call, inCalls, inLevels⟩ | ⟨origin, member, inLevels⟩
  · rcases List.mem_cons.mp inCalls with rfl | later
    · exact List.mem_singleton.mp inLevels
    · rw [List.mem_singleton.mp later] at inLevels
      exact List.mem_singleton.mp inLevels
  · rw [fetched_bidCalls origin member] at inLevels
    exact List.mem_singleton.mp inLevels

/-- A book that is synced and loses its level again. -/
theorem bidCalls_replay :
    BooksReplay bidCalls := by
  refine depthBooks_replay bidCalls ?_ ?_
  · intro origin member
    rw [fetched_bidCalls origin member]
    intro level inLevels
    rw [List.mem_singleton.mp inLevels]
    exact ⟨⟨500000, 1⟩, ⟨20, 1⟩, rfl, rfl⟩
  · intro first second isFirst isSecond
    rw [priceOf_bidCalls isFirst, priceOf_bidCalls isSecond]
    unfold FixedDecimal.Aligned
    decide

end MarketIngest.MarketData
