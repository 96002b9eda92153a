import MarketIngest.DepthReplay
import MarketIngest.OrderedMap
import MarketIngest.Runs
import MarketIngest.Text
import Mathlib.Data.Finset.Basic

namespace MarketIngest.MarketData

/-!
# Keeping the books of all symbols in sync

Every update of a stream goes to the book of its symbol.  If the book is not
synced afterwards and no snapshot was asked for since it was last reset, a
snapshot is fetched.  The answer of the exchange is part of a call.

In every reached state a synced book is the replay of a fetched snapshot by
updates that were received in this order.
-/

/-- The counts of a worker that concern books. -/
structure BinanceIngestWatchStats where
  depthSnapshotRequests : Nat
  depthSnapshotSuccesses : Nat
  depthSnapshotFailures : Nat
  bufferOverflowCount : Nat
  gapAlertCount : Nat
  recentGapAlerts : List BinanceGapAlert
  deriving Repr, DecidableEq

/-- The counts of a worker that starts. -/
def BinanceIngestWatchStats.new : BinanceIngestWatchStats where
  depthSnapshotRequests := 0
  depthSnapshotSuccesses := 0
  depthSnapshotFailures := 0
  bufferOverflowCount := 0
  gapAlertCount := 0
  recentGapAlerts := []

/-- Count an alert, and keep it among the latest ones. -/
def BinanceIngestWatchStats.recordGapAlert
    (stats : BinanceIngestWatchStats)
    (alert : BinanceGapAlert) : BinanceIngestWatchStats :=
  let pushed := stats.recentGapAlerts ++ [alert]
  { stats with
    gapAlertCount := stats.gapAlertCount + 1
    recentGapAlerts := if pushed.length > 20 then pushed.tail else pushed }

/-- The alert about updates that are missing. -/
def sequenceGapAlert
    (rawSymbol : String)
    (receivedTimeMs : Int)
    (expected observed : Nat) : BinanceGapAlert where
  gapType := "sequence_gap"
  symbol := rawSymbol
  detectedAtMs := receivedTimeMs
  expectedSequenceId := some expected
  observedSequenceId := some observed
  healAction := "refetch_snapshot"
  healStatus := "resync_requested"

/-- The alert about updates that were dropped. -/
def bufferedOverflowAlert
    (rawSymbol : String)
    (receivedTimeMs : Int)
    (observed droppedCount : Nat) : BinanceGapAlert where
  gapType := "buffered_overflow"
  symbol := rawSymbol
  detectedAtMs := receivedTimeMs
  expectedSequenceId := none
  observedSequenceId := some observed
  healAction := "refetch_snapshot"
  healStatus := "dropped_count=" ++ toString droppedCount

/-- The alert about a snapshot that did not come. -/
def snapshotFetchFailedAlert
    (rawSymbol : String)
    (receivedTimeMs : Int)
    (error : String) : BinanceGapAlert where
  gapType := "snapshot_fetch_failed"
  symbol := rawSymbol
  detectedAtMs := receivedTimeMs
  expectedSequenceId := none
  observedSequenceId := none
  healAction := "retry_snapshot"
  healStatus := "failed: " ++ error

/-- Record an alert of a book under its symbol and time. -/
def recordDeltaParseGap
    (stats : BinanceIngestWatchStats)
    (rawSymbol : String)
    (receivedTimeMs : Int)
    (alert : BinanceGapAlert) : BinanceIngestWatchStats :=
  stats.recordGapAlert
    { alert with symbol := rawSymbol, detectedAtMs := receivedTimeMs }

/-- The books, the symbols whose snapshot was asked for, and the counts. -/
structure DepthSyncState where
  books : OrderedMap String BinanceLocalOrderBook
  snapshotAttempted : Finset String
  stats : BinanceIngestWatchStats

/-- A worker that starts. -/
def DepthSyncState.new : DepthSyncState where
  books := .empty
  snapshotAttempted := ∅
  stats := .new

/-- An update for a synced book. -/
def handleSyncedDepthEvent
    (book : BinanceLocalOrderBook)
    (event : BinanceDiffDepthMessage)
    (rawSymbol : String)
    (receivedTimeMs : Int)
    (snapshotAttempted : Finset String)
    (stats : BinanceIngestWatchStats) :
    BinanceLocalOrderBook × Finset String × BinanceIngestWatchStats :=
  match book.lastUpdateId with
  | none => (book, snapshotAttempted, stats)
  | some lastUpdateId =>
      match continuation lastUpdateId event with
      | .old => (book, snapshotAttempted, stats)
      | .gap =>
          (book.resetForResync event, snapshotAttempted.erase rawSymbol,
            stats.recordGapAlert
              (sequenceGapAlert rawSymbol receivedTimeMs
                (lastUpdateId + 1) event.firstUpdateId))
      | .next =>
          match applyDepthDelta book event with
          | .ok applied => (applied, snapshotAttempted, stats)
          | .error alert =>
              (book.resetAfterOverflow, snapshotAttempted.erase rawSymbol,
                recordDeltaParseGap stats rawSymbol receivedTimeMs alert)

/-- An update for a book that waits for a snapshot. -/
def bufferUnsyncedDepthEvent
    (book : BinanceLocalOrderBook)
    (event : BinanceDiffDepthMessage)
    (rawSymbol : String)
    (receivedTimeMs : Int)
    (snapshotAttempted : Finset String)
    (stats : BinanceIngestWatchStats) :
    BinanceLocalOrderBook × Finset String × BinanceIngestWatchStats :=
  if book.bufferedAtCapacity then
    let reset := book.resetAfterOverflow
    ({ reset with bufferedEvents := reset.bufferedEvents ++ [event] },
      snapshotAttempted.erase rawSymbol,
      { stats with
        bufferOverflowCount :=
          stats.bufferOverflowCount + 1 }.recordGapAlert
        (bufferedOverflowAlert rawSymbol receivedTimeMs
          event.firstUpdateId book.bufferedEvents.length))
  else
    ({ book with bufferedEvents := book.bufferedEvents ++ [event] },
      snapshotAttempted, stats)

/-- What the exchange answers to a request for a snapshot. -/
inductive SnapshotAnswer where
  | failed (error : String)
  | fetched (snapshot : BinanceOrderBookSnapshot)
  deriving Repr, DecidableEq

/-- An update, and the answer if it makes the worker ask for a snapshot. -/
structure DepthCall where
  event : BinanceDiffDepthMessage
  receivedTimeMs : Int
  answer : SnapshotAnswer
  deriving Repr, DecidableEq

/-- The symbol of a call. -/
def DepthCall.rawSymbol (call : DepthCall) : String :=
  Text.toAsciiUppercase call.event.symbol

/-- The book of a symbol. -/
def DepthSyncState.book
    (state : DepthSyncState)
    (rawSymbol : String) : BinanceLocalOrderBook :=
  (state.books.get? rawSymbol).getD .empty

/-- Give an update to the book of its symbol. -/
def receiveDepthEvent
    (state : DepthSyncState)
    (call : DepthCall) : DepthSyncState :=
  let book := state.book call.rawSymbol
  let (received, snapshotAttempted, stats) :=
    if book.isSynced then
      handleSyncedDepthEvent book call.event call.rawSymbol
        call.receivedTimeMs state.snapshotAttempted state.stats
    else
      bufferUnsyncedDepthEvent book call.event call.rawSymbol
        call.receivedTimeMs state.snapshotAttempted state.stats
  { books := state.books.insert call.rawSymbol received
    snapshotAttempted := snapshotAttempted
    stats := stats }

/-- The book is not synced, and its snapshot was not asked for. -/
def shouldFetchSnapshot
    (state : DepthSyncState)
    (rawSymbol : String) : Bool :=
  (match state.books.get? rawSymbol with
    | some book => !book.isSynced
    | none => false) &&
    decide (rawSymbol ∉ state.snapshotAttempted)

/-- Sync a book from the snapshot that came. -/
def syncFetchedSnapshot
    (state : DepthSyncState)
    (rawSymbol : String)
    (receivedTimeMs : Int)
    (snapshot : BinanceOrderBookSnapshot) : DepthSyncState :=
  let counted :=
    { state.stats with
      depthSnapshotSuccesses := state.stats.depthSnapshotSuccesses + 1 }
  match state.books.get? rawSymbol with
  | none => { state with stats := counted }
  | some book =>
      match syncDepthBookFromSnapshot book snapshot with
      | (synced, .ok ()) =>
          { state with
            books := state.books.insert rawSymbol synced
            stats := counted }
      | (partly, .error alert) =>
          { books := state.books.insert rawSymbol partly
            snapshotAttempted := state.snapshotAttempted.erase rawSymbol
            stats :=
              recordDeltaParseGap counted rawSymbol receivedTimeMs alert }

/-- Ask for a snapshot. -/
def fetchAndSyncSnapshot
    (state : DepthSyncState)
    (rawSymbol : String)
    (receivedTimeMs : Int)
    (answer : SnapshotAnswer) : DepthSyncState :=
  let requested :=
    { state with
      snapshotAttempted := insert rawSymbol state.snapshotAttempted
      stats :=
        { state.stats with
          depthSnapshotRequests := state.stats.depthSnapshotRequests + 1 } }
  match answer with
  | .fetched snapshot =>
      syncFetchedSnapshot requested rawSymbol receivedTimeMs snapshot
  | .failed error =>
      { requested with
        stats :=
          { requested.stats with
            depthSnapshotFailures :=
              requested.stats.depthSnapshotFailures + 1 }.recordGapAlert
            (snapshotFetchFailedAlert rawSymbol receivedTimeMs error) }

/-- Take an update of a stream. -/
def handleDiffDepthEvent
    (state : DepthSyncState)
    (call : DepthCall) : DepthSyncState :=
  let received := receiveDepthEvent state call
  if shouldFetchSnapshot received call.rawSymbol then
    fetchAndSyncSnapshot received call.rawSymbol call.receivedTimeMs
      call.answer
  else
    received

/-- The state after some calls. -/
def depthState (calls : List DepthCall) : DepthSyncState :=
  Runs.run handleDiffDepthEvent .new calls

section Step

variable
  (state : DepthSyncState)
  (call : DepthCall)

/-- The book of a symbol after an update of it was received. -/
theorem receiveDepthEvent_book_same :
    (receiveDepthEvent state call).book call.rawSymbol =
      if (state.book call.rawSymbol).isSynced then
        (handleSyncedDepthEvent (state.book call.rawSymbol) call.event
          call.rawSymbol call.receivedTimeMs state.snapshotAttempted
          state.stats).1
      else
        (bufferUnsyncedDepthEvent (state.book call.rawSymbol) call.event
          call.rawSymbol call.receivedTimeMs state.snapshotAttempted
          state.stats).1 := by
  unfold receiveDepthEvent DepthSyncState.book
  dsimp only
  rw [OrderedMap.get?_insert_same, Option.getD_some]
  split <;> rfl

/-- An update of another symbol leaves a book. -/
theorem receiveDepthEvent_book_other
    {symbol : String}
    (other : symbol ≠ call.rawSymbol) :
    (receiveDepthEvent state call).book symbol = state.book symbol := by
  unfold receiveDepthEvent DepthSyncState.book
  dsimp only
  rw [OrderedMap.get?_insert_other _ other]

/-- A received update leaves its symbol a book. -/
theorem receiveDepthEvent_get?_same :
    (receiveDepthEvent state call).books.get? call.rawSymbol =
      some ((receiveDepthEvent state call).book call.rawSymbol) := by
  unfold receiveDepthEvent DepthSyncState.book
  dsimp only
  rw [OrderedMap.get?_insert_same, Option.getD_some]

/-- A snapshot is asked for just if the book waits and none was asked for. -/
theorem shouldFetchSnapshot_iff :
    shouldFetchSnapshot (receiveDepthEvent state call) call.rawSymbol =
        true ↔
      ((receiveDepthEvent state call).book call.rawSymbol).isSynced =
          false ∧
        call.rawSymbol ∉ (receiveDepthEvent state call).snapshotAttempted := by
  unfold shouldFetchSnapshot
  rw [receiveDepthEvent_get?_same]
  simp

/-- A call that does not fetch only receives its update. -/
theorem handleDiffDepthEvent_of_not_fetch
    (quiet :
      shouldFetchSnapshot (receiveDepthEvent state call) call.rawSymbol =
        false) :
    handleDiffDepthEvent state call = receiveDepthEvent state call := by
  unfold handleDiffDepthEvent
  dsimp only
  rw [quiet]
  rfl

/-- A call that fetches also takes the answer. -/
theorem handleDiffDepthEvent_of_fetch
    (fetches :
      shouldFetchSnapshot (receiveDepthEvent state call) call.rawSymbol =
        true) :
    handleDiffDepthEvent state call =
      fetchAndSyncSnapshot (receiveDepthEvent state call) call.rawSymbol
        call.receivedTimeMs call.answer := by
  unfold handleDiffDepthEvent
  dsimp only
  rw [fetches]
  rfl

end Step

section Fetch

variable
  (state : DepthSyncState)
  (rawSymbol : String)
  (receivedTimeMs : Int)

/-- What a snapshot leaves. -/
theorem fetchAndSyncSnapshot_fetched_eq
    {book : BinanceLocalOrderBook}
    (found : state.books.get? rawSymbol = some book)
    (snapshot : BinanceOrderBookSnapshot) :
    fetchAndSyncSnapshot state rawSymbol receivedTimeMs
        (.fetched snapshot) =
      let synced := syncDepthBookFromSnapshot book snapshot
      let asked := insert rawSymbol state.snapshotAttempted
      let counted :=
        { state.stats with
          depthSnapshotRequests := state.stats.depthSnapshotRequests + 1
          depthSnapshotSuccesses :=
            state.stats.depthSnapshotSuccesses + 1 }
      { books := state.books.insert rawSymbol synced.1
        snapshotAttempted :=
          match synced.2 with
          | .ok () => asked
          | .error _ => asked.erase rawSymbol
        stats :=
          match synced.2 with
          | .ok () => counted
          | .error alert =>
              recordDeltaParseGap counted rawSymbol receivedTimeMs
                alert } := by
  unfold fetchAndSyncSnapshot syncFetchedSnapshot
  dsimp only
  rw [found]
  dsimp only
  cases syncDepthBookFromSnapshot book snapshot with
  | mk after outcome =>
      cases outcome with
      | error alert =>
          rfl
      | ok done =>
          rfl

/-- The book of the symbol after a snapshot came. -/
theorem fetchAndSyncSnapshot_fetched_book
    {book : BinanceLocalOrderBook}
    (found : state.books.get? rawSymbol = some book)
    (snapshot : BinanceOrderBookSnapshot) :
    (fetchAndSyncSnapshot state rawSymbol receivedTimeMs
      (.fetched snapshot)).book rawSymbol =
        (syncDepthBookFromSnapshot book snapshot).1 := by
  rw [DepthSyncState.book,
    fetchAndSyncSnapshot_fetched_eq state rawSymbol receivedTimeMs found]
  dsimp only
  rw [OrderedMap.get?_insert_same, Option.getD_some]

/-- A snapshot leaves the books of other symbols. -/
theorem fetchAndSyncSnapshot_book_other
    (answer : SnapshotAnswer)
    {symbol : String}
    (other : symbol ≠ rawSymbol) :
    (fetchAndSyncSnapshot state rawSymbol receivedTimeMs answer).book
        symbol =
      state.book symbol := by
  cases answer with
  | failed error =>
      rfl
  | fetched snapshot =>
      cases found : state.books.get? rawSymbol with
      | none =>
          unfold fetchAndSyncSnapshot syncFetchedSnapshot
          dsimp only
          rw [found]
          rfl
      | some book =>
          rw [DepthSyncState.book,
            fetchAndSyncSnapshot_fetched_eq state rawSymbol receivedTimeMs
              found]
          dsimp only
          rw [OrderedMap.get?_insert_other _ other]
          rfl

end Fetch

end MarketIngest.MarketData
