import MarketIngest.ComparedMap
import MarketIngest.FixedDecimal

namespace MarketIngest.MarketData

/-!
# The local copy of an order book

A book is synced from a snapshot and then follows the updates of a stream.  An
update names the first and the last change that it has, and continues the book
if it starts no later than the change after the last one of the book.  While a
book is not synced its updates are buffered, and a snapshot that arrives
replays those that are newer.
-/

/-- The price and the quantity of a level, as texts. -/
abbrev LevelText := String × String

/-- An update of a book. -/
structure BinanceDiffDepthMessage where
  symbol : String
  firstUpdateId : Nat
  finalUpdateId : Nat
  bids : List LevelText
  asks : List LevelText
  deriving Repr, DecidableEq

/-- A snapshot of a book. -/
structure BinanceOrderBookSnapshot where
  lastUpdateId : Nat
  bids : List LevelText
  asks : List LevelText
  deriving Repr, DecidableEq

/-- A detected gap. -/
structure BinanceGapAlert where
  gapType : String
  symbol : String
  detectedAtMs : Int
  expectedSequenceId : Option Nat
  observedSequenceId : Option Nat
  healAction : String
  healStatus : String
  deriving Repr, DecidableEq

/-- Quantities by price, in the order of the prices. -/
abbrev BookSide := List (FixedDecimal × FixedDecimal)

/-- The local copy of a book. -/
structure BinanceLocalOrderBook where
  lastUpdateId : Option Nat
  bids : BookSide
  asks : BookSide
  bufferedEvents : List BinanceDiffDepthMessage
  deriving Repr, DecidableEq

/-- How many updates wait for a snapshot. -/
def maxBufferedEvents : Nat :=
  1000

namespace BinanceLocalOrderBook

/-- A book that was never synced. -/
def empty : BinanceLocalOrderBook where
  lastUpdateId := none
  bids := []
  asks := []
  bufferedEvents := []

/-- The book follows a snapshot. -/
def isSynced (book : BinanceLocalOrderBook) : Bool :=
  book.lastUpdateId.isSome

/-- Start again with one update. -/
def resetForResync
    (_ : BinanceLocalOrderBook)
    (event : BinanceDiffDepthMessage) : BinanceLocalOrderBook :=
  { empty with bufferedEvents := [event] }

/-- Start again without an update. -/
def resetAfterOverflow
    (_ : BinanceLocalOrderBook) : BinanceLocalOrderBook :=
  empty

/-- No further update can wait. -/
def bufferedAtCapacity (book : BinanceLocalOrderBook) : Bool :=
  book.bufferedEvents.length ≥ maxBufferedEvents

end BinanceLocalOrderBook

/-- The alert about a level of an update that is no pair of decimals. -/
def depthLevelParseAlert
    (side field value reason : String)
    (observedSequenceId : Nat) : BinanceGapAlert where
  gapType := "depth_level_parse_failed"
  symbol := ""
  detectedAtMs := 0
  expectedSequenceId := none
  observedSequenceId := some observedSequenceId
  healAction := "refetch_snapshot"
  healStatus :=
    "side=" ++ side ++ " field=" ++ field ++ " value=" ++ value ++
      " reason=" ++ reason

/-- The alert about a snapshot with such a level. -/
def snapshotParseAlert (reason : String) : BinanceGapAlert where
  gapType := "snapshot_parse_failed"
  symbol := ""
  detectedAtMs := 0
  expectedSequenceId := none
  observedSequenceId := none
  healAction := "refetch_snapshot"
  healStatus := reason

/-- The alert about updates that are missing between a snapshot and a buffer. -/
def snapshotGapAlert
    (gapType : String)
    (expected observed : Nat) : BinanceGapAlert where
  gapType := gapType
  symbol := ""
  detectedAtMs := 0
  expectedSequenceId := some expected
  observedSequenceId := some observed
  healAction := "refetch_snapshot"
  healStatus := "pending"

/-- Read the levels of an update. -/
def parseLevelUpdates
    (side : String)
    (event : BinanceDiffDepthMessage) :
    List LevelText → Except BinanceGapAlert BookSide
  | [] => .ok []
  | (priceText, quantityText) :: rest =>
      match FixedDecimal.parseUnsigned priceText with
      | .error error =>
          .error (depthLevelParseAlert side "price" priceText error.display
            event.firstUpdateId)
      | .ok price =>
          match FixedDecimal.parseUnsigned quantityText with
          | .error error =>
              .error (depthLevelParseAlert side "quantity" quantityText
                error.display event.firstUpdateId)
          | .ok quantity =>
              match parseLevelUpdates side event rest with
              | .error alert => .error alert
              | .ok parsed => .ok ((price, quantity) :: parsed)

/-- Set a level, or remove it if its quantity is not positive. -/
def applyLevel
    (side : BookSide)
    (level : FixedDecimal × FixedDecimal) : BookSide :=
  if level.2.isPositive then
    ComparedMap.insert FixedDecimal.cmp level.1 level.2 side
  else
    ComparedMap.remove FixedDecimal.cmp level.1 side

/-- Apply the levels of an update one after the other. -/
def applyParsedLevelUpdates
    (side : BookSide)
    (levels : BookSide) : BookSide :=
  levels.foldl applyLevel side

/-- Apply an update whose levels all parse. -/
def applyDepthDelta
    (book : BinanceLocalOrderBook)
    (event : BinanceDiffDepthMessage) :
    Except BinanceGapAlert BinanceLocalOrderBook :=
  match parseLevelUpdates "bid" event event.bids with
  | .error alert => .error alert
  | .ok bidUpdates =>
      match parseLevelUpdates "ask" event event.asks with
      | .error alert => .error alert
      | .ok askUpdates =>
          .ok
            { book with
              bids := applyParsedLevelUpdates book.bids bidUpdates
              asks := applyParsedLevelUpdates book.asks askUpdates
              lastUpdateId := some event.finalUpdateId }

/-- Set a level of a snapshot if its quantity is positive. -/
def addLevel
    (side : BookSide)
    (level : FixedDecimal × FixedDecimal) : BookSide :=
  if level.2.isPositive then
    ComparedMap.insert FixedDecimal.cmp level.1 level.2 side
  else
    side

/-- Read the levels of a snapshot, after some that were read. -/
def parseSnapshotLevelsFrom
    (parsed : BookSide) :
    List LevelText → Except String BookSide
  | [] => .ok parsed
  | (priceText, quantityText) :: rest =>
      match FixedDecimal.parseUnsigned priceText with
      | .error error =>
          .error ("invalid snapshot price " ++ priceText ++ ": " ++
            error.display)
      | .ok price =>
          match FixedDecimal.parseUnsigned quantityText with
          | .error error =>
              .error ("invalid snapshot quantity " ++ quantityText ++
                ": " ++ error.display)
          | .ok quantity =>
              parseSnapshotLevelsFrom (addLevel parsed (price, quantity))
                rest

/-- Read the levels of a snapshot. -/
def parseSnapshotLevels
    (levels : List LevelText) : Except String BookSide :=
  parseSnapshotLevelsFrom [] levels

/-- How an update stands to a book. -/
inductive Continuation where
  | old
  | gap
  | next
  deriving Repr, DecidableEq

/-- How an update stands to the last change of a book. -/
def continuation
    (lastUpdateId : Nat)
    (event : BinanceDiffDepthMessage) : Continuation :=
  if event.finalUpdateId ≤ lastUpdateId then
    .old
  else if event.firstUpdateId > lastUpdateId + 1 then
    .gap
  else
    .next

/-- An update is old if it ends no later than the book. -/
theorem continuation_eq_old_iff
    {lastUpdateId : Nat}
    {event : BinanceDiffDepthMessage} :
    continuation lastUpdateId event = .old ↔
      event.finalUpdateId ≤ lastUpdateId := by
  unfold continuation
  split_ifs with old gap <;> simp [old]

/-- An update is the next one if it begins no later than the change after the
last one, and ends later. -/
theorem continuation_eq_next_iff
    {lastUpdateId : Nat}
    {event : BinanceDiffDepthMessage} :
    continuation lastUpdateId event = .next ↔
      event.firstUpdateId ≤ lastUpdateId + 1 ∧
        lastUpdateId < event.finalUpdateId := by
  unfold continuation
  split_ifs with old gap
  · simp [old]
  · simp [gap]
  · simp [not_lt.mp gap, not_le.mp old]

/-- Replay buffered updates on a book. -/
def replayBuffered :
    BinanceLocalOrderBook →
    List BinanceDiffDepthMessage →
    BinanceLocalOrderBook × Except BinanceGapAlert Unit
  | book, [] => (book, .ok ())
  | book, event :: rest =>
      match book.lastUpdateId.elim .next (continuation · event) with
      | .old => replayBuffered book rest
      | .gap =>
          ({ book with bufferedEvents := book.bufferedEvents ++ [event] },
            .error (snapshotGapAlert "buffered_sequence_gap"
              (book.lastUpdateId.getD 0 + 1) event.firstUpdateId))
      | .next =>
          match applyDepthDelta book event with
          | .error alert => (book.resetAfterOverflow, .error alert)
          | .ok applied => replayBuffered applied rest

/-- Sync a book from a snapshot, and replay what is buffered. -/
def syncDepthBookFromSnapshot
    (book : BinanceLocalOrderBook)
    (snapshot : BinanceOrderBookSnapshot) :
    BinanceLocalOrderBook × Except BinanceGapAlert Unit :=
  let started := { book with lastUpdateId := some snapshot.lastUpdateId }
  match parseSnapshotLevels snapshot.bids with
  | .error reason => (started, .error (snapshotParseAlert reason))
  | .ok bids =>
      let withBids := { started with bids := bids }
      match parseSnapshotLevels snapshot.asks with
      | .error reason => (withBids, .error (snapshotParseAlert reason))
      | .ok asks =>
          let retained :=
            { withBids with
              asks := asks
              bufferedEvents :=
                book.bufferedEvents.filter fun event =>
                  event.finalUpdateId > snapshot.lastUpdateId }
          match retained.bufferedEvents with
          | [] => (retained, .ok ())
          | firstEvent :: _ =>
              if firstEvent.firstUpdateId > snapshot.lastUpdateId + 1 then
                (retained,
                  .error (snapshotGapAlert "snapshot_alignment_gap"
                    (snapshot.lastUpdateId + 1) firstEvent.firstUpdateId))
              else
                replayBuffered { retained with bufferedEvents := [] }
                  retained.bufferedEvents

/-- A price and a quantity that can be read. -/
def LevelParses (level : LevelText) : Prop :=
  ∃ price quantity,
    FixedDecimal.parseUnsigned level.1 = .ok price ∧
      FixedDecimal.parseUnsigned level.2 = .ok quantity

/-- All levels of an update can be read. -/
def BinanceDiffDepthMessage.Parses
    (event : BinanceDiffDepthMessage) : Prop :=
  ∀ level ∈ event.bids ++ event.asks, LevelParses level

/-- All levels of a snapshot can be read. -/
def BinanceOrderBookSnapshot.Parses
    (snapshot : BinanceOrderBookSnapshot) : Prop :=
  ∀ level ∈ snapshot.bids ++ snapshot.asks, LevelParses level

/-- A level that can be read. -/
def parsedLevel? (level : LevelText) :
    Option (FixedDecimal × FixedDecimal) :=
  match FixedDecimal.parseUnsigned level.1,
      FixedDecimal.parseUnsigned level.2 with
  | .ok price, .ok quantity => some (price, quantity)
  | _, _ => none

/-- The levels that can be read. -/
def parsedLevels (levels : List LevelText) : BookSide :=
  levels.filterMap parsedLevel?

section Parsing

variable
  {side : String}
  {event : BinanceDiffDepthMessage}
  {levels : List LevelText}

/-- The levels of an update are read just if all of them parse. -/
theorem parseLevelUpdates_cases :
    ((∀ level ∈ levels, LevelParses level) ∧
        parseLevelUpdates side event levels = .ok (parsedLevels levels)) ∨
      ((¬ ∀ level ∈ levels, LevelParses level) ∧
        ∃ alert,
          parseLevelUpdates side event levels = .error alert) := by
  induction levels with
  | nil =>
      exact Or.inl ⟨by simp, rfl⟩
  | cons level rest inductionHypothesis =>
      rcases level with ⟨priceText, quantityText⟩
      unfold parseLevelUpdates
      cases price : FixedDecimal.parseUnsigned priceText with
      | error error =>
          refine Or.inr ⟨fun all => ?_, _, rfl⟩
          obtain ⟨found, _, parsed, -⟩ := all _ (List.mem_cons_self ..)
          rw [price] at parsed
          cases parsed
      | ok priceValue =>
          cases quantity : FixedDecimal.parseUnsigned quantityText with
          | error error =>
              refine Or.inr ⟨fun all => ?_, _, rfl⟩
              obtain ⟨_, found, -, parsed⟩ := all _ (List.mem_cons_self ..)
              rw [quantity] at parsed
              cases parsed
          | ok quantityValue =>
              have head :
                  parsedLevel? (priceText, quantityText) =
                    some (priceValue, quantityValue) := by
                simp [parsedLevel?, price, quantity]
              rcases inductionHypothesis with
                ⟨all, later⟩ | ⟨unread, alert, later⟩
              · refine Or.inl ⟨?_, ?_⟩
                · exact List.forall_mem_cons.mpr
                    ⟨⟨_, _, price, quantity⟩, all⟩
                · rw [parsedLevels, List.filterMap_cons, head]
                  simp only [later]
                  rfl
              · refine Or.inr ⟨fun all => unread ?_, alert, ?_⟩
                · exact (List.forall_mem_cons.mp all).2
                · simp only [later]

/-- The levels of a snapshot that parses are added one after the other. -/
theorem parseSnapshotLevelsFrom_of_parses
    (parsed : BookSide)
    (parses : ∀ level ∈ levels, LevelParses level) :
    parseSnapshotLevelsFrom parsed levels =
      .ok ((parsedLevels levels).foldl addLevel parsed) := by
  induction levels generalizing parsed with
  | nil =>
      rfl
  | cons level rest inductionHypothesis =>
      rcases level with ⟨priceText, quantityText⟩
      obtain ⟨⟨price, quantity, priceRead, quantityRead⟩, later⟩ :=
        List.forall_mem_cons.mp parses
      have head :
          parsedLevel? (priceText, quantityText) =
            some (price, quantity) := by
        simp only at priceRead quantityRead
        simp [parsedLevel?, priceRead, quantityRead]
      unfold parseSnapshotLevelsFrom
      simp only at priceRead quantityRead
      rw [priceRead, quantityRead, parsedLevels, List.filterMap_cons, head]
      exact inductionHypothesis _ later

/-- The levels of a snapshot that does not parse are not read. -/
theorem parseSnapshotLevelsFrom_of_not_parses
    (parsed : BookSide)
    (unread : ¬ ∀ level ∈ levels, LevelParses level) :
    ∃ reason, parseSnapshotLevelsFrom parsed levels = .error reason := by
  induction levels generalizing parsed with
  | nil =>
      exact absurd (by simp) unread
  | cons level rest inductionHypothesis =>
      rcases level with ⟨priceText, quantityText⟩
      unfold parseSnapshotLevelsFrom
      cases price : FixedDecimal.parseUnsigned priceText with
      | error error =>
          exact ⟨_, rfl⟩
      | ok priceValue =>
          cases quantity : FixedDecimal.parseUnsigned quantityText with
          | error error =>
              exact ⟨_, rfl⟩
          | ok quantityValue =>
              refine inductionHypothesis _ fun all => unread ?_
              exact List.forall_mem_cons.mpr
                ⟨⟨_, _, price, quantity⟩, all⟩

/-- An update is applied just if it parses. -/
theorem applyDepthDelta_cases
    (book : BinanceLocalOrderBook)
    (event : BinanceDiffDepthMessage) :
    (event.Parses ∧
        applyDepthDelta book event =
          .ok
            { book with
              bids :=
                applyParsedLevelUpdates book.bids (parsedLevels event.bids)
              asks :=
                applyParsedLevelUpdates book.asks (parsedLevels event.asks)
              lastUpdateId := some event.finalUpdateId }) ∨
      (¬ event.Parses ∧
        ∃ alert, applyDepthDelta book event = .error alert) := by
  unfold applyDepthDelta BinanceDiffDepthMessage.Parses
  simp only [List.forall_mem_append]
  rcases @parseLevelUpdates_cases "bid" event event.bids with
    ⟨bids, bidsRead⟩ | ⟨bids, alert, unread⟩
  · rcases @parseLevelUpdates_cases "ask" event event.asks with
      ⟨asks, asksRead⟩ | ⟨asks, alert, unread⟩
    · rw [bidsRead, asksRead]
      exact Or.inl ⟨⟨bids, asks⟩, rfl⟩
    · rw [bidsRead, unread]
      exact Or.inr ⟨fun both => asks both.2, alert, rfl⟩
  · rw [unread]
    exact Or.inr ⟨fun both => bids both.1, alert, rfl⟩

/-- An update that is applied leaves what waits. -/
theorem applyDepthDelta_bufferedEvents
    {book applied : BinanceLocalOrderBook}
    (applies : applyDepthDelta book event = .ok applied) :
    applied.bufferedEvents = book.bufferedEvents := by
  rcases applyDepthDelta_cases book event with
    ⟨-, reads⟩ | ⟨-, alert, fails⟩
  · rw [reads] at applies
    cases applies
    rfl
  · rw [fails] at applies
    cases applies

/-- What is recorded about levels that do not parse. -/
private theorem parseLevelUpdates_alert
    {alert : BinanceGapAlert}
    (fails : parseLevelUpdates side event levels = .error alert) :
    ∃ field value reason,
      alert =
        depthLevelParseAlert side field value reason
          event.firstUpdateId := by
  induction levels with
  | nil =>
      cases fails
  | cons level rest inductionHypothesis =>
      unfold parseLevelUpdates at fails
      cases price : FixedDecimal.parseUnsigned level.1 with
      | error error =>
          rw [price] at fails
          cases fails
          exact ⟨_, _, _, rfl⟩
      | ok priceValue =>
          rw [price] at fails
          dsimp only at fails
          cases quantity : FixedDecimal.parseUnsigned level.2 with
          | error error =>
              rw [quantity] at fails
              cases fails
              exact ⟨_, _, _, rfl⟩
          | ok quantityValue =>
              rw [quantity] at fails
              dsimp only at fails
              cases later : parseLevelUpdates side event rest with
              | error failure =>
                  rw [later] at fails
                  cases fails
                  exact inductionHypothesis later
              | ok parsed =>
                  rw [later] at fails
                  cases fails

/-- What is recorded about an update that does not parse. -/
theorem applyDepthDelta_alert
    {book : BinanceLocalOrderBook}
    {alert : BinanceGapAlert}
    (fails : applyDepthDelta book event = .error alert) :
    ∃ side field value reason,
      alert =
        depthLevelParseAlert side field value reason
          event.firstUpdateId := by
  unfold applyDepthDelta at fails
  cases bids : parseLevelUpdates "bid" event event.bids with
  | error failure =>
      rw [bids] at fails
      cases fails
      exact ⟨"bid", parseLevelUpdates_alert bids⟩
  | ok bidUpdates =>
      rw [bids] at fails
      dsimp only at fails
      cases asks : parseLevelUpdates "ask" event event.asks with
      | error failure =>
          rw [asks] at fails
          cases fails
          exact ⟨"ask", parseLevelUpdates_alert asks⟩
      | ok askUpdates =>
          rw [asks] at fails
          cases fails

end Parsing

end MarketIngest.MarketData
