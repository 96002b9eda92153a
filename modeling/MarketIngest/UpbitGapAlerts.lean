import MarketIngest.FoldCounts
import MarketIngest.UpbitWorker

namespace MarketIngest.Upbit

open Live
open Wire

/-!
# Gap alerts of the worker of Upbit

A trade or a book that is older than the last one of its market raises an
alert, and so do an error of the exchange and every lost connection.  What was
last seen of a market is kept over all sessions of a run.  All alerts are
counted, and a bounded number of the latest ones is kept.
-/

variable {Number : Type}

/-- What a worker does to its statistics. -/
abbrev UpbitCall (Number : Type) :=
  StatsCall (UpbitParsedEnvelope Number)

/-- The number of a trade of the market. -/
def tradeOf (market : String) : UpbitCall Number → Option Int
  | .event ⟨.trade message, _⟩ _ =>
      if message.code = market then some message.sequentialId else none
  | _ => none

/-- The time of a book of the market. -/
def orderbookOf (market : String) : UpbitCall Number → Option Int
  | .event ⟨.orderbook message, _⟩ _ =>
      if message.code = market then some message.timestamp else none
  | _ => none

/-- The number of the last trade of a market. -/
def lastTrade
    (calls : List (UpbitCall Number))
    (market : String) : Option Int :=
  (calls.filterMap (tradeOf market)).getLast?

/-- The time of the last book of a market. -/
def lastOrderbook
    (calls : List (UpbitCall Number))
    (market : String) : Option Int :=
  (calls.filterMap (orderbookOf market)).getLast?

/-- An alert about something of a market that is older than the last one. -/
def orderingViolation
    (market : String)
    (last observed detectedAtMs : Int)
    (healAction : String) : UpbitGapAlert where
  gapType := "ordering_violation"
  symbol := market
  detectedAtMs := detectedAtMs
  expectedSequenceId := some last
  observedSequenceId := some observed
  healAction := healAction
  healStatus := "detected"

/-- The alert about what is older than the last one, if it is. -/
def olderThan
    (last : Option Int)
    (market : String)
    (observed detectedAtMs : Int)
    (healAction : String) : Option UpbitGapAlert :=
  last.bind fun last =>
    if observed < last then
      some (orderingViolation market last observed detectedAtMs healAction)
    else
      none

/-- The alert that a call raises, by what was last seen of the markets. -/
def alertOf
    (trade orderbook : String → Option Int) :
    UpbitCall Number → Option UpbitGapAlert
  | .event ⟨.trade message, _⟩ detectedAtMs =>
      olderThan (trade message.code) message.code message.sequentialId
        detectedAtMs "mark_incomplete_and_continue"
  | .event ⟨.orderbook message, _⟩ detectedAtMs =>
      olderThan (orderbook message.code) message.code message.timestamp
        detectedAtMs "refetch_snapshot"
  | .event ⟨.error _ _, _⟩ detectedAtMs =>
      some
        { gapType := "upbit_error"
          symbol := "venue"
          detectedAtMs := detectedAtMs
          expectedSequenceId := none
          observedSequenceId := none
          healAction := "inspect_error"
          healStatus := "detected" }
  | .reconnect reason nowMs =>
      some
        { gapType := "ws_reconnect"
          symbol := ""
          detectedAtMs := nowMs
          expectedSequenceId := none
          observedSequenceId := none
          healAction := "reconnect_with_backoff"
          healStatus := reason }
  | _ => none

/-- The alert that a call raises after some others. -/
def alertAfter
    (earlier : List (UpbitCall Number))
    (call : UpbitCall Number) : Option UpbitGapAlert :=
  alertOf (lastTrade earlier) (lastOrderbook earlier) call

/-- The alerts that the calls of a run raise. -/
def raisedAlerts (calls : List (UpbitCall Number)) : List UpbitGapAlert :=
  entriesFrom alertAfter [] calls

section Steps

variable
  (stats : UpbitIngestWatchStats Number)
  (call : UpbitCall Number)
  (detectedAtMs : Int)

/-- What the statistics have about gaps. -/
def UpbitIngestWatchStats.gaps
    (stats : UpbitIngestWatchStats Number) :
    Nat × List UpbitGapAlert × List UpbitGapAlert :=
  (stats.gapAlertCount, stats.gapAlerts, stats.recentGapAlerts)

/-- Add an alert to what there is about gaps, if one was raised. -/
def addAlert
    (gaps : Nat × List UpbitGapAlert × List UpbitGapAlert) :
    Option UpbitGapAlert → Nat × List UpbitGapAlert × List UpbitGapAlert
  | none => gaps
  | some alert =>
      (gaps.1 + 1, pushCapped maxStoredGapAlerts gaps.2.1 alert,
        pushCapped maxRecentGapAlerts gaps.2.2 alert)

private theorem gaps_recordTrade
    (message : UpbitTradeMessage Number) :
    (stats.recordTrade message detectedAtMs).gaps =
      addAlert stats.gaps
        (olderThan (stats.lastTradeSequenceBySymbol.get? message.code)
          message.code message.sequentialId detectedAtMs
          "mark_incomplete_and_continue") := by
  unfold UpbitIngestWatchStats.recordTrade olderThan
  cases stats.lastTradeSequenceBySymbol.get? message.code with
  | none =>
      rfl
  | some last =>
      dsimp only [Option.bind_some]
      split <;> rfl

private theorem gaps_recordOrderbook
    (message : UpbitOrderbookMessage Number) :
    (stats.recordOrderbook message detectedAtMs).gaps =
      addAlert stats.gaps
        (olderThan (stats.lastOrderbookTimestampBySymbol.get? message.code)
          message.code message.timestamp detectedAtMs
          "refetch_snapshot") := by
  have tracked :
      (stats.trackOrderbook message detectedAtMs).gaps =
        addAlert stats.gaps
          (olderThan
            (stats.lastOrderbookTimestampBySymbol.get? message.code)
            message.code message.timestamp detectedAtMs
            "refetch_snapshot") := by
    unfold UpbitIngestWatchStats.trackOrderbook olderThan
    cases stats.lastOrderbookTimestampBySymbol.get? message.code with
    | none =>
        rfl
    | some last =>
        dsimp only [Option.bind_some]
        split <;> rfl
  unfold UpbitIngestWatchStats.recordOrderbook
  dsimp only
  split
  · exact tracked
  · exact tracked

/-- A call adds the alert that it raises. -/
private theorem gaps_perform :
    (perform stats call).gaps =
      addAlert stats.gaps
        (alertOf stats.lastTradeSequenceBySymbol.get?
          stats.lastOrderbookTimestampBySymbol.get? call) := by
  cases call with
  | event envelope detectedAtMs =>
      rcases envelope with ⟨event, payload⟩
      cases event with
      | ticker message => rfl
      | trade message =>
          exact gaps_recordTrade
            (stats.countEvent (.trade message) detectedAtMs) detectedAtMs
            message
      | orderbook message =>
          exact gaps_recordOrderbook
            (stats.countEvent (.orderbook message) detectedAtMs)
            detectedAtMs message
      | status text => rfl
      | error name text => rfl
      | unknown value => rfl
  | _ => rfl

/-- A trade is tracked, and leaves what is known of the books. -/
private theorem recordTrade_tracks
    (message : UpbitTradeMessage Number) :
    (stats.recordTrade message detectedAtMs).lastTradeSequenceBySymbol =
        stats.lastTradeSequenceBySymbol.insert message.code
          message.sequentialId ∧
      (stats.recordTrade message
          detectedAtMs).lastOrderbookTimestampBySymbol =
        stats.lastOrderbookTimestampBySymbol := by
  unfold UpbitIngestWatchStats.recordTrade
  dsimp only
  split
  · exact ⟨rfl, rfl⟩
  · split <;> exact ⟨rfl, rfl⟩

/-- A book is tracked, and leaves what is known of the trades. -/
private theorem recordOrderbook_tracks
    (message : UpbitOrderbookMessage Number) :
    (stats.recordOrderbook message
          detectedAtMs).lastOrderbookTimestampBySymbol =
        stats.lastOrderbookTimestampBySymbol.insert message.code
          message.timestamp ∧
      (stats.recordOrderbook message
          detectedAtMs).lastTradeSequenceBySymbol =
        stats.lastTradeSequenceBySymbol := by
  have tracked :
      (stats.trackOrderbook message
            detectedAtMs).lastOrderbookTimestampBySymbol =
          stats.lastOrderbookTimestampBySymbol.insert message.code
            message.timestamp ∧
        (stats.trackOrderbook message
            detectedAtMs).lastTradeSequenceBySymbol =
          stats.lastTradeSequenceBySymbol := by
    unfold UpbitIngestWatchStats.trackOrderbook
    dsimp only
    split
    · exact ⟨rfl, rfl⟩
    · split <;> exact ⟨rfl, rfl⟩
  unfold UpbitIngestWatchStats.recordOrderbook
  dsimp only
  split <;> exact tracked

/-- Setting the value of one market sets no other. -/
private theorem get?_insert_or
    (map : OrderedMap String Int)
    (code market : String)
    (value : Int) :
    (map.insert code value).get? market =
      (if code = market then some value else none).or (map.get? market) := by
  rw [map.get?_insert]
  by_cases same : code = market
  · subst same
    simp
  · rw [if_neg (Ne.symm same), if_neg same, Option.none_or]

/-- A call tracks the trade that it has. -/
private theorem lastTrade_perform
    (stats : UpbitIngestWatchStats Number)
    (call : UpbitCall Number)
    (market : String) :
    (perform stats call).lastTradeSequenceBySymbol.get? market =
      (tradeOf market call).or
        (stats.lastTradeSequenceBySymbol.get? market) := by
  cases call with
  | event envelope detectedAtMs =>
      rcases envelope with ⟨event, payload⟩
      cases event with
      | trade message =>
          refine (congrArg (OrderedMap.get? · market)
            (recordTrade_tracks (stats.countEvent (.trade message)
              detectedAtMs) detectedAtMs message).1).trans ?_
          exact get?_insert_or _ _ _ _
      | orderbook message =>
          exact congrArg (OrderedMap.get? · market)
            (recordOrderbook_tracks (stats.countEvent (.orderbook message)
              detectedAtMs) detectedAtMs message).2
      | ticker message => rfl
      | status text => rfl
      | error name text => rfl
      | unknown value => rfl
  | _ => rfl

/-- A call tracks the book that it has. -/
private theorem lastOrderbook_perform
    (stats : UpbitIngestWatchStats Number)
    (call : UpbitCall Number)
    (market : String) :
    (perform stats call).lastOrderbookTimestampBySymbol.get? market =
      (orderbookOf market call).or
        (stats.lastOrderbookTimestampBySymbol.get? market) := by
  cases call with
  | event envelope detectedAtMs =>
      rcases envelope with ⟨event, payload⟩
      cases event with
      | trade message =>
          exact congrArg (OrderedMap.get? · market)
            (recordTrade_tracks (stats.countEvent (.trade message)
              detectedAtMs) detectedAtMs message).2
      | orderbook message =>
          refine (congrArg (OrderedMap.get? · market)
            (recordOrderbook_tracks (stats.countEvent (.orderbook message)
              detectedAtMs) detectedAtMs message).1).trans ?_
          exact get?_insert_or _ _ _ _
      | ticker message => rfl
      | status text => rfl
      | error name text => rfl
      | unknown value => rfl
  | _ => rfl

end Steps

section Runs

variable
  (plannedStreamCount : Nat)
  (calls earlier : List (UpbitCall Number))
  (call : UpbitCall Number)

/-- What was last seen of the markets is tracked over all sessions. -/
private theorem tracked_foldl :
    (calls.foldl perform
          (.new plannedStreamCount)).lastTradeSequenceBySymbol.get? =
        lastTrade calls ∧
      (calls.foldl perform
          (.new plannedStreamCount)).lastOrderbookTimestampBySymbol.get? =
        lastOrderbook calls := by
  constructor
  · funext market
    refine (foldl_tracks
      (fun stats : UpbitIngestWatchStats Number =>
        stats.lastTradeSequenceBySymbol.get? market)
      (tradeOf market) (lastTrade_perform · · market) calls _).trans ?_
    exact Option.or_none
  · funext market
    refine (foldl_tracks
      (fun stats : UpbitIngestWatchStats Number =>
        stats.lastOrderbookTimestampBySymbol.get? market)
      (orderbookOf market) (lastOrderbook_perform · · market) calls
      _).trans ?_
    exact Option.or_none

/-- A call of a run adds the alert that it raises after those before it. -/
private theorem gaps_concat :
    (perform (earlier.foldl perform (.new plannedStreamCount)) call).gaps =
      addAlert (earlier.foldl perform (.new plannedStreamCount)).gaps
        (alertAfter earlier call) := by
  obtain ⟨trades, orderbooks⟩ := tracked_foldl plannedStreamCount earlier
  rw [gaps_perform, trades, orderbooks]
  rfl

/-- The statistics count all alerts of a run and keep the latest ones. -/
theorem gaps_foldl :
    let stats : UpbitIngestWatchStats Number :=
      calls.foldl perform (.new plannedStreamCount)
    stats.gapAlertCount = (raisedAlerts calls).length ∧
      stats.gapAlerts = (raisedAlerts calls).rtake maxStoredGapAlerts ∧
      stats.recentGapAlerts =
        (raisedAlerts calls).rtake maxRecentGapAlerts := by
  obtain ⟨_, stored⟩ :=
    @foldl_keepsLatest _ _ _ perform maxStoredGapAlerts
      UpbitIngestWatchStats.gapAlerts alertAfter (.new plannedStreamCount)
      rfl
      (fun earlier call => by
        have added := gaps_concat plannedStreamCount earlier call
        cases raised : alertAfter earlier call <;> rw [raised] at added
        · exact congrArg (·.2.1) added
        · exact congrArg (·.2.1) added)
      calls
  obtain ⟨_, shown⟩ :=
    @foldl_keepsLatest _ _ _ perform maxRecentGapAlerts
      UpbitIngestWatchStats.recentGapAlerts alertAfter
      (.new plannedStreamCount) rfl
      (fun earlier call => by
        have added := gaps_concat plannedStreamCount earlier call
        cases raised : alertAfter earlier call <;> rw [raised] at added
        · exact congrArg (·.2.2) added
        · exact congrArg (·.2.2) added)
      calls
  have counted :=
    @foldl_countsEntries _ _ _ perform
      UpbitIngestWatchStats.gapAlertCount alertAfter
      (.new plannedStreamCount)
      (fun earlier call => by
        have added := gaps_concat plannedStreamCount earlier call
        cases raised : alertAfter earlier call <;> rw [raised] at added
        · exact congrArg (·.1) added
        · exact congrArg (·.1) added)
      calls
  exact ⟨counted.trans (Nat.zero_add _), stored.kept, shown.kept⟩

end Runs

section Watch

/--
In every run the worker counts an alert for every lost connection, for every
error of the exchange, and for every trade or book that is older than the last
one of its market, and keeps the latest thousand of them.
-/
theorem upbit_gap_alerts
    (codec : WireCodec Number)
    (world : SinkWorld)
    (config : UpbitRunConfig Number)
    (startedAt : Nat)
    (rounds : List Round) :
    let worker :=
      (watchUpbitIngestStreams codec world config startedAt rounds).1.worker
    worker.stats.gapAlertCount = (raisedAlerts worker.counted).length ∧
      worker.stats.gapAlerts =
        (raisedAlerts worker.counted).rtake maxStoredGapAlerts ∧
      worker.stats.recentGapAlerts =
        (raisedAlerts worker.counted).rtake maxRecentGapAlerts := by
  intro worker
  obtain ⟨calls, counted, stats⟩ :=
    @watch_kept _ codec world config startedAt rounds _ (kept_logged False)
  have counted : worker.counted = calls :=
    counted.trans (List.nil_append _)
  rw [counted, stats]
  exact gaps_foldl (config.markets.length * 3) calls

end Watch

end MarketIngest.Upbit
