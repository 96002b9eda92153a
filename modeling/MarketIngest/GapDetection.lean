import MarketIngest.FinalGapAlerts
import MarketIngest.KeyedHistory

namespace MarketIngest.Binance

open KeyedHistory

/-!
# The gaps of one session

A session feeds its messages to the statistics, mixed in any order.  Trades are
compared within their stream, and depth updates within their symbol in upper
case.  The alerts of a stream or a symbol are those of its consecutive pairs,
and nothing else is an anomaly.
-/

/-- What messages are compared within. -/
inductive Feed where
  | tradesOf (stream : String)
  | depthOf (symbol : String)
  deriving Repr, DecidableEq

/-- A message of a session, with the time of its arrival. -/
structure SessionMessage where
  envelope : BinanceParsedEnvelope
  detectedAtMs : Int
  deriving Repr, DecidableEq

namespace SessionMessage

/-- The call that takes the message into the statistics. -/
def call (message : SessionMessage) : WatchCall :=
  .recordEvent message.envelope message.detectedAtMs

/-- The feed of a message. -/
def feed? (message : SessionMessage) : Option Feed :=
  match message.envelope.event with
  | .trade _ => some (.tradesOf message.envelope.stream)
  | .diffDepth update =>
      some (.depthOf (Text.toAsciiUppercase update.symbol))
  | _ => none

/-- The alert about two consecutive messages of a feed. -/
def gapBetween
    (previous next : SessionMessage) : Option BinanceL0GapAlert :=
  match previous.envelope.event, next.envelope.event with
  | .trade earlier, .trade later =>
      if later.tradeId < earlier.tradeId then
        some
          { gapType := "ordering_violation"
            symbol := Text.toAsciiUppercase later.symbol
            detectedAtMs := next.detectedAtMs
            expectedSequenceId := some (saturatingAdd earlier.tradeId 1)
            observedSequenceId := some later.tradeId
            healAction := "mark_incomplete_and_continue"
            healStatus := "detected" }
      else
        none
  | .diffDepth earlier, .diffDepth later =>
      if later.firstUpdateId ≠ saturatingAdd earlier.finalUpdateId 1 then
        some
          { gapType := "depth_update_id_gap"
            symbol := Text.toAsciiUppercase later.symbol
            detectedAtMs := next.detectedAtMs
            expectedSequenceId :=
              some (saturatingAdd earlier.finalUpdateId 1)
            observedSequenceId := some later.firstUpdateId
            healAction := "refetch_snapshot"
            healStatus := "detected" }
      else
        none
  | _, _ => none

end SessionMessage

/-- The messages of a feed, in their order. -/
def feedMessages
    (messages : List SessionMessage)
    (feed : Feed) : List SessionMessage :=
  itemsOf SessionMessage.feed? messages feed

/-- All alerts of a session with their feeds, in the order of detection. -/
def sessionGaps
    (messages : List SessionMessage) : List (Feed × BinanceL0GapAlert) :=
  found SessionMessage.feed? SessionMessage.gapBetween messages

/-- The statistics of a session. -/
def sessionStats (messages : List SessionMessage) : BinanceL0WatchStats :=
  statsAfter (messages.map SessionMessage.call)

/-- The statistics report what happened, and nothing else. -/
structure ReportsGaps
    (messages : List SessionMessage)
    (stats : BinanceL0WatchStats) : Prop where
  gaps :
    ∀ feed,
      foundFor (sessionGaps messages) feed =
        (pairs (feedMessages messages feed)).filterMap
          (fun pair => SessionMessage.gapBetween pair.1 pair.2)
  sequenceAnomalies :
    stats.sequenceAnomalies = (sessionGaps messages).length
  gapAlertCount : stats.gapAlertCount = (sessionGaps messages).length
  gapAlerts :
    stats.gapAlerts =
      ((sessionGaps messages).map Prod.snd).rtake maxStoredGapAlerts
  recentGapAlerts :
    stats.recentGapAlerts =
      ((sessionGaps messages).map Prod.snd).rtake maxRecentGapAlerts

section Detection

variable
  (messages : List SessionMessage)
  (message : SessionMessage)

/-- The last trade of a stream is that of the last message of its feed. -/
theorem lastSequence_eq
    (stream : String) :
    lastSequence (messages.map SessionMessage.call) stream =
      (feedMessages messages (.tradesOf stream)).getLast?.bind
        (fun last => last.call.sequenceOf stream) := by
  rw [lastSequence, List.filterMap_map]
  apply getLast?_filterMap_eq
  rintro ⟨⟨source, event⟩, detectedAtMs⟩
  cases event <;>
    simp [SessionMessage.feed?, SessionMessage.call, WatchCall.sequenceOf]

/-- The last update of a symbol is that of the last message of its feed. -/
theorem lastFinalUpdate_eq
    (symbol : String) :
    lastFinalUpdate (messages.map SessionMessage.call) symbol =
      (feedMessages messages (.depthOf symbol)).getLast?.bind
        (fun last => last.call.finalUpdateOf symbol) := by
  rw [lastFinalUpdate, List.filterMap_map]
  apply getLast?_filterMap_eq
  rintro ⟨⟨source, event⟩, detectedAtMs⟩
  cases event <;>
    simp [SessionMessage.feed?, SessionMessage.call,
      WatchCall.finalUpdateOf]

/-- A trade is compared with the last one of its feed. -/
private theorem tradeGap?_eq
    (stream : String)
    (trade : BinanceTradeMessage)
    (detectedAtMs : Int) :
    (sessionStats messages).tradeGap? (Text.toAsciiUppercase trade.symbol)
        stream trade.tradeId detectedAtMs =
      (feedMessages messages (.tradesOf stream)).getLast?.bind
        (fun previous =>
          previous.gapBetween ⟨⟨stream, .trade trade⟩, detectedAtMs⟩) := by
  rw [BinanceL0WatchStats.tradeGap?, sessionStats, statsAfter_lastSequence,
    lastSequence_eq]
  cases last : (feedMessages messages (.tradesOf stream)).getLast? with
  | none =>
      rfl
  | some previous =>
      have own : previous.feed? = some (.tradesOf stream) := by
        have member := List.mem_of_getLast? last
        simpa using (List.mem_filter.mp member).2
      obtain ⟨⟨source, event⟩, arrivedAtMs⟩ := previous
      cases event with
      | trade earlier =>
          simp only [SessionMessage.feed?, Option.some.injEq,
            Feed.tradesOf.injEq] at own
          simp only [Option.bind_some, SessionMessage.call,
            WatchCall.sequenceOf, own, if_true]
          rfl
      | ticker _ | bookTicker _ | diffDepth _ =>
          simp [SessionMessage.feed?] at own

/-- A depth update is compared with the last one of its feed. -/
private theorem depthGap?_eq
    (stream : String)
    (update : BinanceDiffDepthMessage)
    (detectedAtMs : Int) :
    (sessionStats messages).depthGap? (Text.toAsciiUppercase update.symbol)
        update.firstUpdateId detectedAtMs =
      (feedMessages messages
          (.depthOf (Text.toAsciiUppercase update.symbol))).getLast?.bind
        (fun previous =>
          previous.gapBetween ⟨⟨stream, .diffDepth update⟩, detectedAtMs⟩) := by
  rw [BinanceL0WatchStats.depthGap?, sessionStats,
    statsAfter_lastFinalUpdate, lastFinalUpdate_eq]
  cases last :
      (feedMessages messages
        (.depthOf (Text.toAsciiUppercase update.symbol))).getLast? with
  | none =>
      rfl
  | some previous =>
      have own :
          previous.feed? =
            some (.depthOf (Text.toAsciiUppercase update.symbol)) := by
        have member := List.mem_of_getLast? last
        simpa using (List.mem_filter.mp member).2
      obtain ⟨⟨source, event⟩, arrivedAtMs⟩ := previous
      cases event with
      | diffDepth earlier =>
          simp only [SessionMessage.feed?, Option.some.injEq,
            Feed.depthOf.injEq] at own
          simp only [Option.bind_some, SessionMessage.call,
            WatchCall.finalUpdateOf, own, if_true]
          rfl
      | ticker _ | bookTicker _ | trade _ =>
          simp [SessionMessage.feed?] at own

/-- A message raises the alert that it shows beside the last one of its feed. -/
theorem alert?_eq_foundAt :
    message.call.alert? (sessionStats messages) =
      (foundAt SessionMessage.feed? SessionMessage.gapBetween messages
        message).map Prod.snd := by
  have drop (feed : Feed) (shown : Option BinanceL0GapAlert) :
      (shown.map (feed, ·)).map Prod.snd = shown := by
    cases shown with
    | none =>
        rfl
    | some alert =>
        rfl
  obtain ⟨⟨stream, event⟩, detectedAtMs⟩ := message
  cases event with
  | trade trade =>
      refine (tradeGap?_eq messages stream trade detectedAtMs).trans ?_
      rw [foundAt, SessionMessage.feed?, Option.bind_some,
        Option.map_bind]
      congr 1
      funext previous
      exact (drop _ _).symm
  | diffDepth update =>
      refine (depthGap?_eq messages stream update detectedAtMs).trans ?_
      rw [foundAt, SessionMessage.feed?, Option.bind_some,
        Option.map_bind]
      congr 1
      funext previous
      exact (drop _ _).symm
  | ticker _ | bookTicker _ =>
      rfl

/-- A message raises the alerts that are recorded for it. -/
theorem recordedAlerts_session :
    recordedAlerts (messages.map SessionMessage.call) =
      (sessionGaps messages).map Prod.snd := by
  induction messages using List.reverseRecOn with
  | nil =>
      rfl
  | append_singleton messages message inductionHypothesis =>
      have alert := alert?_eq_foundAt messages message
      rw [sessionStats] at alert
      rw [List.map_append, List.map_singleton, recordedAlerts_concat,
        inductionHypothesis, alert, sessionGaps, sessionGaps, found_concat,
        List.map_append, Option.toList_map]

end Detection

section Statistics

/-- A message is an anomaly if it raises an alert, and the alert is shown. -/
structure CountsAnomaly
    (before after : BinanceL0WatchStats)
    (alert : Option BinanceL0GapAlert) : Prop where
  sequenceAnomalies :
    after.sequenceAnomalies = before.sequenceAnomalies + alert.toList.length
  recentGapAlerts :
    after.recentGapAlerts =
      alert.elim before.recentGapAlerts
        (pushBounded before.recentGapAlerts · maxRecentGapAlerts)

/-- An anomaly is counted with its alert. -/
private theorem noteAnomaly_counts
    (stats : BinanceL0WatchStats)
    (alert : Option BinanceL0GapAlert) :
    CountsAnomaly stats (stats.noteAnomaly alert) alert := by
  cases alert with
  | none =>
      exact ⟨rfl, rfl⟩
  | some alert =>
      exact ⟨rfl, rfl⟩

/-- A message is counted with its alert. -/
theorem SessionMessage.perform_counts
    (stats : BinanceL0WatchStats)
    (message : SessionMessage) :
    CountsAnomaly stats (message.call.perform stats)
      (message.call.alert? stats) := by
  obtain ⟨⟨stream, event⟩, detectedAtMs⟩ := message
  cases event with
  | ticker _ | bookTicker _ =>
      exact ⟨rfl, rfl⟩
  | trade trade =>
      change CountsAnomaly _
        (BinanceL0WatchStats.recordTradeOrderingGap ..) _
      rw [BinanceL0WatchStats.recordTradeOrderingGap_eq]
      obtain ⟨anomalies, recent⟩ := noteAnomaly_counts _ _
      exact ⟨anomalies, recent⟩
  | diffDepth update =>
      change CountsAnomaly _
        (BinanceL0WatchStats.recordDepthUpdateIdGap ..) _
      rw [BinanceL0WatchStats.recordDepthUpdateIdGap_eq]
      obtain ⟨anomalies, recent⟩ := noteAnomaly_counts _ _
      exact ⟨anomalies, recent⟩

/-- A session counts every alert as an anomaly and shows the latest ones. -/
theorem sessionStats_anomalies
    (messages : List SessionMessage) :
    (sessionStats messages).sequenceAnomalies =
        (sessionGaps messages).length ∧
      ∃ dropped,
        KeepsLatest maxRecentGapAlerts ((sessionGaps messages).map Prod.snd)
          (sessionStats messages).recentGapAlerts dropped := by
  simp only [← recordedAlerts_session, ← List.length_map Prod.snd]
  induction messages using List.reverseRecOn with
  | nil =>
      exact ⟨rfl, 0, keepsLatest_nil⟩
  | append_singleton messages message inductionHypothesis =>
      obtain ⟨counted, dropped, keeps⟩ := inductionHypothesis
      obtain ⟨anomalies, recent⟩ :=
        message.perform_counts (sessionStats messages)
      have after :
          sessionStats (messages ++ [message]) =
            message.call.perform (sessionStats messages) := by
        rw [sessionStats, List.map_append, List.map_singleton,
          statsAfter_concat]
        rfl
      rw [after, List.map_append, List.map_singleton,
        recordedAlerts_concat, anomalies, recent]
      change _ = (_ ++ (message.call.alert?
        (sessionStats messages)).toList).length ∧ ∃ dropped,
          KeepsLatest _ (_ ++ (message.call.alert?
            (sessionStats messages)).toList) _ dropped
      cases message.call.alert? (sessionStats messages) with
      | none =>
          simpa using ⟨counted, dropped, keeps⟩
      | some alert =>
          refine ⟨by simp [counted], ?_⟩
          exact keepsLatest_pushBounded keeps alert

/--
For every order in which the messages of the feeds are mixed, the statistics of
a session report exactly the gaps between the consecutive messages of each feed.
-/
theorem sessionStats_reportsGaps
    (messages : List SessionMessage) :
    ReportsGaps messages (sessionStats messages) ∧
      ∀ others : List SessionMessage,
        (∀ feed, feedMessages messages feed = feedMessages others feed) →
        ∀ feed,
          foundFor (sessionGaps messages) feed =
            foundFor (sessionGaps others) feed := by
  obtain ⟨anomalies, _, recent⟩ := sessionStats_anomalies messages
  obtain ⟨counted, _, kept⟩ :=
    statsAfter_keepsLatest (messages.map SessionMessage.call)
  rw [recordedAlerts_session] at counted kept
  rw [List.length_map] at counted
  refine ⟨?_, fun others same feed => foundFor_found_congr (same feed)⟩
  exact
    { gaps := fun feed => foundFor_found messages feed
      sequenceAnomalies := anomalies
      gapAlertCount := counted
      gapAlerts := kept.kept
      recentGapAlerts := recent.kept }

end Statistics

end MarketIngest.Binance
