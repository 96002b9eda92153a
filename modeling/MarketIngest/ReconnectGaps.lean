import MarketIngest.WatchStats

namespace MarketIngest.Binance

/-!
# Gaps after a reconnect

A reconnect is reported as one gap, so the first trade of a stream and the
first depth update of a symbol in the new session should not be reported as
gaps again.  The trackers of the session before are kept, so this is so just
when the new session happens to continue them.
-/

/-- The first trade of its stream, or depth update of its symbol. -/
def FirstOfSession (session : List WatchCall) : WatchCall → Prop
  | .recordEvent ⟨stream, .trade _⟩ _ =>
      session.filterMap (WatchCall.sequenceOf stream) = []
  | .recordEvent ⟨_, .diffDepth message⟩ _ =>
      session.filterMap
        (WatchCall.finalUpdateOf
          (Text.toAsciiUppercase message.symbol)) = []
  | _ => False

/-- A reconnect, the session after it so far, and a first message of it. -/
structure OpensSession
    (calls before : List WatchCall)
    (lost : WatchCall)
    (session : List WatchCall)
    (call : WatchCall) : Prop where
  received : ∃ rest, calls = before ++ lost :: (session ++ call :: rest)
  lost : lost.isReconnect = true
  connected : ∀ other ∈ session, other.isReconnect = false
  first : FirstOfSession session call

/-- What a new session should be like. -/
structure StartsFresh (calls : List WatchCall) : Prop where
  quiet :
    ∀ before lost session call,
      OpensSession calls before lost session call →
        (call.perform
            (statsAfter (before ++ lost :: session))).gapAlertCount =
          (statsAfter (before ++ lost :: session)).gapAlertCount
  reported :
    ∀ before reason nowMs rest,
      calls = before ++ .recordReconnect reason nowMs :: rest →
        (statsAfter
            (before ++ [.recordReconnect reason nowMs])).reconnectCount =
          (statsAfter before).reconnectCount + 1 ∧
        Records (statsAfter before)
          (statsAfter (before ++ [.recordReconnect reason nowMs]))
          (some (wsReconnect reason nowMs))

/-- A message continues the last one of its stream or symbol. -/
def Continues (before : List WatchCall) : WatchCall → Prop
  | .recordEvent ⟨stream, .trade message⟩ _ =>
      ∀ previous,
        lastSequence before stream = some previous →
          previous ≤ message.tradeId
  | .recordEvent ⟨_, .diffDepth message⟩ _ =>
      ∀ previous,
        lastFinalUpdate before
            (Text.toAsciiUppercase message.symbol) = some previous →
          message.firstUpdateId = saturatingAdd previous 1
  | _ => True

/-- Every session continues the sessions before it. -/
def SessionsContinue (calls : List WatchCall) : Prop :=
  ∀ before lost session call,
    OpensSession calls before lost session call → Continues before call

/-- A trade raises no alert if it is not older than the last one. -/
theorem BinanceL0WatchStats.tradeGap?_eq_none_iff
    {stats : BinanceL0WatchStats}
    {symbol stream : String}
    {sequence detectedAtMs : Int} :
    stats.tradeGap? symbol stream sequence detectedAtMs = none ↔
      ∀ previous,
        stats.lastSequenceByStream.get? stream = some previous →
          previous ≤ sequence := by
  unfold tradeGap?
  cases stats.lastSequenceByStream.get? stream with
  | none =>
      simp
  | some previous =>
      by_cases older : sequence < previous
      · simp [older]
      · simp [older, not_lt.mp older]

/-- A depth update raises no alert if it continues the last one. -/
theorem BinanceL0WatchStats.depthGap?_eq_none_iff
    {stats : BinanceL0WatchStats}
    {symbol : String}
    {firstUpdateId detectedAtMs : Int} :
    stats.depthGap? symbol firstUpdateId detectedAtMs = none ↔
      ∀ previous,
        stats.lastDepthFinalUpdateBySymbol.get? symbol = some previous →
          firstUpdateId = saturatingAdd previous 1 := by
  unfold depthGap?
  cases stats.lastDepthFinalUpdateBySymbol.get? symbol with
  | none =>
      simp
  | some previous =>
      by_cases gap : firstUpdateId = saturatingAdd previous 1
      · simp [gap]
      · simp [gap]

/-- A call counts no alert if it raises none. -/
theorem WatchCall.gapAlertCount_eq_iff
    {stats : BinanceL0WatchStats}
    {call : WatchCall} :
    (call.perform stats).gapAlertCount = stats.gapAlertCount ↔
      call.alert? stats = none := by
  rw [(call.perform_records stats).1]
  cases call.alert? stats with
  | none =>
      simp
  | some alert =>
      simp

/-- A session without values leaves the last value of the calls before it. -/
private theorem getLast?_filterMap_session
    {Value : Type}
    {valueOf : WatchCall → Option Value}
    {before session : List WatchCall}
    {lost : WatchCall}
    (reconnect : valueOf lost = none)
    (untouched : session.filterMap valueOf = []) :
    ((before ++ lost :: session).filterMap valueOf).getLast? =
      (before.filterMap valueOf).getLast? := by
  rw [List.filterMap_append, List.filterMap_cons, reconnect, untouched,
    List.append_nil]

/-- The first message of a session is compared with the sessions before. -/
theorem alert?_eq_none_iff_continues
    {calls before session : List WatchCall}
    {lost call : WatchCall}
    (opens : OpensSession calls before lost session call) :
    call.alert? (statsAfter (before ++ lost :: session)) = none ↔
      Continues before call := by
  have first := opens.first
  have lostCall := opens.lost
  cases lost with
  | recordEvent envelope detectedAtMs =>
      cases lostCall
  | recordReconnect reason nowMs =>
      cases call with
      | recordReconnect laterReason laterMs =>
          exact first.elim
      | recordEvent envelope detectedAtMs =>
          rcases envelope with ⟨stream, event⟩
          cases event with
          | ticker message =>
              exact first.elim
          | bookTicker message =>
              exact first.elim
          | trade message =>
              change BinanceL0WatchStats.tradeGap? _ _ _ _ _ = none ↔ _
              rw [BinanceL0WatchStats.tradeGap?_eq_none_iff,
                statsAfter_lastSequence, lastSequence,
                getLast?_filterMap_session rfl first]
              rfl
          | diffDepth message =>
              change BinanceL0WatchStats.depthGap? _ _ _ _ = none ↔ _
              rw [BinanceL0WatchStats.depthGap?_eq_none_iff,
                statsAfter_lastFinalUpdate, lastFinalUpdate,
                getLast?_filterMap_session rfl first]
              rfl

/--
The first messages of a session raise no alert exactly when the session
continues the sessions before it; each reconnect is reported once in any case.
-/
theorem startsFresh_iff
    (calls : List WatchCall) :
    StartsFresh calls ↔ SessionsContinue calls := by
  constructor
  · intro fresh before lost session call opens
    have quiet := fresh.quiet before lost session call opens
    rw [WatchCall.gapAlertCount_eq_iff] at quiet
    exact (alert?_eq_none_iff_continues opens).mp quiet
  · intro continued
    constructor
    · intro before lost session call opens
      rw [WatchCall.gapAlertCount_eq_iff,
        alert?_eq_none_iff_continues opens]
      exact continued before lost session call opens
    · intro before reason nowMs rest _
      rw [statsAfter_concat]
      exact ⟨rfl, WatchCall.perform_records _ _⟩

/-- Two depth updates with a reconnect between them. -/
def depthOutage : List WatchCall :=
  [.recordEvent
      ⟨"btcusdt@depth@100ms",
        .diffDepth ⟨1779471443000, "BTCUSDT", 90, 100⟩⟩
      1779471443010,
    .recordReconnect "stale_timeout" 1779471473010,
    .recordEvent
      ⟨"btcusdt@depth@100ms",
        .diffDepth ⟨1779471475000, "BTCUSDT", 401, 410⟩⟩
      1779471475010]

/-- The outage is reported a second time, as a gap of the depth updates. -/
theorem depthOutage_reported_twice :
    ¬ StartsFresh depthOutage := by
  intro fresh
  have quiet :=
    fresh.quiet
      [.recordEvent
        ⟨"btcusdt@depth@100ms",
          .diffDepth ⟨1779471443000, "BTCUSDT", 90, 100⟩⟩
        1779471443010]
      (.recordReconnect "stale_timeout" 1779471473010)
      []
      (.recordEvent
        ⟨"btcusdt@depth@100ms",
          .diffDepth ⟨1779471475000, "BTCUSDT", 401, 410⟩⟩
        1779471475010)
      { received := ⟨[], rfl⟩
        lost := rfl
        connected := by simp
        first := rfl }
  rw [WatchCall.gapAlertCount_eq_iff] at quiet
  have continued :=
    BinanceL0WatchStats.depthGap?_eq_none_iff.mp quiet 100
  rw [statsAfter_lastFinalUpdate] at continued
  have gap :=
    continued (by
      simp [lastFinalUpdate, WatchCall.finalUpdateOf]
      rfl)
  exact absurd gap (by decide)

end MarketIngest.Binance
