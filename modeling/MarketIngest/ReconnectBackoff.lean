import MarketIngest.GapDetection

namespace MarketIngest.Binance

/-!
# The delays between connections

A worker connects, watches a session until it ends, and sleeps before it
connects again.  The delay grows with every failed connection and every
disconnect.  A comment says that it is reset after a healthy session.  The loop
never resets it, so it grows over the whole life of the worker.
-/

/-- How many nanoseconds the longest duration has. -/
def maxDurationNanos : Nat :=
  18446744073709551615999999999

/-- A duration. -/
structure Duration where
  nanos : Nat
  representable : nanos ≤ maxDurationNanos
  deriving DecidableEq

/-- Every number of seconds is a duration. -/
theorem secs_representable
    (secs : UInt64) :
    secs.toNat * 1000000000 ≤ maxDurationNanos := by
  have below := secs.toNat_lt
  unfold maxDurationNanos
  omega

namespace Duration

/-- A number of seconds. -/
def fromSecs (secs : UInt64) : Duration where
  nanos := secs.toNat * 1000000000
  representable := secs_representable secs

/-- A multiple of a duration, if it is not too long. -/
def checkedMul (duration : Duration) (factor : UInt32) : Option Duration :=
  if fits : duration.nanos * factor.toNat ≤ maxDurationNanos then
    some ⟨duration.nanos * factor.toNat, fits⟩
  else
    none

end Duration

/-- How long to wait before a connection. -/
structure ReconnectPolicy where
  initialBackoff : Duration
  maxBackoff : Duration
  multiplier : UInt32
  staleMessageTimeout : Duration
  deriving DecidableEq

namespace ReconnectPolicy

/-- The policy of a worker that always runs. -/
def default24x7 : ReconnectPolicy where
  initialBackoff := .fromSecs 1
  maxBackoff := .fromSecs 60
  multiplier := 2
  staleMessageTimeout := .fromSecs 30

/-- The delay after a delay. -/
def nextBackoff
    (policy : ReconnectPolicy)
    (current : Duration) : Duration :=
  let candidate :=
    (current.checkedMul policy.multiplier).getD policy.maxBackoff
  if candidate.nanos ≤ policy.maxBackoff.nanos then
    candidate
  else
    policy.maxBackoff

/-- The delay after a number of failures in a row. -/
def delayAfter (policy : ReconnectPolicy) (failures : Nat) : Nat :=
  min policy.maxBackoff.nanos
    (policy.initialBackoff.nanos * policy.multiplier.toNat ^ failures)

end ReconnectPolicy

/-- How a session ends. -/
inductive SessionEnd where
  | shutdownRequested
  | deadlineReached
  | disconnected (reason : String)
  deriving Repr, DecidableEq

/-- What a connection leads to: the parsed messages of a session and its end. -/
inductive Connection where
  | failed
  | session
      (messages : List SessionMessage)
      (ended : Except String SessionEnd)

/-- What one round of the loop finds. -/
structure WatchRound where
  shutdownFlag : Bool
  pastDeadline : Bool
  connection : Connection
  nowMs : Int

/-- The worker between two rounds. -/
structure WatchState where
  stats : BinanceL0WatchStats
  currentBackoff : Duration
  slept : List Duration

namespace WatchState

/-- Record a lost or failed connection, sleep, and lengthen the delay. -/
def reconnect
    (policy : ReconnectPolicy)
    (state : WatchState)
    (reason : String)
    (nowMs : Int) : WatchState where
  stats := state.stats.recordReconnect reason nowMs
  currentBackoff := policy.nextBackoff state.currentBackoff
  slept := state.slept ++ [state.currentBackoff]

/-- Note that the worker ends. -/
def finish (state : WatchState) (status : String) : WatchState :=
  { state with
    stats :=
      { state.stats with
        sourceHealthStatus := status
        sourceHealthEvents := state.stats.sourceHealthEvents + 1 } }

/-- Take the messages of a session into the statistics. -/
def watch
    (state : WatchState)
    (messages : List SessionMessage) : WatchState :=
  { state with
    stats :=
      (messages.map SessionMessage.call).foldl WatchCall.perform
        state.stats }

end WatchState

/-- The loop of a worker over the rounds that it meets. -/
def watchLoop
    (policy : ReconnectPolicy) :
    List WatchRound → WatchState → WatchState × Option (Except String Unit)
  | [], state => (state, none)
  | round :: rest, state =>
      if round.shutdownFlag then
        (state.finish "shutdown", some (.ok ()))
      else if round.pastDeadline then
        (state.finish "deadline_reached", some (.ok ()))
      else
        match round.connection with
        | .failed =>
            watchLoop policy rest
              (state.reconnect policy "connect_failed" round.nowMs)
        | .session messages (.error failure) =>
            (state.watch messages, some (.error failure))
        | .session messages (.ok .shutdownRequested) =>
            ((state.watch messages).finish "shutdown", some (.ok ()))
        | .session messages (.ok .deadlineReached) =>
            ((state.watch messages).finish "deadline_reached",
              some (.ok ()))
        | .session messages (.ok (.disconnected reason)) =>
            watchLoop policy rest
              ((state.watch messages).reconnect policy reason round.nowMs)

/-- A worker from its start, without the health that it judges at its end. -/
def watchBinanceL0Streams
    (rounds : List WatchRound) : WatchState × Option (Except String Unit) :=
  watchLoop .default24x7 rounds
    { stats := .new
      currentBackoff := ReconnectPolicy.default24x7.initialBackoff
      slept := [] }

/-- The lost and failed connections of a worker, until it ends; the flag says
that an event was parsed since the connection. -/
def outages : List WatchRound → List Bool
  | [] => []
  | round :: rest =>
      if round.shutdownFlag || round.pastDeadline then
        []
      else
        match round.connection with
        | .failed => false :: outages rest
        | .session messages (.ok (.disconnected _)) =>
            (!messages.isEmpty) :: outages rest
        | .session _ _ => []

/-- For every outage, how many there were since the last parsed event. -/
def failuresSinceHealthy : Nat → List Bool → List Nat
  | _, [] => []
  | failures, healthy :: rest =>
      let since := if healthy then 0 else failures
      since :: failuresSinceHealthy (since + 1) rest

/-- The delays of a worker are those of each outage on its own. -/
def BacksOffPerOutage (rounds : List WatchRound) : Prop :=
  (watchBinanceL0Streams rounds).1.slept.map Duration.nanos =
    (failuresSinceHealthy 0 (outages rounds)).map
      ReconnectPolicy.default24x7.delayAfter

/-- Only the first outage may end a session in which an event was parsed. -/
def HealthyOnlyFirst (rounds : List WatchRound) : Prop :=
  ∀ healthy ∈ (outages rounds).tail, healthy = false

section Delays

variable {policy : ReconnectPolicy}

/-- A delay is multiplied up to the longest one. -/
theorem nextBackoff_nanos
    (current : Duration) :
    (policy.nextBackoff current).nanos =
      min policy.maxBackoff.nanos
        (current.nanos * policy.multiplier.toNat) := by
  have bounded := policy.maxBackoff.representable
  unfold ReconnectPolicy.nextBackoff Duration.checkedMul
  split_ifs with fits
  · simp only [Option.getD_some]
    split_ifs with short
    · exact (min_eq_right short).symm
    · exact (min_eq_left (not_le.mp short).le).symm
  · simp only [Option.getD_none, le_refl, if_true]
    exact (min_eq_left (by omega)).symm

/-- The delay after one more failure. -/
theorem nextBackoff_delayAfter
    (grows : 1 ≤ policy.multiplier.toNat)
    {current : Duration}
    {failures : Nat}
    (delay : current.nanos = policy.delayAfter failures) :
    (policy.nextBackoff current).nanos = policy.delayAfter (failures + 1) := by
  rw [nextBackoff_nanos, delay, ReconnectPolicy.delayAfter,
    ReconnectPolicy.delayAfter, pow_succ, ← mul_assoc]
  rcases le_total policy.maxBackoff.nanos
      (policy.initialBackoff.nanos * policy.multiplier.toNat ^ failures) with
    long | short
  · have most : policy.maxBackoff.nanos ≤
        policy.maxBackoff.nanos * policy.multiplier.toNat :=
      Nat.le_mul_of_pos_right _ grows
    rw [min_eq_left long, min_eq_left most,
      min_eq_left (most.trans (Nat.mul_le_mul_right _ long))]
  · rw [min_eq_right short]

/-- An outage is slept through, and makes the delay longer. -/
theorem reconnect_delays
    (grows : 1 ≤ policy.multiplier.toNat)
    (state : WatchState)
    {failures : Nat}
    (delay : state.currentBackoff.nanos = policy.delayAfter failures)
    (reason : String)
    (nowMs : Int) :
    (state.reconnect policy reason nowMs).currentBackoff.nanos =
        policy.delayAfter (failures + 1) ∧
      (state.reconnect policy reason nowMs).slept.map Duration.nanos =
        state.slept.map Duration.nanos ++ [policy.delayAfter failures] := by
  refine ⟨nextBackoff_delayAfter grows delay, ?_⟩
  rw [WatchState.reconnect, List.map_append, List.map_singleton, delay]

/-- The loop sleeps longer after every outage. -/
theorem watchLoop_slept
    (grows : 1 ≤ policy.multiplier.toNat)
    (rounds : List WatchRound)
    {state : WatchState}
    {failures : Nat}
    (delay : state.currentBackoff.nanos = policy.delayAfter failures) :
    (watchLoop policy rounds state).1.slept.map Duration.nanos =
      state.slept.map Duration.nanos ++
        (List.range' failures (outages rounds).length).map
          policy.delayAfter := by
  induction rounds generalizing state failures with
  | nil =>
      exact (List.append_nil _).symm
  | cons round rest inductionHypothesis =>
      unfold watchLoop outages
      by_cases ended : (round.shutdownFlag || round.pastDeadline) = true
      · rw [if_pos ended, List.length_nil, List.range'_zero, List.map_nil,
          List.append_nil]
        by_cases flagged : round.shutdownFlag = true
        · rw [if_pos flagged]
          rfl
        · have late : round.pastDeadline = true := by
            simpa [flagged] using ended
          rw [if_neg flagged, if_pos late]
          rfl
      · have running :
            round.shutdownFlag = false ∧ round.pastDeadline = false := by
          simpa using ended
        rw [if_neg ended, if_neg (by simp [running.1]),
          if_neg (by simp [running.2])]
        cases round.connection with
        | failed =>
            obtain ⟨longer, slept⟩ :=
              reconnect_delays grows state delay "connect_failed" round.nowMs
            simp only [inductionHypothesis longer, slept,
              List.length_cons, List.range'_succ, List.map_cons,
              List.append_assoc, List.singleton_append]
        | session messages ended =>
            cases ended with
            | error failure =>
                exact (List.append_nil _).symm
            | ok ended =>
                cases ended with
                | shutdownRequested | deadlineReached =>
                    exact (List.append_nil _).symm
                | disconnected reason =>
                    obtain ⟨longer, slept⟩ :=
                      reconnect_delays grows (state.watch messages) delay
                        reason round.nowMs
                    simp only [inductionHypothesis longer, slept,
                      List.length_cons, List.range'_succ, List.map_cons,
                      List.append_assoc, List.singleton_append]
                    rfl

end Delays

/-- The delays of a worker grow from its start. -/
theorem watchBinanceL0Streams_slept
    (rounds : List WatchRound) :
    (watchBinanceL0Streams rounds).1.slept.map Duration.nanos =
      (List.range' 0 (outages rounds).length).map
        ReconnectPolicy.default24x7.delayAfter :=
  watchLoop_slept (by decide) rounds (by decide)

/-- Without a healthy session the failures are counted from the start. -/
theorem failuresSinceHealthy_of_unhealthy
    {flags : List Bool}
    (unhealthy : ∀ healthy ∈ flags, healthy = false)
    (failures : Nat) :
    failuresSinceHealthy failures flags =
      List.range' failures flags.length := by
  induction flags generalizing failures with
  | nil =>
      rfl
  | cons healthy rest inductionHypothesis =>
      obtain ⟨first, others⟩ := List.forall_mem_cons.mp unhealthy
      rw [failuresSinceHealthy, first, List.length_cons, List.range'_succ,
        inductionHypothesis others]
      rfl

/-- After a failure the delay is longer than at first. -/
theorem delayAfter_zero_lt
    {failures : Nat}
    (some : 1 ≤ failures) :
    ReconnectPolicy.default24x7.delayAfter 0 <
      ReconnectPolicy.default24x7.delayAfter failures := by
  have doubled : 2 ^ 1 ≤ 2 ^ failures :=
    Nat.pow_le_pow_right (by omega) some
  change min 60000000000 (1000000000 * 2 ^ 0) <
    min 60000000000 (1000000000 * 2 ^ failures)
  omega

/-- Delays that only grow are those of each outage just if none is healthy. -/
theorem unhealthy_of_delays
    {flags : List Bool}
    {failures : Nat}
    (some : 1 ≤ failures)
    (same :
      (List.range' failures flags.length).map
          ReconnectPolicy.default24x7.delayAfter =
        (failuresSinceHealthy failures flags).map
          ReconnectPolicy.default24x7.delayAfter) :
    ∀ healthy ∈ flags, healthy = false := by
  induction flags generalizing failures with
  | nil =>
      simp
  | cons healthy rest inductionHypothesis =>
      rw [failuresSinceHealthy, List.length_cons, List.range'_succ,
        List.map_cons, List.map_cons, List.cons.injEq] at same
      obtain ⟨first, others⟩ := same
      cases healthy with
      | true =>
          exact absurd first (delayAfter_zero_lt some).ne'
      | false =>
          exact List.forall_mem_cons.mpr
            ⟨rfl, inductionHypothesis (Nat.le_add_left 1 failures) others⟩

/--
The delays are those of each outage on its own exactly when no event was parsed
before a disconnect, unless the worker had no outage before.
-/
theorem backsOffPerOutage_iff
    (rounds : List WatchRound) :
    BacksOffPerOutage rounds ↔ HealthyOnlyFirst rounds := by
  unfold BacksOffPerOutage HealthyOnlyFirst
  rw [watchBinanceL0Streams_slept]
  cases outages rounds with
  | nil =>
      simp [failuresSinceHealthy]
  | cons first rest =>
      have since : (if first then 0 else 0) = 0 := ite_self 0
      simp only [failuresSinceHealthy, since, List.length_cons,
        List.range'_succ, List.map_cons, List.cons.injEq, true_and,
        List.tail_cons, Nat.zero_add]
      constructor
      · exact unhealthy_of_delays (le_refl 1)
      · intro unhealthy
        rw [failuresSinceHealthy_of_unhealthy unhealthy]

/-- One failed connection, then a session with a trade that is disconnected. -/
def healthySessionLost : List WatchRound :=
  [{ shutdownFlag := false
     pastDeadline := false
     connection := .failed
     nowMs := 1779471443000 },
    { shutdownFlag := false
      pastDeadline := false
      connection :=
        .session
          [⟨⟨"btcusdt@trade",
              .trade ⟨1779471444000, "BTCUSDT", 17, 1779471444000⟩⟩,
            1779471444010⟩]
          (.ok (.disconnected "stale_timeout"))
      nowMs := 1779471474010 }]

/-- After the healthy session the worker sleeps two seconds, not one. -/
theorem healthySessionLost_not_perOutage :
    (watchBinanceL0Streams healthySessionLost).1.slept.map Duration.nanos =
        [1000000000, 2000000000] ∧
      ¬ BacksOffPerOutage healthySessionLost := by
  have slept :
      (watchBinanceL0Streams healthySessionLost).1.slept.map
          Duration.nanos =
        [1000000000, 2000000000] := by
    rw [watchBinanceL0Streams_slept]
    decide
  refine ⟨slept, fun perOutage => ?_⟩
  rw [BacksOffPerOutage, slept] at perOutage
  revert perOutage
  decide

end MarketIngest.Binance
