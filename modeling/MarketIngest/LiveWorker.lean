import MarketIngest.ReconnectBackoff
import MarketIngest.L0Columns
import MarketIngest.SinkConservation

namespace MarketIngest.Live

open Binance (Duration ReconnectPolicy SessionEnd)
open Parquet (L0Draft RawMarketEventDraft)
open Storage (FileOutcome L0StorageSink SinkCall StorageError)

/-!
# Live workers

A live worker connects to the websocket of its venue and takes messages in
sessions, until it is told to stop or its time is over.  It counts what it
takes, and appends drafts to its sink.  What comes from outside is given: the
clock, the messages, and what becomes of ticks and files.

The workers of both venues run the same loops.  They differ in how they parse
messages, in their statistics, in whether a message that could not be stored is
counted as malformed, and in the snapshots that only one of them takes.
-/

/-- A message of a websocket. -/
inductive Message where
  | text (content : String)
  | binary (bytes : ByteArray)
  | ping
  | pong
  | close
  | frame

/-- The text of a message, if it has one. -/
def Message.text? : Message → Option String
  | .text content => some content
  | .binary bytes => String.fromUTF8? bytes
  | _ => none

/-- What a worker has to store: a message that came, or drafts of its own. -/
inductive Input where
  | message (message : Message) (nowMs : Int)
  | drafts (drafts : List L0Draft)

/-- Why a message ends its session. -/
inductive MessageError where
  | utf8
  | storage (failure : StorageError)
  deriving Repr, DecidableEq

/-- What a worker does to its statistics. -/
inductive StatsCall (Envelope : Type) where
  | received
  | malformed
  | ping
  | pong
  | close
  | event (envelope : Envelope) (detectedAtMs : Int)
  | reconnect (reason : String) (nowMs : Int)
  | updateHealth
  | finished (status : String)

/-- What one venue does in its own way. -/
structure Venue (Stats Envelope : Type) where
  parse : String → Option (List Envelope)
  drafts : Envelope → Int → List RawMarketEventDraft
  perform : Stats → StatsCall Envelope → Stats
  countsMessageErrors : Bool

/-- What becomes of the ticks and the files of every call to a sink. -/
structure SinkWorld where
  publish : Nat → L0StorageSink.PublishOutcome
  file : Nat → FileOutcome
  flush : Nat → L0StorageSink.FlushFiles
  liveFlushFails : Nat → Bool

/-- A worker, with what it took and what it did so far. -/
structure Worker (Stats Envelope : Type) where
  stats : Stats
  storage : Option (L0StorageSink L0Draft)
  taken : List Input
  counted : List (StatsCall Envelope)
  called : List (SinkCall L0Draft)

variable {Stats Envelope : Type}

namespace Worker

/-- A worker that starts. -/
def start
    (stats : Stats)
    (storage : Option (L0StorageSink L0Draft)) : Worker Stats Envelope where
  stats := stats
  storage := storage
  taken := []
  counted := []
  called := []

/-- Change the statistics. -/
def note
    (venue : Venue Stats Envelope)
    (worker : Worker Stats Envelope)
    (call : StatsCall Envelope) : Worker Stats Envelope :=
  { worker with
    stats := venue.perform worker.stats call
    counted := worker.counted ++ [call] }

/-- Take something to store. -/
def take
    (worker : Worker Stats Envelope)
    (input : Input) : Worker Stats Envelope :=
  { worker with taken := worker.taken ++ [input] }

/-- Call the sink, if there is one. -/
def call
    (worker : Worker Stats Envelope)
    (sinkCall : SinkCall L0Draft) :
    Worker Stats Envelope × Except StorageError Unit :=
  match worker.storage with
  | none => (worker, .ok ())
  | some sink =>
      let (after, result) := sinkCall.perform sink
      ({ worker with
          storage := some after
          called := worker.called ++ [sinkCall] },
        result)

section Sink

variable (world : SinkWorld)

/-- Append a draft to the sink. -/
def append
    (worker : Worker Stats Envelope)
    (draft : L0Draft) : Worker Stats Envelope × Except StorageError Unit :=
  worker.call
    (draft.call (world.publish worker.called.length)
      (world.file worker.called.length))

/-- Append drafts up to the first failure. -/
def appendAll :
    List L0Draft →
    Worker Stats Envelope →
    Worker Stats Envelope × Except StorageError Unit
  | [], worker => (worker, .ok ())
  | draft :: rest, worker =>
      match worker.append world draft with
      | (after, .error failure) => (after, .error failure)
      | (after, .ok ()) => appendAll rest after

/-- Append drafts of the worker itself. -/
def appendDrafts
    (drafts : List L0Draft)
    (worker : Worker Stats Envelope) :
    Worker Stats Envelope × Except StorageError Unit :=
  (worker.take (.drafts drafts)).appendAll world drafts

/-- Flush the sink. -/
def flushAll
    (worker : Worker Stats Envelope) :
    Worker Stats Envelope × Except StorageError Unit :=
  worker.call
    (.flushAll (world.flush worker.called.length)
      (world.liveFlushFails worker.called.length))

end Sink

end Worker

section Messages

variable
  (venue : Venue Stats Envelope)
  (world : SinkWorld)

/-- Store and count the parsed messages of a text, up to the first failure. -/
def recordEnvelopes
    (detectedAtMs : Int) :
    List Envelope →
    Worker Stats Envelope →
    Worker Stats Envelope × Except MessageError Unit
  | [], worker => (worker, .ok ())
  | envelope :: rest, worker =>
      match
        worker.appendAll world
          ((venue.drafts envelope detectedAtMs).map .raw) with
      | (after, .error failure) => (after, .error (.storage failure))
      | (after, .ok ()) =>
          recordEnvelopes detectedAtMs rest
            (after.note venue (.event envelope detectedAtMs))

/-- Take the text of a message; a text that is not understood is counted. -/
def recordTextPayload
    (rawJson : String)
    (detectedAtMs : Int)
    (worker : Worker Stats Envelope) :
    Worker Stats Envelope × Except MessageError Unit :=
  let received := worker.note venue .received
  match venue.parse rawJson with
  | some envelopes =>
      recordEnvelopes venue world detectedAtMs envelopes received
  | none => (received.note venue .malformed, .ok ())

/-- Handle a message. -/
def handleMessage
    (message : Message)
    (nowMs : Int)
    (worker : Worker Stats Envelope) :
    Worker Stats Envelope × Except MessageError Unit :=
  let taken := worker.take (.message message nowMs)
  match message with
  | .text content => recordTextPayload venue world content nowMs taken
  | .binary bytes =>
      match String.fromUTF8? bytes with
      | some content => recordTextPayload venue world content nowMs taken
      | none => (taken, .error .utf8)
  | .ping => (taken.note venue .ping, .ok ())
  | .pong => (taken.note venue .pong, .ok ())
  | .close => (taken.note venue .close, .ok ())
  | .frame => (taken, .ok ())

end Messages

section Sessions

/-- Snapshots that were fetched, and whether the fetching came to its end. -/
structure SnapshotBatch where
  drafts : List RawMarketEventDraft
  completes : Bool
  deriving Repr, DecidableEq

/-- When the next snapshots are due. -/
structure SnapshotTimer where
  interval : Nat
  nextAt : Nat
  deriving Repr, DecidableEq

/-- The timers of a session; instants and intervals are in nanoseconds. -/
structure SessionTimers where
  nextLogAt : Nat
  nextPingAt : Nat
  lastMessageAt : Nat
  logInterval : Nat
  staleTimeout : Nat
  snapshot : Option SnapshotTimer
  deriving Repr, DecidableEq

/-- What a session is told. -/
structure SessionConfig where
  deadline : Nat
  logInterval : Nat
  staleTimeout : Nat
  snapshotInterval : Option Nat
  deriving Repr, DecidableEq

/-- The time between two pings. -/
def pingInterval : Nat :=
  30 * 1000000000

/-- The timers of a session that starts. -/
def SessionTimers.start
    (config : SessionConfig)
    (now : Nat) : SessionTimers where
  nextLogAt := now + config.logInterval
  nextPingAt := now + pingInterval
  lastMessageAt := now
  logInterval := config.logInterval
  staleTimeout := config.staleTimeout
  snapshot :=
    config.snapshotInterval.map fun interval =>
      { interval := interval
        nextAt := now + interval }

/-- What the websocket does until the next tick. -/
inductive Arrival where
  | message (message : Message) (arrivedAt : Nat) (nowMs : Int)
  | error
  | ended
  | elapsed

/-- What a session makes of it. -/
inductive SessionPoll where
  | message (message : Message) (arrivedAt : Nat) (nowMs : Int)
  | disconnected (reason : String)
  | tick

/-- Wait for a message. -/
def pollSession : Arrival → SessionPoll
  | .message message arrivedAt nowMs => .message message arrivedAt nowMs
  | .error => .disconnected "websocket_error"
  | .ended => .disconnected "ended"
  | .elapsed => .tick

/-- What one iteration of a session meets. -/
structure Iteration where
  shutdownFlag : Bool
  startedAt : Nat
  arrival : Arrival
  checkedAt : Nat
  pingFails : Bool
  batch : SnapshotBatch
  caughtUpAt : Nat

variable
  (venue : Venue Stats Envelope)
  (world : SinkWorld)

/-- Append fetched snapshots and flush them; failures are only logged. -/
def appendAndFlushSnapshots
    (batch : SnapshotBatch)
    (worker : Worker Stats Envelope) : Worker Stats Envelope :=
  match worker.storage with
  | none => worker
  | some _ =>
      match worker.appendDrafts world (batch.drafts.map .raw) with
      | (after, .error _) => after
      | (after, .ok ()) =>
          if batch.completes then (after.flushAll world).1 else after

/-- The first due time after the instant, of those an interval apart. -/
def catchUp (interval nextAt instant : Nat) : Nat :=
  if nextAt ≤ instant then
    nextAt + ((instant - nextAt) / interval + 1) * interval
  else
    nextAt

/-- Take the snapshots if they are due. -/
def runSnapshots
    (iteration : Iteration)
    (timers : SessionTimers)
    (worker : Worker Stats Envelope) :
    SessionTimers × Worker Stats Envelope :=
  match timers.snapshot with
  | none => (timers, worker)
  | some timer =>
      if timer.nextAt ≤ iteration.checkedAt then
        ({ timers with
            snapshot :=
              some
                { timer with
                  nextAt :=
                    catchUp timer.interval (timer.nextAt + timer.interval)
                      iteration.caughtUpAt } },
          appendAndFlushSnapshots world iteration.batch worker)
      else
        (timers, worker)

/-- Write the log if it is due. -/
def runLog
    (iteration : Iteration)
    (timers : SessionTimers)
    (worker : Worker Stats Envelope) :
    SessionTimers × Worker Stats Envelope :=
  if timers.nextLogAt ≤ iteration.checkedAt then
    ({ timers with nextLogAt := timers.nextLogAt + timers.logInterval },
      worker.note venue .updateHealth)
  else
    (timers, worker)

/-- Look at the timers; a silent or broken session ends. -/
def runHousekeeping
    (iteration : Iteration)
    (timers : SessionTimers)
    (worker : Worker Stats Envelope) :
    (SessionTimers × Worker Stats Envelope) × Option SessionEnd :=
  if timers.lastMessageAt + timers.staleTimeout ≤ iteration.checkedAt then
    ((timers, worker), some (.disconnected "stale_timeout"))
  else if timers.nextPingAt ≤ iteration.checkedAt ∧ iteration.pingFails then
    ((timers, worker), some (.disconnected "ping_failed"))
  else
    let pinged :=
      if timers.nextPingAt ≤ iteration.checkedAt then
        { timers with nextPingAt := timers.nextPingAt + pingInterval }
      else
        timers
    let (logged, reported) := runLog venue iteration pinged worker
    (runSnapshots world iteration logged reported, none)

/-- Run a session over what its iterations meet, until it ends. -/
def runIterations
    (deadline : Nat) :
    List Iteration →
    SessionTimers →
    Worker Stats Envelope →
    Worker Stats Envelope × Option SessionEnd
  | [], _, worker => (worker, none)
  | iteration :: rest, timers, worker =>
      if iteration.shutdownFlag then
        (worker, some .shutdownRequested)
      else if deadline ≤ iteration.startedAt then
        (worker, some .deadlineReached)
      else
        let continued (timers : SessionTimers)
            (worker : Worker Stats Envelope) :=
          match runHousekeeping venue world iteration timers worker with
          | ((_, after), some ended) => (after, some ended)
          | ((later, after), none) => runIterations deadline rest later after
        match pollSession iteration.arrival with
        | .message message arrivedAt nowMs =>
            match handleMessage venue world message nowMs worker with
            | (after, .error _) =>
                (if venue.countsMessageErrors then
                    after.note venue .malformed
                  else
                    after,
                  some (.disconnected "message_error"))
            | (after, .ok ()) =>
                continued { timers with lastMessageAt := arrivedAt } after
        | .disconnected reason =>
            (if reason = "websocket_error" then
                worker.note venue .malformed
              else
                worker,
              some (.disconnected reason))
        | .tick => continued timers worker

/-- Run a session. -/
def runSession
    (config : SessionConfig)
    (startedAt : Nat)
    (iterations : List Iteration)
    (worker : Worker Stats Envelope) :
    Worker Stats Envelope × Option SessionEnd :=
  runIterations venue world config.deadline iterations
    (.start config startedAt) worker

end Sessions

section Rounds

/-- What a connection leads to; only one venue subscribes after connecting. -/
inductive Connection where
  | connectFailed
  | subscribeFailed
  | opened (startedAt : Nat) (iterations : List Iteration)

/-- What one round of the outer loop meets. -/
structure Round where
  shutdownFlag : Bool
  startedAt : Nat
  connection : Connection
  nowMs : Int

/-- A worker between two rounds. -/
structure Watch (Stats Envelope : Type) where
  worker : Worker Stats Envelope
  currentBackoff : Duration
  slept : List Duration

variable
  (venue : Venue Stats Envelope)
  (world : SinkWorld)
  (policy : ReconnectPolicy)

/-- Record a lost or failed connection, sleep, and lengthen the delay. -/
def Watch.reconnect
    (watch : Watch Stats Envelope)
    (reason : String)
    (nowMs : Int) : Watch Stats Envelope where
  worker := watch.worker.note venue (.reconnect reason nowMs)
  currentBackoff := policy.nextBackoff watch.currentBackoff
  slept := watch.slept ++ [watch.currentBackoff]

/-- Note that the worker ends, and why. -/
def Watch.finish
    (watch : Watch Stats Envelope)
    (status : String) : Watch Stats Envelope :=
  { watch with
    worker :=
      (watch.worker.note venue (.finished status)).note venue .updateHealth }

/-- The loop of a worker over the rounds that it meets, until it ends. -/
def watchRounds
    (config : SessionConfig) :
    List Round →
    Watch Stats Envelope →
    Watch Stats Envelope × Bool
  | [], watch => (watch, false)
  | round :: rest, watch =>
      if round.shutdownFlag then
        (watch.finish venue "shutdown", true)
      else if config.deadline ≤ round.startedAt then
        (watch.finish venue "deadline_reached", true)
      else
        match round.connection with
        | .connectFailed =>
            watchRounds config rest
              (watch.reconnect venue policy "connect_failed" round.nowMs)
        | .subscribeFailed =>
            watchRounds config rest
              (watch.reconnect venue policy "subscribe_failed" round.nowMs)
        | .opened startedAt iterations =>
            match
              runSession venue world config startedAt iterations
                watch.worker with
            | (after, none) => ({ watch with worker := after }, false)
            | (after, some .shutdownRequested) =>
                ({ watch with worker := after }.finish venue "shutdown", true)
            | (after, some .deadlineReached) =>
                ({ watch with worker := after }.finish venue
                  "deadline_reached", true)
            | (after, some (.disconnected reason)) =>
                watchRounds config rest
                  ({ watch with worker := after }.reconnect venue policy
                    reason round.nowMs)

end Rounds

end MarketIngest.Live
