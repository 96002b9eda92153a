import MarketIngest.LiveWorker

namespace MarketIngest.Live

open Binance (Duration ReconnectPolicy SessionEnd)
open Parquet (L0Draft)
open Storage (SinkCall)

/-!
# Runs of live workers

A session and the loop around it change a worker in few ways: they count, they
handle a message, or they take snapshots.  A relation between the worker before
and after that each of these keeps is kept by every session and by every run.
-/

variable {Stats Envelope : Type}

section Frames

/-- A call takes no input, and counts nothing. -/
theorem Worker.call_frame
    (worker : Worker Stats Envelope)
    (sinkCall : SinkCall L0Draft) :
    (worker.call sinkCall).1.taken = worker.taken ∧
      (worker.call sinkCall).1.counted = worker.counted ∧
      (worker.call sinkCall).1.stats = worker.stats := by
  unfold Worker.call
  split <;> exact ⟨rfl, rfl, rfl⟩

/-- Appending takes no further input, and counts nothing. -/
theorem Worker.appendAll_frame
    (world : SinkWorld)
    (drafts : List L0Draft)
    (worker : Worker Stats Envelope) :
    (worker.appendAll world drafts).1.taken = worker.taken ∧
      (worker.appendAll world drafts).1.counted = worker.counted ∧
      (worker.appendAll world drafts).1.stats = worker.stats := by
  induction drafts generalizing worker with
  | nil =>
      exact ⟨rfl, rfl, rfl⟩
  | cons draft rest inductionHypothesis =>
      have one := Worker.call_frame worker
        (draft.call (world.publish worker.called.length)
          (world.file worker.called.length))
      unfold Worker.appendAll Worker.append
      revert one
      rcases
        worker.call
          (draft.call (world.publish worker.called.length)
            (world.file worker.called.length)) with
        ⟨after, failure | done⟩
      · exact id
      · rintro ⟨taken, counted, stats⟩
        obtain ⟨takenRest, countedRest, statsRest⟩ :=
          inductionHypothesis after
        exact ⟨takenRest.trans taken, countedRest.trans counted,
          statsRest.trans stats⟩

/-- Flushing takes no input, and counts nothing. -/
theorem Worker.flushAll_frame
    (world : SinkWorld)
    (worker : Worker Stats Envelope) :
    (worker.flushAll world).1.taken = worker.taken ∧
      (worker.flushAll world).1.counted = worker.counted ∧
      (worker.flushAll world).1.stats = worker.stats :=
  Worker.call_frame _ _

private theorem recordEnvelopes_taken
    (venue : Venue Stats Envelope)
    (world : SinkWorld)
    (nowMs : Int)
    (envelopes : List Envelope)
    (worker : Worker Stats Envelope) :
    (recordEnvelopes venue world nowMs envelopes worker).1.taken =
      worker.taken := by
  induction envelopes generalizing worker with
  | nil =>
      rfl
  | cons envelope rest inductionHypothesis =>
      have appended :=
        (Worker.appendAll_frame world
          ((venue.drafts envelope nowMs).map .raw) worker).1
      unfold recordEnvelopes
      revert appended
      rcases
        worker.appendAll world
          ((venue.drafts envelope nowMs).map .raw) with
        ⟨after, failure | done⟩
      · exact id
      · intro appended
        exact (inductionHypothesis _).trans appended

/-- What is done with a text takes no further input. -/
theorem recordTextPayload_taken
    (venue : Venue Stats Envelope)
    (world : SinkWorld)
    (content : String)
    (nowMs : Int)
    (worker : Worker Stats Envelope) :
    (recordTextPayload venue world content nowMs worker).1.taken =
      worker.taken := by
  unfold recordTextPayload
  dsimp only
  cases venue.parse content with
  | none =>
      rfl
  | some envelopes =>
      exact recordEnvelopes_taken venue world nowMs envelopes _

/-- A worker takes the message that it handles. -/
theorem handleMessage_taken
    (venue : Venue Stats Envelope)
    (world : SinkWorld)
    (message : Message)
    (nowMs : Int)
    (worker : Worker Stats Envelope) :
    (handleMessage venue world message nowMs worker).1.taken =
      worker.taken ++ [.message message nowMs] := by
  unfold handleMessage
  dsimp only
  cases message with
  | text content =>
      exact recordTextPayload_taken venue world content nowMs _
  | binary bytes =>
      dsimp only
      cases String.fromUTF8? bytes with
      | some content =>
          exact recordTextPayload_taken venue world content nowMs _
      | none =>
          rfl
  | _ => rfl

end Frames

/-- A worker after a message; its failure may count as a malformed message. -/
def afterMessage
    (venue : Venue Stats Envelope)
    (handled : Worker Stats Envelope × Except MessageError Unit) :
    Worker Stats Envelope :=
  match handled with
  | (after, .ok ()) => after
  | (after, .error _) =>
      if venue.countsMessageErrors then
        after.note venue .malformed
      else
        after

/-- What every step of a worker keeps, with or without snapshots. -/
structure Kept
    (venue : Venue Stats Envelope)
    (world : SinkWorld)
    (snapshots : Prop)
    (relation : Worker Stats Envelope → Worker Stats Envelope → Prop) :
    Prop where
  refl : ∀ worker, relation worker worker
  trans :
    ∀ {first second third},
      relation first second → relation second third → relation first third
  note : ∀ worker call, relation worker (worker.note venue call)
  message :
    ∀ message nowMs worker,
      relation worker
        (afterMessage venue (handleMessage venue world message nowMs worker))
  snapshot :
    snapshots →
    ∀ batch worker,
      relation worker (appendAndFlushSnapshots world batch worker)

section Sessions

variable
  {venue : Venue Stats Envelope}
  {world : SinkWorld}
  {snapshots : Prop}
  {relation : Worker Stats Envelope → Worker Stats Envelope → Prop}
  {iteration : Iteration}
  {timers : SessionTimers}
  {worker : Worker Stats Envelope}

/-- Housekeeping takes snapshots only if it has a timer for them. -/
private theorem runSnapshots_timer :
    (runSnapshots world iteration timers worker).1.snapshot.isSome =
      timers.snapshot.isSome := by
  unfold runSnapshots
  cases found : timers.snapshot with
  | none =>
      rw [found]
  | some timer =>
      dsimp only
      split
      · rfl
      · rw [found]

private theorem runLog_snapshot :
    (runLog venue iteration timers worker).1.snapshot = timers.snapshot := by
  unfold runLog
  split <;> rfl

/-- Housekeeping never starts or stops the taking of snapshots. -/
theorem runHousekeeping_timer :
    (runHousekeeping venue world iteration timers
        worker).1.1.snapshot.isSome =
      timers.snapshot.isSome := by
  unfold runHousekeeping
  split
  · rfl
  · split
    · rfl
    · dsimp only
      rw [runSnapshots_timer, runLog_snapshot]
      split <;> rfl

private theorem Kept.runSnapshots
    (kept : Kept venue world snapshots relation)
    (allowed : timers.snapshot.isSome → snapshots) :
    relation worker (runSnapshots world iteration timers worker).2 := by
  unfold Live.runSnapshots
  cases found : timers.snapshot with
  | none =>
      exact kept.refl worker
  | some timer =>
      rw [found] at allowed
      dsimp only
      split
      · exact kept.snapshot (allowed rfl) _ worker
      · exact kept.refl worker

private theorem Kept.runLog
    (kept : Kept venue world snapshots relation) :
    relation worker (runLog venue iteration timers worker).2 := by
  unfold Live.runLog
  split
  · exact kept.note worker _
  · exact kept.refl worker

/-- Housekeeping keeps the relation. -/
theorem Kept.runHousekeeping
    (kept : Kept venue world snapshots relation)
    (allowed : timers.snapshot.isSome → snapshots) :
    relation worker
      (runHousekeeping venue world iteration timers worker).1.2 := by
  unfold Live.runHousekeeping
  split
  · exact kept.refl worker
  · split
    · exact kept.refl worker
    · dsimp only
      refine kept.trans kept.runLog (kept.runSnapshots ?_)
      rw [runLog_snapshot]
      split <;> exact allowed

/-- How a session goes on after its housekeeping. -/
def goOn
    (venue : Venue Stats Envelope)
    (world : SinkWorld)
    (deadline : Nat)
    (rest : List Iteration) :
    (SessionTimers × Worker Stats Envelope) × Option SessionEnd →
      Worker Stats Envelope × Option SessionEnd
  | ((_, after), some ended) => (after, some ended)
  | ((later, after), none) =>
      runIterations venue world deadline rest later after

/-- A session keeps the relation. -/
theorem Kept.runIterations
    (kept : Kept venue world snapshots relation)
    {deadline : Nat}
    (iterations : List Iteration)
    (allowed : timers.snapshot.isSome → snapshots) :
    relation worker
      (runIterations venue world deadline iterations timers worker).1 := by
  induction iterations generalizing timers worker with
  | nil =>
      exact kept.refl worker
  | cons iteration rest inductionHypothesis =>
      have continued
          (timers : SessionTimers)
          (worker : Worker Stats Envelope)
          (allowed : timers.snapshot.isSome → snapshots) :
          relation worker
            (goOn venue world deadline rest
              (Live.runHousekeeping venue world iteration timers worker)).1 := by
        have checked :=
          @Kept.runHousekeeping _ _ _ _ _ _ iteration timers worker kept
            allowed
        have timer :=
          @runHousekeeping_timer _ _ venue world iteration timers worker
        revert checked timer
        rcases Live.runHousekeeping venue world iteration timers worker with
          ⟨⟨later, after⟩, ended | ended⟩
        · intro checked timer
          refine kept.trans checked (inductionHypothesis ?_)
          intro taking
          exact allowed (timer ▸ taking)
        · intro checked _
          exact checked
      unfold Live.runIterations
      split
      · exact kept.refl worker
      · split
        · exact kept.refl worker
        · dsimp only
          cases pollSession iteration.arrival with
          | tick =>
              exact continued timers worker allowed
          | disconnected reason =>
              dsimp only
              split
              · exact kept.note worker _
              · exact kept.refl worker
          | message message arrivedAt nowMs =>
              have handled := kept.message message nowMs worker
              dsimp only
              revert handled
              rcases handleMessage venue world message nowMs worker with
                ⟨after, failure | done⟩
              · intro handled
                exact handled
              · intro handled
                exact kept.trans handled
                  (continued { timers with lastMessageAt := arrivedAt } after
                    allowed)

end Sessions

section Rounds

variable
  {venue : Venue Stats Envelope}
  {world : SinkWorld}
  {policy : ReconnectPolicy}
  {snapshots : Prop}
  {relation : Worker Stats Envelope → Worker Stats Envelope → Prop}
  {config : SessionConfig}

/-- A session with its new timers keeps the relation. -/
theorem Kept.runSession
    (kept : Kept venue world snapshots relation)
    (allowed : config.snapshotInterval.isSome → snapshots)
    (startedAt : Nat)
    (iterations : List Iteration)
    (worker : Worker Stats Envelope) :
    relation worker
      (runSession venue world config startedAt iterations worker).1 := by
  refine kept.runIterations iterations ?_
  unfold SessionTimers.start
  rw [Option.isSome_map]
  exact allowed

private theorem Kept.finish
    (kept : Kept venue world snapshots relation)
    (watch : Watch Stats Envelope)
    (status : String) :
    relation watch.worker (watch.finish venue status).worker :=
  kept.trans (kept.note _ _) (kept.note _ _)

/-- A run keeps the relation. -/
theorem Kept.watchRounds
    (kept : Kept venue world snapshots relation)
    (allowed : config.snapshotInterval.isSome → snapshots)
    (rounds : List Round)
    (watch : Watch Stats Envelope) :
    relation watch.worker
      (watchRounds venue world policy config rounds watch).1.worker := by
  induction rounds generalizing watch with
  | nil =>
      exact kept.refl _
  | cons round rest inductionHypothesis =>
      have reconnected (watch : Watch Stats Envelope) (reason : String) :
          relation watch.worker
            (Live.watchRounds venue world policy config rest
              (watch.reconnect venue policy reason
                round.nowMs)).1.worker :=
        kept.trans (kept.note _ _)
          (inductionHypothesis
            (watch.reconnect venue policy reason round.nowMs))
      unfold Live.watchRounds
      split
      · exact kept.finish watch _
      · split
        · exact kept.finish watch _
        · cases round.connection with
          | connectFailed =>
              exact reconnected watch _
          | subscribeFailed =>
              exact reconnected watch _
          | opened startedAt iterations =>
              have session :=
                kept.runSession allowed startedAt iterations watch.worker
              dsimp only
              revert session
              rcases
                Live.runSession venue world config startedAt iterations
                  watch.worker with
                ⟨after, ended | ended⟩
              · intro session
                exact session
              · intro session
                cases ended with
                | shutdownRequested =>
                    exact kept.trans session
                      (kept.finish { watch with worker := after } _)
                | deadlineReached =>
                    exact kept.trans session
                      (kept.finish { watch with worker := after } _)
                | disconnected reason =>
                    exact kept.trans session
                      (reconnected { watch with worker := after } reason)

end Rounds

section Logs

variable
  {venue : Venue Stats Envelope}
  {world : SinkWorld}

/-- The statistics changed by the calls that were counted, and no others. -/
def Logged
    (venue : Venue Stats Envelope)
    (before after : Worker Stats Envelope) : Prop :=
  ∃ calls,
    after.counted = before.counted ++ calls ∧
      after.stats = calls.foldl venue.perform before.stats

/-- What counts nothing. -/
theorem Logged.of_eq
    {before after : Worker Stats Envelope}
    (counted : after.counted = before.counted)
    (stats : after.stats = before.stats) :
    Logged venue before after :=
  ⟨[], counted.trans (List.append_nil _).symm, stats⟩

theorem Logged.trans
    {first second third : Worker Stats Envelope}
    (earlier : Logged venue first second)
    (later : Logged venue second third) :
    Logged venue first third := by
  obtain ⟨calls, counted, stats⟩ := earlier
  obtain ⟨others, countedLater, statsLater⟩ := later
  refine ⟨calls ++ others, ?_, ?_⟩
  · rw [countedLater, counted, List.append_assoc]
  · rw [statsLater, stats, List.foldl_append]

/-- What was counted stays counted. -/
theorem Logged.keeps_counted
    {before after : Worker Stats Envelope}
    (logged : Logged venue before after) :
    before.counted <+: after.counted := by
  obtain ⟨calls, counted, -⟩ := logged
  exact ⟨calls, counted.symm⟩

theorem logged_note
    (worker : Worker Stats Envelope)
    (call : StatsCall Envelope) :
    Logged venue worker (worker.note venue call) :=
  ⟨[call], rfl, rfl⟩

private theorem logged_appendAll
    (drafts : List L0Draft)
    (worker : Worker Stats Envelope) :
    Logged venue worker (worker.appendAll world drafts).1 :=
  have frame := Worker.appendAll_frame world drafts worker
  .of_eq frame.2.1 frame.2.2

private theorem logged_recordEnvelopes
    (nowMs : Int)
    (envelopes : List Envelope)
    (worker : Worker Stats Envelope) :
    Logged venue worker
      (recordEnvelopes venue world nowMs envelopes worker).1 := by
  induction envelopes generalizing worker with
  | nil =>
      exact .of_eq rfl rfl
  | cons envelope rest inductionHypothesis =>
      have appended := @logged_appendAll _ _ venue world
        ((venue.drafts envelope nowMs).map .raw) worker
      unfold recordEnvelopes
      revert appended
      rcases
        worker.appendAll world
          ((venue.drafts envelope nowMs).map .raw) with
        ⟨after, failure | done⟩
      · exact id
      · intro appended
        exact (appended.trans (logged_note _ _)).trans
          (inductionHypothesis _)

private theorem logged_recordTextPayload
    (content : String)
    (nowMs : Int)
    (worker : Worker Stats Envelope) :
    Logged venue worker
      (recordTextPayload venue world content nowMs worker).1 := by
  unfold recordTextPayload
  dsimp only
  cases venue.parse content with
  | none =>
      exact (logged_note _ _).trans (logged_note _ _)
  | some envelopes =>
      exact (logged_note _ _).trans (logged_recordEnvelopes nowMs envelopes _)

/-- Handling a message changes the statistics by what it counts. -/
theorem logged_handleMessage
    (message : Message)
    (nowMs : Int)
    (worker : Worker Stats Envelope) :
    Logged venue worker
      (handleMessage venue world message nowMs worker).1 := by
  have taken :
      Logged venue worker (worker.take (.message message nowMs)) :=
    .of_eq rfl rfl
  unfold handleMessage
  dsimp only
  cases message with
  | text content =>
      exact taken.trans (logged_recordTextPayload content nowMs _)
  | binary bytes =>
      dsimp only
      cases String.fromUTF8? bytes with
      | some content =>
          exact taken.trans (logged_recordTextPayload content nowMs _)
      | none =>
          exact taken
  | frame =>
      exact taken
  | _ => exact taken.trans (logged_note _ _)

/-- The statistics of a run are those of its counted calls. -/
theorem kept_logged (snapshots : Prop) :
    Kept venue world snapshots (Logged venue) where
  refl worker := .of_eq rfl rfl
  trans := Logged.trans
  note := logged_note
  message message nowMs worker := by
    have handled :=
      @logged_handleMessage _ _ venue world message nowMs worker
    unfold afterMessage
    revert handled
    rcases handleMessage venue world message nowMs worker with
      ⟨after, failure | done⟩
    · intro handled
      dsimp only
      split
      · exact handled.trans (logged_note _ _)
      · exact handled
    · exact id
  snapshot _ batch worker := by
    unfold appendAndFlushSnapshots Worker.appendDrafts
    cases worker.storage with
    | none =>
        exact .of_eq rfl rfl
    | some sink =>
        have appended := @logged_appendAll _ _ venue world
          (batch.drafts.map .raw)
          (worker.take (.drafts (batch.drafts.map .raw)))
        dsimp only
        revert appended
        rcases
          (worker.take (.drafts (batch.drafts.map .raw))).appendAll world
            (batch.drafts.map .raw) with
          ⟨after, failure | done⟩
        · exact id
        · intro appended
          dsimp only
          split
          · have frame := Worker.flushAll_frame world after
            exact appended.trans (.of_eq frame.2.1 frame.2.2)
          · exact appended

end Logs

section Messages

variable
  {venue : Venue Stats Envelope}
  {world : SinkWorld}

/-- Between the two states, the worker took messages and nothing else. -/
def TakesMessages (before after : Worker Stats Envelope) : Prop :=
  ∃ arrivals : List (Message × Int),
    after.taken =
      before.taken ++ arrivals.map fun arrival =>
        .message arrival.1 arrival.2

/-- A run without snapshots takes only messages. -/
theorem kept_takesMessages :
    Kept venue world False
      (TakesMessages : Worker Stats Envelope → _ → Prop) where
  refl worker := ⟨[], (List.append_nil _).symm⟩
  trans := by
    rintro first second third ⟨arrivals, taken⟩ ⟨others, takenLater⟩
    refine ⟨arrivals ++ others, ?_⟩
    rw [takenLater, taken, List.map_append, List.append_assoc]
  note worker call := ⟨[], (List.append_nil _).symm⟩
  snapshot := nofun
  message message nowMs worker := by
    have taken := handleMessage_taken venue world message nowMs worker
    refine ⟨[(message, nowMs)], ?_⟩
    unfold afterMessage
    revert taken
    rcases handleMessage venue world message nowMs worker with
      ⟨after, failure | done⟩
    · intro taken
      dsimp only
      split <;> exact taken
    · exact id

end Messages

end MarketIngest.Live
