import MarketIngest.BootstrapNormalize
import MarketIngest.ProcessTable
import MarketIngest.Runs
import MarketIngest.SupervisorCommandLine

namespace MarketIngest.Supervisor

open S3 ProcessTable

/-!
# The supervisor and its processes

The supervisor waits for whatever comes first of a realtime worker that exits,
a normalize worker that exits, a bootstrap scheduler that ends, and a shutdown.
The scheduler is a task beside it and has processes of its own.  Both share the
flag that a shutdown was requested, and the scheduler reads markers in a bucket
that others change as well.

An event is one step of one of them, or of what is around them, and a run is any
order of events.  An event that is not possible in a state changes nothing.
-/

/-- What a process of the supervisor is for. -/
inductive Role where
  | realtime (venue : String)
  | livePriorityNormalize
  | normalize
  | backfill (chunk : BootstrapChunk)
  | normalizeBackfill (subchunk : BootstrapChunk)
  deriving Repr, DecidableEq

/-- How the scheduler ends. -/
inductive SchedulerEnd where
  | done
  | failed
  | panicked
  deriving Repr, DecidableEq

/-- Where the scheduler stands. -/
inductive Scheduler where
  | starting
  | head
  | scanning (rest : List BootstrapChunk)
  | l0Lookup (chunk : BootstrapChunk)
  | backfilling (chunk : BootstrapChunk) (child : Nat)
  | l0Marking (chunk : BootstrapChunk)
  | subchunks (chunk : BootstrapChunk) (rest : List BootstrapChunk)
  | normalizing
      (chunk : BootstrapChunk)
      (rest : List BootstrapChunk)
      (child : Nat)
  | completing (chunk : BootstrapChunk)
  | sleeping
  | waiting
  | finished (result : SchedulerEnd)
  | aborted
  deriving Repr, DecidableEq

/-- The process that the scheduler waits for. -/
def Scheduler.child : Scheduler → Option Nat
  | .backfilling _ child => some child
  | .normalizing _ _ child => some child
  | _ => none

/-- Where the supervisor stands; the flag is that it returned success. -/
inductive Main where
  | selecting
  | restartingNormalize
  | restartingScheduler
  | returned (success : Bool)
  deriving Repr, DecidableEq

/-- The supervisor, its scheduler and what is around them. -/
structure State where
  table : Table Role
  realtime : List Nat
  normalize : Option Nat
  bootstrapActive : Bool
  shutdownRequested : Bool
  signalTaskFinished : Bool
  main : Main
  scheduler : Scheduler
  abortRequested : Bool
  bucket : Bucket
  nowMs : Int
  begun : List BootstrapChunk

/-- What a step of the scheduler meets. -/
structure Outcome where
  callFails : Bool
  spawnFails : Bool
  exitSuccess : Bool
  put : PutOutcome

/-- What happens next. -/
inductive Event where
  | signal
  | signalTaskFinishes
  | exits (id : Nat)
  | bucketChanges (bucket : Bucket)
  | clockShows (nowMs : Int)
  | schedulerSteps (outcome : Outcome)
  | schedulerPanics
  | schedulerDropped
  | realtimeReady (fails : Bool)
  | normalizeReady (fails : Bool)
  | normalizeRestarts (spawnFails : Bool)
  | schedulerReady (logFails spawnFails : Bool)
  | schedulerRestarts
  | shutdownReady (logFails : Bool)

namespace State

/-- The processes that the supervisor itself holds. -/
def held (state : State) : List Nat :=
  state.realtime ++ state.normalize.toList

/-- Return; the processes that are held are killed as they are dropped. -/
def returnWith (state : State) (success : Bool) : State :=
  { state with
    table := state.table.stopAll state.held
    main := .returned success }

/-- Start a process and give it its number. -/
def spawnNormalize (state : State) (role : Role) : State :=
  { state with
    table := state.table.spawn role
    normalize := some state.table.length }

/-- Leave the scheduler, which drops the process it waits for. -/
def endScheduler (state : State) (scheduler : Scheduler) : State :=
  { state with
    table := state.table.stopAll state.scheduler.child.toList
    scheduler := scheduler }

end State

section Steps

variable (args : ParsedArgs)

/-- The role of a normalize worker in a phase. -/
def normalizeRole (bootstrapActive : Bool) : Role :=
  if bootstrapActive then .livePriorityNormalize else .normalize

/-- Start one realtime worker for each venue. -/
def spawnRealtimeChildren (table : Table Role) : List String → Table Role
  | [] => table
  | venue :: rest =>
      spawnRealtimeChildren (table.spawn (.realtime venue)) rest

/-- The state after all processes were started. -/
def initial (bucket : Bucket) (nowMs : Int) : State where
  table :=
    (spawnRealtimeChildren [] args.realtimeVenues).spawn
      (normalizeRole args.bootstrapEnabled)
  realtime := List.range args.realtimeVenues.length
  normalize := some args.realtimeVenues.length
  bootstrapActive := args.bootstrapEnabled
  shutdownRequested := false
  signalTaskFinished := false
  main := .selecting
  scheduler := .starting
  abortRequested := false
  bucket := bucket
  nowMs := nowMs
  begun := []

/-- The chunks of the history at a time. -/
def chunksAt (nowMs : Int) : List BootstrapChunk :=
  args.bootstrapArgs.chunks nowMs

/-- The subchunks that a chunk is normalized in. -/
def subchunksOf (chunk : BootstrapChunk) : List BootstrapChunk :=
  normalizeSubchunks args.bootstrapArgs.toSupervisorArgs chunk

/-- Start a process that the scheduler waits for. -/
def State.spawnFor
    (state : State)
    (outcome : Outcome)
    (role : Role)
    (next : Nat → Scheduler) : State :=
  if outcome.spawnFails then
    state.endScheduler (.finished .failed)
  else
    { state with
      table := state.table.spawn role
      scheduler := next state.table.length }

/-- Wait for a process; a shutdown kills it, which ends the chunk. -/
def State.waitFor
    (state : State)
    (outcome : Outcome)
    (child : Nat)
    (next : Scheduler) : State :=
  if state.shutdownRequested then
    state.endScheduler .sleeping
  else if outcome.callFails then
    state.endScheduler (.finished .failed)
  else if state.table.isRunning child then
    state
  else if outcome.exitSuccess then
    { state with scheduler := next }
  else
    { state with scheduler := .sleeping }

/-- Write a marker. -/
def State.mark
    (state : State)
    (outcome : Outcome)
    (key : String)
    (document : JsonDocument)
    (next : Scheduler) : State :=
  let (bucket, acknowledged) :=
    uploadJson state.bucket key document outcome.put
  { state with
    bucket := bucket
    scheduler := if acknowledged then next else .finished .failed }

/-- One step of the scheduler. -/
def schedulerStep (state : State) (outcome : Outcome) : State :=
  match state.scheduler with
  | .starting =>
      if outcome.callFails then
        { state with scheduler := .finished .failed }
      else if args.bootstrapEnabled then
        { state with scheduler := .head }
      else
        { state with scheduler := .waiting }
  | .head =>
      if state.shutdownRequested then
        { state with scheduler := .finished .done }
      else
        { state with scheduler := .scanning (chunksAt args state.nowMs) }
  | .scanning [] =>
      if outcome.callFails then
        { state with scheduler := .finished .failed }
      else
        { state with scheduler := .finished .done }
  | .scanning (chunk :: rest) =>
      if outcome.callFails then
        { state with scheduler := .finished .failed }
      else if hasComplete state.bucket chunk then
        { state with scheduler := .scanning rest }
      else
        { state with
          scheduler := .l0Lookup chunk
          begun := state.begun ++ [chunk] }
  | .l0Lookup chunk =>
      if outcome.callFails then
        { state with scheduler := .finished .failed }
      else if hasL0Success state.bucket chunk then
        { state with
          scheduler := .subchunks chunk (subchunksOf args chunk) }
      else
        state.spawnFor outcome (.backfill chunk) (.backfilling chunk)
  | .backfilling chunk child =>
      state.waitFor outcome child (.l0Marking chunk)
  | .l0Marking chunk =>
      state.mark outcome (l0MarkerKey chunk) (l0MarkerJson chunk state.nowMs)
        (.subchunks chunk (subchunksOf args chunk))
  | .subchunks chunk [] =>
      { state with scheduler := .completing chunk }
  | .subchunks chunk (subchunk :: rest) =>
      if outcome.callFails then
        { state with scheduler := .finished .failed }
      else if hasL1Success state.bucket subchunk then
        { state with scheduler := .subchunks chunk rest }
      else
        state.spawnFor outcome (.normalizeBackfill subchunk)
          (.normalizing chunk rest)
  | .normalizing chunk rest child =>
      state.waitFor outcome child (.subchunks chunk rest)
  | .completing chunk =>
      state.mark outcome (completeMarkerKey chunk)
        (completeMarkerJson chunk state.nowMs)
        (if outcome.callFails then .finished .failed else .sleeping)
  | .sleeping => { state with scheduler := .head }
  | .waiting =>
      if state.shutdownRequested then
        { state with scheduler := .finished .done }
      else
        state
  | .finished _ => state
  | .aborted => state

/-- The scheduler has ended, or it is gone. -/
def Scheduler.isOver : Scheduler → Bool
  | .finished _ => true
  | .aborted => true
  | _ => false

/-- A realtime worker exited, or waiting for it failed. -/
def realtimeReady (state : State) (fails : Bool) : State :=
  if fails then
    state.returnWith false
  else if state.realtime.all state.table.isRunning then
    state
  else
    { state with
      shutdownRequested := true
      abortRequested := true }.returnWith false

/-- The normalize worker exited, or waiting for it or the log failed. -/
def normalizeReady (state : State) (fails : Bool) : State :=
  match state.normalize with
  | none => state
  | some child =>
      if fails then
        state.returnWith false
      else if state.table.isRunning child then
        state
      else if state.shutdownRequested then
        { state with abortRequested := true }.returnWith true
      else
        { state with main := .restartingNormalize }

/-- After the delay a normalize worker is started again. -/
def normalizeRestarts (state : State) (spawnFails : Bool) : State :=
  if spawnFails then
    state.returnWith false
  else
    { state.spawnNormalize (normalizeRole state.bootstrapActive) with
      main := .selecting }

/-- The scheduler ended. -/
def schedulerReady (state : State) (logFails spawnFails : Bool) : State :=
  match state.scheduler with
  | .finished result =>
      if state.shutdownRequested then
        state.returnWith true
      else
        match result with
        | .done =>
            let after :=
              { state with
                bootstrapActive := false
                table := state.table.stopAll state.normalize.toList }
            if logFails || spawnFails then
              after.returnWith false
            else
              { after.spawnNormalize .normalize with scheduler := .waiting }
        | _ =>
            if logFails then
              state.returnWith false
            else
              { state with main := .restartingScheduler }
  | _ => state

/-- The task that waits for a signal has ended. -/
def shutdownReady (state : State) (logFails : Bool) : State :=
  if logFails then
    { state with shutdownRequested := true }.returnWith false
  else
    { state with
      shutdownRequested := true
      abortRequested := true }.returnWith true

/-- What an event does. -/
def perform (state : State) (event : Event) : State :=
  match event with
  | .signal => { state with shutdownRequested := true }
  | .signalTaskFinishes =>
      { state with signalTaskFinished := state.shutdownRequested }
  | .exits id => { state with table := state.table.stop id }
  | .bucketChanges bucket => { state with bucket := bucket }
  | .clockShows nowMs => { state with nowMs := nowMs }
  | .schedulerSteps outcome => schedulerStep args state outcome
  | .schedulerPanics =>
      if state.scheduler.isOver then state
      else state.endScheduler (.finished .panicked)
  | .schedulerDropped =>
      if state.abortRequested && !state.scheduler.isOver then
        state.endScheduler .aborted
      else
        state
  | .realtimeReady fails =>
      if state.main = .selecting then realtimeReady state fails else state
  | .normalizeReady fails =>
      if state.main = .selecting then normalizeReady state fails else state
  | .normalizeRestarts spawnFails =>
      if state.main = .restartingNormalize then
        normalizeRestarts state spawnFails
      else
        state
  | .schedulerReady logFails spawnFails =>
      if state.main = .selecting then
        schedulerReady state logFails spawnFails
      else
        state
  | .schedulerRestarts =>
      if state.main = .restartingScheduler then
        { state with main := .selecting, scheduler := .starting }
      else
        state
  | .shutdownReady logFails =>
      if state.main = .selecting ∧ state.signalTaskFinished = true then
        shutdownReady state logFails
      else
        state

/-- The state after some events. -/
def stateAfter (bucket : Bucket) (nowMs : Int) (events : List Event) : State :=
  Runs.run (perform args) (initial args bucket nowMs) events

end Steps

end MarketIngest.Supervisor
