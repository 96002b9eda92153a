import MarketIngest.ModeDecision
import MarketIngest.PointerDiscovery

namespace MarketIngest.Normalize

open S3

/-!
# One tick of the normalize worker

A tick looks the frontier up, runs the newest window first if live priority
selects it, and then runs the next sequential windows until nothing is ready,
the bound on windows is reached, or shutdown is requested.  Between windows the
tick keeps two cursors in memory, the end of the last success and the oldest L0
object.  Both are lost at the end of the tick.
-/

/-- What the surroundings of one tick decide. -/
structure DrainTick where
  clock : WallClock
  faults : LookupFaults
  oldestL0ObjectMs : Option Int
  shutdownBefore : Nat → Bool
  shutdownAfter : Nat → Bool
  outcomes : Nat → RunOutcome

/-- What a tick does with a window. -/
inductive DrainEvent where
  | live (range : InputRange) (status : BuildStatus)
  | sequential (range : InputRange) (status : BuildStatus)
  | duplicateSkipped (range : InputRange)
  deriving Repr, DecidableEq

/-- The window of an event. -/
def DrainEvent.range : DrainEvent → InputRange
  | .live range _ => range
  | .sequential range _ => range
  | .duplicateSkipped range => range

/-- The range and the status of the run of an event. -/
def DrainEvent.ran? : DrainEvent → Option (InputRange × BuildStatus)
  | .live range status => some (range, status)
  | .sequential range status => some (range, status)
  | .duplicateSkipped _ => none

/-- Why a tick ends. -/
inductive DrainExit where
  | livePriorityOnly
  | shutdown
  | maxWindowsReached
  | notReady
  | failed
  deriving Repr, DecidableEq

/-- The variables of a tick. -/
structure DrainState where
  bucket : Bucket
  events : List DrainEvent
  nowMs : Int
  lastL1SuccessEndMs : Option Int
  oldestL0ObjectMs : Option Int
  processedWindows : Nat
  livePriorityCompletedRange : Option InputRange

/-- The clock after a number of windows; two readings precede the first. -/
def DrainTick.nowAfter (tick : DrainTick) (processedWindows : Nat) : Int :=
  tick.clock.nowMs (processedWindows + 1)

/-- The frontier that the tick looks up. -/
def DrainTick.resolved
    (tick : DrainTick)
    (args : NormalizeArgs)
    (bucket : Bucket) : Option Int :=
  resolveL1SuccessEndMsOrWarn tick.faults bucket args.windowMs
    (tick.clock.nowMs 1)

/-- The state in which a tick begins. -/
def startDrain
    (args : NormalizeArgs)
    (tick : DrainTick)
    (bucket : Bucket) : DrainState :=
  let (last, oldest) :=
    resolveInitialL0L1State (tick.resolved args bucket)
      tick.oldestL0ObjectMs
  { bucket := bucket
    events := []
    nowMs := tick.clock.nowMs 0
    lastL1SuccessEndMs := last
    oldestL0ObjectMs := oldest
    processedWindows := 0
    livePriorityCompletedRange := none }

/-- A window was completed sequentially. -/
def DrainState.advance
    (state : DrainState)
    (tick : DrainTick)
    (completedEndMs : Int)
    (event : DrainEvent)
    (bucket : Bucket) : DrainState :=
  { state with
    bucket := bucket
    events := state.events ++ [event]
    nowMs := tick.nowAfter (state.processedWindows + 1)
    lastL1SuccessEndMs := some completedEndMs
    oldestL0ObjectMs := none
    processedWindows := state.processedWindows + 1 }

/-- A run was started and did not return. -/
def DrainState.abandon
    (state : DrainState)
    (event : DrainEvent)
    (bucket : Bucket) : DrainState :=
  { state with
    bucket := bucket
    events := state.events ++ [event] }

/-- The newest window was completed ahead of its turn. -/
def DrainState.completeLive
    (state : DrainState)
    (tick : DrainTick)
    (range : InputRange)
    (event : DrainEvent)
    (bucket : Bucket) : DrainState :=
  { state with
    bucket := bucket
    events := state.events ++ [event]
    nowMs := tick.nowAfter (state.processedWindows + 1)
    lastL1SuccessEndMs :=
      if state.lastL1SuccessEndMs = some range.startMs then
        some range.endMs
      else
        state.lastL1SuccessEndMs
    oldestL0ObjectMs := none
    processedWindows := state.processedWindows + 1
    livePriorityCompletedRange := some range }

/-- Run the newest window if live priority selects it. -/
def runLivePriorityDecision
    (args : NormalizeArgs)
    (tick : DrainTick)
    (state : DrainState) : DrainState × Option DrainExit :=
  match decideLivePriorityMode args state.nowMs
      state.lastL1SuccessEndMs with
  | .error _ => (state, some .failed)
  | .ok none => (state, none)
  | .ok (some decision) =>
      let outcome := tick.outcomes state.processedWindows
      let event := DrainEvent.live decision.inputRange outcome.build.status
      match runDecision args decision state.nowMs outcome state.bucket with
      | (after, .error _) => (state.abandon event after, some .failed)
      | (after, .ok ()) =>
          (state.completeLive tick decision.inputRange event after, none)

/-- Run the next sequential window, or skip it if it was run as the newest. -/
def runNextReadyDecision
    (args : NormalizeArgs)
    (tick : DrainTick)
    (state : DrainState) : DrainState × Option DrainExit :=
  match decideMode args state.nowMs state.lastL1SuccessEndMs
      state.oldestL0ObjectMs with
  | .error _ => (state, some .failed)
  | .ok none => (state, some .notReady)
  | .ok (some decision) =>
      if state.livePriorityCompletedRange = some decision.inputRange then
        (state.advance tick decision.inputRange.endMs
          (.duplicateSkipped decision.inputRange) state.bucket, none)
      else
        let outcome := tick.outcomes state.processedWindows
        let event :=
          DrainEvent.sequential decision.inputRange outcome.build.status
        match runDecision args decision state.nowMs outcome
            state.bucket with
        | (after, .error _) => (state.abandon event after, some .failed)
        | (after, .ok ()) =>
            (state.advance tick decision.inputRange.endMs event after,
              none)

/-- One round of the loop, while the bound on windows is not reached. -/
def drainIteration
    (args : NormalizeArgs)
    (tick : DrainTick)
    (state : DrainState) : DrainState × Option DrainExit :=
  if tick.shutdownBefore state.processedWindows then
    (state, some .shutdown)
  else
    match runNextReadyDecision args tick state with
    | (after, some exit) => (after, some exit)
    | (after, none) =>
        if tick.shutdownAfter after.processedWindows then
          (after, some .shutdown)
        else
          (after, none)

/-- The loop of a tick, for the windows that remain up to the bound. -/
def drainLoop
    (args : NormalizeArgs)
    (tick : DrainTick) :
    Nat → DrainState → DrainState × DrainExit
  | 0, state =>
      (state,
        if tick.shutdownBefore state.processedWindows then
          .shutdown
        else
          .maxWindowsReached)
  | remaining + 1, state =>
      match drainIteration args tick state with
      | (after, some exit) => (after, exit)
      | (after, none) => drainLoop args tick remaining after

/-- One tick. -/
def drainReadyWindows
    (args : NormalizeArgs)
    (tick : DrainTick)
    (bucket : Bucket) : DrainState × DrainExit :=
  match runLivePriorityDecision args tick
      (startDrain args tick bucket) with
  | (state, some exit) => (state, exit)
  | (state, none) =>
      if args.livePriorityOnly then
        (state, .livePriorityOnly)
      else
        drainLoop args tick
          (args.maxWindowsPerTick - state.processedWindows) state

section Advance

variable
  {state : DrainState}
  {tick : DrainTick}
  {completedEndMs : Int}
  {range : InputRange}
  {event : DrainEvent}
  {bucket : Bucket}

@[simp] theorem advance_bucket :
    (state.advance tick completedEndMs event bucket).bucket = bucket :=
  rfl

@[simp] theorem advance_events :
    (state.advance tick completedEndMs event bucket).events =
      state.events ++ [event] :=
  rfl

@[simp] theorem advance_nowMs :
    (state.advance tick completedEndMs event bucket).nowMs =
      tick.nowAfter (state.processedWindows + 1) :=
  rfl

@[simp] theorem advance_last :
    (state.advance tick completedEndMs event
      bucket).lastL1SuccessEndMs = some completedEndMs :=
  rfl

@[simp] theorem advance_processed :
    (state.advance tick completedEndMs event
      bucket).processedWindows = state.processedWindows + 1 :=
  rfl

@[simp] theorem advance_live :
    (state.advance tick completedEndMs event
        bucket).livePriorityCompletedRange =
      state.livePriorityCompletedRange :=
  rfl

@[simp] theorem abandon_bucket :
    (state.abandon event bucket).bucket = bucket :=
  rfl

@[simp] theorem abandon_events :
    (state.abandon event bucket).events = state.events ++ [event] :=
  rfl

@[simp] theorem completeLive_bucket :
    (state.completeLive tick range event bucket).bucket = bucket :=
  rfl

@[simp] theorem completeLive_events :
    (state.completeLive tick range event bucket).events =
      state.events ++ [event] :=
  rfl

end Advance

section Start

variable
  {args : NormalizeArgs}
  {tick : DrainTick}
  {bucket : Bucket}

@[simp] theorem startDrain_bucket :
    (startDrain args tick bucket).bucket = bucket :=
  rfl

@[simp] theorem startDrain_events :
    (startDrain args tick bucket).events = [] :=
  rfl

@[simp] theorem startDrain_nowMs :
    (startDrain args tick bucket).nowMs = tick.clock.nowMs 0 :=
  rfl

@[simp] theorem startDrain_last :
    (startDrain args tick bucket).lastL1SuccessEndMs =
      tick.resolved args bucket := by
  simp only [startDrain, resolveInitialL0L1State]

@[simp] theorem startDrain_processed :
    (startDrain args tick bucket).processedWindows = 0 :=
  rfl

end Start

section Iterations

variable
  {args : NormalizeArgs}
  {tick : DrainTick}
  {state after : DrainState}
  {exit : Option DrainExit}

/-- What one round of the loop can do to the state. -/
inductive DrainStep
    (args : NormalizeArgs)
    (tick : DrainTick)
    (state : DrainState) :
    DrainState → Prop where
  | stop : DrainStep args tick state state
  | skip
      (decision : RunDecision)
      (decided :
        decideMode args state.nowMs state.lastL1SuccessEndMs
          state.oldestL0ObjectMs = .ok (some decision))
      (duplicate :
        state.livePriorityCompletedRange = some decision.inputRange) :
      DrainStep args tick state
        (state.advance tick decision.inputRange.endMs
          (.duplicateSkipped decision.inputRange) state.bucket)
  | ran
      (decision : RunDecision)
      (decided :
        decideMode args state.nowMs state.lastL1SuccessEndMs
          state.oldestL0ObjectMs = .ok (some decision))
      (fresh :
        state.livePriorityCompletedRange ≠ some decision.inputRange)
      (returned :
        (runDecision args decision state.nowMs
          (tick.outcomes state.processedWindows)
          state.bucket).2 = .ok ()) :
      DrainStep args tick state
        (state.advance tick decision.inputRange.endMs
          (.sequential decision.inputRange
            (tick.outcomes state.processedWindows).build.status)
          (runDecision args decision state.nowMs
            (tick.outcomes state.processedWindows) state.bucket).1)
  | abandoned
      (decision : RunDecision)
      (decided :
        decideMode args state.nowMs state.lastL1SuccessEndMs
          state.oldestL0ObjectMs = .ok (some decision))
      (failed :
        (runDecision args decision state.nowMs
          (tick.outcomes state.processedWindows)
          state.bucket).2 ≠ .ok ()) :
      DrainStep args tick state
        (state.abandon
          (.sequential decision.inputRange
            (tick.outcomes state.processedWindows).build.status)
          (runDecision args decision state.nowMs
            (tick.outcomes state.processedWindows) state.bucket).1)

/-- A selected newest window is run ahead of its turn. -/
theorem runLivePriorityDecision_of_returned
    {decision : RunDecision}
    (decided :
      decideLivePriorityMode args state.nowMs state.lastL1SuccessEndMs =
        .ok (some decision))
    (returned :
      (runDecision args decision state.nowMs
        (tick.outcomes state.processedWindows) state.bucket).2 = .ok ()) :
    runLivePriorityDecision args tick state =
      (state.completeLive tick decision.inputRange
        (.live decision.inputRange
          (tick.outcomes state.processedWindows).build.status)
        (runDecision args decision state.nowMs
          (tick.outcomes state.processedWindows) state.bucket).1,
        none) := by
  simp only [runLivePriorityDecision, decided]
  rcases run :
      runDecision args decision state.nowMs
        (tick.outcomes state.processedWindows) state.bucket with
    ⟨bucket, result⟩
  have ok : result = .ok () := by
    rw [run] at returned
    exact returned
  rw [ok]

/-- A selected window that is not a duplicate is run. -/
theorem runNextReadyDecision_of_returned
    {decision : RunDecision}
    (decided :
      decideMode args state.nowMs state.lastL1SuccessEndMs
        state.oldestL0ObjectMs = .ok (some decision))
    (fresh :
      state.livePriorityCompletedRange ≠ some decision.inputRange)
    (returned :
      (runDecision args decision state.nowMs
        (tick.outcomes state.processedWindows) state.bucket).2 = .ok ()) :
    runNextReadyDecision args tick state =
      (state.advance tick decision.inputRange.endMs
        (.sequential decision.inputRange
          (tick.outcomes state.processedWindows).build.status)
        (runDecision args decision state.nowMs
          (tick.outcomes state.processedWindows) state.bucket).1,
        none) := by
  simp only [runNextReadyDecision, decided, if_neg fresh]
  rcases run :
      runDecision args decision state.nowMs
        (tick.outcomes state.processedWindows) state.bucket with
    ⟨bucket, result⟩
  have ok : result = .ok () := by
    rw [run] at returned
    exact returned
  rw [ok]

/-- Running the next window is a step. -/
theorem runNextReadyDecision_step
    (args : NormalizeArgs)
    (tick : DrainTick)
    (state : DrainState) :
    DrainStep args tick state
      (runNextReadyDecision args tick state).1 := by
  unfold runNextReadyDecision
  split
  · exact .stop
  · exact .stop
  · rename_i decision decided
    split
    · rename_i duplicate
      exact .skip decision decided duplicate
    · rename_i fresh
      rcases run :
          runDecision args decision state.nowMs
            (tick.outcomes state.processedWindows) state.bucket with
        ⟨bucket, result⟩
      have first := congrArg Prod.fst run
      have second := congrArg Prod.snd run
      simp only at first second
      cases result with
      | error failure =>
          have step :=
            DrainStep.abandoned decision decided
              (by rw [second]; simp)
          rw [first] at step
          simpa only [run] using step
      | ok =>
          have step := DrainStep.ran decision decided fresh second
          rw [first] at step
          simpa only [run] using step

/-- A round that is not shut down does what running the next window does. -/
theorem drainIteration_of_continues
    (next : runNextReadyDecision args tick state = (after, none))
    (before : tick.shutdownBefore state.processedWindows = false)
    (behind : tick.shutdownAfter after.processedWindows = false) :
    drainIteration args tick state = (after, none) := by
  simp [drainIteration, next, before, behind]

/-- One round of the loop is a step. -/
theorem drainIteration_step
    (args : NormalizeArgs)
    (tick : DrainTick)
    (state : DrainState) :
    DrainStep args tick state (drainIteration args tick state).1 := by
  have next := runNextReadyDecision_step args tick state
  unfold drainIteration
  split_ifs
  · exact .stop
  · split
    · rename_i run
      rw [run] at next
      exact next
    · rename_i run
      rw [run] at next
      split_ifs <;> exact next

/--
What every step preserves, the loop preserves.  The property may count the
windows that remain.
-/
theorem drainLoop_preserves
    {property : Nat → DrainState → Prop}
    (preserved :
      ∀ {remaining state after},
        property (remaining + 1) state →
        DrainStep args tick state after →
        property remaining after)
    {remaining : Nat}
    (initially : property remaining state) :
    ∃ left, property left (drainLoop args tick remaining state).1 := by
  induction remaining generalizing state with
  | zero =>
      exact ⟨0, initially⟩
  | succ remaining inductionHypothesis =>
      have next :=
        preserved initially (drainIteration_step args tick state)
      simp only [drainLoop]
      split
      · rename_i iteration
        rw [iteration] at next
        exact ⟨remaining, next⟩
      · rename_i iteration
        rw [iteration] at next
        exact inductionHypothesis next

/-- Without live priority, a tick is its loop, if it is not a live tick. -/
theorem drainReadyWindows_sequential
    (noLive : args.livePriority = false)
    (tick : DrainTick)
    (bucket : Bucket) :
    drainReadyWindows args tick bucket =
      if args.livePriorityOnly then
        (startDrain args tick bucket, .livePriorityOnly)
      else
        drainLoop args tick args.maxWindowsPerTick
          (startDrain args tick bucket) := by
  have noDecision :
      runLivePriorityDecision args tick (startDrain args tick bucket) =
        (startDrain args tick bucket, none) := by
    unfold runLivePriorityDecision
    rw [decideLivePriorityMode_disabled noLive]
  unfold drainReadyWindows
  rw [noDecision]
  rfl

end Iterations

section Histories

/-- A tick of one of the workers, with its own bounds. -/
structure WorkerTick where
  livePriorityOnly : Bool
  maxWindowsPerTick : PositiveUsize
  drain : DrainTick

/-- The arguments of the worker that makes the tick. -/
def WorkerTick.args
    (workerTick : WorkerTick)
    (args : NormalizeArgs) : NormalizeArgs :=
  { args with
    livePriorityOnly := workerTick.livePriorityOnly
    maxWindowsPerTick := workerTick.maxWindowsPerTick }

/-- The L1 bucket and everything that ticks have done so far. -/
structure WorkerHistory where
  bucket : Bucket
  log : List DrainEvent

/-- No tick was made. -/
def WorkerHistory.start : WorkerHistory where
  bucket := .empty
  log := []

/-- Make one tick. -/
def stepTick
    (args : NormalizeArgs)
    (history : WorkerHistory)
    (workerTick : WorkerTick) : WorkerHistory :=
  let drained :=
    (drainReadyWindows (workerTick.args args) workerTick.drain
      history.bucket).1
  { bucket := drained.bucket
    log := history.log ++ drained.events }

end Histories

section Samples

/-- A worker whose windows and schedule are one minute. -/
def minuteArgs : NormalizeArgs :=
  { namedBucketArgs with
    scheduleIntervalMs := ⟨60000, by decide⟩
    windowMs := ⟨60000, by decide⟩ }

/-- A clock that stands still. -/
def steadyClock
    (nowMs : Int)
    (nonneg : 0 ≤ nowMs)
    (representable : nowMs ≤ i64Max) : WallClock where
  nowMs := fun _ => nowMs
  nonneg := fun _ => nonneg
  le_i64Max := fun _ => representable
  nondecreasing := fun _ => le_refl nowMs

/-- A tick ten minutes after the oldest L0 object that nothing disturbs. -/
def quietTick (builds : Nat → BuildResult) : DrainTick where
  clock := steadyClock 600000 (by decide) (by decide)
  faults := .none
  oldestL0ObjectMs := some 0
  shutdownBefore := fun _ => false
  shutdownAfter := fun _ => false
  outcomes := fun index => .undisturbed (builds index)

end Samples

end MarketIngest.Normalize
