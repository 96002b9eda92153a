import MarketIngest.BlockedWindows

namespace MarketIngest.Normalize

open S3

/-!
# Backlog windows and live priority

Live priority runs the newest window ahead of the sequential frontier.  Inside
the tick the frontier stays behind it, but the pointer of the newest window is
what the next tick resumes from.  Ticks that fill the gap before they end skip
no window of the backlog.
-/

/-- The window at a start was run. -/
def RanWindow
    (interval : Int)
    (log : List DrainEvent)
    (startMs : Int) : Prop :=
  ∃ event ∈ log,
    ∃ status, event.ran? = some (⟨startMs, startMs + interval⟩, status)

/-- Every aligned window between a floor and an end was run. -/
def FilledTo
    (interval floorMs : Int)
    (log : List DrainEvent)
    (endMs : Int) : Prop :=
  ∀ startMs,
    interval ∣ startMs →
    floorMs ≤ startMs →
    startMs < endMs →
    RanWindow interval log startMs

/-- The sequential path selected the window of the event. -/
def DrainEvent.isSequential : DrainEvent → Bool
  | .live _ _ => false
  | .sequential _ _ => true
  | .duplicateSkipped _ => true

/-- Whatever the sequential path selects, all earlier windows were run before. -/
def SelectedInOrder
    (interval floorMs : Int)
    (log : List DrainEvent) : Prop :=
  ∀ before event after,
    log = before ++ event :: after →
    event.isSequential = true →
    FilledTo interval floorMs before event.range.startMs

/--
No window from the oldest L0 object on is skipped: neither by what the
sequential path has selected, nor by the frontier that successful pointers show.
-/
structure NoBacklogSkipped
    (args : NormalizeArgs)
    (oldestL0ObjectMs : Int)
    (history : WorkerHistory) : Prop where
  selected :
    SelectedInOrder args.scheduleIntervalMs
      (alignFloor oldestL0ObjectMs args.scheduleIntervalMs) history.log
  frontier :
    ∀ pointer,
      SuccessStored history.bucket args.windowMs pointer →
      FilledTo args.scheduleIntervalMs
        (alignFloor oldestL0ObjectMs args.scheduleIntervalMs) history.log
        pointer.inputRange.endMs

/-- The number of windows between the frontier and the newest window. -/
def gapWindows (args : NormalizeArgs) (frontierMs startMs : Int) : Nat :=
  ((startMs - frontierMs) / args.scheduleIntervalMs).toNat

/--
The tick reaches the newest window: its bound leaves room for the windows before
it, and shutdown is requested only after them.
-/
structure FillsGap
    (args : NormalizeArgs)
    (tick : DrainTick)
    (windows : Nat) : Prop where
  full : args.livePriorityOnly = false
  room : windows < args.maxWindowsPerTick.1
  before :
    ∀ processed,
      1 ≤ processed →
      processed ≤ windows →
      tick.shutdownBefore processed = false
  behind :
    ∀ processed,
      1 < processed →
      processed ≤ windows →
      tick.shutdownAfter processed = false

/--
A newest window that live priority selects is at the frontier, or the tick fills
the gap before it.  Without a frontier it is at the oldest L0 object.
-/
structure LeavesNoGap
    (args : NormalizeArgs)
    (oldestL0ObjectMs : Int)
    (tick : DrainTick)
    (bucket : Bucket) : Prop where
  unresolved :
    ∀ decision,
      decideLivePriorityMode args (tick.clock.nowMs 0)
          (tick.resolved args bucket) = .ok (some decision) →
      tick.resolved args bucket = none →
      decision.inputRange.startMs ≤
        alignFloor oldestL0ObjectMs args.scheduleIntervalMs
  resolved :
    ∀ decision frontierMs,
      decideLivePriorityMode args (tick.clock.nowMs 0)
          (tick.resolved args bucket) = .ok (some decision) →
      tick.resolved args bucket = some frontierMs →
      decision.inputRange.startMs ≤ frontierMs ∨
        FillsGap args tick
          (gapWindows args frontierMs decision.inputRange.startMs)

section Logs

variable
  {interval floorMs endMs startMs : Int}
  {log : List DrainEvent}

/-- What was run stays run. -/
theorem RanWindow.append
    (ran : RanWindow interval log startMs)
    (more : List DrainEvent) :
    RanWindow interval (log ++ more) startMs := by
  obtain ⟨event, member, status⟩ := ran
  exact ⟨event, List.mem_append_left _ member, status⟩

/-- What was filled stays filled. -/
theorem FilledTo.append
    (filled : FilledTo interval floorMs log endMs)
    (more : List DrainEvent) :
    FilledTo interval floorMs (log ++ more) endMs := by
  intro startMs aligned above below
  exact (filled startMs aligned above below).append more

/-- A window that was run extends what is filled before it. -/
theorem FilledTo.extend
    (filled : FilledTo interval floorMs log startMs)
    (startAligned : interval ∣ startMs)
    (ran : RanWindow interval log startMs) :
    FilledTo interval floorMs log (startMs + interval) := by
  intro other aligned above below
  by_cases before : other < startMs
  · exact filled other aligned above before
  · have same : other = startMs := by
      by_contra different
      have gap :=
        add_le_of_dvd_of_lt startAligned aligned (by omega)
      omega
    rw [same]
    exact ran

/-- What is filled to an end is filled to every earlier one. -/
theorem FilledTo.mono
    (filled : FilledTo interval floorMs log endMs)
    {earlierMs : Int}
    (earlier : earlierMs ≤ endMs) :
    FilledTo interval floorMs log earlierMs := by
  intro startMs aligned above below
  exact filled startMs aligned above (by omega)

/-- Selecting in order goes on with an event whose earlier windows were run. -/
theorem SelectedInOrder.snoc
    (inOrder : SelectedInOrder interval floorMs log)
    {event : DrainEvent}
    (earlierRan :
      event.isSequential = true →
      FilledTo interval floorMs log event.range.startMs) :
    SelectedInOrder interval floorMs (log ++ [event]) := by
  intro before other after shape sequential
  rcases List.eq_nil_or_concat after with rfl | ⟨rest, last, rfl⟩
  · obtain ⟨same, sameEvent⟩ := List.append_inj' shape rfl
    rw [← same]
    rw [← List.head_eq_of_cons_eq sameEvent] at sequential ⊢
    exact earlierRan sequential
  · rw [List.concat_eq_append, ← List.cons_append,
      ← List.append_assoc] at shape
    obtain ⟨same, -⟩ := List.append_inj' shape rfl
    exact inOrder before other rest same sequential

end Logs

section Ticks

variable
  {args : NormalizeArgs}
  {oldest : Int}
  {log : List DrainEvent}
  {tick : DrainTick}
  {pending : Option InputRange}
  {state after : DrainState}

/--
What holds inside a tick.  Only the pointers of a pending newest window may show
a frontier before which a window was not run.
-/
structure Advancing
    (args : NormalizeArgs)
    (oldest : Int)
    (log : List DrainEvent)
    (tick : DrainTick)
    (pending : Option InputRange)
    (state : DrainState) : Prop where
  clock : ∃ reading, state.nowMs = tick.clock.nowMs reading
  pointers : PointerBucket state.bucket
  selected :
    SelectedInOrder args.scheduleIntervalMs
      (alignFloor oldest args.scheduleIntervalMs) (log ++ state.events)
  cursor :
    ∀ candidate,
      nextStartCandidate args.scheduleIntervalMs
          state.lastL1SuccessEndMs state.oldestL0ObjectMs =
        some candidate →
      FilledTo args.scheduleIntervalMs
        (alignFloor oldest args.scheduleIntervalMs) (log ++ state.events)
        candidate
  liveRan :
    ∀ range,
      state.livePriorityCompletedRange = some range →
      ∃ status, .live range status ∈ log ++ state.events
  aligned :
    ∀ pointer,
      SuccessStored state.bucket args.windowMs pointer →
      (args.scheduleIntervalMs : Int) ∣ pointer.inputRange.endMs ∧
        0 ≤ pointer.inputRange.endMs
  stored :
    ∀ pointer,
      SuccessStored state.bucket args.windowMs pointer →
      some pointer.inputRange = pending ∨
        FilledTo args.scheduleIntervalMs
          (alignFloor oldest args.scheduleIntervalMs)
          (log ++ state.events) pointer.inputRange.endMs

/-- A window of the schedule with an event of its run was run. -/
private theorem ranWindow_of_mem
    {range : InputRange}
    {event : DrainEvent}
    {status : BuildStatus}
    (member : event ∈ log)
    (ran : event.ran? = some (range, status))
    (length : range.endMs = range.startMs + args.scheduleIntervalMs) :
    RanWindow args.scheduleIntervalMs log range.startMs := by
  refine ⟨event, member, status, ?_⟩
  rw [ran, ← length]

/-- What holds inside a tick after one more event. -/
private theorem Advancing.snoc
    (advancing : Advancing args oldest log tick pending state)
    {event : DrainEvent}
    (events : after.events = state.events ++ [event])
    (clock : ∃ reading, after.nowMs = tick.clock.nowMs reading)
    (pointers : PointerBucket after.bucket)
    (sameLive :
      after.livePriorityCompletedRange =
        state.livePriorityCompletedRange)
    (earlierRan :
      FilledTo args.scheduleIntervalMs
        (alignFloor oldest args.scheduleIntervalMs) (log ++ state.events)
        event.range.startMs)
    (cursor :
      ∀ candidate,
        nextStartCandidate args.scheduleIntervalMs
            after.lastL1SuccessEndMs after.oldestL0ObjectMs =
          some candidate →
        FilledTo args.scheduleIntervalMs
          (alignFloor oldest args.scheduleIntervalMs)
          (log ++ state.events ++ [event]) candidate)
    (added :
      ∀ pointer,
        SuccessStored after.bucket args.windowMs pointer →
        SuccessStored state.bucket args.windowMs pointer ∨
          (args.scheduleIntervalMs : Int) ∣ pointer.inputRange.endMs ∧
            0 ≤ pointer.inputRange.endMs ∧
            FilledTo args.scheduleIntervalMs
              (alignFloor oldest args.scheduleIntervalMs)
              (log ++ state.events ++ [event])
              pointer.inputRange.endMs) :
    Advancing args oldest log tick pending after := by
  refine
    { clock := clock
      pointers := pointers
      selected := ?_
      cursor := ?_
      liveRan := ?_
      aligned := ?_
      stored := ?_ }
  · rw [events, ← List.append_assoc]
    exact advancing.selected.snoc (fun _ => earlierRan)
  · rw [events, ← List.append_assoc]
    exact cursor
  · intro range completed
    rw [sameLive] at completed
    obtain ⟨status, member⟩ := advancing.liveRan range completed
    rw [events, ← List.append_assoc]
    exact ⟨status, List.mem_append_left _ member⟩
  · intro pointer success
    rcases added pointer success with before | ⟨divides, nonneg, -⟩
    · exact advancing.aligned pointer before
    · exact ⟨divides, nonneg⟩
  · intro pointer success
    rw [events, ← List.append_assoc]
    rcases added pointer success with before | ⟨-, -, filled⟩
    · exact (advancing.stored pointer before).imp_right
        (fun filled => filled.append _)
    · exact .inr filled

/-- The window that a round selects, and what was run before it. -/
private theorem Advancing.selects
    (scheduled : args.Scheduled)
    (advancing : Advancing args oldest log tick pending state)
    {decision : RunDecision}
    (decided :
      decideMode args state.nowMs state.lastL1SuccessEndMs
        state.oldestL0ObjectMs = .ok (some decision)) :
    AlignedRange args.windowMs args.scheduleIntervalMs
        decision.inputRange ∧
      decision.inputRange.endMs =
        decision.inputRange.startMs + args.scheduleIntervalMs ∧
      FilledTo args.scheduleIntervalMs
        (alignFloor oldest args.scheduleIntervalMs)
        (log ++ state.events) decision.inputRange.startMs := by
  obtain ⟨candidate, located, startShape, endShape, closed, range⟩ :=
    decideMode_eq_some scheduled decided
  obtain ⟨reading, now⟩ := advancing.clock
  have nonneg := range.nonneg
  have nonempty := range.nonempty
  have ready :=
    readyEndMs_spec (tick.clock.nonneg reading)
      args.scheduleIntervalMs.2.1
  have small := tick.clock.le_i64Max reading
  rw [now] at closed
  have floor :=
    @alignFloor_spec candidate args.scheduleIntervalMs
      args.scheduleIntervalMs.2.1
      (by rw [← startShape, i64Min]; omega)
      (by rw [← startShape]; omega)
  rw [← startShape] at floor
  exact ⟨range, endShape,
    (advancing.cursor candidate located).mono floor.2.1⟩

/-- Every step of the loop keeps what holds inside a tick. -/
private theorem Advancing.step
    (scheduled : args.Scheduled)
    (advancing : Advancing args oldest log tick pending state)
    (step : DrainStep args tick state after) :
    Advancing args oldest log tick pending after := by
  -- A run fills the log up to its end and adds pointers of its range only.
  have filledBy {decision : RunDecision} {status : BuildStatus}
      (decided :
        decideMode args state.nowMs state.lastL1SuccessEndMs
          state.oldestL0ObjectMs = .ok (some decision)) :
      FilledTo args.scheduleIntervalMs
        (alignFloor oldest args.scheduleIntervalMs)
        (log ++ state.events ++ [.sequential decision.inputRange status])
        decision.inputRange.endMs := by
    obtain ⟨range, length, filled⟩ := advancing.selects scheduled decided
    rw [length]
    refine (filled.append _).extend range.intervalStart ?_
    exact ranWindow_of_mem
      (List.mem_append_right _ List.mem_cons_self) rfl length
  have addedBy {decision : RunDecision} {status : BuildStatus}
      (decided :
        decideMode args state.nowMs state.lastL1SuccessEndMs
          state.oldestL0ObjectMs = .ok (some decision))
      (pointer : PublishedPointer)
      (success :
        SuccessStored
          (runDecision args decision state.nowMs
            (tick.outcomes state.processedWindows) state.bucket).1
          args.windowMs pointer) :
      SuccessStored state.bucket args.windowMs pointer ∨
        (args.scheduleIntervalMs : Int) ∣ pointer.inputRange.endMs ∧
          0 ≤ pointer.inputRange.endMs ∧
          FilledTo args.scheduleIntervalMs
            (alignFloor oldest args.scheduleIntervalMs)
            (log ++ state.events ++
              [.sequential decision.inputRange status])
            pointer.inputRange.endMs := by
    obtain ⟨range, -, -⟩ := advancing.selects scheduled decided
    rcases successStored_runDecision success with before | ⟨-, sameRange⟩
    · exact .inl before
    · rw [sameRange]
      have nonneg := range.nonneg
      have nonempty := range.nonempty
      exact .inr ⟨range.intervalEnd, by omega, filledBy decided⟩
  cases step with
  | stop =>
      exact advancing
  | skip decision decided duplicate =>
      obtain ⟨range, length, filled⟩ :=
        advancing.selects scheduled decided
      obtain ⟨status, member⟩ := advancing.liveRan _ duplicate
      have ran := ranWindow_of_mem member rfl length
      refine advancing.snoc rfl ⟨_, rfl⟩ advancing.pointers rfl filled ?_
        (fun _ success => .inl success)
      intro candidate located
      rw [← Option.some.inj located, length]
      exact (filled.extend range.intervalStart ran).append _
  | ran decision decided fresh returned =>
      obtain ⟨-, -, filled⟩ := advancing.selects scheduled decided
      refine advancing.snoc rfl ⟨_, rfl⟩
        (advancing.pointers.runDecision _ _ _ _) rfl filled ?_
        (addedBy decided)
      intro candidate located
      rw [← Option.some.inj located]
      exact filledBy decided
  | abandoned decision decided failed =>
      obtain ⟨-, -, filled⟩ := advancing.selects scheduled decided
      refine advancing.snoc rfl advancing.clock
        (advancing.pointers.runDecision _ _ _ _) rfl filled ?_
        (addedBy decided)
      intro candidate located
      exact (advancing.cursor candidate located).append _

/-- The loop keeps what holds inside a tick. -/
private theorem Advancing.loop
    (scheduled : args.Scheduled)
    (advancing : Advancing args oldest log tick pending state)
    (remaining : Nat) :
    Advancing args oldest log tick pending
      (drainLoop args tick remaining state).1 := by
  obtain ⟨-, kept⟩ :=
    @drainLoop_preserves args tick state
      (fun _ => Advancing args oldest log tick pending)
      (fun advancing step => advancing.step scheduled step)
      remaining advancing
  exact kept

/-- The newest window is no longer pending when all before it were run. -/
private theorem Advancing.settle
    {range : InputRange}
    (advancing : Advancing args oldest log tick (some range) state)
    (completed : state.livePriorityCompletedRange = some range)
    (startAligned : (args.scheduleIntervalMs : Int) ∣ range.startMs)
    (length : range.endMs = range.startMs + args.scheduleIntervalMs)
    (filled :
      FilledTo args.scheduleIntervalMs
        (alignFloor oldest args.scheduleIntervalMs) (log ++ state.events)
        range.startMs) :
    Advancing args oldest log tick none state := by
  refine { advancing with stored := ?_ }
  intro pointer success
  rcases advancing.stored pointer success with waits | filled
  · obtain ⟨status, member⟩ := advancing.liveRan range completed
    rw [Option.some.inj waits, length]
    exact .inr (filled.extend startAligned
      (ranWindow_of_mem member rfl length))
  · exact .inr filled

/-- Running the newest window ahead of its turn makes it pending. -/
private theorem Advancing.completeLive
    (advancing : Advancing args oldest log tick none state)
    {decision : RunDecision}
    (range :
      AlignedRange args.windowMs args.scheduleIntervalMs
        decision.inputRange)
    (length :
      decision.inputRange.endMs =
        decision.inputRange.startMs + args.scheduleIntervalMs)
    (status : BuildStatus)
    (nowMs : Int)
    (outcome : RunOutcome) :
    Advancing args oldest log tick (some decision.inputRange)
      (state.completeLive tick decision.inputRange
        (.live decision.inputRange status)
        (runDecision args decision nowMs outcome state.bucket).1) := by
  have ownRun :
      .live decision.inputRange status ∈
        log ++ state.events ++ [.live decision.inputRange status] :=
    List.mem_append_right _ List.mem_cons_self
  refine
    { clock := ⟨_, rfl⟩
      pointers := advancing.pointers.runDecision _ _ _ _
      selected := ?_
      cursor := ?_
      liveRan := ?_
      aligned := ?_
      stored := ?_ }
  · rw [completeLive_events, ← List.append_assoc]
    exact advancing.selected.snoc (fun sequential => by cases sequential)
  · intro candidate located
    rw [completeLive_events, ← List.append_assoc]
    simp only [DrainState.completeLive] at located
    split_ifs at located with adjacent
    · rw [← Option.some.inj located, length]
      refine FilledTo.extend (FilledTo.append ?_ _) range.intervalStart
        (ranWindow_of_mem ownRun rfl length)
      refine advancing.cursor _ ?_
      rw [adjacent]
      rfl
    · refine (advancing.cursor candidate ?_).append _
      cases known : state.lastL1SuccessEndMs with
      | none =>
          rw [known] at located
          cases located
      | some lastSuccessEnd =>
          rw [known] at located
          exact located
  · intro other completed
    rw [completeLive_events, ← List.append_assoc]
    rw [← Option.some.inj completed]
    exact ⟨status, ownRun⟩
  · intro pointer success
    rcases successStored_runDecision success with before | ⟨-, sameRange⟩
    · exact advancing.aligned pointer before
    · have nonneg := range.nonneg
      have nonempty := range.nonempty
      rw [sameRange]
      exact ⟨range.intervalEnd, by omega⟩
  · intro pointer success
    rw [completeLive_events, ← List.append_assoc]
    rcases successStored_runDecision success with before | ⟨-, sameRange⟩
    · rcases advancing.stored pointer before with waits | filled
      · cases waits
      · exact .inr (filled.append _)
    · exact .inl (congrArg some sameRange)

/-- A closed window before the newest one is selected at the frontier. -/
private theorem selects_in_gap
    (scheduled : args.Scheduled)
    {range : InputRange}
    (rangeAligned :
      AlignedRange args.windowMs args.scheduleIntervalMs range)
    (length : range.endMs = range.startMs + args.scheduleIntervalMs)
    (newest :
      range.endMs =
        readyEndMs (tick.clock.nowMs 0) args.scheduleIntervalMs)
    {reading : Nat}
    {frontierMs : Int}
    (nonneg : 0 ≤ frontierMs)
    (frontierAligned : (args.scheduleIntervalMs : Int) ∣ frontierMs)
    (below : frontierMs < range.startMs) :
    ∃ runMode,
      decideMode args (tick.clock.nowMs reading) (some frontierMs) none =
        .ok (some
          { runMode := runMode
            inputRange :=
              ⟨frontierMs, frontierMs + args.scheduleIntervalMs⟩ }) := by
  have intervalPositive := args.scheduleIntervalMs.2.1
  have ready :=
    readyEndMs_spec (tick.clock.nonneg 0) intervalPositive
  have small := tick.clock.le_i64Max 0
  have closedLater :=
    readyEndMs_mono (tick.clock.nonneg 0) intervalPositive
      (tick.clock.nondecreasing (Nat.zero_le reading))
  have oneInterval :=
    add_le_of_dvd_of_lt frontierAligned rangeAligned.intervalStart below
  have windowInterval :
      (args.windowMs : Int) ∣ args.scheduleIntervalMs := by
    have difference :=
      Int.dvd_sub rangeAligned.windowEnd rangeAligned.windowStart
    rwa [length, add_sub_cancel_left] at difference
  have windowStart := Int.dvd_trans windowInterval frontierAligned
  refine decideMode_of_ready scheduled rfl
    (alignFloor_of_dvd frontierAligned (by rw [i64Min]; omega) (by omega))
    ?_ (by omega) (by omega) (by omega)
  exact
    { nonneg := nonneg
      nonempty := by simp only; omega
      windowStart := windowStart
      windowEnd := Int.dvd_add windowStart windowInterval
      intervalStart := frontierAligned
      intervalEnd := Int.dvd_add frontierAligned (Int.dvd_refl _) }

/--
A tick with room for the gap runs every window of it, so that the newest window
is no longer pending.  By induction on the windows left in the gap.
-/
private theorem Advancing.fills
    (scheduled : args.Scheduled)
    (returns : ∀ index, (tick.outcomes index).Returns)
    {range : InputRange}
    (rangeAligned :
      AlignedRange args.windowMs args.scheduleIntervalMs range)
    (length : range.endMs = range.startMs + args.scheduleIntervalMs)
    (newest :
      range.endMs =
        readyEndMs (tick.clock.nowMs 0) args.scheduleIntervalMs)
    {windows : Nat}
    (gap : FillsGap args tick windows)
    (left remaining : Nat)
    {state : DrainState}
    (advancing : Advancing args oldest log tick (some range) state)
    (completed : state.livePriorityCompletedRange = some range)
    (oldestTaken : state.oldestL0ObjectMs = none)
    (started : 1 ≤ state.processedWindows)
    (count : state.processedWindows + left = windows + 1)
    {frontierMs : Int}
    (last : state.lastL1SuccessEndMs = some frontierMs)
    (nonneg : 0 ≤ frontierMs)
    (distance :
      frontierMs + left * args.scheduleIntervalMs = range.startMs) :
    Advancing args oldest log tick none
      (drainLoop args tick (left + remaining) state).1 := by
  have intervalPositive := args.scheduleIntervalMs.2.1
  have reached {current : DrainState}
      (advancing : Advancing args oldest log tick (some range) current)
      (completed : current.livePriorityCompletedRange = some range)
      (last : current.lastL1SuccessEndMs = some range.startMs) :
      Advancing args oldest log tick none current := by
    refine advancing.settle completed rangeAligned.intervalStart length ?_
    refine advancing.cursor _ ?_
    rw [last]
    rfl
  induction left generalizing state frontierMs with
  | zero =>
      have there : frontierMs = range.startMs := by simpa using distance
      rw [there] at last
      exact (reached advancing completed last).loop scheduled _
  | succ left inductionHypothesis =>
      rw [Nat.cast_add_one, Int.add_mul, Int.one_mul] at distance
      have offset : 0 ≤ (left : Int) * args.scheduleIntervalMs :=
        Int.mul_nonneg (by omega) (le_of_lt intervalPositive)
      have frontierAligned :
          (args.scheduleIntervalMs : Int) ∣ frontierMs := by
        have shape :
            frontierMs =
              range.startMs -
                ((left : Int) + 1) * args.scheduleIntervalMs := by
          rw [Int.add_mul, Int.one_mul]
          omega
        rw [shape]
        exact Int.dvd_sub rangeAligned.intervalStart
          (Int.dvd_mul_left _ _)
      obtain ⟨reading, now⟩ := advancing.clock
      obtain ⟨runMode, decided⟩ :=
        @selects_in_gap args tick scheduled range rangeAligned length
          newest reading frontierMs nonneg frontierAligned (by omega)
      rw [← now, ← last, ← oldestTaken] at decided
      have fresh :
          state.livePriorityCompletedRange ≠
            some ⟨frontierMs,
              frontierMs + args.scheduleIntervalMs⟩ := by
        rw [completed]
        intro same
        have := congrArg InputRange.startMs (Option.some.inj same)
        simp only at this
        omega
      have returned :=
        (@runDecision_ok_iff args state.bucket
          ⟨runMode, ⟨frontierMs, frontierMs + args.scheduleIntervalMs⟩⟩
          state.nowMs (tick.outcomes state.processedWindows)).mpr
          (returns _ _)
      have next := runNextReadyDecision_of_returned decided fresh returned
      have advanced :=
        advancing.step scheduled (.ran _ decided fresh returned)
      have continues :=
        gap.before state.processedWindows started (by omega)
      rw [Nat.add_right_comm]
      cases stopped : tick.shutdownAfter (state.processedWindows + 1) with
      | true =>
          -- Shutdown after a window of the gap is after its last one.
          have noneLeft : left = 0 := by
            by_contra some
            have := gap.behind (state.processedWindows + 1) (by omega)
              (by omega)
            rw [stopped] at this
            cases this
          have round :
              (drainLoop args tick (left + remaining + 1) state).1 =
                state.advance tick (frontierMs + args.scheduleIntervalMs)
                  (.sequential
                    ⟨frontierMs, frontierMs + args.scheduleIntervalMs⟩
                    (tick.outcomes
                      state.processedWindows).build.status)
                  (runDecision args
                    ⟨runMode, ⟨frontierMs,
                      frontierMs + args.scheduleIntervalMs⟩⟩
                    state.nowMs (tick.outcomes state.processedWindows)
                    state.bucket).1 := by
            simp [drainLoop, drainIteration, next, continues, stopped]
          rw [round]
          refine reached advanced completed ?_
          rw [advance_last, Option.some.injEq]
          simp only [noneLeft] at distance
          omega
      | false =>
          have round := drainIteration_of_continues next continues stopped
          simp only [drainLoop, round]
          exact inductionHypothesis advanced completed rfl (by simp)
            (by simp only [advance_processed]; omega) rfl (by omega)
            (by omega)

/-- The windows of a gap reach from the frontier to the newest window. -/
private theorem gapWindows_spec
    {frontierMs startMs : Int}
    (frontierAligned : (args.scheduleIntervalMs : Int) ∣ frontierMs)
    (startAligned : (args.scheduleIntervalMs : Int) ∣ startMs)
    (ordered : frontierMs ≤ startMs) :
    frontierMs +
        gapWindows args frontierMs startMs * args.scheduleIntervalMs =
      startMs := by
  have whole := Int.dvd_sub startAligned frontierAligned
  have nonneg :
      0 ≤ (startMs - frontierMs) / args.scheduleIntervalMs :=
    Int.ediv_nonneg (by omega) (le_of_lt args.scheduleIntervalMs.2.1)
  rw [gapWindows, Int.toNat_of_nonneg nonneg,
    Int.ediv_mul_cancel whole]
  omega

/-- What a tick begins with. -/
private theorem advancing_start
    {bucket : Bucket}
    (pointers : PointerBucket bucket)
    (skipped : NoBacklogSkipped args oldest ⟨bucket, log⟩)
    (aligned :
      ∀ pointer,
        SuccessStored bucket args.windowMs pointer →
        (args.scheduleIntervalMs : Int) ∣ pointer.inputRange.endMs ∧
          0 ≤ pointer.inputRange.endMs)
    (known :
      ∀ value, tick.oldestL0ObjectMs = some value → value ≤ oldest) :
    Advancing args oldest log tick none
      (startDrain args tick bucket) := by
  have noEvents :
      log ++ (startDrain args tick bucket).events = log := by
    simp [startDrain]
  refine
    { clock := ⟨0, rfl⟩
      pointers := pointers
      selected := by rw [noEvents]; exact skipped.selected
      cursor := ?_
      liveRan := fun range completed => by cases completed
      aligned := aligned
      stored := ?_ }
  · intro candidate located
    rw [noEvents]
    cases found : tick.resolved args bucket with
    | some frontierMs =>
        simp only [startDrain, found, resolveInitialL0L1State,
          nextStartCandidate, Option.some.injEq] at located
        obtain ⟨pointer, sameWindow, stored, success, sameEnd⟩ :=
          resolveLastL1SuccessEndMs_sound pointers
            (resolveL1SuccessEndMsOrWarn_eq_some_iff.mp found)
        rw [← located, ← sameEnd]
        exact skipped.frontier pointer ⟨stored, sameWindow, success⟩
    | none =>
        simp only [startDrain, found, resolveInitialL0L1State,
          nextStartCandidate, Option.isNone_none, ↓reduceIte] at located
        obtain ⟨value, valueKnown, shape⟩ :=
          Option.map_eq_some_iff.mp located
        have notAfter :=
          alignFloor_mono args.scheduleIntervalMs.2.1
            (known value valueKnown)
        intro startMs _ above below
        omega
  · intro pointer success
    rw [noEvents]
    exact .inr (skipped.frontier pointer success)

/-- A tick that leaves no gap ends with no newest window pending. -/
private theorem drainReadyWindows_advancing
    {bucket : Bucket}
    (scheduled : args.Scheduled)
    (returns : ∀ index, (tick.outcomes index).Returns)
    (started :
      Advancing args oldest log tick none (startDrain args tick bucket))
    (leaves : LeavesNoGap args oldest tick bucket) :
    Advancing args oldest log tick none
      (drainReadyWindows args tick bucket).1 := by
  have sequentially {current : DrainState} (remaining : Nat)
      (advancing : Advancing args oldest log tick none current) :
      Advancing args oldest log tick none
        (if args.livePriorityOnly then (current, .livePriorityOnly)
          else drainLoop args tick remaining current).1 := by
    split_ifs
    · exact advancing
    · exact advancing.loop scheduled remaining
  cases decided :
      decideLivePriorityMode args (startDrain args tick bucket).nowMs
        (startDrain args tick bucket).lastL1SuccessEndMs with
  | error message =>
      simp only [drainReadyWindows, runLivePriorityDecision, decided]
      exact started
  | ok selection =>
      cases selection with
      | none =>
          simp only [drainReadyWindows, runLivePriorityDecision, decided]
          exact sequentially _ started
      | some decision =>
          obtain ⟨-, newest, length, range, -⟩ :=
            decideLivePriorityMode_eq_some (tick.clock.nonneg 0)
              (tick.clock.le_i64Max 0) decided
          have live :=
            runLivePriorityDecision_of_returned decided
              ((runDecision_ok_iff _ _ _).mpr (returns _ _))
          have pending :=
            started.completeLive range length
              (tick.outcomes 0).build.status (tick.clock.nowMs 0)
              (tick.outcomes 0)
          simp only [drainReadyWindows, live]
          have settled
              (filled :
                FilledTo args.scheduleIntervalMs
                  (alignFloor oldest args.scheduleIntervalMs) log
                  decision.inputRange.startMs) :
              Advancing args oldest log tick none _ :=
            pending.settle rfl range.intervalStart length
              (filled.append _)
          rw [startDrain_nowMs, startDrain_last] at decided
          cases found : tick.resolved args bucket with
          | none =>
              have allowed := leaves.unresolved decision decided found
              refine sequentially _ (settled ?_)
              intro startMs _ above below
              omega
          | some frontierMs =>
              have allowed :=
                leaves.resolved decision frontierMs decided found
              by_cases behind :
                  decision.inputRange.startMs ≤ frontierMs
              · refine sequentially _ (settled ?_)
                have filled :=
                  started.cursor frontierMs
                    (by rw [startDrain_last, found]; rfl)
                rw [startDrain_events, List.append_nil] at filled
                exact filled.mono behind
              · have gap := allowed.resolve_left behind
                obtain ⟨pointer, sameWindow, stored, success, sameEnd⟩ :=
                  resolveLastL1SuccessEndMs_sound started.pointers
                    (resolveL1SuccessEndMsOrWarn_eq_some_iff.mp found)
                obtain ⟨frontierAligned, nonneg⟩ :=
                  started.aligned pointer ⟨stored, sameWindow, success⟩
                rw [sameEnd] at frontierAligned nonneg
                have distance :
                    frontierMs +
                        gapWindows args frontierMs
                            decision.inputRange.startMs *
                          args.scheduleIntervalMs =
                      decision.inputRange.startMs :=
                  gapWindows_spec frontierAligned range.intervalStart
                    (by omega)
                have last :
                    ((startDrain args tick bucket).completeLive tick
                        decision.inputRange
                        (.live decision.inputRange
                          (tick.outcomes 0).build.status)
                        (runDecision args decision
                          (tick.clock.nowMs 0) (tick.outcomes 0)
                          bucket).1).lastL1SuccessEndMs =
                      some frontierMs := by
                  simp only [DrainState.completeLive, startDrain_last,
                    found, Option.some.injEq]
                  rw [if_neg (by omega)]
                obtain ⟨remaining, room⟩ :=
                  Nat.exists_eq_add_of_lt gap.room
                have bound :
                    args.maxWindowsPerTick.1 - 1 =
                      gapWindows args frontierMs
                          decision.inputRange.startMs + remaining := by
                  omega
                rw [if_neg (by simp [gap.full])]
                have filled :=
                  pending.fills scheduled returns range length newest gap
                    _ remaining rfl rfl (le_refl 1) (by
                      simp only [DrainState.completeLive,
                        startDrain_processed]
                      omega) last nonneg distance
                rw [← bound] at filled
                exact filled

end Ticks

/-- What holds between ticks that leave no gap. -/
private structure Contiguous
    (args : NormalizeArgs)
    (oldest : Int)
    (history : WorkerHistory) : Prop where
  pointers : PointerBucket history.bucket
  skipped : NoBacklogSkipped args oldest history
  aligned :
    ∀ pointer,
      SuccessStored history.bucket args.windowMs pointer →
      (args.scheduleIntervalMs : Int) ∣ pointer.inputRange.endMs ∧
        0 ≤ pointer.inputRange.endMs

/-- A tick that leaves no gap keeps the history contiguous. -/
private theorem stepTick_contiguous
    {args : NormalizeArgs}
    {oldest : Int}
    {history : WorkerHistory}
    {workerTick : WorkerTick}
    (scheduled : args.Scheduled)
    (known :
      ∀ value,
        workerTick.drain.oldestL0ObjectMs = some value →
        value ≤ oldest)
    (returns : ∀ index, (workerTick.drain.outcomes index).Returns)
    (contiguous : Contiguous args oldest history)
    (leaves :
      LeavesNoGap (workerTick.args args) oldest workerTick.drain
        history.bucket) :
    Contiguous args oldest (stepTick args history workerTick) := by
  have sameSchedule : (workerTick.args args).Scheduled := scheduled
  have started :
      Advancing (workerTick.args args) oldest history.log
        workerTick.drain none
        (startDrain (workerTick.args args) workerTick.drain
          history.bucket) :=
    advancing_start contiguous.pointers
      ⟨contiguous.skipped.selected, contiguous.skipped.frontier⟩
      contiguous.aligned known
  have drained :=
    drainReadyWindows_advancing sameSchedule returns started leaves
  refine ⟨drained.pointers, ⟨drained.selected, ?_⟩, drained.aligned⟩
  intro pointer success
  rcases drained.stored pointer success with waits | filled
  · cases waits
  · exact filled

/--
In every sequence of ticks whose runs all return, if no tick leaves a gap before
a newest window that it ran ahead of its turn, then whenever the sequential path
selects a window, every earlier window of the backlog was run before, and no
successful pointer shows a frontier before which a window was not run.
-/
theorem noBacklogSkipped_of_leavesNoGap
    (args : NormalizeArgs)
    (scheduled : args.Scheduled)
    (oldestL0ObjectMs : Int)
    (workerTicks : List WorkerTick)
    (known :
      ∀ workerTick ∈ workerTicks,
        ∀ value,
          workerTick.drain.oldestL0ObjectMs = some value →
          value ≤ oldestL0ObjectMs)
    (returns :
      ∀ workerTick ∈ workerTicks,
        ∀ index, (workerTick.drain.outcomes index).Returns)
    (leaves :
      Runs.Along (stepTick args)
        (fun history workerTick =>
          LeavesNoGap (workerTick.args args) oldestL0ObjectMs
            workerTick.drain history.bucket)
        .start workerTicks) :
    Runs.Always (stepTick args) (NoBacklogSkipped args oldestL0ObjectMs)
      .start workerTicks := by
  have initially : Contiguous args oldestL0ObjectMs .start := by
    refine ⟨pointerBucket_empty, ⟨?_, ?_⟩, ?_⟩
    · intro before event after shape
      cases before <;> cases shape
    · intro pointer success
      cases success.stored
    · intro pointer success
      cases success.stored
  have always :
      Runs.Always (stepTick args) (Contiguous args oldestL0ObjectMs)
        .start workerTicks :=
    Runs.always_of_along initially
      (fun contiguous met =>
        stepTick_contiguous scheduled met.1.2 met.2 contiguous met.1.1)
      ((leaves.and_forall known).and_forall returns)
  exact always.imp (fun contiguous => contiguous.skipped)

/-- A worker with live priority, a minute schedule and a short watermark. -/
def liveMinuteArgs : NormalizeArgs :=
  { minuteArgs with
    scanMarginMs := ⟨30000, by decide⟩
    watermarkDelayMs := ⟨30000, by decide⟩
    livePriority := true
    livePriorityLagThresholdMs := ⟨120000, by decide⟩ }

/-- A tick at a time after the L0 object of the epoch that nothing disturbs. -/
def fullTickAt
    (nowMs : Int)
    (nonneg : 0 ≤ nowMs)
    (representable : nowMs ≤ i64Max) : WorkerTick where
  livePriorityOnly := false
  maxWindowsPerTick := defaultMaxWindowsPerTick
  drain :=
    { quietTick (fun _ => ⟨0, 1⟩) with
      clock := steadyClock nowMs nonneg representable }

/-- The same tick of the worker that runs newest windows only. -/
def liveOnlyTickAt
    (nowMs : Int)
    (nonneg : 0 ≤ nowMs)
    (representable : nowMs ≤ i64Max) : WorkerTick :=
  { fullTickAt nowMs nonneg representable with livePriorityOnly := true }

/-- A tick without a frontier leaves no gap, if it starts at the oldest object. -/
private theorem leavesNoGap_of_unresolved
    {args : NormalizeArgs}
    {oldest : Int}
    {tick : DrainTick}
    {bucket : Bucket}
    (found : tick.resolved args bucket = none)
    (atOldest :
      ∀ decision,
        decideLivePriorityMode args (tick.clock.nowMs 0) none =
          .ok (some decision) →
        decision.inputRange.startMs ≤
          alignFloor oldest args.scheduleIntervalMs) :
    LeavesNoGap args oldest tick bucket where
  unresolved := by
    intro decision decided _
    rw [found] at decided
    exact atOldest decision decided
  resolved := by
    intro decision frontierMs _ other
    rw [found] at other
    cases other

/-- A tick with a frontier leaves no gap, if it is at or reaches the newest. -/
private theorem leavesNoGap_of_resolved
    {args : NormalizeArgs}
    {oldest frontierMs : Int}
    {tick : DrainTick}
    {bucket : Bucket}
    (found : tick.resolved args bucket = some frontierMs)
    (reaches :
      ∀ decision,
        decideLivePriorityMode args (tick.clock.nowMs 0)
            (some frontierMs) =
          .ok (some decision) →
        decision.inputRange.startMs ≤ frontierMs ∨
          FillsGap args tick
            (gapWindows args frontierMs decision.inputRange.startMs)) :
    LeavesNoGap args oldest tick bucket where
  unresolved := by
    intro decision _ other
    rw [found] at other
    cases other
  resolved := by
    intro decision other decided same
    rw [found] at decided same
    rw [← Option.some.inj same]
    exact reaches decision decided

/--
A worker that starts at the oldest object and fills the gap before a newest
window skips nothing.
-/
theorem backlog_filled :
    Runs.Always (stepTick liveMinuteArgs)
      (NoBacklogSkipped liveMinuteArgs 0) .start
      [fullTickAt 90000 (by decide) (by decide),
        fullTickAt 330000 (by decide) (by decide)] := by
  refine noBacklogSkipped_of_leavesNoGap liveMinuteArgs ⟨rfl, rfl⟩ 0 _
    ?_ ?_ ⟨?_, ?_, trivial⟩
  · intro workerTick member value known
    rcases List.mem_pair.mp member with rfl | rfl
    · exact le_of_eq (Option.some.inj known).symm
    · exact le_of_eq (Option.some.inj known).symm
  · intro workerTick member index
    rcases List.mem_pair.mp member with rfl | rfl
    · exact RunOutcome.undisturbed_returns _
    · exact RunOutcome.undisturbed_returns _
  · have found :
        (fullTickAt 90000 (by decide) (by decide)).drain.resolved
          liveMinuteArgs .empty = none := by
      decide +kernel
    have selects :
        decideLivePriorityMode liveMinuteArgs 90000 none =
          .ok (some ⟨.live, ⟨0, 60000⟩⟩) := by
      decide
    refine leavesNoGap_of_unresolved found ?_
    intro decision decided
    rw [show decision = ⟨.live, ⟨0, 60000⟩⟩ from
      (Option.some.inj (Except.ok.inj (selects.symm.trans decided))).symm]
    decide
  · have found :
        (fullTickAt 330000 (by decide) (by decide)).drain.resolved
          liveMinuteArgs
          (stepTick liveMinuteArgs .start
            (fullTickAt 90000 (by decide) (by decide))).bucket =
          some 60000 := by
      decide +kernel
    have selects :
        decideLivePriorityMode liveMinuteArgs 330000 (some 60000) =
          .ok (some ⟨.live, ⟨240000, 300000⟩⟩) := by
      decide
    refine leavesNoGap_of_resolved found ?_
    intro decision decided
    rw [show decision = ⟨.live, ⟨240000, 300000⟩⟩ from
      (Option.some.inj (Except.ok.inj (selects.symm.trans decided))).symm]
    exact .inr ⟨rfl, by decide, fun _ _ _ => rfl, fun _ _ _ => rfl⟩

/-- The windows before the one run ahead of its turn are not run before it. -/
private theorem not_noBacklogSkipped_of_log
    {history : WorkerHistory}
    (log :
      history.log =
        [.live ⟨540000, 600000⟩ .success,
          .sequential ⟨600000, 660000⟩ .success]) :
    ¬ NoBacklogSkipped liveMinuteArgs 0 history := by
  intro skipped
  obtain ⟨event, member, status, ran⟩ :=
    skipped.selected [.live ⟨540000, 600000⟩ .success]
      (.sequential ⟨600000, 660000⟩ .success) [] log rfl 0 (by simp)
      (by decide) (by decide)
  rw [List.mem_singleton] at member
  rw [member] at ran
  have := congrArg (fun answer => answer.map (·.1.startMs)) ran
  simp [DrainEvent.ran?] at this

/--
The newest window is run ahead of the whole backlog, the next tick resumes
behind it, and the sequential path goes on there, for the full worker as for the
worker of newest windows before it.
-/
theorem backlog_skipped :
    (∀ index,
        ((fullTickAt 630000 (by decide)
            (by decide)).drain.outcomes index).Returns ∧
          ((fullTickAt 630000 (by decide)
            (by decide)).drain.outcomes index).build.status = .success) ∧
      (fullTickAt 690000 (by decide) (by decide)).drain.resolved
          liveMinuteArgs
          (stepTick liveMinuteArgs .start
            (fullTickAt 630000 (by decide) (by decide))).bucket =
        some 600000 ∧
      ¬ Runs.Always (stepTick liveMinuteArgs)
        (NoBacklogSkipped liveMinuteArgs 0) .start
        [fullTickAt 630000 (by decide) (by decide),
          fullTickAt 690000 (by decide) (by decide)] ∧
      ¬ Runs.Always (stepTick liveMinuteArgs)
        (NoBacklogSkipped liveMinuteArgs 0) .start
        [liveOnlyTickAt 630000 (by decide) (by decide),
          fullTickAt 690000 (by decide) (by decide)] := by
  refine ⟨fun index => ⟨RunOutcome.undisturbed_returns _, rfl⟩, ?_, ?_, ?_⟩
  · decide +kernel
  · intro always
    refine not_noBacklogSkipped_of_log ?_ always.final
    decide +kernel
  · intro always
    refine not_noBacklogSkipped_of_log ?_ always.final
    decide +kernel

end MarketIngest.Normalize
