import MarketIngest.DrainWorker
import MarketIngest.FrontierExactness
import MarketIngest.Runs

namespace MarketIngest.Normalize

open S3

/-!
# Blocked windows and the resumed frontier

A blocked build writes no pointers, but the tick goes on with the next window.
If a later window of the same tick is successful, the frontier that the next
tick looks up is after the blocked window.  Without that, every window between
the first one and a looked-up frontier has pointers.
-/

/-- The run returns, whatever windows it covers. -/
def RunOutcome.Returns (outcome : RunOutcome) : Prop :=
  ∀ windowStarts, outcome.completes windowStarts = true

section Runs

variable
  {args : NormalizeArgs}
  {decision : RunDecision}
  {nowMs : Int}
  {outcome : RunOutcome}
  {bucket : Bucket}

/-- An undisturbed run returns. -/
theorem RunOutcome.undisturbed_returns
    (build : BuildResult) :
    (RunOutcome.undisturbed build).Returns := by
  intro windowStarts
  simp [RunOutcome.completes, RunOutcome.undisturbed,
    PutOutcome.acknowledged]

/-- A run does not remove pointers. -/
theorem pointerAt_runDecision_isSome
    {windowMs windowStartMs : Int}
    (stored : (pointerAt bucket windowMs windowStartMs).isSome = true) :
    (pointerAt (runDecision args decision nowMs outcome bucket).1
      windowMs windowStartMs).isSome = true := by
  rw [runDecision_pointerAt]
  split_ifs
  · rfl
  · exact stored

/-- A pointer that a run adds is of its own range, and it was not blocked. -/
theorem added_pointerAt
    {windowMs windowStartMs : Int}
    (stored :
      (pointerAt (runDecision args decision nowMs outcome bucket).1
        windowMs windowStartMs).isSome = true) :
    (pointerAt bucket windowMs windowStartMs).isSome = true ∨
      (outcome.build.status ≠ .blocked ∧
        decision.inputRange.startMs ≤ windowStartMs ∧
        windowStartMs < decision.inputRange.endMs) := by
  rw [runDecision_pointerAt] at stored
  split_ifs at stored with written
  · obtain ⟨reaches, -, member, -⟩ := written
    have notBlocked : outcome.build.status ≠ .blocked := by
      simp only [RunOutcome.reachesIndex, Bool.and_eq_true] at reaches
      simpa using reaches.2
    exact .inr ⟨notBlocked, bounds_of_mem_indexWindowStarts member⟩
  · exact .inl stored

/-- A successful pointer after a run is an earlier one or the run's own. -/
theorem successStored_runDecision
    {windowMs : Int}
    {pointer : PublishedPointer}
    (stored :
      SuccessStored (runDecision args decision nowMs outcome bucket).1
        windowMs pointer) :
    SuccessStored bucket windowMs pointer ∨
      (outcome.build.status = .success ∧
        pointer.inputRange = decision.inputRange) := by
  have found :
      pointerAt (runDecision args decision nowMs outcome bucket).1
          windowMs pointer.windowStartMs =
        some pointer.document := by
    rw [pointerAt, ← stored.sameWindow]
    exact stored.stored
  rw [runDecision_pointerAt] at found
  split_ifs at found with written
  · refine .inr ?_
    have shape := Option.some.inj found
    have ends := congrArg inputTimeRangeEndMs shape
    have starts := congrArg inputTimeRangeStartMs shape
    have statuses := congrArg jsonStatusSuccess shape
    simp only [runPointer, PublishedPointer.document,
      inputTimeRangeEndMs_indexPointerJson,
      inputTimeRangeStartMs_indexPointerJson, Option.some.injEq]
      at ends starts
    simp only [runPointer, PublishedPointer.document,
      jsonStatusSuccess_indexPointerJson, BuildStatus.asStr_eq_success,
      stored.success, decide_true, decide_eq_true_eq] at statuses
    exact ⟨statuses, InputRange.ext starts.symm ends.symm⟩
  · refine .inl ⟨?_, stored.sameWindow, stored.success⟩
    rw [pointerAt, ← stored.sameWindow] at found
    exact found

/-- A run that returns and is not blocked has a pointer at its start. -/
theorem pointerAt_start_of_ok
    (returned :
      (runDecision args decision nowMs outcome bucket).2 = .ok ())
    (nonempty :
      decision.inputRange.startMs < decision.inputRange.endMs)
    (notBlocked : outcome.build.status ≠ .blocked) :
    (pointerAt (runDecision args decision nowMs outcome bucket).1
      args.windowMs decision.inputRange.startMs).isSome = true := by
  have member :=
    start_mem_indexWindowStarts args.windowMs.2.1 nonempty
  rw [runDecision_pointerAt_of_ok returned member, if_neg notBlocked]
  rfl

end Runs

/-- The start of the first window that was ever run. -/
def firstWindow? (log : List DrainEvent) : Option Int :=
  log.head?.map (·.range.startMs)

/-- The window of the schedule at a start. -/
def scheduleWindow (args : NormalizeArgs) (startMs : Int) : InputRange where
  startMs := startMs
  endMs := startMs + args.scheduleIntervalMs

/-- The window at an aligned start has a pointer. -/
def Pointed
    (args : NormalizeArgs)
    (bucket : Bucket)
    (startMs : Int) : Prop :=
  (pointerAt bucket args.windowMs startMs).isSome = true

/-- Where a tick that has resolved its cursors continues. -/
def resumedStart
    (args : NormalizeArgs)
    (tick : DrainTick)
    (bucket : Bucket) : Option Int :=
  (nextStartCandidate args.scheduleIntervalMs
    (startDrain args tick bucket).lastL1SuccessEndMs
    (startDrain args tick bucket).oldestL0ObjectMs).map
      (alignFloor · args.scheduleIntervalMs)

/--
Whenever the frontier is looked up, every window from the first one ever run up
to it has a pointer and a run that was not blocked.
-/
def FrontierPointed
    (args : NormalizeArgs)
    (history : WorkerHistory) : Prop :=
  ∀ faults nowMs frontier,
    resolveLastL1SuccessEndMs faults history.bucket args.windowMs nowMs =
      .ok (some frontier) →
    ∀ first startMs,
      firstWindow? history.log = some first →
      (args.scheduleIntervalMs : Int) ∣ startMs →
      first ≤ startMs →
      startMs < frontier →
      Pointed args history.bucket startMs ∧
        ∃ status,
          status ≠ .blocked ∧
          .sequential (scheduleWindow args startMs) status ∈ history.log

/--
The tick builds no window with success after a blocked one that has no pointer,
and if it has no frontier to resume from, it resumes after no window without a
pointer.
-/
structure LeavesNoneBehind
    (args : NormalizeArgs)
    (history : WorkerHistory)
    (workerTick : WorkerTick) : Prop where
  noSuccessAfterBlocked :
    ∀ start earlier later,
      resumedStart args workerTick.drain history.bucket = some start →
      earlier < later →
      later < workerTick.maxWindowsPerTick.1 →
      (workerTick.drain.outcomes earlier).build.status = .blocked →
      (workerTick.drain.outcomes later).build.status = .success →
      Pointed args history.bucket
        (start + earlier * args.scheduleIntervalMs)
  oldestCovered :
    ∀ first oldest startMs,
      workerTick.drain.resolved args history.bucket = none →
      workerTick.drain.oldestL0ObjectMs = some oldest →
      firstWindow? history.log = some first →
      (args.scheduleIntervalMs : Int) ∣ startMs →
      first ≤ startMs →
      startMs < alignFloor oldest args.scheduleIntervalMs →
      Pointed args history.bucket startMs

/-- What links pointers and runs after ticks that leave no window behind. -/
structure Covered
    (args : NormalizeArgs)
    (bucket : Bucket)
    (log : List DrainEvent) : Prop where
  pointers : PointerBucket bucket
  recorded :
    ∀ startMs,
      (args.scheduleIntervalMs : Int) ∣ startMs →
      Pointed args bucket startMs →
      ∃ status,
        status ≠ .blocked ∧
        .sequential (scheduleWindow args startMs) status ∈ log
  successes :
    ∀ pointer,
      SuccessStored bucket args.windowMs pointer →
      ∃ startMs,
        (args.scheduleIntervalMs : Int) ∣ startMs ∧
        pointer.inputRange = scheduleWindow args startMs ∧
        .sequential (scheduleWindow args startMs) .success ∈ log
  passed :
    ∀ startMs first earlier,
      .sequential (scheduleWindow args startMs) .success ∈ log →
      firstWindow? log = some first →
      (args.scheduleIntervalMs : Int) ∣ earlier →
      first ≤ earlier →
      earlier ≤ startMs →
      Pointed args bucket earlier

/-- Links between pointers and runs imply the property of the frontier. -/
theorem Covered.frontierPointed
    {args : NormalizeArgs}
    {history : WorkerHistory}
    (covered : Covered args history.bucket history.log) :
    FrontierPointed args history := by
  intro faults nowMs frontier resolved first startMs isFirst aligned above
    below
  obtain ⟨pointer, sameWindow, stored, success, sameEnd⟩ :=
    resolveLastL1SuccessEndMs_sound covered.pointers resolved
  obtain ⟨last, lastAligned, range, ran⟩ :=
    covered.successes pointer ⟨stored, sameWindow, success⟩
  rw [range, scheduleWindow] at sameEnd
  simp only at sameEnd
  have notAfter : startMs ≤ last := by
    by_contra after
    have gap := add_le_of_dvd_of_lt lastAligned aligned (by omega)
    omega
  have pointed :=
    covered.passed last first startMs ran isFirst aligned above notAfter
  exact ⟨pointed, covered.recorded startMs aligned pointed⟩

section Ticks

variable
  {args : NormalizeArgs}
  {history : WorkerHistory}
  {workerTick : WorkerTick}

/-- The links inside a tick, after some of its windows. -/
structure TickCovered
    (args : NormalizeArgs)
    (history : WorkerHistory)
    (workerTick : WorkerTick)
    (remaining : Nat)
    (state : DrainState) : Prop where
  bound :
    state.processedWindows + remaining ≤ workerTick.maxWindowsPerTick.1
  noLive : state.livePriorityCompletedRange = none
  clock :
    ∃ reading, state.nowMs = workerTick.drain.clock.nowMs reading
  kept :
    ∀ startMs,
      Pointed args history.bucket startMs →
      Pointed args state.bucket startMs
  cursor :
    (state.processedWindows = 0 ∧ state.events = [] ∧
      state.lastL1SuccessEndMs =
        (startDrain args workerTick.drain
          history.bucket).lastL1SuccessEndMs ∧
      state.oldestL0ObjectMs =
        (startDrain args workerTick.drain
          history.bucket).oldestL0ObjectMs) ∨
      ∃ start,
        resumedStart args workerTick.drain history.bucket = some start ∧
        (args.scheduleIntervalMs : Int) ∣ start ∧
        state.lastL1SuccessEndMs =
          some (start +
            state.processedWindows * args.scheduleIntervalMs) ∧
        start + state.processedWindows * args.scheduleIntervalMs ≤
          i64Max ∧
        0 ≤ start ∧
        firstWindow? state.events = some start
  ran :
    ∀ start earlier,
      resumedStart args workerTick.drain history.bucket = some start →
      earlier < state.processedWindows →
      (workerTick.drain.outcomes earlier).build.status ≠ .blocked →
      Pointed args state.bucket
        (start + earlier * args.scheduleIntervalMs)
  covered : Covered args state.bucket (history.log ++ state.events)

/-- A tick that begins after linked ones is linked. -/
theorem tickCovered_start
    (covered : Covered args history.bucket history.log) :
    TickCovered args history workerTick workerTick.maxWindowsPerTick
      (startDrain args workerTick.drain history.bucket) where
  bound := by simp [startDrain]
  noLive := rfl
  clock := ⟨0, rfl⟩
  kept := fun _ pointed => pointed
  cursor := .inl ⟨rfl, rfl, rfl, rfl⟩
  ran := by
    intro start earlier _ before
    simp [startDrain] at before
  covered := by
    simpa [startDrain] using covered

/-- The start of the window that a round of the loop selects. -/
private theorem selected_start
    {remaining : Nat}
    {state : DrainState}
    {decision : RunDecision}
    (scheduled : args.Scheduled)
    (linked : TickCovered args history workerTick remaining state)
    (decided :
      decideMode (workerTick.args args) state.nowMs
        state.lastL1SuccessEndMs state.oldestL0ObjectMs =
          .ok (some decision)) :
    ∃ start,
      resumedStart args workerTick.drain history.bucket = some start ∧
      (args.scheduleIntervalMs : Int) ∣ start ∧
      0 ≤ start ∧
      decision.inputRange =
        scheduleWindow args
          (start + state.processedWindows * args.scheduleIntervalMs) ∧
      decision.inputRange.endMs ≤ i64Max ∧
      (state.events = [] → state.processedWindows = 0) ∧
      (firstWindow? state.events = none ∨
        firstWindow? state.events = some start) := by
  obtain ⟨candidate, located, startShape, endShape, closed, aligned⟩ :=
    @decideMode_eq_some (workerTick.args args) _ _ _ _ scheduled decided
  obtain ⟨reading, now⟩ := linked.clock
  have intervalPositive := args.scheduleIntervalMs.2.1
  have representable : decision.inputRange.endMs ≤ i64Max := by
    have ready :=
      readyEndMs_spec (workerTick.drain.clock.nonneg reading)
        intervalPositive
    have upper := workerTick.drain.clock.le_i64Max reading
    rw [now] at closed
    exact le_trans closed (le_trans ready.2.2.1 upper)
  have window (start : Int)
      (shape : decision.inputRange.startMs = start) :
      decision.inputRange = scheduleWindow args start := by
    rw [← shape]
    exact InputRange.ext rfl endShape
  rcases linked.cursor with
    ⟨zero, noEvents, last, oldest⟩ |
    ⟨start, resumed, startAligned, last, small, nonneg, first⟩
  · rw [last, oldest] at located
    refine ⟨decision.inputRange.startMs, ?_, aligned.intervalStart,
      aligned.nonneg, ?_, representable, fun _ => zero, .inl ?_⟩
    · unfold resumedStart
      have located' :
          nextStartCandidate args.scheduleIntervalMs
            (startDrain args workerTick.drain
              history.bucket).lastL1SuccessEndMs
            (startDrain args workerTick.drain
              history.bucket).oldestL0ObjectMs = some candidate :=
        located
      rw [located', startShape]
      rfl
    · exact window _ (by simp [zero])
    · simp [noEvents, firstWindow?]
  · rw [last] at located
    obtain rfl := Option.some.inj located
    have exactStart :
        decision.inputRange.startMs =
          start + state.processedWindows * args.scheduleIntervalMs := by
      rw [startShape]
      refine alignFloor_of_dvd
        (Int.dvd_add startAligned (Int.dvd_mul_left _ _)) ?_ small
      have offset :
          0 ≤ (state.processedWindows : Int) * args.scheduleIntervalMs :=
        Int.mul_nonneg (by omega) (le_of_lt intervalPositive)
      simp only [i64Min]
      omega
    refine ⟨start, resumed, startAligned, nonneg, window _ exactStart,
      representable, ?_, .inr first⟩
    intro noEvents
    simp [noEvents, firstWindow?] at first

/-- Windows before the start of a tick have pointers. -/
private theorem pointed_before_start
    (covered : Covered args history.bucket history.log)
    (leaves : LeavesNoneBehind args history workerTick)
    {start first earlier : Int}
    (resumed :
      resumedStart args workerTick.drain history.bucket = some start)
    (startNonneg : 0 ≤ start)
    (startSmall : start < i64Max)
    (isFirst : firstWindow? history.log = some first)
    (aligned : (args.scheduleIntervalMs : Int) ∣ earlier)
    (above : first ≤ earlier)
    (before : earlier < start) :
    Pointed args history.bucket earlier := by
  have intervalPositive := args.scheduleIntervalMs.2.1
  unfold resumedStart at resumed
  obtain ⟨candidate, located, floor⟩ := Option.map_eq_some_iff.mp resumed
  have atMost : start ≤ candidate := by
    have spec :=
      @alignFloor_spec candidate args.scheduleIntervalMs intervalPositive
        (by rw [floor, i64Min]; omega)
        (by rw [floor]; exact startSmall)
    rw [floor] at spec
    exact spec.2.1
  cases found : workerTick.drain.resolved args history.bucket with
  | none =>
      simp only [startDrain, found, resolveInitialL0L1State,
        nextStartCandidate, Option.isNone_none, ↓reduceIte] at located
      obtain ⟨oldest, known, shape⟩ := Option.map_eq_some_iff.mp located
      exact leaves.oldestCovered first oldest earlier found known isFirst
        aligned above (by rw [shape]; omega)
  | some frontier =>
      simp only [startDrain, found, resolveInitialL0L1State,
        nextStartCandidate, Option.some.injEq] at located
      have resolved :=
        resolveL1SuccessEndMsOrWarn_eq_some_iff.mp found
      exact (covered.frontierPointed _ _ _ resolved first earlier isFirst
        aligned above (by omega)).1

/-- A run at an aligned start keeps the links, if it leaves none behind. -/
private theorem Covered.afterRun
    {bucket : Bucket}
    {log : List DrainEvent}
    (covered : Covered args bucket log)
    {decision : RunDecision}
    {nowMs selected : Int}
    {outcome : RunOutcome}
    (aligned : (args.scheduleIntervalMs : Int) ∣ selected)
    (window : decision.inputRange = scheduleWindow args selected)
    (returned :
      (runDecision (workerTick.args args) decision nowMs outcome
        bucket).2 = .ok ())
    (behind :
      outcome.build.status = .success →
      ∀ first earlier,
        firstWindow?
            (log ++ [.sequential decision.inputRange
              outcome.build.status]) = some first →
        (args.scheduleIntervalMs : Int) ∣ earlier →
        first ≤ earlier →
        earlier < selected →
        Pointed args bucket earlier) :
    Covered args
      (runDecision (workerTick.args args) decision nowMs outcome bucket).1
      (log ++ [.sequential decision.inputRange
        outcome.build.status]) := by
  have intervalPositive := args.scheduleIntervalMs.2.1
  have startShape : decision.inputRange.startMs = selected := by
    rw [window, scheduleWindow]
  have endShape :
      decision.inputRange.endMs =
        selected + args.scheduleIntervalMs := by
    rw [window, scheduleWindow]
  have ownStart {startMs : Int}
      (startAligned : (args.scheduleIntervalMs : Int) ∣ startMs)
      (lower : decision.inputRange.startMs ≤ startMs)
      (upper : startMs < decision.inputRange.endMs) :
      startMs = selected :=
    eq_of_dvd_of_lt startAligned aligned (by omega) (by omega)
  refine ⟨covered.pointers.runDecision _ _ _ _, ?_, ?_, ?_⟩
  · intro startMs startAligned pointed
    rcases added_pointerAt pointed with before | ⟨notBlocked, lower, upper⟩
    · obtain ⟨status, notBlocked, ran⟩ :=
        covered.recorded startMs startAligned before
      exact ⟨status, notBlocked, List.mem_append_left _ ran⟩
    · rw [ownStart startAligned lower upper, ← window]
      exact ⟨_, notBlocked, List.mem_append_right _ (by simp)⟩
  · intro pointer stored
    rcases successStored_runDecision stored with before | ⟨success, range⟩
    · obtain ⟨startMs, startAligned, shape, ran⟩ :=
        covered.successes pointer before
      exact ⟨startMs, startAligned, shape, List.mem_append_left _ ran⟩
    · refine ⟨selected, aligned, range.trans window, ?_⟩
      rw [← window, ← success]
      exact List.mem_append_right _ (by simp)
  · intro startMs first earlier ran isFirst earlierAligned above before
    rcases List.mem_append.mp ran with old | new
    · have sameFirst : firstWindow? log = some first := by
        cases log with
        | nil => cases old
        | cons head rest => exact isFirst
      exact pointerAt_runDecision_isSome
        (covered.passed startMs first earlier old sameFirst
          earlierAligned above before)
    · -- The run itself is successful, so nothing is left behind.
      simp only [List.mem_singleton, DrainEvent.sequential.injEq] at new
      have same : startMs = selected := by
        rw [window, scheduleWindow, scheduleWindow] at new
        exact (InputRange.mk.inj new.1).1
      by_cases last : earlier = selected
      · rw [last, ← startShape]
        refine pointerAt_start_of_ok returned (by omega) ?_
        rw [← new.2]
        decide
      · exact pointerAt_runDecision_isSome
          (behind new.2.symm first earlier isFirst earlierAligned above
            (by omega))

/-- One round of the loop keeps the links. -/
private theorem tickCovered_step
    (scheduled : args.Scheduled)
    (returns :
      ∀ index, (workerTick.drain.outcomes index).Returns)
    (covered : Covered args history.bucket history.log)
    (leaves : LeavesNoneBehind args history workerTick)
    {remaining : Nat}
    {state after : DrainState}
    (linked : TickCovered args history workerTick (remaining + 1) state)
    (step :
      DrainStep (workerTick.args args) workerTick.drain state after) :
    TickCovered args history workerTick remaining after := by
  have bound := linked.bound
  cases step with
  | stop =>
      exact { linked with bound := by omega }
  | skip decision decided duplicate =>
      rw [linked.noLive] at duplicate
      cases duplicate
  | abandoned decision decided failed =>
      exact absurd
        ((runDecision_ok_iff decision _ _).mpr (returns _ _)) failed
  | ran decision decided fresh returned =>
      obtain ⟨start, resumed, startAligned, startNonneg, window,
        representable, emptyEvents, firstEvent⟩ :=
        selected_start scheduled linked decided
      have intervalPositive := args.scheduleIntervalMs.2.1
      set outcome :=
        workerTick.drain.outcomes state.processedWindows with outcomeShape
      set selected :=
        start + state.processedWindows * args.scheduleIntervalMs
        with selectedShape
      have offset :
          0 ≤ (state.processedWindows : Int) * args.scheduleIntervalMs :=
        Int.mul_nonneg (by omega) (le_of_lt intervalPositive)
      have selectedAligned :
          (args.scheduleIntervalMs : Int) ∣ selected :=
        Int.dvd_add startAligned (Int.dvd_mul_left _ _)
      have nonempty :
          decision.inputRange.startMs < decision.inputRange.endMs := by
        rw [window, scheduleWindow]
        simp only
        omega
      have startShape : decision.inputRange.startMs = selected := by
        rw [window, scheduleWindow]
      have endShape :
          decision.inputRange.endMs =
            selected + args.scheduleIntervalMs := by
        rw [window, scheduleWindow]
      have grows (startMs : Int)
          (pointed : Pointed args state.bucket startMs) :
          Pointed args
            (runDecision (workerTick.args args) decision state.nowMs
              outcome state.bucket).1
            startMs :=
        pointerAt_runDecision_isSome pointed
      have pointedSelected
          (notBlocked : outcome.build.status ≠ .blocked) :
          Pointed args
            (runDecision (workerTick.args args) decision state.nowMs
              outcome state.bucket).1
            selected := by
        rw [← startShape]
        exact pointerAt_start_of_ok returned nonempty notBlocked
      have startFirst :
          firstWindow?
              (state.events ++
                [.sequential decision.inputRange outcome.build.status]) =
            some start := by
        rcases firstEvent with none | some
        · have noEvents : state.events = [] := by
            simpa [firstWindow?] using none
          simp [noEvents, firstWindow?, DrainEvent.range, startShape,
            selectedShape, emptyEvents noEvents]
        · cases events : state.events with
          | nil =>
              simp [events, firstWindow?] at some
          | cons head rest =>
              simpa [events, firstWindow?] using some
      refine
        { bound := by simp only [advance_processed]; omega
          noLive := linked.noLive
          clock := ⟨_, rfl⟩
          kept := fun startMs pointed => grows _ (linked.kept _ pointed)
          cursor := .inr ⟨start, resumed, startAligned, ?_, ?_,
            startNonneg, startFirst⟩
          ran := ?_
          covered := ?_ }
      · simp only [advance_last, advance_processed, endShape,
          selectedShape, Option.some.injEq]
        rw [Nat.cast_add_one, Int.add_mul, Int.one_mul]
        omega
      · simp only [advance_processed]
        rw [endShape] at representable
        rw [Nat.cast_add_one, Int.add_mul, Int.one_mul]
        omega
      · intro other earlier sameStart before notBlocked
        rw [resumed] at sameStart
        obtain rfl := Option.some.inj sameStart
        simp only [advance_processed] at before
        by_cases last : earlier = state.processedWindows
        · rw [last] at notBlocked ⊢
          exact pointedSelected notBlocked
        · exact grows _
            (linked.ran start earlier resumed (by omega) notBlocked)
      · simp only [advance_bucket, advance_events, ← List.append_assoc]
        refine linked.covered.afterRun selectedAligned window returned ?_
        intro success first earlier isFirst aligned above before
        by_cases inTick : start ≤ earlier
        · -- The window was run in this tick, as one of its earlier ones.
          obtain ⟨index, shape⟩ :=
            Int.dvd_sub aligned startAligned
          have indexNonneg : 0 ≤ index := by
            by_contra negative
            have := Int.mul_neg_of_pos_of_neg intervalPositive
              (not_le.mp negative)
            omega
          have indexSmall : index < state.processedWindows := by
            by_contra large
            have := Int.mul_le_mul_of_nonneg_left (not_lt.mp large)
              (le_of_lt intervalPositive)
            rw [Int.mul_comm] at this
            omega
          have earlierShape :
              earlier =
                start + index.toNat * args.scheduleIntervalMs := by
            rw [Int.toNat_of_nonneg indexNonneg, Int.mul_comm]
            omega
          rw [earlierShape]
          by_cases blocked :
              (workerTick.drain.outcomes index.toNat).build.status =
                .blocked
          · exact linked.kept _
              (leaves.noSuccessAfterBlocked start index.toNat
                state.processedWindows resumed (by omega) (by omega)
                blocked success)
          · exact linked.ran start index.toNat resumed (by omega) blocked
        · have inHistory : firstWindow? history.log = some first := by
            cases log : history.log with
            | nil =>
                rw [log, List.nil_append, startFirst] at isFirst
                have := Option.some.inj isFirst
                omega
            | cons head rest =>
                rw [log] at isFirst
                exact isFirst
          refine linked.kept _
            (pointed_before_start covered leaves resumed startNonneg ?_
              inHistory aligned above (by omega))
          omega

/-- A tick that leaves no window behind keeps the links. -/
private theorem stepTick_covered
    (scheduled : args.Scheduled)
    (noLive : args.livePriority = false)
    (returns :
      ∀ index, (workerTick.drain.outcomes index).Returns)
    (covered : Covered args history.bucket history.log)
    (leaves : LeavesNoneBehind args history workerTick) :
    Covered args (stepTick args history workerTick).bucket
      (stepTick args history workerTick).log := by
  have started := @tickCovered_start args history workerTick covered
  have shape :=
    @drainReadyWindows_sequential (workerTick.args args) noLive
      workerTick.drain history.bucket
  unfold stepTick
  rw [shape]
  split_ifs
  · exact started.covered
  · obtain ⟨left, linked⟩ :=
      drainLoop_preserves
        (tickCovered_step scheduled returns covered leaves) started
    exact linked.covered

end Ticks

/--
In every sequence of ticks without live priority whose runs all return, if no
tick leaves a window behind, then whenever the frontier is looked up, every
window from the first one ever run up to it has a pointer and a run that was not
blocked.
-/
theorem frontierPointed_of_leavesNoneBehind
    (args : NormalizeArgs)
    (scheduled : args.Scheduled)
    (noLive : args.livePriority = false)
    (workerTicks : List WorkerTick)
    (returns :
      ∀ workerTick ∈ workerTicks,
        ∀ index, (workerTick.drain.outcomes index).Returns)
    (leaves :
      Runs.Along (stepTick args) (LeavesNoneBehind args) .start
        workerTicks) :
    Runs.Always (stepTick args) (FrontierPointed args) .start
      workerTicks := by
  have initially :
      Covered args WorkerHistory.start.bucket
        WorkerHistory.start.log := by
    refine ⟨pointerBucket_empty, ?_, ?_, ?_⟩
    · intro startMs _ pointed
      cases pointed
    · intro pointer stored
      cases stored.stored
    · intro startMs first earlier ran
      cases ran
  have always :
      Runs.Always (stepTick args)
        (fun history => Covered args history.bucket history.log)
        .start workerTicks :=
    Runs.always_of_along initially
      (fun covered met =>
        stepTick_covered scheduled noLive met.2 covered met.1)
      (leaves.and_forall returns)
  exact always.imp (fun covered => covered.frontierPointed)

/-- A tick of one window with the given build. -/
def oneWindowTick (build : BuildResult) : WorkerTick where
  livePriorityOnly := false
  maxWindowsPerTick := ⟨1, Nat.one_pos⟩
  drain := quietTick (fun _ => build)

/-- A tick of one window that starts at the oldest object leaves none behind. -/
private theorem oneWindowTick_leavesNone
    (build : BuildResult)
    {history : WorkerHistory}
    (fromZero :
      ∀ first, firstWindow? history.log = some first → 0 ≤ first) :
    LeavesNoneBehind minuteArgs history (oneWindowTick build) where
  noSuccessAfterBlocked := by
    intro start earlier later _ before small
    have one : later < 1 := small
    omega
  oldestCovered := by
    intro first oldest startMs _ known isFirst _ above below
    have lower := fromZero first isFirst
    have zero : oldest = 0 := (Option.some.inj known).symm
    have floor :
        alignFloor 0 (minuteArgs.scheduleIntervalMs : Int) = 0 := by
      decide
    rw [zero, floor] at below
    omega

/-- A blocked window is run again before the frontier passes it. -/
theorem blockedWindow_retried :
    Runs.Always (stepTick minuteArgs) (FrontierPointed minuteArgs) .start
      [oneWindowTick ⟨1, 0⟩, oneWindowTick ⟨0, 1⟩] := by
  refine frontierPointed_of_leavesNoneBehind minuteArgs ⟨rfl, rfl⟩ rfl _
    ?_ ⟨?_, ?_, trivial⟩
  · intro workerTick member index
    rcases List.mem_pair.mp member with rfl | rfl
    · exact RunOutcome.undisturbed_returns _
    · exact RunOutcome.undisturbed_returns _
  · exact oneWindowTick_leavesNone _ (fun first isFirst => by cases isFirst)
  · refine oneWindowTick_leavesNone _ (fun first isFirst => ?_)
    have logged :
        firstWindow?
          (stepTick minuteArgs .start (oneWindowTick ⟨1, 0⟩)).log =
            some 0 := by
      decide +kernel
    rw [logged] at isFirst
    exact le_of_eq (Option.some.inj isFirst)

/-- A tick whose first window is blocked and whose second is successful. -/
def blockedThenSuccessTick : WorkerTick where
  livePriorityOnly := false
  maxWindowsPerTick := ⟨2, by decide⟩
  drain :=
    quietTick (fun index => if index = 0 then ⟨1, 0⟩ else ⟨0, 1⟩)

/-- The frontier is after the blocked window, which has no pointer. -/
theorem blockedWindow_leftBehind :
    (∀ index,
        (blockedThenSuccessTick.drain.outcomes index).Returns) ∧
      ¬ Runs.Always (stepTick minuteArgs) (FrontierPointed minuteArgs)
        .start [blockedThenSuccessTick] := by
  refine ⟨fun index => RunOutcome.undisturbed_returns _, ?_⟩
  intro always
  have resolved :
      resolveLastL1SuccessEndMs .none
          (stepTick minuteArgs .start blockedThenSuccessTick).bucket
          60000 600000 =
        .ok (some 120000) := by
    decide +kernel
  have logged :
      firstWindow?
        (stepTick minuteArgs .start blockedThenSuccessTick).log =
          some 0 := by
    decide +kernel
  have pointed :=
    (always.final .none 600000 120000 resolved 0 0 logged (by simp)
      (le_refl 0) (by decide)).1
  have missing :
      (pointerAt
        (stepTick minuteArgs .start blockedThenSuccessTick).bucket
        60000 0).isSome = false := by
    decide +kernel
  rw [Pointed] at pointed
  exact absurd (missing.symm.trans pointed) (by decide)

end MarketIngest.Normalize
