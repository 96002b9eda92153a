import MarketIngest.BlockedWindows
import MarketIngest.PointerHistory

namespace MarketIngest.Normalize

open S3

/-!
# Progress of ticks that reach their bound

Inside a tick the frontier moves past empty windows, but the next tick looks it
up in successful pointers only.  After a tick that reached its bound on windows,
the next one continues behind its last window exactly if the pointer that its
lookup meets first is of that window or a later one.
-/

/-- A request of the lookup of a tick fails. -/
def LookupFails
    (args : NormalizeArgs)
    (tick : DrainTick)
    (bucket : Bucket) : Prop :=
  ∃ failure,
    resolveLastL1SuccessEndMs tick.faults bucket args.windowMs
      (tick.clock.nowMs 1) = .error failure

/--
The store lets a tick continue at or after an end: the pointer met first ends
there or later, or without such a pointer there is no older L0 object.
-/
structure ResumesAfter
    (args : NormalizeArgs)
    (tick : DrainTick)
    (bucket : Bucket)
    (completedEndMs : Int) : Prop where
  frontier :
    ∀ seen,
      ¬ LookupFails args tick bucket →
      MetFirst bucket args.windowMs (tick.clock.nowMs 1) seen →
      completedEndMs ≤ seen.inputRange.endMs
  oldest :
    ∀ oldest,
      (LookupFails args tick bucket ∨
        ∀ seen,
          ¬ MetFirst bucket args.windowMs (tick.clock.nowMs 1) seen) →
      tick.oldestL0ObjectMs = some oldest →
      0 ≤ oldest →
      completedEndMs ≤ oldest

/-- The end of the last window of some events. -/
def lastCompletedEnd? (events : List DrainEvent) : Option Int :=
  events.getLast?.map (·.range.endMs)

/-- The start of the first window of some events. -/
def firstSelectedStart? (events : List DrainEvent) : Option Int :=
  events.head?.map (·.range.startMs)

section Lookup

variable
  {args : NormalizeArgs}
  {tick : DrainTick}
  {bucket : Bucket}

/-- When a tick has a frontier to continue from. -/
theorem resolved_eq_some_iff
    (pointers : PointerBucket bucket)
    {endMs : Int} :
    tick.resolved args bucket = some endMs ↔
      ¬ LookupFails args tick bucket ∧
        ∃ seen,
          MetFirst bucket args.windowMs (tick.clock.nowMs 1) seen ∧
            seen.inputRange.endMs = endMs := by
  rw [DrainTick.resolved, resolveL1SuccessEndMsOrWarn_eq_some_iff,
    ← resolve_eq_some_iff pointers]
  constructor
  · intro found
    refine ⟨?_, resolveLastL1SuccessEndMs_of_ok found⟩
    rintro ⟨failure, failed⟩
    rw [found] at failed
    cases failed
  · rintro ⟨succeeds, quiet⟩
    cases answer :
        resolveLastL1SuccessEndMs tick.faults bucket args.windowMs
          (tick.clock.nowMs 1) with
    | error failure => exact absurd ⟨failure, answer⟩ succeeds
    | ok value =>
        have same := resolveLastL1SuccessEndMs_of_ok answer
        rw [quiet] at same
        exact same.symm

/-- When a tick has no frontier. -/
theorem resolved_eq_none_iff
    (pointers : PointerBucket bucket) :
    tick.resolved args bucket = none ↔
      LookupFails args tick bucket ∨
        ∀ seen,
          ¬ MetFirst bucket args.windowMs (tick.clock.nowMs 1) seen := by
  constructor
  · intro none
    by_contra neither
    obtain ⟨succeeds, some⟩ := not_or.mp neither
    obtain ⟨seen, met⟩ := not_forall_not.mp some
    rw [(resolved_eq_some_iff pointers).mpr
      ⟨succeeds, seen, met, rfl⟩] at none
    cases none
  · intro hidden
    cases found : tick.resolved args bucket with
    | none => rfl
    | some endMs =>
        obtain ⟨succeeds, seen, met, -⟩ :=
          (resolved_eq_some_iff pointers).mp found
        rcases hidden with fails | none
        · exact absurd fails succeeds
        · exact absurd met (none seen)

/-- A tick that resolves a frontier resumes after every end up to it. -/
theorem resumesAfter_of_resolved
    (pointers : PointerBucket bucket)
    {frontier completedEndMs : Int}
    (found : tick.resolved args bucket = some frontier)
    (reached : completedEndMs ≤ frontier) :
    ResumesAfter args tick bucket completedEndMs where
  frontier := by
    intro seen succeeds met
    rw [(resolved_eq_some_iff pointers).mpr
      ⟨succeeds, seen, met, rfl⟩] at found
    rw [Option.some.inj found]
    exact reached
  oldest := by
    intro oldest hidden
    rw [(resolved_eq_none_iff pointers).mpr hidden] at found
    cases found

end Lookup

section Stores

/-- Pointers as runs of aligned ranges write them. -/
structure PublishedStore (bucket : Bucket) : Prop where
  pointers : PointerBucket bucket
  nonneg :
    ∀ windowMs pointer,
      SuccessStored bucket windowMs pointer →
      0 ≤ pointer.inputRange.endMs

/-- A run of a range from the epoch on keeps the store published. -/
theorem PublishedStore.runDecision
    {bucket : Bucket}
    (published : PublishedStore bucket)
    (args : NormalizeArgs)
    {decision : RunDecision}
    (nonneg : 0 ≤ decision.inputRange.endMs)
    (nowMs : Int)
    (outcome : RunOutcome) :
    PublishedStore
      (runDecision args decision nowMs outcome bucket).1 := by
  refine ⟨published.pointers.runDecision _ _ _ _, ?_⟩
  intro windowMs pointer stored
  rcases successStored_runDecision stored with before | ⟨-, range⟩
  · exact published.nonneg windowMs pointer before
  · rw [range]
    exact nonneg

/-- What runs have written is a published store. -/
theorem publishedStore_run
    (runs : List NormalizeRun) :
    PublishedStore (Runs.run stepRun .empty runs) := by
  refine Runs.run_induction runs ?_ ?_
  · refine ⟨pointerBucket_empty, ?_⟩
    intro windowMs pointer stored
    cases stored.stored
  · intro bucket normalizeRun published
    have nonneg := normalizeRun.aligned.nonneg
    have nonempty := normalizeRun.aligned.nonempty
    exact published.runDecision _ (by omega) _ _

end Stores

section FirstSelection

variable
  {args : NormalizeArgs}
  {tick : DrainTick}
  {state : DrainState}

/-- The loop only appends events. -/
private theorem drainLoop_appends
    (remaining : Nat) :
    state.events <+: (drainLoop args tick remaining state).1.events := by
  obtain ⟨-, appended⟩ :=
    @drainLoop_preserves args tick state
      (fun _ current => state.events <+: current.events)
      (by
        intro remaining before after held step
        cases step with
        | stop => exact held
        | skip => exact held.trans (List.prefix_append _ _)
        | ran => exact held.trans (List.prefix_append _ _)
        | abandoned => exact held.trans (List.prefix_append _ _))
      remaining (List.prefix_refl _)
  exact appended

/-- A selected window is what the next event is about. -/
private theorem runNextReadyDecision_event
    {decision : RunDecision}
    (decided :
      decideMode args state.nowMs state.lastL1SuccessEndMs
        state.oldestL0ObjectMs = .ok (some decision)) :
    ∃ event,
      event.range = decision.inputRange ∧
      (runNextReadyDecision args tick state).1.events =
        state.events ++ [event] := by
  simp only [runNextReadyDecision, decided]
  split_ifs with duplicate
  · exact ⟨.duplicateSkipped decision.inputRange, rfl, rfl⟩
  · refine ⟨.sequential decision.inputRange
      (tick.outcomes state.processedWindows).build.status, rfl, ?_⟩
    rcases runDecision args decision state.nowMs
        (tick.outcomes state.processedWindows) state.bucket with
      ⟨bucket, result⟩
    cases result with
    | error failure => rfl
    | ok => rfl

/-- The first window that a loop selects is decided by its first round. -/
theorem drainLoop_firstSelected
    (noEvents : state.events = [])
    (continues : tick.shutdownBefore state.processedWindows = false)
    (remaining : Nat) :
    firstSelectedStart?
        (drainLoop args tick (remaining + 1) state).1.events =
      match decideMode args state.nowMs state.lastL1SuccessEndMs
          state.oldestL0ObjectMs with
      | .ok (some decision) => some decision.inputRange.startMs
      | _ => none := by
  cases decided :
      decideMode args state.nowMs state.lastL1SuccessEndMs
        state.oldestL0ObjectMs with
  | error message =>
      simp [drainLoop, drainIteration, runNextReadyDecision, decided,
        continues, noEvents, firstSelectedStart?]
  | ok selection =>
      cases selection with
      | none =>
          simp [drainLoop, drainIteration, runNextReadyDecision, decided,
            continues, noEvents, firstSelectedStart?]
      | some decision =>
          obtain ⟨event, sameRange, events⟩ :=
            @runNextReadyDecision_event args tick state decision decided
          rw [noEvents, List.nil_append] at events
          have rest (others : Nat) (after : DrainState)
              (shape : after.events = [event]) :
              firstSelectedStart?
                  (drainLoop args tick others after).1.events =
                some decision.inputRange.startMs := by
            obtain ⟨tail, whole⟩ :=
              @drainLoop_appends args tick after others
            rw [← whole, shape, ← sameRange]
            rfl
          simp only [drainLoop, drainIteration, continues]
          rcases run : runNextReadyDecision args tick state with
            ⟨after, exit⟩
          rw [run] at events
          cases exit with
          | some exit => exact rest 0 after events
          | none =>
              cases stops : tick.shutdownAfter after.processedWindows with
              | true =>
                  simpa [stops, drainLoop] using rest 0 after events
              | false =>
                  simpa [stops] using rest remaining after events

end FirstSelection

section Capped

variable
  {args : NormalizeArgs}
  {first next : DrainTick}
  {bucket : Bucket}

/-- What holds inside a tick about its store and its last window. -/
private structure Selecting
    (args : NormalizeArgs)
    (tick : DrainTick)
    (state : DrainState) : Prop where
  clock : ∃ reading, state.nowMs = tick.clock.nowMs reading
  published : PublishedStore state.bucket
  last :
    ∀ endMs,
      lastCompletedEnd? state.events = some endMs →
      ∃ reading lastL1SuccessEndMs oldestL0ObjectMs decision,
        decideMode args (tick.clock.nowMs reading) lastL1SuccessEndMs
            oldestL0ObjectMs = .ok (some decision) ∧
          decision.inputRange.endMs = endMs

/-- One round of the loop selects its window at a reading of the clock. -/
private theorem Selecting.step
    (scheduled : args.Scheduled)
    {state after : DrainState}
    (selecting : Selecting args first state)
    (step : DrainStep args first state after) :
    Selecting args first after := by
  obtain ⟨reading, now⟩ := selecting.clock
  have appended {decision : RunDecision} {event : DrainEvent}
      (decided :
        decideMode args state.nowMs state.lastL1SuccessEndMs
          state.oldestL0ObjectMs = .ok (some decision))
      (sameRange : event.range = decision.inputRange)
      (endMs : Int)
      (last : lastCompletedEnd? (state.events ++ [event]) = some endMs) :
      ∃ reading lastL1SuccessEndMs oldestL0ObjectMs decision,
        decideMode args (first.clock.nowMs reading) lastL1SuccessEndMs
            oldestL0ObjectMs = .ok (some decision) ∧
          decision.inputRange.endMs = endMs := by
    refine ⟨reading, _, _, decision, now ▸ decided, ?_⟩
    simpa [lastCompletedEnd?, sameRange] using last
  have stored {decision : RunDecision}
      (decided :
        decideMode args state.nowMs state.lastL1SuccessEndMs
          state.oldestL0ObjectMs = .ok (some decision)) :
      PublishedStore
        (runDecision args decision state.nowMs
          (first.outcomes state.processedWindows) state.bucket).1 := by
    obtain ⟨-, -, -, -, -, aligned⟩ :=
      decideMode_eq_some scheduled decided
    have nonneg := aligned.nonneg
    have nonempty := aligned.nonempty
    exact selecting.published.runDecision _ (by omega) _ _
  cases step with
  | stop =>
      exact selecting
  | skip decision decided duplicate =>
      exact ⟨⟨_, rfl⟩, selecting.published, appended decided rfl⟩
  | ran decision decided fresh returned =>
      exact ⟨⟨_, rfl⟩, stored decided, appended decided rfl⟩
  | abandoned decision decided failed =>
      exact ⟨⟨reading, now⟩, stored decided, appended decided rfl⟩

/-- What a tick that reached its bound leaves. -/
private theorem selecting_of_capped
    (scheduled : args.Scheduled)
    (noLive : args.livePriority = false)
    (published : PublishedStore bucket)
    (capped :
      (drainReadyWindows args first bucket).2 = .maxWindowsReached) :
    args.livePriorityOnly = false ∧
      Selecting args first (drainReadyWindows args first bucket).1 := by
  rw [drainReadyWindows_sequential noLive] at capped ⊢
  split_ifs at capped ⊢ with liveOnly
  refine ⟨by simpa using liveOnly, ?_⟩
  have started : Selecting args first (startDrain args first bucket) := by
    refine ⟨⟨0, rfl⟩, published, ?_⟩
    intro endMs last
    simp [startDrain, lastCompletedEnd?] at last
  obtain ⟨-, selecting⟩ :=
    @drainLoop_preserves args first _ (fun _ => Selecting args first)
      (fun selecting step => selecting.step scheduled step)
      args.maxWindowsPerTick.1 started
  exact selecting

/-- What the first selection of the next tick is decided by. -/
private theorem next_firstSelected
    (noLive : args.livePriority = false)
    (sequential : args.livePriorityOnly = false)
    (continues : next.shutdownBefore 0 = false) :
    firstSelectedStart? (drainReadyWindows args next bucket).1.events =
      match decideMode args (next.clock.nowMs 0)
          (startDrain args next bucket).lastL1SuccessEndMs
          (startDrain args next bucket).oldestL0ObjectMs with
      | .ok (some decision) => some decision.inputRange.startMs
      | _ => none := by
  obtain ⟨windows, bound⟩ :=
    Nat.exists_eq_succ_of_ne_zero (ne_of_gt args.maxWindowsPerTick.2)
  rw [drainReadyWindows_sequential noLive, sequential, bound]
  exact drainLoop_firstSelected rfl continues windows

/-- A tick that is shut down first selects nothing. -/
private theorem next_shutdown
    (noLive : args.livePriority = false)
    (stopped : next.shutdownBefore 0 = true) :
    (drainReadyWindows args next bucket).1.events = [] := by
  obtain ⟨windows, bound⟩ :=
    Nat.exists_eq_succ_of_ne_zero (ne_of_gt args.maxWindowsPerTick.2)
  rw [drainReadyWindows_sequential noLive, bound]
  split_ifs
  · rfl
  · have stops :
        next.shutdownBefore
            (startDrain args next bucket).processedWindows = true :=
      stopped
    simp only [drainLoop, drainIteration, stops, ↓reduceIte]
    rfl

/-- What was selected once can be selected again later, or any window before. -/
private theorem selected_again
    (scheduled : args.Scheduled)
    {earlier later : Int}
    {last oldest lastAgain oldestAgain : Option Int}
    {decision : RunDecision}
    (earlierNonneg : 0 ≤ earlier)
    (laterSmall : later ≤ i64Max)
    (ordered : earlier ≤ later)
    (decided :
      decideMode args earlier last oldest = .ok (some decision))
    {candidate startMs : Int}
    (located :
      nextStartCandidate args.scheduleIntervalMs lastAgain oldestAgain =
        some candidate)
    (startShape : alignFloor candidate args.scheduleIntervalMs = startMs)
    (startAligned : (args.scheduleIntervalMs : Int) ∣ startMs)
    (startNonneg : 0 ≤ startMs)
    (below : startMs < decision.inputRange.endMs) :
    ∃ runMode,
      decideMode args later lastAgain oldestAgain =
        .ok (some
          { runMode := runMode
            inputRange :=
              ⟨startMs, startMs + args.scheduleIntervalMs⟩ }) := by
  have intervalPositive := args.scheduleIntervalMs.2.1
  obtain ⟨-, -, -, endShape, closed, aligned⟩ :=
    decideMode_eq_some scheduled decided
  have oneInterval :=
    add_le_of_dvd_of_lt startAligned aligned.intervalEnd below
  have closedLater :=
    readyEndMs_mono earlierNonneg intervalPositive ordered
  have laterReady :=
    readyEndMs_spec (le_trans earlierNonneg ordered) intervalPositive
  have windowInterval :
      (args.windowMs : Int) ∣ args.scheduleIntervalMs := by
    have difference :=
      Int.dvd_sub aligned.windowEnd aligned.windowStart
    rwa [endShape, add_sub_cancel_left] at difference
  have windowStart : (args.windowMs : Int) ∣ startMs :=
    Int.dvd_trans windowInterval startAligned
  refine decideMode_of_ready scheduled located startShape ?_ (by omega)
    (by omega) ?_
  · exact
      { nonneg := startNonneg
        nonempty := by simp only; omega
        windowStart := windowStart
        windowEnd := Int.dvd_add windowStart windowInterval
        intervalStart := startAligned
        intervalEnd := Int.dvd_add startAligned (Int.dvd_refl _) }
  · -- Both readings close the same newest window, whose watermark is reached.
    intro newest
    have watermark :=
      decideMode_watermark scheduled decided (by omega)
    have same :
        readyEndMs earlier args.scheduleIntervalMs =
          readyEndMs later args.scheduleIntervalMs := by
      omega
    rw [← same]
    exact le_trans watermark ordered

/-- A tick that resumes after an aligned end selects nothing before it. -/
private theorem ResumesAfter.not_before
    (scheduled : args.Scheduled)
    (published : PublishedStore bucket)
    {completedEndMs : Int}
    (endAligned : (args.scheduleIntervalMs : Int) ∣ completedEndMs)
    (resumes : ResumesAfter args next bucket completedEndMs)
    {decision : RunDecision}
    (decided :
      decideMode args (next.clock.nowMs 0)
        (startDrain args next bucket).lastL1SuccessEndMs
        (startDrain args next bucket).oldestL0ObjectMs =
          .ok (some decision)) :
    completedEndMs ≤ decision.inputRange.startMs := by
  have intervalPositive := args.scheduleIntervalMs.2.1
  obtain ⟨candidate, located, startShape, endShape, closed, aligned⟩ :=
    decideMode_eq_some scheduled decided
  have startNonneg := aligned.nonneg
  have small : decision.inputRange.endMs ≤ i64Max :=
    le_trans closed (le_trans
      (readyEndMs_spec (next.clock.nonneg 0) intervalPositive).2.2.1
      (next.clock.le_i64Max 0))
  have floor :=
    @alignFloor_spec candidate args.scheduleIntervalMs intervalPositive
      (by rw [← startShape, i64Min]; omega)
      (by rw [← startShape]; omega)
  rw [← startShape] at floor
  -- An aligned end that is not after the candidate is not after its floor.
  suffices notAfter : completedEndMs ≤ candidate by
    by_contra before
    have gap :=
      add_le_of_dvd_of_lt aligned.intervalStart endAligned
        (not_le.mp before)
    omega
  cases found : next.resolved args bucket with
  | some endMs =>
      simp only [startDrain, found, resolveInitialL0L1State,
        nextStartCandidate, Option.some.injEq] at located
      obtain ⟨succeeds, seen, met, sameEnd⟩ :=
        (resolved_eq_some_iff published.pointers).mp found
      have := resumes.frontier seen succeeds met
      omega
  | none =>
      simp only [startDrain, found, resolveInitialL0L1State,
        nextStartCandidate, Option.isNone_none, ↓reduceIte] at located
      obtain ⟨oldest, known, shape⟩ := Option.map_eq_some_iff.mp located
      have oldestFloor :=
        @alignFloor_spec oldest args.scheduleIntervalMs intervalPositive
          (by rw [shape, i64Min]; omega)
          (by rw [shape]; omega)
      rw [shape] at oldestFloor
      have notAfter :=
        resumes.oldest oldest
          ((resolved_eq_none_iff published.pointers).mp found) known
          (by omega)
      by_contra before
      have gap :=
        add_le_of_dvd_of_lt oldestFloor.1 endAligned (not_le.mp before)
      omega

end Capped

/--
After a tick that reached its bound on windows, the first window that the next
tick selects starts at or after the end of the last completed one if and only if
shutdown comes first or the store lets the next tick continue there.
-/
theorem cappedTick_progress_iff
    (args : NormalizeArgs)
    (scheduled : args.Scheduled)
    (noLive : args.livePriority = false)
    (runs : List NormalizeRun)
    (first next : DrainTick)
    (later :
      ∀ reading, first.clock.nowMs reading ≤ next.clock.nowMs 0)
    (capped :
      (drainReadyWindows args first
        (Runs.run stepRun .empty runs)).2 = .maxWindowsReached)
    (completedEndMs : Int)
    (completed :
      lastCompletedEnd?
          (drainReadyWindows args first
            (Runs.run stepRun .empty runs)).1.events =
        some completedEndMs) :
    (∀ startMs,
      firstSelectedStart?
          (drainReadyWindows args next
            (drainReadyWindows args first
              (Runs.run stepRun .empty runs)).1.bucket).1.events =
        some startMs →
      completedEndMs ≤ startMs) ↔
      next.shutdownBefore 0 = true ∨
        ResumesAfter args next
          (drainReadyWindows args first
            (Runs.run stepRun .empty runs)).1.bucket
          completedEndMs := by
  have intervalPositive := args.scheduleIntervalMs.2.1
  obtain ⟨sequential, selecting⟩ :=
    selecting_of_capped scheduled noLive (publishedStore_run runs) capped
  obtain ⟨reading, last, oldest, decision, decided, sameEnd⟩ :=
    selecting.last completedEndMs completed
  obtain ⟨-, -, -, -, closed, aligned⟩ :=
    decideMode_eq_some scheduled decided
  have endAligned : (args.scheduleIntervalMs : Int) ∣ completedEndMs :=
    sameEnd ▸ aligned.intervalEnd
  have endSmall : completedEndMs ≤ i64Max := by
    rw [← sameEnd]
    exact le_trans closed (le_trans
      (readyEndMs_spec (first.clock.nonneg reading)
        intervalPositive).2.2.1
      (first.clock.le_i64Max reading))
  set left :=
    (drainReadyWindows args first (Runs.run stepRun .empty runs)).1.bucket
  have published : PublishedStore left := selecting.published
  cases stopped : next.shutdownBefore 0 with
  | true =>
      refine iff_of_true ?_ (.inl rfl)
      intro startMs selected
      rw [next_shutdown noLive stopped] at selected
      cases selected
  | false =>
      rw [next_firstSelected noLive sequential stopped]
      constructor
      · intro bound
        have excluded (candidate : Int)
            (located :
              nextStartCandidate args.scheduleIntervalMs
                  (startDrain args next left).lastL1SuccessEndMs
                  (startDrain args next left).oldestL0ObjectMs =
                some candidate)
            (nonneg : 0 ≤ candidate) :
            completedEndMs ≤ candidate := by
          by_contra before
          obtain ⟨floorAligned, floorNonneg, floorLower, -⟩ :=
            alignFloor_of_nonneg intervalPositive nonneg (by omega)
          obtain ⟨runMode, again⟩ :=
            selected_again scheduled (first.clock.nonneg reading)
              (next.clock.le_i64Max 0) (later reading) decided located
              rfl floorAligned floorNonneg (by omega)
          rw [again] at bound
          have notBefore :
              completedEndMs ≤
                alignFloor candidate args.scheduleIntervalMs :=
            bound _ rfl
          omega
        refine .inr ⟨?_, ?_⟩
        · intro seen succeeds met
          have found :=
            (resolved_eq_some_iff published.pointers).mpr
              ⟨succeeds, seen, met, rfl⟩
          refine excluded _ ?_ (published.nonneg _ seen met.1)
          simp [startDrain, found, resolveInitialL0L1State,
            nextStartCandidate]
        · intro oldest hidden known nonneg
          have found :=
            (resolved_eq_none_iff published.pointers).mpr hidden
          by_contra before
          obtain ⟨-, floorNonneg, floorLower, -⟩ :=
            alignFloor_of_nonneg intervalPositive nonneg (by omega)
          have notBefore :=
            excluded (alignFloor oldest args.scheduleIntervalMs)
              (by
                simp [startDrain, found, resolveInitialL0L1State,
                  nextStartCandidate, known])
              floorNonneg
          omega
      · intro resumes startMs selected
        rcases resumes with stops | resumes
        · cases stops
        · split at selected
          · rename_i decision again
            rw [← Option.some.inj selected]
            exact resumes.not_before scheduled published endAligned again
          · cases selected

/-- A tick of one successful window lets the next one continue behind it. -/
theorem successTick_progress :
    lastCompletedEnd?
        (drainReadyWindows ((oneWindowTick ⟨0, 1⟩).args minuteArgs)
          (oneWindowTick ⟨0, 1⟩).drain .empty).1.events =
      some 60000 ∧
    ∀ startMs,
      firstSelectedStart?
          (drainReadyWindows ((oneWindowTick ⟨0, 1⟩).args minuteArgs)
            (oneWindowTick ⟨0, 1⟩).drain
            (drainReadyWindows ((oneWindowTick ⟨0, 1⟩).args minuteArgs)
              (oneWindowTick ⟨0, 1⟩).drain .empty).1.bucket).1.events =
        some startMs →
      60000 ≤ startMs := by
  have capped :
      (drainReadyWindows ((oneWindowTick ⟨0, 1⟩).args minuteArgs)
        (oneWindowTick ⟨0, 1⟩).drain .empty).2 = .maxWindowsReached := by
    decide +kernel
  have completed :
      lastCompletedEnd?
          (drainReadyWindows ((oneWindowTick ⟨0, 1⟩).args minuteArgs)
            (oneWindowTick ⟨0, 1⟩).drain .empty).1.events =
        some 60000 := by
    decide +kernel
  have found :
      (oneWindowTick ⟨0, 1⟩).drain.resolved
          ((oneWindowTick ⟨0, 1⟩).args minuteArgs)
          (drainReadyWindows ((oneWindowTick ⟨0, 1⟩).args minuteArgs)
            (oneWindowTick ⟨0, 1⟩).drain .empty).1.bucket =
        some 60000 := by
    decide +kernel
  have published : PublishedStore .empty := publishedStore_run []
  have selecting :=
    (selecting_of_capped ⟨rfl, rfl⟩ rfl published capped).2
  have progress :=
    cappedTick_progress_iff ((oneWindowTick ⟨0, 1⟩).args minuteArgs)
      ⟨rfl, rfl⟩ rfl [] (oneWindowTick ⟨0, 1⟩).drain
      (oneWindowTick ⟨0, 1⟩).drain (fun _ => le_refl _)
  simp only [Runs.run_nil] at progress
  refine ⟨completed, (progress capped 60000 completed).mpr (.inr ?_)⟩
  exact resumesAfter_of_resolved selecting.published.pointers found
    (le_refl _)

/-- A tick whose only window is empty. -/
def emptyTick : WorkerTick :=
  oneWindowTick ⟨0, 0⟩

/-- A store without successful pointers lets the tick run the same window. -/
private theorem emptyTick_repeats
    {bucket : Bucket}
    (pointers : PointerBucket bucket)
    (noSuccess : ∀ pointer, ¬ SuccessStored bucket 60000 pointer) :
    drainReadyWindows (emptyTick.args minuteArgs) emptyTick.drain bucket =
      (DrainState.advance ⟨bucket, [], 600000, none, some 0, 0, none⟩
        emptyTick.drain 60000 (.sequential ⟨0, 60000⟩ .empty)
        (runDecision (emptyTick.args minuteArgs)
          ⟨.catchUp, ⟨0, 60000⟩⟩ 600000 (.undisturbed ⟨0, 0⟩)
          bucket).1, .maxWindowsReached) := by
  have found :
      emptyTick.drain.resolved (emptyTick.args minuteArgs) bucket =
        none := by
    refine (resolved_eq_none_iff pointers).mpr (.inr ?_)
    intro seen met
    exact noSuccess seen met.1
  have started :
      startDrain (emptyTick.args minuteArgs) emptyTick.drain bucket =
        ⟨bucket, [], 600000, none, some 0, 0, none⟩ := by
    simp only [startDrain, found, resolveInitialL0L1State]
    rfl
  have decided :
      decideMode (emptyTick.args minuteArgs) 600000 none (some 0) =
        .ok (some ⟨.catchUp, ⟨0, 60000⟩⟩) := by
    decide
  have next :=
    @runNextReadyDecision_of_returned (emptyTick.args minuteArgs)
      emptyTick.drain ⟨bucket, [], 600000, none, some 0, 0, none⟩
      ⟨.catchUp, ⟨0, 60000⟩⟩ decided (by simp)
      ((runDecision_ok_iff _ _ _).mpr
        (RunOutcome.undisturbed_returns _ _))
  have round := drainIteration_of_continues next rfl rfl
  have bound : (emptyTick.args minuteArgs).maxWindowsPerTick.1 = 1 := rfl
  rw [drainReadyWindows_sequential rfl, started, bound]
  simp only [drainLoop, round]
  rfl

/-- What ticks of an empty window leave. -/
private structure EmptyTicks
    (ticks : Nat)
    (history : WorkerHistory) : Prop where
  pointers : PointerBucket history.bucket
  noSuccess :
    ∀ pointer, ¬ SuccessStored history.bucket 60000 pointer
  log :
    history.log =
      List.replicate ticks (.sequential ⟨0, 60000⟩ .empty)

/-- Every tick of an empty window runs it again. -/
private theorem emptyTicks_run
    (ticks : Nat) :
    EmptyTicks ticks
      (Runs.run (stepTick minuteArgs) .start
        (List.replicate ticks emptyTick)) := by
  induction ticks with
  | zero =>
      refine ⟨pointerBucket_empty, ?_, rfl⟩
      intro pointer success
      cases success.stored
  | succ ticks inductionHypothesis =>
      obtain ⟨pointers, noSuccess, log⟩ := inductionHypothesis
      rw [List.replicate_succ', Runs.run_append]
      simp only [Runs.run_cons, Runs.run_nil, stepTick,
        emptyTick_repeats pointers noSuccess]
      refine ⟨pointers.runDecision _ _ _ _, ?_, ?_⟩
      · intro pointer success
        rcases successStored_runDecision success with before | ⟨status, -⟩
        · exact noSuccess pointer before
        · cases status
      · rw [List.replicate_succ', log]
        rfl

/--
Two ticks of an empty window both run it, although the first reached its bound,
and so do any number of ticks.
-/
theorem emptyWindow_repeated :
    let args := emptyTick.args minuteArgs
    let drained := drainReadyWindows args emptyTick.drain .empty
    drained.2 = .maxWindowsReached ∧
      lastCompletedEnd? drained.1.events = some 60000 ∧
      (¬ ∀ startMs,
        firstSelectedStart?
            (drainReadyWindows args emptyTick.drain
              drained.1.bucket).1.events = some startMs →
        60000 ≤ startMs) ∧
      ∀ ticks,
        (Runs.run (stepTick minuteArgs) .start
          (List.replicate ticks emptyTick)).log =
            List.replicate ticks (.sequential ⟨0, 60000⟩ .empty) := by
  intro args drained
  have first :=
    @emptyTick_repeats .empty pointerBucket_empty
      (fun _ success => by cases success.stored)
  obtain ⟨pointers, noSuccess, -⟩ := emptyTicks_run 1
  simp only [List.replicate_one, Runs.run_cons, Runs.run_nil, stepTick,
    WorkerHistory.start] at pointers noSuccess
  have again := emptyTick_repeats pointers noSuccess
  refine ⟨?_, ?_, ?_, fun ticks => (emptyTicks_run ticks).log⟩
  · simp only [drained, args, first]
  · simp only [drained, args, first]
    rfl
  · simp only [drained, args, again]
    intro progress
    have notBefore := progress 0 rfl
    omega

end MarketIngest.Normalize
