import MarketIngest.NormalizeArgs

namespace MarketIngest.Normalize

/-!
# Choosing the next window

Sequential catch-up takes the window at the frontier, which is the end of the
last successful run or, without one, the aligned start of the oldest L0 object.
Live priority takes the newest closed window instead.  The lemmas say exactly
which range a decision has and when the sequential path selects one.
-/

/-- How a run came to be selected. -/
inductive RunMode where
  | live
  | catchUp
  | backfill
  deriving Repr, DecidableEq

/-- A selected run. -/
structure RunDecision where
  runMode : RunMode
  inputRange : InputRange
  deriving Repr, DecidableEq

/-- The greatest multiple of the interval that is not above the value. -/
def alignFloor (value interval : Int) : Int :=
  if interval ≤ 0 then
    value
  else
    saturatingSub value (value % interval)

/-- Check that a range is non-empty and aligned to window and schedule. -/
def validateRange
    (startMs endMs windowMs scheduleIntervalMs : Int) :
    Except String Unit :=
  if startMs < 0 ∨ endMs ≤ startMs then
    .error "input range must be positive and non-empty"
  else if windowMs > 0 ∧
      (startMs.tmod windowMs ≠ 0 ∨ endMs.tmod windowMs ≠ 0) then
    .error "input range must align to window_ms"
  else if scheduleIntervalMs > 0 ∧
      (startMs.tmod scheduleIntervalMs ≠ 0 ∨
        endMs.tmod scheduleIntervalMs ≠ 0) then
    .error "input range must align to schedule_interval_ms"
  else
    .ok ()

/-- An accepted range is not empty and starts after the epoch. -/
theorem bounds_of_validateRange
    {inputRange : InputRange}
    {windowMs interval : Int}
    (accepted :
      validateRange inputRange.startMs inputRange.endMs windowMs interval =
        .ok ()) :
    0 ≤ inputRange.startMs ∧ inputRange.startMs < inputRange.endMs := by
  unfold validateRange at accepted
  split_ifs at accepted with bounds
  all_goals omega

/-- The end of the newest window that has closed. -/
def readyEndMs (nowMs interval : Int) : Int :=
  nowMs.tdiv interval * interval

/-- The frontier is at the newest closed end or lags less than the threshold. -/
def keepsUp
    (args : NormalizeArgs)
    (readyEnd : Int) :
    Option Int → Bool
  | none => false
  | some lastSuccessEnd =>
      lastSuccessEnd ≥ readyEnd ||
        saturatingSub readyEnd lastSuccessEnd <
          args.livePriorityLagThresholdMs

/-- Select the newest closed window ahead of sequential catch-up. -/
def decideLivePriorityMode
    (args : NormalizeArgs)
    (nowMs : Int)
    (lastL1SuccessEndMs : Option Int) :
    Except String (Option RunDecision) :=
  if ¬ args.livePriority ∨ args.inputStartMs.isSome then
    .ok none
  else
    let interval : Int := args.scheduleIntervalMs
    let readyEnd := readyEndMs nowMs interval
    if readyEnd ≤ 0 ∨
        nowMs < saturatingAdd readyEnd args.watermarkDelayMs then
      .ok none
    else
      if keepsUp args readyEnd lastL1SuccessEndMs then
        .ok none
      else
        let startMs := saturatingSub readyEnd interval
        match validateRange startMs readyEnd args.windowMs interval with
        | .error message => .error message
        | .ok () =>
            .ok (some
              { runMode := .live
                inputRange := ⟨startMs, readyEnd⟩ })

/-- Where sequential catch-up resumes. -/
def nextStartCandidate
    (interval : Int)
    (lastL1SuccessEndMs oldestL0ObjectMs : Option Int) : Option Int :=
  match lastL1SuccessEndMs with
  | some value => some value
  | none => oldestL0ObjectMs.map (fun value => alignFloor value interval)

/-- Select the run of an explicit range or the next sequential window. -/
def decideMode
    (args : NormalizeArgs)
    (nowMs : Int)
    (lastL1SuccessEndMs oldestL0ObjectMs : Option Int) :
    Except String (Option RunDecision) :=
  match args.inputStartMs, args.inputEndMs with
  | some startMs, some endMs =>
      match validateRange startMs endMs args.windowMs
          args.scheduleIntervalMs with
      | .error message => .error message
      | .ok () =>
          .ok (some
            { runMode := .backfill
              inputRange := ⟨startMs, endMs⟩ })
  | _, _ =>
      let interval : Int := args.scheduleIntervalMs
      let readyEnd := readyEndMs nowMs interval
      match nextStartCandidate interval
          lastL1SuccessEndMs oldestL0ObjectMs with
      | none => .ok none
      | some candidate =>
          let startMs := alignFloor candidate interval
          let endMs := saturatingAdd startMs interval
          if endMs > readyEnd then
            .ok none
          else
            match validateRange startMs endMs args.windowMs interval with
            | .error message => .error message
            | .ok () =>
                let runMode :=
                  if endMs = readyEnd then RunMode.live
                  else RunMode.catchUp
                if runMode = RunMode.live ∧
                    nowMs <
                      saturatingAdd readyEnd args.watermarkDelayMs then
                  .ok none
                else
                  .ok (some
                    { runMode := runMode
                      inputRange := ⟨startMs, endMs⟩ })

section Ranges

/-- An accepted range is non-empty and aligned to window and schedule. -/
structure AlignedRange
    (windowMs interval : Int)
    (range : InputRange) : Prop where
  nonneg : 0 ≤ range.startMs
  nonempty : range.startMs < range.endMs
  windowStart : windowMs ∣ range.startMs
  windowEnd : windowMs ∣ range.endMs
  intervalStart : interval ∣ range.startMs
  intervalEnd : interval ∣ range.endMs

/-- For positive window and interval, acceptance is alignment. -/
theorem validateRange_eq_ok_iff
    {startMs endMs windowMs interval : Int}
    (windowPositive : 0 < windowMs)
    (intervalPositive : 0 < interval) :
    validateRange startMs endMs windowMs interval = .ok () ↔
      AlignedRange windowMs interval ⟨startMs, endMs⟩ := by
  unfold validateRange
  constructor
  · intro accepted
    split_ifs at accepted with bounds window schedule
    simp only [windowPositive, intervalPositive, true_and,
      not_or, not_not, not_lt, not_le] at bounds window schedule
    exact
      { nonneg := bounds.1
        nonempty := bounds.2
        windowStart := Int.dvd_of_tmod_eq_zero window.1
        windowEnd := Int.dvd_of_tmod_eq_zero window.2
        intervalStart := Int.dvd_of_tmod_eq_zero schedule.1
        intervalEnd := Int.dvd_of_tmod_eq_zero schedule.2 }
  · intro aligned
    have bounds : ¬ (startMs < 0 ∨ endMs ≤ startMs) := by
      have := aligned.nonneg
      have := aligned.nonempty
      simp only at *
      omega
    have window :
        startMs.tmod windowMs = 0 ∧ endMs.tmod windowMs = 0 :=
      ⟨Int.tmod_eq_zero_of_dvd aligned.windowStart,
        Int.tmod_eq_zero_of_dvd aligned.windowEnd⟩
    have schedule :
        startMs.tmod interval = 0 ∧ endMs.tmod interval = 0 :=
      ⟨Int.tmod_eq_zero_of_dvd aligned.intervalStart,
        Int.tmod_eq_zero_of_dvd aligned.intervalEnd⟩
    simp [bounds, window, schedule]

/-- Two multiples of an interval that are less than it apart are equal. -/
theorem eq_of_dvd_of_lt
    {interval first second : Int}
    (firstAligned : interval ∣ first)
    (secondAligned : interval ∣ second)
    (below : first < second + interval)
    (above : second < first + interval) :
    first = second := by
  have difference : interval ∣ first - second :=
    Int.dvd_sub firstAligned secondAligned
  have zero : first - second = 0 :=
    Int.eq_zero_of_abs_lt_dvd difference (by
      rw [abs_lt]
      omega)
  omega

/-- A multiple above another multiple is at least one interval above it. -/
theorem add_le_of_dvd_of_lt
    {interval first second : Int}
    (firstAligned : interval ∣ first)
    (secondAligned : interval ∣ second)
    (below : first < second) :
    first + interval ≤ second := by
  by_contra close
  have same :=
    eq_of_dvd_of_lt firstAligned secondAligned
      (by omega) (by omega)
  omega

/-- An aligned floor inside the representable interval is exact. -/
theorem alignFloor_spec
    {value interval : Int}
    (intervalPositive : 0 < interval)
    (lower : i64Min < alignFloor value interval)
    (upper : alignFloor value interval < i64Max) :
    interval ∣ alignFloor value interval ∧
      alignFloor value interval ≤ value ∧
      value < alignFloor value interval + interval := by
  have shape :
      alignFloor value interval = value - value % interval := by
    have notNegative : ¬ interval ≤ 0 := by omega
    simp only [alignFloor, notNegative, ↓reduceIte, saturatingSub,
      clampI64] at lower upper ⊢
    omega
  have remainderLower := Int.emod_nonneg value (ne_of_gt intervalPositive)
  have remainderUpper := Int.emod_lt_of_pos value intervalPositive
  refine ⟨?_, by omega, by omega⟩
  rw [shape]
  exact Int.dvd_self_sub_emod

/-- The floor of a value from the epoch on is exact. -/
theorem alignFloor_of_nonneg
    {value interval : Int}
    (intervalPositive : 0 < interval)
    (lower : 0 ≤ value)
    (upper : value ≤ i64Max) :
    interval ∣ alignFloor value interval ∧
      0 ≤ alignFloor value interval ∧
      alignFloor value interval ≤ value ∧
      value < alignFloor value interval + interval := by
  have remainderLower := Int.emod_nonneg value (ne_of_gt intervalPositive)
  have remainderUpper := Int.emod_lt_of_pos value intervalPositive
  have division := Int.mul_ediv_add_emod value interval
  have quotientNonneg : 0 ≤ interval * (value / interval) :=
    Int.mul_nonneg (le_of_lt intervalPositive)
      (Int.ediv_nonneg lower (le_of_lt intervalPositive))
  have shape :
      alignFloor value interval = value - value % interval := by
    rw [alignFloor, if_neg (by omega), saturatingSub_of_mem]
    · simp only [i64Min]
      omega
    · omega
  rw [shape]
  exact ⟨Int.dvd_self_sub_emod, by omega, by omega, by omega⟩

/-- Floors keep the order of their values. -/
theorem alignFloor_mono
    {first second interval : Int}
    (intervalPositive : 0 < interval)
    (ordered : first ≤ second) :
    alignFloor first interval ≤ alignFloor second interval := by
  have quotients :
      interval * (first / interval) ≤ interval * (second / interval) :=
    Int.mul_le_mul_of_nonneg_left
      (Int.ediv_le_ediv intervalPositive ordered)
      (le_of_lt intervalPositive)
  have firstDivision := Int.mul_ediv_add_emod first interval
  have secondDivision := Int.mul_ediv_add_emod second interval
  simp only [alignFloor, if_neg (not_le.mpr intervalPositive),
    saturatingSub, clampI64]
  omega

/-- An aligned representable value is its own floor. -/
theorem alignFloor_of_dvd
    {value interval : Int}
    (aligned : interval ∣ value)
    (lower : i64Min ≤ value)
    (upper : value ≤ i64Max) :
    alignFloor value interval = value := by
  unfold alignFloor
  split_ifs
  · rfl
  · rw [Int.emod_eq_zero_of_dvd aligned, saturatingSub_of_mem] <;> omega

/-- The newest closed end is aligned and not after the present. -/
theorem readyEndMs_spec
    {nowMs interval : Int}
    (nowNonneg : 0 ≤ nowMs)
    (intervalPositive : 0 < interval) :
    interval ∣ readyEndMs nowMs interval ∧
      0 ≤ readyEndMs nowMs interval ∧
      readyEndMs nowMs interval ≤ nowMs ∧
      nowMs < readyEndMs nowMs interval + interval := by
  have floor : readyEndMs nowMs interval = nowMs / interval * interval := by
    rw [readyEndMs, Int.tdiv_eq_ediv_of_nonneg nowNonneg]
  have division := Int.mul_ediv_add_emod nowMs interval
  have remainderLower := Int.emod_nonneg nowMs (ne_of_gt intervalPositive)
  have remainderUpper := Int.emod_lt_of_pos nowMs intervalPositive
  have quotientNonneg : 0 ≤ nowMs / interval :=
    Int.ediv_nonneg nowNonneg (le_of_lt intervalPositive)
  rw [floor]
  refine ⟨Int.dvd_mul_left _ _, ?_, ?_, ?_⟩
  · exact Int.mul_nonneg quotientNonneg (le_of_lt intervalPositive)
  · rw [Int.mul_comm]
    omega
  · rw [Int.mul_comm]
    omega

/-- Later readings close at least as many windows. -/
theorem readyEndMs_mono
    {earlier later interval : Int}
    (earlierNonneg : 0 ≤ earlier)
    (intervalPositive : 0 < interval)
    (ordered : earlier ≤ later) :
    readyEndMs earlier interval ≤ readyEndMs later interval := by
  have early := readyEndMs_spec earlierNonneg intervalPositive
  have late :=
    readyEndMs_spec (le_trans earlierNonneg ordered) intervalPositive
  by_contra above
  have gap :=
    add_le_of_dvd_of_lt late.1 early.1 (not_le.mp above)
  omega

end Ranges

section Decisions

variable
  {args : NormalizeArgs}
  {nowMs : Int}
  {lastL1SuccessEndMs oldestL0ObjectMs : Option Int}
  {decision : RunDecision}

/--
A saturated end that passes validation is exact: at the upper bound the range
would have no room for a whole interval.
-/
private theorem saturatedEnd_exact
    {startMs windowMs interval : Int}
    (intervalPositive : 0 < interval)
    (aligned :
      AlignedRange windowMs interval
        ⟨startMs, saturatingAdd startMs interval⟩) :
    saturatingAdd startMs interval = startMs + interval := by
  have nonneg := aligned.nonneg
  have gap :=
    add_le_of_dvd_of_lt aligned.intervalStart aligned.intervalEnd
      aligned.nonempty
  simp only [saturatingAdd, clampI64, i64Min, i64Max] at *
  omega

/-- A scheduled sequential decision is the aligned window at the frontier. -/
theorem decideMode_eq_some
    (scheduled : args.Scheduled)
    (decided :
      decideMode args nowMs lastL1SuccessEndMs oldestL0ObjectMs =
        .ok (some decision)) :
    ∃ candidate,
      nextStartCandidate args.scheduleIntervalMs
          lastL1SuccessEndMs oldestL0ObjectMs =
        some candidate ∧
      decision.inputRange.startMs =
        alignFloor candidate args.scheduleIntervalMs ∧
      decision.inputRange.endMs =
        decision.inputRange.startMs + args.scheduleIntervalMs ∧
      decision.inputRange.endMs ≤
        readyEndMs nowMs args.scheduleIntervalMs ∧
      AlignedRange args.windowMs args.scheduleIntervalMs
        decision.inputRange := by
  unfold decideMode at decided
  rw [scheduled.1] at decided
  simp only at decided
  cases located :
      nextStartCandidate args.scheduleIntervalMs
        lastL1SuccessEndMs oldestL0ObjectMs with
  | none =>
      simp [located] at decided
  | some candidate =>
      rw [located] at decided
      simp only at decided
      split at decided
      · simp at decided
      · rename_i notReady
        split at decided
        · simp at decided
        · rename_i accepted
          have aligned :=
            (validateRange_eq_ok_iff args.windowMs.2.1
              args.scheduleIntervalMs.2.1).mp accepted
          have exactEnd :=
            saturatedEnd_exact args.scheduleIntervalMs.2.1 aligned
          split_ifs at decided <;>
            simp only [Except.ok.injEq, Option.some.injEq,
              reduceCtorEq] at decided
          all_goals
            rw [← decided]
            exact ⟨candidate, rfl, rfl, exactEnd,
              not_lt.mp notReady, aligned⟩

/-- The newest closed window is selected only after the watermark delay. -/
theorem decideMode_watermark
    (scheduled : args.Scheduled)
    (decided :
      decideMode args nowMs lastL1SuccessEndMs oldestL0ObjectMs =
        .ok (some decision))
    (newest :
      decision.inputRange.endMs =
        readyEndMs nowMs args.scheduleIntervalMs) :
    saturatingAdd (readyEndMs nowMs args.scheduleIntervalMs)
      args.watermarkDelayMs ≤ nowMs := by
  unfold decideMode at decided
  rw [scheduled.1] at decided
  simp only at decided
  split at decided
  · cases decided
  · split at decided
    · cases decided
    · split at decided
      · cases decided
      · split_ifs at decided with live early never
        · cases decided
        · simpa using early
        · exact absurd never.1 (by simp)
        · simp only [Except.ok.injEq, Option.some.injEq] at decided
          rw [← decided] at newest
          exact absurd newest live

/-- A window that is closed and whose watermark is reached is selected. -/
theorem decideMode_of_ready
    (scheduled : args.Scheduled)
    {candidate : Int}
    (located :
      nextStartCandidate args.scheduleIntervalMs
          lastL1SuccessEndMs oldestL0ObjectMs =
        some candidate)
    {startMs : Int}
    (startShape : alignFloor candidate args.scheduleIntervalMs = startMs)
    (aligned :
      AlignedRange args.windowMs args.scheduleIntervalMs
        ⟨startMs, startMs + args.scheduleIntervalMs⟩)
    (representable : startMs + args.scheduleIntervalMs ≤ i64Max)
    (closed :
      startMs + args.scheduleIntervalMs ≤
        readyEndMs nowMs args.scheduleIntervalMs)
    (watermark :
      startMs + args.scheduleIntervalMs =
          readyEndMs nowMs args.scheduleIntervalMs →
      saturatingAdd (readyEndMs nowMs args.scheduleIntervalMs)
        args.watermarkDelayMs ≤ nowMs) :
    ∃ runMode,
      decideMode args nowMs lastL1SuccessEndMs oldestL0ObjectMs =
        .ok (some
          { runMode := runMode
            inputRange :=
              ⟨startMs, startMs + args.scheduleIntervalMs⟩ }) := by
  have startNonneg := aligned.nonneg
  have intervalPositive := args.scheduleIntervalMs.2.1
  have exactEnd :
      saturatingAdd startMs args.scheduleIntervalMs =
        startMs + args.scheduleIntervalMs :=
    saturatingAdd_of_mem
      (by simp only [i64Min]; simp only at startNonneg; omega)
      representable
  have accepted :=
    (validateRange_eq_ok_iff args.windowMs.2.1 intervalPositive).mpr
      aligned
  unfold decideMode
  rw [scheduled.1]
  by_cases newest :
      startMs + args.scheduleIntervalMs =
        readyEndMs nowMs args.scheduleIntervalMs
  · refine ⟨.live, ?_⟩
    rw [newest] at accepted
    simp [located, startShape, exactEnd, accepted, newest,
      not_lt.mpr (watermark newest)]
  · refine ⟨.catchUp, ?_⟩
    simp [located, startShape, exactEnd, accepted, newest,
      not_lt.mpr closed]

/-- A live-priority decision is the newest closed window. -/
theorem decideLivePriorityMode_eq_some
    (nowNonneg : 0 ≤ nowMs)
    (nowRepresentable : nowMs ≤ i64Max)
    (decided :
      decideLivePriorityMode args nowMs lastL1SuccessEndMs =
        .ok (some decision)) :
    args.livePriority = true ∧
      decision.inputRange.endMs =
        readyEndMs nowMs args.scheduleIntervalMs ∧
      decision.inputRange.endMs =
        decision.inputRange.startMs + args.scheduleIntervalMs ∧
      AlignedRange args.windowMs args.scheduleIntervalMs
        decision.inputRange ∧
      ∀ lastSuccessEnd,
        lastL1SuccessEndMs = some lastSuccessEnd →
        lastSuccessEnd < decision.inputRange.endMs := by
  unfold decideLivePriorityMode at decided
  split at decided
  · simp at decided
  · rename_i enabled
    simp only at decided
    split at decided
    · simp at decided
    · split at decided
      · simp at decided
      · rename_i lagging
        split at decided
        · simp at decided
        · rename_i accepted
          simp only [Except.ok.injEq, Option.some.injEq] at decided
          have aligned :=
            (validateRange_eq_ok_iff args.windowMs.2.1
              args.scheduleIntervalMs.2.1).mp accepted
          have exactStart :
              readyEndMs nowMs args.scheduleIntervalMs =
                saturatingSub
                    (readyEndMs nowMs args.scheduleIntervalMs)
                    args.scheduleIntervalMs +
                  args.scheduleIntervalMs := by
            have ready :=
              readyEndMs_spec nowNonneg args.scheduleIntervalMs.2.1
            have intervalPositive := args.scheduleIntervalMs.2.1
            have intervalUpper := args.scheduleIntervalMs.2.2
            rw [saturatingSub_of_mem]
            · omega
            · simp only [i64Min, i64Max] at *
              omega
            · omega
          rw [← decided]
          refine ⟨by simpa using (not_or.mp enabled).1, rfl, exactStart, aligned, ?_⟩
          intro lastSuccessEnd known
          rw [known] at lagging
          simp only [keepsUp, Bool.or_eq_true, decide_eq_true_eq,
            not_or, not_le] at lagging
          exact lagging.1

/-- An explicit range is selected as it is, if it is accepted. -/
theorem decideMode_explicit_eq_some
    {startMs endMs : Int}
    (startGiven : args.inputStartMs = some startMs)
    (endGiven : args.inputEndMs = some endMs)
    (decided :
      decideMode args nowMs lastL1SuccessEndMs oldestL0ObjectMs =
        .ok (some decision)) :
    decision.inputRange = ⟨startMs, endMs⟩ := by
  unfold decideMode at decided
  rw [startGiven, endGiven] at decided
  simp only at decided
  split at decided
  · cases decided
  · simp only [Except.ok.injEq, Option.some.injEq] at decided
    rw [← decided]

/-- With an explicit range there is always a decision or an error. -/
theorem decideMode_explicit_ne_none
    {startMs endMs : Int}
    (startGiven : args.inputStartMs = some startMs)
    (endGiven : args.inputEndMs = some endMs) :
    decideMode args nowMs lastL1SuccessEndMs oldestL0ObjectMs ≠
      .ok none := by
  unfold decideMode
  rw [startGiven, endGiven]
  simp only
  split <;> simp

/-- Without live priority no live window is selected. -/
theorem decideLivePriorityMode_disabled
    (disabled : args.livePriority = false) :
    decideLivePriorityMode args nowMs lastL1SuccessEndMs = .ok none := by
  simp [decideLivePriorityMode, disabled]

end Decisions

end MarketIngest.Normalize
