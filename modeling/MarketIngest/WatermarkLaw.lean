import MarketIngest.ModeDecision

namespace MarketIngest.Normalize

/-!
# The watermark law

A scheduled range should be built only when its end is older than the watermark
delay, so that late events of the range and of its scan margin have arrived.
The delay is checked for the newest closed range only.  An older range is
selected as soon as it is closed, which is too early if the delay is longer
than the schedule interval.
-/

/-- A decision for one schedule interval whose watermark delay has passed. -/
structure LawfulDecision
    (args : NormalizeArgs)
    (nowMs : Int)
    (decision : RunDecision) : Prop where
  length :
    decision.inputRange.endMs =
      decision.inputRange.startMs + args.scheduleIntervalMs
  aligned :
    AlignedRange args.windowMs args.scheduleIntervalMs decision.inputRange
  watermark :
    decision.inputRange.endMs + args.watermarkDelayMs ≤ nowMs
  scanned :
    decision.inputRange.endMs + args.scanMarginMs ≤ nowMs

/-- Start of the range at the frontier. -/
def frontierStartMs
    (args : NormalizeArgs)
    (lastL1SuccessEndMs oldestL0ObjectMs : Option Int) : Option Int :=
  (nextStartCandidate args.scheduleIntervalMs lastL1SuccessEndMs
    oldestL0ObjectMs).map
      (fun candidate => alignFloor candidate args.scheduleIntervalMs)

/-- Every selected range is the frontier's or the newest one, and lawful. -/
structure WatermarkLaw
    (args : NormalizeArgs)
    (nowMs : Int)
    (lastL1SuccessEndMs oldestL0ObjectMs : Option Int) : Prop where
  sequential :
    ∀ decision,
      decideMode args nowMs lastL1SuccessEndMs oldestL0ObjectMs =
        .ok (some decision) →
      frontierStartMs args lastL1SuccessEndMs oldestL0ObjectMs =
          some decision.inputRange.startMs ∧
        LawfulDecision args nowMs decision
  livePriority :
    ∀ decision,
      decideLivePriorityMode args nowMs lastL1SuccessEndMs =
        .ok (some decision) →
      decision.inputRange.endMs =
          readyEndMs nowMs args.scheduleIntervalMs ∧
        LawfulDecision args nowMs decision

/-- The range of one schedule interval that starts at a time. -/
def intervalRange (args : NormalizeArgs) (startMs : Int) : InputRange :=
  ⟨startMs, startMs + args.scheduleIntervalMs⟩

/-- The range at the frontier is closed but not the newest closed one. -/
def BacklogRange
    (args : NormalizeArgs)
    (nowMs : Int)
    (lastL1SuccessEndMs oldestL0ObjectMs : Option Int)
    (startMs : Int) : Prop :=
  frontierStartMs args lastL1SuccessEndMs oldestL0ObjectMs =
      some startMs ∧
    AlignedRange args.windowMs args.scheduleIntervalMs
      (intervalRange args startMs) ∧
    startMs + args.scheduleIntervalMs <
      readyEndMs nowMs args.scheduleIntervalMs

/-- The newest closed range is at the frontier or has priority. -/
def NewestDue
    (args : NormalizeArgs)
    (nowMs : Int)
    (lastL1SuccessEndMs oldestL0ObjectMs : Option Int) : Prop :=
  let newestStartMs :=
    readyEndMs nowMs args.scheduleIntervalMs - args.scheduleIntervalMs
  AlignedRange args.windowMs args.scheduleIntervalMs
      (intervalRange args newestStartMs) ∧
    (frontierStartMs args lastL1SuccessEndMs oldestL0ObjectMs =
        some newestStartMs ∨
      args.livePriority = true ∧
        keepsUp args (readyEndMs nowMs args.scheduleIntervalMs)
          lastL1SuccessEndMs = false)

/-- The watermark delay has passed wherever it is not checked exactly. -/
structure MeetsWatermark
    (args : NormalizeArgs)
    (nowMs : Int)
    (lastL1SuccessEndMs oldestL0ObjectMs : Option Int) : Prop where
  backlog :
    ∀ startMs,
      BacklogRange args nowMs lastL1SuccessEndMs oldestL0ObjectMs
        startMs →
      startMs + args.scheduleIntervalMs + args.watermarkDelayMs ≤ nowMs
  endOfTime :
    nowMs = i64Max →
    NewestDue args nowMs lastL1SuccessEndMs oldestL0ObjectMs →
    readyEndMs nowMs args.scheduleIntervalMs + args.watermarkDelayMs ≤
      nowMs

section Law

variable
  {args : NormalizeArgs}
  {nowMs : Int}
  {lastL1SuccessEndMs oldestL0ObjectMs : Option Int}
  {decision : RunDecision}

/-- A delay within the schedule interval has passed for every backlog range. -/
theorem meetsWatermark_of_delay_le_interval
    (nowPositive : 0 < nowMs)
    (beforeEnd : nowMs < i64Max)
    (short : args.watermarkDelayMs.1 ≤ args.scheduleIntervalMs.1) :
    MeetsWatermark args nowMs lastL1SuccessEndMs oldestL0ObjectMs where
  backlog := by
    rintro startMs ⟨-, aligned, older⟩
    have ready :=
      readyEndMs_spec (le_of_lt nowPositive) args.scheduleIntervalMs.2.1
    have gap := add_le_of_dvd_of_lt aligned.intervalEnd ready.1 older
    simp only [intervalRange] at gap
    omega
  endOfTime := by
    intro atEnd
    omega

/-- What the watermark check of the newest range says. -/
private theorem watermark_of_check
    (checked :
      saturatingAdd (readyEndMs nowMs args.scheduleIntervalMs)
        args.watermarkDelayMs ≤ nowMs)
    (nowRepresentable : nowMs ≤ i64Max)
    (endOfTime :
      nowMs = i64Max →
      readyEndMs nowMs args.scheduleIntervalMs + args.watermarkDelayMs ≤
        nowMs) :
    readyEndMs nowMs args.scheduleIntervalMs + args.watermarkDelayMs ≤
      nowMs := by
  by_cases atEnd : nowMs = i64Max
  · exact endOfTime atEnd
  · exact le_clampI64_of_lt_max checked (by omega)

/-- Accepted arguments scan no further than the watermark delay. -/
private theorem lawful_of_watermark
    (accepted : validateParsedArgs args = .ok ())
    (length :
      decision.inputRange.endMs =
        decision.inputRange.startMs + args.scheduleIntervalMs)
    (aligned :
      AlignedRange args.windowMs args.scheduleIntervalMs
        decision.inputRange)
    (watermark :
      decision.inputRange.endMs + args.watermarkDelayMs ≤ nowMs) :
    LawfulDecision args nowMs decision where
  length := length
  aligned := aligned
  watermark := watermark
  scanned := by
    have margin := scanMarginMs_le_of_accepted accepted
    omega

/-- Of the newest range the saturated watermark sum is checked. -/
private theorem livePriority_checked
    (decided :
      decideLivePriorityMode args nowMs lastL1SuccessEndMs =
        .ok (some decision)) :
    saturatingAdd (readyEndMs nowMs args.scheduleIntervalMs)
        args.watermarkDelayMs ≤ nowMs ∧
      keepsUp args (readyEndMs nowMs args.scheduleIntervalMs)
        lastL1SuccessEndMs = false := by
  unfold decideLivePriorityMode at decided
  simp only at decided
  split_ifs at decided with disabled early keeping
  · simp at decided
  · simp at decided
  · simp at decided
  · exact ⟨not_lt.mp (not_or.mp early).2, by simpa using keeping⟩

/-- The newest range is selected with priority if it is due and old enough. -/
private theorem livePriority_of_due
    (nowPositive : 0 < nowMs)
    (nowRepresentable : nowMs ≤ i64Max)
    (scheduled : args.Scheduled)
    (enabled : args.livePriority = true)
    (lagging :
      keepsUp args (readyEndMs nowMs args.scheduleIntervalMs)
        lastL1SuccessEndMs = false)
    (aligned :
      AlignedRange args.windowMs args.scheduleIntervalMs
        (intervalRange args
          (readyEndMs nowMs args.scheduleIntervalMs -
            args.scheduleIntervalMs)))
    (checked :
      saturatingAdd (readyEndMs nowMs args.scheduleIntervalMs)
        args.watermarkDelayMs ≤ nowMs) :
    decideLivePriorityMode args nowMs lastL1SuccessEndMs =
      .ok (some
        { runMode := .live
          inputRange :=
            intervalRange args
              (readyEndMs nowMs args.scheduleIntervalMs -
                args.scheduleIntervalMs) }) := by
  have intervalPositive := args.scheduleIntervalMs.2.1
  have ready := readyEndMs_spec (le_of_lt nowPositive) intervalPositive
  have startNonneg := aligned.nonneg
  simp only [intervalRange, Int.sub_add_cancel] at aligned startNonneg ⊢
  have exactStart :
      saturatingSub (readyEndMs nowMs args.scheduleIntervalMs)
          args.scheduleIntervalMs =
        readyEndMs nowMs args.scheduleIntervalMs -
          args.scheduleIntervalMs :=
    saturatingSub_of_mem
      (by simp only [i64Min]; omega)
      (by omega)
  have accepted :=
    (validateRange_eq_ok_iff args.windowMs.2.1 intervalPositive).mpr
      aligned
  have ready : ¬ (readyEndMs nowMs args.scheduleIntervalMs ≤ 0 ∨
      nowMs < saturatingAdd (readyEndMs nowMs args.scheduleIntervalMs)
        args.watermarkDelayMs) := by
    omega
  simp [decideLivePriorityMode, enabled, scheduled.1, ready, lagging,
    exactStart, accepted]

/-- The range at the frontier is selected if it is closed and old enough. -/
private theorem sequential_of_closed
    (nowPositive : 0 < nowMs)
    (nowRepresentable : nowMs ≤ i64Max)
    (scheduled : args.Scheduled)
    {startMs : Int}
    (frontier :
      frontierStartMs args lastL1SuccessEndMs oldestL0ObjectMs =
        some startMs)
    (aligned :
      AlignedRange args.windowMs args.scheduleIntervalMs
        (intervalRange args startMs))
    (closed :
      startMs + args.scheduleIntervalMs ≤
        readyEndMs nowMs args.scheduleIntervalMs)
    (checked :
      startMs + args.scheduleIntervalMs =
          readyEndMs nowMs args.scheduleIntervalMs →
      saturatingAdd (readyEndMs nowMs args.scheduleIntervalMs)
        args.watermarkDelayMs ≤ nowMs) :
    ∃ runMode,
      decideMode args nowMs lastL1SuccessEndMs oldestL0ObjectMs =
        .ok (some
          { runMode := runMode
            inputRange := intervalRange args startMs }) := by
  obtain ⟨candidate, located, startShape⟩ := Option.map_eq_some_iff.mp frontier
  have ready :=
    readyEndMs_spec (le_of_lt nowPositive) args.scheduleIntervalMs.2.1
  exact decideMode_of_ready scheduled located startShape aligned
    (by omega) closed checked

/-- Where the watermark delay has passed, every selected range is lawful. -/
private theorem watermarkLaw_of_meets
    (accepted : validateParsedArgs args = .ok ())
    (scheduled : args.Scheduled)
    (nowPositive : 0 < nowMs)
    (nowRepresentable : nowMs ≤ i64Max)
    (meets :
      MeetsWatermark args nowMs lastL1SuccessEndMs oldestL0ObjectMs) :
    WatermarkLaw args nowMs lastL1SuccessEndMs oldestL0ObjectMs where
  sequential := by
    intro decision decided
    obtain ⟨candidate, located, start, length, closed, aligned⟩ :=
      decideMode_eq_some scheduled decided
    have frontier :
        frontierStartMs args lastL1SuccessEndMs oldestL0ObjectMs =
          some decision.inputRange.startMs := by
      rw [frontierStartMs, located, Option.map_some, start]
    have range :
        intervalRange args decision.inputRange.startMs =
          decision.inputRange :=
      InputRange.ext rfl length.symm
    refine ⟨frontier, lawful_of_watermark accepted length aligned ?_⟩
    rcases closed.lt_or_eq with older | newest
    · rw [length]
      exact meets.backlog _ ⟨frontier, range ▸ aligned, by omega⟩
    · rw [newest]
      refine watermark_of_check
        (decideMode_watermark scheduled decided newest)
        nowRepresentable (fun atEnd => meets.endOfTime atEnd ?_)
      have newestStart :
          readyEndMs nowMs args.scheduleIntervalMs -
              args.scheduleIntervalMs =
            decision.inputRange.startMs := by
        omega
      refine ⟨?_, Or.inl ?_⟩
      · rw [newestStart, range]
        exact aligned
      · rw [newestStart]
        exact frontier
  livePriority := by
    intro decision decided
    obtain ⟨enabled, newest, length, aligned, -⟩ :=
      decideLivePriorityMode_eq_some (le_of_lt nowPositive)
        nowRepresentable decided
    obtain ⟨checked, lagging⟩ := livePriority_checked decided
    have newestStart :
        readyEndMs nowMs args.scheduleIntervalMs -
            args.scheduleIntervalMs =
          decision.inputRange.startMs := by
      omega
    have range :
        intervalRange args decision.inputRange.startMs =
          decision.inputRange :=
      InputRange.ext rfl length.symm
    refine ⟨newest, lawful_of_watermark accepted length aligned ?_⟩
    rw [newest]
    refine watermark_of_check checked nowRepresentable
      (fun atEnd => meets.endOfTime atEnd
        ⟨?_, Or.inr ⟨enabled, lagging⟩⟩)
    rw [newestStart, range]
    exact aligned

/-- If every selected range is lawful, the watermark delay has passed. -/
private theorem meets_of_watermarkLaw
    (scheduled : args.Scheduled)
    (nowPositive : 0 < nowMs)
    (nowRepresentable : nowMs ≤ i64Max)
    (law :
      WatermarkLaw args nowMs lastL1SuccessEndMs oldestL0ObjectMs) :
    MeetsWatermark args nowMs lastL1SuccessEndMs oldestL0ObjectMs where
  backlog := by
    rintro startMs ⟨frontier, aligned, older⟩
    obtain ⟨runMode, decided⟩ :=
      sequential_of_closed nowPositive nowRepresentable scheduled
        frontier aligned (le_of_lt older)
        (fun newest => absurd newest (ne_of_lt older))
    exact (law.sequential _ decided).2.watermark
  endOfTime := by
    rintro rfl ⟨aligned, due⟩
    have checked :
        saturatingAdd (readyEndMs i64Max args.scheduleIntervalMs)
          args.watermarkDelayMs ≤ i64Max := by
      simp only [saturatingAdd, clampI64, i64Min, i64Max]
      omega
    rcases due with frontier | ⟨enabled, lagging⟩
    · obtain ⟨runMode, decided⟩ :=
        sequential_of_closed nowPositive nowRepresentable scheduled
          frontier aligned (by omega) (fun _ => checked)
      have watermark := (law.sequential _ decided).2.watermark
      simp only [intervalRange, Int.sub_add_cancel] at watermark
      exact watermark
    · have watermark :=
        (law.livePriority _
          (livePriority_of_due nowPositive nowRepresentable scheduled
            enabled lagging aligned checked)).2.watermark
      simp only [intervalRange, Int.sub_add_cancel] at watermark
      exact watermark

/-- The watermark law holds exactly if no range is selected too early. -/
theorem watermarkLaw_iff_meetsWatermark
    (accepted : validateParsedArgs args = .ok ())
    (scheduled : args.Scheduled)
    (nowPositive : 0 < nowMs)
    (nowRepresentable : nowMs ≤ i64Max) :
    WatermarkLaw args nowMs lastL1SuccessEndMs oldestL0ObjectMs ↔
      MeetsWatermark args nowMs lastL1SuccessEndMs oldestL0ObjectMs :=
  ⟨meets_of_watermarkLaw scheduled nowPositive nowRepresentable,
    watermarkLaw_of_meets accepted scheduled nowPositive
      nowRepresentable⟩

/-- With the default arguments the backlog of three intervals is lawful. -/
theorem watermarkLaw_defaults :
    validateParsedArgs namedBucketArgs = .ok () ∧
      namedBucketArgs.Scheduled ∧
      (WatermarkLaw namedBucketArgs 2700000 none (some 0) ↔
        MeetsWatermark namedBucketArgs 2700000 none (some 0)) :=
  ⟨by decide, ⟨rfl, rfl⟩,
    watermarkLaw_iff_meetsWatermark (by decide) ⟨rfl, rfl⟩ (by decide)
      (by decide)⟩

/-- The same arguments with a schedule of three minutes. -/
def threeMinuteArgs : NormalizeArgs :=
  { namedBucketArgs with
    scheduleIntervalMs := ⟨180000, by decide⟩ }

/-- After six minutes the first three are selected, three minutes too early. -/
theorem firstRange_before_watermark :
    validateParsedArgs threeMinuteArgs = .ok () ∧
      threeMinuteArgs.Scheduled ∧
      decideMode threeMinuteArgs 360000 none (some 0) =
        .ok (some ⟨.catchUp, ⟨0, 180000⟩⟩) ∧
      ¬ WatermarkLaw threeMinuteArgs 360000 none (some 0) := by
  have decided :
      decideMode threeMinuteArgs 360000 none (some 0) =
        .ok (some ⟨.catchUp, ⟨0, 180000⟩⟩) := by
    decide
  refine ⟨by decide, ⟨rfl, rfl⟩, decided, ?_⟩
  intro law
  have watermark := (law.sequential _ decided).2.watermark
  exact absurd watermark (by decide)

end Law

end MarketIngest.Normalize
