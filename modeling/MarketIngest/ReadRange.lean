import MarketIngest.RowAccounting
import MarketIngest.WatermarkLaw

namespace MarketIngest.Build

open Normalize

/-!
# The range that a run reads

A run lists the hour partitions of a read range, and it builds the slices of its
projections for a lookback range.  Both are computed from the arguments, but not
in the same place: a live-priority-only run reads no further back than the scan
margin, while the lookback range stays as long as configured.
-/

/-- The range in which events may lie. -/
def scanRangeOf
    (args : NormalizeArgs)
    (inputRange : InputRange) : InputRange where
  startMs := saturatingSub inputRange.startMs args.scanMarginMs
  endMs := saturatingAdd inputRange.endMs args.scanMarginMs

/-- The lookback that a run reads for. -/
def readLookbackMs (args : NormalizeArgs) : Int :=
  if args.livePriorityOnly then
    args.scanMarginMs
  else
    args.projectionLookbackMs

/-- The range whose partitions a run lists. -/
def readRange
    (args : NormalizeArgs)
    (inputRange : InputRange) : InputRange where
  startMs :=
    saturatingSub inputRange.startMs
      (max args.scanMarginMs.1 (readLookbackMs args))
  endMs := (scanRangeOf args inputRange).endMs

/-- The loop over hours, with a bound on its rounds. -/
def hourlyPartsFrom (endMs : Int) : Nat → Int → List Int
  | 0, _ => []
  | rounds + 1, current =>
      if current < endMs then
        current ::
          hourlyPartsFrom endMs rounds (saturatingAdd current hourMs)
      else
        []

/-- The starts of the hours whose partitions are listed for a range. -/
def hourlyParts (startMs endMs : Int) : List Int :=
  hourlyPartsFrom endMs
    ((endMs - floorHourMs startMs) / hourMs + 1).toNat
    (floorHourMs startMs)

section Hours

/-- Every hour up to the end is visited. -/
private theorem mem_hourlyPartsFrom
    {endMs : Int}
    (endRepresentable : endMs ≤ i64Max)
    (rounds : Nat)
    {current : Int}
    (lower : i64Min ≤ current + hourMs)
    (steps : Nat)
    (within : current + steps * hourMs < endMs)
    (enough : steps < rounds) :
    current + steps * hourMs ∈ hourlyPartsFrom endMs rounds current := by
  induction rounds generalizing current steps with
  | zero =>
      omega
  | succ rounds inductionHypothesis =>
      have started : current < endMs := by
        simp only [hourMs] at within
        omega
      rw [hourlyPartsFrom, if_pos started]
      cases steps with
      | zero =>
          simp
      | succ steps =>
          have next : saturatingAdd current hourMs = current + hourMs := by
            apply saturatingAdd_of_mem lower
            simp only [hourMs, i64Max] at *
            omega
          have position :
              current + ((steps + 1 : Nat) : Int) * hourMs =
                current + hourMs + steps * hourMs := by
            simp only [hourMs]
            omega
          rw [position] at within ⊢
          rw [next]
          apply List.mem_cons_of_mem
          apply inductionHypothesis _ steps within (by omega)
          simp only [hourMs] at *
          omega

/-- The hour of every time of a range is listed. -/
theorem floorHourMs_mem_hourlyParts
    {startMs endMs time : Int}
    (startRepresentable : i64Min ≤ startMs)
    (endRepresentable : endMs ≤ i64Max)
    (lower : startMs ≤ time)
    (upper : time < endMs) :
    floorHourMs time ∈ hourlyParts startMs endMs := by
  obtain ⟨steps, isSteps⟩ :
      ∃ steps : Nat,
        (steps : Int) = time / hourMs - startMs / hourMs := by
    refine ⟨(time / hourMs - startMs / hourMs).toNat, ?_⟩
    simp only [hourMs]
    omega
  have position :
      floorHourMs time = floorHourMs startMs + steps * hourMs := by
    simp only [floorHourMs, hourMs] at *
    omega
  rw [position, hourlyParts]
  apply mem_hourlyPartsFrom endRepresentable
  · simp only [floorHourMs, hourMs]
    omega
  · rw [← position]
    simp only [floorHourMs, hourMs]
    omega
  · simp only [floorHourMs, hourMs] at *
    omega

end Hours

/-- Seeded windows start inside their range. -/
theorem bounds_of_isSeeded
    {args : NormalizeArgs}
    {range : InputRange}
    (endRepresentable : range.endMs ≤ i64Max)
    {windowStartMs : Int}
    (seeded : isSeeded args range windowStartMs = true) :
    range.startMs ≤ windowStartMs ∧ windowStartMs < range.endMs := by
  have windowPositive := args.windowMs.2.1
  have inside
      (rounds : Nat)
      {current : Int}
      (member :
        windowStartMs ∈
          seedWindowStartsFrom args.windowMs range.endMs rounds current) :
      current ≤ windowStartMs ∧ windowStartMs < range.endMs := by
    induction rounds generalizing current with
    | zero =>
        cases member
    | succ rounds inductionHypothesis =>
        rw [seedWindowStartsFrom] at member
        split_ifs at member with below
        · rcases List.mem_cons.mp member with rfl | later
          · exact ⟨Int.le_refl _, below⟩
          · have bounds := inductionHypothesis later
            have ascends :
                current ≤ saturatingAdd current args.windowMs := by
              simp only [saturatingAdd, clampI64]
              omega
            exact ⟨ascends.trans bounds.1, bounds.2⟩
        · cases member
  rw [isSeeded, decide_eq_true_eq, seedWindowStarts] at seeded
  exact inside _ seeded

/-- From a time after the epoch a duration is subtracted exactly. -/
theorem saturatingSub_duration
    {time : Int}
    (nonneg : 0 ≤ time)
    (representable : time ≤ i64Max)
    {duration : Int}
    (positive : 0 < duration)
    (bounded : duration ≤ i64Max) :
    saturatingSub time duration = time - duration := by
  apply saturatingSub_of_mem
  · simp only [i64Min, i64Max] at *
    omega
  · omega

section Projections

variable
  {Number : Type}
  [NumberFormat Number]
  (codec : Codec Number)
  (args : NormalizeArgs)
  (inputRange : InputRange)

/-- Projections are built only from time that was read. -/
structure ProjectionsRead : Prop where
  start :
    (readRange args inputRange).startMs ≤
      (lookbackRange args inputRange).startMs
  finish :
    (lookbackRange args inputRange).endMs ≤
      (readRange args inputRange).endMs
  listed :
    ∀ (metadata : BuildInputMetadata) (rows : List InputRow),
      ∀ row ∈
        (ingestRows codec args
          (BuildAccumulator.new args inputRange
            (scanRangeOf args inputRange) metadata)
          rows).finish.projectionSlices,
        ∀ time, row.windowStartMs ≤ time →
          time < (lookbackRange args inputRange).endMs →
          floorHourMs time ∈
            hourlyParts (readRange args inputRange).startMs
              (readRange args inputRange).endMs

/-- The slices of the projections start inside the lookback range. -/
theorem start_le_of_mem_projectionSlices
    {codec : Codec Number}
    {args : NormalizeArgs}
    {inputRange scanRange : InputRange}
    (endRepresentable : inputRange.endMs ≤ i64Max)
    {rows : List InputRow}
    {accumulator : BuildAccumulator Number}
    (holds :
      BuildHolds codec args scanRange inputRange rows accumulator)
    {finished : SliceRow Number}
    (member : finished ∈ accumulator.finish.projectionSlices) :
    (lookbackRange args inputRange).startMs ≤ finished.windowStartMs := by
  obtain ⟨identity, windowStartMs, -, seeded, isKey, -⟩ :=
    seed_of_mem_finishSlices holds.projection member
  rw [(sliceKey_inj.mp isKey).2.2]
  have representable :
      (lookbackRange args inputRange).endMs ≤ i64Max := endRepresentable
  exact (bounds_of_isSeeded representable seeded).1

/--
Projections are built only from time that was read exactly if the run reads the
whole lookback, or the lookback is no longer than the scan margin.
-/
theorem projectionsRead_iff
    (interval : Int)
    (accepted :
      validateRange inputRange.startMs inputRange.endMs args.windowMs
        interval = .ok ())
    (endRepresentable : inputRange.endMs ≤ i64Max) :
    ProjectionsRead codec args inputRange ↔
      args.livePriorityOnly = false ∨
        args.projectionLookbackMs.1 ≤ args.scanMarginMs.1 := by
  obtain ⟨nonneg, nonempty⟩ := bounds_of_validateRange accepted
  have startRepresentable : inputRange.startMs ≤ i64Max := by omega
  obtain ⟨lookbackPositive, lookbackBounded⟩ := args.projectionLookbackMs.2
  obtain ⟨marginPositive, marginBounded⟩ := args.scanMarginMs.2
  have lookback :
      (lookbackRange args inputRange).startMs =
        inputRange.startMs - args.projectionLookbackMs.1 :=
    saturatingSub_duration nonneg startRepresentable lookbackPositive
      lookbackBounded
  have read :
      (readRange args inputRange).startMs =
        inputRange.startMs - max args.scanMarginMs.1 (readLookbackMs args) := by
    apply saturatingSub_duration nonneg startRepresentable (by omega)
    unfold readLookbackMs
    split_ifs <;> omega
  have readEnd :
      inputRange.endMs ≤ (readRange args inputRange).endMs ∧
        (readRange args inputRange).endMs ≤ i64Max := by
    simp only [readRange, scanRangeOf, saturatingAdd, clampI64, i64Min,
      i64Max] at *
    omega
  -- Only a live-priority-only run reads less than the lookback.
  have contained :
      (readRange args inputRange).startMs ≤
          (lookbackRange args inputRange).startMs ↔
        args.livePriorityOnly = false ∨
          args.projectionLookbackMs.1 ≤ args.scanMarginMs.1 := by
    rw [lookback, read, readLookbackMs]
    cases args.livePriorityOnly with
    | false =>
        simp only [Bool.false_eq_true, if_false, true_or, iff_true]
        omega
    | true =>
        simp only [if_true, Bool.true_eq_false, false_or]
        omega
  constructor
  · intro projectionsRead
    exact contained.mp projectionsRead.start
  · intro whole
    refine ⟨contained.mpr whole, readEnd.1, ?_⟩
    intro metadata rows row member time afterStart beforeEnd
    have inside :=
      start_le_of_mem_projectionSlices endRepresentable
        (buildHolds_ingestRows metadata rows) member
    apply floorHourMs_mem_hourlyParts _ readEnd.2
    · exact (contained.mpr whole).trans (inside.trans afterStart)
    · exact beforeEnd.trans_le readEnd.1
    · rw [read]
      simp only [i64Min, i64Max] at *
      unfold readLookbackMs
      split_ifs <;> omega

end Projections

/-- With the defaults, a run reads the hour that its projections look back. -/
theorem projectionsRead_defaults :
    ProjectionsRead btcCodec namedBucketArgs ⟨4500000, 5400000⟩ :=
  (projectionsRead_iff btcCodec namedBucketArgs ⟨4500000, 5400000⟩ 900000
    (by decide) (by decide)).mpr (Or.inl rfl)

/-- The defaults of a live-priority-only run. -/
def livePriorityOnlyArgs : NormalizeArgs :=
  { namedBucketArgs with
    livePriority := true
    livePriorityOnly := true }

/--
A live-priority-only run for 01:15 reads from 01:10 on, and its projections look
back to 00:15, into an hour that is not listed.
-/
theorem livePriorityOnly_projects_unread_hour :
    validateParsedArgs livePriorityOnlyArgs = .ok () ∧
      validateRange 4500000 5400000 livePriorityOnlyArgs.windowMs
        livePriorityOnlyArgs.scheduleIntervalMs = .ok () ∧
      (lookbackRange livePriorityOnlyArgs ⟨4500000, 5400000⟩).startMs =
        900000 ∧
      floorHourMs 900000 ∉
        hourlyParts
          (readRange livePriorityOnlyArgs ⟨4500000, 5400000⟩).startMs
          (readRange livePriorityOnlyArgs ⟨4500000, 5400000⟩).endMs ∧
      ¬ ProjectionsRead btcCodec livePriorityOnlyArgs
        ⟨4500000, 5400000⟩ := by
  refine ⟨by decide, by decide, by decide, by decide, ?_⟩
  intro projectionsRead
  exact absurd projectionsRead.start (by decide)

end MarketIngest.Build
