import MarketIngest.Admissibility
import MarketIngest.PointerDiscovery
import MarketIngest.Runs

namespace MarketIngest.Normalize

open S3

/-!
# Histories of published runs

Runs are published one after the other into the L1 bucket: scheduled windows,
bootstrap subchunks, explicit ranges, each possibly repeated or overlapping, and
each possibly interrupted after any subset of its pointer PUTs.  A bucket seen in
the middle of a publication is the bucket after an interrupted run.
-/

/-- One run with what its surroundings decide, as the mode decision accepts it. -/
structure NormalizeRun where
  args : NormalizeArgs
  decision : RunDecision
  nowMs : Int
  outcome : RunOutcome
  aligned :
    AlignedRange args.windowMs args.scheduleIntervalMs
      decision.inputRange
  representable : decision.inputRange.endMs ≤ i64Max

namespace NormalizeRun

/-- The window size of the run's pointers. -/
def windowMs (normalizeRun : NormalizeRun) : Int :=
  normalizeRun.args.windowMs

/-- The starts of the run's windows. -/
def windowStarts (normalizeRun : NormalizeRun) : List Int :=
  indexWindowStarts normalizeRun.decision.inputRange
    normalizeRun.windowMs

/-- The build status of the run. -/
def status (normalizeRun : NormalizeRun) : BuildStatus :=
  normalizeRun.outcome.build.status

/-- The run stores its pointer of a window. -/
def Writes
    (normalizeRun : NormalizeRun)
    (windowStartMs : Int) : Prop :=
  normalizeRun.outcome.reachesIndex = true ∧
    windowStartMs ∈ normalizeRun.windowStarts ∧
    (normalizeRun.outcome.pointerPut windowStartMs).applied = true

instance
    (normalizeRun : NormalizeRun)
    (windowStartMs : Int) :
    Decidable (normalizeRun.Writes windowStartMs) :=
  inferInstanceAs (Decidable (_ ∧ _ ∧ _))

/-- The pointer of the run for a window. -/
def pointer
    (normalizeRun : NormalizeRun)
    (windowStartMs : Int) : JsonDocument :=
  runPointer normalizeRun.args normalizeRun.decision.inputRange
    normalizeRun.nowMs normalizeRun.status windowStartMs

end NormalizeRun

/-- The bucket after one more run. -/
def stepRun (bucket : Bucket) (normalizeRun : NormalizeRun) : Bucket :=
  (runDecision normalizeRun.args normalizeRun.decision
    normalizeRun.nowMs normalizeRun.outcome bucket).1

/-- The pointer of a window has status success. -/
def SuccessAt
    (bucket : Bucket)
    (windowMs windowStartMs : Int) : Prop :=
  ∃ document,
    pointerAt bucket windowMs windowStartMs = some document ∧
      jsonStatusSuccess document = true

/-- A reader of a window accepts its pointer. -/
def ReadableAt
    (bucket : Bucket)
    (windowMs windowStartMs : Int) : Prop :=
  ∃ document,
    pointerAt bucket windowMs windowStartMs = some document ∧
      acceptedBy
          (.normalizedMarketSlice
            ⟨windowStartMs, windowStartMs + windowMs⟩)
          document =
        true

section Steps

variable {bucket : Bucket} {normalizeRun : NormalizeRun}

/-- One run replaces exactly the pointers that it stores. -/
theorem stepRun_pointerAt
    (bucket : Bucket)
    (normalizeRun : NormalizeRun)
    (windowMs windowStartMs : Int) :
    pointerAt (stepRun bucket normalizeRun) windowMs windowStartMs =
      if windowMs = normalizeRun.windowMs ∧
          normalizeRun.Writes windowStartMs then
        some (normalizeRun.pointer windowStartMs)
      else
        pointerAt bucket windowMs windowStartMs := by
  unfold stepRun
  rw [runDecision_pointerAt]
  by_cases sameWindow : windowMs = normalizeRun.windowMs
  · have sameArgs : windowMs = normalizeRun.args.windowMs := sameWindow
    simp [NormalizeRun.Writes, NormalizeRun.windowStarts,
      NormalizeRun.pointer, NormalizeRun.status, sameArgs,
      NormalizeRun.windowMs]
  · have otherArgs : windowMs ≠ normalizeRun.args.windowMs := sameWindow
    simp [sameWindow, otherArgs]

/-- The windows of a run, in terms of its range. -/
theorem NormalizeRun.mem_windowStarts_iff
    {windowStartMs : Int} :
    windowStartMs ∈ normalizeRun.windowStarts ↔
      normalizeRun.decision.inputRange.startMs ≤ windowStartMs ∧
        windowStartMs < normalizeRun.decision.inputRange.endMs ∧
        normalizeRun.windowMs ∣
          windowStartMs - normalizeRun.decision.inputRange.startMs :=
  mem_indexWindowStarts_iff normalizeRun.args.windowMs.2.1
    normalizeRun.representable

@[simp] theorem NormalizeRun.jsonStatusSuccess_pointer
    (windowStartMs : Int) :
    jsonStatusSuccess (normalizeRun.pointer windowStartMs) =
      decide (normalizeRun.status = .success) := by
  simp [NormalizeRun.pointer, runPointer]

/-- A written window is read back exactly if the run was successful. -/
theorem NormalizeRun.acceptedBy_pointer
    {windowStartMs : Int}
    (inRange : windowStartMs ∈ normalizeRun.windowStarts) :
    acceptedBy
        (.normalizedMarketSlice
          ⟨windowStartMs, windowStartMs + normalizeRun.windowMs⟩)
        (normalizeRun.pointer windowStartMs) =
      jsonStatusSuccess (normalizeRun.pointer windowStartMs) := by
  obtain ⟨lower, upper, offset⟩ :=
    NormalizeRun.mem_windowStarts_iff.mp inRange
  -- Both ends are aligned, so the whole window lies inside the range.
  have startAligned : normalizeRun.windowMs ∣ windowStartMs := by
    have total :=
      Int.dvd_add offset normalizeRun.aligned.windowStart
    rwa [Int.sub_add_cancel] at total
  have windowInside :
      windowStartMs + normalizeRun.windowMs ≤
        normalizeRun.decision.inputRange.endMs :=
    add_le_of_dvd_of_lt startAligned normalizeRun.aligned.windowEnd upper
  rw [NormalizeRun.jsonStatusSuccess_pointer]
  unfold NormalizeRun.pointer runPointer
  rw [acceptedBy_indexPointerJson lower windowInside]
  simp

/-- Whether a window is successful after one more run. -/
theorem successAt_stepRun_iff
    {windowMs windowStartMs : Int} :
    SuccessAt (stepRun bucket normalizeRun) windowMs windowStartMs ↔
      if windowMs = normalizeRun.windowMs ∧
          normalizeRun.Writes windowStartMs then
        normalizeRun.status = .success
      else
        SuccessAt bucket windowMs windowStartMs := by
  unfold SuccessAt
  rw [stepRun_pointerAt]
  split_ifs with written
  · simp
  · rfl

end Steps

section Readability

/-- Every stored pointer is accepted for its window exactly if successful. -/
def AcceptedIfSuccessful (bucket : Bucket) : Prop :=
  ∀ windowMs windowStartMs document,
    pointerAt bucket windowMs windowStartMs = some document →
    acceptedBy
        (.normalizedMarketSlice
          ⟨windowStartMs, windowStartMs + windowMs⟩)
        document =
      jsonStatusSuccess document

/-- Runs keep success and acceptance of stored pointers together. -/
theorem acceptedIfSuccessful_stepRun
    {bucket : Bucket}
    {normalizeRun : NormalizeRun}
    (accepted : AcceptedIfSuccessful bucket) :
    AcceptedIfSuccessful (stepRun bucket normalizeRun) := by
  intro windowMs windowStartMs document found
  rw [stepRun_pointerAt] at found
  split_ifs at found with written
  · obtain ⟨rfl, _, inRange, _⟩ := written
    rw [← Option.some.inj found]
    exact NormalizeRun.acceptedBy_pointer inRange
  · exact accepted windowMs windowStartMs document found

/-- In a published bucket, success and readability of a window agree. -/
theorem readableAt_iff_successAt
    (runs : List NormalizeRun)
    {windowMs windowStartMs : Int} :
    ReadableAt (Runs.run stepRun .empty runs) windowMs windowStartMs ↔
      SuccessAt (Runs.run stepRun .empty runs) windowMs
        windowStartMs := by
  have accepted :
      AcceptedIfSuccessful (Runs.run stepRun .empty runs) :=
    Runs.run_induction runs
      (by
        intro windowMs windowStartMs document found
        cases found)
      acceptedIfSuccessful_stepRun
  unfold ReadableAt SuccessAt
  constructor
  · rintro ⟨document, found, reads⟩
    exact ⟨document, found,
      (accepted _ _ _ found).symm.trans reads⟩
  · rintro ⟨document, found, success⟩
    exact ⟨document, found, (accepted _ _ _ found).trans success⟩

/-- An empty run stores no pointer over a successful one. -/
def KeepsSuccess (bucket : Bucket) (normalizeRun : NormalizeRun) : Prop :=
  normalizeRun.status = .empty →
    ∀ windowStartMs,
      normalizeRun.Writes windowStartMs →
      ¬ SuccessAt bucket normalizeRun.windowMs windowStartMs

/-- A run that stores pointers was successful or empty. -/
theorem NormalizeRun.status_of_writes
    {normalizeRun : NormalizeRun}
    {windowStartMs : Int}
    (writes : normalizeRun.Writes windowStartMs) :
    normalizeRun.status = .success ∨ normalizeRun.status = .empty := by
  have notBlocked : normalizeRun.status ≠ .blocked := by
    have reaches := writes.1
    simp only [RunOutcome.reachesIndex, Bool.and_eq_true] at reaches
    simpa [NormalizeRun.status] using reaches.2
  cases status : normalizeRun.status with
  | success =>
      exact Or.inl rfl
  | empty =>
      exact Or.inr rfl
  | blocked =>
      exact absurd status notBlocked

/-- One run keeps all successful windows exactly if it meets the condition. -/
theorem successAt_kept_iff
    {bucket : Bucket}
    {normalizeRun : NormalizeRun} :
    (∀ window : Int × Int,
      SuccessAt bucket window.1 window.2 →
      SuccessAt (stepRun bucket normalizeRun) window.1 window.2) ↔
      KeepsSuccess bucket normalizeRun := by
  constructor
  · intro kept isEmpty windowStartMs writes successful
    have still :=
      kept (normalizeRun.windowMs, windowStartMs) successful
    rw [successAt_stepRun_iff, if_pos ⟨rfl, writes⟩, isEmpty] at still
    cases still
  · intro keeps window successful
    rw [successAt_stepRun_iff]
    split_ifs with written
    · obtain ⟨sameWindow, writes⟩ := written
      rcases NormalizeRun.status_of_writes writes with success | isEmpty
      · exact success
      · rw [sameWindow] at successful
        exact absurd successful (keeps isEmpty window.2 writes)
    · exact successful

/--
Successful windows stay successful and readable in every later bucket state of
a history if and only if no empty run stores a pointer over a successful one.
-/
theorem readability_monotone_iff
    (runs : List NormalizeRun) :
    (∀ before middle after,
      runs = before ++ (middle ++ after) →
      ∀ window : Int × Int,
        SuccessAt (Runs.run stepRun .empty before) window.1 window.2 →
        SuccessAt (Runs.run stepRun .empty (before ++ middle))
            window.1 window.2 ∧
          ReadableAt (Runs.run stepRun .empty (before ++ middle))
            window.1 window.2) ↔
      Runs.Along stepRun KeepsSuccess .empty runs := by
  simp only [readableAt_iff_successAt, and_self]
  refine (Runs.stays_iff_along (fun (window : Int × Int) bucket =>
    SuccessAt bucket window.1 window.2)).trans ?_
  simp only [successAt_kept_iff]

/-- A run of the first quarter hour with the default arguments. -/
def quarterRun
    (build : BuildResult)
    (pointerPut : Int → PutOutcome) : NormalizeRun where
  args := namedBucketArgs
  decision := ⟨.backfill, ⟨0, 900000⟩⟩
  nowMs := 1300000
  outcome :=
    { RunOutcome.undisturbed build with pointerPut := pointerPut }
  aligned := by constructor <;> decide
  representable := by decide

/-- What a quarter run stores. -/
theorem quarterRun_writes_iff
    {build : BuildResult}
    {pointerPut : Int → PutOutcome}
    (notBlocked : build.status ≠ .blocked)
    {windowStartMs : Int} :
    (quarterRun build pointerPut).Writes windowStartMs ↔
      (0 ≤ windowStartMs ∧ windowStartMs < 900000 ∧
          (1000 : Int) ∣ windowStartMs) ∧
        (pointerPut windowStartMs).applied = true := by
  unfold NormalizeRun.Writes
  rw [NormalizeRun.mem_windowStarts_iff]
  simp [quarterRun, RunOutcome.reachesIndex, RunOutcome.undisturbed,
    PutOutcome.acknowledged, notBlocked, NormalizeRun.windowMs,
    namedBucketArgs, NormalizeArgs.withDefaults, defaultWindowMs]

/-- After a successful quarter run its first window is successful. -/
private theorem quarterRun_published :
    SuccessAt
      (Runs.run stepRun .empty [quarterRun ⟨0, 1⟩ (fun _ => .stored)])
      1000 0 := by
  have written :
      (quarterRun ⟨0, 1⟩ (fun _ => .stored)).Writes 0 :=
    (quarterRun_writes_iff (by decide)).mpr (by decide)
  rw [Runs.run_cons, Runs.run_nil, successAt_stepRun_iff,
    if_pos ⟨rfl, written⟩]
  rfl

/--
Publishing a quarter hour again after its raw data expired: the second build is
empty and its pointers replace the successful ones.
-/
theorem emptyRerun_replaces_success :
    ¬ ∀ before middle after : List NormalizeRun,
      [quarterRun ⟨0, 1⟩ (fun _ => .stored),
          quarterRun ⟨0, 0⟩ (fun _ => .stored)] =
        before ++ (middle ++ after) →
      ∀ window : Int × Int,
        SuccessAt (Runs.run stepRun .empty before) window.1 window.2 →
        SuccessAt (Runs.run stepRun .empty (before ++ middle))
            window.1 window.2 ∧
          ReadableAt (Runs.run stepRun .empty (before ++ middle))
            window.1 window.2 := by
  intro monotone
  have later :=
    (monotone [quarterRun ⟨0, 1⟩ (fun _ => .stored)]
      [quarterRun ⟨0, 0⟩ (fun _ => .stored)] [] (by simp)
      (1000, 0) quarterRun_published).1
  rw [List.singleton_append, Runs.run_cons, Runs.run_cons,
    Runs.run_nil, successAt_stepRun_iff] at later
  have written :
      (quarterRun ⟨0, 0⟩ (fun _ => .stored)).Writes 0 :=
    (quarterRun_writes_iff (by decide)).mpr (by decide)
  rw [if_pos ⟨rfl, written⟩] at later
  cases later

end Readability

end MarketIngest.Normalize
