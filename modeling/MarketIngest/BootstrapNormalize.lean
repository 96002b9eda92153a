import MarketIngest.BootstrapMarker

namespace MarketIngest.Supervisor

open S3 Normalize

/-!
# Normalizing the subchunks of a chunk

Each subchunk is skipped if its first pointer says that its run was successful,
and is otherwise normalized by a child process.  The supervisor learns only the
exit status of the child.  A child exits with success whenever its run returns,
and a run returns for an empty and for a blocked build as well.
-/

/-- Arguments that the supervisor gives to every normalize child. -/
def normalizeArgs (args : SupervisorArgs) : NormalizeArgs :=
  { NormalizeArgs.withDefaults with
    l0S3Bucket := args.l0S3Bucket
    l1S3Bucket := args.l1S3Bucket
    scheduleIntervalMs := args.normalizeScheduleIntervalMs
    windowMs := defaultWindowMs
    scanMarginMs := defaultScanMarginMs
    watermarkDelayMs := defaultWatermarkDelayMs
    clockSkewMarginMs := defaultClockSkewMarginMs
    maxLatencyMs := defaultMaxLatencyMs
    l0RunKeyOverlapMs := args.l0RunKeyOverlapMs
    maxWindowsPerTick := args.normalizeMaxWindowsPerTick
    livePriority := true
    livePriorityLagThresholdMs := defaultLivePriorityLagThresholdMs }

/-- Arguments of the child that only runs the newest window. -/
def livePriorityNormalizeArgs (args : SupervisorArgs) : NormalizeArgs :=
  { normalizeArgs args with
    livePriorityOnly := true
    maxWindowsPerTick := ⟨1, Nat.one_pos⟩ }

/-- Arguments of the child that normalizes one subchunk. -/
def normalizeBackfillArgs
    (args : SupervisorArgs)
    (chunk : BootstrapChunk) : NormalizeArgs :=
  { normalizeArgs args with
    inputStartMs := some chunk.startMs
    inputEndMs := some chunk.endMs }

/-- What the surroundings of one normalize child decide. -/
structure NormalizeChild where
  spawnFails : Bool
  killed : Bool
  preflightEnv : Bool
  preflightFails : Bool
  nowMs : Int
  outcome : RunOutcome

/-- Run the decision of an explicit range; the flag is the exit status. -/
def runBackfillOnce
    (args : NormalizeArgs)
    (nowMs : Int)
    (outcome : RunOutcome)
    (bucket : Bucket) : Bucket × Bool :=
  match decideMode args nowMs none none with
  | .error _ => (bucket, false)
  | .ok none => (bucket, true)
  | .ok (some decision) =>
      let (after, result) :=
        runDecision args decision nowMs outcome bucket
      (after, result matches .ok ())

/-- The child of an explicit range; a preflight checks the buckets only. -/
def runNormalize
    (args : NormalizeArgs)
    (child : NormalizeChild)
    (bucket : Bucket) : Bucket × Bool :=
  if args.preflight || child.preflightEnv then
    (bucket, !child.preflightFails)
  else
    runBackfillOnce args child.nowMs child.outcome bucket

/-- Why the scheduler stops. -/
inductive SchedulerError where
  | storage
  | spawn
  deriving Repr, DecidableEq

/-- Normalize some subchunks one after the other. -/
def runL1NormalizeSubchunks
    (args : SupervisorArgs)
    (lookupFails : BootstrapChunk → Bool)
    (children : BootstrapChunk → NormalizeChild) :
    List BootstrapChunk → Bucket → Bucket × Except SchedulerError Bool
  | [], bucket => (bucket, .ok true)
  | subchunk :: rest, bucket =>
      if lookupFails subchunk then
        (bucket, .error .storage)
      else if hasL1Success bucket subchunk then
        runL1NormalizeSubchunks args lookupFails children rest bucket
      else if (children subchunk).spawnFails then
        (bucket, .error .spawn)
      else
        let (after, exitSuccess) :=
          runNormalize (normalizeBackfillArgs args subchunk)
            (children subchunk) bucket
        if (children subchunk).killed then
          (after, .ok false)
        else if exitSuccess then
          runL1NormalizeSubchunks args lookupFails children rest after
        else
          (after, .ok false)

/-- Normalize all subchunks of a chunk. -/
def runL1NormalizeChunk
    (args : SupervisorArgs)
    (lookupFails : BootstrapChunk → Bool)
    (children : BootstrapChunk → NormalizeChild)
    (chunk : BootstrapChunk)
    (bucket : Bucket) : Bucket × Except SchedulerError Bool :=
  runL1NormalizeSubchunks args lookupFails children
    (normalizeSubchunks args chunk) bucket

section Children

variable
  {args : SupervisorArgs}
  {subchunk : BootstrapChunk}
  {child : NormalizeChild}
  {bucket : Bucket}

/-- A child changes pointers of its own subchunk only. -/
theorem runNormalize_pointerAt_other
    {windowStartMs : Int}
    (outside :
      windowStartMs < subchunk.startMs ∨ subchunk.endMs ≤ windowStartMs)
    (windowMs : Int) :
    pointerAt
        (runNormalize (normalizeBackfillArgs args subchunk) child
          bucket).1
        windowMs windowStartMs =
      pointerAt bucket windowMs windowStartMs := by
  unfold runNormalize runBackfillOnce
  split_ifs
  · rfl
  · split
    · rfl
    · rfl
    · rename_i decision decided
      have range :=
        decideMode_explicit_eq_some rfl rfl decided
      simp only
      rw [runDecision_pointerAt, if_neg]
      rintro ⟨_, _, member, _⟩
      rw [range] at member
      have bounds := bounds_of_mem_indexWindowStarts member
      simp only at bounds
      omega

/-- The run of an explicit range, when it exits with success. -/
private theorem runBackfillOnce_hasL1Success
    {nowMs : Int}
    {outcome : RunOutcome}
    (nonempty : subchunk.startMs < subchunk.endMs)
    (pending : hasL1Success bucket subchunk = false)
    (exited :
      (runBackfillOnce (normalizeBackfillArgs args subchunk) nowMs
        outcome bucket).2 = true) :
    hasL1Success
        (runBackfillOnce (normalizeBackfillArgs args subchunk) nowMs
          outcome bucket).1
        subchunk =
      true ↔
      outcome.build.status = .success := by
  unfold runBackfillOnce at exited ⊢
  split at exited
  · cases exited
  · rename_i decided
    exact absurd decided (decideMode_explicit_ne_none rfl rfl)
  · rename_i decision decided
    have range : decision.inputRange = subchunk.range :=
      decideMode_explicit_eq_some rfl rfl decided
    have returned :
        (runDecision (normalizeBackfillArgs args subchunk) decision
          nowMs outcome bucket).2 = .ok () := by
      simp only at exited
      split at exited
      · assumption
      · cases exited
    have first :
        subchunk.startMs ∈
          indexWindowStarts decision.inputRange
            (normalizeBackfillArgs args subchunk).windowMs := by
      rw [range]
      exact start_mem_indexWindowStarts
        (normalizeBackfillArgs args subchunk).windowMs.2.1 nonempty
    have pointer := runDecision_pointerAt_of_ok returned first
    by_cases blocked : outcome.build.status = .blocked
    · rw [if_pos blocked] at pointer
      have unchanged :
          hasL1Success
              (runDecision (normalizeBackfillArgs args subchunk)
                decision nowMs outcome bucket).1
              subchunk =
            false := by
        rw [hasL1Success_congr pointer, pending]
      simp [unchanged, blocked]
    · rw [if_neg blocked] at pointer
      simp only
      rw [hasL1Success_of_runPointer pointer, range]
      simp

/--
A child that exits with success leaves its subchunk successful exactly if it
normalized the range and the build was successful.
-/
theorem runNormalize_hasL1Success
    (nonempty : subchunk.startMs < subchunk.endMs)
    (pending : hasL1Success bucket subchunk = false)
    (exited :
      (runNormalize (normalizeBackfillArgs args subchunk) child
        bucket).2 = true) :
    hasL1Success
        (runNormalize (normalizeBackfillArgs args subchunk) child
          bucket).1
        subchunk =
      true ↔
      child.preflightEnv = false ∧
        child.outcome.build.status = .success := by
  unfold runNormalize at exited ⊢
  cases preflight : child.preflightEnv with
  | true =>
      simp [pending]
  | false =>
      have noPreflight :
          ((normalizeBackfillArgs args subchunk).preflight || false) =
            false :=
        rfl
      rw [preflight, noPreflight] at exited
      simp only [noPreflight, Bool.false_eq_true, ↓reduceIte,
        true_and] at exited ⊢
      exact runBackfillOnce_hasL1Success nonempty pending exited

/-- Running subchunks changes pointers inside them only. -/
theorem runL1NormalizeSubchunks_pointerAt_other
    {lookupFails : BootstrapChunk → Bool}
    {children : BootstrapChunk → NormalizeChild}
    {subchunks : List BootstrapChunk}
    {windowStartMs : Int}
    (outside :
      ∀ subchunk ∈ subchunks,
        windowStartMs < subchunk.startMs ∨
          subchunk.endMs ≤ windowStartMs)
    (windowMs : Int) :
    pointerAt
        (runL1NormalizeSubchunks args lookupFails children subchunks
          bucket).1
        windowMs windowStartMs =
      pointerAt bucket windowMs windowStartMs := by
  induction subchunks generalizing bucket with
  | nil =>
      rfl
  | cons head rest inductionHypothesis =>
      have childFrame :=
        @runNormalize_pointerAt_other args head (children head) bucket
          windowStartMs (outside head (by simp)) windowMs
      have restOutside :
          ∀ subchunk ∈ rest,
            windowStartMs < subchunk.startMs ∨
              subchunk.endMs ≤ windowStartMs :=
        fun subchunk member =>
          outside subchunk (List.mem_cons_of_mem _ member)
      simp only [runL1NormalizeSubchunks]
      split_ifs
      · rfl
      · exact inductionHypothesis restOutside
      · rfl
      · exact childFrame
      · rw [inductionHypothesis restOutside]
        exact childFrame
      · exact childFrame

/--
When all children of ordered subchunks exited with success, a subchunk is
successful exactly if it was before or its build was.
-/
theorem runL1NormalizeSubchunks_hasL1Success
    {lookupFails : BootstrapChunk → Bool}
    {children : BootstrapChunk → NormalizeChild}
    {subchunks : List BootstrapChunk}
    (nonempty :
      ∀ subchunk ∈ subchunks, subchunk.startMs < subchunk.endMs)
    (ordered :
      subchunks.Pairwise
        (fun first second => first.endMs ≤ second.startMs))
    (finished :
      (runL1NormalizeSubchunks args lookupFails children subchunks
        bucket).2 = .ok true)
    {subchunk : BootstrapChunk}
    (member : subchunk ∈ subchunks) :
    hasL1Success
        (runL1NormalizeSubchunks args lookupFails children subchunks
          bucket).1
        subchunk =
      true ↔
      hasL1Success bucket subchunk = true ∨
        ((children subchunk).preflightEnv = false ∧
          (children subchunk).outcome.build.status = .success) := by
  induction subchunks generalizing bucket with
  | nil =>
      cases member
  | cons head rest inductionHypothesis =>
      rw [List.pairwise_cons] at ordered
      have restNonempty :
          ∀ subchunk ∈ rest, subchunk.startMs < subchunk.endMs :=
        fun subchunk inRest =>
          nonempty subchunk (List.mem_cons_of_mem _ inRest)
      have headNonempty := nonempty head (by simp)
      -- The children of later subchunks do not touch the first pointer of
      -- the head, and the child of the head does not touch theirs.
      have headKept (before : Bucket) :
          hasL1Success
              (runL1NormalizeSubchunks args lookupFails children rest
                before).1
              head =
            hasL1Success before head := by
        apply hasL1Success_congr
        apply runL1NormalizeSubchunks_pointerAt_other
        intro later inRest
        have after := ordered.1 later inRest
        exact Or.inl (by omega)
      have laterKept
          {later : BootstrapChunk}
          (inRest : later ∈ rest) :
          hasL1Success
              (runNormalize (normalizeBackfillArgs args head)
                (children head) bucket).1
              later =
            hasL1Success bucket later := by
        apply hasL1Success_congr
        apply runNormalize_pointerAt_other
        exact Or.inr (ordered.1 later inRest)
      simp only [runL1NormalizeSubchunks] at finished ⊢
      split_ifs at finished ⊢ with lookup skip spawn killed exited
      · -- The head is skipped.
        rcases List.mem_cons.mp member with rfl | inRest
        · simp [headKept, skip]
        · exact inductionHypothesis restNonempty ordered.2 finished inRest
      · cases finished
      · -- The child of the head exited with success.
        have pending : hasL1Success bucket head = false := by
          simpa using skip
        rcases List.mem_cons.mp member with rfl | inRest
        · rw [headKept, pending]
          simpa using
            runNormalize_hasL1Success headNonempty pending exited
        · rw [inductionHypothesis restNonempty ordered.2 finished inRest,
            laterKept inRest]
      · cases finished

end Children

end MarketIngest.Supervisor
