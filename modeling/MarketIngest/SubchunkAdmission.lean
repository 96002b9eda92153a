import MarketIngest.BootstrapNormalize
import MarketIngest.BootstrapTiling

namespace MarketIngest.Supervisor

open Normalize S3 Tiling

/-!
# Subchunks as ranges of the worker

The supervisor gives each subchunk to a child as an explicit range, together
with its own schedule interval and a window of one second.  The child rejects
ranges that are not aligned to both.  What makes all subchunks aligned is not
checked with the arguments of the supervisor.
-/

section Admission

/-- The child of a subchunk accepts its range. -/
def AcceptedByChild
    (args : SupervisorArgs)
    (subchunk : BootstrapChunk) : Prop :=
  let child := normalizeBackfillArgs args subchunk
  validateRange subchunk.startMs subchunk.endMs child.windowMs
    child.scheduleIntervalMs = .ok ()

/-- A child that nothing disturbs. -/
def NormalizeChild.undisturbed
    (nowMs : Int)
    (build : BuildResult) : NormalizeChild where
  spawnFails := false
  killed := false
  preflightEnv := false
  preflightFails := false
  nowMs := nowMs
  outcome := .undisturbed build

variable
  {args : SupervisorArgs}
  {chunk subchunk : BootstrapChunk}

/-- What the child of a subchunk accepts. -/
theorem acceptedByChild_iff :
    AcceptedByChild args subchunk ↔
      AlignedRange 1000 args.normalizeScheduleIntervalMs
        subchunk.range := by
  have window : (0 : Int) < 1000 := by decide
  exact validateRange_eq_ok_iff window args.normalizeScheduleIntervalMs.2.1

/-- The subchunks of a chunk are accepted if the chunk is aligned to them. -/
theorem acceptedByChild_of_aligned
    (nonneg : 0 ≤ chunk.startMs)
    (nonempty : chunk.startMs < chunk.endMs)
    (representable : chunk.endMs ≤ i64Max)
    (seconds : 1000 ∣ args.normalizeScheduleIntervalMs.1)
    (startAligned : args.normalizeScheduleIntervalMs.1 ∣ chunk.startMs)
    (endAligned : args.normalizeScheduleIntervalMs.1 ∣ chunk.endMs)
    (member : subchunk ∈ normalizeSubchunks args chunk) :
    AcceptedByChild args subchunk := by
  have startRepresentable : i64Min ≤ chunk.startMs :=
    le_trans (by decide : i64Min ≤ 0) nonneg
  obtain ⟨lower, inside, steps, isEnd⟩ :=
    (mem_normalizeSubchunks_iff nonempty startRepresentable
      representable).mp member
  have positive := args.normalizeScheduleIntervalMs.2.1
  have aligned : args.normalizeScheduleIntervalMs.1 ∣ subchunk.startMs := by
    have sum := Int.dvd_add steps startAligned
    rwa [Int.sub_add_cancel] at sum
  have room := Int.le_of_dvd (by omega) (Int.dvd_sub endAligned aligned)
  have full :
      subchunk.endMs =
        subchunk.startMs + args.normalizeScheduleIntervalMs.1 := by
    rw [isEnd, min_eq_left (by omega)]
  have alignedEnd :
      args.normalizeScheduleIntervalMs.1 ∣ subchunk.endMs := by
    rw [full]
    exact Int.dvd_add aligned (Int.dvd_refl _)
  rw [acceptedByChild_iff]
  exact
    { nonneg := nonneg.trans lower
      nonempty := by
        change subchunk.startMs < subchunk.endMs
        omega
      windowStart := seconds.trans aligned
      windowEnd := seconds.trans alignedEnd
      intervalStart := aligned
      intervalEnd := alignedEnd }

/-- If the subchunks of a chunk are accepted, the chunk is aligned to them. -/
theorem aligned_of_acceptedByChild
    (nonempty : chunk.startMs < chunk.endMs)
    (startRepresentable : i64Min ≤ chunk.startMs)
    (endRepresentable : chunk.endMs ≤ i64Max)
    (accepted :
      ∀ subchunk ∈ normalizeSubchunks args chunk,
        AcceptedByChild args subchunk) :
    0 ≤ chunk.startMs ∧
      1000 ∣ args.normalizeScheduleIntervalMs.1 ∧
      args.normalizeScheduleIntervalMs.1 ∣ chunk.endMs - chunk.startMs := by
  have positive := args.normalizeScheduleIntervalMs.2.1
  have tiles : Tiles chunk.startMs chunk.endMs
      ((normalizeSubchunks args chunk).map BootstrapChunk.cell) :=
    tiles_normalizeSubchunks nonempty startRepresentable endRepresentable
  obtain ⟨_, firstCell⟩ := tiles.exists_first nonempty
  obtain ⟨first, isFirst, firstShape⟩ := List.mem_map.mp firstCell
  obtain ⟨_, lastCell⟩ := tiles.exists_last nonempty
  obtain ⟨last, isLast, lastShape⟩ := List.mem_map.mp lastCell
  have firstStart : first.startMs = chunk.startMs :=
    congrArg Prod.fst firstShape
  have lastEnd : last.endMs = chunk.endMs :=
    congrArg Prod.snd lastShape
  have firstAligned := acceptedByChild_iff.mp (accepted first isFirst)
  have lastAligned := acceptedByChild_iff.mp (accepted last isLast)
  have startAligned :
      args.normalizeScheduleIntervalMs.1 ∣ chunk.startMs :=
    firstStart ▸ firstAligned.intervalStart
  have whole :
      args.normalizeScheduleIntervalMs.1 ∣
        chunk.endMs - chunk.startMs :=
    Int.dvd_sub (lastEnd ▸ lastAligned.intervalEnd) startAligned
  refine ⟨firstStart ▸ firstAligned.nonneg, ?_, whole⟩
  -- The first subchunk is one interval long.
  have isEnd :=
    ((mem_normalizeSubchunks_iff nonempty startRepresentable
      endRepresentable).mp isFirst).2.2.2
  have room := Int.le_of_dvd (by omega) whole
  rw [firstStart, min_eq_left (by omega)] at isEnd
  have length :
      first.endMs - first.startMs = args.normalizeScheduleIntervalMs.1 := by
    omega
  rw [← length]
  exact Int.dvd_sub firstAligned.windowEnd firstAligned.windowStart

/-- A child that nothing disturbs returns for a range that it accepts. -/
theorem runNormalize_undisturbed
    (accepted : AcceptedByChild args subchunk)
    (nowMs : Int)
    (build : BuildResult)
    (bucket : Bucket) :
    (runNormalize (normalizeBackfillArgs args subchunk)
      (.undisturbed nowMs build) bucket).2 = true := by
  have decided :
      decideMode (normalizeBackfillArgs args subchunk) nowMs none none =
        .ok (some
          { runMode := .backfill
            inputRange := ⟨subchunk.startMs, subchunk.endMs⟩ }) := by
    rw [decideMode]
    simp only [normalizeBackfillArgs]
    unfold AcceptedByChild at accepted
    simp only [normalizeBackfillArgs] at accepted
    rw [accepted]
  have returned :
      (runDecision (normalizeBackfillArgs args subchunk)
          { runMode := .backfill
            inputRange := ⟨subchunk.startMs, subchunk.endMs⟩ }
          nowMs (.undisturbed build) bucket).2 = .ok () := by
    rw [runDecision_ok_iff]
    simp [RunOutcome.completes, RunOutcome.undisturbed,
      PutOutcome.acknowledged]
  have noPreflight :
      ((normalizeBackfillArgs args subchunk).preflight ||
        (NormalizeChild.undisturbed nowMs build).preflightEnv) = false :=
    rfl
  rw [runNormalize, noPreflight]
  simp only [Bool.false_eq_true, if_false, runBackfillOnce,
    NormalizeChild.undisturbed, decided, returned]

/-- Accepted subchunks are normalized to the last if nothing disturbs. -/
theorem runL1NormalizeSubchunks_undisturbed
    {subchunks : List BootstrapChunk}
    (accepted :
      ∀ subchunk ∈ subchunks, AcceptedByChild args subchunk)
    (nowMs : Int)
    (build : BuildResult)
    (bucket : Bucket) :
    (runL1NormalizeSubchunks args (fun _ => false)
      (fun _ => .undisturbed nowMs build) subchunks bucket).2 =
        .ok true := by
  induction subchunks generalizing bucket with
  | nil =>
      rfl
  | cons subchunk rest inductionHypothesis =>
      obtain ⟨headAccepted, restAccepted⟩ := List.forall_mem_cons.mp accepted
      have exited :=
        runNormalize_undisturbed headAccepted nowMs build bucket
      have spawned :
          (NormalizeChild.undisturbed nowMs build).spawnFails = false :=
        rfl
      have survived :
          (NormalizeChild.undisturbed nowMs build).killed = false :=
        rfl
      rw [runL1NormalizeSubchunks]
      simp only [spawned, survived, exited, Bool.false_eq_true, if_false,
        if_true]
      split_ifs
      · exact inductionHypothesis restAccepted bucket
      · exact inductionHypothesis restAccepted _

end Admission

section Chunks

/-- Every subchunk that is handed out is accepted, and chunks get finished. -/
structure SubchunksValid (args : BootstrapArgs) (nowMs : Int) : Prop where
  accepted :
    ∀ chunk ∈ args.chunks nowMs,
      ∀ subchunk ∈ normalizeSubchunks args.toSupervisorArgs chunk,
        AcceptedByChild args.toSupervisorArgs subchunk
  finished :
    ∀ chunk ∈ args.chunks nowMs,
      ∀ childNowMs build bucket,
        (runL1NormalizeChunk args.toSupervisorArgs (fun _ => false)
          (fun _ => .undisturbed childNowMs build) chunk bucket).2 =
            .ok true

/--
All subchunks are valid ranges if and only if the history starts after 1970 and
the schedule interval is a whole number of seconds that divides the chunks.
-/
theorem subchunksValid_iff
    (args : BootstrapArgs)
    (accepted : validateCompletedArgs args = .ok ())
    (nowMs : Int)
    (nowRepresentable : nowMs ≤ i64Max)
    (representable : i64Min ≤ args.startBound nowMs) :
    SubchunksValid args nowMs ↔
      0 ≤ args.startBound nowMs ∧
        1000 ∣ args.normalizeScheduleIntervalMs.1 ∧
        args.normalizeScheduleIntervalMs.1 ∣
          args.bootstrapChunkHours.1 * hourMs := by
  obtain ⟨isChunk, -, -⟩ := chunkMs_eq accepted
  have hours : args.bootstrapChunkHours.1 * hourMs = args.chunkMs :=
    isChunk.symm
  have bounded :=
    bounded_of_accepted accepted nowRepresentable representable
  have tiles := tiles_chunks bounded nowRepresentable representable
  have inRange {chunk : BootstrapChunk} (member : chunk ∈ args.chunks nowMs) :
      args.startBound nowMs ≤ chunk.startMs ∧
        chunk.startMs < chunk.endMs ∧
        chunk.endMs ≤ args.endBound nowMs :=
    tiles.bounds (List.mem_map_of_mem member)
  have shape {chunk : BootstrapChunk} (member : chunk ∈ args.chunks nowMs) :=
    ((mem_chunks_iff bounded nowRepresentable representable).mp member).2.2
  have early := bounded.early
  rw [hours]
  constructor
  · intro valid
    have nonempty : args.startBound nowMs < args.endBound nowMs := by
      have := bounded.lookback.1
      have := lookbackMs_pos args
      omega
    obtain ⟨_, firstCell⟩ := tiles.exists_first nonempty
    obtain ⟨first, isFirst, firstShape⟩ := List.mem_map.mp firstCell
    have firstStart : first.startMs = args.startBound nowMs :=
      congrArg Prod.fst firstShape
    obtain ⟨lower, inside, upper⟩ := inRange isFirst
    obtain ⟨nonneg, seconds, whole⟩ :=
      aligned_of_acceptedByChild inside (representable.trans lower)
        (by omega) (valid.accepted first isFirst)
    rw [(shape isFirst).2, add_sub_cancel_left] at whole
    exact ⟨firstStart ▸ nonneg, seconds, whole⟩
  · rintro ⟨nonneg, seconds, divides⟩
    have allAccepted :
        ∀ chunk ∈ args.chunks nowMs,
          ∀ subchunk ∈ normalizeSubchunks args.toSupervisorArgs chunk,
            AcceptedByChild args.toSupervisorArgs subchunk := by
      intro chunk member subchunk among
      obtain ⟨lower, inside, upper⟩ := inRange member
      obtain ⟨aligned, isEnd⟩ := shape member
      have startAligned := divides.trans aligned
      refine acceptedByChild_of_aligned (nonneg.trans lower) inside
        (by omega) seconds startAligned ?_ among
      rw [isEnd]
      exact Int.dvd_add startAligned divides
    exact
      { accepted := allAccepted
        finished := fun chunk member childNowMs build bucket =>
          runL1NormalizeSubchunks_undisturbed (allAccepted chunk member)
            childNowMs build bucket }

/-- With the default arguments all subchunks are valid. -/
theorem defaultSubchunks_valid :
    validateCompletedArgs defaultBootstrapArgs = .ok () ∧
      SubchunksValid defaultBootstrapArgs 1779471443000 := by
  have accepted : validateCompletedArgs defaultBootstrapArgs = .ok () := by
    decide
  exact ⟨accepted,
    (subchunksValid_iff defaultBootstrapArgs accepted 1779471443000
      (by decide) (by decide)).mpr (by decide)⟩

/-- Arguments with a schedule interval of seven seconds. -/
def sevenSecondArgs : BootstrapArgs :=
  { defaultBootstrapArgs with
    normalizeScheduleIntervalMs := ⟨7000, by decide⟩ }

/-- Seven seconds do not divide a day, and some subchunk is rejected. -/
theorem sevenSeconds_rejected :
    validateCompletedArgs sevenSecondArgs = .ok () ∧
      ¬ SubchunksValid sevenSecondArgs 1779471443000 := by
  have accepted : validateCompletedArgs sevenSecondArgs = .ok () := by
    decide
  refine ⟨accepted, ?_⟩
  intro valid
  have bounded : Bounded sevenSecondArgs 1779471443000 :=
    bounded_of_accepted accepted (by decide) (by decide)
  have lastDay :
      { startMs := 1779321600000
        endMs := 1779408000000 : BootstrapChunk } ∈
        sevenSecondArgs.chunks 1779471443000 :=
    (mem_chunks_iff bounded (by decide) (by decide)).mpr (by decide)
  have aligned :=
    aligned_of_acceptedByChild (by decide) (by decide) (by decide)
      (valid.accepted _ lastDay)
  exact absurd aligned.2.2 (by decide)

end Chunks

end MarketIngest.Supervisor
