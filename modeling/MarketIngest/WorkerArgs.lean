import MarketIngest.NormalizeCommandLine
import MarketIngest.BootstrapNormalize
import MarketIngest.SupervisorCommandLine

namespace MarketIngest.Supervisor.WorkerArgs

open CommandLine CommandLine.Grammar

/-!
# The normalize children of the supervisor

The supervisor starts its workers with words that it makes from its own
arguments.  A normalize worker reads them to the record that the supervisor
meant, whatever command line the supervisor itself was started with, and its
checks never refuse what those of the supervisor accepted.
-/

/-- Words that every normalize child gets. -/
def normalizeArgs (args : ParsedArgs) : List String :=
  ["--l0-s3-bucket", args.l0S3Bucket,
    "--l0-local-root", args.l0SpoolRoot,
    "--l1-s3-bucket", args.l1S3Bucket,
    "--aws-region", args.awsRegion,
    "--schedule-interval-ms", toString args.normalizeScheduleIntervalMs.1,
    "--window-ms", "1000",
    "--scan-margin-ms", "300000",
    "--watermark-delay-ms", "360000",
    "--clock-skew-margin-ms", "1000",
    "--max-latency-ms", "1000",
    "--l0-run-key-overlap-ms", toString args.l0RunKeyOverlapMs.1,
    "--max-windows-per-tick", toString args.normalizeMaxWindowsPerTick.1,
    "--live-priority",
    "--live-priority-lag-threshold-ms", "900000",
    "--spool-root", args.l1SpoolRoot,
    "--catchup-tmp-root", args.catchupTmpRoot,
    "--l0-s3-retention-days", "45",
    "--l1-s3-retention-days", "240",
    "--disable-s3-retention"] ++
    optionWords "--aws-profile" args.awsProfile

/-- Words of the child that only runs the newest window. -/
def livePriorityNormalizeArgs (args : ParsedArgs) : List String :=
  normalizeArgs args ++
    ["--live-priority-only", "--max-windows-per-tick", "1"]

/-- Words of the child that normalizes one subchunk. -/
def normalizeBackfillArgs
    (args : ParsedArgs)
    (chunk : BootstrapChunk) : List String :=
  normalizeArgs args ++
    ["--input-start-ms", toString chunk.startMs,
      "--input-end-ms", toString chunk.endMs]

/-- The record that every normalize child is meant to have. -/
def normalizeChild (args : ParsedArgs) : Normalize.ParsedArgs :=
  { Normalize.ParsedArgs.withDefaults with
    l0S3Bucket := args.l0S3Bucket
    l0LocalRoot := args.l0SpoolRoot
    l1S3Bucket := args.l1S3Bucket
    awsProfile := args.awsProfile
    awsRegion := args.awsRegion
    scheduleIntervalMs := args.normalizeScheduleIntervalMs
    l0RunKeyOverlapMs := args.l0RunKeyOverlapMs
    maxWindowsPerTick := args.normalizeMaxWindowsPerTick
    livePriority := true
    spoolRoot := args.l1SpoolRoot
    catchupTmpRoot := args.catchupTmpRoot
    s3RetentionEnabled := false }

/-- As few ranges as a tick can run. -/
def oneWindow : CommandLine.PositiveUsize :=
  ⟨1, one_fits⟩

/-- The record of the child that only runs the newest window. -/
def livePriorityChild (args : ParsedArgs) : Normalize.ParsedArgs :=
  { normalizeChild args with
    livePriorityOnly := true
    maxWindowsPerTick := oneWindow }

/-- The record of the child that normalizes one subchunk. -/
def normalizeBackfillChild
    (args : ParsedArgs)
    (chunk : BootstrapChunk) : Normalize.ParsedArgs :=
  { normalizeChild args with
    inputStartMs := some chunk.startMs
    inputEndMs := some chunk.endMs }

section Buckets

variable {args : ParsedArgs}

/-- A bucket name passes the check. -/
def RealBucket (value : String) : Prop :=
  value.toList.all Text.isWhiteSpace = false ∧
    (value.toList.contains '<' || value.toList.contains '>') = false

/-- The supervisor accepts real bucket names only. -/
theorem realBuckets_of_accepted
    (accepted : validateCompletedArgs args.bootstrapArgs = .ok ()) :
    RealBucket args.l0S3Bucket ∧ RealBucket args.l1S3Bucket := by
  have passed := firstRefusal_eq_ok_iff.mp accepted
  simp only [List.forall_mem_append, validateBucketArg,
    List.forall_mem_cons] at passed
  obtain ⟨⟨⟨⟨-, l0Blank, l0Placeholder, -⟩, l1Blank, l1Placeholder, -⟩, -⟩,
    -⟩ := passed
  exact ⟨⟨l0Blank, l0Placeholder⟩, l1Blank, l1Placeholder⟩

theorem RealBucket.not_isEmpty
    {value : String}
    (real : RealBucket value) :
    value.isEmpty = false := by
  by_contra isEmpty
  rw [Bool.not_eq_false, String.isEmpty_iff] at isEmpty
  have blank := real.1
  rw [isEmpty] at blank
  cases blank

end Buckets

section Normalize

variable {args : ParsedArgs}

/-- Real buckets and a range with both ends or none pass all checks. -/
private theorem validateParsedArgs_child
    {parsed : Normalize.NormalizeArgs}
    (l0Real : RealBucket parsed.l0S3Bucket)
    (l1Real : RealBucket parsed.l1S3Bucket)
    (scanned : parsed.scanMarginMs.1 ≤ parsed.watermarkDelayMs.1)
    (range : parsed.inputStartMs.isSome = parsed.inputEndMs.isSome)
    (audit :
      parsed.auditL1IndexStartMs.isSome =
        parsed.auditL1IndexEndMs.isSome) :
    Normalize.validateParsedArgs parsed = .ok () := by
  apply firstRefusal_eq_ok_iff.mpr
  simp only [List.forall_mem_append, Normalize.validateRealBucket,
    List.forall_mem_cons]
  have ends : ∀ check ∈ ([] : List (Bool × String)), check.1 = false :=
    fun _ member => by cases member
  exact ⟨⟨⟨⟨l0Real.not_isEmpty, l1Real.not_isEmpty, ends⟩, l0Real.1,
    l0Real.2, ends⟩, l1Real.1, l1Real.2, ends⟩,
    decide_eq_false (by omega), by simp [range], by simp [audit], ends⟩

/-- The words of every normalize child are read before the rest. -/
private theorem parseFrom_normalizeArgs
    (args : ParsedArgs)
    (rest : List String) :
    Normalize.grammar.parseFrom (normalizeArgs args ++ rest)
        .withDefaults =
      Normalize.grammar.parseFrom rest (normalizeChild args) := by
  unfold normalizeArgs
  rw [List.append_assoc]
  refine (parseFrom_value rfl rfl rfl).trans ?_
  refine (parseFrom_value rfl rfl rfl).trans ?_
  refine (parseFrom_value rfl rfl rfl).trans ?_
  refine (parseFrom_value rfl rfl rfl).trans ?_
  refine (parseFrom_value rfl rfl
    (storing_eq (readPositiveI64_toString _))).trans ?_
  refine (parseFrom_value rfl rfl (storing_eq
    (readPositiveI64_toString Normalize.defaultWindowMs))).trans ?_
  refine (parseFrom_value rfl rfl (storing_eq
    (readPositiveI64_toString Normalize.defaultScanMarginMs))).trans ?_
  refine (parseFrom_value rfl rfl (storing_eq
    (readPositiveI64_toString Normalize.defaultWatermarkDelayMs))).trans ?_
  refine (parseFrom_value rfl rfl (storing_eq
    (readPositiveI64_toString Normalize.defaultClockSkewMarginMs))).trans ?_
  refine (parseFrom_value rfl rfl (storing_eq
    (readPositiveI64_toString Normalize.defaultMaxLatencyMs))).trans ?_
  refine (parseFrom_value rfl rfl
    (storing_eq (readPositiveI64_toString _))).trans ?_
  refine (parseFrom_value rfl rfl
    (storing_eq (readPositive_toString _ (le_refl _)))).trans ?_
  refine (parseFrom_flag rfl rfl).trans ?_
  refine (parseFrom_value rfl rfl (storing_eq
    (readPositiveI64_toString
      Normalize.defaultLivePriorityLagThresholdMs))).trans ?_
  refine (parseFrom_value rfl rfl rfl).trans ?_
  refine (parseFrom_value rfl rfl rfl).trans ?_
  refine (parseFrom_value rfl rfl
    (storing_eq (readPositiveI64_toString ⟨45, by decide⟩))).trans ?_
  refine (parseFrom_value rfl rfl
    (storing_eq (readPositiveI64_toString ⟨240, by decide⟩))).trans ?_
  refine (parseFrom_flag rfl rfl).trans ?_
  refine (parseFrom_optionText rfl rfl).trans ?_
  refine congrArg (Normalize.grammar.parseFrom rest) ?_
  dsimp only [normalizeChild, Normalize.ParsedArgs.withDefaults]
  cases args.awsProfile <;> rfl

/-- A normalize child accepts its words if the range has both ends or none. -/
private theorem parseArgs_child
    {rest : List String}
    {child : Normalize.ParsedArgs}
    (accepted : validateCompletedArgs args.bootstrapArgs = .ok ())
    (reads :
      Normalize.grammar.parseFrom rest (normalizeChild args) =
        .ok (some child))
    (sameL0 : child.l0S3Bucket = args.l0S3Bucket)
    (sameL1 : child.l1S3Bucket = args.l1S3Bucket)
    (scanned : child.scanMarginMs.1 ≤ child.watermarkDelayMs.1)
    (range : child.inputStartMs.isSome = child.inputEndMs.isSome)
    (audit :
      child.auditL1IndexStartMs.isSome = child.auditL1IndexEndMs.isSome) :
    Normalize.parseArgs (normalizeArgs args ++ rest) = .ok (some child) := by
  obtain ⟨l0Real, l1Real⟩ := realBuckets_of_accepted accepted
  have passes : Normalize.validateParsedArgs child.normalizeArgs = .ok () :=
    validateParsedArgs_child
      (by rw [Normalize.ParsedArgs.normalizeArgs, sameL0]; exact l0Real)
      (by rw [Normalize.ParsedArgs.normalizeArgs, sameL1]; exact l1Real)
      scanned range audit
  rw [Normalize.parseArgs,
    parse_eq ((parseFrom_normalizeArgs args rest).trans reads), passes]
  rfl

/--
However the supervisor was started, each of its normalize children reads the
words that it gets to the record that the bootstrap gives to such a child.
-/
theorem normalize_children_read
    {environment : Environment}
    {words : List String}
    (accepted : parseArgs environment words = .ok (some args))
    (chunk : BootstrapChunk)
    (startFits : i64Min ≤ chunk.startMs ∧ chunk.startMs ≤ i64Max)
    (endFits : i64Min ≤ chunk.endMs ∧ chunk.endMs ≤ i64Max) :
    (Normalize.parseArgs (normalizeArgs args) =
        .ok (some (normalizeChild args)) ∧
      (normalizeChild args).normalizeArgs =
        Supervisor.normalizeArgs args.bootstrapArgs.toSupervisorArgs) ∧
    (Normalize.parseArgs (livePriorityNormalizeArgs args) =
        .ok (some (livePriorityChild args)) ∧
      (livePriorityChild args).normalizeArgs =
        Supervisor.livePriorityNormalizeArgs
          args.bootstrapArgs.toSupervisorArgs) ∧
    Normalize.parseArgs (normalizeBackfillArgs args chunk) =
        .ok (some (normalizeBackfillChild args chunk)) ∧
      (normalizeBackfillChild args chunk).normalizeArgs =
        Supervisor.normalizeBackfillArgs args.bootstrapArgs.toSupervisorArgs
          chunk := by
  have checked := (parseArgs_accepted accepted).1
  have scanned :
      Normalize.defaultScanMarginMs.1 ≤
        Normalize.defaultWatermarkDelayMs.1 := by decide
  refine ⟨⟨?_, rfl⟩, ⟨?_, rfl⟩, ?_, rfl⟩
  · rw [← List.append_nil (normalizeArgs args)]
    exact parseArgs_child checked rfl rfl rfl scanned rfl rfl
  · refine parseArgs_child checked ?_ rfl rfl scanned rfl rfl
    refine (parseFrom_flag rfl rfl).trans ?_
    refine (parseFrom_value rfl rfl
      (storing_eq (readPositive_toString oneWindow (le_refl _)))).trans ?_
    rfl
  · refine parseArgs_child checked ?_ rfl rfl scanned rfl rfl
    refine (parseFrom_value rfl rfl
      (storing_eq (readI64_toString startFits))).trans ?_
    refine (parseFrom_value rfl rfl
      (storing_eq (readI64_toString endFits))).trans ?_
    rfl

/-- The words of a subchunk of the first day are read. -/
theorem normalize_children_read_first_day :
    Normalize.parseArgs
        (normalizeBackfillArgs bucketArgs ⟨0, 900000⟩) =
      .ok (some (normalizeBackfillChild bucketArgs ⟨0, 900000⟩)) :=
  (normalize_children_read parseArgs_buckets ⟨0, 900000⟩ (by decide)
    (by decide)).2.2.1

end Normalize

end MarketIngest.Supervisor.WorkerArgs
