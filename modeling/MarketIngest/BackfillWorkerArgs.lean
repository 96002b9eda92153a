import MarketIngest.BackfillCommandLine
import MarketIngest.BootstrapScheduler
import MarketIngest.WorkerArgs

namespace MarketIngest.Supervisor.WorkerArgs

open CommandLine CommandLine.Grammar

/-!
# The backfill child of the supervisor

The supervisor does not ask for absolute paths or for a history after 1970, and
a backfill does.  A backfill child reads its words to the record that the
supervisor meant exactly if they meet that, and refuses them otherwise.
-/

/-- Words of the child that backfills a chunk. -/
def backfillArgs
    (args : ParsedArgs)
    (chunk : BootstrapChunk) : List String :=
  ["--venue", "binance",
    "--config", args.configDir,
    "--input-start-ms", toString chunk.startMs,
    "--input-end-ms", toString chunk.endMs,
    "--expect-symbol-count", toString args.expectSymbolCount.1,
    "--l0-s3-bucket", args.l0S3Bucket,
    "--aws-region", args.awsRegion,
    "--l0-spool-root", args.l0SpoolRoot,
    "--l0-flush-records", toString args.l0FlushRecords.1,
    "--l0-shard-count", toString args.l0ShardCount.1,
    "--s3-retention-days", "45",
    "--disable-s3-retention"] ++
    (optionWords "--symbols" (args.bootstrapSymbols.map (Text.join ',')) ++
      optionWords "--aws-profile" args.awsProfile)

/-- The record that the child of a chunk is meant to have. -/
def backfillChild
    (args : ParsedArgs)
    (chunk : BootstrapChunk) : Backfill.ParsedArgs :=
  { Backfill.ParsedArgs.withDefaults with
    configDir := args.configDir
    inputStartMs := chunk.startMs
    inputEndMs := chunk.endMs
    expectSymbolCount := args.expectSymbolCount
    symbols := args.bootstrapSymbols
    l0S3Bucket := args.l0S3Bucket
    awsProfile := args.awsProfile
    awsRegion := args.awsRegion
    l0SpoolRoot := args.l0SpoolRoot
    l0FlushRecords := args.l0FlushRecords
    l0ShardCount := args.l0ShardCount
    s3RetentionEnabled := false }

/-- What a backfill asks of its words that the supervisor does not. -/
structure BackfillAccepts
    (args : ParsedArgs)
    (chunk : BootstrapChunk) : Prop where
  configDir : Backfill.isAbsolute args.configDir = true
  l0SpoolRoot : Backfill.isAbsolute args.l0SpoolRoot = true
  started : 0 < chunk.startMs
  forward : chunk.startMs < chunk.endMs

section Reading

variable
  {environment : Environment}
  {args : ParsedArgs}
  {chunk : BootstrapChunk}

/-- The symbols that the supervisor passes on are read as they are. -/
private theorem parseSymbols_join
    (inherits : args.Inherits environment) :
    ∀ symbols ∈ args.bootstrapSymbols,
      Backfill.parseSymbols (Text.join ',' symbols) = .ok symbols := by
  intro symbols member
  obtain ⟨nonempty, areFields⟩ := inherits.symbols symbols member
  rw [Backfill.parseSymbols, Text.commaSeparated_join nonempty areFields]
  simp [nonempty]

/-- The words after the path of the spool are always read. -/
private theorem parseFrom_afterPaths
    (inherits : args.Inherits environment)
    (parsed : Backfill.ParsedArgs) :
    Backfill.grammar.parseFrom
        ("--l0-flush-records" :: toString args.l0FlushRecords.1 ::
          "--l0-shard-count" :: toString args.l0ShardCount.1 ::
          "--s3-retention-days" :: "45" ::
          "--disable-s3-retention" ::
          (optionWords "--symbols"
              (args.bootstrapSymbols.map (Text.join ',')) ++
            optionWords "--aws-profile" args.awsProfile))
        parsed =
      .ok (some
        { parsed with
          l0FlushRecords := args.l0FlushRecords
          l0ShardCount := args.l0ShardCount
          s3RetentionDays := ⟨45, by decide⟩
          s3RetentionEnabled := false
          symbols := args.bootstrapSymbols.orElse fun _ => parsed.symbols
          awsProfile := args.awsProfile.orElse fun _ => parsed.awsProfile }) := by
  refine (parseFrom_value rfl rfl
    (storing_eq (readPositive_toString _ (le_refl _)))).trans ?_
  refine (parseFrom_value rfl rfl
    (storing_eq (readPositive_toString _ (le_refl _)))).trans ?_
  refine (parseFrom_value rfl rfl
    (storing_eq (readPositiveI64_toString ⟨45, by decide⟩))).trans ?_
  refine (parseFrom_flag rfl rfl).trans ?_
  refine (parseFrom_optionWords rfl rfl fun symbols member =>
    storing_eq (parseSymbols_join inherits symbols member)).trans ?_
  rw [← List.append_nil (optionWords "--aws-profile" args.awsProfile)]
  refine (parseFrom_optionText rfl rfl).trans ?_
  rw [parseFrom]
  dsimp only
  cases args.bootstrapSymbols <;> cases args.awsProfile <;> rfl

/-- All words are read if the paths are absolute and the ends positive. -/
private theorem parseFrom_backfillArgs
    (inherits : args.Inherits environment)
    (startFits : i64Min ≤ chunk.startMs ∧ chunk.startMs ≤ i64Max)
    (endFits : i64Min ≤ chunk.endMs ∧ chunk.endMs ≤ i64Max) :
    (Backfill.isAbsolute args.configDir = true →
      Backfill.isAbsolute args.l0SpoolRoot = true →
      0 < chunk.startMs → 0 < chunk.endMs →
      Backfill.grammar.parseFrom (backfillArgs args chunk) .withDefaults =
        .ok (some (backfillChild args chunk))) ∧
    (¬ (Backfill.isAbsolute args.configDir = true ∧
        Backfill.isAbsolute args.l0SpoolRoot = true ∧
        0 < chunk.startMs ∧ 0 < chunk.endMs) →
      ∃ message,
        Backfill.grammar.parseFrom (backfillArgs args chunk) .withDefaults =
          .error (.invalidArgs message)) := by
  have venue : Backfill.parseVenue "binance" = .ok .binance := by decide
  unfold backfillArgs
  simp only [List.cons_append, List.nil_append]
  rw [parseFrom_value rfl rfl (storing_eq venue)]
  by_cases config : Backfill.isAbsolute args.configDir = true
  case neg =>
    exact ⟨fun isAbsolute => absurd isAbsolute config, fun _ => ⟨_,
      parseFrom_value_error rfl rfl (storing_error (if_neg config))⟩⟩
  rw [parseFrom_value rfl rfl (storing_eq (if_pos config))]
  by_cases started : 0 < chunk.startMs
  case neg =>
    exact ⟨fun _ _ isPositive => absurd isPositive started, fun _ => ⟨_,
      parseFrom_value_error rfl rfl (storing_error
        ((readPositiveI64_toString_eq startFits).trans (dif_neg started)))⟩⟩
  rw [parseFrom_value rfl rfl (storing_eq
    ((readPositiveI64_toString_eq startFits).trans (dif_pos started)))]
  by_cases ended : 0 < chunk.endMs
  case neg =>
    exact ⟨fun _ _ _ isPositive => absurd isPositive ended, fun _ => ⟨_,
      parseFrom_value_error rfl rfl (storing_error
        ((readPositiveI64_toString_eq endFits).trans (dif_neg ended)))⟩⟩
  rw [parseFrom_value rfl rfl (storing_eq
      ((readPositiveI64_toString_eq endFits).trans (dif_pos ended))),
    parseFrom_value rfl rfl
      (storing_eq (readPositive_toString _ (le_refl _))),
    parseFrom_value rfl rfl rfl, parseFrom_value rfl rfl rfl]
  by_cases spool : Backfill.isAbsolute args.l0SpoolRoot = true
  case neg =>
    exact ⟨fun _ isAbsolute => absurd isAbsolute spool, fun _ => ⟨_,
      parseFrom_value_error rfl rfl (storing_error (if_neg spool))⟩⟩
  rw [parseFrom_value rfl rfl (storing_eq (if_pos spool)),
    parseFrom_afterPaths inherits]
  refine ⟨fun _ _ _ _ => ?_, fun refused =>
    absurd ⟨config, spool, started, ended⟩ refused⟩
  dsimp only [backfillChild, Backfill.ParsedArgs.withDefaults]
  cases args.bootstrapSymbols <;> cases args.awsProfile <;> rfl

/-- The two programs agree on real bucket names. -/
private theorem validateRealBucket_ok
    (name : String)
    {value : String}
    (real : RealBucket value) :
    Backfill.validateRealBucket name value = .ok () := by
  have notBlank : Storage.isBlank value = false := real.1
  rw [Backfill.validateRealBucket, notBlank, real.2]
  rfl

/-- The checks at the end only refuse a range that does not go forward. -/
private theorem validateCompletedArgs_eq
    {parsed : Backfill.ParsedArgs}
    (parseUrl : String → Except String Backfill.Url)
    (real : RealBucket parsed.l0S3Bucket)
    (started : 0 < parsed.inputStartMs)
    (ended : 0 < parsed.inputEndMs)
    (noUrl : parsed.restBaseUrl = none) :
    parsed.validateCompletedArgs parseUrl =
      if parsed.inputStartMs < parsed.inputEndMs then
        .ok ()
      else
        .error (.invalidArgs
          "--input-end-ms must be greater than --input-start-ms") := by
  have notEmpty := real.not_isEmpty
  have bucket := validateRealBucket_ok "--l0-s3-bucket" real
  unfold Backfill.ParsedArgs.validateCompletedArgs
  rw [bucket, noUrl]
  simp only [firstRefusal, notEmpty, started.ne', ended.ne', decide_false,
    Bool.false_eq_true, if_false, decide_eq_true_eq]
  by_cases forward : parsed.inputStartMs < parsed.inputEndMs
  · rw [if_neg (by omega), if_pos forward]
  · rw [if_pos (by omega), if_neg forward]

/--
However the supervisor was started, the child that backfills a chunk reads its
words to the record that the bootstrap gives to it if the paths are absolute and
the chunk lies after 1970 and is not empty.  Otherwise it refuses them.
-/
theorem backfill_child_reads
    {words : List String}
    (parseUrl : String → Except String Backfill.Url)
    (accepted : parseArgs environment words = .ok (some args))
    (startFits : i64Min ≤ chunk.startMs ∧ chunk.startMs ≤ i64Max)
    (endFits : i64Min ≤ chunk.endMs ∧ chunk.endMs ≤ i64Max) :
    (BackfillAccepts args chunk →
      Backfill.parseArgs parseUrl (backfillArgs args chunk) =
        .ok (some (backfillChild args chunk))) ∧
    (¬ BackfillAccepts args chunk →
      ∃ message,
        Backfill.parseArgs parseUrl (backfillArgs args chunk) =
          .error (.invalidArgs message)) ∧
    (backfillChild args chunk).backfillArgs =
      Supervisor.backfillArgs args.bootstrapArgs.toSupervisorArgs chunk := by
  obtain ⟨checked, inherits, -⟩ := parseArgs_accepted accepted
  have real := (realBuckets_of_accepted checked).1
  obtain ⟨readsAll, refusesSome⟩ :=
    parseFrom_backfillArgs inherits startFits endFits
  refine ⟨fun accepts => ?_, fun refused => ?_, rfl⟩
  · have ended := accepts.started.trans accepts.forward
    rw [Backfill.parseArgs,
      parse_eq (readsAll accepts.configDir accepts.l0SpoolRoot
        accepts.started ended),
      validateCompletedArgs_eq parseUrl real accepts.started ended rfl]
    exact congrArg _ (congrArg _ (if_pos accepts.forward))
  · by_cases readable :
        Backfill.isAbsolute args.configDir = true ∧
          Backfill.isAbsolute args.l0SpoolRoot = true ∧
          0 < chunk.startMs ∧ 0 < chunk.endMs
    · obtain ⟨config, spool, started, ended⟩ := readable
      have notForward : ¬ chunk.startMs < chunk.endMs :=
        fun forward => refused ⟨config, spool, started, forward⟩
      refine ⟨"--input-end-ms must be greater than --input-start-ms", ?_⟩
      rw [Backfill.parseArgs, parse_eq (readsAll config spool started ended),
        validateCompletedArgs_eq parseUrl real started ended rfl]
      exact congrArg _ (congrArg _ (if_neg notForward))
    · obtain ⟨message, refuses⟩ := refusesSome readable
      exact ⟨message, parse_error refuses⟩

/-- The words of the second day are read, and those of the first refused. -/
theorem backfill_child_reads_second_day :
    Backfill.parseArgs (fun _ => .error "no URL")
        (backfillArgs bucketArgs ⟨86400000, 172800000⟩) =
      .ok (some (backfillChild bucketArgs ⟨86400000, 172800000⟩)) ∧
    ∃ message,
      Backfill.parseArgs (fun _ => .error "no URL")
          (backfillArgs bucketArgs ⟨0, 86400000⟩) =
        .error (.invalidArgs message) :=
  ⟨(backfill_child_reads (fun _ => .error "no URL") parseArgs_buckets
      (by decide) (by decide)).1
      ⟨by decide, by decide, by decide, by decide⟩,
    (backfill_child_reads (fun _ => .error "no URL") parseArgs_buckets
      (by decide) (by decide)).2.1
      fun accepts => absurd accepts.started (by decide)⟩

end Reading

end MarketIngest.Supervisor.WorkerArgs
