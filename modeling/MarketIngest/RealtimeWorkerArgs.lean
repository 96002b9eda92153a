import MarketIngest.RealtimeArgs
import MarketIngest.WorkerArgs

namespace MarketIngest.Supervisor.WorkerArgs

open CommandLine CommandLine.Grammar

/-!
# The realtime children of the supervisor

The supervisor passes its live options on if it has an address for them, and a
child inherits the environment that the defaults of both programs come from.  So
a child publishes live ticks exactly if the supervisor says so.
-/

/-- Words about the exchange that only one venue has. -/
def venueWords (venue : String) : List String :=
  if venue = "binance" then
    ["--depth-snapshot-limit", "100",
      "--binance-futures-rest-base-url", "https://fapi.binance.com"]
  else
    []

/-- Words about live ticks. -/
def liveWords (args : ParsedArgs) : List String :=
  match args.liveNatsUrl with
  | some url =>
      ["--live-nats-url", url,
        "--live-nats-stream", args.liveNatsStream,
        "--live-nats-subject-prefix", args.liveNatsSubjectPrefix] ++
        (if args.liveNatsRequired then ["--live-nats-required"] else [])
  | none => []

/-- Words of the child that watches a venue. -/
def realtimeArgs (args : ParsedArgs) (venue : String) : List String :=
  ["--venue", venue,
    "--config", args.configDir,
    "--duration-seconds", toString args.realtimeDurationSeconds.1,
    "--log-interval-seconds", toString args.logIntervalSeconds.1,
    "--expect-symbol-count", toString args.expectSymbolCount.1,
    "--allow-partial-symbol-coverage",
    "--l0-s3-bucket", args.l0S3Bucket,
    "--aws-region", args.awsRegion,
    "--l0-spool-root", args.l0SpoolRoot,
    "--l0-flush-records", toString args.l0FlushRecords.1,
    "--l0-shard-count", toString args.l0ShardCount.1,
    "--s3-retention-days", "45",
    "--disable-s3-retention"] ++
    (venueWords venue ++
      (liveWords args ++ optionWords "--aws-profile" args.awsProfile))

/-- The venue of a name. -/
def venueOf (venue : String) : Realtime.Venue :=
  if venue = "binance" then .binance else .upbit

/-- What a child has from its words, before it shortens its log interval. -/
def realtimeRecord
    (environment : Environment)
    (args : ParsedArgs)
    (venue : String) : Realtime.Args :=
  { Realtime.defaultArgs environment with
    venue := venueOf venue
    configDir := args.configDir
    durationSeconds := args.realtimeDurationSeconds
    logIntervalSeconds := args.logIntervalSeconds
    expectSymbolCount := args.expectSymbolCount
    allowPartialSymbolCoverage := true
    l0S3Bucket := some args.l0S3Bucket
    awsProfile := args.awsProfile
    awsRegion := args.awsRegion
    l0SpoolRoot := args.l0SpoolRoot
    l0FlushRecords := args.l0FlushRecords
    l0ShardCount := args.l0ShardCount
    s3RetentionEnabled := false
    liveNatsUrl := args.liveNatsUrl
    liveNatsStream :=
      if args.liveNatsUrl.isSome then
        args.liveNatsStream
      else
        (Realtime.defaultArgs environment).liveNatsStream
    liveNatsSubjectPrefix :=
      if args.liveNatsUrl.isSome then
        args.liveNatsSubjectPrefix
      else
        (Realtime.defaultArgs environment).liveNatsSubjectPrefix
    liveNatsRequired :=
      if args.liveNatsUrl.isSome then
        args.liveNatsRequired
      else
        (Realtime.defaultArgs environment).liveNatsRequired }

section Reading

variable
  {environment : Environment}
  {args : ParsedArgs}
  {venue : String}

/-- The words about the exchange repeat the defaults. -/
private theorem parseFrom_venueWords
    (rest : List String)
    {parsed : Realtime.Args}
    (limit : parsed.depthSnapshotLimit = ⟨100, by decide⟩)
    (url : parsed.binanceFuturesRestBaseUrl = "https://fapi.binance.com") :
    Realtime.grammar.parseFrom (venueWords venue ++ rest) parsed =
      Realtime.grammar.parseFrom rest parsed := by
  unfold venueWords
  split
  · have reads :
        Realtime.parseDepthSnapshotLimit "100" =
          .ok ⟨100, by decide⟩ := by decide
    refine (parseFrom_value rfl rfl (storing_eq reads)).trans ?_
    refine (parseFrom_value rfl rfl rfl).trans ?_
    rw [← limit, ← url]
    rfl
  · rfl

/-- The live options of the supervisor replace those of the environment. -/
private theorem parseFrom_liveWords
    (inherits : args.Inherits environment)
    (rest : List String)
    {parsed : Realtime.Args}
    (url :
      parsed.liveNatsUrl = (Realtime.defaultArgs environment).liveNatsUrl)
    (required :
      parsed.liveNatsRequired =
        (Realtime.defaultArgs environment).liveNatsRequired) :
    Realtime.grammar.parseFrom (liveWords args ++ rest) parsed =
      Realtime.grammar.parseFrom rest
        { parsed with
          liveNatsUrl := args.liveNatsUrl
          liveNatsStream :=
            if args.liveNatsUrl.isSome then args.liveNatsStream
            else parsed.liveNatsStream
          liveNatsSubjectPrefix :=
            if args.liveNatsUrl.isSome then args.liveNatsSubjectPrefix
            else parsed.liveNatsSubjectPrefix
          liveNatsRequired :=
            if args.liveNatsUrl.isSome then args.liveNatsRequired
            else parsed.liveNatsRequired } := by
  unfold liveWords
  cases address : args.liveNatsUrl with
  | none =>
      have noUrl : parsed.liveNatsUrl = none :=
        url.trans (inherits.url address)
      simp only [Option.isSome_none, Bool.false_eq_true, if_false]
      rw [← noUrl]
      rfl
  | some text =>
      refine (parseFrom_value rfl rfl rfl).trans ?_
      refine (parseFrom_value rfl rfl rfl).trans ?_
      refine (parseFrom_value rfl rfl rfl).trans ?_
      cases isRequired : args.liveNatsRequired with
      | true =>
          refine (parseFrom_flag rfl rfl).trans ?_
          rfl
      | false =>
          have notRequired : parsed.liveNatsRequired = false :=
            required.trans (inherits.required isRequired)
          refine congrArg (Realtime.grammar.parseFrom rest) ?_
          rw [← notRequired]
          rfl

/-- All words are read. -/
private theorem parseFrom_realtimeArgs
    (inherits : args.Inherits environment)
    (known : venue = "binance" ∨ venue = "upbit") :
    Realtime.grammar.parseFrom (realtimeArgs args venue)
        (Realtime.defaultArgs environment) =
      .ok (some (realtimeRecord environment args venue)) := by
  have readsVenue : Realtime.parseVenue venue = .ok (venueOf venue) := by
    rcases known with rfl | rfl <;> decide
  unfold realtimeArgs
  refine (parseFrom_value rfl rfl (storing_eq readsVenue)).trans ?_
  refine (parseFrom_value rfl rfl rfl).trans ?_
  refine (parseFrom_value rfl rfl
    (storing_eq (readPositive_toString _ (le_refl _)))).trans ?_
  refine (parseFrom_value rfl rfl
    (storing_eq (readPositive_toString _ (le_refl _)))).trans ?_
  refine (parseFrom_value rfl rfl
    (storing_eq (readPositive_toString _ (le_refl _)))).trans ?_
  refine (parseFrom_flag rfl rfl).trans ?_
  refine (parseFrom_value rfl rfl rfl).trans ?_
  refine (parseFrom_value rfl rfl rfl).trans ?_
  refine (parseFrom_value rfl rfl rfl).trans ?_
  refine (parseFrom_value rfl rfl
    (storing_eq (readPositive_toString _ (le_refl _)))).trans ?_
  refine (parseFrom_value rfl rfl
    (storing_eq (readPositive_toString _ (le_refl _)))).trans ?_
  refine (parseFrom_value rfl rfl
    (storing_eq (readPositiveI64_toString ⟨45, by decide⟩))).trans ?_
  refine (parseFrom_flag rfl rfl).trans ?_
  dsimp only
  refine (parseFrom_venueWords _ rfl rfl).trans ?_
  refine Eq.trans (parseFrom_liveWords inherits _ ?_ ?_) ?_
  · rfl
  · rfl
  rw [← List.append_nil (optionWords "--aws-profile" args.awsProfile)]
  refine (parseFrom_optionText rfl rfl).trans ?_
  rw [parseFrom]
  dsimp only [realtimeRecord, Realtime.defaultArgs]
  cases args.awsProfile <;> rfl

/-- The supervisor watches known venues only. -/
private theorem venue_known
    (accepted : validateCompletedArgs args.bootstrapArgs = .ok ())
    (watches : venue ∈ args.realtimeVenues) :
    venue = "binance" ∨ venue = "upbit" := by
  have passed :=
    firstRefusal_eq_ok_iff.mp accepted
      (validateVenue venue "--realtime-venues")
      (by
        simp only [List.mem_append, List.mem_map]
        exact .inl (.inl (.inl (.inl (.inr ⟨venue, watches, rfl⟩)))))
  by_contra unknown
  rw [not_or] at unknown
  simp [validateVenue, unknown.1, unknown.2] at passed

/-- What the supervisor accepts passes the checks of the child. -/
private theorem checks_child
    (accepted : validateCompletedArgs args.bootstrapArgs = .ok ()) :
    firstRefusal (Realtime.checks (realtimeRecord environment args venue)) =
      .ok () := by
  have real := (realBuckets_of_accepted accepted).1
  apply firstRefusal_eq_ok_iff.mpr
  unfold Realtime.checks realtimeRecord
  dsimp only [Realtime.defaultArgs]
  refine List.forall_mem_append.mpr ⟨List.forall_mem_append.mpr ⟨?_, ?_⟩, ?_⟩
  · simp
  · simp only [Normalize.validateRealBucket, List.forall_mem_cons]
    exact ⟨real.1, real.2, fun _ member => by cases member⟩
  · have passed := firstRefusal_eq_ok_iff.mp accepted
    simp only [List.forall_mem_append] at passed
    have live := passed.1.2
    cases address : args.liveNatsUrl with
    | none =>
        exact fun _ member => by cases member
    | some url =>
        rw [ParsedArgs.bootstrapArgs, address] at live
        simpa only [List.forall_mem_append, Option.isSome_some, if_true]
          using live

/--
However the supervisor was started, the child that watches a venue reads its
words, in the environment of the supervisor, to the record with the arguments
and the live options of the supervisor and with a log interval that is not
longer than the watch.
-/
theorem realtime_children_read
    {words : List String}
    (accepted : parseArgs environment words = .ok (some args))
    (watches : venue ∈ args.realtimeVenues) :
    Realtime.parseArgs environment (realtimeArgs args venue) =
      .ok (some (realtimeRecord environment args venue).normalized) := by
  obtain ⟨checked, inherits, -⟩ := parseArgs_accepted accepted
  have known := venue_known checked watches
  rw [Realtime.parseArgs, parse_eq (parseFrom_realtimeArgs inherits known),
    Realtime.validateAndNormalize, checks_child checked]
  rfl

/-- A command line that also asks for live ticks. -/
def liveCommandLine : List String :=
  ["--l0-s3-bucket", "market-l0", "--l1-s3-bucket", "market-l1",
    "--realtime-venues", "binance,upbit",
    "--live-nats-url", "nats://live:4222", "--live-nats-required"]

/-- The arguments of that command line. -/
def liveBucketArgs : ParsedArgs :=
  { bucketArgs with
    realtimeVenues := ["binance", "upbit"]
    liveNatsUrl := some "nats://live:4222"
    liveNatsRequired := true }

/-- That command line is accepted. -/
theorem parseArgs_live :
    parseArgs (fun _ => none) liveCommandLine = .ok (some liveBucketArgs) := by
  have venues :
      parseVenues "binance,upbit" = .ok ["binance", "upbit"] := by
    decide +kernel
  have reads :
      grammar.parseFrom liveCommandLine
          (ParsedArgs.withDefaults fun _ => none) =
        .ok (some liveBucketArgs) := by
    refine (parseFrom_value rfl rfl rfl).trans ?_
    refine (parseFrom_value rfl rfl rfl).trans ?_
    refine (parseFrom_value rfl rfl (storing_eq venues)).trans ?_
    rfl
  exact parseArgs_of_reads reads (by decide) rfl

/-- The record of the child that watches a venue with live ticks. -/
def liveRecord (venue : String) : Realtime.Args :=
  (realtimeRecord (fun _ => none) liveBucketArgs venue).normalized

/-- The words of both children are read, and both must publish live ticks. -/
theorem realtime_children_read_live :
    (Realtime.parseArgs (fun _ => none)
          (realtimeArgs liveBucketArgs "binance") =
        .ok (some (liveRecord "binance")) ∧
      Realtime.parseArgs (fun _ => none)
          (realtimeArgs liveBucketArgs "upbit") =
        .ok (some (liveRecord "upbit"))) ∧
      ["binance", "upbit"].map
          (fun venue =>
            ((liveRecord venue).liveNatsUrl,
              (liveRecord venue).liveNatsRequired)) =
        [(some "nats://live:4222", true), (some "nats://live:4222", true)] :=
  ⟨⟨realtime_children_read parseArgs_live (by decide),
      realtime_children_read parseArgs_live (by decide)⟩, rfl⟩

end Reading

end MarketIngest.Supervisor.WorkerArgs
