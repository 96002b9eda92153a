import MarketIngest.ArgumentValues
import MarketIngest.BootstrapTiling

namespace MarketIngest.Supervisor

open CommandLine (Action Environment Grammar PositiveU16 PositiveU64 envBool
  envString readPositive readPositiveI64 storing storingText u16Max u64Max)
open Normalize (PositiveI64)

/-!
# The command line of the supervisor

The supervisor reads its words from left to right over defaults, some of which
come from the environment.  Names of venues and symbols are lists in texts.  The
check at the end also chooses the first venue as the one that is reported.
-/

/-- All arguments of the supervisor. -/
structure ParsedArgs where
  configDir : String
  l0S3Bucket : String
  l1S3Bucket : String
  awsProfile : Option String
  awsRegion : String
  l0SpoolRoot : String
  l1SpoolRoot : String
  catchupTmpRoot : String
  realtimeBin : String
  backfillBin : String
  normalizeBin : String
  realtimeVenue : String
  realtimeVenues : List String
  expectSymbolCount : CommandLine.PositiveUsize
  realtimeDurationSeconds : PositiveU64
  logIntervalSeconds : PositiveU64
  l0FlushRecords : CommandLine.PositiveUsize
  l0ShardCount : PositiveU16
  bootstrapEnabled : Bool
  bootstrapLookbackDays : PositiveI64
  bootstrapChunkHours : PositiveI64
  bootstrapIntervalSecs : PositiveU64
  bootstrapSymbols : Option (List String)
  normalizeScheduleIntervalMs : PositiveI64
  l0RunKeyOverlapMs : PositiveI64
  normalizeMaxWindowsPerTick : CommandLine.PositiveUsize
  l0S3RetentionDays : PositiveI64
  l1S3RetentionDays : PositiveI64
  s3RetentionCheckIntervalSecs : PositiveU64
  s3RetentionMaxDeletesPerRun : CommandLine.PositiveUsize
  restartDelaySecs : PositiveU64
  liveNatsUrl : Option String
  liveNatsStream : String
  liveNatsSubjectPrefix : String
  liveNatsRequired : Bool

namespace ParsedArgs

/-- The defaults, of which four come from the environment. -/
def withDefaults (environment : Environment) : ParsedArgs where
  configDir := "/opt/nangman-crypto/strategies/crypto/rust-engine/config"
  l0S3Bucket := ""
  l1S3Bucket := ""
  awsProfile := none
  awsRegion := "ap-northeast-2"
  l0SpoolRoot := "/opt/nangman-crypto/data/spool/market-ingest/l0"
  l1SpoolRoot := "/opt/nangman-crypto/data/spool/market-ingest/l1"
  catchupTmpRoot :=
    "/opt/nangman-crypto/data/spool/market-normalize/catchup"
  realtimeBin := "/usr/local/bin/market-ingest-app"
  backfillBin := "/usr/local/bin/market-backfill"
  normalizeBin := "/usr/local/bin/market-normalize"
  realtimeVenue := "binance"
  realtimeVenues := ["binance"]
  expectSymbolCount := ⟨50, CommandLine.fifty_fits⟩
  realtimeDurationSeconds := ⟨31536000, by decide⟩
  logIntervalSeconds := ⟨30, by decide⟩
  l0FlushRecords := ⟨1000, CommandLine.thousand_fits⟩
  l0ShardCount := ⟨1, CommandLine.oneShard_fits⟩
  bootstrapEnabled := true
  bootstrapLookbackDays := ⟨210, CommandLine.lookbackDays_fit⟩
  bootstrapChunkHours := ⟨24, CommandLine.hoursOfDay_fit⟩
  bootstrapIntervalSecs := ⟨60, by decide⟩
  bootstrapSymbols := none
  normalizeScheduleIntervalMs := ⟨900000, CommandLine.quarterHour_fits⟩
  l0RunKeyOverlapMs := ⟨360000, CommandLine.sixMinutes_fit⟩
  normalizeMaxWindowsPerTick := ⟨192, CommandLine.twoDaysOfWindows_fit⟩
  l0S3RetentionDays := ⟨45, CommandLine.l0RetentionDays_fit⟩
  l1S3RetentionDays := ⟨240, CommandLine.l1RetentionDays_fit⟩
  s3RetentionCheckIntervalSecs := ⟨21600, CommandLine.sixHours_fit⟩
  s3RetentionMaxDeletesPerRun := ⟨1000, CommandLine.thousand_fits⟩
  restartDelaySecs := ⟨15, CommandLine.fifteen_fits⟩
  liveNatsUrl := envString environment "MARKET_LIVE_NATS_URL"
  liveNatsStream :=
    (envString environment "MARKET_LIVE_NATS_STREAM").getD "MARKET_LIVE"
  liveNatsSubjectPrefix :=
    (envString environment "MARKET_LIVE_NATS_SUBJECT_PREFIX").getD
      "market_live_tick.created"
  liveNatsRequired := envBool environment "MARKET_LIVE_NATS_REQUIRED"

/-- The arguments that the bootstrap uses and that are checked together. -/
def bootstrapArgs (parsed : ParsedArgs) : BootstrapArgs where
  l0S3Bucket := parsed.l0S3Bucket
  l1S3Bucket := parsed.l1S3Bucket
  expectSymbolCount :=
    ⟨parsed.expectSymbolCount.1, parsed.expectSymbolCount.2.1⟩
  l0SpoolRoot := parsed.l0SpoolRoot
  l0FlushRecords := ⟨parsed.l0FlushRecords.1, parsed.l0FlushRecords.2.1⟩
  l0ShardCount :=
    ⟨parsed.l0ShardCount.1, parsed.l0ShardCount.2.1,
      Nat.lt_succ_of_le parsed.l0ShardCount.2.2⟩
  bootstrapSymbols := parsed.bootstrapSymbols
  normalizeScheduleIntervalMs := parsed.normalizeScheduleIntervalMs
  l0RunKeyOverlapMs := parsed.l0RunKeyOverlapMs
  normalizeMaxWindowsPerTick :=
    ⟨parsed.normalizeMaxWindowsPerTick.1,
      parsed.normalizeMaxWindowsPerTick.2.1⟩
  realtimeVenues := parsed.realtimeVenues
  liveNatsUrl := parsed.liveNatsUrl
  liveNatsStream := parsed.liveNatsStream
  liveNatsSubjectPrefix := parsed.liveNatsSubjectPrefix
  bootstrapLookbackDays := parsed.bootstrapLookbackDays
  bootstrapChunkHours := parsed.bootstrapChunkHours

end ParsedArgs

section Values

def parsePositiveI64 : String → Except String PositiveI64 :=
  readPositiveI64 MarketData.IntErrorKind.display "value must be positive"

def parsePositiveU64 : String → Except String PositiveU64 :=
  readPositive u64Max u64Max MarketData.IntErrorKind.display
    "value must be positive"

def parsePositiveUsize : String → Except String CommandLine.PositiveUsize :=
  parsePositiveU64

def parsePositiveU16 : String → Except String PositiveU16 :=
  readPositive u16Max u16Max MarketData.IntErrorKind.display
    "value must be positive"

/-- Read a list of symbols. -/
def parseSymbols (value name : String) : Except String (List String) :=
  let symbols := Text.commaSeparated Char.toUpper value
  if symbols.isEmpty then
    .error (name ++ " requires at least one symbol")
  else
    .ok symbols

/-- Read a list of venues. -/
def parseVenues (value : String) : Except String (List String) :=
  let venues := Text.commaSeparated Char.toLower value
  if venues.isEmpty then
    .error "--realtime-venues requires at least one venue"
  else
    (firstRefusal
      (venues.map fun venue => validateVenue venue "--realtime-venues")).map
        fun _ => venues

/-- The error of an option without its value. -/
def requiresValue (name : String) : String :=
  name ++ " requires a value"

variable (name : String)

/-- An option with a text. -/
def textOption
    (store : String → ParsedArgs → ParsedArgs) :
    String × Action ParsedArgs String :=
  (name, .value (requiresValue name) (storingText store))

/-- An option with a duration or a number of days. -/
def i64Option
    (store : PositiveI64 → ParsedArgs → ParsedArgs) :
    String × Action ParsedArgs String :=
  (name, .value (requiresValue name) (storing parsePositiveI64 store))

/-- An option with a number of seconds. -/
def u64Option
    (store : PositiveU64 → ParsedArgs → ParsedArgs) :
    String × Action ParsedArgs String :=
  (name, .value (requiresValue name) (storing parsePositiveU64 store))

/-- An option with a count. -/
def usizeOption
    (store : CommandLine.PositiveUsize → ParsedArgs → ParsedArgs) :
    String × Action ParsedArgs String :=
  (name, .value (requiresValue name) (storing parsePositiveUsize store))

end Values

/-- The options of the supervisor. -/
def grammar : Grammar ParsedArgs String where
  options :=
    [textOption "--config"
        (fun path parsed => { parsed with configDir := path }),
      textOption "--l0-s3-bucket"
        (fun bucket parsed => { parsed with l0S3Bucket := bucket }),
      textOption "--l1-s3-bucket"
        (fun bucket parsed => { parsed with l1S3Bucket := bucket }),
      textOption "--aws-profile"
        (fun profile parsed => { parsed with awsProfile := some profile }),
      textOption "--aws-region"
        (fun region parsed => { parsed with awsRegion := region }),
      textOption "--l0-spool-root"
        (fun path parsed => { parsed with l0SpoolRoot := path }),
      textOption "--l1-spool-root"
        (fun path parsed => { parsed with l1SpoolRoot := path }),
      textOption "--catchup-tmp-root"
        (fun path parsed => { parsed with catchupTmpRoot := path }),
      textOption "--realtime-bin"
        (fun path parsed => { parsed with realtimeBin := path }),
      textOption "--backfill-bin"
        (fun path parsed => { parsed with backfillBin := path }),
      textOption "--normalize-bin"
        (fun path parsed => { parsed with normalizeBin := path }),
      textOption "--realtime-venue"
        (fun venue parsed =>
          { parsed with realtimeVenue := venue, realtimeVenues := [venue] }),
      ("--realtime-venues",
        .value (requiresValue "--realtime-venues")
          (storing parseVenues
            fun venues parsed =>
              { parsed with
                realtimeVenues := venues
                realtimeVenue := venues.head?.getD "binance" })),
      usizeOption "--expect-symbol-count"
        (fun count parsed => { parsed with expectSymbolCount := count }),
      u64Option "--realtime-duration-seconds"
        (fun seconds parsed =>
          { parsed with realtimeDurationSeconds := seconds }),
      u64Option "--log-interval-seconds"
        (fun seconds parsed => { parsed with logIntervalSeconds := seconds }),
      usizeOption "--l0-flush-records"
        (fun count parsed => { parsed with l0FlushRecords := count }),
      ("--l0-shard-count",
        .value (requiresValue "--l0-shard-count")
          (storing parsePositiveU16
            fun count parsed => { parsed with l0ShardCount := count })),
      ("--disable-bootstrap",
        .flag fun parsed => { parsed with bootstrapEnabled := false }),
      i64Option "--bootstrap-lookback-days"
        (fun days parsed => { parsed with bootstrapLookbackDays := days }),
      i64Option "--bootstrap-chunk-hours"
        (fun hours parsed => { parsed with bootstrapChunkHours := hours }),
      u64Option "--bootstrap-interval-secs"
        (fun seconds parsed =>
          { parsed with bootstrapIntervalSecs := seconds }),
      ("--bootstrap-symbols",
        .value (requiresValue "--bootstrap-symbols")
          (storing (fun value => parseSymbols value "--bootstrap-symbols")
            fun symbols parsed =>
              { parsed with bootstrapSymbols := some symbols })),
      i64Option "--normalize-schedule-interval-ms"
        (fun value parsed =>
          { parsed with normalizeScheduleIntervalMs := value }),
      i64Option "--l0-run-key-overlap-ms"
        (fun value parsed => { parsed with l0RunKeyOverlapMs := value }),
      usizeOption "--normalize-max-windows-per-tick"
        (fun count parsed =>
          { parsed with normalizeMaxWindowsPerTick := count }),
      i64Option "--l0-s3-retention-days"
        (fun days parsed => { parsed with l0S3RetentionDays := days }),
      i64Option "--l1-s3-retention-days"
        (fun days parsed => { parsed with l1S3RetentionDays := days }),
      u64Option "--s3-retention-check-interval-secs"
        (fun seconds parsed =>
          { parsed with s3RetentionCheckIntervalSecs := seconds }),
      usizeOption "--s3-retention-max-deletes-per-run"
        (fun count parsed =>
          { parsed with s3RetentionMaxDeletesPerRun := count }),
      u64Option "--restart-delay-secs"
        (fun seconds parsed => { parsed with restartDelaySecs := seconds }),
      textOption "--live-nats-url"
        (fun url parsed => { parsed with liveNatsUrl := some url }),
      textOption "--live-nats-stream"
        (fun stream parsed => { parsed with liveNatsStream := stream }),
      textOption "--live-nats-subject-prefix"
        (fun subjects parsed =>
          { parsed with liveNatsSubjectPrefix := subjects }),
      ("--live-nats-required",
        .flag fun parsed => { parsed with liveNatsRequired := true })]
  unknown word := "unknown supervisor argument: " ++ word

/-- Check the arguments, and report the first venue. -/
def ParsedArgs.validateCompletedArgs
    (parsed : ParsedArgs) : Except String ParsedArgs :=
  (Supervisor.validateCompletedArgs parsed.bootstrapArgs).map fun _ =>
    { parsed with realtimeVenue := parsed.realtimeVenues.head?.getD "" }

/-- Read the command line of the supervisor. -/
def parseArgs
    (environment : Environment)
    (words : List String) : Except String (Option ParsedArgs) :=
  grammar.parse (.withDefaults environment)
    ParsedArgs.validateCompletedArgs words

section Accepted

variable
  {environment : Environment}
  {words : List String}

/-- What the options keep of the environment and of the lists in texts. -/
structure ParsedArgs.Inherits
    (environment : Environment)
    (parsed : ParsedArgs) : Prop where
  url :
    parsed.liveNatsUrl = none →
      envString environment "MARKET_LIVE_NATS_URL" = none
  required :
    parsed.liveNatsRequired = false →
      envBool environment "MARKET_LIVE_NATS_REQUIRED" = false
  symbols :
    ∀ symbols ∈ parsed.bootstrapSymbols,
      symbols ≠ [] ∧
        ∀ symbol ∈ symbols, Text.IsField Char.toUpper symbol

/-- The defaults have what the environment says. -/
private theorem inherits_withDefaults :
    (ParsedArgs.withDefaults environment).Inherits environment where
  url isNone := isNone
  required isFalse := isFalse
  symbols symbols member := by cases member

/-- A list of symbols that was read is written and read without change. -/
private theorem parseSymbols_isField
    {text name : String}
    {symbols : List String}
    (reads : parseSymbols text name = .ok symbols) :
    symbols ≠ [] ∧ ∀ symbol ∈ symbols, Text.IsField Char.toUpper symbol := by
  unfold parseSymbols at reads
  dsimp only at reads
  split at reads
  · cases reads
  · next nonempty =>
      cases reads
      exact ⟨by simpa using nonempty, fun symbol member =>
        Text.isField_of_mem_commaSeparated Text.isCase_toUpper member⟩

/-- No option undoes what the environment says. -/
private theorem grammar_keeps_inherits :
    grammar.Keeps (ParsedArgs.Inherits environment) := by
  unfold Grammar.Keeps grammar
  repeat' refine List.forall_mem_cons.mpr ⟨?_, ?_⟩
  -- An option that sets none of the three fields, and then the other three.
  all_goals first
    | exact Action.keeps_storingText fun _ _ holds =>
        ⟨holds.url, holds.required, holds.symbols⟩
    | exact Action.keeps_storing fun _ _ _ _ holds =>
        ⟨holds.url, holds.required, holds.symbols⟩
    | exact fun _ holds => ⟨holds.url, holds.required, holds.symbols⟩
    | exact Action.keeps_storingText fun _ _ holds =>
        ⟨fun isNone => absurd isNone (Option.some_ne_none _),
          holds.required, holds.symbols⟩
    | exact fun _ holds =>
        ⟨holds.url, fun isFalse => absurd isFalse (by simp), holds.symbols⟩
    | exact Action.keeps_storing fun _ _ reads _ holds =>
        ⟨holds.url, holds.required, fun _ member => by
          cases member
          exact parseSymbols_isField reads⟩
    | exact fun _ member => by cases member

/-- Accepted arguments passed the checks and have what was inherited. -/
theorem parseArgs_accepted
    {args : ParsedArgs}
    (accepted : parseArgs environment words = .ok (some args)) :
    Supervisor.validateCompletedArgs args.bootstrapArgs = .ok () ∧
      args.Inherits environment ∧
      some args.realtimeVenue = args.realtimeVenues.head? := by
  obtain ⟨record, reads, completes⟩ := Grammar.of_parse accepted
  have inherits :=
    grammar_keeps_inherits.of_parseFrom inherits_withDefaults reads
  unfold ParsedArgs.validateCompletedArgs at completes
  cases checked : Supervisor.validateCompletedArgs record.bootstrapArgs with
  | error failure =>
      rw [checked] at completes
      cases completes
  | ok passed =>
      rw [checked] at completes
      cases completes
      refine ⟨checked, ⟨inherits.url, inherits.required, inherits.symbols⟩, ?_⟩
      have some' :=
        firstRefusal_eq_ok_iff.mp checked
          (record.realtimeVenues.isEmpty,
            "--realtime-venues requires at least one venue")
          (by simp [ParsedArgs.bootstrapArgs])
      cases venues : record.realtimeVenues with
      | nil =>
          rw [venues] at some'
          cases some'
      | cons venue rest =>
          rfl

/-- A command line is accepted if it is read to a record that passes the checks
and names the first venue. -/
theorem parseArgs_of_reads
    {args : ParsedArgs}
    (reads :
      grammar.parseFrom words (ParsedArgs.withDefaults environment) =
        .ok (some args))
    (passes :
      Supervisor.validateCompletedArgs args.bootstrapArgs = .ok ())
    (named : args.realtimeVenue = args.realtimeVenues.head?.getD "") :
    parseArgs environment words = .ok (some args) := by
  refine (Grammar.parse_eq reads).trans ?_
  rw [ParsedArgs.validateCompletedArgs, passes, ← named]
  rfl

/-- The arguments of a command line that only names the buckets. -/
def bucketArgs : ParsedArgs :=
  { ParsedArgs.withDefaults (fun _ => none) with
    l0S3Bucket := "market-l0"
    l1S3Bucket := "market-l1" }

/-- It is enough to name the buckets. -/
theorem parseArgs_buckets :
    parseArgs (fun _ => none)
        ["--l0-s3-bucket", "market-l0", "--l1-s3-bucket", "market-l1"] =
      .ok (some bucketArgs) :=
  parseArgs_of_reads rfl (by decide) rfl

end Accepted

end MarketIngest.Supervisor
