import MarketIngest.ArgumentValues

namespace MarketIngest.Normalize

open CommandLine (Action Environment Grammar PositiveU64 readI64
  readPositive readPositiveI64 storing storingText u64Max)

/-!
# The command line of the normalize worker

The worker reads its words from left to right over fixed defaults and checks the
arguments that depend on each other.  Two options have two names or two fields:
the number of ranges a tick may run, and the days of retention.
-/

/-- All arguments of one normalize process. -/
structure ParsedArgs where
  l0S3Bucket : String
  l0LocalRoot : String
  l1S3Bucket : String
  awsProfile : Option String
  awsRegion : String
  inputStartMs : Option Int
  inputEndMs : Option Int
  scheduleIntervalMs : PositiveI64
  windowMs : PositiveI64
  scanMarginMs : PositiveI64
  projectionLookbackMs : PositiveI64
  watermarkDelayMs : PositiveI64
  clockSkewMarginMs : PositiveI64
  maxLatencyMs : PositiveI64
  l0RunKeyOverlapMs : PositiveI64
  spoolRoot : String
  catchupTmpRoot : String
  preflight : Bool
  auditL1IndexStartMs : Option Int
  auditL1IndexEndMs : Option Int
  maxWindowsPerTick : CommandLine.PositiveUsize
  livePriority : Bool
  livePriorityOnly : Bool
  livePriorityLagThresholdMs : PositiveI64
  s3RetentionEnabled : Bool
  l0S3RetentionDays : PositiveI64
  l1S3RetentionDays : PositiveI64
  s3RetentionCheckIntervalSecs : PositiveU64
  s3RetentionMaxDeletesPerRun : CommandLine.PositiveUsize
  l1IndexUploadConcurrency : CommandLine.PositiveUsize

namespace ParsedArgs

/-- The defaults before any argument is read. -/
def withDefaults : ParsedArgs where
  l0S3Bucket := ""
  l0LocalRoot := "/opt/nangman-crypto/data/spool/market-ingest/l0"
  l1S3Bucket := ""
  awsProfile := none
  awsRegion := "ap-northeast-2"
  inputStartMs := none
  inputEndMs := none
  scheduleIntervalMs := defaultScheduleIntervalMs
  windowMs := defaultWindowMs
  scanMarginMs := defaultScanMarginMs
  projectionLookbackMs := defaultProjectionLookbackMs
  watermarkDelayMs := defaultWatermarkDelayMs
  clockSkewMarginMs := defaultClockSkewMarginMs
  maxLatencyMs := defaultMaxLatencyMs
  l0RunKeyOverlapMs := defaultL0RunKeyOverlapMs
  spoolRoot := "/opt/nangman-crypto/data/spool/market-ingest/l1"
  catchupTmpRoot :=
    "/opt/nangman-crypto/data/spool/market-normalize/catchup"
  preflight := false
  auditL1IndexStartMs := none
  auditL1IndexEndMs := none
  maxWindowsPerTick := ⟨192, CommandLine.twoDaysOfWindows_fit⟩
  livePriority := false
  livePriorityOnly := false
  livePriorityLagThresholdMs := defaultLivePriorityLagThresholdMs
  s3RetentionEnabled := true
  l0S3RetentionDays := ⟨45, CommandLine.l0RetentionDays_fit⟩
  l1S3RetentionDays := ⟨240, CommandLine.l1RetentionDays_fit⟩
  s3RetentionCheckIntervalSecs := ⟨21600, CommandLine.sixHours_fit⟩
  s3RetentionMaxDeletesPerRun := ⟨1000, CommandLine.thousand_fits⟩
  l1IndexUploadConcurrency := ⟨1, CommandLine.one_fits⟩

/-- The arguments that decide which ranges run and what they do. -/
def normalizeArgs (parsed : ParsedArgs) : NormalizeArgs where
  l0S3Bucket := parsed.l0S3Bucket
  l1S3Bucket := parsed.l1S3Bucket
  inputStartMs := parsed.inputStartMs
  inputEndMs := parsed.inputEndMs
  scheduleIntervalMs := parsed.scheduleIntervalMs
  windowMs := parsed.windowMs
  scanMarginMs := parsed.scanMarginMs
  projectionLookbackMs := parsed.projectionLookbackMs
  watermarkDelayMs := parsed.watermarkDelayMs
  clockSkewMarginMs := parsed.clockSkewMarginMs
  maxLatencyMs := parsed.maxLatencyMs
  l0RunKeyOverlapMs := parsed.l0RunKeyOverlapMs
  preflight := parsed.preflight
  auditL1IndexStartMs := parsed.auditL1IndexStartMs
  auditL1IndexEndMs := parsed.auditL1IndexEndMs
  maxWindowsPerTick :=
    ⟨parsed.maxWindowsPerTick.1, parsed.maxWindowsPerTick.2.1⟩
  livePriority := parsed.livePriority
  livePriorityOnly := parsed.livePriorityOnly
  livePriorityLagThresholdMs := parsed.livePriorityLagThresholdMs
  l1IndexUploadConcurrency :=
    ⟨parsed.l1IndexUploadConcurrency.1, parsed.l1IndexUploadConcurrency.2.1⟩

end ParsedArgs

section Values

variable (name : String)

def parseI64Arg : String → Except String Int :=
  readI64 fun _ => name ++ " must be an integer"

def parsePositiveI64 : String → Except String PositiveI64 :=
  readPositiveI64 (fun _ => name ++ " must be an integer")
    (name ++ " must be positive")

def parsePositiveU64 : String → Except String PositiveU64 :=
  readPositive u64Max u64Max (fun _ => name ++ " must be a positive integer")
    (name ++ " must be positive")

def parsePositiveUsize : String → Except String CommandLine.PositiveUsize :=
  parsePositiveU64 name

/-- An option with an integer. -/
def i64Option
    (store : Int → ParsedArgs → ParsedArgs) :
    String × Action ParsedArgs String :=
  (name, .value (name ++ " requires an integer")
    (storing (parseI64Arg name) store))

/-- An option with a positive integer. -/
def positiveI64Option
    (store : PositiveI64 → ParsedArgs → ParsedArgs) :
    String × Action ParsedArgs String :=
  (name, .value (name ++ " requires an integer")
    (storing (parsePositiveI64 name) store))

/-- An option with a count. -/
def positiveUsizeOption
    (store : CommandLine.PositiveUsize → ParsedArgs → ParsedArgs) :
    String × Action ParsedArgs String :=
  (name, .value (name ++ " requires a positive integer")
    (storing (parsePositiveUsize name) store))

end Values

/-- The options of the worker. -/
def grammar : Grammar ParsedArgs String where
  options :=
    [("--l0-s3-bucket",
        .value "--l0-s3-bucket requires a bucket"
          (storingText
            fun bucket parsed => { parsed with l0S3Bucket := bucket })),
      ("--l0-local-root",
        .value "--l0-local-root requires an absolute directory path"
          (storingText
            fun path parsed => { parsed with l0LocalRoot := path })),
      ("--l1-s3-bucket",
        .value "--l1-s3-bucket requires a bucket"
          (storingText
            fun bucket parsed => { parsed with l1S3Bucket := bucket })),
      ("--aws-profile",
        .value "--aws-profile requires a profile"
          (storingText
            fun profile parsed => { parsed with awsProfile := some profile })),
      ("--aws-region",
        .value "--aws-region requires a region"
          (storingText
            fun region parsed => { parsed with awsRegion := region })),
      i64Option "--input-start-ms"
        (fun value parsed => { parsed with inputStartMs := some value }),
      i64Option "--input-end-ms"
        (fun value parsed => { parsed with inputEndMs := some value }),
      positiveI64Option "--schedule-interval-ms"
        (fun value parsed => { parsed with scheduleIntervalMs := value }),
      positiveI64Option "--window-ms"
        (fun value parsed => { parsed with windowMs := value }),
      positiveI64Option "--scan-margin-ms"
        (fun value parsed => { parsed with scanMarginMs := value }),
      positiveI64Option "--projection-lookback-ms"
        (fun value parsed => { parsed with projectionLookbackMs := value }),
      positiveI64Option "--watermark-delay-ms"
        (fun value parsed => { parsed with watermarkDelayMs := value }),
      positiveI64Option "--clock-skew-margin-ms"
        (fun value parsed => { parsed with clockSkewMarginMs := value }),
      positiveI64Option "--max-latency-ms"
        (fun value parsed => { parsed with maxLatencyMs := value }),
      positiveI64Option "--l0-run-key-overlap-ms"
        (fun value parsed => { parsed with l0RunKeyOverlapMs := value }),
      ("--spool-root",
        .value "--spool-root requires an absolute directory path"
          (storingText fun path parsed => { parsed with spoolRoot := path })),
      ("--catchup-tmp-root",
        .value "--catchup-tmp-root requires an absolute directory path"
          (storingText
            fun path parsed => { parsed with catchupTmpRoot := path })),
      ("--preflight", .flag fun parsed => { parsed with preflight := true }),
      i64Option "--audit-l1-index-start-ms"
        (fun value parsed =>
          { parsed with auditL1IndexStartMs := some value }),
      i64Option "--audit-l1-index-end-ms"
        (fun value parsed => { parsed with auditL1IndexEndMs := some value }),
      positiveUsizeOption "--max-windows-per-tick"
        (fun value parsed => { parsed with maxWindowsPerTick := value }),
      positiveUsizeOption "--max-windows-per-invocation"
        (fun value parsed => { parsed with maxWindowsPerTick := value }),
      ("--live-priority",
        .flag fun parsed => { parsed with livePriority := true }),
      ("--live-priority-only",
        .flag fun parsed =>
          { parsed with livePriority := true, livePriorityOnly := true }),
      positiveI64Option "--live-priority-lag-threshold-ms"
        (fun value parsed =>
          { parsed with livePriorityLagThresholdMs := value }),
      ("--disable-s3-retention",
        .flag fun parsed => { parsed with s3RetentionEnabled := false }),
      positiveI64Option "--s3-retention-days"
        (fun value parsed =>
          { parsed with
            l0S3RetentionDays := value
            l1S3RetentionDays := value }),
      positiveI64Option "--l0-s3-retention-days"
        (fun value parsed => { parsed with l0S3RetentionDays := value }),
      positiveI64Option "--l1-s3-retention-days"
        (fun value parsed => { parsed with l1S3RetentionDays := value }),
      ("--s3-retention-check-interval-secs",
        .value
          "--s3-retention-check-interval-secs requires a positive integer"
          (storing (parsePositiveU64 "--s3-retention-check-interval-secs")
            fun value parsed =>
              { parsed with s3RetentionCheckIntervalSecs := value })),
      positiveUsizeOption "--s3-retention-max-deletes-per-run"
        (fun value parsed =>
          { parsed with s3RetentionMaxDeletesPerRun := value }),
      positiveUsizeOption "--l1-index-upload-concurrency"
        (fun value parsed =>
          { parsed with l1IndexUploadConcurrency := value })]
  unknown word := "unknown argument: " ++ word

/-- Read the command line of the normalize worker. -/
def parseArgs (words : List String) : Except String (Option ParsedArgs) :=
  grammar.parse .withDefaults
    (fun parsed =>
      (validateParsedArgs parsed.normalizeArgs).map fun _ => parsed)
    words

end MarketIngest.Normalize
