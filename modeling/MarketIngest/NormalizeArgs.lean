import MarketIngest.Checks
import MarketIngest.Saturating
import MarketIngest.Text

namespace MarketIngest.Normalize

/-!
# Arguments of the normalize worker

The command line is the only producer of worker arguments, and it accepts only
positive durations and counts.  The argument record carries that fact in the
types of its fields.
-/

/-- A positive signed 64-bit duration or count, as the command line accepts it. -/
abbrev PositiveI64 :=
  { value : Int // 0 < value ∧ value ≤ i64Max }

/-- A positive machine-sized count, as the command line accepts it. -/
abbrev PositiveUsize :=
  { value : Nat // 0 < value }

/-- A half-open range of exchange time in milliseconds. -/
@[ext] structure InputRange where
  startMs : Int
  endMs : Int
  deriving Repr, DecidableEq

/-- Parsed arguments of one normalize process. -/
structure NormalizeArgs where
  l0S3Bucket : String
  l1S3Bucket : String
  inputStartMs : Option Int
  inputEndMs : Option Int
  scheduleIntervalMs : PositiveI64
  windowMs : PositiveI64
  scanMarginMs : PositiveI64
  projectionLookbackMs : PositiveI64
  watermarkDelayMs : PositiveI64
  clockSkewMarginMs : PositiveI64
  maxLatencyMs : PositiveI64
  l0RunKeyOverlapMs : PositiveI64
  preflight : Bool
  auditL1IndexStartMs : Option Int
  auditL1IndexEndMs : Option Int
  maxWindowsPerTick : PositiveUsize
  livePriority : Bool
  livePriorityOnly : Bool
  livePriorityLagThresholdMs : PositiveI64
  l1IndexUploadConcurrency : PositiveUsize
  deriving DecidableEq

/-- Default length of a slice window. -/
def defaultWindowMs : PositiveI64 :=
  ⟨1000, by decide⟩

/-- Default length of a scheduled range. -/
def defaultScheduleIntervalMs : PositiveI64 :=
  ⟨900000, by decide⟩

/-- Default margin around the range that is read. -/
def defaultScanMarginMs : PositiveI64 :=
  ⟨300000, by decide⟩

/-- Default history of the projections. -/
def defaultProjectionLookbackMs : PositiveI64 :=
  ⟨3600000, by decide⟩

/-- Default age at which a range is ready. -/
def defaultWatermarkDelayMs : PositiveI64 :=
  ⟨360000, by decide⟩

/-- Default tolerance for events from the future. -/
def defaultClockSkewMarginMs : PositiveI64 :=
  defaultWindowMs

/-- Default latency from which an event counts as delayed. -/
def defaultMaxLatencyMs : PositiveI64 :=
  defaultWindowMs

/-- Default number of ranges that one tick may run. -/
def defaultMaxWindowsPerTick : PositiveUsize :=
  ⟨192, by decide⟩

/-- Default overlap of the L0 runs that are listed. -/
def defaultL0RunKeyOverlapMs : PositiveI64 :=
  defaultWatermarkDelayMs

/-- Default lag from which the newest range goes first. -/
def defaultLivePriorityLagThresholdMs : PositiveI64 :=
  defaultScheduleIntervalMs

/-- Default number of pointer uploads in flight. -/
def defaultL1IndexUploadConcurrency : PositiveUsize :=
  ⟨1, Nat.one_pos⟩

/-- The defaults before any argument is read. -/
def NormalizeArgs.withDefaults : NormalizeArgs where
  l0S3Bucket := ""
  l1S3Bucket := ""
  inputStartMs := none
  inputEndMs := none
  scheduleIntervalMs := defaultScheduleIntervalMs
  windowMs := defaultWindowMs
  scanMarginMs := defaultScanMarginMs
  projectionLookbackMs := defaultProjectionLookbackMs
  watermarkDelayMs := defaultWatermarkDelayMs
  clockSkewMarginMs := defaultClockSkewMarginMs
  maxLatencyMs := defaultMaxLatencyMs
  l0RunKeyOverlapMs := defaultL0RunKeyOverlapMs
  preflight := false
  auditL1IndexStartMs := none
  auditL1IndexEndMs := none
  maxWindowsPerTick := defaultMaxWindowsPerTick
  livePriority := false
  livePriorityOnly := false
  livePriorityLagThresholdMs := defaultLivePriorityLagThresholdMs
  l1IndexUploadConcurrency := defaultL1IndexUploadConcurrency

/-- The default arguments for two named buckets. -/
def namedBucketArgs : NormalizeArgs :=
  { NormalizeArgs.withDefaults with
    l0S3Bucket := "market-l0"
    l1S3Bucket := "market-l1" }

/-- The projections look back to the window before the range. -/
def oneWindowBackArgs : NormalizeArgs :=
  { namedBucketArgs with projectionLookbackMs := defaultWindowMs }

/-- A bucket name is neither blank nor a placeholder. -/
def validateRealBucket (name value : String) : List (Bool × String) :=
  [(value.toList.all Text.isWhiteSpace, name ++ " requires a bucket"),
    (value.toList.contains '<' || value.toList.contains '>',
      name ++
        " must be a real bucket name, not a public-doc placeholder")]

/-- Check the arguments that depend on each other. -/
def validateParsedArgs (parsed : NormalizeArgs) : Except String Unit :=
  firstRefusal
    ([(parsed.l0S3Bucket.isEmpty, "--l0-s3-bucket is required"),
        (parsed.l1S3Bucket.isEmpty, "--l1-s3-bucket is required")] ++
      validateRealBucket "--l0-s3-bucket" parsed.l0S3Bucket ++
      validateRealBucket "--l1-s3-bucket" parsed.l1S3Bucket ++
      [(decide (parsed.watermarkDelayMs.1 < parsed.scanMarginMs.1),
          "--watermark-delay-ms must be >= --scan-margin-ms"),
        (parsed.inputStartMs.isSome != parsed.inputEndMs.isSome,
          "--input-start-ms and --input-end-ms must be provided together"),
        (parsed.auditL1IndexStartMs.isSome !=
            parsed.auditL1IndexEndMs.isSome,
          "--audit-l1-index-start-ms and --audit-l1-index-end-ms " ++
            "must be provided together")])

/-- In accepted arguments the watermark delay covers the scan margin. -/
theorem scanMarginMs_le_of_accepted
    {args : NormalizeArgs}
    (accepted : validateParsedArgs args = .ok ()) :
    args.scanMarginMs.1 ≤ args.watermarkDelayMs.1 := by
  have passed :=
    firstRefusal_eq_ok_iff.mp accepted
      (decide (args.watermarkDelayMs.1 < args.scanMarginMs.1),
        "--watermark-delay-ms must be >= --scan-margin-ms")
      (by simp)
  simpa using passed

/-- The worker follows its schedule: no input range was given. -/
def NormalizeArgs.Scheduled (args : NormalizeArgs) : Prop :=
  args.inputStartMs = none ∧ args.inputEndMs = none

/--
Readings of the wall clock in the order the process takes them.  Readings are
signed 64-bit milliseconds since 1970 and do not go back.
-/
structure WallClock where
  nowMs : Nat → Int
  nonneg : ∀ reading, 0 ≤ nowMs reading
  le_i64Max : ∀ reading, nowMs reading ≤ i64Max
  nondecreasing :
    ∀ {earlier later}, earlier ≤ later → nowMs earlier ≤ nowMs later

end MarketIngest.Normalize
