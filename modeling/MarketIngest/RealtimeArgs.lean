import MarketIngest.ArgumentValues
import MarketIngest.BootstrapTiling

namespace MarketIngest.Realtime

open CommandLine
open Normalize (PositiveI64 validateRealBucket)
open Supervisor (validateNatsUrl validateNonEmptyToken validateSubjectPrefix)

/-!
# The command line of the realtime worker

The worker reads its words from left to right over defaults, some of which come
from the environment.  Then it checks the arguments that depend on each other,
and shortens the interval of its log to the duration of the watch.
-/

/-- An exchange. -/
inductive Venue where
  | binance
  | upbit
  deriving Repr, DecidableEq

/-- The numbers of price levels that the exchange has snapshots of. -/
abbrev DepthSnapshotLimit :=
  { limit : Nat // limit ∈ [5, 10, 20, 50, 100, 500, 1000, 5000] }

/-- The numbers of price levels that the other exchange has. -/
abbrev OrderbookUnit :=
  { unit : Nat // unit ∈ [1, 5, 15, 30] }

/-- Arguments of the realtime worker. -/
structure Args where
  venue : Venue
  configDir : String
  durationSeconds : PositiveU64
  logIntervalSeconds : PositiveU64
  depthSnapshotLimit : DepthSnapshotLimit
  expectSymbolCount : PositiveUsize
  allowPartialSymbolCoverage : Bool
  binanceFuturesRestBaseUrl : String
  binanceDerivativesSnapshotIntervalSeconds : PositiveU64
  upbitRestBaseUrl : Option String
  upbitWebsocketUrl : Option String
  upbitQuoteCurrency : String
  upbitOrderbookUnit : OrderbookUnit
  l0S3Bucket : Option String
  awsProfile : Option String
  awsRegion : String
  l0SpoolRoot : String
  l0FlushRecords : PositiveUsize
  l0ShardCount : PositiveU16
  localDiskHighWaterPct : Percentage
  localDiskEmergencyPct : Percentage
  safetyFloorHours : PositiveI64
  evictionCheckIntervalSecs : PositiveU64
  s3RetentionEnabled : Bool
  s3RetentionDays : PositiveI64
  s3RetentionCheckIntervalSecs : PositiveU64
  s3RetentionMaxDeletesPerRun : PositiveUsize
  liveNatsUrl : Option String
  liveNatsStream : String
  liveNatsSubjectPrefix : String
  liveNatsRequired : Bool

/-- The defaults, of which four come from the environment. -/
def defaultArgs (environment : Environment) : Args where
  venue := .binance
  configDir := "/opt/nangman-crypto/strategies/crypto/rust-engine/config"
  durationSeconds := ⟨15, fifteen_fits⟩
  logIntervalSeconds := ⟨5, by decide⟩
  depthSnapshotLimit := ⟨100, by decide⟩
  expectSymbolCount := ⟨50, fifty_fits⟩
  allowPartialSymbolCoverage := false
  binanceFuturesRestBaseUrl := "https://fapi.binance.com"
  binanceDerivativesSnapshotIntervalSeconds := ⟨300, by decide⟩
  upbitRestBaseUrl := none
  upbitWebsocketUrl := none
  upbitQuoteCurrency := "KRW"
  upbitOrderbookUnit := ⟨5, by decide⟩
  l0S3Bucket := none
  awsProfile := none
  awsRegion := "ap-northeast-2"
  l0SpoolRoot := "/opt/nangman-crypto/data/spool/market-ingest/l0"
  l0FlushRecords := ⟨1000, thousand_fits⟩
  l0ShardCount := ⟨1, oneShard_fits⟩
  localDiskHighWaterPct := ⟨70, by decide⟩
  localDiskEmergencyPct := ⟨90, by decide⟩
  safetyFloorHours := ⟨2, by decide⟩
  evictionCheckIntervalSecs := ⟨600, by decide⟩
  s3RetentionEnabled := true
  s3RetentionDays := ⟨45, l0RetentionDays_fit⟩
  s3RetentionCheckIntervalSecs := ⟨21600, sixHours_fit⟩
  s3RetentionMaxDeletesPerRun := ⟨1000, thousand_fits⟩
  liveNatsUrl := envString environment "MARKET_LIVE_NATS_URL"
  liveNatsStream :=
    (envString environment "MARKET_LIVE_NATS_STREAM").getD "MARKET_LIVE"
  liveNatsSubjectPrefix :=
    (envString environment "MARKET_LIVE_NATS_SUBJECT_PREFIX").getD
      "market_live_tick.created"
  liveNatsRequired := envBool environment "MARKET_LIVE_NATS_REQUIRED"

section Values

/-- Read the name of an exchange. -/
def parseVenue (value : String) : Except String Venue :=
  if value = "binance" then
    .ok .binance
  else if value = "upbit" then
    .ok .upbit
  else
    .error "--venue must be binance or upbit"

/-- Read one of some numbers. -/
def parseOneOf
    (typeMax : Nat)
    (known : List Nat)
    (unreadable unknown : String)
    (value : String) : Except String { number : Nat // number ∈ known } :=
  match Text.parseInteger 0 typeMax value with
  | .error _ => .error unreadable
  | .ok parsed =>
      if isKnown : parsed.toNat ∈ known then
        .ok ⟨parsed.toNat, isKnown⟩
      else
        .error unknown

def parseDepthSnapshotLimit : String → Except String DepthSnapshotLimit :=
  parseOneOf u16Max [5, 10, 20, 50, 100, 500, 1000, 5000]
    "--depth-snapshot-limit must be an integer"
    "--depth-snapshot-limit must be 5, 10, 20, 50, 100, 500, 1000, or 5000"

def parseUpbitOrderbookUnit : String → Except String OrderbookUnit :=
  parseOneOf u8Max [1, 5, 15, 30]
    "--upbit-orderbook-unit must be an integer"
    "--upbit-orderbook-unit must be 1, 5, 15, or 30"

variable (name : String)

def parsePositiveU64 : String → Except String PositiveU64 :=
  readPositive u64Max u64Max (fun _ => name ++ " must be a positive integer")
    (name ++ " must be positive")

def parsePositiveUsize : String → Except String PositiveUsize :=
  parsePositiveU64 name

def parsePositiveU16 : String → Except String PositiveU16 :=
  readPositive u16Max u16Max (fun _ => name ++ " must be a positive integer")
    (name ++ " must be positive")

def parsePositiveI64 : String → Except String PositiveI64 :=
  readPositiveI64 (fun _ => name ++ " must be a positive integer")
    (name ++ " must be positive")

def parsePct : String → Except String Percentage :=
  readPositive u8Max 100 (fun _ => name ++ " must be 1..100")
    (name ++ " must be 1..100")

end Values

section Options

/-- Options of the watch. -/
def runtimeOptions : List (String × Action Args String) :=
  [("--venue",
      .value "--venue requires binance or upbit"
        (storing parseVenue fun venue args => { args with venue := venue })),
    ("--config",
      .value "--config requires an absolute config directory path"
        (storingText fun path args => { args with configDir := path })),
    ("--duration-seconds",
      .value "--duration-seconds requires a positive integer"
        (storing (parsePositiveU64 "--duration-seconds")
          fun seconds args => { args with durationSeconds := seconds })),
    ("--log-interval-seconds",
      .value "--log-interval-seconds requires a positive integer"
        (storing (parsePositiveU64 "--log-interval-seconds")
          fun seconds args => { args with logIntervalSeconds := seconds })),
    ("--depth-snapshot-limit",
      .value
        ("--depth-snapshot-limit requires 5, 10, 20, 50, 100, 500, 1000, " ++
          "or 5000")
        (storing parseDepthSnapshotLimit
          fun limit args => { args with depthSnapshotLimit := limit })),
    ("--expect-symbol-count",
      .value "--expect-symbol-count requires a positive integer"
        (storing (parsePositiveUsize "--expect-symbol-count")
          fun count args => { args with expectSymbolCount := count })),
    ("--allow-partial-symbol-coverage",
      .flag fun args => { args with allowPartialSymbolCoverage := true })]

/-- Options of the exchanges. -/
def exchangeOptions : List (String × Action Args String) :=
  [("--binance-futures-rest-base-url",
      .value "--binance-futures-rest-base-url requires an absolute HTTPS URL"
        (storingText
          fun url args => { args with binanceFuturesRestBaseUrl := url })),
    ("--binance-derivatives-snapshot-interval-seconds",
      .value
        ("--binance-derivatives-snapshot-interval-seconds requires " ++
          "a positive integer")
        (storing
          (parsePositiveU64 "--binance-derivatives-snapshot-interval-seconds")
          fun seconds args =>
            { args with
              binanceDerivativesSnapshotIntervalSeconds := seconds })),
    ("--upbit-rest-base-url",
      .value "--upbit-rest-base-url requires an absolute HTTPS URL"
        (storingText
          fun url args => { args with upbitRestBaseUrl := some url })),
    ("--upbit-websocket-url",
      .value "--upbit-websocket-url requires an absolute WSS URL"
        (storingText
          fun url args => { args with upbitWebsocketUrl := some url })),
    ("--upbit-quote-currency",
      .value "--upbit-quote-currency requires a quote currency"
        (storingText
          fun currency args => { args with upbitQuoteCurrency := currency })),
    ("--upbit-orderbook-unit",
      .value "--upbit-orderbook-unit requires 1, 5, 15, or 30"
        (storing parseUpbitOrderbookUnit
          fun unit args => { args with upbitOrderbookUnit := unit }))]

/-- Options of the sink and of its disk. -/
def storageOptions : List (String × Action Args String) :=
  [("--l0-s3-bucket",
      .value "--l0-s3-bucket requires a bucket"
        (storingText
          fun bucket args => { args with l0S3Bucket := some bucket })),
    ("--aws-profile",
      .value "--aws-profile requires a profile"
        (storingText
          fun profile args => { args with awsProfile := some profile })),
    ("--aws-region",
      .value "--aws-region requires a region"
        (storingText fun region args => { args with awsRegion := region })),
    ("--l0-spool-root",
      .value "--l0-spool-root requires an absolute directory path"
        (storingText fun path args => { args with l0SpoolRoot := path })),
    ("--l0-flush-records",
      .value "--l0-flush-records requires a positive integer"
        (storing (parsePositiveUsize "--l0-flush-records")
          fun count args => { args with l0FlushRecords := count })),
    ("--l0-shard-count",
      .value "--l0-shard-count requires a positive integer"
        (storing (parsePositiveU16 "--l0-shard-count")
          fun count args => { args with l0ShardCount := count })),
    ("--local-disk-high-water-pct",
      .value "--local-disk-high-water-pct requires 1..100"
        (storing (parsePct "--local-disk-high-water-pct")
          fun part args => { args with localDiskHighWaterPct := part })),
    ("--local-disk-emergency-pct",
      .value "--local-disk-emergency-pct requires 1..100"
        (storing (parsePct "--local-disk-emergency-pct")
          fun part args => { args with localDiskEmergencyPct := part })),
    ("--safety-floor-hours",
      .value "--safety-floor-hours requires a positive integer"
        (storing (parsePositiveI64 "--safety-floor-hours")
          fun hours args => { args with safetyFloorHours := hours })),
    ("--eviction-check-interval-secs",
      .value "--eviction-check-interval-secs requires a positive integer"
        (storing (parsePositiveU64 "--eviction-check-interval-secs")
          fun seconds args =>
            { args with evictionCheckIntervalSecs := seconds }))]

/-- Options of the cleanup of the bucket. -/
def retentionOptions : List (String × Action Args String) :=
  [("--disable-s3-retention",
      .flag fun args => { args with s3RetentionEnabled := false }),
    ("--s3-retention-days",
      .value "--s3-retention-days requires a positive integer"
        (storing (parsePositiveI64 "--s3-retention-days")
          fun days args => { args with s3RetentionDays := days })),
    ("--s3-retention-check-interval-secs",
      .value "--s3-retention-check-interval-secs requires a positive integer"
        (storing (parsePositiveU64 "--s3-retention-check-interval-secs")
          fun seconds args =>
            { args with s3RetentionCheckIntervalSecs := seconds })),
    ("--s3-retention-max-deletes-per-run",
      .value "--s3-retention-max-deletes-per-run requires a positive integer"
        (storing (parsePositiveUsize "--s3-retention-max-deletes-per-run")
          fun count args =>
            { args with s3RetentionMaxDeletesPerRun := count }))]

/-- Options of the live ticks. -/
def liveOptions : List (String × Action Args String) :=
  [("--live-nats-url",
      .value "--live-nats-url requires a nats:// URL"
        (storingText fun url args => { args with liveNatsUrl := some url })),
    ("--live-nats-stream",
      .value "--live-nats-stream requires a stream name"
        (storingText
          fun stream args => { args with liveNatsStream := stream })),
    ("--live-nats-subject-prefix",
      .value "--live-nats-subject-prefix requires a subject prefix"
        (storingText
          fun subjects args => { args with liveNatsSubjectPrefix := subjects })),
    ("--live-nats-required",
      .flag fun args => { args with liveNatsRequired := true })]

/-- The options of the worker. -/
def grammar : Grammar Args String where
  options :=
    runtimeOptions ++ exchangeOptions ++ storageOptions ++
      retentionOptions ++ liveOptions
  unknown word := "unknown argument: " ++ word

end Options

/-- Checks of the arguments that depend on each other. -/
def checks (parsed : Args) : List (Bool × String) :=
  [(decide (parsed.localDiskEmergencyPct.1 < parsed.localDiskHighWaterPct.1),
      "--local-disk-emergency-pct must be >= --local-disk-high-water-pct")] ++
    (match parsed.l0S3Bucket with
      | some bucket => validateRealBucket "--l0-s3-bucket" bucket
      | none => []) ++
    (match parsed.liveNatsUrl with
      | some url =>
          [validateNatsUrl "--live-nats-url" url] ++
            validateNonEmptyToken "--live-nats-stream"
              parsed.liveNatsStream ++
            validateSubjectPrefix "--live-nats-subject-prefix"
              parsed.liveNatsSubjectPrefix
      | none => [])

/-- Log at least once in the time of the watch. -/
def Args.normalized (parsed : Args) : Args :=
  if parsed.durationSeconds.1 < parsed.logIntervalSeconds.1 then
    { parsed with logIntervalSeconds := parsed.durationSeconds }
  else
    parsed

/-- Check the arguments, and shorten the interval of the log. -/
def validateAndNormalize (parsed : Args) : Except String Args :=
  (firstRefusal (checks parsed)).map fun _ => parsed.normalized

/-- Read the command line of the realtime worker. -/
def parseArgs
    (environment : Environment)
    (words : List String) : Except String (Option Args) :=
  grammar.parse (defaultArgs environment) validateAndNormalize words

end MarketIngest.Realtime
