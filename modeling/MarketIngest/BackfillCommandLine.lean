import MarketIngest.ArgumentValues
import MarketIngest.Backfill

namespace MarketIngest.Backfill

open CommandLine
open Normalize (PositiveI64)

/-!
# The command line of the backfill

The backfill reads its words from left to right over fixed defaults.  Paths must
be absolute, and the range of time has no default: its ends start out as zero,
which no accepted value is.
-/

/-- An exchange. -/
inductive Venue where
  | binance
  | upbit
  deriving Repr, DecidableEq

/-- The name of an exchange. -/
def Venue.asStr : Venue → String
  | .binance => "binance"
  | .upbit => "upbit"

/-- All arguments of a backfill. -/
structure ParsedArgs where
  venue : Venue
  configDir : String
  restBaseUrl : Option String
  inputStartMs : Int
  inputEndMs : Int
  expectSymbolCount : PositiveUsize
  symbols : Option (List String)
  upbitQuoteCurrency : String
  l0S3Bucket : String
  awsProfile : Option String
  awsRegion : String
  l0SpoolRoot : String
  l0FlushRecords : PositiveUsize
  l0ShardCount : PositiveU16
  s3RetentionEnabled : Bool
  s3RetentionDays : PositiveI64
  s3RetentionMaxDeletesPerRun : PositiveUsize

namespace ParsedArgs

/-- The defaults before any argument is read. -/
def withDefaults : ParsedArgs where
  venue := .binance
  configDir := "/opt/nangman-crypto/strategies/crypto/rust-engine/config"
  restBaseUrl := none
  inputStartMs := 0
  inputEndMs := 0
  expectSymbolCount := ⟨50, fifty_fits⟩
  symbols := none
  upbitQuoteCurrency := "KRW"
  l0S3Bucket := ""
  awsProfile := none
  awsRegion := "ap-northeast-2"
  l0SpoolRoot := "/opt/nangman-crypto/data/spool/market-ingest/l0"
  l0FlushRecords := ⟨1000, thousand_fits⟩
  l0ShardCount := ⟨1, oneShard_fits⟩
  s3RetentionEnabled := true
  s3RetentionDays := ⟨45, l0RetentionDays_fit⟩
  s3RetentionMaxDeletesPerRun := ⟨1000, thousand_fits⟩

/-- The arguments that decide which trades are loaded and where they go. -/
def backfillArgs (parsed : ParsedArgs) : BackfillArgs where
  inputStartMs := parsed.inputStartMs
  inputEndMs := parsed.inputEndMs
  expectSymbolCount := parsed.expectSymbolCount.1
  symbols := parsed.symbols
  l0S3Bucket := parsed.l0S3Bucket
  l0SpoolRoot := parsed.l0SpoolRoot
  l0FlushRecords := parsed.l0FlushRecords.1
  l0ShardCount := parsed.l0ShardCount.1

end ParsedArgs

/-- The parts of an address that the check of it looks at. -/
structure Url where
  scheme : String
  hostStr : Option String
  username : String
  password : Option String
  query : Option String
  fragment : Option String

section Values

/-- A path that starts at the root. -/
def isAbsolute (path : String) : Bool :=
  path.toList.head? = some '/'

/-- Read a path that starts at the root. -/
def parseAbsolutePath
    (message value : String) : Except BackfillError String :=
  if isAbsolute value then .ok value else .error (.invalidArgs message)

/-- Read the name of an exchange. -/
def parseVenue (value : String) : Except BackfillError Venue :=
  if value = "binance" then
    .ok .binance
  else if value = "upbit" then
    .ok .upbit
  else
    .error (.invalidArgs "--venue must be binance or upbit")

/-- Read a list of symbols. -/
def parseSymbols (raw : String) : Except BackfillError (List String) :=
  let parsed := Text.commaSeparated Char.toUpper raw
  if parsed.isEmpty then
    .error (.invalidArgs "--symbols requires at least one symbol")
  else
    .ok parsed

variable (name : String)

def parsePositiveI64 : String → Except BackfillError PositiveI64 :=
  readPositiveI64
    (fun _ => .invalidArgs (name ++ " must be a positive integer"))
    (.invalidArgs (name ++ " must be positive"))

def parsePositiveUsize : String → Except BackfillError PositiveUsize :=
  readPositive u64Max u64Max
    (fun _ => .invalidArgs (name ++ " must be a positive integer"))
    (.invalidArgs (name ++ " must be positive"))

def parsePositiveU16 : String → Except BackfillError PositiveU16 :=
  readPositive u16Max u16Max
    (fun _ => .invalidArgs (name ++ " must be a positive integer"))
    (.invalidArgs (name ++ " must be positive"))

/-- The error of an option without its positive integer. -/
def requiresPositive : BackfillError :=
  .invalidArgs (name ++ " requires a positive integer")

end Values

/-- The options of the backfill. -/
def grammar : Grammar ParsedArgs BackfillError where
  options :=
    [("--venue",
        .value (.invalidArgs "--venue requires a value")
          (storing parseVenue
            fun venue parsed => { parsed with venue := venue })),
      ("--config",
        .value
          (.invalidArgs "--config requires an absolute config directory path")
          (storing
            (parseAbsolutePath
              "--config requires an absolute config directory path")
            fun path parsed => { parsed with configDir := path })),
      ("--rest-base-url",
        .value (.invalidArgs "--rest-base-url requires an HTTPS URL")
          (storingText
            fun url parsed => { parsed with restBaseUrl := some url })),
      ("--input-start-ms",
        .value (requiresPositive "--input-start-ms")
          (storing (parsePositiveI64 "--input-start-ms")
            fun value parsed => { parsed with inputStartMs := value.1 })),
      ("--input-end-ms",
        .value (requiresPositive "--input-end-ms")
          (storing (parsePositiveI64 "--input-end-ms")
            fun value parsed => { parsed with inputEndMs := value.1 })),
      ("--expect-symbol-count",
        .value (requiresPositive "--expect-symbol-count")
          (storing (parsePositiveUsize "--expect-symbol-count")
            fun count parsed => { parsed with expectSymbolCount := count })),
      ("--symbols",
        .value (.invalidArgs "--symbols requires comma-separated symbols")
          (storing parseSymbols
            fun symbols parsed => { parsed with symbols := some symbols })),
      ("--upbit-quote-currency",
        .value
          (.invalidArgs "--upbit-quote-currency requires a quote currency")
          (storingText
            fun currency parsed =>
              { parsed with upbitQuoteCurrency := currency })),
      ("--l0-s3-bucket",
        .value (.invalidArgs "--l0-s3-bucket requires a bucket")
          (storingText
            fun bucket parsed => { parsed with l0S3Bucket := bucket })),
      ("--aws-profile",
        .value (.invalidArgs "--aws-profile requires a profile")
          (storingText
            fun profile parsed => { parsed with awsProfile := some profile })),
      ("--aws-region",
        .value (.invalidArgs "--aws-region requires a region")
          (storingText
            fun region parsed => { parsed with awsRegion := region })),
      ("--l0-spool-root",
        .value
          (.invalidArgs "--l0-spool-root requires an absolute directory path")
          (storing
            (parseAbsolutePath
              "--l0-spool-root requires an absolute directory path")
            fun path parsed => { parsed with l0SpoolRoot := path })),
      ("--l0-flush-records",
        .value (requiresPositive "--l0-flush-records")
          (storing (parsePositiveUsize "--l0-flush-records")
            fun count parsed => { parsed with l0FlushRecords := count })),
      ("--l0-shard-count",
        .value (requiresPositive "--l0-shard-count")
          (storing (parsePositiveU16 "--l0-shard-count")
            fun count parsed => { parsed with l0ShardCount := count })),
      ("--disable-s3-retention",
        .flag fun parsed => { parsed with s3RetentionEnabled := false }),
      ("--s3-retention-days",
        .value (requiresPositive "--s3-retention-days")
          (storing (parsePositiveI64 "--s3-retention-days")
            fun days parsed => { parsed with s3RetentionDays := days })),
      ("--s3-retention-max-deletes-per-run",
        .value (requiresPositive "--s3-retention-max-deletes-per-run")
          (storing (parsePositiveUsize "--s3-retention-max-deletes-per-run")
            fun count parsed =>
              { parsed with s3RetentionMaxDeletesPerRun := count }))]
  unknown word := .invalidArgs ("unknown argument: " ++ word)

section Checks

/-- An address is absolute, secure and free of credentials and queries. -/
def validateHttpsUrl
    (parseUrl : String → Except String Url)
    (name value : String) : Except BackfillError Unit :=
  match parseUrl (Text.trimmed value) with
  | .error failure =>
      .error (.invalidArgs (name ++ " must be a URL: " ++ failure))
  | .ok url =>
      firstRefusal
        [(decide (url.scheme ≠ "https"),
            .invalidArgs (name ++ " must use https://")),
          (url.hostStr.isNone, .invalidArgs (name ++ " must include a host")),
          (decide (url.username ≠ "") || url.password.isSome,
            .invalidArgs (name ++ " must not include credentials")),
          (url.query.isSome || url.fragment.isSome,
            .invalidArgs
              (name ++ " must not include query or fragment components"))]

/-- Check the arguments that have no default or depend on each other. -/
def ParsedArgs.validateCompletedArgs
    (parseUrl : String → Except String Url)
    (parsed : ParsedArgs) : Except BackfillError Unit :=
  match firstRefusal
      [(decide (parsed.inputStartMs = 0),
          BackfillError.invalidArgs "--input-start-ms is required"),
        (decide (parsed.inputEndMs = 0),
          .invalidArgs "--input-end-ms is required"),
        (decide (parsed.inputEndMs ≤ parsed.inputStartMs),
          .invalidArgs
            "--input-end-ms must be greater than --input-start-ms"),
        (parsed.l0S3Bucket.isEmpty,
          .invalidArgs "--l0-s3-bucket is required")] with
  | .error failure => .error failure
  | .ok () =>
      match validateRealBucket "--l0-s3-bucket" parsed.l0S3Bucket with
      | .error failure => .error failure
      | .ok () =>
          match parsed.restBaseUrl with
          | some url => validateHttpsUrl parseUrl "--rest-base-url" url
          | none => .ok ()

end Checks

/-- Read the command line of the backfill. -/
def parseArgs
    (parseUrl : String → Except String Url)
    (words : List String) : Except BackfillError (Option ParsedArgs) :=
  grammar.parse .withDefaults
    (fun parsed => (parsed.validateCompletedArgs parseUrl).map fun _ => parsed)
    words

end MarketIngest.Backfill
