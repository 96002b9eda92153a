import MarketIngest.L0Records
import MarketIngest.NormalizeArgs
import MarketIngest.OrderedMap

namespace MarketIngest.Storage

/-!
# The L0 storage sink

Appended records are buffered by partition.  A buffer that reaches the flush
size, and every buffer on a final flush, becomes one parquet file, which is
uploaded.  A flush takes the buffer out before it creates the directory and
writes the file, and both of these steps can fail.  A failed upload is counted
and does not fail the call.
-/

variable {Key Record Payload : Type} [LinearOrder Key]

/-- Failures of the sink. -/
inductive StorageError where
  | io
  | parquet
  | aws
  | invalidConfig (message : String)
  | nats
  deriving Repr, DecidableEq

/-- The live publisher that the configuration asks for. -/
structure LiveMarketNatsConfig where
  url : String
  stream : String
  subjectPrefix : String
  required : Bool
  deriving Repr, DecidableEq

/-- Configuration of a sink. -/
structure L0StorageConfig where
  bucket : String
  spoolRoot : String
  runId : String
  flushRecords : Nat
  shardCount : Nat
  liveNats : Option LiveMarketNatsConfig
  deriving Repr, DecidableEq

/-- Nothing remains of the text after trimming. -/
def isBlank (text : String) : Bool :=
  text.toList.all Text.isWhiteSpace

/-- Check a configuration. -/
def validateConfig (config : L0StorageConfig) : Except StorageError Unit :=
  if config.bucket.isEmpty then
    .error (.invalidConfig "l0 storage bucket is required")
  else if config.flushRecords = 0 then
    .error (.invalidConfig "l0 flush records must be positive")
  else if config.shardCount = 0 then
    .error (.invalidConfig "l0 shard count must be positive")
  else
    match config.liveNats with
    | none => .ok ()
    | some liveNats =>
        if isBlank liveNats.url then
          .error (.invalidConfig
            "live NATS URL must not be empty when configured")
        else if isBlank liveNats.stream then
          .error (.invalidConfig
            "live NATS stream must not be empty when configured")
        else if isBlank liveNats.subjectPrefix then
          .error (.invalidConfig
            "live NATS subject prefix must not be empty when configured")
        else
          .ok ()

/-- A configuration that passed the check. -/
abbrev AcceptedConfig :=
  { config : L0StorageConfig // validateConfig config = .ok () }

/-- What happens to one file on its way to the bucket. -/
inductive FileOutcome where
  | directoryFailed
  | parquetFailed
  | uploadFailed (error : String)
  | uploaded
  deriving Repr, DecidableEq

/-- The file is not written. -/
def FileOutcome.loses : FileOutcome → Bool
  | .directoryFailed => true
  | .parquetFailed => true
  | .uploadFailed _ => false
  | .uploaded => false

/-- How many uploaded objects a report names. -/
def maxReportedObjects : Nat :=
  1000

/-- How many failed uploads a report names. -/
def maxReportedFailures : Nat :=
  200

/-- An object that was uploaded. -/
structure UploadedObject where
  objectFamily : String
  key : String
  localPath : String
  recordCount : Nat
  deriving Repr, DecidableEq

/-- An object whose upload failed. -/
structure FailedUploadObject where
  objectFamily : String
  key : String
  discardedLocalPath : String
  recordCount : Nat
  error : String
  deriving Repr, DecidableEq

/-- Append a value and drop the oldest one above a bound. -/
def pushCapped {Value : Type} (values : List Value) (value : Value)
    (maxLength droppedCount : Nat) : List Value × Nat :=
  let pushed := values ++ [value]
  if pushed.length > maxLength then
    (pushed.tail, droppedCount + 1)
  else
    (pushed, droppedCount)

/--
What was uploaded and what failed.  Next to the counted and capped entries of
the report, the ledger has the records of all objects of both kinds: the first
are the contents of the bucket, the second are what was given up.
-/
structure UploadLedger (Payload : Type) where
  uploadedObjects : List UploadedObject
  uploadedObjectCount : Nat
  uploadedObjectDroppedCount : Nat
  failedUploads : List FailedUploadObject
  failedUploadCount : Nat
  failedUploadDroppedCount : Nat
  uploadedRecords : List (L0Record Payload)
  failedRecords : List (L0Record Payload)

/-- Nothing was uploaded yet. -/
def UploadLedger.empty : UploadLedger Payload where
  uploadedObjects := []
  uploadedObjectCount := 0
  uploadedObjectDroppedCount := 0
  failedUploads := []
  failedUploadCount := 0
  failedUploadDroppedCount := 0
  uploadedRecords := []
  failedRecords := []

/-- Count an uploaded object with its records. -/
def UploadLedger.recordUploadedObject
    (ledger : UploadLedger Payload)
    (object : UploadedObject)
    (records : List (L0Record Payload)) : UploadLedger Payload :=
  let (objects, dropped) :=
    pushCapped ledger.uploadedObjects object maxReportedObjects
      ledger.uploadedObjectDroppedCount
  { ledger with
    uploadedObjects := objects
    uploadedObjectCount := ledger.uploadedObjectCount + 1
    uploadedObjectDroppedCount := dropped
    uploadedRecords := ledger.uploadedRecords ++ records }

/-- Count an object whose upload failed with its records. -/
def UploadLedger.recordFailedUpload
    (ledger : UploadLedger Payload)
    (failure : FailedUploadObject)
    (records : List (L0Record Payload)) : UploadLedger Payload :=
  let (failures, dropped) :=
    pushCapped ledger.failedUploads failure maxReportedFailures
      ledger.failedUploadDroppedCount
  { ledger with
    failedUploads := failures
    failedUploadCount := ledger.failedUploadCount + 1
    failedUploadDroppedCount := dropped
    failedRecords := ledger.failedRecords ++ records }

/-- What distinguishes the objects of one family. -/
structure ObjectFamily (Key Record Payload : Type) where
  name : String
  objectKey : Key → String → Nat → String
  toRecord : Record → L0Record Payload

/-- Buffered records and part numbers of one family. -/
structure PartitionBuffers (Key Record : Type) [LinearOrder Key] where
  buffers : OrderedMap Key (List Record)
  partNumbers : OrderedMap Key Nat

/-- Nothing is buffered. -/
def PartitionBuffers.empty : PartitionBuffers Key Record where
  buffers := .empty
  partNumbers := .empty

/-- The next part number of a partition. -/
def nextPartNumber
    (partNumbers : OrderedMap Key Nat)
    (partition : Key) : Nat × OrderedMap Key Nat :=
  let next := (partNumbers.get? partition).getD 0 + 1
  (next, partNumbers.insert partition next)

/-- Put a record into the buffer of its partition. -/
def PartitionBuffers.push
    (family : PartitionBuffers Key Record)
    (partition : Key)
    (record : Record) : PartitionBuffers Key Record :=
  { family with
    buffers :=
      family.buffers.insert partition
        ((family.buffers.get? partition).getD [] ++ [record]) }

/-- The file below the spool root in which an object is written first. -/
def localPath (config : L0StorageConfig) (key : String) : String :=
  config.spoolRoot ++ "/" ++ config.runId ++ "/" ++ key

/-- Upload a written file; a failure is counted, not returned. -/
def upload
    (family : ObjectFamily Key Record Payload)
    (key path : String)
    (records : List Record)
    (outcome : FileOutcome)
    (ledger : UploadLedger Payload) : UploadLedger Payload :=
  match outcome with
  | .uploadFailed error =>
      ledger.recordFailedUpload
        { objectFamily := family.name
          key := key
          discardedLocalPath := path
          recordCount := records.length
          error := error }
        (records.map family.toRecord)
  | _ =>
      ledger.recordUploadedObject
        { objectFamily := family.name
          key := key
          localPath := path
          recordCount := records.length }
        (records.map family.toRecord)

/-- Turn the buffer of one partition into an uploaded object. -/
def flushPartition
    (config : L0StorageConfig)
    (family : ObjectFamily Key Record Payload)
    (partition : Key)
    (outcome : FileOutcome)
    (buffered : PartitionBuffers Key Record)
    (ledger : UploadLedger Payload) :
    PartitionBuffers Key Record × UploadLedger Payload ×
      Except StorageError Unit :=
  match buffered.buffers.get? partition with
  | none => (buffered, ledger, .ok ())
  | some records =>
      let removed :=
        { buffered with buffers := buffered.buffers.erase partition }
      if records.isEmpty then
        (removed, ledger, .ok ())
      else
        let (partNumber, partNumbers) :=
          nextPartNumber buffered.partNumbers partition
        let numbered := { removed with partNumbers := partNumbers }
        let key := family.objectKey partition config.runId partNumber
        match outcome with
        | .directoryFailed => (numbered, ledger, .error .io)
        | .parquetFailed => (numbered, ledger, .error .parquet)
        | written =>
            (numbered,
              upload family key (localPath config key) records written
                ledger,
              .ok ())

/-- Buffer a record, and flush its partition when it is full. -/
def appendRecord
    (config : L0StorageConfig)
    (family : ObjectFamily Key Record Payload)
    (partition : Key)
    (record : Record)
    (outcome : FileOutcome)
    (buffered : PartitionBuffers Key Record)
    (ledger : UploadLedger Payload) :
    PartitionBuffers Key Record × UploadLedger Payload ×
      Except StorageError Unit :=
  let pushed := buffered.push partition record
  if ((pushed.buffers.get? partition).getD []).length ≥
      config.flushRecords then
    flushPartition config family partition outcome pushed ledger
  else
    (pushed, ledger, .ok ())

/-- Flush some partitions one after the other, up to the first failure. -/
def flushPartitions
    (config : L0StorageConfig)
    (family : ObjectFamily Key Record Payload)
    (outcomes : Key → FileOutcome) :
    List Key →
    PartitionBuffers Key Record →
    UploadLedger Payload →
    PartitionBuffers Key Record × UploadLedger Payload ×
      Except StorageError Unit
  | [], buffered, ledger => (buffered, ledger, .ok ())
  | partition :: rest, buffered, ledger =>
      match flushPartition config family partition (outcomes partition)
          buffered ledger with
      | (after, flushedLedger, .ok ()) =>
          flushPartitions config family outcomes rest after flushedLedger
      | (after, flushedLedger, .error failure) =>
          (after, flushedLedger, .error failure)

/-- Raw market events. -/
def rawFamily :
    ObjectFamily RawPartitionKey (RawMarketEventRecord Payload)
      Payload where
  name := "raw_market_event"
  objectKey := rawObjectKey
  toRecord := .raw

/-- Source health. -/
def healthFamily :
    ObjectFamily HealthPartitionKey (SourceHealthRecord Payload)
      Payload where
  name := "source_health"
  objectKey := healthObjectKey
  toRecord := .sourceHealth

/-- Symbol health. -/
def symbolHealthFamily :
    ObjectFamily SymbolHealthPartitionKey (SymbolHealthRecord Payload)
      Payload where
  name := "symbol_health"
  objectKey := symbolHealthObjectKey
  toRecord := .symbolHealth

/-- Gap alerts. -/
def gapFamily :
    ObjectFamily GapPartitionKey (GapAlertRecord Payload) Payload where
  name := "gap_alert"
  objectKey := gapObjectKey
  toRecord := .gap

/-- The state of a sink. -/
structure L0StorageSink (Payload : Type) where
  config : AcceptedConfig
  hash : String → Nat
  livePublisher : Bool
  raw : PartitionBuffers RawPartitionKey (RawMarketEventRecord Payload)
  health : PartitionBuffers HealthPartitionKey (SourceHealthRecord Payload)
  symbolHealth :
    PartitionBuffers SymbolHealthPartitionKey (SymbolHealthRecord Payload)
  gap : PartitionBuffers GapPartitionKey (GapAlertRecord Payload)
  ledger : UploadLedger Payload
  nextOrdinal : Nat
  manifestKey : Option String

namespace L0StorageSink

/-- A sink that was just created. -/
def new
    (config : AcceptedConfig)
    (hash : String → Nat)
    (livePublisher : Bool) : L0StorageSink Payload where
  config := config
  hash := hash
  livePublisher := livePublisher
  raw := .empty
  health := .empty
  symbolHealth := .empty
  gap := .empty
  ledger := .empty
  nextOrdinal := 1
  manifestKey := none

/-- The live publisher must not fail. -/
def liveNatsRequired (sink : L0StorageSink Payload) : Bool :=
  match sink.config.1.liveNats with
  | some liveNats => liveNats.required
  | none => false

/-- What happens to the live tick of a raw event. -/
inductive PublishOutcome where
  | noMarkPrice
  | published
  | failed
  deriving Repr, DecidableEq

/-- Publish a live tick; a failure counts only if publishing is required. -/
def publishLiveTick
    (sink : L0StorageSink Payload)
    (publish : PublishOutcome) : Except StorageError Unit :=
  if !sink.livePublisher then
    .ok ()
  else
    match publish with
    | .noMarkPrice => .ok ()
    | .published => .ok ()
    | .failed =>
        if sink.liveNatsRequired then .error .nats else .ok ()

/-- Append a raw market event. -/
def appendRawMarketEvent
    (sink : L0StorageSink Payload)
    (draft : RawMarketEventDraft Payload)
    (publish : PublishOutcome)
    (file : FileOutcome) :
    L0StorageSink Payload × Except StorageError Unit :=
  let ordinal := sink.nextOrdinal
  let counted := { sink with nextOrdinal := sink.nextOrdinal + 1 }
  let record :=
    RawMarketEventRecord.fromDraft draft sink.config.1.runId ordinal
  match counted.publishLiveTick publish with
  | .error failure => (counted, .error failure)
  | .ok () =>
      let partition :=
        rawPartitionFor sink.hash record sink.config.1.shardCount
      let (raw, ledger, result) :=
        appendRecord sink.config.1 rawFamily partition record file
          sink.raw sink.ledger
      ({ counted with raw := raw, ledger := ledger }, result)

/-- Append the health of a source. -/
def appendSourceHealth
    (sink : L0StorageSink Payload)
    (draft : SourceHealthDraft Payload)
    (file : FileOutcome) :
    L0StorageSink Payload × Except StorageError Unit :=
  let ordinal := sink.nextOrdinal
  let counted := { sink with nextOrdinal := sink.nextOrdinal + 1 }
  let record :=
    SourceHealthRecord.fromDraft draft sink.config.1.runId ordinal
  let partition :=
    healthPartitionFor sink.hash record sink.config.1.shardCount
  let (health, ledger, result) :=
    appendRecord sink.config.1 healthFamily partition record file
      sink.health sink.ledger
  ({ counted with health := health, ledger := ledger }, result)

/-- Append the health of a symbol. -/
def appendSymbolHealth
    (sink : L0StorageSink Payload)
    (draft : SymbolHealthDraft Payload)
    (file : FileOutcome) :
    L0StorageSink Payload × Except StorageError Unit :=
  let ordinal := sink.nextOrdinal
  let counted := { sink with nextOrdinal := sink.nextOrdinal + 1 }
  let record :=
    SymbolHealthRecord.fromDraft draft sink.config.1.runId ordinal
  let partition :=
    symbolHealthPartitionFor sink.hash record sink.config.1.shardCount
  let (symbolHealth, ledger, result) :=
    appendRecord sink.config.1 symbolHealthFamily partition record file
      sink.symbolHealth sink.ledger
  ({ counted with symbolHealth := symbolHealth, ledger := ledger }, result)

/-- Append a gap alert. -/
def appendGapAlert
    (sink : L0StorageSink Payload)
    (draft : GapAlertDraft Payload)
    (file : FileOutcome) :
    L0StorageSink Payload × Except StorageError Unit :=
  let ordinal := sink.nextOrdinal
  let counted := { sink with nextOrdinal := sink.nextOrdinal + 1 }
  let record :=
    GapAlertRecord.fromDraft draft sink.config.1.runId ordinal
  let partition :=
    gapPartitionFor sink.hash record sink.config.1.shardCount
  let (gap, ledger, result) :=
    appendRecord sink.config.1 gapFamily partition record file sink.gap
      sink.ledger
  ({ counted with gap := gap, ledger := ledger }, result)

/-- What happens to the files of a final flush. -/
structure FlushFiles where
  raw : RawPartitionKey → FileOutcome
  health : HealthPartitionKey → FileOutcome
  symbolHealth : SymbolHealthPartitionKey → FileOutcome
  gap : GapPartitionKey → FileOutcome

/-- Flush all raw market events. -/
def flushRaw
    (sink : L0StorageSink Payload)
    (files : FlushFiles) :
    L0StorageSink Payload × Except StorageError Unit :=
  let (raw, ledger, result) :=
    flushPartitions sink.config.1 rawFamily files.raw
      sink.raw.buffers.keys sink.raw sink.ledger
  ({ sink with raw := raw, ledger := ledger }, result)

/-- Flush all source health records. -/
def flushHealth
    (sink : L0StorageSink Payload)
    (files : FlushFiles) :
    L0StorageSink Payload × Except StorageError Unit :=
  let (health, ledger, result) :=
    flushPartitions sink.config.1 healthFamily files.health
      sink.health.buffers.keys sink.health sink.ledger
  ({ sink with health := health, ledger := ledger }, result)

/-- Flush all symbol health records. -/
def flushSymbolHealth
    (sink : L0StorageSink Payload)
    (files : FlushFiles) :
    L0StorageSink Payload × Except StorageError Unit :=
  let (symbolHealth, ledger, result) :=
    flushPartitions sink.config.1 symbolHealthFamily files.symbolHealth
      sink.symbolHealth.buffers.keys sink.symbolHealth sink.ledger
  ({ sink with symbolHealth := symbolHealth, ledger := ledger }, result)

/-- Flush all gap alerts. -/
def flushGap
    (sink : L0StorageSink Payload)
    (files : FlushFiles) :
    L0StorageSink Payload × Except StorageError Unit :=
  let (gap, ledger, result) :=
    flushPartitions sink.config.1 gapFamily files.gap
      sink.gap.buffers.keys sink.gap sink.ledger
  ({ sink with gap := gap, ledger := ledger }, result)

/-- Continue with the next step unless the last one failed. -/
def andThen
    (done : L0StorageSink Payload × Except StorageError Unit)
    (next :
      L0StorageSink Payload →
      L0StorageSink Payload × Except StorageError Unit) :
    L0StorageSink Payload × Except StorageError Unit :=
  match done with
  | (sink, .ok ()) => next sink
  | (sink, .error failure) => (sink, .error failure)

/-- Flush all families, and then the live publisher. -/
def flushAll
    (sink : L0StorageSink Payload)
    (files : FlushFiles)
    (liveFlushFails : Bool) :
    L0StorageSink Payload × Except StorageError Unit :=
  andThen (sink.flushRaw files) fun afterRaw =>
    andThen (afterRaw.flushHealth files) fun afterHealth =>
      andThen (afterHealth.flushSymbolHealth files) fun afterSymbols =>
        andThen (afterSymbols.flushGap files) fun afterGap =>
          if afterGap.livePublisher && liveFlushFails then
            (afterGap, .error .nats)
          else
            (afterGap, .ok ())

/-- How many records a report counts. -/
def recordCount (sink : L0StorageSink Payload) : Nat :=
  sink.nextOrdinal - 1

end L0StorageSink

end MarketIngest.Storage
