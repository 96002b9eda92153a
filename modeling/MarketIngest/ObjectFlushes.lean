import MarketIngest.L0Keys
import MarketIngest.SinkConservation

namespace MarketIngest.Storage

/-!
# The objects of a sink

Every flush of a buffer gives an object a number and a key, also when its file
is then not written or not uploaded.  The flushes of a call, in their order,
tell the story of its objects: the ledger of the sink is what they record.
-/

open Normalize (TimePart timePart)

variable {Key Record Payload : Type} [LinearOrder Key]

/-- Where records of any family are filed. -/
structure L0Partition where
  folder : L0Folder
  part : TimePart
  shard : Nat
  deriving DecidableEq

/-- The key of an object of a partition. -/
def L0Partition.objectKey
    (partition : L0Partition)
    (runId : String)
    (partNumber : Nat) : String :=
  folderKey partition.folder partition.part partition.shard runId partNumber

/-- The partition of a record. -/
def L0Record.partition
    (hash : String → Nat)
    (shardCount : Nat)
    (record : L0Record Payload) : L0Partition where
  folder := record.folder
  part := timePart record.timeMs
  shard := shardFor hash record.shardText shardCount

/-- How the partitions of one family are partitions of all families. -/
structure Filing (family : ObjectFamily Key Record Payload) where
  partitionOf : Key → L0Partition
  injective : Function.Injective partitionOf
  family_eq : ∀ key, (partitionOf key).folder.family = family.name
  objectKey_eq :
    ∀ key runId partNumber,
      family.objectKey key runId partNumber =
        (partitionOf key).objectKey runId partNumber

/-- Raw market events are filed by venue and type. -/
def rawPartition (key : RawPartitionKey) : L0Partition where
  folder := .raw key.venue key.eventType
  part := ⟨key.eventDate, key.hour⟩
  shard := key.shard

/-- Source health is filed by venue. -/
def healthPartition (key : HealthPartitionKey) : L0Partition where
  folder := .sourceHealth key.venue
  part := ⟨key.eventDate, key.hour⟩
  shard := key.shard

/-- Symbol health is filed by venue. -/
def symbolHealthPartition (key : SymbolHealthPartitionKey) : L0Partition where
  folder := .symbolHealth key.venue
  part := ⟨key.eventDate, key.hour⟩
  shard := key.shard

/-- Gap alerts are filed by venue and type. -/
def gapPartition (key : GapPartitionKey) : L0Partition where
  folder := .gap key.venue key.gapType
  part := ⟨key.eventDate, key.hour⟩
  shard := key.shard

/-- Partitions of raw market events are told apart. -/
private theorem rawPartition_injective :
    Function.Injective rawPartition := by
  rintro ⟨⟩ ⟨⟩ same
  simpa [rawPartition, and_assoc] using same

/-- Partitions of source health are told apart. -/
private theorem healthPartition_injective :
    Function.Injective healthPartition := by
  rintro ⟨⟩ ⟨⟩ same
  simpa [healthPartition, and_assoc] using same

/-- Partitions of symbol health are told apart. -/
private theorem symbolHealthPartition_injective :
    Function.Injective symbolHealthPartition := by
  rintro ⟨⟩ ⟨⟩ same
  simpa [symbolHealthPartition, and_assoc] using same

/-- Partitions of gap alerts are told apart. -/
private theorem gapPartition_injective :
    Function.Injective gapPartition := by
  rintro ⟨⟩ ⟨⟩ same
  simpa [gapPartition, and_assoc] using same

/-- How raw market events are filed. -/
def rawFiling :
    Filing (rawFamily : ObjectFamily _ _ Payload) where
  partitionOf := rawPartition
  injective := rawPartition_injective
  family_eq := fun _ => rfl
  objectKey_eq := fun key runId partNumber =>
    rawObjectKey_eq runId partNumber key

/-- How source health are filed. -/
def healthFiling :
    Filing (healthFamily : ObjectFamily _ _ Payload) where
  partitionOf := healthPartition
  injective := healthPartition_injective
  family_eq := fun _ => rfl
  objectKey_eq := fun key runId partNumber =>
    healthObjectKey_eq runId partNumber key

/-- How symbol health are filed. -/
def symbolHealthFiling :
    Filing (symbolHealthFamily : ObjectFamily _ _ Payload) where
  partitionOf := symbolHealthPartition
  injective := symbolHealthPartition_injective
  family_eq := fun _ => rfl
  objectKey_eq := fun key runId partNumber =>
    symbolHealthObjectKey_eq runId partNumber key

/-- How gap alerts are filed. -/
def gapFiling :
    Filing (gapFamily : ObjectFamily _ _ Payload) where
  partitionOf := gapPartition
  injective := gapPartition_injective
  family_eq := fun _ => rfl
  objectKey_eq := fun key runId partNumber =>
    gapObjectKey_eq runId partNumber key

/-- The flush of a buffer that had records. -/
structure L0Flush (Payload : Type) where
  partition : L0Partition
  partNumber : Nat
  key : String
  records : List (L0Record Payload)
  outcome : FileOutcome

section Families

variable
  (config : L0StorageConfig)
  {family : ObjectFamily Key Record Payload}
  (filing : Filing family)

/-- What the flush of a partition flushes. -/
def partitionFlushes
    (partition : Key)
    (outcome : FileOutcome)
    (buffered : PartitionBuffers Key Record) : List (L0Flush Payload) :=
  match buffered.buffers.get? partition with
  | none => []
  | some records =>
      if records.isEmpty then
        []
      else
        let partNumber :=
          (nextPartNumber buffered.partNumbers partition).1
        [{ partition := filing.partitionOf partition
           partNumber := partNumber
           key := family.objectKey partition config.runId partNumber
           records := records.map family.toRecord
           outcome := outcome }]

/-- What the append of a record flushes. -/
def appendFlushes
    (partition : Key)
    (record : Record)
    (outcome : FileOutcome)
    (buffered : PartitionBuffers Key Record) : List (L0Flush Payload) :=
  let pushed := buffered.push partition record
  if ((pushed.buffers.get? partition).getD []).length ≥
      config.flushRecords then
    partitionFlushes config filing partition outcome pushed
  else
    []

/-- What the flush of some partitions flushes, up to the first failure. -/
def partitionsFlushes
    (outcomes : Key → FileOutcome) :
    List Key →
    PartitionBuffers Key Record →
    UploadLedger Payload →
    List (L0Flush Payload)
  | [], _, _ => []
  | partition :: rest, buffered, ledger =>
      partitionFlushes config filing partition (outcomes partition)
          buffered ++
        match flushPartition config family partition (outcomes partition)
            buffered ledger with
        | (after, flushedLedger, .ok ()) =>
            partitionsFlushes outcomes rest after flushedLedger
        | (_, _, .error _) => []

/-- What a flush records in the ledger. -/
def recordFlush
    (ledger : UploadLedger Payload)
    (flush : L0Flush Payload) : UploadLedger Payload :=
  match flush.outcome with
  | .directoryFailed => ledger
  | .parquetFailed => ledger
  | .uploadFailed error =>
      ledger.recordFailedUpload
        { objectFamily := flush.partition.folder.family
          key := flush.key
          discardedLocalPath := localPath config flush.key
          recordCount := flush.records.length
          error := error }
        flush.records
  | .uploaded =>
      ledger.recordUploadedObject
        { objectFamily := flush.partition.folder.family
          key := flush.key
          localPath := localPath config flush.key
          recordCount := flush.records.length }
        flush.records

end Families

section Calls

open L0StorageSink

/-- What a later step flushes, unless the earlier one failed. -/
def flushesAfter
    (done : L0StorageSink Payload × Except StorageError Unit)
    (next : L0StorageSink Payload → List (L0Flush Payload)) :
    List (L0Flush Payload) :=
  match done with
  | (sink, .ok ()) => next sink
  | (_, .error _) => []

/-- What the flush of all families flushes. -/
def flushAllFlushes
    (sink : L0StorageSink Payload)
    (files : FlushFiles) : List (L0Flush Payload) :=
  partitionsFlushes sink.config.1 rawFiling files.raw
      sink.raw.buffers.keys sink.raw sink.ledger ++
    flushesAfter (sink.flushRaw files) fun afterRaw =>
      partitionsFlushes afterRaw.config.1 healthFiling files.health
          afterRaw.health.buffers.keys afterRaw.health afterRaw.ledger ++
        flushesAfter (afterRaw.flushHealth files) fun afterHealth =>
          partitionsFlushes afterHealth.config.1 symbolHealthFiling
              files.symbolHealth afterHealth.symbolHealth.buffers.keys
              afterHealth.symbolHealth afterHealth.ledger ++
            flushesAfter (afterHealth.flushSymbolHealth files)
              fun afterSymbols =>
                partitionsFlushes afterSymbols.config.1 gapFiling files.gap
                  afterSymbols.gap.buffers.keys afterSymbols.gap
                  afterSymbols.ledger

/-- What a call flushes. -/
def SinkCall.flushes
    (sink : L0StorageSink Payload) :
    SinkCall Payload → List (L0Flush Payload)
  | .appendRawMarketEvent draft publish file =>
      let record :=
        RawMarketEventRecord.fromDraft draft sink.config.1.runId
          sink.nextOrdinal
      match sink.publishLiveTick publish with
      | .error _ => []
      | .ok () =>
          appendFlushes sink.config.1 rawFiling
            (rawPartitionFor sink.hash record sink.config.1.shardCount)
            record file sink.raw
  | .appendSourceHealth draft file =>
      let record :=
        SourceHealthRecord.fromDraft draft sink.config.1.runId
          sink.nextOrdinal
      appendFlushes sink.config.1 healthFiling
        (healthPartitionFor sink.hash record sink.config.1.shardCount)
        record file sink.health
  | .appendSymbolHealth draft file =>
      let record :=
        SymbolHealthRecord.fromDraft draft sink.config.1.runId
          sink.nextOrdinal
      appendFlushes sink.config.1 symbolHealthFiling
        (symbolHealthPartitionFor sink.hash record sink.config.1.shardCount)
        record file sink.symbolHealth
  | .appendGapAlert draft file =>
      let record :=
        GapAlertRecord.fromDraft draft sink.config.1.runId sink.nextOrdinal
      appendFlushes sink.config.1 gapFiling
        (gapPartitionFor sink.hash record sink.config.1.shardCount)
        record file sink.gap
  | .flushAll files _ => flushAllFlushes sink files

end Calls

end MarketIngest.Storage
