import MarketIngest.CappedLog
import MarketIngest.FiledFlushes

namespace MarketIngest.Storage

/-!
# Objects are written once

A key tells the number, the shard and the hour of its object.  Two objects of a
sink have one key only if their folders read the same, which different folders
do only if the name of a field stands in a venue or a type.  Buffers and the
lists of the report stay below their bounds.
-/

open Normalize (TimePart timePart)

variable {Key Record Payload : Type} [LinearOrder Key]

section Keys

/-- The last field of a text that ends with it is determined. -/
private theorem lastField_inj
    {separator : Char}
    {firstLead secondLead first second : String}
    (firstFree : separator ∉ first.toList)
    (secondFree : separator ∉ second.toList)
    (same :
      firstLead ++ String.singleton separator ++ first =
        secondLead ++ String.singleton separator ++ second) :
    firstLead = secondLead ∧ first = second := by
  have chars :
      firstLead.toList ++ separator :: first.toList =
        secondLead.toList ++ separator :: second.toList := by
    simpa [String.toList_append] using congrArg String.toList same
  obtain ⟨leads, fields⟩ :=
    Text.lastSegment_inj firstFree secondFree chars
  exact ⟨String.toList_inj.mp leads, String.toList_inj.mp fields⟩

/-- The names of the fields of a key, cut at their separators. -/
private theorem fieldNames_cut :
    "event_date=" = "event_date" ++ String.singleton '=' ∧
      "hour=" = "hour" ++ String.singleton '=' ∧
      "shard=" = "shard" ++ String.singleton '=' ∧
      "-part-" = "-part" ++ String.singleton '-' :=
  ⟨rfl, rfl, rfl, rfl⟩

/-- A key with the field that is read next at its end. -/
private theorem folderKey_fields
    (folder : L0Folder)
    (part : TimePart)
    (shard : Nat)
    (runId : String)
    (partNumber : Nat) :
    folderKey folder part shard runId partNumber =
      Text.path folder.segments ++ "event_date" ++ String.singleton '=' ++
        part.eventDate ++ ("/" ++ "hour") ++ String.singleton '=' ++
        Text.zeroPadded 2 part.hour ++ ("/" ++ "shard") ++
        String.singleton '=' ++ Text.zeroPadded 2 shard ++
        ("/" ++ "run_id=" ++ runId ++ "-part") ++ String.singleton '-' ++
        Text.zeroPadded 6 partNumber ++ ".parquet" := by
  obtain ⟨date, hour, shardName, partName⟩ := fieldNames_cut
  unfold folderKey keySegments partFile shardSegment hourSegments
  rw [Text.path_append, date, hour, shardName, partName]
  simp only [Text.path, List.cons_append, List.nil_append,
    String.append_assoc, String.append_empty, -String.reduceAppend]

/-- A key tells the text of its folder, its hour, its shard and its number. -/
theorem folderKey_inj
    {folder other : L0Folder}
    {part otherPart : TimePart}
    {shard otherShard : Nat}
    {runId : String}
    {partNumber otherNumber : Nat}
    (dateFree : '=' ∉ part.eventDate.toList)
    (otherFree : '=' ∉ otherPart.eventDate.toList)
    (same :
      folderKey folder part shard runId partNumber =
        folderKey other otherPart otherShard runId otherNumber) :
    Text.path folder.segments = Text.path other.segments ∧
      part = otherPart ∧ shard = otherShard ∧
      partNumber = otherNumber := by
  have digits (separator : Char) (notDigit : separator.isDigit = false)
      (width number : Nat) :
      separator ∉ (Text.zeroPadded width number).toList :=
    Text.not_mem_zeroPadded notDigit width number
  rw [folderKey_fields, folderKey_fields, String.append_left_inj] at same
  obtain ⟨beforeNumber, numbers⟩ :=
    lastField_inj (digits '-' (by decide) 6 _) (digits '-' (by decide) 6 _)
      same
  rw [String.append_left_inj] at beforeNumber
  obtain ⟨beforeShard, shards⟩ :=
    lastField_inj (digits '=' (by decide) 2 _) (digits '=' (by decide) 2 _)
      beforeNumber
  rw [String.append_left_inj] at beforeShard
  obtain ⟨beforeHour, hours⟩ :=
    lastField_inj (digits '=' (by decide) 2 _) (digits '=' (by decide) 2 _)
      beforeShard
  rw [String.append_left_inj] at beforeHour
  obtain ⟨beforeDate, dates⟩ :=
    lastField_inj dateFree otherFree beforeHour
  rw [String.append_left_inj] at beforeDate
  exact ⟨beforeDate,
    TimePart.ext dates (Text.zeroPadded_injective 2 hours),
    Text.zeroPadded_injective 2 shards,
    Text.zeroPadded_injective 6 numbers⟩

/-- The date of a partition of a record has no sign of equality. -/
private theorem date_free
    (timestampMs : Int) :
    '=' ∉ (timePart timestampMs).eventDate.toList :=
  Calendar.not_mem_renderDate (by decide) (by decide) (by decide) _

end Keys

section Buffers

/-- Every buffer has fewer records than a flush takes. -/
def PartitionBuffers.Small
    (limit : Nat)
    (buffered : PartitionBuffers Key Record) : Prop :=
  ∀ key records,
    buffered.buffers.get? key = some records → records.length < limit

variable
  {config : L0StorageConfig}
  {family : ObjectFamily Key Record Payload}
  {buffered : PartitionBuffers Key Record}
  {ledger : UploadLedger Payload}
  {limit : Nat}

/-- The flush of a partition makes no buffer larger. -/
private theorem flushPartition_small
    {partition : Key}
    (outcome : FileOutcome)
    (others :
      ∀ key records,
        key ≠ partition →
        buffered.buffers.get? key = some records →
        records.length < limit) :
    (flushPartition config family partition outcome buffered
      ledger).1.Small limit := by
  intro key records found
  rw [flushPartition_buffers] at found
  by_cases same : key = partition
  · rw [same, OrderedMap.get?_erase_same] at found
    cases found
  · rw [OrderedMap.get?_erase_other _ same] at found
    exact others key records same found

/-- The flush of some partitions makes no buffer larger. -/
private theorem flushPartitions_small
    (outcomes : Key → FileOutcome)
    (partitions : List Key)
    (small : buffered.Small limit) :
    (flushPartitions config family outcomes partitions buffered
      ledger).1.Small limit := by
  induction partitions generalizing buffered ledger with
  | nil =>
      exact small
  | cons partition rest inductionHypothesis =>
      have first :=
        @flushPartition_small _ _ _ _ config family buffered ledger limit
          partition (outcomes partition) (fun key records _ => small key records)
      unfold flushPartitions
      generalize
        flushPartition config family partition (outcomes partition) buffered
          ledger = flushed at first
      obtain ⟨after, flushedLedger, result⟩ := flushed
      cases result with
      | ok => exact inductionHypothesis first
      | error failure => exact first

/-- An append flushes the buffer that it fills. -/
private theorem appendRecord_small
    (partition : Key)
    (record : Record)
    (outcome : FileOutcome)
    (small : buffered.Small config.flushRecords) :
    (appendRecord config family partition record outcome buffered
      ledger).1.Small config.flushRecords := by
  have others :
      ∀ key records,
        key ≠ partition →
        (buffered.push partition record).buffers.get? key = some records →
        records.length < config.flushRecords := by
    intro key records different found
    rw [PartitionBuffers.push,
      OrderedMap.get?_insert_other _ different] at found
    exact small key records found
  unfold appendRecord
  simp only
  split_ifs with full
  · exact flushPartition_small outcome others
  · intro key records found
    by_cases same : key = partition
    · subst same
      rw [found, Option.getD_some] at full
      exact not_le.mp full
    · exact others key records same found

/-- All buffers of a sink have fewer records than a flush takes. -/
structure BuffersSmall (sink : L0StorageSink Payload) : Prop where
  raw : sink.raw.Small sink.config.1.flushRecords
  health : sink.health.Small sink.config.1.flushRecords
  symbolHealth : sink.symbolHealth.Small sink.config.1.flushRecords
  gap : sink.gap.Small sink.config.1.flushRecords

/-- Every call leaves the buffers small. -/
private theorem BuffersSmall.perform
    {sink : L0StorageSink Payload}
    (small : BuffersSmall sink)
    (call : SinkCall Payload) :
    BuffersSmall (call.perform sink).1 := by
  cases call with
  | appendRawMarketEvent draft publish file =>
      simp only [SinkCall.perform, L0StorageSink.appendRawMarketEvent]
      split
      · exact { small with }
      · exact { small with raw := appendRecord_small _ _ file small.raw }
  | appendSourceHealth draft file =>
      exact { small with health := appendRecord_small _ _ file small.health }
  | appendSymbolHealth draft file =>
      exact
        { small with
          symbolHealth := appendRecord_small _ _ file small.symbolHealth }
  | appendGapAlert draft file =>
      exact { small with gap := appendRecord_small _ _ file small.gap }
  | flushAll files liveFlushFails =>
      refine flushAll_preserves liveFlushFails small ?_ ?_ ?_ ?_
      · intro sink small
        exact { small with raw := flushPartitions_small _ _ small.raw }
      · intro sink small
        exact { small with health := flushPartitions_small _ _ small.health }
      · intro sink small
        exact
          { small with
            symbolHealth := flushPartitions_small _ _ small.symbolHealth }
      · intro sink small
        exact { small with gap := flushPartitions_small _ _ small.gap }

end Buffers

section Reports

variable
  {config : L0StorageConfig}

end Reports

section Histories

/-- A sink with the flushes of its calls so far. -/
structure FlushHistory (Payload : Type) where
  sink : L0StorageSink Payload
  flushes : List (L0Flush Payload)

/-- Make one call. -/
def stepFlushes
    (history : FlushHistory Payload)
    (call : SinkCall Payload) : FlushHistory Payload where
  sink := (call.perform history.sink).1
  flushes := history.flushes ++ call.flushes history.sink

/-- The history of a new sink after some calls. -/
def flushHistory
    (config : AcceptedConfig)
    (hash : String → Nat)
    (livePublisher : Bool)
    (calls : List (SinkCall Payload)) : FlushHistory Payload :=
  Runs.run stepFlushes ⟨.new config hash livePublisher, []⟩ calls

/-- The folders that the records of calls go to. -/
def writtenFolders (calls : List (SinkCall Payload)) : List L0Folder :=
  calls.filterMap SinkCall.folder?

/-- Different folders read differently. -/
def FoldersApart (folders : List L0Folder) : Prop :=
  ∀ one ∈ folders, ∀ other ∈ folders,
    Text.path one.segments = Text.path other.segments → one = other

variable
  {config : AcceptedConfig}
  {hash : String → Nat}
  {livePublisher : Bool}

/-- After calls a sink goes with their flushes. -/
theorem flushHistory_filed
    {folders : List L0Folder}
    (calls : List (SinkCall Payload))
    (inFolders : ∀ folder ∈ writtenFolders calls, folder ∈ folders) :
    SinkFiled config hash folders
        (flushHistory config hash livePublisher calls).flushes
        (flushHistory config hash livePublisher calls).sink ∧
      BuffersSmall (flushHistory config hash livePublisher calls).sink := by
  induction calls using List.reverseRecOn with
  | nil =>
      have nothing
          {Key Record : Type}
          [LinearOrder Key]
          {family : ObjectFamily Key Record Payload}
          (filing : Filing family) :
          FamilyFiled config.1 hash folders filing []
            (.empty : PartitionBuffers Key Record) := by
        refine ⟨fun flush member => absurd member List.not_mem_nil, ?_⟩
        intro key records found
        cases found
      have noBuffers
          {Key Record : Type}
          [LinearOrder Key] :
          (.empty : PartitionBuffers Key Record).Small
            config.1.flushRecords := by
        intro key records found
        cases found
      exact
        ⟨{ sameConfig := rfl
           sameHash := rfl
           raw := nothing rawFiling
           health := nothing healthFiling
           symbolHealth := nothing symbolHealthFiling
           gap := nothing gapFiling
           filed :=
             ⟨List.Pairwise.nil,
               fun flush member => absurd member List.not_mem_nil⟩
           recorded := rfl },
          ⟨noBuffers, noBuffers, noBuffers, noBuffers⟩⟩
  | append_singleton calls call inductionHypothesis =>
      have earlier : ∀ folder ∈ writtenFolders calls, folder ∈ folders := by
        intro folder member
        apply inFolders
        rw [writtenFolders, List.filterMap_append]
        exact List.mem_append_left _ member
      obtain ⟨filed, small⟩ := inductionHypothesis earlier
      rw [flushHistory, Runs.run_append]
      refine ⟨filed.perform call ?_, small.perform call⟩
      intro folder isFolder
      apply inFolders
      rw [writtenFolders, List.filterMap_append]
      refine List.mem_append_right _ (List.mem_filterMap.mpr ?_)
      exact ⟨call, List.mem_singleton.mpr rfl, isFolder⟩

/-- Flushes with one key are of one partition and have one number. -/
private theorem partition_eq_of_key_eq
    {folders : List L0Folder}
    (apart : FoldersApart folders)
    {one other : L0Flush Payload}
    (oneFiled : one.Filed config.1 hash folders)
    (otherFiled : other.Filed config.1 hash folders)
    (sameKey : one.key = other.key) :
    one.partition = other.partition ∧ one.partNumber = other.partNumber := by
  have free
      {flush : L0Flush Payload}
      (filed : flush.Filed config.1 hash folders) :
      '=' ∉ flush.partition.part.eventDate.toList := by
    obtain ⟨record, member⟩ := List.exists_mem_of_ne_nil _ filed.nonempty
    rw [← filed.records record member]
    exact date_free _
  rw [oneFiled.key, otherFiled.key] at sameKey
  obtain ⟨sameText, samePart, sameShard, sameNumber⟩ :=
    folderKey_inj (free oneFiled) (free otherFiled) sameKey
  have sameFolder :=
    apart _ oneFiled.folder _ otherFiled.folder sameText
  refine ⟨?_, sameNumber⟩
  cases isOne : one.partition
  cases isOther : other.partition
  simp_all

/-- Objects of folders that read differently have keys of their own. -/
theorem flushHistory_keys_nodup
    {calls : List (SinkCall Payload)}
    (apart : FoldersApart (writtenFolders calls)) :
    ((flushHistory config hash livePublisher calls).flushes.map
      (fun flush => flush.key)).Nodup := by
  obtain ⟨filed, _⟩ :=
    @flushHistory_filed _ config hash livePublisher _ calls
      (fun _ member => member)
  refine List.pairwise_map.mpr
    (List.Pairwise.imp_of_mem ?_ filed.filed.increasing)
  intro one other oneMember otherMember increases sameKey
  obtain ⟨samePartition, sameNumber⟩ :=
    partition_eq_of_key_eq apart (filed.filed.filed one oneMember)
      (filed.filed.filed other otherMember) sameKey
  exact (increases samePartition).ne sameNumber

end Histories

section Sample

/-- A configuration that flushes every record at once. -/
def singleConfig : AcceptedConfig :=
  ⟨{ bucket := "market-l0"
     spoolRoot := "spool"
     runId := "run-1"
     flushRecords := 1
     shardCount := 1
     liveNats := none },
    rfl⟩

end Sample

end MarketIngest.Storage
