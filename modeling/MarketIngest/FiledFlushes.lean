import MarketIngest.ObjectFlushes

namespace MarketIngest.Storage

/-!
# Flushes by partition

Part numbers of a partition ascend, whatever becomes of the files, and the
records of a flush belong to its partition.  The invariant of a family relates
its buffers and counters to the flushes so far; a step of one family does not
concern the others.
-/

variable {Key Record Payload : Type} [LinearOrder Key]

section Families

/-- The flush is that of records of its partition, under its key. -/
structure L0Flush.Filed
    (config : L0StorageConfig)
    (hash : String → Nat)
    (folders : List L0Folder)
    (flush : L0Flush Payload) : Prop where
  key :
    flush.key = flush.partition.objectKey config.runId flush.partNumber
  nonempty : flush.records ≠ []
  records :
    ∀ record ∈ flush.records,
      record.partition hash config.shardCount = flush.partition
  folder : flush.partition.folder ∈ folders

/-- Flushes are filed, and the numbers of a partition ascend. -/
structure FlushesFiled
    (config : L0StorageConfig)
    (hash : String → Nat)
    (folders : List L0Folder)
    (flushes : List (L0Flush Payload)) : Prop where
  increasing :
    flushes.Pairwise (fun one other =>
      one.partition = other.partition → one.partNumber < other.partNumber)
  filed : ∀ flush ∈ flushes, flush.Filed config hash folders

variable
  {config : L0StorageConfig}
  {hash : String → Nat}
  {folders : List L0Folder}
  {family : ObjectFamily Key Record Payload}
  {filing : Filing family}

/-- The buffers of a family go with the flushes so far. -/
structure FamilyFiled
    (config : L0StorageConfig)
    (hash : String → Nat)
    (folders : List L0Folder)
    (filing : Filing family)
    (flushes : List (L0Flush Payload))
    (buffered : PartitionBuffers Key Record) : Prop where
  numbered :
    ∀ flush ∈ flushes, ∀ key,
      flush.partition = filing.partitionOf key →
      flush.partNumber ≤ (buffered.partNumbers.get? key).getD 0
  belong :
    ∀ key records,
      buffered.buffers.get? key = some records →
      (∀ record ∈ records,
        (family.toRecord record).partition hash config.shardCount =
          filing.partitionOf key) ∧
      (filing.partitionOf key).folder ∈ folders

/-- A step of a family that flushes something keeps everything filed. -/
structure Progress
    (config : L0StorageConfig)
    (hash : String → Nat)
    (folders : List L0Folder)
    (filing : Filing family)
    (flushed : List (L0Flush Payload))
    (before after : PartitionBuffers Key Record)
    (ledger later : UploadLedger Payload) : Prop where
  filed :
    ∀ flushes,
      FamilyFiled config hash folders filing flushes before →
      FlushesFiled config hash folders flushes →
      FamilyFiled config hash folders filing (flushes ++ flushed) after ∧
        FlushesFiled config hash folders (flushes ++ flushed)
  own : ∀ flush ∈ flushed, flush.partition.folder.family = family.name
  recorded : later = flushed.foldl (recordFlush config) ledger

/-- Steps of a family follow one another. -/
theorem Progress.trans
    {flushed more : List (L0Flush Payload)}
    {before between after : PartitionBuffers Key Record}
    {ledger middle later : UploadLedger Payload}
    (first :
      Progress config hash folders filing flushed before between ledger
        middle)
    (second :
      Progress config hash folders filing more between after middle later) :
    Progress config hash folders filing (flushed ++ more) before after
      ledger later where
  filed := by
    intro flushes familyFiled flushesFiled
    obtain ⟨familyBetween, flushesBetween⟩ :=
      first.filed flushes familyFiled flushesFiled
    rw [← List.append_assoc]
    exact second.filed _ familyBetween flushesBetween
  own := by
    intro flush member
    rcases List.mem_append.mp member with inFirst | inSecond
    · exact first.own flush inFirst
    · exact second.own flush inSecond
  recorded := by
    rw [second.recorded, first.recorded, List.foldl_append]

/-- A step that flushes nothing and only takes buffers away. -/
private theorem progress_of_less
    {before after : PartitionBuffers Key Record}
    {ledger : UploadLedger Payload}
    (sameNumbers : after.partNumbers = before.partNumbers)
    (less :
      ∀ key records,
        after.buffers.get? key = some records →
        before.buffers.get? key = some records) :
    Progress config hash folders filing [] before after ledger ledger where
  filed := by
    intro flushes familyFiled flushesFiled
    rw [List.append_nil]
    refine ⟨⟨?_, ?_⟩, flushesFiled⟩
    · rw [sameNumbers]
      exact familyFiled.numbered
    · intro key records found
      exact familyFiled.belong key records (less key records found)
  own := by
    intro flush member
    cases member
  recorded := rfl

/-- Buffers that survive the removal of one were there before. -/
private theorem get?_of_erased
    {buffered : PartitionBuffers Key Record}
    {partition key : Key}
    {records : List Record}
    (found :
      (buffered.buffers.erase partition).get? key = some records) :
    buffered.buffers.get? key = some records := by
  by_cases same : key = partition
  · rw [same, OrderedMap.get?_erase_same] at found
    cases found
  · rwa [OrderedMap.get?_erase_other _ same] at found

/-- Giving an object the next number keeps everything filed. -/
private theorem filed_of_numbered
    {partition : Key}
    {records : List Record}
    {buffered : PartitionBuffers Key Record}
    (waiting : buffered.buffers.get? partition = some records)
    (nonempty : records ≠ [])
    (outcome : FileOutcome)
    {flushes : List (L0Flush Payload)}
    (familyFiled :
      FamilyFiled config hash folders filing flushes buffered)
    (flushesFiled : FlushesFiled config hash folders flushes) :
    let partNumber := (nextPartNumber buffered.partNumbers partition).1
    let partNumbers := (nextPartNumber buffered.partNumbers partition).2
    let flush : L0Flush Payload :=
      { partition := filing.partitionOf partition
        partNumber := partNumber
        key := family.objectKey partition config.runId partNumber
        records := records.map family.toRecord
        outcome := outcome }
    FamilyFiled config hash folders filing (flushes ++ [flush])
        ⟨buffered.buffers.erase partition, partNumbers⟩ ∧
      FlushesFiled config hash folders (flushes ++ [flush]) := by
  intro partNumber partNumbers flush
  obtain ⟨recordsBelong, inFolders⟩ :=
    familyFiled.belong partition records waiting
  have below :
      ∀ earlier ∈ flushes,
        earlier.partition = filing.partitionOf partition →
        earlier.partNumber < partNumber := by
    intro earlier member samePartition
    exact Nat.lt_succ_of_le
      (familyFiled.numbered earlier member partition samePartition)
  refine ⟨⟨?_, ?_⟩, ⟨?_, ?_⟩⟩
  · intro earlier member key samePartition
    change earlier.partNumber ≤
      ((buffered.partNumbers.insert partition partNumber).get? key).getD 0
    rw [OrderedMap.get?_insert]
    rcases List.mem_append.mp member with old | new
    · split_ifs with same
      · exact (below earlier old (same ▸ samePartition)).le
      · exact familyFiled.numbered earlier old key samePartition
    · rw [List.mem_singleton.mp new] at samePartition ⊢
      rw [if_pos (filing.injective samePartition.symm)]
      exact Nat.le_refl partNumber
  · intro key others found
    exact familyFiled.belong key others (get?_of_erased found)
  · refine List.pairwise_append.mpr
      ⟨flushesFiled.increasing, List.pairwise_singleton _ _, ?_⟩
    intro earlier member later isLast samePartition
    rw [List.mem_singleton.mp isLast] at samePartition ⊢
    exact below earlier member samePartition
  · intro other member
    rcases List.mem_append.mp member with old | new
    · exact flushesFiled.filed other old
    · rw [List.mem_singleton.mp new]
      refine ⟨filing.objectKey_eq _ _ _, ?_, ?_, inFolders⟩
      · exact fun isNil => nonempty (List.map_eq_nil_iff.mp isNil)
      · intro record inRecords
        obtain ⟨source, inBuffer, rfl⟩ := List.mem_map.mp inRecords
        exact recordsBelong source inBuffer

/-- The flush of a partition keeps everything filed. -/
theorem flushPartition_progress
    (partition : Key)
    (outcome : FileOutcome)
    (buffered : PartitionBuffers Key Record)
    (ledger : UploadLedger Payload) :
    Progress config hash folders filing
      (partitionFlushes config filing partition outcome buffered)
      buffered
      (flushPartition config family partition outcome buffered ledger).1
      ledger
      (flushPartition config family partition outcome buffered
        ledger).2.1 := by
  unfold partitionFlushes flushPartition
  cases waiting : buffered.buffers.get? partition with
  | none =>
      exact progress_of_less rfl (fun _ _ found => found)
  | some records =>
      simp only
      split_ifs with nothing
      · exact progress_of_less rfl (fun _ _ => get?_of_erased)
      · have nonempty : records ≠ [] :=
          fun isNil => nothing (by rw [isNil]; rfl)
        constructor
        · intro flushes familyFiled flushesFiled
          have filed :=
            filed_of_numbered waiting nonempty outcome familyFiled
              flushesFiled
          cases outcome <;> exact filed
        · intro flush member
          rw [List.mem_singleton.mp member]
          exact filing.family_eq partition
        · cases outcome <;>
            simp [recordFlush, upload, filing.family_eq]

/-- The flushes of some partitions keep everything filed. -/
theorem flushPartitions_progress
    (outcomes : Key → FileOutcome)
    (partitions : List Key)
    (buffered : PartitionBuffers Key Record)
    (ledger : UploadLedger Payload) :
    Progress config hash folders filing
      (partitionsFlushes config filing outcomes partitions buffered ledger)
      buffered
      (flushPartitions config family outcomes partitions buffered ledger).1
      ledger
      (flushPartitions config family outcomes partitions buffered
        ledger).2.1 := by
  induction partitions generalizing buffered ledger with
  | nil =>
      exact progress_of_less rfl (fun _ _ found => found)
  | cons partition rest inductionHypothesis =>
      have first :=
        @flushPartition_progress _ _ _ _ config hash folders family filing
          partition (outcomes partition) buffered ledger
      unfold partitionsFlushes flushPartitions
      cases flushed :
          flushPartition config family partition (outcomes partition)
            buffered ledger with
      | mk after flushedRest =>
          obtain ⟨flushedLedger, result⟩ := flushedRest
          rw [flushed] at first
          cases result with
          | ok done =>
              exact first.trans (inductionHypothesis after flushedLedger)
          | error failure =>
              rw [List.append_nil]
              exact first

/-- The append of a record of its partition keeps everything filed. -/
theorem appendRecord_progress
    {partition : Key}
    {record : Record}
    (belongs :
      (family.toRecord record).partition hash config.shardCount =
        filing.partitionOf partition)
    (inFolders : (filing.partitionOf partition).folder ∈ folders)
    (outcome : FileOutcome)
    (buffered : PartitionBuffers Key Record)
    (ledger : UploadLedger Payload) :
    Progress config hash folders filing
      (appendFlushes config filing partition record outcome buffered)
      buffered
      (appendRecord config family partition record outcome buffered
        ledger).1
      ledger
      (appendRecord config family partition record outcome buffered
        ledger).2.1 := by
  have pushed :
      Progress config hash folders filing [] buffered
        (buffered.push partition record) ledger ledger := by
    constructor
    · intro flushes familyFiled flushesFiled
      rw [List.append_nil]
      refine ⟨⟨familyFiled.numbered, ?_⟩, flushesFiled⟩
      intro key records found
      rw [PartitionBuffers.push, OrderedMap.get?_insert] at found
      split_ifs at found with same
      · cases found
        rw [same]
        refine ⟨?_, inFolders⟩
        intro other member
        rcases List.mem_append.mp member with old | new
        · cases waiting : buffered.buffers.get? partition with
          | none =>
              rw [waiting] at old
              cases old
          | some records =>
              rw [waiting] at old
              exact (familyFiled.belong partition records waiting).1 other
                old
        · rw [List.mem_singleton.mp new]
          exact belongs
      · exact familyFiled.belong key records found
    · intro flush member
      cases member
    · rfl
  unfold appendFlushes appendRecord
  simp only
  split_ifs
  · exact pushed.trans (flushPartition_progress partition outcome _ ledger)
  · exact pushed

end Families

section Sinks

open L0StorageSink

variable
  {config : AcceptedConfig}
  {hash : String → Nat}
  {folders : List L0Folder}
  {flushes : List (L0Flush Payload)}
  {sink : L0StorageSink Payload}

/-- The flushes of another family do not concern a family. -/
private theorem FamilyFiled.frame
    {family : ObjectFamily Key Record Payload}
    {filing : Filing family}
    {buffered : PartitionBuffers Key Record}
    (familyFiled :
      FamilyFiled config.1 hash folders filing flushes buffered)
    {other : String}
    (different : other ≠ family.name)
    {flushed : List (L0Flush Payload)}
    (own : ∀ flush ∈ flushed, flush.partition.folder.family = other) :
    FamilyFiled config.1 hash folders filing (flushes ++ flushed)
      buffered where
  numbered := by
    intro flush member key samePartition
    rcases List.mem_append.mp member with old | new
    · exact familyFiled.numbered flush old key samePartition
    · have isOther := own flush new
      rw [samePartition, filing.family_eq] at isOther
      exact absurd isOther.symm different
  belong := familyFiled.belong

/-- A sink goes with the flushes of its calls so far. -/
structure SinkFiled
    (config : AcceptedConfig)
    (hash : String → Nat)
    (folders : List L0Folder)
    (flushes : List (L0Flush Payload))
    (sink : L0StorageSink Payload) : Prop where
  sameConfig : sink.config = config
  sameHash : sink.hash = hash
  raw : FamilyFiled config.1 hash folders rawFiling flushes sink.raw
  health : FamilyFiled config.1 hash folders healthFiling flushes sink.health
  symbolHealth :
    FamilyFiled config.1 hash folders symbolHealthFiling flushes
      sink.symbolHealth
  gap : FamilyFiled config.1 hash folders gapFiling flushes sink.gap
  filed : FlushesFiled config.1 hash folders flushes
  recorded : sink.ledger = flushes.foldl (recordFlush config.1) .empty

variable
  {flushed : List (L0Flush Payload)}
  {ledger : UploadLedger Payload}
  {nextOrdinal : Nat}

/-- A step of the raw market events keeps the sink filed. -/
private theorem SinkFiled.raw_progress
    (filed : SinkFiled config hash folders flushes sink)
    {raw : PartitionBuffers _ _}
    (progress :
      Progress config.1 hash folders rawFiling flushed sink.raw raw
        sink.ledger ledger) :
    SinkFiled config hash folders (flushes ++ flushed)
      { sink with raw := raw, ledger := ledger, nextOrdinal := nextOrdinal } where
  sameConfig := filed.sameConfig
  sameHash := filed.sameHash
  raw := (progress.filed flushes filed.raw filed.filed).1
  health :=
    filed.health.frame (by simp [rawFamily, healthFamily])
      progress.own
  symbolHealth :=
    filed.symbolHealth.frame (by simp [rawFamily, symbolHealthFamily])
      progress.own
  gap :=
    filed.gap.frame (by simp [rawFamily, gapFamily])
      progress.own
  filed := (progress.filed flushes filed.raw filed.filed).2
  recorded := by
    rw [List.foldl_append, ← filed.recorded]
    exact progress.recorded

/-- A step of the source health keeps the sink filed. -/
private theorem SinkFiled.health_progress
    (filed : SinkFiled config hash folders flushes sink)
    {health : PartitionBuffers _ _}
    (progress :
      Progress config.1 hash folders healthFiling flushed sink.health health
        sink.ledger ledger) :
    SinkFiled config hash folders (flushes ++ flushed)
      { sink with
        health := health, ledger := ledger, nextOrdinal := nextOrdinal } where
  sameConfig := filed.sameConfig
  sameHash := filed.sameHash
  raw :=
    filed.raw.frame (by simp [healthFamily, rawFamily])
      progress.own
  health := (progress.filed flushes filed.health filed.filed).1
  symbolHealth :=
    filed.symbolHealth.frame (by simp [healthFamily, symbolHealthFamily])
      progress.own
  gap :=
    filed.gap.frame (by simp [healthFamily, gapFamily])
      progress.own
  filed := (progress.filed flushes filed.health filed.filed).2
  recorded := by
    rw [List.foldl_append, ← filed.recorded]
    exact progress.recorded

/-- A step of the symbol health keeps the sink filed. -/
private theorem SinkFiled.symbolHealth_progress
    (filed : SinkFiled config hash folders flushes sink)
    {symbolHealth : PartitionBuffers _ _}
    (progress :
      Progress config.1 hash folders symbolHealthFiling flushed
        sink.symbolHealth symbolHealth sink.ledger ledger) :
    SinkFiled config hash folders (flushes ++ flushed)
      { sink with
        symbolHealth := symbolHealth
        ledger := ledger
        nextOrdinal := nextOrdinal } where
  sameConfig := filed.sameConfig
  sameHash := filed.sameHash
  raw :=
    filed.raw.frame (by simp [symbolHealthFamily, rawFamily])
      progress.own
  health :=
    filed.health.frame (by simp [symbolHealthFamily, healthFamily])
      progress.own
  symbolHealth :=
    (progress.filed flushes filed.symbolHealth filed.filed).1
  gap :=
    filed.gap.frame (by simp [symbolHealthFamily, gapFamily])
      progress.own
  filed := (progress.filed flushes filed.symbolHealth filed.filed).2
  recorded := by
    rw [List.foldl_append, ← filed.recorded]
    exact progress.recorded

/-- A step of the gap alerts keeps the sink filed. -/
private theorem SinkFiled.gap_progress
    (filed : SinkFiled config hash folders flushes sink)
    {gap : PartitionBuffers _ _}
    (progress :
      Progress config.1 hash folders gapFiling flushed sink.gap gap
        sink.ledger ledger) :
    SinkFiled config hash folders (flushes ++ flushed)
      { sink with gap := gap, ledger := ledger, nextOrdinal := nextOrdinal } where
  sameConfig := filed.sameConfig
  sameHash := filed.sameHash
  raw :=
    filed.raw.frame (by simp [gapFamily, rawFamily])
      progress.own
  health :=
    filed.health.frame (by simp [gapFamily, healthFamily])
      progress.own
  symbolHealth :=
    filed.symbolHealth.frame (by simp [gapFamily, symbolHealthFamily])
      progress.own
  gap := (progress.filed flushes filed.gap filed.filed).1
  filed := (progress.filed flushes filed.gap filed.filed).2
  recorded := by
    rw [List.foldl_append, ← filed.recorded]
    exact progress.recorded

/-- A step that is continued unless it fails keeps the sink filed. -/
private theorem SinkFiled.andThen
    {done : L0StorageSink Payload × Except StorageError Unit}
    {next :
      L0StorageSink Payload →
      L0StorageSink Payload × Except StorageError Unit}
    {nextFlushes : L0StorageSink Payload → List (L0Flush Payload)}
    (first : SinkFiled config hash folders (flushes ++ flushed) done.1)
    (second :
      ∀ after,
        SinkFiled config hash folders (flushes ++ flushed) after →
        SinkFiled config hash folders
          (flushes ++ flushed ++ nextFlushes after) (next after).1) :
    SinkFiled config hash folders
      (flushes ++ (flushed ++ flushesAfter done nextFlushes))
      (L0StorageSink.andThen done next).1 := by
  obtain ⟨after, result⟩ := done
  rw [← List.append_assoc]
  cases result with
  | ok => exact second after first
  | error failure =>
      rw [flushesAfter, List.append_nil]
      exact first

/-- The flush of the raw market events keeps the sink filed. -/
private theorem SinkFiled.flushRaw
    (filed : SinkFiled config hash folders flushes sink)
    (files : FlushFiles) :
    SinkFiled config hash folders
      (flushes ++
        partitionsFlushes sink.config.1 rawFiling files.raw
          sink.raw.buffers.keys sink.raw sink.ledger)
      (sink.flushRaw files).1 := by
  obtain rfl := filed.sameConfig
  exact filed.raw_progress (flushPartitions_progress _ _ _ _)

/-- The flush of the source health keeps the sink filed. -/
private theorem SinkFiled.flushHealth
    (filed : SinkFiled config hash folders flushes sink)
    (files : FlushFiles) :
    SinkFiled config hash folders
      (flushes ++
        partitionsFlushes sink.config.1 healthFiling files.health
          sink.health.buffers.keys sink.health sink.ledger)
      (sink.flushHealth files).1 := by
  obtain rfl := filed.sameConfig
  exact filed.health_progress (flushPartitions_progress _ _ _ _)

/-- The flush of the symbol health keeps the sink filed. -/
private theorem SinkFiled.flushSymbolHealth
    (filed : SinkFiled config hash folders flushes sink)
    (files : FlushFiles) :
    SinkFiled config hash folders
      (flushes ++
        partitionsFlushes sink.config.1 symbolHealthFiling
          files.symbolHealth sink.symbolHealth.buffers.keys
          sink.symbolHealth sink.ledger)
      (sink.flushSymbolHealth files).1 := by
  obtain rfl := filed.sameConfig
  exact filed.symbolHealth_progress (flushPartitions_progress _ _ _ _)

/-- The flush of the gap alerts keeps the sink filed. -/
private theorem SinkFiled.flushGap
    (filed : SinkFiled config hash folders flushes sink)
    (files : FlushFiles) :
    SinkFiled config hash folders
      (flushes ++
        partitionsFlushes sink.config.1 gapFiling files.gap
          sink.gap.buffers.keys sink.gap sink.ledger)
      (sink.flushGap files).1 := by
  obtain rfl := filed.sameConfig
  exact filed.gap_progress (flushPartitions_progress _ _ _ _)

/-- The flush of all families keeps the sink filed. -/
private theorem SinkFiled.flushAll
    (filed : SinkFiled config hash folders flushes sink)
    (files : FlushFiles)
    (liveFlushFails : Bool) :
    SinkFiled config hash folders (flushes ++ flushAllFlushes sink files)
      (sink.flushAll files liveFlushFails).1 := by
  unfold flushAllFlushes L0StorageSink.flushAll
  refine SinkFiled.andThen (filed.flushRaw files) ?_
  intro afterRaw rawFiled
  refine SinkFiled.andThen (rawFiled.flushHealth files) ?_
  intro afterHealth healthFiled
  refine SinkFiled.andThen (healthFiled.flushSymbolHealth files) ?_
  intro afterSymbols symbolsFiled
  have gapFiled := symbolsFiled.flushGap files
  generalize afterSymbols.flushGap files = done at gapFiled
  obtain ⟨after, result⟩ := done
  cases result with
  | ok =>
      simp only [L0StorageSink.andThen]
      split_ifs <;> exact gapFiled
  | error failure => exact gapFiled

/-- The folder that the record of a call goes to. -/
def SinkCall.folder? : SinkCall Payload → Option L0Folder
  | .appendRawMarketEvent draft _ _ =>
      some (.raw draft.venue draft.eventType)
  | .appendSourceHealth draft _ => some (.sourceHealth draft.venue)
  | .appendSymbolHealth draft _ => some (.symbolHealth draft.venue)
  | .appendGapAlert draft _ => some (.gap draft.venue draft.gapType)
  | .flushAll _ _ => none

/-- Every call keeps the sink filed. -/
theorem SinkFiled.perform
    (filed : SinkFiled config hash folders flushes sink)
    (call : SinkCall Payload)
    (inFolders : ∀ folder, call.folder? = some folder → folder ∈ folders) :
    SinkFiled config hash folders (flushes ++ call.flushes sink)
      (call.perform sink).1 := by
  obtain rfl := filed.sameConfig
  obtain rfl := filed.sameHash
  cases call with
  | appendRawMarketEvent draft publish file =>
      have samePublish :
          L0StorageSink.publishLiveTick
              { sink with nextOrdinal := sink.nextOrdinal + 1 } publish =
            sink.publishLiveTick publish :=
        rfl
      simp only [SinkCall.flushes, SinkCall.perform,
        L0StorageSink.appendRawMarketEvent, samePublish]
      cases sink.publishLiveTick publish with
      | error failure =>
          rw [List.append_nil]
          exact { filed with }
      | ok =>
          exact filed.raw_progress
            (appendRecord_progress rfl (inFolders _ rfl) file _ _)
  | appendSourceHealth draft file =>
      exact filed.health_progress
        (appendRecord_progress rfl (inFolders _ rfl) file _ _)
  | appendSymbolHealth draft file =>
      exact filed.symbolHealth_progress
        (appendRecord_progress rfl (inFolders _ rfl) file _ _)
  | appendGapAlert draft file =>
      exact filed.gap_progress
        (appendRecord_progress rfl (inFolders _ rfl) file _ _)
  | flushAll files liveFlushFails =>
      exact filed.flushAll files liveFlushFails

end Sinks

end MarketIngest.Storage
