import MarketIngest.SinkConservation

namespace MarketIngest.Storage

/-!
# Failed uploads of raw market events

A call that returns without an error loses no record, but it may have given up
the upload of an object.  After calls that all returned, the last of them a
final flush, the raw market events are in uploaded objects exactly if no upload
of a raw object failed on the way.
-/

open L0StorageSink

variable {Payload : Type}

/-- The call returns without an error. -/
def SinkCall.Returned
    (sink : L0StorageSink Payload)
    (call : SinkCall Payload) : Prop :=
  (call.perform sink).2 = .ok ()

/-- No upload of a raw object that the call makes fails. -/
def SinkCall.UploadsRaw
    (sink : L0StorageSink Payload) :
    SinkCall Payload → Prop
  | .appendRawMarketEvent draft publish file =>
      sink.publishLiveTick publish = .ok () →
      Fills sink.config.1 sink.raw
        (rawPartitionFor sink.hash
          (.fromDraft draft sink.config.1.runId sink.nextOrdinal)
          sink.config.1.shardCount) →
      file.failsUpload = false
  | .flushAll files _ =>
      Avoids FileOutcome.failsUpload files.raw sink.raw
        sink.raw.buffers.keys
  | _ => True

/-- No raw market event was given up. -/
def NoRawFailed (sink : L0StorageSink Payload) : Prop :=
  ∀ record ∈ sink.ledger.failedRecords, record.isRaw = false

section Returned

variable {sink : L0StorageSink Payload}

/-- When a final flush succeeds. -/
theorem flushAll_ok_iff
    (sink : L0StorageSink Payload)
    (files : FlushFiles)
    (liveFlushFails : Bool) :
    (sink.flushAll files liveFlushFails).2 = .ok () ↔
      SinkCall.Safe sink (.flushAll files liveFlushFails) ∧
        (sink.livePublisher && liveFlushFails) = false := by
  unfold flushAll
  rw [andThen_ok_iff, flushRaw_ok_iff, andThen_ok_iff, flushHealth_ok_iff,
    andThen_ok_iff, flushSymbolHealth_ok_iff, andThen_ok_iff,
    flushGap_ok_iff]
  simp only [flushSymbolHealth_gap, flushHealth_gap,
    flushHealth_symbolHealth, flushRaw_gap, flushRaw_symbolHealth,
    flushRaw_health, SinkCall.Safe]
  have publisher :
      ((((sink.flushRaw files).1.flushHealth files).1.flushSymbolHealth
        files).1.flushGap files).1.livePublisher =
        sink.livePublisher := by
    simp only [flushGap_livePublisher, flushSymbolHealth_livePublisher,
      flushHealth_livePublisher, flushRaw_livePublisher]
  rw [publisher]
  cases sink.livePublisher && liveFlushFails <;> simp

/-- A final flush that succeeds has flushed all families. -/
theorem flushAll_of_ok
    {files : FlushFiles}
    {liveFlushFails : Bool}
    (returned : (sink.flushAll files liveFlushFails).2 = .ok ()) :
    (sink.flushAll files liveFlushFails).1 =
      ((((sink.flushRaw files).1.flushHealth files).1.flushSymbolHealth
        files).1.flushGap files).1 := by
  obtain ⟨raw, health, symbolHealth, gap⟩ :=
    ((flushAll_ok_iff sink files liveFlushFails).mp returned).1
  have rawReturned := (flushRaw_ok_iff sink files).mpr raw
  have healthReturned :=
    (flushHealth_ok_iff (sink.flushRaw files).1 files).mpr health
  have symbolReturned :=
    (flushSymbolHealth_ok_iff
      ((sink.flushRaw files).1.flushHealth files).1 files).mpr symbolHealth
  have gapReturned :=
    (flushGap_ok_iff
      (((sink.flushRaw files).1.flushHealth files).1.flushSymbolHealth
        files).1 files).mpr gap
  unfold flushAll
  rw [andThen_of_ok rawReturned, andThen_of_ok healthReturned,
    andThen_of_ok symbolReturned, andThen_of_ok gapReturned,
    apply_ite Prod.fst, ite_self]

/-- How an append of a raw market event returns. -/
theorem appendRawMarketEvent_ok
    {draft : RawMarketEventDraft Payload}
    {publish : PublishOutcome}
    {file : FileOutcome}
    (published : sink.publishLiveTick publish = .ok ()) :
    sink.appendRawMarketEvent draft publish file =
      let record :=
        RawMarketEventRecord.fromDraft draft sink.config.1.runId
          sink.nextOrdinal
      let appended :=
        appendRecord sink.config.1 rawFamily
          (rawPartitionFor sink.hash record sink.config.1.shardCount)
          record file sink.raw sink.ledger
      ({ sink with
          nextOrdinal := sink.nextOrdinal + 1
          raw := appended.1
          ledger := appended.2.1 },
        appended.2.2) := by
  have publishes :
      ({ sink with nextOrdinal := sink.nextOrdinal + 1 } :
        L0StorageSink Payload).publishLiveTick publish =
        sink.publishLiveTick publish :=
    rfl
  simp only [appendRawMarketEvent, publishes, published]

/-- An unpublished raw market event is not appended. -/
theorem appendRawMarketEvent_error
    {draft : RawMarketEventDraft Payload}
    {publish : PublishOutcome}
    {file : FileOutcome}
    {failure : StorageError}
    (unpublished : sink.publishLiveTick publish = .error failure) :
    sink.appendRawMarketEvent draft publish file =
      ({ sink with nextOrdinal := sink.nextOrdinal + 1 },
        .error failure) := by
  have publishes :
      ({ sink with nextOrdinal := sink.nextOrdinal + 1 } :
        L0StorageSink Payload).publishLiveTick publish =
        sink.publishLiveTick publish :=
    rfl
  simp only [appendRawMarketEvent, publishes, unpublished]

/-- A call that returns loses no record. -/
theorem SinkCall.Returned.safe
    {call : SinkCall Payload}
    (returned : call.Returned sink) :
    call.Safe sink := by
  cases call with
  | appendRawMarketEvent draft publish file =>
      intro published
      simp only [SinkCall.Returned, SinkCall.perform,
        appendRawMarketEvent_ok published] at returned
      exact appendSafe_of_ok returned
  | appendSourceHealth draft file =>
      exact appendSafe_of_ok returned
  | appendSymbolHealth draft file =>
      exact appendSafe_of_ok returned
  | appendGapAlert draft file =>
      exact appendSafe_of_ok returned
  | flushAll files liveFlushFails =>
      exact ((flushAll_ok_iff sink files liveFlushFails).mp returned).1

end Returned

section NoRawFailed

/-- Records of a family that is not raw do not matter. -/
private theorem noRaw_append_iff
    {failed added : List (L0Record Payload)}
    (others : ∀ record ∈ added, record.isRaw = false) :
    (∀ record ∈ failed ++ added, record.isRaw = false) ↔
      ∀ record ∈ failed, record.isRaw = false := by
  constructor
  · intro all record member
    exact all record (List.mem_append_left _ member)
  · intro before record member
    rcases List.mem_append.mp member with earlier | later
    · exact before record earlier
    · exact others record later

/-- Records of the raw family matter. -/
private theorem noRaw_append_raw_iff
    {failed : List (L0Record Payload)}
    {added : List (RawMarketEventRecord Payload)} :
    (∀ record ∈ failed ++ added.map rawFamily.toRecord,
        record.isRaw = false) ↔
      (∀ record ∈ failed, record.isRaw = false) ∧ added = [] := by
  rw [List.forall_mem_append]
  refine and_congr_right (fun _ => ?_)
  cases added <;> simp [rawFamily, L0Record.isRaw]

/-- What an append gives up. -/
theorem appendRecord_failedRecords
    {Key Record : Type}
    [LinearOrder Key]
    {config : L0StorageConfig}
    {family : ObjectFamily Key Record Payload}
    {partition : Key}
    {record : Record}
    {outcome : FileOutcome}
    {buffered : PartitionBuffers Key Record}
    {ledger : UploadLedger Payload} :
    ∃ added : List Record,
      (appendRecord config family partition record outcome buffered
          ledger).2.1.failedRecords =
        ledger.failedRecords ++ added.map family.toRecord ∧
      (added = [] ↔
        (Fills config buffered partition →
          outcome.failsUpload = false)) := by
  by_cases fills : Fills config buffered partition
  · rw [appendRecord_of_fills fills, flushPartition_failedRecords,
      PartitionBuffers.waiting_push]
    cases outcome.failsUpload with
    | true =>
        exact ⟨buffered.waiting partition ++ [record], rfl,
          by simp [fills]⟩
    | false =>
        exact ⟨[], rfl, by simp⟩
  · rw [appendRecord_of_not_fills fills]
    exact ⟨[], by simp, by simp [fills]⟩

/-- A flush of another family gives up no raw events. -/
private theorem noRaw_flushPartitions_iff
    {Key Record : Type}
    [LinearOrder Key]
    {family : ObjectFamily Key Record Payload}
    (others : ∀ record, (family.toRecord record).isRaw = false)
    (config : L0StorageConfig)
    (outcomes : Key → FileOutcome)
    (buffered : PartitionBuffers Key Record)
    (ledger : UploadLedger Payload) :
    (∀ record ∈
        (flushPartitions config family outcomes buffered.buffers.keys
          buffered ledger).2.1.failedRecords,
        record.isRaw = false) ↔
      ∀ record ∈ ledger.failedRecords, record.isRaw = false := by
  obtain ⟨added, failed, -⟩ :=
    flushPartitions_failedRecords config family outcomes
      (OrderedMap.keys_nodup buffered.buffers) buffered ledger
  rw [failed]
  refine noRaw_append_iff (fun record member => ?_)
  obtain ⟨own, -, rfl⟩ := List.mem_map.mp member
  exact others own

/-- The flush of the raw market events gives up those of failed uploads. -/
private theorem noRawFailed_flushRaw_iff
    {sink : L0StorageSink Payload}
    {files : FlushFiles}
    (returned : (sink.flushRaw files).2 = .ok ()) :
    NoRawFailed (sink.flushRaw files).1 ↔
      NoRawFailed sink ∧
        Avoids FileOutcome.failsUpload files.raw sink.raw
          sink.raw.buffers.keys := by
  obtain ⟨added, failed, none⟩ :=
    flushPartitions_failedRecords sink.config.1 rawFamily files.raw
      (OrderedMap.keys_nodup sink.raw.buffers) sink.raw sink.ledger
  simp only [NoRawFailed, flushRaw, failed]
  rw [noRaw_append_raw_iff, none returned]

/-- The other families do not matter for the raw market events. -/
private theorem noRawFailed_flushOthers_iff
    (sink : L0StorageSink Payload)
    (files : FlushFiles) :
    NoRawFailed
        (((sink.flushHealth files).1.flushSymbolHealth files).1.flushGap
          files).1 ↔
      NoRawFailed sink := by
  have gap (current : L0StorageSink Payload) :
      NoRawFailed (current.flushGap files).1 ↔ NoRawFailed current :=
    noRaw_flushPartitions_iff (fun _ => rfl) _ _ _ _
  have symbolHealth (current : L0StorageSink Payload) :
      NoRawFailed (current.flushSymbolHealth files).1 ↔
        NoRawFailed current :=
    noRaw_flushPartitions_iff (fun _ => rfl) _ _ _ _
  have health (current : L0StorageSink Payload) :
      NoRawFailed (current.flushHealth files).1 ↔ NoRawFailed current :=
    noRaw_flushPartitions_iff (fun _ => rfl) _ _ _ _
  rw [gap, symbolHealth, health]

/-- A call that returns gives up raw events exactly if an upload fails. -/
theorem noRawFailed_perform_iff
    {sink : L0StorageSink Payload}
    {call : SinkCall Payload}
    (returned : call.Returned sink) :
    NoRawFailed (call.perform sink).1 ↔
      NoRawFailed sink ∧ call.UploadsRaw sink := by
  cases call with
  | appendRawMarketEvent draft publish file =>
      cases published : sink.publishLiveTick publish with
      | error failure =>
          simp only [SinkCall.Returned, SinkCall.perform,
            appendRawMarketEvent_error published] at returned
          cases returned
      | ok =>
          simp only [NoRawFailed, SinkCall.perform,
            appendRawMarketEvent_ok published, SinkCall.UploadsRaw,
            published, true_imp_iff]
          obtain ⟨added, failed, none⟩ :=
            @appendRecord_failedRecords Payload _ _ _ sink.config.1
              rawFamily
              (rawPartitionFor sink.hash
                (.fromDraft draft sink.config.1.runId sink.nextOrdinal)
                sink.config.1.shardCount)
              (.fromDraft draft sink.config.1.runId sink.nextOrdinal)
              file sink.raw sink.ledger
          rw [failed, noRaw_append_raw_iff, none]
  | appendSourceHealth draft file =>
      obtain ⟨added, failed, -⟩ :=
        @appendRecord_failedRecords Payload _ _ _ sink.config.1
          healthFamily
          (healthPartitionFor sink.hash
            (.fromDraft draft sink.config.1.runId sink.nextOrdinal)
            sink.config.1.shardCount)
          (.fromDraft draft sink.config.1.runId sink.nextOrdinal)
          file sink.health sink.ledger
      simp only [NoRawFailed, SinkCall.perform, appendSourceHealth,
        SinkCall.UploadsRaw, and_true, failed]
      exact noRaw_append_iff (by simp [healthFamily, L0Record.isRaw])
  | appendSymbolHealth draft file =>
      obtain ⟨added, failed, -⟩ :=
        @appendRecord_failedRecords Payload _ _ _ sink.config.1
          symbolHealthFamily
          (symbolHealthPartitionFor sink.hash
            (.fromDraft draft sink.config.1.runId sink.nextOrdinal)
            sink.config.1.shardCount)
          (.fromDraft draft sink.config.1.runId sink.nextOrdinal)
          file sink.symbolHealth sink.ledger
      simp only [NoRawFailed, SinkCall.perform, appendSymbolHealth,
        SinkCall.UploadsRaw, and_true, failed]
      exact noRaw_append_iff
        (by simp [symbolHealthFamily, L0Record.isRaw])
  | appendGapAlert draft file =>
      obtain ⟨added, failed, -⟩ :=
        @appendRecord_failedRecords Payload _ _ _ sink.config.1
          gapFamily
          (gapPartitionFor sink.hash
            (.fromDraft draft sink.config.1.runId sink.nextOrdinal)
            sink.config.1.shardCount)
          (.fromDraft draft sink.config.1.runId sink.nextOrdinal)
          file sink.gap sink.ledger
      simp only [NoRawFailed, SinkCall.perform, appendGapAlert,
        SinkCall.UploadsRaw, and_true, failed]
      exact noRaw_append_iff (by simp [gapFamily, L0Record.isRaw])
  | flushAll files liveFlushFails =>
      have raw :=
        ((flushAll_ok_iff sink files liveFlushFails).mp returned).1.1
      simp only [SinkCall.perform, flushAll_of_ok returned,
        SinkCall.UploadsRaw]
      rw [noRawFailed_flushOthers_iff,
        noRawFailed_flushRaw_iff ((flushRaw_ok_iff sink files).mpr raw)]

end NoRawFailed

section Uploads

/-- After a final flush that succeeds, no raw market event is buffered. -/
theorem buffered_not_raw_of_flushAll
    {sink : L0StorageSink Payload}
    {files : FlushFiles}
    {liveFlushFails : Bool}
    (returned : (sink.flushAll files liveFlushFails).2 = .ok ())
    {record : L0Record Payload}
    (waits : record ∈ (sink.flushAll files liveFlushFails).1.buffered) :
    record.isRaw = false := by
  have raw :=
    ((flushAll_ok_iff sink files liveFlushFails).mp returned).1.1
  have flushed :
      (sink.flushRaw files).1.raw.records rawFamily = 0 :=
    flushPartitions_records_of_ok ((flushRaw_ok_iff sink files).mpr raw)
  rw [flushAll_of_ok returned] at waits
  have noRaw :
      ((((sink.flushRaw files).1.flushHealth files).1.flushSymbolHealth
        files).1.flushGap files).1.raw = (sink.flushRaw files).1.raw :=
    rfl
  simp only [buffered, noRaw, flushed, zero_add, Multiset.mem_add] at waits
  have others
      {Key Record : Type}
      [LinearOrder Key]
      {family : ObjectFamily Key Record Payload}
      {own : PartitionBuffers Key Record}
      (notRaw : ∀ record, (family.toRecord record).isRaw = false)
      (member : record ∈ own.records family) :
      record.isRaw = false := by
    obtain ⟨entry, -, inEntry⟩ := List.mem_flatMap.mp member
    obtain ⟨draft, -, rfl⟩ := List.mem_map.mp inEntry
    exact notRaw draft
  rcases waits with (health | symbolHealth) | gap
  · exact others (fun _ => rfl) health
  · exact others (fun _ => rfl) symbolHealth
  · exact others (fun _ => rfl) gap

variable
  {config : AcceptedConfig}
  {hash : String → Nat}
  {livePublisher : Bool}
  {calls : List (SinkCall Payload)}

/-- Calls that return give up no raw event exactly if every upload succeeds. -/
theorem noRawFailed_run_iff
    {history : SinkHistory Payload}
    (returned :
      Runs.Along stepCall
        (fun history call => call.Returned history.sink) history calls) :
    NoRawFailed (Runs.run stepCall history calls).sink ↔
      NoRawFailed history.sink ∧
        Runs.Along stepCall
          (fun history call => call.UploadsRaw history.sink)
          history calls := by
  induction calls generalizing history with
  | nil =>
      simp [Runs.Along]
  | cons call rest inductionHypothesis =>
      rw [Runs.run_cons, inductionHypothesis returned.2]
      simp only [Runs.Along, stepCall]
      rw [noRawFailed_perform_iff returned.1, and_assoc]

/--
When all calls returned and the last one was a final flush, the accepted raw
market events are in uploaded objects exactly if no upload of a raw object
failed.
-/
theorem raw_uploaded_iff
    {files : FlushFiles}
    {liveFlushFails : Bool}
    (returned :
      Runs.Along stepCall
        (fun history call => call.Returned history.sink)
        (.start config hash livePublisher)
        (calls ++ [.flushAll files liveFlushFails])) :
    (∀ record ∈
        (Runs.run stepCall (.start config hash livePublisher)
          (calls ++ [.flushAll files liveFlushFails])).accepted,
        record.isRaw = true →
        record ∈
          (Runs.run stepCall (.start config hash livePublisher)
            (calls ++ [.flushAll files
              liveFlushFails])).sink.ledger.uploadedRecords) ↔
      Runs.Along stepCall
        (fun history call => call.UploadsRaw history.sink)
        (.start config hash livePublisher)
        (calls ++ [.flushAll files liveFlushFails]) := by
  classical
  have noneFailed :=
    noRawFailed_run_iff returned
  have initially :
      NoRawFailed
        (.start config hash livePublisher : SinkHistory Payload).sink := by
    intro record member
    cases member
  obtain ⟨places, distinct⟩ :=
    places_of_along_safe (returned.imp (fun held => held.safe))
  have lastReturned := (Runs.along_append.mp returned).2.1
  rw [Runs.run_append] at places distinct noneFailed ⊢
  set before := Runs.run stepCall (.start config hash livePublisher) calls
  have flushed :
      (Runs.run stepCall before
        [.flushAll files liveFlushFails]).sink =
        (before.sink.flushAll files liveFlushFails).1 :=
    rfl
  set after :=
    Runs.run stepCall before [.flushAll files liveFlushFails]
  rw [and_iff_right initially] at noneFailed
  rw [← noneFailed]
  rw [L0StorageSink.places, UploadLedger.records] at places
  constructor
  · intro uploaded record failed
    by_contra raw
    rw [Bool.not_eq_false] at raw
    have accepted : record ∈ after.accepted := by
      rw [← places]
      simp [failed]
    have alsoUploaded := uploaded record accepted raw
    -- A record that is uploaded and failed would be counted twice.
    have once := Multiset.count_eq_one_of_mem distinct accepted
    rw [← places, Multiset.count_add, Multiset.count_add] at once
    have inUploaded :=
      Multiset.count_pos.mpr (Multiset.mem_coe.mpr alsoUploaded)
    have inFailed :=
      Multiset.count_pos.mpr (Multiset.mem_coe.mpr failed)
    omega
  · intro none record accepted raw
    rw [← places, Multiset.mem_add, Multiset.mem_add] at accepted
    rcases accepted with waits | uploaded | failed
    · rw [flushed] at waits
      rw [buffered_not_raw_of_flushAll lastReturned waits] at raw
      cases raw
    · exact uploaded
    · rw [none record failed] at raw
      cases raw

end Uploads

end MarketIngest.Storage
