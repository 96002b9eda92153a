import MarketIngest.SinkAccounting
import MarketIngest.Runs

namespace MarketIngest.Storage

/-!
# Conservation of appended records

A history of a sink is a list of calls with the outcomes that they meet.  Every
draft whose append returned without an error should be in exactly one place
afterwards.  The calls that break this are those whose flush takes earlier
records out of a buffer and then does not write the file.
-/

variable {Payload : Type}

namespace L0StorageSink

/-- All records that wait in a buffer. -/
def buffered (sink : L0StorageSink Payload) : Multiset (L0Record Payload) :=
  sink.raw.records rawFamily + sink.health.records healthFamily +
    sink.symbolHealth.records symbolHealthFamily +
    sink.gap.records gapFamily

/-- All records in a buffer, an uploaded object or a failed upload. -/
def places (sink : L0StorageSink Payload) : Multiset (L0Record Payload) :=
  sink.buffered + sink.ledger.records

end L0StorageSink

/-- A call to a sink, with the outcomes that it meets. -/
inductive SinkCall (Payload : Type) where
  | appendRawMarketEvent
      (draft : RawMarketEventDraft Payload)
      (publish : L0StorageSink.PublishOutcome)
      (file : FileOutcome)
  | appendSourceHealth
      (draft : SourceHealthDraft Payload)
      (file : FileOutcome)
  | appendSymbolHealth
      (draft : SymbolHealthDraft Payload)
      (file : FileOutcome)
  | appendGapAlert
      (draft : GapAlertDraft Payload)
      (file : FileOutcome)
  | flushAll
      (files : L0StorageSink.FlushFiles)
      (liveFlushFails : Bool)

namespace SinkCall

/-- Make the call. -/
def perform
    (sink : L0StorageSink Payload) :
    SinkCall Payload → L0StorageSink Payload × Except StorageError Unit
  | .appendRawMarketEvent draft publish file =>
      sink.appendRawMarketEvent draft publish file
  | .appendSourceHealth draft file => sink.appendSourceHealth draft file
  | .appendSymbolHealth draft file => sink.appendSymbolHealth draft file
  | .appendGapAlert draft file => sink.appendGapAlert draft file
  | .flushAll files liveFlushFails => sink.flushAll files liveFlushFails

/-- The record that a call appends. -/
def record?
    (sink : L0StorageSink Payload) :
    SinkCall Payload → Option (L0Record Payload)
  | .appendRawMarketEvent draft _ _ =>
      some (.raw (.fromDraft draft sink.config.1.runId sink.nextOrdinal))
  | .appendSourceHealth draft _ =>
      some (.sourceHealth
        (.fromDraft draft sink.config.1.runId sink.nextOrdinal))
  | .appendSymbolHealth draft _ =>
      some (.symbolHealth
        (.fromDraft draft sink.config.1.runId sink.nextOrdinal))
  | .appendGapAlert draft _ =>
      some (.gap (.fromDraft draft sink.config.1.runId sink.nextOrdinal))
  | .flushAll _ _ => none

/--
The call takes no earlier record out of its buffer for a file that is then not
written.
-/
def Safe
    (sink : L0StorageSink Payload) :
    SinkCall Payload → Prop
  | .appendRawMarketEvent draft publish file =>
      sink.publishLiveTick publish = .ok () →
      AppendSafe sink.config.1 sink.raw
        (rawPartitionFor sink.hash
          (.fromDraft draft sink.config.1.runId sink.nextOrdinal)
          sink.config.1.shardCount)
        file
  | .appendSourceHealth draft file =>
      AppendSafe sink.config.1 sink.health
        (healthPartitionFor sink.hash
          (.fromDraft draft sink.config.1.runId sink.nextOrdinal)
          sink.config.1.shardCount)
        file
  | .appendSymbolHealth draft file =>
      AppendSafe sink.config.1 sink.symbolHealth
        (symbolHealthPartitionFor sink.hash
          (.fromDraft draft sink.config.1.runId sink.nextOrdinal)
          sink.config.1.shardCount)
        file
  | .appendGapAlert draft file =>
      AppendSafe sink.config.1 sink.gap
        (gapPartitionFor sink.hash
          (.fromDraft draft sink.config.1.runId sink.nextOrdinal)
          sink.config.1.shardCount)
        file
  | .flushAll files _ =>
      Avoids FileOutcome.loses files.raw sink.raw sink.raw.buffers.keys ∧
      Avoids FileOutcome.loses files.health sink.health
        sink.health.buffers.keys ∧
      Avoids FileOutcome.loses files.symbolHealth sink.symbolHealth
        sink.symbolHealth.buffers.keys ∧
      Avoids FileOutcome.loses files.gap sink.gap sink.gap.buffers.keys

/-- The record that a call adds to the accepted ones. -/
def accepted
    (sink : L0StorageSink Payload)
    (call : SinkCall Payload) : Multiset (L0Record Payload) :=
  match call.record? sink with
  | some record => acceptedRecord record (call.perform sink).2
  | none => 0

end SinkCall

section FlushAll

open L0StorageSink

variable
  {sink : L0StorageSink Payload}
  {files : FlushFiles}
  {before : Multiset (L0Record Payload)}

/-- The second step runs, and can lose records, only after the first. -/
private theorem andThen_accounts
    {done : L0StorageSink Payload × Except StorageError Unit}
    {earlier later : Prop}
    (next :
      L0StorageSink Payload →
      L0StorageSink Payload × Except StorageError Unit)
    (first : Accounts before done.1.places earlier)
    (returns : done.2 = .ok () ↔ earlier)
    (second :
      Accounts done.1.places (next done.1).1.places later) :
    Accounts before (andThen done next).1.places (earlier ∧ later) := by
  obtain ⟨after, result⟩ := done
  cases result with
  | ok =>
      exact first.trans second
  | error failure =>
      obtain ⟨lost, balance, exactlySafe⟩ := first
      refine ⟨lost, balance, ?_⟩
      have failed : ¬ earlier := by
        simp [← returns]
      simp [exactlySafe, failed]

/-- A continued step succeeds exactly if both parts do. -/
theorem andThen_ok_iff
    {done : L0StorageSink Payload × Except StorageError Unit}
    {next :
      L0StorageSink Payload →
      L0StorageSink Payload × Except StorageError Unit} :
    (andThen done next).2 = .ok () ↔
      done.2 = .ok () ∧ (next done.1).2 = .ok () := by
  obtain ⟨after, result⟩ := done
  cases result <;> simp [andThen]

/-- A step that follows a successful one is the whole of the rest. -/
theorem andThen_of_ok
    {done : L0StorageSink Payload × Except StorageError Unit}
    {next :
      L0StorageSink Payload →
      L0StorageSink Payload × Except StorageError Unit}
    (returned : done.2 = .ok ()) :
    andThen done next = next done.1 := by
  obtain ⟨after, result⟩ := done
  cases returned
  rfl

@[simp] theorem flushRaw_health :
    (sink.flushRaw files).1.health = sink.health :=
  rfl

@[simp] theorem flushRaw_symbolHealth :
    (sink.flushRaw files).1.symbolHealth = sink.symbolHealth :=
  rfl

@[simp] theorem flushRaw_gap :
    (sink.flushRaw files).1.gap = sink.gap :=
  rfl

@[simp] theorem flushHealth_symbolHealth :
    (sink.flushHealth files).1.symbolHealth = sink.symbolHealth :=
  rfl

@[simp] theorem flushHealth_gap :
    (sink.flushHealth files).1.gap = sink.gap :=
  rfl

@[simp] theorem flushRaw_livePublisher :
    (sink.flushRaw files).1.livePublisher = sink.livePublisher :=
  rfl

@[simp] theorem flushHealth_livePublisher :
    (sink.flushHealth files).1.livePublisher = sink.livePublisher :=
  rfl

@[simp] theorem flushSymbolHealth_livePublisher :
    (sink.flushSymbolHealth files).1.livePublisher = sink.livePublisher :=
  rfl

@[simp] theorem flushGap_livePublisher :
    (sink.flushGap files).1.livePublisher = sink.livePublisher :=
  rfl

@[simp] theorem flushSymbolHealth_gap :
    (sink.flushSymbolHealth files).1.gap = sink.gap :=
  rfl

/-- The flush of the raw market events fails if a file is not written. -/
theorem flushRaw_ok_iff
    (sink : L0StorageSink Payload)
    (files : FlushFiles) :
    (sink.flushRaw files).2 = .ok () ↔
      Avoids FileOutcome.loses files.raw sink.raw
        sink.raw.buffers.keys :=
  flushPartitions_ok_iff (OrderedMap.keys_nodup sink.raw.buffers)

/-- The flush of the raw market events loses records if it fails. -/
theorem flushRaw_accounts
    (sink : L0StorageSink Payload)
    (files : FlushFiles) :
    Accounts sink.places (sink.flushRaw files).1.places
      (Avoids FileOutcome.loses files.raw sink.raw
        sink.raw.buffers.keys) := by
  have family :=
    flushPartitions_accounts sink.config.1 rawFamily files.raw
      (OrderedMap.keys_nodup sink.raw.buffers) sink.raw sink.ledger
  have framed :=
    family.frame (sink.health.records healthFamily +
      sink.symbolHealth.records symbolHealthFamily +
      sink.gap.records gapFamily)
  convert framed using 1 <;> simp only [places, buffered, flushRaw] <;> abel

/-- The flush of the source health records fails if a file is not written. -/
theorem flushHealth_ok_iff
    (sink : L0StorageSink Payload)
    (files : FlushFiles) :
    (sink.flushHealth files).2 = .ok () ↔
      Avoids FileOutcome.loses files.health sink.health
        sink.health.buffers.keys :=
  flushPartitions_ok_iff (OrderedMap.keys_nodup sink.health.buffers)

/-- The flush of the source health records loses records if it fails. -/
theorem flushHealth_accounts
    (sink : L0StorageSink Payload)
    (files : FlushFiles) :
    Accounts sink.places (sink.flushHealth files).1.places
      (Avoids FileOutcome.loses files.health sink.health
        sink.health.buffers.keys) := by
  have family :=
    flushPartitions_accounts sink.config.1 healthFamily files.health
      (OrderedMap.keys_nodup sink.health.buffers) sink.health sink.ledger
  have framed :=
    family.frame (sink.raw.records rawFamily +
      sink.symbolHealth.records symbolHealthFamily +
      sink.gap.records gapFamily)
  convert framed using 1 <;>
    simp only [places, buffered, flushHealth] <;> abel

/-- The flush of the symbol health records fails if a file is not written. -/
theorem flushSymbolHealth_ok_iff
    (sink : L0StorageSink Payload)
    (files : FlushFiles) :
    (sink.flushSymbolHealth files).2 = .ok () ↔
      Avoids FileOutcome.loses files.symbolHealth sink.symbolHealth
        sink.symbolHealth.buffers.keys :=
  flushPartitions_ok_iff (OrderedMap.keys_nodup sink.symbolHealth.buffers)

/-- The flush of the symbol health records loses records if it fails. -/
theorem flushSymbolHealth_accounts
    (sink : L0StorageSink Payload)
    (files : FlushFiles) :
    Accounts sink.places (sink.flushSymbolHealth files).1.places
      (Avoids FileOutcome.loses files.symbolHealth sink.symbolHealth
        sink.symbolHealth.buffers.keys) := by
  have family :=
    flushPartitions_accounts sink.config.1 symbolHealthFamily
      files.symbolHealth (OrderedMap.keys_nodup sink.symbolHealth.buffers)
      sink.symbolHealth sink.ledger
  have framed :=
    family.frame (sink.raw.records rawFamily +
      sink.health.records healthFamily + sink.gap.records gapFamily)
  convert framed using 1 <;>
    simp only [places, buffered, flushSymbolHealth] <;> abel

/-- The flush of the gap alerts fails if a file is not written. -/
theorem flushGap_ok_iff
    (sink : L0StorageSink Payload)
    (files : FlushFiles) :
    (sink.flushGap files).2 = .ok () ↔
      Avoids FileOutcome.loses files.gap sink.gap
        sink.gap.buffers.keys :=
  flushPartitions_ok_iff (OrderedMap.keys_nodup sink.gap.buffers)

/-- The flush of the gap alerts loses records if it fails. -/
theorem flushGap_accounts
    (sink : L0StorageSink Payload)
    (files : FlushFiles) :
    Accounts sink.places (sink.flushGap files).1.places
      (Avoids FileOutcome.loses files.gap sink.gap
        sink.gap.buffers.keys) := by
  have family :=
    flushPartitions_accounts sink.config.1 gapFamily files.gap
      (OrderedMap.keys_nodup sink.gap.buffers) sink.gap sink.ledger
  have framed :=
    family.frame (sink.raw.records rawFamily +
      sink.health.records healthFamily +
      sink.symbolHealth.records symbolHealthFamily)
  convert framed using 1 <;> simp only [places, buffered, flushGap] <;> abel

/-- Flushing the live publisher, the last step of the final flush. -/
private def flushLive
    (liveFlushFails : Bool)
    (sink : L0StorageSink Payload) :
    L0StorageSink Payload × Except StorageError Unit :=
  if sink.livePublisher && liveFlushFails then
    (sink, .error .nats)
  else
    (sink, .ok ())

/-- The live publisher has no records. -/
private theorem flushLive_sink
    (liveFlushFails : Bool)
    (sink : L0StorageSink Payload) :
    (flushLive liveFlushFails sink).1 = sink := by
  unfold flushLive
  split_ifs
  · rfl
  · rfl

/-- The final flush loses records exactly if a file is not written. -/
theorem flushAll_accounts
    (sink : L0StorageSink Payload)
    (files : FlushFiles)
    (liveFlushFails : Bool) :
    Accounts sink.places (sink.flushAll files liveFlushFails).1.places
      (SinkCall.Safe sink (.flushAll files liveFlushFails)) := by
  let fromGap (current : L0StorageSink Payload) :=
    andThen (current.flushGap files) (flushLive liveFlushFails)
  let fromSymbols (current : L0StorageSink Payload) :=
    andThen (current.flushSymbolHealth files) fromGap
  let fromHealth (current : L0StorageSink Payload) :=
    andThen (current.flushHealth files) fromSymbols
  have gapStep (current : L0StorageSink Payload) :=
    andThen_accounts (flushLive liveFlushFails)
      (flushGap_accounts current files) (flushGap_ok_iff current files)
      (.of_eq (by rw [flushLive_sink]) trivial)
  have symbolStep (current : L0StorageSink Payload) :=
    andThen_accounts fromGap
      (flushSymbolHealth_accounts current files)
      (flushSymbolHealth_ok_iff current files)
      (gapStep _)
  have healthStep (current : L0StorageSink Payload) :=
    andThen_accounts fromSymbols
      (flushHealth_accounts current files)
      (flushHealth_ok_iff current files)
      (symbolStep _)
  have whole :=
    andThen_accounts fromHealth (flushRaw_accounts sink files)
      (flushRaw_ok_iff sink files) (healthStep _)
  simp only [and_true, flushSymbolHealth_gap, flushHealth_gap,
    flushHealth_symbolHealth, flushRaw_gap, flushRaw_symbolHealth,
    flushRaw_health] at whole
  exact whole

end FlushAll

section Appends

open L0StorageSink

/-- An append of a raw market event. -/
theorem appendRawMarketEvent_accounts
    (sink : L0StorageSink Payload)
    (draft : RawMarketEventDraft Payload)
    (publish : PublishOutcome)
    (file : FileOutcome) :
    Accounts
      (sink.places +
        SinkCall.accepted sink (.appendRawMarketEvent draft publish file))
      (sink.appendRawMarketEvent draft publish file).1.places
      (SinkCall.Safe sink (.appendRawMarketEvent draft publish file)) := by
  have publishes :
      ({ sink with nextOrdinal := sink.nextOrdinal + 1 } :
        L0StorageSink Payload).publishLiveTick publish =
        sink.publishLiveTick publish :=
    rfl
  simp only [SinkCall.accepted, SinkCall.record?, SinkCall.perform,
    SinkCall.Safe, appendRawMarketEvent, publishes]
  cases sink.publishLiveTick publish with
  | error failure =>
      exact .of_eq (add_zero _).symm (by simp)
  | ok =>
      have family :=
        appendRecord_accounts sink.config.1 rawFamily
          (rawPartitionFor sink.hash
            (.fromDraft draft sink.config.1.runId sink.nextOrdinal)
            sink.config.1.shardCount)
          (.fromDraft draft sink.config.1.runId sink.nextOrdinal) file
          sink.raw sink.ledger
      have framed :=
        family.frame (sink.health.records healthFamily +
          sink.symbolHealth.records symbolHealthFamily +
          sink.gap.records gapFamily)
      convert framed using 1
      · simp only [places, buffered, rawFamily]
        abel
      · simp only [places, buffered]
        abel
      · simp

/-- An append of a source health record. -/
theorem appendSourceHealth_accounts
    (sink : L0StorageSink Payload)
    (draft : SourceHealthDraft Payload)
    (file : FileOutcome) :
    Accounts
      (sink.places +
        SinkCall.accepted sink (.appendSourceHealth draft file))
      (sink.appendSourceHealth draft file).1.places
      (SinkCall.Safe sink (.appendSourceHealth draft file)) := by
  have family :=
    appendRecord_accounts sink.config.1 healthFamily
      (healthPartitionFor sink.hash
        (.fromDraft draft sink.config.1.runId sink.nextOrdinal)
        sink.config.1.shardCount)
      (.fromDraft draft sink.config.1.runId sink.nextOrdinal) file
      sink.health sink.ledger
  have framed :=
    family.frame (sink.raw.records rawFamily +
      sink.symbolHealth.records symbolHealthFamily +
      sink.gap.records gapFamily)
  convert framed using 1
  · simp only [places, buffered, healthFamily, SinkCall.accepted,
      SinkCall.record?, SinkCall.perform, appendSourceHealth]
    abel
  · simp only [places, buffered, appendSourceHealth]
    abel
  · rfl

/-- An append of a symbol health record. -/
theorem appendSymbolHealth_accounts
    (sink : L0StorageSink Payload)
    (draft : SymbolHealthDraft Payload)
    (file : FileOutcome) :
    Accounts
      (sink.places +
        SinkCall.accepted sink (.appendSymbolHealth draft file))
      (sink.appendSymbolHealth draft file).1.places
      (SinkCall.Safe sink (.appendSymbolHealth draft file)) := by
  have family :=
    appendRecord_accounts sink.config.1 symbolHealthFamily
      (symbolHealthPartitionFor sink.hash
        (.fromDraft draft sink.config.1.runId sink.nextOrdinal)
        sink.config.1.shardCount)
      (.fromDraft draft sink.config.1.runId sink.nextOrdinal) file
      sink.symbolHealth sink.ledger
  have framed :=
    family.frame (sink.raw.records rawFamily +
      sink.health.records healthFamily + sink.gap.records gapFamily)
  convert framed using 1
  · simp only [places, buffered, symbolHealthFamily, SinkCall.accepted,
      SinkCall.record?, SinkCall.perform, appendSymbolHealth]
    abel
  · simp only [places, buffered, appendSymbolHealth]
    abel
  · rfl

/-- An append of a gap alert. -/
theorem appendGapAlert_accounts
    (sink : L0StorageSink Payload)
    (draft : GapAlertDraft Payload)
    (file : FileOutcome) :
    Accounts
      (sink.places + SinkCall.accepted sink (.appendGapAlert draft file))
      (sink.appendGapAlert draft file).1.places
      (SinkCall.Safe sink (.appendGapAlert draft file)) := by
  have family :=
    appendRecord_accounts sink.config.1 gapFamily
      (gapPartitionFor sink.hash
        (.fromDraft draft sink.config.1.runId sink.nextOrdinal)
        sink.config.1.shardCount)
      (.fromDraft draft sink.config.1.runId sink.nextOrdinal) file
      sink.gap sink.ledger
  have framed :=
    family.frame (sink.raw.records rawFamily +
      sink.health.records healthFamily +
      sink.symbolHealth.records symbolHealthFamily)
  convert framed using 1
  · simp only [places, buffered, gapFamily, SinkCall.accepted,
      SinkCall.record?, SinkCall.perform, appendGapAlert]
    abel
  · simp only [places, buffered, appendGapAlert]
    abel
  · rfl

end Appends

section Calls

/-- A call loses earlier records exactly if it is not safe. -/
theorem SinkCall.perform_accounts
    (sink : L0StorageSink Payload)
    (call : SinkCall Payload) :
    Accounts (sink.places + call.accepted sink)
      (call.perform sink).1.places (call.Safe sink) := by
  cases call with
  | appendRawMarketEvent draft publish file =>
      exact appendRawMarketEvent_accounts sink draft publish file
  | appendSourceHealth draft file =>
      exact appendSourceHealth_accounts sink draft file
  | appendSymbolHealth draft file =>
      exact appendSymbolHealth_accounts sink draft file
  | appendGapAlert draft file =>
      exact appendGapAlert_accounts sink draft file
  | flushAll files liveFlushFails =>
      have flushed := flushAll_accounts sink files liveFlushFails
      rwa [← add_zero sink.places] at flushed

/-- The record that a call appends carries the next ordinal. -/
theorem SinkCall.hasOrdinal_of_record?
    {sink : L0StorageSink Payload}
    {call : SinkCall Payload}
    {record : L0Record Payload}
    (appended : call.record? sink = some record) :
    record.HasOrdinal sink.nextOrdinal := by
  cases call with
  | flushAll => cases appended
  | _ =>
      obtain rfl := Option.some.inj appended
      exact ⟨_, rfl⟩

/-- What both parts of a continued step preserve. -/
private theorem andThen_preserves
    {property : L0StorageSink Payload → Prop}
    {done : L0StorageSink Payload × Except StorageError Unit}
    (next :
      L0StorageSink Payload →
      L0StorageSink Payload × Except StorageError Unit)
    (first : property done.1)
    (second : ∀ sink, property sink → property (next sink).1) :
    property (L0StorageSink.andThen done next).1 := by
  obtain ⟨after, result⟩ := done
  cases result with
  | ok => exact second after first
  | error failure => exact first

/-- What the flush of every family preserves, the final flush preserves. -/
theorem flushAll_preserves
    {property : L0StorageSink Payload → Prop}
    {sink : L0StorageSink Payload}
    {files : L0StorageSink.FlushFiles}
    (liveFlushFails : Bool)
    (initially : property sink)
    (raw : ∀ sink, property sink → property (sink.flushRaw files).1)
    (health : ∀ sink, property sink → property (sink.flushHealth files).1)
    (symbolHealth :
      ∀ sink, property sink → property (sink.flushSymbolHealth files).1)
    (gap : ∀ sink, property sink → property (sink.flushGap files).1) :
    property (sink.flushAll files liveFlushFails).1 := by
  unfold L0StorageSink.flushAll
  refine andThen_preserves _ (raw sink initially) ?_
  intro afterRaw afterRawHolds
  refine andThen_preserves _ (health afterRaw afterRawHolds) ?_
  intro afterHealth afterHealthHolds
  refine andThen_preserves _
    (symbolHealth afterHealth afterHealthHolds) ?_
  intro afterSymbols afterSymbolsHolds
  refine andThen_preserves _ (gap afterSymbols afterSymbolsHolds) ?_
  intro afterGap afterGapHolds
  split_ifs
  · exact afterGapHolds
  · exact afterGapHolds

/-- A final flush takes no ordinal. -/
private theorem flushAll_nextOrdinal
    (sink : L0StorageSink Payload)
    (files : L0StorageSink.FlushFiles)
    (liveFlushFails : Bool) :
    (sink.flushAll files liveFlushFails).1.nextOrdinal =
      sink.nextOrdinal :=
  @flushAll_preserves _
    (fun current => current.nextOrdinal = sink.nextOrdinal) sink files
    liveFlushFails rfl (fun _ same => same) (fun _ same => same)
    (fun _ same => same) (fun _ same => same)

/-- Every append takes an ordinal, whatever its result is. -/
theorem SinkCall.perform_nextOrdinal
    (sink : L0StorageSink Payload)
    (call : SinkCall Payload) :
    (call.perform sink).1.nextOrdinal =
      sink.nextOrdinal + (call.record? sink).toList.length := by
  cases call with
  | appendRawMarketEvent draft publish file =>
      simp only [perform, record?, L0StorageSink.appendRawMarketEvent]
      split
      · rfl
      · rfl
  | flushAll files liveFlushFails =>
      exact flushAll_nextOrdinal sink files liveFlushFails
  | _ => rfl

end Calls

section Histories

/-- A sink with the drafts that were appended to it so far. -/
structure SinkHistory (Payload : Type) where
  sink : L0StorageSink Payload
  accepted : Multiset (L0Record Payload)
  rejected : Nat

/-- Nothing was appended yet. -/
def SinkHistory.start
    (config : AcceptedConfig)
    (hash : String → Nat)
    (livePublisher : Bool) : SinkHistory Payload where
  sink := .new config hash livePublisher
  accepted := 0
  rejected := 0

/-- The number of drafts whose append returned an error, none or one. -/
def SinkCall.rejected
    (sink : L0StorageSink Payload)
    (call : SinkCall Payload) : Nat :=
  match call.record? sink, (call.perform sink).2 with
  | some _, .error _ => 1
  | _, _ => 0

/-- Make one call. -/
def stepCall
    (history : SinkHistory Payload)
    (call : SinkCall Payload) : SinkHistory Payload where
  sink := (call.perform history.sink).1
  accepted := history.accepted + call.accepted history.sink
  rejected := history.rejected + call.rejected history.sink

open Classical in
/--
Every accepted draft is in exactly one place, and the report counts the rejected
drafts and the records of the places.
-/
structure Conserved (history : SinkHistory Payload) : Prop where
  onePlace :
    ∀ record ∈ history.accepted,
      history.sink.places.count record = 1
  counted :
    history.sink.recordCount =
      history.rejected +
        (history.sink.buffered.card +
          history.sink.ledger.uploadedRecords.length +
          history.sink.ledger.failedRecords.length)

/-- What holds of every history, also after a loss. -/
structure WellCounted (history : SinkHistory Payload) : Prop where
  ordinals :
    ∀ record ∈ history.accepted,
      ∃ ordinal < history.sink.nextOrdinal, record.HasOrdinal ordinal
  distinct : history.accepted.Nodup
  drafts :
    history.sink.nextOrdinal =
      history.accepted.card + history.rejected + 1
  within : history.sink.places ≤ history.accepted

variable {history : SinkHistory Payload}

/-- An append is either accepted or rejected. -/
private theorem accepted_cases
    (sink : L0StorageSink Payload)
    (call : SinkCall Payload) :
    call.accepted sink = 0 ∨
      ∃ record,
        call.record? sink = some record ∧
        call.accepted sink = {record} := by
  unfold SinkCall.accepted
  cases call.record? sink with
  | none => exact .inl rfl
  | some record =>
      cases (call.perform sink).2 with
      | ok => exact .inr ⟨record, rfl, rfl⟩
      | error => exact .inl rfl

/-- An append counts once, as accepted or as rejected. -/
private theorem card_accepted_add_rejected
    (sink : L0StorageSink Payload)
    (call : SinkCall Payload) :
    (call.accepted sink).card + call.rejected sink =
      (call.record? sink).toList.length := by
  unfold SinkCall.accepted SinkCall.rejected
  cases call.record? sink with
  | none => rfl
  | some record =>
      cases (call.perform sink).2 with
      | ok => rfl
      | error => rfl

/-- A well-counted history conserves its records if the places have them. -/
private theorem conserved_iff_places
    (wellCounted : WellCounted history) :
    Conserved history ↔
      history.sink.places = history.accepted := by
  classical
  have total :
      history.sink.places.card =
        history.sink.buffered.card +
          history.sink.ledger.uploadedRecords.length +
          history.sink.ledger.failedRecords.length := by
    simp [L0StorageSink.places, UploadLedger.records, add_assoc]
  constructor
  · intro conserved
    refine le_antisymm wellCounted.within ?_
    rw [Multiset.le_iff_subset wellCounted.distinct]
    intro record member
    have once := conserved.onePlace record member
    exact Multiset.count_pos.mp (by rw [once]; decide)
  · intro same
    refine ⟨?_, ?_⟩
    · intro record member
      rw [same]
      exact Multiset.count_eq_one_of_mem wellCounted.distinct member
    · rw [← total, same, L0StorageSink.recordCount, wellCounted.drafts]
      omega

/-- Every call keeps the history well counted. -/
private theorem stepCall_wellCounted
    (call : SinkCall Payload)
    (wellCounted : WellCounted history) :
    WellCounted (stepCall history call) := by
  have ordinal := call.perform_nextOrdinal history.sink
  obtain ⟨lost, balance, -⟩ := call.perform_accounts history.sink
  have once := card_accepted_add_rejected history.sink call
  have earlier :
      ∀ record ∈ history.accepted,
        ¬ record.HasOrdinal history.sink.nextOrdinal := by
    intro record member carries
    obtain ⟨own, below, ownCarries⟩ := wellCounted.ordinals record member
    have same := carries.unique ownCarries
    omega
  refine ⟨?_, ?_, ?_, ?_⟩
  · intro record member
    simp only [stepCall] at member ⊢
    rw [ordinal]
    rcases Multiset.mem_add.mp member with before | new
    · obtain ⟨own, below, carries⟩ := wellCounted.ordinals record before
      exact ⟨own, by omega, carries⟩
    · rcases accepted_cases history.sink call with
        none | ⟨appended, some, one⟩
      · simp [none] at new
      · rw [one, Multiset.mem_singleton] at new
        subst new
        refine ⟨history.sink.nextOrdinal, ?_,
          SinkCall.hasOrdinal_of_record? some⟩
        simp [some]
  · simp only [stepCall]
    rcases accepted_cases history.sink call with none | ⟨record, some, one⟩
    · simpa [none] using wellCounted.distinct
    · have fresh : record ∉ history.accepted := fun member =>
        earlier record member (SinkCall.hasOrdinal_of_record? some)
      rw [one, add_comm, Multiset.singleton_add, Multiset.nodup_cons]
      exact ⟨fresh, wellCounted.distinct⟩
  · have drafts := wellCounted.drafts
    simp only [stepCall, ordinal, Multiset.card_add]
    omega
  · calc
      (call.perform history.sink).1.places
          ≤ (call.perform history.sink).1.places + lost :=
        Multiset.le_add_right _ _
      _ = history.sink.places + call.accepted history.sink := balance
      _ ≤ history.accepted + call.accepted history.sink :=
        add_le_add_left wellCounted.within _

/-- In a conserved history, the next call conserves exactly if it is safe. -/
private theorem stepCall_conserved_iff
    (call : SinkCall Payload)
    (wellCounted : WellCounted history)
    (conserved : Conserved history) :
    Conserved (stepCall history call) ↔ call.Safe history.sink := by
  have places := (conserved_iff_places wellCounted).mp conserved
  obtain ⟨lost, balance, exactlySafe⟩ :=
    call.perform_accounts history.sink
  rw [conserved_iff_places (stepCall_wellCounted call wellCounted),
    ← exactlySafe]
  simp only [stepCall]
  rw [← places, ← balance]
  exact left_eq_add

/-- A history that has just started is well counted. -/
private theorem start_wellCounted
    (config : AcceptedConfig)
    (hash : String → Nat)
    (livePublisher : Bool) :
    WellCounted
      (.start config hash livePublisher : SinkHistory Payload) := by
  refine ⟨?_, ?_, ?_, ?_⟩
  · intro record member
    exact absurd member (Multiset.notMem_zero record)
  · exact Multiset.nodup_zero
  · rfl
  · exact le_refl (0 : Multiset (L0Record Payload))

/-- After safe calls, the accepted records are distinct and in the places. -/
theorem places_of_along_safe
    {config : AcceptedConfig}
    {hash : String → Nat}
    {livePublisher : Bool}
    {calls : List (SinkCall Payload)}
    (safe :
      Runs.Along stepCall
        (fun history call => call.Safe history.sink)
        (.start config hash livePublisher) calls) :
    (Runs.run stepCall (.start config hash livePublisher)
        calls).sink.places =
      (Runs.run stepCall (.start config hash livePublisher)
        calls).accepted ∧
    (Runs.run stepCall (.start config hash livePublisher)
      calls).accepted.Nodup := by
  have initially :=
    @start_wellCounted Payload config hash livePublisher
  have always :
      Runs.Always stepCall
        (fun history : SinkHistory Payload =>
          WellCounted history ∧ Conserved history)
        (.start config hash livePublisher) calls :=
    Runs.always_of_along
      ⟨initially, (conserved_iff_places initially).mpr rfl⟩
      (fun holds callSafe =>
        ⟨stepCall_wellCounted _ holds.1,
          (stepCall_conserved_iff _ holds.1 holds.2).mpr callSafe⟩)
      safe
  obtain ⟨wellCounted, conserved⟩ := always.final
  exact ⟨(conserved_iff_places wellCounted).mp conserved,
    wellCounted.distinct⟩

/--
In a history from a new sink, every accepted draft is in exactly one place after
every call, and the report counts them, exactly if no call takes earlier records
out of a buffer for a file that is then not written.
-/
theorem conserved_iff_safe
    (config : AcceptedConfig)
    (hash : String → Nat)
    (livePublisher : Bool)
    (calls : List (SinkCall Payload)) :
    Runs.Always stepCall Conserved
        (.start config hash livePublisher) calls ↔
      Runs.Along stepCall
        (fun history call => call.Safe history.sink)
        (.start config hash livePublisher) calls := by
  have initially :=
    @start_wellCounted Payload config hash livePublisher
  exact Runs.always_iff_along initially
    ((conserved_iff_places initially).mpr rfl)
    (fun call wellCounted => stepCall_wellCounted call wellCounted)
    (fun call wellCounted conserved =>
      stepCall_conserved_iff call wellCounted conserved)

/-- A configuration that flushes every second record of a partition. -/
def pairConfig : AcceptedConfig :=
  ⟨{ bucket := "market-l0"
     spoolRoot := "spool"
     runId := "run-1"
     flushRecords := 2
     shardCount := 1
     liveNats := none },
    rfl⟩

/-- A trade at the start of the epoch. -/
def tradeDraft : RawMarketEventDraft Unit where
  eventType := "trade"
  venue := "binance"
  symbolNative := "BTCUSDT"
  exchangeTimestampMs := 0
  ingestTimestampMs := 0
  payload := ()

/-- The second trade fills the buffer, and its file is not written. -/
def lossyCalls : List (SinkCall Unit) :=
  [.appendRawMarketEvent tradeDraft .noMarkPrice .uploaded,
    .appendRawMarketEvent tradeDraft .noMarkPrice .parquetFailed]

/-- The first trade was accepted and is in no place after the second one. -/
theorem lossyCalls_not_conserved :
    ¬ Runs.Always stepCall Conserved
      (.start pairConfig (fun _ => 0) false) lossyCalls := by
  classical
  intro always
  have conserved := always.final
  let first : L0Record Unit :=
    .raw (.fromDraft tradeDraft "run-1" 1)
  have acceptedFirst :
      (Runs.run stepCall (.start pairConfig (fun _ => 0) false)
        lossyCalls).accepted = {first} :=
    rfl
  have nowhere :
      (Runs.run stepCall (.start pairConfig (fun _ => 0) false)
        lossyCalls).sink.places = 0 :=
    rfl
  have once := conserved.onePlace first (by simp [acceptedFirst])
  simp [nowhere] at once

end Histories

end MarketIngest.Storage
