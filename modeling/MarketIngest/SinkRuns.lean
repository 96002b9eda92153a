import MarketIngest.SinkConservation
import Mathlib.Data.List.Induction

namespace MarketIngest.Storage

open Runs

/-!
# Sinks whose report has no failures

A worker hands drafts to its sink, flushes it and looks at the report.  A call
keeps its draft if it appends the draft and loses no earlier record.  If nothing
is buffered and no upload failed, then the uploaded records are those of all
drafts exactly if every call kept its draft.
-/

variable {Payload : Type}

/-- What a record carries besides its keys. -/
def L0Record.payload : L0Record Payload → Payload
  | .raw record => record.payload
  | .sourceHealth record => record.payload
  | .symbolHealth record => record.payload
  | .gap record => record.payload

namespace SinkCall

/-- The draft of a call, if it has one. -/
def offered : SinkCall Payload → Multiset Payload
  | .appendRawMarketEvent draft _ _ => {draft.payload}
  | .appendSourceHealth draft _ => {draft.payload}
  | .appendSymbolHealth draft _ => {draft.payload}
  | .appendGapAlert draft _ => {draft.payload}
  | .flushAll _ _ => 0

/-- The call appends its draft and loses no earlier record. -/
def Keeps (sink : L0StorageSink Payload) (call : SinkCall Payload) : Prop :=
  call.Safe sink ∧
    (call.offered ≠ 0 → (call.perform sink).2 = .ok ())

variable
  {sink : L0StorageSink Payload}
  {call : SinkCall Payload}

/-- A call that returns without an error lost no earlier record. -/
theorem safe_of_ok
    (returned : (call.perform sink).2 = .ok ()) :
    call.Safe sink := by
  cases call with
  | appendRawMarketEvent draft publish file =>
      intro published
      have publishes :
          ({ sink with nextOrdinal := sink.nextOrdinal + 1 } :
            L0StorageSink Payload).publishLiveTick publish = .ok () :=
        published
      simp only [perform, L0StorageSink.appendRawMarketEvent,
        publishes] at returned
      exact appendSafe_of_ok returned
  | appendSourceHealth draft file =>
      exact appendSafe_of_ok returned
  | appendSymbolHealth draft file =>
      exact appendSafe_of_ok returned
  | appendGapAlert draft file =>
      exact appendSafe_of_ok returned
  | flushAll files liveFlushFails =>
      obtain ⟨raw, returned⟩ := andThen_ok_iff.mp returned
      obtain ⟨health, returned⟩ := andThen_ok_iff.mp returned
      obtain ⟨symbols, returned⟩ :=
        andThen_ok_iff.mp returned
      obtain ⟨gap, -⟩ := andThen_ok_iff.mp returned
      have healthSafe := (flushHealth_ok_iff _ files).mp health
      have symbolsSafe := (flushSymbolHealth_ok_iff _ files).mp symbols
      have gapSafe := (flushGap_ok_iff _ files).mp gap
      rw [flushRaw_health] at healthSafe
      rw [flushHealth_symbolHealth, flushRaw_symbolHealth] at symbolsSafe
      rw [flushSymbolHealth_gap, flushHealth_gap, flushRaw_gap] at gapSafe
      exact ⟨(flushRaw_ok_iff _ _).mp raw, healthSafe, symbolsSafe, gapSafe⟩

/-- A call that returns without an error keeps its draft. -/
theorem keeps_of_ok
    (returned : (call.perform sink).2 = .ok ()) :
    call.Keeps sink :=
  ⟨safe_of_ok returned, fun _ => returned⟩

/-- What a call accepts is its draft, unless it returns an error. -/
theorem map_payload_accepted :
    (call.accepted sink).map L0Record.payload =
      match (call.perform sink).2 with
      | .ok () => call.offered
      | .error _ => 0 := by
  unfold accepted
  cases call with
  | flushAll files liveFlushFails =>
      dsimp only [record?]
      cases (perform sink (.flushAll files liveFlushFails)).2 <;> rfl
  | appendRawMarketEvent draft publish file =>
      dsimp only [record?]
      cases (perform sink (.appendRawMarketEvent draft publish file)).2 <;>
        rfl
  | appendSourceHealth draft file =>
      dsimp only [record?]
      cases (perform sink (.appendSourceHealth draft file)).2 <;> rfl
  | appendSymbolHealth draft file =>
      dsimp only [record?]
      cases (perform sink (.appendSymbolHealth draft file)).2 <;> rfl
  | appendGapAlert draft file =>
      dsimp only [record?]
      cases (perform sink (.appendGapAlert draft file)).2 <;> rfl

end SinkCall

/-- The drafts of some calls. -/
def offeredBy (calls : List (SinkCall Payload)) : Multiset Payload :=
  (calls.map SinkCall.offered).sum

/-- What the records of a sink carry, wherever they are. -/
def L0StorageSink.placed (sink : L0StorageSink Payload) : Multiset Payload :=
  sink.places.map L0Record.payload

section Calls

variable
  {sink : L0StorageSink Payload}
  {call : SinkCall Payload}
  {before : Multiset Payload}

/-- A call adds no more than its draft. -/
private theorem placed_perform_le
    (within : sink.placed ≤ before) :
    (call.perform sink).1.placed ≤ before + call.offered := by
  obtain ⟨lost, balance, -⟩ := call.perform_accounts sink
  have accepted : (call.accepted sink).map L0Record.payload ≤ call.offered := by
    rw [SinkCall.map_payload_accepted]
    cases (call.perform sink).2 with
    | ok => exact le_rfl
    | error => exact Multiset.zero_le _
  calc
    (call.perform sink).1.placed
        ≤ ((call.perform sink).1.places + lost).map L0Record.payload :=
      Multiset.map_le_map (Multiset.le_add_right _ _)
    _ = sink.placed + (call.accepted sink).map L0Record.payload := by
      rw [balance, Multiset.map_add]
      rfl
    _ ≤ before + call.offered := add_le_add within accepted

/-- A call adds its draft exactly if it keeps it, and nothing comes back. -/
private theorem placed_perform_iff
    (within : sink.placed ≤ before) :
    (call.perform sink).1.placed = before + call.offered ↔
      sink.placed = before ∧ call.Keeps sink := by
  obtain ⟨lost, balance, exactlySafe⟩ := call.perform_accounts sink
  have total :
      (call.perform sink).1.placed + lost.map L0Record.payload =
        sink.placed + (call.accepted sink).map L0Record.payload := by
    rw [L0StorageSink.placed, ← Multiset.map_add, balance, Multiset.map_add]
    rfl
  rw [SinkCall.map_payload_accepted] at total
  have counted := congrArg Multiset.card total
  have below := Multiset.card_le_card within
  simp only [Multiset.card_add, Multiset.card_map] at counted
  unfold SinkCall.Keeps
  cases result : (call.perform sink).2 with
  | ok =>
      rw [result] at total counted
      dsimp only at total counted
      constructor
      · intro same
        have none : lost = 0 := by
          rw [← Multiset.card_eq_zero]
          rw [same, Multiset.card_add] at counted
          omega
        refine ⟨?_, exactlySafe.mp none, fun _ => rfl⟩
        rw [none, Multiset.map_zero, add_zero, same] at total
        exact (add_right_cancel total).symm
      · rintro ⟨same, safe, -⟩
        rw [exactlySafe.mpr safe, Multiset.map_zero, add_zero, same] at total
        exact total
  | error failure =>
      rw [result] at total counted
      dsimp only at total counted
      rw [add_zero] at total
      constructor
      · intro same
        have nothing : call.offered = 0 ∧ lost = 0 := by
          rw [← Multiset.card_eq_zero, ← Multiset.card_eq_zero]
          rw [same, Multiset.card_add, Multiset.card_zero] at counted
          omega
        obtain ⟨noDraft, noneLost⟩ := nothing
        rw [noneLost, Multiset.map_zero, add_zero] at total
        rw [noDraft, add_zero] at same
        exact ⟨total.symm.trans same, exactlySafe.mp noneLost,
          absurd noDraft⟩
      · rintro ⟨same, safe, kept⟩
        have none : call.offered = 0 := by
          by_contra some
          cases kept some
        rw [none, add_zero, ← same, ← total, exactlySafe.mpr safe,
          Multiset.map_zero, add_zero]

end Calls

section Histories

variable
  {config : AcceptedConfig}
  {hash : String → Nat}
  {livePublisher : Bool}

/-- The sink has the drafts of all calls exactly if each kept its own. -/
theorem placed_iff_keeps
    (calls : List (SinkCall Payload)) :
    let history :=
      run stepCall (.start config hash livePublisher) calls
    history.sink.placed ≤ offeredBy calls ∧
      (history.sink.placed = offeredBy calls ↔
        Along stepCall (fun history call => call.Keeps history.sink)
          (.start config hash livePublisher) calls) := by
  induction calls using List.reverseRecOn with
  | nil =>
      refine ⟨le_rfl, ?_⟩
      simp [Along]
      rfl
  | append_singleton calls call inductionHypothesis =>
      obtain ⟨within, exactly⟩ := inductionHypothesis
      have offered : offeredBy (calls ++ [call]) = offeredBy calls + call.offered := by
        simp [offeredBy]
      dsimp only
      rw [run_append, offered, along_append, ← exactly]
      refine ⟨placed_perform_le within, ?_⟩
      simp only [Along, and_true]
      exact placed_perform_iff within

end Histories

section FinalFlush

variable
  {sink : L0StorageSink Payload}
  {files : L0StorageSink.FlushFiles}
  {liveFlushFails : Bool}

private theorem flushRaw_empties
    (returned : (sink.flushRaw files).2 = .ok ()) :
    (sink.flushRaw files).1.raw.records rawFamily = 0 :=
  flushPartitions_records_of_ok returned

private theorem flushHealth_empties
    (returned : (sink.flushHealth files).2 = .ok ()) :
    (sink.flushHealth files).1.health.records healthFamily = 0 ∧
      (sink.flushHealth files).1.raw = sink.raw :=
  ⟨flushPartitions_records_of_ok returned, rfl⟩

private theorem flushSymbolHealth_empties
    (returned : (sink.flushSymbolHealth files).2 = .ok ()) :
    (sink.flushSymbolHealth files).1.symbolHealth.records
        symbolHealthFamily = 0 ∧
      (sink.flushSymbolHealth files).1.raw = sink.raw ∧
      (sink.flushSymbolHealth files).1.health = sink.health :=
  ⟨flushPartitions_records_of_ok returned, rfl, rfl⟩

private theorem flushGap_empties
    (returned : (sink.flushGap files).2 = .ok ()) :
    (sink.flushGap files).1.gap.records gapFamily = 0 ∧
      (sink.flushGap files).1.raw = sink.raw ∧
      (sink.flushGap files).1.health = sink.health ∧
      (sink.flushGap files).1.symbolHealth = sink.symbolHealth :=
  ⟨flushPartitions_records_of_ok returned, rfl, rfl, rfl⟩

/-- A final flush that succeeds leaves nothing in a buffer. -/
theorem buffered_of_flushAll
    (returned : (sink.flushAll files liveFlushFails).2 = .ok ()) :
    (sink.flushAll files liveFlushFails).1.buffered = 0 := by
  unfold L0StorageSink.flushAll at returned ⊢
  obtain ⟨raw, returned⟩ := andThen_ok_iff.mp returned
  obtain ⟨health, returned⟩ := andThen_ok_iff.mp returned
  obtain ⟨symbols, returned⟩ := andThen_ok_iff.mp returned
  obtain ⟨gap, -⟩ := andThen_ok_iff.mp returned
  rw [andThen_of_ok raw, andThen_of_ok health, andThen_of_ok symbols,
    andThen_of_ok gap]
  have rawEmpty := flushRaw_empties raw
  obtain ⟨healthEmpty, sameRaw⟩ := flushHealth_empties health
  obtain ⟨symbolsEmpty, sameRaw', sameHealth⟩ :=
    flushSymbolHealth_empties symbols
  obtain ⟨gapEmpty, sameRaw'', sameHealth', sameSymbols⟩ :=
    flushGap_empties gap
  generalize (sink.flushRaw files).1 = afterRaw at *
  generalize (afterRaw.flushHealth files).1 = afterHealth at *
  generalize (afterHealth.flushSymbolHealth files).1 = afterSymbols at *
  generalize (afterSymbols.flushGap files).1 = afterGap at *
  have empty : afterGap.buffered = 0 := by
    rw [L0StorageSink.buffered, gapEmpty, sameSymbols, symbolsEmpty,
      sameHealth', sameHealth, healthEmpty, sameRaw'', sameRaw', sameRaw,
      rawEmpty]
    rfl
  split <;> exact empty

/-- If no failure was counted, no record was given up. -/
def CountsFailures (ledger : UploadLedger Payload) : Prop :=
  ledger.failedUploadCount = 0 → ledger.failedRecords = []

section Ledger

variable
  {Key Record : Type}
  [LinearOrder Key]
  {config : L0StorageConfig}
  {family : ObjectFamily Key Record Payload}
  {buffered : PartitionBuffers Key Record}
  {ledger : UploadLedger Payload}

private theorem countsFailures_flushPartition
    (counts : CountsFailures ledger)
    (partition : Key)
    (outcome : FileOutcome) :
    CountsFailures
      (flushPartition config family partition outcome buffered ledger).2.1 := by
  unfold flushPartition
  split
  · exact counts
  · dsimp only
    split
    · exact counts
    · split
      · exact counts
      · exact counts
      · unfold upload
        split
        · intro none
          cases none
        · exact counts

private theorem countsFailures_appendRecord
    (counts : CountsFailures ledger)
    (partition : Key)
    (record : Record)
    (outcome : FileOutcome) :
    CountsFailures
      (appendRecord config family partition record outcome buffered
        ledger).2.1 := by
  unfold appendRecord
  dsimp only
  split
  · exact countsFailures_flushPartition counts partition outcome
  · exact counts

private theorem countsFailures_flushPartitions
    (counts : CountsFailures ledger)
    (outcomes : Key → FileOutcome)
    (partitions : List Key) :
    CountsFailures
      (flushPartitions config family outcomes partitions buffered
        ledger).2.1 := by
  induction partitions generalizing buffered ledger with
  | nil =>
      exact counts
  | cons partition rest inductionHypothesis =>
      have flushed :=
        @countsFailures_flushPartition _ _ _ _ config family buffered _ counts
          partition (outcomes partition)
      unfold flushPartitions
      split
      · next after flushedLedger result =>
          rw [result] at flushed
          exact inductionHypothesis flushed
      · next after flushedLedger failure result =>
          rw [result] at flushed
          exact flushed

end Ledger

/-- Every call counts the uploads that it gives up. -/
private theorem countsFailures_perform
    (counts : CountsFailures sink.ledger)
    (call : SinkCall Payload) :
    CountsFailures (call.perform sink).1.ledger := by
  cases call with
  | appendRawMarketEvent draft publish file =>
      simp only [SinkCall.perform, L0StorageSink.appendRawMarketEvent]
      split
      · exact counts
      · exact countsFailures_appendRecord counts _ _ _
  | appendSourceHealth draft file =>
      exact countsFailures_appendRecord counts _ _ _
  | appendSymbolHealth draft file =>
      exact countsFailures_appendRecord counts _ _ _
  | appendGapAlert draft file =>
      exact countsFailures_appendRecord counts _ _ _
  | flushAll files liveFlushFails =>
      exact @flushAll_preserves _ (fun sink => CountsFailures sink.ledger) sink
        files liveFlushFails counts
        (fun _ counts => countsFailures_flushPartitions counts _ _)
        (fun _ counts => countsFailures_flushPartitions counts _ _)
        (fun _ counts => countsFailures_flushPartitions counts _ _)
        (fun _ counts => countsFailures_flushPartitions counts _ _)

/-- A sink counts the uploads that were given up. -/
theorem countsFailures_run
    {config : AcceptedConfig}
    {hash : String → Nat}
    {livePublisher : Bool}
    (calls : List (SinkCall Payload)) :
    CountsFailures
      (run stepCall (.start config hash livePublisher) calls).sink.ledger :=
  @run_induction _ _ stepCall
    (fun history : SinkHistory Payload => CountsFailures history.sink.ledger)
    _ calls (fun _ => rfl) (fun counts => countsFailures_perform counts _)

end FinalFlush

end MarketIngest.Storage
