import MarketIngest.Backfill
import MarketIngest.BootstrapNormalize

namespace MarketIngest.Supervisor

open S3 Normalize Storage Backfill

/-!
# The bootstrap of a chunk

A chunk that has no L0 marker is backfilled by a child process, and its exit
status decides whether the marker is written.  Then the subchunks are
normalized, and the exit statuses of those children decide whether the complete
marker is written.
-/

variable {Payload : Type}

/-- Arguments that the supervisor gives to the backfill of a chunk. -/
def backfillArgs
    (args : SupervisorArgs)
    (chunk : BootstrapChunk) : BackfillArgs where
  inputStartMs := chunk.startMs
  inputEndMs := chunk.endMs
  expectSymbolCount := args.expectSymbolCount
  symbols := args.bootstrapSymbols
  l0S3Bucket := args.l0S3Bucket
  l0SpoolRoot := args.l0SpoolRoot
  l0FlushRecords := args.l0FlushRecords
  l0ShardCount := args.l0ShardCount

/-- What the surroundings of the bootstrap of a chunk decide. -/
structure ChunkEnvironment (Payload : Type) where
  l0LookupFails : Bool
  spawnFails : Bool
  backfill : BackfillEnvironment Payload
  l0MarkerNowMs : Int
  l0MarkerPut : PutOutcome
  l1LookupFails : BootstrapChunk → Bool
  children : BootstrapChunk → NormalizeChild
  completeNowMs : Int
  completePut : PutOutcome

/-- What the bootstrap of a chunk did. -/
structure ChunkRun (Payload : Type) where
  bucket : Bucket
  backfill : Option (BackfillState Payload)
  l0Marked : Bool
  completeMarked : Bool
  result : Except SchedulerError Unit

/-- Run the backfill of a chunk; the flag is that it exited with success. -/
def runBackfillChild
    (args : SupervisorArgs)
    (environment : ChunkEnvironment Payload)
    (chunk : BootstrapChunk) :
    Option (BackfillState Payload) × Except SchedulerError Bool :=
  if environment.spawnFails then
    (none, .error .spawn)
  else
    let (state, result) :=
      runBackfill environment.backfill (backfillArgs args chunk)
    if environment.backfill.killedAfter.isSome then
      (state, .ok false)
    else
      (state, .ok (result matches .ok ()))

/-- Normalize a chunk that is in L0, and mark it complete. -/
def completeChunk
    (args : SupervisorArgs)
    (environment : ChunkEnvironment Payload)
    (chunk : BootstrapChunk)
    (backfill : Option (BackfillState Payload))
    (l0Marked : Bool)
    (bucket : Bucket) : ChunkRun Payload :=
  match runL1NormalizeChunk args environment.l1LookupFails
      environment.children chunk bucket with
  | (after, .error failure) =>
      { bucket := after
        backfill := backfill
        l0Marked := l0Marked
        completeMarked := false
        result := .error failure }
  | (after, .ok false) =>
      { bucket := after
        backfill := backfill
        l0Marked := l0Marked
        completeMarked := false
        result := .ok () }
  | (after, .ok true) =>
      let (marked, acknowledged) :=
        uploadJson after (completeMarkerKey chunk)
          (completeMarkerJson chunk environment.completeNowMs)
          environment.completePut
      { bucket := marked
        backfill := backfill
        l0Marked := l0Marked
        completeMarked := environment.completePut.applied
        result := if acknowledged then .ok () else .error .storage }

/-- Bootstrap one chunk. -/
def runBackfillChunk
    (args : SupervisorArgs)
    (environment : ChunkEnvironment Payload)
    (chunk : BootstrapChunk)
    (bucket : Bucket) : ChunkRun Payload :=
  if environment.l0LookupFails then
    { bucket := bucket
      backfill := none
      l0Marked := false
      completeMarked := false
      result := .error .storage }
  else if hasL0Success bucket chunk then
    completeChunk args environment chunk none false bucket
  else
    match runBackfillChild args environment chunk with
    | (backfill, .error failure) =>
        { bucket := bucket
          backfill := backfill
          l0Marked := false
          completeMarked := false
          result := .error failure }
    | (backfill, .ok false) =>
        { bucket := bucket
          backfill := backfill
          l0Marked := false
          completeMarked := false
          result := .ok () }
    | (backfill, .ok true) =>
        let (marked, acknowledged) :=
          uploadJson bucket (l0MarkerKey chunk)
            (l0MarkerJson chunk environment.l0MarkerNowMs)
            environment.l0MarkerPut
        if acknowledged then
          completeChunk args environment chunk backfill
            environment.l0MarkerPut.applied marked
        else
          { bucket := marked
            backfill := backfill
            l0Marked := environment.l0MarkerPut.applied
            completeMarked := false
            result := .error .storage }

section Markers

variable
  {args : SupervisorArgs}
  {environment : ChunkEnvironment Payload}
  {chunk : BootstrapChunk}
  {bucket : Bucket}

@[simp] theorem completeChunk_l0Marked
    (backfill : Option (BackfillState Payload))
    (l0Marked : Bool) :
    (completeChunk args environment chunk backfill l0Marked
      bucket).l0Marked = l0Marked := by
  unfold completeChunk
  split <;> rfl

@[simp] theorem completeChunk_backfill
    (backfill : Option (BackfillState Payload))
    (l0Marked : Bool) :
    (completeChunk args environment chunk backfill l0Marked
      bucket).backfill = backfill := by
  unfold completeChunk
  split <;> rfl

/-- The L0 marker is written after a backfill that exited with success. -/
theorem runBackfillChunk_l0Marked_iff :
    (runBackfillChunk args environment chunk bucket).l0Marked = true ↔
      environment.l0LookupFails = false ∧
        hasL0Success bucket chunk = false ∧
        (runBackfillChild args environment chunk).2 = .ok true ∧
        environment.l0MarkerPut.applied = true := by
  unfold runBackfillChunk
  cases environment.l0LookupFails with
  | true => simp
  | false =>
      cases hasL0Success bucket chunk with
      | true => simp
      | false =>
          rcases runBackfillChild args environment chunk with
            ⟨backfill, failure | (_ | _)⟩
          · simp
          · simp
          · cases environment.l0MarkerPut <;>
              simp [uploadJson, PutOutcome.acknowledged,
                PutOutcome.applied]

/-- When the marker is written, the run is that of the backfill child. -/
theorem runBackfillChunk_backfill
    (marked :
      (runBackfillChunk args environment chunk bucket).l0Marked = true) :
    (runBackfillChunk args environment chunk bucket).backfill =
      (runBackfillChild args environment chunk).1 := by
  obtain ⟨lookup, missing, exited, -⟩ :=
    runBackfillChunk_l0Marked_iff.mp marked
  unfold runBackfillChunk
  rcases child : runBackfillChild args environment chunk with
    ⟨backfill, result⟩
  rw [child] at exited
  simp only at exited
  simp only [lookup, missing, exited, Bool.false_eq_true, ↓reduceIte]
  split_ifs
  · simp
  · rfl

/-- A child that exited with success has made a backfill that returned. -/
theorem runBackfillChild_exited
    (exited :
      (runBackfillChild args environment chunk).2 = .ok true) :
    runBackfill environment.backfill (backfillArgs args chunk) =
      ((runBackfillChild args environment chunk).1, .ok ()) := by
  unfold runBackfillChild at exited ⊢
  generalize runBackfill environment.backfill
    (backfillArgs args chunk) = outcome at exited ⊢
  obtain ⟨state, result⟩ := outcome
  split_ifs at exited ⊢
  · cases exited
  · cases result with
    | ok => rfl
    | error failure => cases exited

end Markers

section L0Marker

variable
  {args : SupervisorArgs}
  {environment : ChunkEnvironment Payload}
  {chunk : BootstrapChunk}
  {bucket : Bucket}

/-- Every raw trade that a backfill appended is in an uploaded object. -/
def RawInL0 (state : BackfillState Payload) : Prop :=
  ∀ record ∈ state.history.accepted,
    record.isRaw = true →
    record ∈ state.history.sink.ledger.uploadedRecords

/-- No upload of a raw object that a backfill made failed. -/
def RawUploadsSucceed (state : BackfillState Payload) : Prop :=
  Runs.Along stepCall
    (fun history call => call.UploadsRaw history.sink)
    state.initial state.calls

/--
When the L0 marker of a chunk is written, the raw trades of its backfill are in
the L0 bucket exactly if no upload of a raw object failed.
-/
theorem l0Marker_sound_iff
    (args : SupervisorArgs)
    (environment : ChunkEnvironment Payload)
    (chunk : BootstrapChunk)
    (bucket : Bucket)
    (marked :
      (runBackfillChunk args environment chunk bucket).l0Marked = true) :
    ∃ state,
      (runBackfillChunk args environment chunk bucket).backfill =
        some state ∧
      (RawInL0 state ↔ RawUploadsSucceed state) := by
  have exited := (runBackfillChunk_l0Marked_iff.mp marked).2.2.1
  obtain ⟨state, earlier, shape, sound, calls⟩ :=
    runBackfill_returns (runBackfillChild_exited exited)
  refine ⟨state, ?_, ?_⟩
  · rw [runBackfillChunk_backfill marked, shape]
  · obtain ⟨config, hash, new⟩ := sound.new
    have returned := sound.returned
    unfold RawInL0 RawUploadsSucceed
    rw [sound.reached]
    rw [new, calls] at returned ⊢
    exact raw_uploaded_iff returned

/-- One market with one trade, and uploads that end as given. -/
def oneTradeBackfill (rawFile : FileOutcome) : BackfillEnvironment Unit where
  payloads :=
    { trade := fun _ _ => ()
      emptyGap := fun _ _ _ => ()
      symbolHealth := fun _ _ => ()
      sourceHealth := fun _ _ _ _ _ => () }
  hash := fun _ => 0
  nowSecs := 1700000000
  clockAt := fun _ => 1700000000000
  observedAtMs := 1700000000000
  enabledMarkets :=
    .ok [{ rawSymbol := "BTCUSDT", baseAsset := "BTC", quoteAsset := "USDT" }]
  clientFails := false
  sinkFails := false
  tradesByTime := fun _ =>
    some [{ aggregateTradeId := 7
            price := "1.0"
            quantity := "1.0"
            firstTradeId := 7
            lastTradeId := 7
            tradeTimestampMs := 3600001
            isBuyerMaker := false
            isBestMatch := true }]
  tradesFromId := fun _ => []
  fileAt := fun _ => .uploaded
  flushFiles :=
    { raw := fun _ => rawFile
      health := fun _ => .uploaded
      symbolHealth := fun _ => .uploaded
      gap := fun _ => .uploaded }
  manifestUploaded := true
  killedAfter := none

/-- The bootstrap of a chunk with that backfill. -/
def oneTradeChunk (rawFile : FileOutcome) : ChunkEnvironment Unit where
  l0LookupFails := false
  spawnFails := false
  backfill := oneTradeBackfill rawFile
  l0MarkerNowMs := 1700000000000
  l0MarkerPut := .stored
  l1LookupFails := fun _ => true
  children := fun _ =>
    { spawnFails := false
      killed := false
      preflightEnv := false
      preflightFails := false
      nowMs := 1700000000000
      outcome := .undisturbed ⟨0, 0⟩ }
  completeNowMs := 1700000000000
  completePut := .stored

/-- The first hour of the history. -/
def firstHour : BootstrapChunk where
  startMs := 3600000
  endMs := 7200000

/-- The supervisor, for one symbol. -/
def oneSymbolArgs : SupervisorArgs :=
  { SupervisorArgs.withBuckets "market-l0" "market-l1" with
    expectSymbolCount := ⟨1, Nat.one_pos⟩ }

/-- With all uploads successful, the marker of the hour is sound. -/
theorem l0Marker_sound_uploaded :
    (runBackfillChunk oneSymbolArgs (oneTradeChunk .uploaded) firstHour
        .empty).l0Marked = true ∧
      ∃ state,
        (runBackfillChunk oneSymbolArgs (oneTradeChunk .uploaded)
          firstHour .empty).backfill = some state ∧
        (RawInL0 state ↔ RawUploadsSucceed state) :=
  ⟨rfl, l0Marker_sound_iff _ _ _ _ rfl⟩

/-- The upload of the only trade fails, and the marker is written. -/
theorem l0Marker_without_trade :
    (runBackfillChunk oneSymbolArgs
        (oneTradeChunk (.uploadFailed "service unavailable")) firstHour
        .empty).l0Marked = true ∧
      ∃ state,
        (runBackfillChunk oneSymbolArgs
          (oneTradeChunk (.uploadFailed "service unavailable")) firstHour
          .empty).backfill = some state ∧
        ∃ record ∈ state.history.accepted,
          record.isRaw = true ∧
          record ∉ state.history.sink.ledger.uploadedRecords := by
  refine ⟨rfl, _, rfl, ?_⟩
  refine ⟨.raw (.fromDraft
    (rawTradeDraft (oneTradeBackfill .uploaded).payloads
      { rawSymbol := "BTCUSDT", baseAsset := "BTC", quoteAsset := "USDT" }
      { aggregateTradeId := 7
        price := "1.0"
        quantity := "1.0"
        firstTradeId := 7
        lastTradeId := 7
        tradeTimestampMs := 3600001
        isBuyerMaker := false
        isBestMatch := true }
      1700000000000)
    "market-backfill-binance-1700000000" 1), ?_, rfl, ?_⟩
  · exact Multiset.mem_coe.mpr (List.mem_cons_self ..)
  · -- Only the health records were uploaded.
    intro member
    have kinds :
        ∀ record ∈
          ((runBackfillChunk oneSymbolArgs
            (oneTradeChunk (.uploadFailed "service unavailable"))
            firstHour .empty).backfill.map
              (·.history.sink.ledger.uploadedRecords)).getD [],
          record.isRaw = false := by
      decide +kernel
    have notRaw := kinds _ member
    cases notRaw

end L0Marker

section CompleteMarker

variable
  {args : SupervisorArgs}
  {environment : ChunkEnvironment Payload}
  {chunk : BootstrapChunk}
  {bucket : Bucket}

/-- The complete marker is written after subchunks that exited with success. -/
private theorem completeChunk_completeMarked
    {backfill : Option (BackfillState Payload)}
    {l0Marked : Bool}
    (marked :
      (completeChunk args environment chunk backfill l0Marked
        bucket).completeMarked = true) :
    (runL1NormalizeChunk args environment.l1LookupFails
        environment.children chunk bucket).2 = .ok true ∧
      ∀ windowStartMs,
        pointerAt
            (completeChunk args environment chunk backfill l0Marked
              bucket).bucket
            1000 windowStartMs =
          pointerAt
            (runL1NormalizeChunk args environment.l1LookupFails
              environment.children chunk bucket).1
            1000 windowStartMs := by
  unfold completeChunk at marked ⊢
  split at marked
  · cases marked
  · cases marked
  · rename_i after normalized
    rw [normalized]
    exact ⟨rfl, fun windowStartMs =>
      pointerAt_uploadJson_completeMarker _ _ _ _ _ _⟩

/-- The part of a bootstrap that can write the complete marker. -/
private theorem runBackfillChunk_completeMarked
    (marked :
      (runBackfillChunk args environment chunk
        bucket).completeMarked = true) :
    ∃ backfill l0Marked before,
      runBackfillChunk args environment chunk bucket =
        completeChunk args environment chunk backfill l0Marked before ∧
      ∀ windowStartMs,
        pointerAt before 1000 windowStartMs =
          pointerAt bucket 1000 windowStartMs := by
  unfold runBackfillChunk at marked ⊢
  split_ifs at marked ⊢
  · exact ⟨none, false, bucket, rfl, fun _ => rfl⟩
  · split at marked
    · cases marked
    · cases marked
    · simp only at marked ⊢
      split_ifs at marked ⊢
      exact ⟨_, _, _, rfl, fun windowStartMs =>
        pointerAt_uploadJson_l0Marker _ _ _ _ _ _⟩

/--
When the complete marker of a chunk is written, all its subchunks have a success
pointer of their range exactly if each of them had one before or its child ran
without preflight and built with success.
-/
theorem completeMarker_sound_iff
    (args : SupervisorArgs)
    (environment : ChunkEnvironment Payload)
    (chunk : BootstrapChunk)
    (bucket : Bucket)
    (marked :
      (runBackfillChunk args environment chunk
        bucket).completeMarked = true) :
    (∀ subchunk ∈ normalizeSubchunks args chunk,
        hasL1Success
          (runBackfillChunk args environment chunk bucket).bucket
          subchunk = true) ↔
      ∀ subchunk ∈ normalizeSubchunks args chunk,
        hasL1Success bucket subchunk = true ∨
          ((environment.children subchunk).preflightEnv = false ∧
            (environment.children subchunk).outcome.build.status =
              .success) := by
  obtain ⟨backfill, l0Marked, before, shape, sameBefore⟩ :=
    runBackfillChunk_completeMarked marked
  rw [shape] at marked ⊢
  obtain ⟨finished, sameAfter⟩ := completeChunk_completeMarked marked
  refine forall₂_congr (fun subchunk member => ?_)
  rw [hasL1Success_congr (sameAfter subchunk.startMs),
    ← hasL1Success_congr (sameBefore subchunk.startMs)]
  exact runL1NormalizeSubchunks_hasL1Success
    (fun other inChunk => (bounds_of_mem_normalizeSubchunks inChunk).2.1)
    (normalizeSubchunks_ordered args chunk) finished member

/-- Every normalize child of the hour builds with the given result. -/
def uniformChunk (build : BuildResult) : ChunkEnvironment Unit :=
  { oneTradeChunk .uploaded with
    l1LookupFails := fun _ => false
    children := fun _ =>
      { spawnFails := false
        killed := false
        preflightEnv := false
        preflightFails := false
        nowMs := 1700000000000
        outcome := .undisturbed build } }

/-- The supervisor with a schedule of one window. -/
def everySecondArgs : SupervisorArgs :=
  { oneSymbolArgs with
    normalizeScheduleIntervalMs := defaultWindowMs }

/-- A chunk of two windows whose builds succeed is complete and normalized. -/
theorem completeMarker_sound_success :
    (runBackfillChunk everySecondArgs (uniformChunk ⟨0, 1⟩)
        ⟨3600000, 3602000⟩ .empty).completeMarked = true ∧
      ∀ subchunk ∈
        normalizeSubchunks everySecondArgs ⟨3600000, 3602000⟩,
        hasL1Success
          (runBackfillChunk everySecondArgs (uniformChunk ⟨0, 1⟩)
            ⟨3600000, 3602000⟩ .empty).bucket
          subchunk = true := by
  have marked :
      (runBackfillChunk everySecondArgs (uniformChunk ⟨0, 1⟩)
        ⟨3600000, 3602000⟩ .empty).completeMarked = true := by
    decide +kernel
  exact ⟨marked, (completeMarker_sound_iff _ _ _ _ marked).mpr
    (fun _ _ => .inr ⟨rfl, rfl⟩)⟩

/-- A bootstrap whose builds are blocked, and that writes the marker. -/
theorem completeMarker_blocked :
    (runBackfillChunk oneSymbolArgs (uniformChunk ⟨1, 0⟩) firstHour
        .empty).completeMarked = true ∧
      ∃ subchunk ∈ normalizeSubchunks oneSymbolArgs firstHour,
        hasL1Success
          (runBackfillChunk oneSymbolArgs (uniformChunk ⟨1, 0⟩) firstHour
            .empty).bucket
          subchunk = false := by
  refine ⟨by decide +kernel, ⟨3600000, 4500000⟩, by decide +kernel, ?_⟩
  decide +kernel

end CompleteMarker

end MarketIngest.Supervisor
