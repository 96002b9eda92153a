import MarketIngest.LiveUploads
import MarketIngest.StorageReport

namespace MarketIngest.Live

open Parquet (L0Draft)
open Runs
open Storage
  (L0Record L0StorageSink SinkHistory StorageError StorageReport stepCall)

/-!
# Whole runs of live workers

When its watch is over, a worker appends its final drafts, flushes its sink and
uploads the manifest.  Then it checks its report, and the run succeeds if the
report is accepted.
-/

/-- Why a run fails. -/
inductive SmokeError where
  | request
  | log
  | storage (failure : StorageError)
  | invalidMessage (message : String)
  deriving Repr, DecidableEq

variable {Stats Envelope : Type}

/-- Upload the manifest of the sink. -/
def Worker.uploadManifest
    (worker : Worker Stats Envelope)
    (uploadFails : Bool) : Worker Stats Envelope × Except StorageError Unit :=
  match worker.storage with
  | none => (worker, .ok ())
  | some sink =>
      let (after, result) := sink.uploadManifest uploadFails
      ({ worker with storage := some after }, result)

/-- Append the final drafts, flush the sink and upload the manifest. -/
def finalizeStorage
    (world : SinkWorld)
    (drafts : List L0Draft)
    (manifestFails : Bool)
    (worker : Worker Stats Envelope) :
    Worker Stats Envelope × Except StorageError Unit :=
  match worker.storage with
  | none => (worker, .ok ())
  | some _ =>
      match worker.appendDrafts world drafts with
      | (after, .error failure) => (after, .error failure)
      | (after, .ok ()) =>
          match after.flushAll world with
          | (flushed, .error failure) => (flushed, .error failure)
          | (flushed, .ok ()) => flushed.uploadManifest manifestFails

/-- What a worker meets when its watch is over. -/
structure Finish where
  sourceObservedAtMs : Int
  symbolsObservedAtMs : Int
  manifestFails : Bool

/-- End a run, if its watch is over. -/
def finishRun
    (world : SinkWorld)
    (drafts : Stats → List L0Draft)
    (validate : Stats → Option StorageReport → Except String Unit)
    (manifestFails : Bool)
    (watched : Watch Stats Envelope × Bool) :
    Worker Stats Envelope × Option (Except SmokeError Unit) :=
  let worker := watched.1.worker
  if watched.2 then
    match finalizeStorage world (drafts worker.stats) manifestFails worker with
    | (after, .error failure) => (after, some (.error (.storage failure)))
    | (after, .ok ()) =>
        match
          validate after.stats (after.storage.map L0StorageSink.report) with
        | .error message => (after, some (.error (.invalidMessage message)))
        | .ok () => (after, some (.ok ()))
  else
    (worker, none)

/-- What the uploaded records of a sink carry. -/
def uploadedDrafts (sink : L0StorageSink L0Draft) : Multiset L0Draft :=
  ↑(sink.ledger.uploadedRecords.map L0Record.payload)

section Finish

variable
  {initial : SinkHistory L0Draft}
  {world : SinkWorld}
  {drafts : List L0Draft}
  {manifestFails : Bool}
  {worker : Worker Stats Envelope}

/-- What was uploaded is all there is, if nothing waits and nothing failed. -/
theorem uploadedDrafts_eq_placed
    {sink : L0StorageSink L0Draft}
    (nothingWaits : sink.buffered = 0)
    (nothingFailed : sink.ledger.failedRecords = []) :
    uploadedDrafts sink = sink.placed := by
  unfold L0StorageSink.placed L0StorageSink.places
    Storage.UploadLedger.records
  rw [nothingWaits, nothingFailed, zero_add, Multiset.coe_nil, add_zero,
    Multiset.map_coe]
  rfl

/-- A flush that returns without an error leaves nothing in a buffer. -/
private theorem buffered_of_call
    (sink : HasSink initial worker)
    (ok : (worker.flushAll world).2 = .ok ()) :
    (run stepCall initial
      (worker.flushAll world).1.called).sink.buffered = 0 := by
  obtain ⟨-, called, result⟩ := call_of_hasSink sink
    (.flushAll (world.flush worker.called.length)
      (world.liveFlushFails worker.called.length))
  unfold Worker.flushAll at ok ⊢
  rw [result] at ok
  rw [called, run_append]
  exact Storage.buffered_of_flushAll ok

/-- The manifest holds no records. -/
private theorem uploadedDrafts_uploadManifest
    (sink : L0StorageSink L0Draft) :
    uploadedDrafts (sink.uploadManifest false).1 = uploadedDrafts sink := by
  have same :
      (sink.uploadManifest false).1.ledger.uploadedRecords =
        sink.ledger.uploadedRecords ++ [] :=
    rfl
  rw [uploadedDrafts, same, List.append_nil, uploadedDrafts]

/-- The worker after its flush, before it uploads the manifest. -/
structure Flushed
    (initial : SinkHistory L0Draft)
    (before flushed : Worker Stats Envelope)
    (drafts : List L0Draft) : Prop where
  taken : flushed.taken = before.taken ++ [.drafts drafts]
  counted : flushed.counted = before.counted
  stats : flushed.stats = before.stats
  stores : Stores initial before flushed ↑drafts
  returned :
    HasSink initial before →
    ReturnsAll initial before.called →
    ReturnsAll initial flushed.called
  nothingWaits : (run stepCall initial flushed.called).sink.buffered = 0

/-- A run that ends well appended and flushed everything before. -/
theorem finalizeStorage_ok
    (sink : HasSink initial worker)
    (ok : (finalizeStorage world drafts manifestFails worker).2 = .ok ()) :
    ∃ flushed,
      Flushed initial worker flushed drafts ∧
        finalizeStorage world drafts manifestFails worker =
          flushed.uploadManifest manifestFails := by
  have storage : worker.storage.isSome := by
    rw [sink]
    rfl
  obtain ⟨found, stored⟩ := Option.isSome_iff_exists.mp storage
  obtain ⟨stores, -⟩ :=
    @stores_appendAll _ _ initial world (worker.take (.drafts drafts)) drafts
  have frame :=
    Worker.appendAll_frame world drafts (worker.take (.drafts drafts))
  have returned :=
    @returnsAll_appendAll _ _ initial world (worker.take (.drafts drafts))
      drafts sink
  unfold finalizeStorage Worker.appendDrafts at ok ⊢
  rw [stored] at ok ⊢
  dsimp only at ok ⊢
  revert stores frame returned ok
  rcases (worker.take (.drafts drafts)).appendAll world drafts with
    ⟨after, failure | done⟩
  · intro ok
    cases ok
  · intro ok stores frame returned
    dsimp only at ok ⊢
    have afterSink := stores.sink sink
    have flushes := @stores_flushAll _ _ initial world after
    have flushFrame := Worker.flushAll_frame world after
    have flushReturned := @returnsAll_flushAll _ _ initial world after
      afterSink
    have empties := @buffered_of_call _ _ initial world after afterSink
    revert flushes flushFrame flushReturned empties ok
    rcases after.flushAll world with ⟨flushed, failure | done⟩
    · intro ok
      cases ok
    · intro _ flushes flushFrame flushReturned empties
      refine ⟨flushed, ?_, rfl⟩
      have together := stores.trans flushes
      rw [add_zero] at together
      exact
        { taken := flushFrame.1.trans frame.1
          counted := flushFrame.2.1.trans frame.2.1
          stats := flushFrame.2.2.trans frame.2.2
          stores := together.from_eq rfl rfl
          returned := fun _ before => flushReturned (returned before rfl) rfl
          nothingWaits := empties rfl }

/-- A worker that took its final drafts and flushed them stored them. -/
theorem Flushed.advances
    {venue : Venue Stats Envelope}
    {before flushed : Worker Stats Envelope}
    (done : Flushed initial before flushed drafts) :
    Advances initial venue before flushed :=
  .of_input done.taken done.stores

end Finish

section Success

variable
  {config : Storage.AcceptedConfig}
  {hash : String → Nat}
  {livePublisher : Bool}
  {venue : Venue Stats Envelope}
  {world : SinkWorld}
  {drafts : Stats → List L0Draft}
  {validate : Stats → Option StorageReport → Except String Unit}
  {manifestFails : Bool}
  {watched : Watch Stats Envelope × Bool}
  {after : Worker Stats Envelope}

/-- The history of a sink that was just created. -/
abbrev newSink
    (config : Storage.AcceptedConfig)
    (hash : String → Nat)
    (livePublisher : Bool) : SinkHistory L0Draft :=
  .start config hash livePublisher

/-- A run that succeeds flushed its sink, and its report was accepted. -/
theorem finishRun_ok
    (sink : HasSink (newSink config hash livePublisher) watched.1.worker)
    (ran :
      finishRun world drafts validate manifestFails watched =
        (after, some (.ok ()))) :
    ∃ flushed,
      Flushed (newSink config hash livePublisher) watched.1.worker flushed
          (drafts watched.1.worker.stats) ∧
        after =
          { flushed with
            storage :=
              some
                ((run stepCall (newSink config hash livePublisher)
                  flushed.called).sink.uploadManifest false).1 } ∧
        validate after.stats (after.storage.map L0StorageSink.report) =
          .ok () := by
  unfold finishRun at ran
  dsimp only at ran
  split at ran
  · have spec := @finalizeStorage_ok _ _ _ world
      (drafts watched.1.worker.stats) manifestFails _ sink
    revert spec ran
    rcases
      finalizeStorage world (drafts watched.1.worker.stats) manifestFails
        watched.1.worker with
      ⟨ended, failure | done⟩
    · intro ran
      cases ran
    · intro ran spec
      obtain ⟨flushed, flushes, same⟩ := spec rfl
      have storage := flushes.stores.sink sink
      have uploaded :
          manifestFails = false ∧
            ended =
              { flushed with
                storage :=
                  some
                    ((run stepCall (newSink config hash livePublisher)
                      flushed.called).sink.uploadManifest false).1 } := by
        unfold Worker.uploadManifest at same
        rw [storage] at same
        cases manifestFails with
        | false =>
            exact ⟨rfl, congrArg Prod.fst same⟩
        | true =>
            have failed := congrArg Prod.snd same
            cases failed
      dsimp only at ran
      split at ran
      · cases ran
      · next accepted =>
          obtain rfl : ended = after := congrArg Prod.fst ran
          exact ⟨flushed, flushes, uploaded.2, accepted⟩
  · cases ran

/-- What a run that succeeded uploaded. -/
structure Uploaded
    (initial : SinkHistory L0Draft)
    (venue : Venue Stats Envelope)
    (worker : Worker Stats Envelope)
    (sink : L0StorageSink L0Draft) : Prop where
  storage : worker.storage = some sink
  nothingWaits : sink.buffered = 0
  nothingFailed : sink.ledger.failedRecords = []
  noMore : uploadedDrafts sink ≤ offersOf venue worker.taken
  exactly :
    uploadedDrafts sink = offersOf venue worker.taken ↔
      KeepsAll initial worker.called

/-- A run that ends takes its final drafts last, and counts nothing more. -/
structure Ended
    (initial : SinkHistory L0Draft)
    (before after : Worker Stats Envelope)
    (drafts : Stats → List L0Draft) : Prop where
  taken : after.taken = before.taken ++ [.drafts (drafts after.stats)]
  counted : after.counted = before.counted
  stats : after.stats = before.stats
  returned :
    ReturnsAll initial before.called → ReturnsAll initial after.called

/--
A run whose accepted report has no failed upload uploaded the drafts of all that
it took, exactly if its sink kept every one of them.
-/
theorem finishRun_uploads
    {stats : Stats}
    (refuses :
      ∀ {stats report},
        validate stats (some report) = .ok () → report.failedUploadCount = 0)
    (advances :
      Advances (newSink config hash livePublisher) venue
        (.start stats (some (newSink config hash livePublisher).sink))
        watched.1.worker)
    (ran :
      finishRun world drafts validate manifestFails watched =
        (after, some (.ok ()))) :
    (∃ sink,
      Uploaded (newSink config hash livePublisher) venue after sink) ∧
      Ended (newSink config hash livePublisher) watched.1.worker after
        drafts ∧
      validate after.stats (after.storage.map L0StorageSink.report) =
        .ok () := by
  obtain ⟨flushed, flushes, rfl, accepted⟩ :=
    finishRun_ok advances.stored.sink ran
  refine ⟨?_, ?_, accepted⟩
  case refine_2 =>
    exact
      { taken := by
          rw [flushes.taken, flushes.stats]
        counted := flushes.counted
        stats := flushes.stats
        returned := flushes.returned advances.stored.sink }
  have stored := (advances.trans flushes.advances).stored
  have nothingFailed :
      (run stepCall (newSink config hash livePublisher)
        flushed.called).sink.ledger.failedRecords = [] :=
    Storage.countsFailures_run flushed.called (refuses accepted)
  have placed := uploadedDrafts_eq_placed flushes.nothingWaits nothingFailed
  obtain ⟨within, exactly⟩ :=
    @Storage.placed_iff_keeps _ config hash livePublisher flushed.called
  refine ⟨_, rfl, flushes.nothingWaits, nothingFailed, ?_, ?_⟩
  · rw [uploadedDrafts_uploadManifest, placed]
    exact within.trans stored.offered
  · rw [uploadedDrafts_uploadManifest, placed]
    constructor
    · intro same
      rw [KeepsAll, ← exactly]
      exact le_antisymm within (same ▸ stored.offered)
    · intro keeps
      exact (exactly.mpr keeps).trans (stored.complete keeps)

end Success

section Calm

/-- A world in which every file is written and uploaded. -/
def calmWorld : SinkWorld where
  publish := fun _ => .noMarkPrice
  file := fun _ => .uploaded
  flush := fun _ =>
    { raw := fun _ => .uploaded
      health := fun _ => .uploaded
      symbolHealth := fun _ => .uploaded
      gap := fun _ => .uploaded }
  liveFlushFails := fun _ => false

/-- An iteration in which nothing is due. -/
def quietIteration (startedAt : Nat) (arrival : Arrival) : Iteration where
  shutdownFlag := false
  startedAt := startedAt
  arrival := arrival
  checkedAt := startedAt
  pingFails := false
  batch := ⟨[], true⟩
  caughtUpAt := startedAt

/-- A session that takes a message and is then over. -/
def oneMessage (content : String) (overAt : Nat) : List Round :=
  [{ shutdownFlag := false
     startedAt := 0
     connection :=
      .opened 0
        [quietIteration 1 (.message (.text content) 2 110),
          quietIteration overAt .elapsed]
     nowMs := 120 }]

/-- The end of a run whose manifest is uploaded. -/
def calmFinish : Finish where
  sourceObservedAtMs := 120
  symbolsObservedAtMs := 120
  manifestFails := false

end Calm

end MarketIngest.Live
