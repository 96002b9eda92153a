import MarketIngest.L0Sink

namespace MarketIngest.Storage

/-!
# The report of a sink

The report counts what a sink was given and what became of it.  It is uploaded
as the manifest of the run, and checked before the worker ends.  The manifest
lists itself, so it is uploaded with the entry that the sink adds afterwards.
-/

variable {Payload : Type}

/-- What a sink tells about itself. -/
structure StorageReport where
  bucket : String
  runId : String
  recordCount : Nat
  uploadedObjectCount : Nat
  uploadedObjectRetainedCount : Nat
  uploadedObjectDroppedCount : Nat
  uploadedObjects : List UploadedObject
  failedUploadCount : Nat
  failedUploadRetainedCount : Nat
  failedUploadDroppedCount : Nat
  failedUploads : List FailedUploadObject
  manifestKey : Option String
  deriving Repr, DecidableEq

namespace L0StorageSink

/-- The report of a sink. -/
def report (sink : L0StorageSink Payload) : StorageReport where
  bucket := sink.config.1.bucket
  runId := sink.config.1.runId
  recordCount := sink.recordCount
  uploadedObjectCount := sink.ledger.uploadedObjectCount
  uploadedObjectRetainedCount := sink.ledger.uploadedObjects.length
  uploadedObjectDroppedCount := sink.ledger.uploadedObjectDroppedCount
  uploadedObjects := sink.ledger.uploadedObjects
  failedUploadCount := sink.ledger.failedUploadCount
  failedUploadRetainedCount := sink.ledger.failedUploads.length
  failedUploadDroppedCount := sink.ledger.failedUploadDroppedCount
  failedUploads := sink.ledger.failedUploads
  manifestKey := sink.manifestKey

/-- The key of the manifest of a run. -/
def manifestObjectKey (config : L0StorageConfig) : String :=
  "runs/run_id=" ++ config.runId ++ "/manifest.json"

/-- The entry of the manifest in the list of objects. -/
def manifestObject (config : L0StorageConfig) : UploadedObject where
  objectFamily := "manifest"
  key := manifestObjectKey config
  localPath :=
    "s3://" ++ config.bucket ++ "/" ++ manifestObjectKey config
  recordCount := 1

/-- The report that is uploaded as the manifest. -/
def manifest (sink : L0StorageSink Payload) : StorageReport :=
  let named :=
    { sink with manifestKey := some (manifestObjectKey sink.config.1) }
  let report := named.report
  let (objects, dropped) :=
    pushCapped report.uploadedObjects (manifestObject sink.config.1)
      maxReportedObjects report.uploadedObjectDroppedCount
  { report with
    uploadedObjects := objects
    uploadedObjectDroppedCount := dropped
    uploadedObjectCount := report.uploadedObjectCount + 1
    uploadedObjectRetainedCount := objects.length }

/-- Upload the manifest, and list it. -/
def uploadManifest
    (sink : L0StorageSink Payload)
    (uploadFails : Bool) :
    L0StorageSink Payload × Except StorageError Unit :=
  let named :=
    { sink with manifestKey := some (manifestObjectKey sink.config.1) }
  if uploadFails then
    (named, .error .io)
  else
    ({ named with
        ledger :=
          named.ledger.recordUploadedObject (manifestObject sink.config.1) [] },
      .ok ())

/-- The manifest is the report that the sink has after its upload. -/
theorem report_uploadManifest
    (sink : L0StorageSink Payload) :
    (sink.uploadManifest false).1.report = sink.manifest := by
  unfold uploadManifest manifest UploadLedger.recordUploadedObject
  simp only [Bool.false_eq_true, if_false]
  rfl

end L0StorageSink

section Checks

variable (report : StorageReport)

/-- Some listed object is of the family. -/
def storageHasFamily (objectFamily : String) : Bool :=
  report.uploadedObjects.any fun object => object.objectFamily = objectFamily

/-- Require a listed object of the family. -/
def requireStorageFamily (venue objectFamily : String) : Except String Unit :=
  if storageHasFamily report objectFamily then
    .ok ()
  else
    .error (venue ++ " L0 storage did not upload " ++ objectFamily)

/-- The checks that the reports of all venues go through. -/
def validateCommonStorageReport (venue : String) : Except String Unit := do
  if report.failedUploadCount > 0 then
    .error
      (venue ++ " L0 storage exhausted retries for " ++
        toString report.failedUploadCount ++ " uploads")
  else if report.recordCount = 0 ∨ report.uploadedObjectCount = 0 then
    .error (venue ++ " L0 storage produced no objects")
  else if report.manifestKey.isNone then
    .error (venue ++ " L0 storage did not upload manifest.json")
  else do
    requireStorageFamily report venue "source_health"
    requireStorageFamily report venue "symbol_health"

/-- An accepted report has no failed upload. -/
theorem failedUploadCount_of_validate
    {report : StorageReport}
    {venue : String}
    (accepted : validateCommonStorageReport report venue = .ok ()) :
    report.failedUploadCount = 0 := by
  unfold validateCommonStorageReport at accepted
  split at accepted
  · cases accepted
  · omega

end Checks

end MarketIngest.Storage
