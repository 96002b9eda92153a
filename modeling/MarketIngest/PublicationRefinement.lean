import MarketIngest.PublishedObjects

namespace MarketIngest.Publish

open Normalize S3

/-!
# Records of the detailed publication

The detailed publication uploads every object of a run; the publication of
records alone leaves out slices and projections and keeps of the records the
fields that the scheduler reads.  Both write the same records: whatever happens
to the requests of the detailed one, the other one has an outcome that leaves
the same reports, manifests and pointers behind.
-/

/-- The fields of a report that are kept. -/
def NormalizationReport.json (report : NormalizationReport) : JsonDocument :=
  [("schema_version", .text report.schemaVersion),
    ("l1_run_id", .text report.l1RunId),
    ("input_time_range_start_ms", .i64 report.inputTimeRangeStartMs),
    ("input_time_range_end_ms", .i64 report.inputTimeRangeEndMs),
    ("payload_hash_mismatch_count", .i64 report.payloadHashMismatchCount),
    ("slice_count_total", .i64 report.sliceCountTotal),
    ("status", .text report.status),
    ("failure_reason",
      match report.failureReason with
      | some reason => .text reason
      | none => .null),
    ("manifest_key", .text report.manifestKey),
    ("started_at_ms", .i64 report.startedAtMs),
    ("finished_at_ms", .i64 report.finishedAtMs),
    ("schema_version_emitted", .text report.schemaVersionEmitted)]

/-- The fields of a manifest that are kept. -/
def L1Manifest.json (stored : L1Manifest) : JsonDocument :=
  [("schema_version", .text stored.schemaVersion),
    ("l1_run_id", .text stored.l1RunId),
    ("status", .text stored.status),
    ("input_time_range_start_ms", .i64 stored.inputTimeRangeStartMs),
    ("input_time_range_end_ms", .i64 stored.inputTimeRangeEndMs),
    ("schema_version_emitted", .text stored.schemaVersionEmitted),
    ("report_key", .text stored.reportKey),
    ("output_record_count", .i64 stored.outputRecordCount),
    ("slice_count_total", .i64 stored.sliceCountTotal),
    ("finished_at_ms", .i64 stored.finishedAtMs)]

/-- Reports, manifests and pointers are records. -/
def ObjectKind.isRecord : ObjectKind → Bool
  | .slices => false
  | .report => true
  | .projection => false
  | .manifest => true
  | .pointer => true

variable {Number : Type}

/-- The document of a record. -/
def L1Object.document? : L1Object Number → Option JsonDocument
  | .slices _ => none
  | .projection _ => none
  | .report stored => some stored.json
  | .manifest stored => some stored.json
  | .pointer document => some document

/-- The buckets hold the same records. -/
def SameRecords
    (detailed : L1Bucket Number)
    (records : Bucket) : Prop :=
  ∀ kind key,
    ObjectKind.isRecord kind = true →
    kind.Owns key →
    records.get? key = (detailed.get? key).bind L1Object.document?

section Buckets

variable
  {detailed : L1Bucket Number}
  {records : Bucket}
  {key : String}

/-- An object of another family is no record. -/
theorem SameRecords.insert_other
    (same : SameRecords detailed records)
    {kind : ObjectKind}
    (noRecord : kind.isRecord = false)
    (owned : kind.Owns key)
    (object : L1Object Number) :
    SameRecords (detailed.insert key object) records := by
  intro recordKind recordKey isRecord ownedRecord
  have differs : recordKey ≠ key := by
    rintro rfl
    rw [ObjectKind.eq_of_owns owned ownedRecord, isRecord] at noRecord
    cases noRecord
  rw [detailed.get?_insert_other differs]
  exact same recordKind recordKey isRecord ownedRecord

/-- A record is added to both buckets. -/
theorem SameRecords.insert_record
    (same : SameRecords detailed records)
    {object : L1Object Number}
    {document : JsonDocument}
    (recorded : object.document? = some document) :
    SameRecords (detailed.insert key object)
      (records.insert key document) := by
  intro recordKind recordKey isRecord ownedRecord
  rw [OrderedMap.get?_insert, OrderedMap.get?_insert]
  split_ifs with sameKey
  · exact recorded.symm
  · exact same recordKind recordKey isRecord ownedRecord

/-- A PUT of a record has the same effect on both buckets. -/
theorem SameRecords.put
    (same : SameRecords detailed records)
    {object : L1Object Number}
    {document : JsonDocument}
    (recorded : object.document? = some document)
    (outcome : PutOutcome) :
    SameRecords
      (if outcome.applied then detailed.insert key object else detailed)
      (uploadJson records key document outcome).1 := by
  unfold uploadJson
  split_ifs with applied
  · exact same.insert_record recorded
  · exact same

end Buckets

section Artifacts

variable {records : Bucket}

/-- The records of a process are those of the other bucket. -/
def SameRecordsState
    (records : Bucket)
    (state : PublishState Number) : Prop :=
  SameRecords state.bucket records

/-- A request that writes no record leaves the records. -/
theorem request_sameRecords
    {failure : RunError}
    {change : L1Bucket Number → L1Bucket Number}
    (kept :
      ∀ bucket, SameRecords bucket records →
        SameRecords (change bucket) records) :
    Fallible.Preserves (SameRecordsState records)
      (request failure change) := by
  refine (request_ensures (fun bucket => SameRecords bucket records)
    kept).imp (fun _ => id) ?_ (fun _ => id)
  rintro _ state ⟨bucket, same, changed⟩
  rw [SameRecordsState, changed]
  exact kept bucket same

/-- The upload of another object leaves the records. -/
theorem uploadObject_sameRecords
    {failure : RunError}
    {kind : ObjectKind}
    (noRecord : kind.isRecord = false)
    {key : String}
    (owned : kind.Owns key)
    (object : L1Object Number) :
    Fallible.Preserves (SameRecordsState records)
      (uploadObject failure key object) :=
  request_sameRecords (fun _ same => same.insert_other noRecord owned _)

/-- Uploads of other objects leave the records. -/
theorem uploadAll_sameRecords
    {failure : RunError}
    {kind : ObjectKind}
    (noRecord : kind.isRecord = false)
    {objects : List (String × L1Object Number)}
    (owned : ∀ object ∈ objects, kind.Owns object.1) :
    Fallible.Preserves (SameRecordsState records)
      (uploadAll failure objects) := by
  induction objects with
  | nil =>
      exact Fallible.preserves_pure _
  | cons object rest inductionHypothesis =>
      obtain ⟨ofFirst, ofRest⟩ := List.forall_mem_cons.mp owned
      apply Fallible.preserves_bind
        (uploadObject_sameRecords noRecord ofFirst _)
      intro _
      exact Fallible.preserves_bind (inductionHypothesis ofRest)
        (fun _ => Fallible.preserves_pure _)

/-- The slices of a run leave the records. -/
theorem publishSliceParquets_sameRecords
    (run : FinishedRun Number) :
    Fallible.Preserves (SameRecordsState records)
      (publishSliceParquets run) := by
  have owned :
      ∀ object ∈
        (sliceObjects run.l1RunId run.args.windowMs run.build.slices).map
          (fun object =>
            (object.1, (.slices object.2 : L1Object Number))),
        ObjectKind.slices.Owns object.1 := by
    intro object member
    obtain ⟨⟨key, rows⟩, inObjects, rfl⟩ := List.mem_map.mp member
    obtain ⟨venue, windowStartMs, rfl⟩ :=
      exists_sliceObjectKey_of_mem inObjects
    exact owns_sliceObjectKey _ _ _ _
  exact Fallible.preserves_bind (uploadAll_sameRecords rfl owned)
    (fun _ => Fallible.preserves_pure _)

/-- The slices and projections of a run leave the records. -/
theorem publishArtifacts_sameRecords
    [NumberFormat Number]
    (sha256Hex : String → String)
    (run : FinishedRun Number) :
    Fallible.Preserves (SameRecordsState records)
      (publishArtifacts run sha256Hex) := by
  have projection
      {key : String}
      (owned : ObjectKind.projection.Owns key)
      (object : L1Object Number) :
      Fallible.Preserves (SameRecordsState records)
        (uploadObject .artifacts key object) :=
    uploadObject_sameRecords rfl owned object
  have rollups :
      ∀ object ∈
        (run.currentRollups sha256Hex).map (fun rollup =>
          (symbolUniverseBootstrapRollupObjectKey rollup.dayStartMs,
            (.projection .symbolUniverseBootstrapRollup :
              L1Object Number))),
        ObjectKind.projection.Owns object.1 := by
    intro object member
    obtain ⟨rollup, _, rfl⟩ := List.mem_map.mp member
    exact owns_symbolUniverseBootstrapRollupObjectKey _
  unfold publishArtifacts
  apply Fallible.preserves_bind (publishSliceParquets_sameRecords run)
  intro _
  apply Fallible.preserves_bind
    (Fallible.preserves_bind
      (projection (owns_marketDataQualitySummaryObjectKey _) _)
      (fun _ => Fallible.preserves_pure _))
  intro _
  apply Fallible.preserves_bind
    (Fallible.preserves_bind
      (projection (owns_marketFeatureDeltaSummaryObjectKey _) _)
      (fun _ => Fallible.preserves_bind
        (projection (owns_marketFeatureDeltaObjectKey _) _)
        (fun _ => Fallible.preserves_pure _)))
  intro _
  apply Fallible.preserves_bind
    (Fallible.preserves_bind
      (projection (owns_marketRegimeContextObjectKey _) _)
      (fun _ => Fallible.preserves_pure _))
  intro _
  apply Fallible.preserves_bind (request_sameRecords (fun _ same => same))
  intro _
  apply Fallible.preserves_bind (uploadAll_sameRecords rfl rollups)
  intro _
  exact Fallible.preserves_bind
    (projection (owns_symbolUniverseSnapshotObjectKey _) _)
    (fun _ => Fallible.preserves_pure _)

end Artifacts

section Records

/-- What happens to the pointer of each window. -/
def pointerFate :
    List Int → List PutOutcome → Int → PutOutcome
  | [], _, _ => .rejected
  | _ :: _, [], _ => .rejected
  | windowStartMs :: rest, outcome :: fate, wanted =>
      if wanted = windowStartMs then outcome
      else pointerFate rest fate wanted

/-- Uploads of pointers that are all rejected change nothing. -/
private theorem foldl_rejected
    (records : Bucket)
    (keyOf : Int → String)
    (documentOf : Int → JsonDocument)
    {pointerPut : Int → PutOutcome}
    {windowStarts : List Int}
    (rejected :
      ∀ windowStartMs ∈ windowStarts,
        pointerPut windowStartMs = .rejected) :
    windowStarts.foldl
        (fun current windowStartMs =>
          (uploadJsonIfPointerCurrent current (keyOf windowStartMs)
            (documentOf windowStartMs) (pointerPut windowStartMs)).1)
        records =
      records := by
  induction windowStarts with
  | nil =>
      rfl
  | cons windowStartMs rest inductionHypothesis =>
      obtain ⟨first, others⟩ := List.forall_mem_cons.mp rejected
      rw [List.foldl_cons, uploadJsonIfPointerCurrent_eq, first]
      exact inductionHypothesis others

/-- The pointers of the detailed publication are those of the records. -/
theorem publishIndexPointers_sameRecords
    (run : FinishedRun Number)
    {pointerPut : Int → PutOutcome}
    {windowStarts : List Int}
    (distinct : windowStarts.Nodup)
    {bucket : L1Bucket Number}
    {records : Bucket}
    (same : SameRecords bucket records)
    {fate : List PutOutcome}
    (agrees :
      ∀ windowStartMs ∈ windowStarts,
        pointerPut windowStartMs =
          pointerFate windowStarts fate windowStartMs) :
    SameRecords
        ((publishIndexPointers run windowStarts).outcome
          ⟨bucket, fate⟩).1.bucket
        (windowStarts.foldl
          (fun current windowStartMs =>
            (uploadJsonIfPointerCurrent current
              (indexPointerKey run.args.windowMs windowStartMs)
              (run.indexPointer windowStartMs)
              (pointerPut windowStartMs)).1)
          records) ∧
      (((publishIndexPointers run windowStarts).outcome
          ⟨bucket, fate⟩).2 = .ok true ↔
        windowStarts.all (fun windowStartMs =>
          (pointerPut windowStartMs).acknowledged) = true) := by
  induction windowStarts generalizing bucket records fate with
  | nil =>
      exact ⟨same, fun _ => rfl, fun _ => rfl⟩
  | cons windowStartMs rest inductionHypothesis =>
      obtain ⟨fresh, restDistinct⟩ := List.nodup_cons.mp distinct
      cases fate with
      | nil =>
          have rejected :
              ∀ wanted ∈ windowStartMs :: rest,
                pointerPut wanted = .rejected := agrees
          have stopped :
              (publishIndexPointers run (windowStartMs :: rest)).outcome
                  ⟨bucket, []⟩ =
                (⟨bucket, []⟩, .error .indexPointers) := by
            rw [publishIndexPointers, Fallible.outcome_bind,
              outcome_attempt]
          rw [stopped, foldl_rejected records _ _ rejected]
          refine ⟨same, ?_⟩
          simp [rejected windowStartMs List.mem_cons_self,
            PutOutcome.acknowledged]
      | cons outcome fate =>
          have first : pointerPut windowStartMs = outcome := by
            rw [agrees windowStartMs List.mem_cons_self, pointerFate,
              if_pos rfl]
          have others :
              ∀ wanted ∈ rest,
                pointerPut wanted = pointerFate rest fate wanted := by
            intro wanted member
            rw [agrees wanted (List.mem_cons_of_mem _ member),
              pointerFate, if_neg]
            rintro rfl
            exact fresh member
          have step :
              SameRecords
                (if outcome.applied then
                  bucket.insert
                    (indexPointerKey run.args.windowMs windowStartMs)
                    (.pointer (run.indexPointer windowStartMs))
                else bucket)
                (uploadJson records
                  (indexPointerKey run.args.windowMs windowStartMs)
                  (run.indexPointer windowStartMs) outcome).1 :=
            same.put rfl outcome
          obtain ⟨later, result⟩ :=
            inductionHypothesis restDistinct step others
          rw [publishIndexPointers, Fallible.outcome_bind, outcome_attempt,
            List.foldl_cons, uploadJsonIfPointerCurrent_eq, first]
          dsimp only
          rw [Fallible.outcome_bind]
          revert later result
          rcases (publishIndexPointers run rest).outcome
            ⟨_, fate⟩ with ⟨after, reached⟩
          intro later result
          rw [List.all_cons, first]
          cases reached with
          | error failure =>
              refine ⟨later, ?_⟩
              have restFails :
                  rest.all (fun wanted =>
                    (pointerPut wanted).acknowledged) = false := by
                rw [← Bool.not_eq_true, ← result]
                intro impossible
                cases impossible
              rw [restFails, Bool.and_false]
              constructor
              · intro impossible
                cases impossible
              · intro impossible
                cases impossible
          | ok done =>
              have restDone :
                  rest.all (fun wanted =>
                    (pointerPut wanted).acknowledged) = done := by
                rw [Bool.eq_iff_iff, ← result, Except.ok.injEq]
              rw [restDone]
              exact ⟨later, ⟨fun returned => Except.ok.inj returned,
                fun all => congrArg Except.ok all⟩⟩

/-- The outcome of one request that must succeed; without one it is rejected. -/
theorem outcome_request
    {failure : RunError}
    {change : L1Bucket Number → L1Bucket Number}
    (bucket : L1Bucket Number)
    (fate : List PutOutcome) :
    (request failure change).outcome ⟨bucket, fate⟩ =
      (⟨if (fate.headD .rejected).applied then change bucket else bucket,
          fate.tail⟩,
        if (fate.headD .rejected).acknowledged then .ok ()
        else .error failure) := by
  rw [request, Fallible.outcome_bind, outcome_attempt]
  cases fate with
  | nil =>
      rfl
  | cons outcome rest =>
      cases outcome with
      | stored => rfl
      | rejected => rfl
      | storedUnacknowledged => rfl

/-- The outcome of the records of a run whose artifacts are published. -/
def recordsOutcome
    (build : Normalize.BuildResult)
    (windowStarts : List Int)
    (fate : List PutOutcome) : RunOutcome where
  readFails := false
  build := build
  artifactsFail := false
  reportPut := fate.headD .rejected
  manifestPut := fate.tail.headD .rejected
  verifyFails := !(fate.tail.tail.headD .rejected).acknowledged
  pointerPut := pointerFate windowStarts fate.tail.tail.tail

variable (run : PublicationRun Number)

/-- The status of a run is that of its records. -/
theorem PublicationRun.status_eq :
    run.build.status = run.build.summary.status :=
  congrArg Prod.fst run.finished

/-- The report is the one of the records. -/
theorem PublicationRun.document_report
    (publishedKeys : PublishedOutputKeys) :
    (.report
        (Publish.report run.build run.l1RunId run.inputRange run.timing
          (manifestObjectKey run.l1RunId) publishedKeys) :
      L1Object Number).document? =
      some
        (reportJson run.build.summary run.l1RunId run.inputRange
          run.timing.startedAtMs run.timing.finishedAtMs
          (manifestObjectKey run.l1RunId)) := by
  have failureReason :
      run.build.failureReason = run.build.summary.finish.2 :=
    congrArg Prod.snd run.finished
  unfold reportJson
  rw [← run.status_eq, ← failureReason]
  rfl

/-- The manifest is the one of the records. -/
theorem PublicationRun.document_manifest
    (publishedKeys : PublishedOutputKeys) :
    (.manifest
        (Publish.manifest
          (Publish.report run.build run.l1RunId run.inputRange run.timing
            (manifestObjectKey run.l1RunId) publishedKeys)
          run.l1RunId run.inputRange (reportObjectKey run.l1RunId)
          publishedKeys run.timing) :
      L1Object Number).document? =
      some
        (manifestJson run.build.summary run.l1RunId run.inputRange
          (reportObjectKey run.l1RunId) run.timing.finishedAtMs) := by
  unfold manifestJson
  rw [← run.status_eq]
  rfl

/-- Both publications leave the same records, and both succeed or both fail. -/
def SameOutcome
    (detailed : PublishState Number × Except RunError Unit)
    (recorded : Bucket × Except RunError Unit) : Prop :=
  SameRecords detailed.1.bucket recorded.1 ∧
    (detailed.2 = .ok () ↔ recorded.2 = .ok ())

/-- Both publications agree if both fail. -/
theorem sameOutcome_error
    {state : PublishState Number}
    {records : Bucket}
    {failure recordsFailure : RunError}
    (same : SameRecords state.bucket records) :
    SameOutcome (state, .error failure)
      (records, .error recordsFailure) := by
  refine ⟨same, ?_⟩
  constructor
  · intro impossible
    cases impossible
  · intro impossible
    cases impossible

/-- Both publications agree on a record if they agree on what follows it. -/
theorem sameOutcome_record
    {bucket : L1Bucket Number}
    {records : Bucket}
    (same : SameRecords bucket records)
    {key : String}
    {object : L1Object Number}
    {document : JsonDocument}
    (recorded : object.document? = some document)
    {failure : RunError}
    {fate : List PutOutcome}
    {next : Publishing Number Unit}
    {nextRecords : Bucket × Except RunError Unit}
    (agree :
      ∀ after,
        SameRecords after
          (uploadJson records key document (fate.headD .rejected)).1 →
        SameOutcome (next.outcome ⟨after, fate.tail⟩) nextRecords) :
    SameOutcome
      ((uploadObject failure key object >>= fun _ => next).outcome
        ⟨bucket, fate⟩)
      (if !(uploadJson records key document (fate.headD .rejected)).2 then
        ((uploadJson records key document (fate.headD .rejected)).1,
          .error failure)
      else nextRecords) := by
  have step :
      SameRecords
        (if (fate.headD .rejected).applied then bucket.insert key object
        else bucket)
        (uploadJson records key document (fate.headD .rejected)).1 :=
    same.put recorded (fate.headD .rejected)
  rw [uploadObject, Fallible.outcome_bind, outcome_request]
  revert step agree
  cases fate.headD .rejected with
  | stored =>
      intro agree step
      exact agree _ step
  | rejected =>
      intro _ step
      exact sameOutcome_error step
  | storedUnacknowledged =>
      intro _ step
      exact sameOutcome_error step

/-- Both publications agree on a read if they agree on what follows it. -/
theorem sameOutcome_read
    {bucket : L1Bucket Number}
    {records : Bucket}
    (same : SameRecords bucket records)
    {failure : RunError}
    {fate : List PutOutcome}
    {next : Publishing Number Unit}
    {nextRecords : Bucket × Except RunError Unit}
    (agree :
      SameOutcome (next.outcome ⟨bucket, fate.tail⟩) nextRecords) :
    SameOutcome
      ((request failure id >>= fun _ => next).outcome ⟨bucket, fate⟩)
      (if !(fate.headD .rejected).acknowledged then
        (records, .error failure)
      else nextRecords) := by
  rw [Fallible.outcome_bind, outcome_request, id, ite_self]
  cases fate.headD .rejected with
  | stored => exact agree
  | rejected => exact sameOutcome_error same
  | storedUnacknowledged => exact sameOutcome_error same

/-- Both publications agree on the pointers of a run. -/
theorem publishIndexPointers_sameOutcome
    {bucket : L1Bucket Number}
    {records : Bucket}
    (same : SameRecords bucket records)
    (fate : List PutOutcome) :
    let windowStarts :=
      indexWindowStarts run.inputRange run.args.windowMs
    let published :=
      Normalize.publishIndexPointers run.args
        (manifestObjectKey run.l1RunId) run.l1RunId
        run.build.status.asStr run.timing.finishedAtMs run.inputRange
        (pointerFate windowStarts fate) records
    SameOutcome
      ((do
        if ← publishIndexPointers run.toFinishedRun windowStarts then
          pure ()
        else
          throw .indexPointers : Publishing Number Unit).outcome
        ⟨bucket, fate⟩)
      (published.1, published.2.map (fun _ => ())) := by
  intro windowStarts published
  have agrees :
      ∀ windowStartMs ∈ windowStarts,
        pointerFate windowStarts fate windowStartMs =
          pointerFate windowStarts fate windowStartMs :=
    fun _ _ => rfl
  obtain ⟨later, result⟩ :=
    publishIndexPointers_sameRecords run.toFinishedRun
      ((indexWindowStarts_ascending run.inputRange).imp ne_of_lt)
      same agrees
  rw [Fallible.outcome_bind]
  revert later result
  rcases (publishIndexPointers run.toFinishedRun windowStarts).outcome
    ⟨bucket, fate⟩ with ⟨after, reached⟩
  intro later result
  change
    SameOutcome _
      (_, (if windowStarts.all (fun windowStartMs =>
          (pointerFate windowStarts fate windowStartMs).acknowledged) then
        .ok windowStarts.length
      else
        .error .indexPointers : Except RunError Nat).map (fun _ => ()))
  split_ifs with all
  · have returned : reached = .ok true := result.mpr all
    rw [returned]
    exact ⟨later, fun _ => rfl, fun _ => rfl⟩
  · cases reached with
    | error failure =>
        exact sameOutcome_error later
    | ok done =>
        cases done with
        | false => exact sameOutcome_error later
        | true => exact absurd (result.mp rfl) all

/-- The detailed publication of records does what the other one does. -/
theorem publishManifestAndIndex_sameOutcome
    (publishedKeys : PublishedOutputKeys)
    {bucket : L1Bucket Number}
    {records : Bucket}
    (same : SameRecords bucket records)
    (fate : List PutOutcome) :
    SameOutcome
      ((publishManifestAndIndex run.toFinishedRun publishedKeys).outcome
        ⟨bucket, fate⟩)
      (Normalize.publishManifestAndIndex run.args run.l1RunId
        run.inputRange run.timing.startedAtMs run.timing.finishedAtMs
        (recordsOutcome run.build.summary
          (indexWindowStarts run.inputRange run.args.windowMs) fate)
        records) := by
  unfold publishManifestAndIndex Normalize.publishManifestAndIndex
  simp only [recordsOutcome]
  refine sameOutcome_record same (run.document_report publishedKeys) ?_
  intro afterReport sameReport
  refine sameOutcome_record sameReport
    (run.document_manifest publishedKeys) ?_
  intro afterManifest sameManifest
  refine sameOutcome_read sameManifest ?_
  have reported :
      (report run.build run.l1RunId run.inputRange run.timing
        (manifestObjectKey run.l1RunId) publishedKeys).status =
          run.build.status.asStr :=
    rfl
  simp only [reported, ← run.status_eq]
  split_ifs
  · exact publishIndexPointers_sameOutcome run sameManifest _
  · exact ⟨sameManifest, fun _ => rfl, fun _ => rfl⟩

end Records

section Histories

variable
  [NumberFormat Number]
  (sha256Hex : String → String)

/-- Publish the records of a run. -/
def recordsStep
    (records : Bucket)
    (entry : PublicationRun Number × RunOutcome) : Bucket :=
  let (run, outcome) := entry
  (Normalize.publishOutputs run.args run.l1RunId run.inputRange
    run.timing.startedAtMs run.timing.finishedAtMs outcome records).1

/-- Wherever a publication ends, there is an outcome with the same records. -/
theorem publishOutputs_sameOutcome
    (run : PublicationRun Number)
    {bucket : L1Bucket Number}
    {records : Bucket}
    (same : SameRecords bucket records)
    (fate : List PutOutcome) :
    ∃ outcome : RunOutcome,
      outcome.readFails = false ∧
        outcome.build = run.build.summary ∧
        SameOutcome
          ((publishOutputs run.toFinishedRun sha256Hex).outcome
            ⟨bucket, fate⟩)
          (Normalize.publishOutputs run.args run.l1RunId run.inputRange
            run.timing.startedAtMs run.timing.finishedAtMs outcome
            records) := by
  have recorded
      (publishedKeys : PublishedOutputKeys)
      {after : L1Bucket Number}
      (sameAfter : SameRecords after records) :=
    publishManifestAndIndex_sameOutcome run publishedKeys sameAfter
  have undisturbed
      (artifactFate : List PutOutcome) :
      let outcome :=
        recordsOutcome run.build.summary
          (indexWindowStarts run.inputRange run.args.windowMs) artifactFate
      ¬ (outcome.build.status = .success ∧
        outcome.artifactsFail = true) := by
    rintro outcome ⟨_, failed⟩
    cases failed
  unfold publishOutputs
  split_ifs with success
  · have kept :
        Fallible.Preserves (SameRecordsState records)
          (publishArtifacts run.toFinishedRun sha256Hex) :=
      publishArtifacts_sameRecords sha256Hex run.toFinishedRun
    have preserved := kept ⟨bucket, fate⟩ same
    rw [Fallible.outcome_bind]
    revert preserved
    rcases (publishArtifacts run.toFinishedRun sha256Hex).outcome
      ⟨bucket, fate⟩ with ⟨after, result⟩
    cases result with
    | error failure =>
        intro preserved
        refine ⟨⟨false, run.build.summary, true, .rejected, .rejected,
          false, fun _ => .rejected⟩, rfl, rfl, ?_⟩
        rw [Normalize.publishOutputs,
          if_pos ⟨run.status_eq.symm.trans success, rfl⟩]
        exact sameOutcome_error preserved
    | ok publishedKeys =>
        intro preserved
        refine ⟨recordsOutcome run.build.summary
          (indexWindowStarts run.inputRange run.args.windowMs) after.fate,
          rfl, rfl, ?_⟩
        rw [Normalize.publishOutputs, if_neg (undisturbed _)]
        exact recorded publishedKeys preserved after.fate
  · refine ⟨recordsOutcome run.build.summary
      (indexWindowStarts run.inputRange run.args.windowMs) fate,
      rfl, rfl, ?_⟩
    rw [Normalize.publishOutputs, if_neg (undisturbed _)]
    exact recorded {} same fate

/-- Every history of publications leaves the records of a history of records
of the same runs, in the same order. -/
theorem publishAll_sameRecords
    (history : List (Publication Number)) :
    ∃ entries : List (PublicationRun Number × RunOutcome),
      entries.map Prod.fst = history.map Publication.run ∧
        (∀ entry ∈ entries, entry.2.build = entry.1.build.summary) ∧
        SameRecords (publishAll sha256Hex history)
          (Runs.run recordsStep .empty entries) := by
  have simulated :
      ∀ publications : List (Publication Number),
      ∀ {bucket : L1Bucket Number} {records : Bucket},
        SameRecords bucket records →
        ∃ entries : List (PublicationRun Number × RunOutcome),
          entries.map Prod.fst = publications.map Publication.run ∧
            (∀ entry ∈ entries,
              entry.2.build = entry.1.build.summary) ∧
            SameRecords
              (Runs.run (publishStep sha256Hex) bucket publications)
              (Runs.run recordsStep records entries) := by
    intro publications
    induction publications with
    | nil =>
        intro bucket records same
        exact ⟨[], rfl, List.forall_mem_nil _, same⟩
    | cons publication rest inductionHypothesis =>
        intro bucket records same
        obtain ⟨outcome, _, built, reached, _⟩ :=
          publishOutputs_sameOutcome sha256Hex publication.run same
            publication.fate
        obtain ⟨entries, runs, builds, later⟩ :=
          inductionHypothesis reached
        refine ⟨(publication.run, outcome) :: entries, ?_, ?_, later⟩
        · rw [List.map_cons, List.map_cons, runs]
        · exact List.forall_mem_cons.mpr ⟨built, builds⟩
  refine simulated history ?_
  intro kind key _ _
  rw [OrderedMap.get?_empty, OrderedMap.get?_empty]
  rfl

end Histories

end MarketIngest.Publish
