import MarketIngest.RollupPublication
import MarketIngest.RowAccounting
import MarketIngest.RunRecords

namespace MarketIngest.Publish

open Normalize S3

/-!
# What a reader accepts

A reader takes a pointer, the manifest that it names and the report that the
manifest names, and plans its reads from them.  It refuses records that do not
belong together, that are not successful or that do not cover its request.  The
records that one successful run writes are accepted with the keys of that run.
-/

/-- What a reader will read. -/
structure L1ReadPlan where
  l1RunId : String
  manifestKey : String
  reportKey : String
  outputObjectKeys : List String
  marketDataQualitySummaryKey : Option String
  marketFeatureDeltaKey : Option String
  marketFeatureDeltaSummaryKey : Option String
  marketRegimeContextKey : Option String
  symbolUniverseSnapshotKey : Option String
  deriving Repr, DecidableEq

/-- The projections that a reader will read. -/
def L1ReadPlan.projectionKeys (plan : L1ReadPlan) : List (Option String) :=
  [plan.marketDataQualitySummaryKey, plan.marketFeatureDeltaKey,
    plan.marketFeatureDeltaSummaryKey, plan.marketRegimeContextKey,
    plan.symbolUniverseSnapshotKey]

/-- Accept or reject the manifest of a pointer for a request. -/
def validateManifest
    (pointer : L1IndexPointer)
    (manifest : L1Manifest)
    (request : L1ReadRequest) : Except L1AdmissibilityError Unit :=
  firstRefusal
    [(manifest.schemaVersion ≠ manifestSchemaVersion,
        .manifestSchemaMismatch manifest.schemaVersion),
      (manifest.l1RunId ≠ pointer.l1RunId,
        .manifestRunIdMismatch pointer.l1RunId manifest.l1RunId),
      (manifest.status ≠ "success",
        .manifestNotSuccess manifest.status),
      (manifest.schemaVersionEmitted ≠ request.schemaVersionEmitted,
        .manifestSchemaEmittedMismatch manifest.schemaVersionEmitted
          request.schemaVersionEmitted),
      (validateTimeRange manifest.inputTimeRangeStartMs
          manifest.inputTimeRangeEndMs request.inputRange matches .error _,
        .manifestTimeRangeMismatch manifest.inputTimeRangeStartMs
          manifest.inputTimeRangeEndMs request.inputRange.startMs
          request.inputRange.endMs),
      (manifest.outputObjectKeys.isEmpty, .manifestHasNoOutputObjects),
      (manifest.outputRecordCount ≠ manifest.sliceCountTotal,
        .manifestRecordCountMismatch manifest.outputRecordCount
          manifest.sliceCountTotal)]

/-- Accept or reject the report of a manifest. -/
def validateReport
    (report : NormalizationReport)
    (manifest : L1Manifest)
    (manifestKey : String) : Except L1AdmissibilityError Unit :=
  firstRefusal
    [(report.schemaVersion ≠ reportSchemaVersion,
        .reportSchemaMismatch report.schemaVersion),
      (report.l1RunId ≠ manifest.l1RunId,
        .reportRunIdMismatch report.l1RunId manifest.l1RunId),
      (report.status ≠ manifest.status,
        .reportStatusMismatch report.status manifest.status),
      (report.inputTimeRangeStartMs ≠ manifest.inputTimeRangeStartMs ||
          report.inputTimeRangeEndMs ≠ manifest.inputTimeRangeEndMs,
        .reportTimeRangeMismatch report.inputTimeRangeStartMs
          report.inputTimeRangeEndMs manifest.inputTimeRangeStartMs
          manifest.inputTimeRangeEndMs),
      (report.schemaVersionEmitted ≠ manifest.schemaVersionEmitted,
        .reportSchemaEmittedMismatch report.schemaVersionEmitted
          manifest.schemaVersionEmitted),
      (report.manifestKey ≠ manifestKey,
        .reportManifestKeyMismatch report.manifestKey manifestKey),
      (report.outputObjectKeys ≠ manifest.outputObjectKeys,
        .reportOutputObjectsMismatch),
      (report.marketDataQualitySummaryKey ≠
            manifest.marketDataQualitySummaryKey ||
          report.marketFeatureDeltaKey ≠ manifest.marketFeatureDeltaKey ||
          report.marketFeatureDeltaSummaryKey ≠
            manifest.marketFeatureDeltaSummaryKey ||
          report.marketRegimeContextKey ≠ manifest.marketRegimeContextKey ||
          report.symbolUniverseSnapshotKey ≠
            manifest.symbolUniverseSnapshotKey ||
          report.symbolUniverseBootstrapRollupKey ≠
            manifest.symbolUniverseBootstrapRollupKey,
        .reportProjectionObjectsMismatch)]

/-- The plan that a manifest gives rise to. -/
def L1Manifest.readPlan
    (manifest : L1Manifest)
    (manifestKey : String) : L1ReadPlan where
  l1RunId := manifest.l1RunId
  manifestKey := manifestKey
  reportKey := manifest.reportKey
  outputObjectKeys := manifest.outputObjectKeys
  marketDataQualitySummaryKey := manifest.marketDataQualitySummaryKey
  marketFeatureDeltaKey := manifest.marketFeatureDeltaKey
  marketFeatureDeltaSummaryKey := manifest.marketFeatureDeltaSummaryKey
  marketRegimeContextKey := manifest.marketRegimeContextKey
  symbolUniverseSnapshotKey := manifest.symbolUniverseSnapshotKey

/-- Plan the reads of a request, or say why there are none. -/
def buildReadPlan
    (pointer : L1IndexPointer)
    (manifest : L1Manifest)
    (report : NormalizationReport)
    (manifestKey : String)
    (request : L1ReadRequest) : Except L1AdmissibilityError L1ReadPlan := do
  validatePointer pointer request
  validateManifest pointer manifest request
  validateReport report manifest manifestKey
  return manifest.readPlan manifestKey

section Validators

variable
  {pointer : L1IndexPointer}
  {manifest : L1Manifest}
  {report : NormalizationReport}
  {manifestKey : String}
  {request : L1ReadRequest}

/-- When a pointer is accepted. -/
theorem validatePointer_eq_ok_iff :
    validatePointer pointer request = .ok () ↔
      pointer.schemaVersion = pointerSchemaVersion ∧
        pointer.status = "success" ∧
        pointer.schemaVersionEmitted = request.schemaVersionEmitted ∧
        pointer.inputTimeRangeStartMs ≤ request.inputRange.startMs ∧
        request.inputRange.endMs ≤ pointer.inputTimeRangeEndMs := by
  unfold validatePointer validateTimeRange
  split_ifs with schema status emitted covered
  · simp [schema]
  · simp [status]
  · simp [emitted]
  · exact ⟨fun _ => ⟨not_not.mp schema, not_not.mp status,
      not_not.mp emitted, covered.1, covered.2⟩, fun _ => rfl⟩
  · constructor
    · intro accepted
      cases accepted
    · rintro ⟨_, _, _, startCovered, endCovered⟩
      exact absurd ⟨startCovered, endCovered⟩ covered

/-- When a manifest is accepted. -/
theorem validateManifest_eq_ok_iff :
    validateManifest pointer manifest request = .ok () ↔
      manifest.schemaVersion = manifestSchemaVersion ∧
        manifest.l1RunId = pointer.l1RunId ∧
        manifest.status = "success" ∧
        manifest.schemaVersionEmitted = request.schemaVersionEmitted ∧
        (manifest.inputTimeRangeStartMs ≤ request.inputRange.startMs ∧
          request.inputRange.endMs ≤ manifest.inputTimeRangeEndMs) ∧
        manifest.outputObjectKeys ≠ [] ∧
        manifest.outputRecordCount = manifest.sliceCountTotal := by
  have covers :
      (validateTimeRange manifest.inputTimeRangeStartMs
          manifest.inputTimeRangeEndMs request.inputRange matches
            .error _) = false ↔
        manifest.inputTimeRangeStartMs ≤ request.inputRange.startMs ∧
          request.inputRange.endMs ≤ manifest.inputTimeRangeEndMs := by
    unfold validateTimeRange
    split_ifs with covered
    · simpa using covered
    · simpa using covered
  unfold validateManifest
  rw [firstRefusal_eq_ok_iff]
  simp only [List.forall_mem_cons, List.not_mem_nil, IsEmpty.forall_iff,
    implies_true, and_true, decide_eq_false_iff_not, ne_eq, not_not,
    covers, List.isEmpty_eq_false_iff]

/-- When a report is accepted. -/
theorem validateReport_eq_ok_iff :
    validateReport report manifest manifestKey = .ok () ↔
      report.schemaVersion = reportSchemaVersion ∧
        report.l1RunId = manifest.l1RunId ∧
        report.status = manifest.status ∧
        (report.inputTimeRangeStartMs = manifest.inputTimeRangeStartMs ∧
          report.inputTimeRangeEndMs = manifest.inputTimeRangeEndMs) ∧
        report.schemaVersionEmitted = manifest.schemaVersionEmitted ∧
        report.manifestKey = manifestKey ∧
        report.outputObjectKeys = manifest.outputObjectKeys ∧
        ((((report.marketDataQualitySummaryKey =
                  manifest.marketDataQualitySummaryKey ∧
                report.marketFeatureDeltaKey =
                  manifest.marketFeatureDeltaKey) ∧
              report.marketFeatureDeltaSummaryKey =
                manifest.marketFeatureDeltaSummaryKey) ∧
            report.marketRegimeContextKey =
              manifest.marketRegimeContextKey) ∧
          report.symbolUniverseSnapshotKey =
            manifest.symbolUniverseSnapshotKey) ∧
        report.symbolUniverseBootstrapRollupKey =
          manifest.symbolUniverseBootstrapRollupKey := by
  unfold validateReport
  rw [firstRefusal_eq_ok_iff]
  simp only [List.forall_mem_cons, List.not_mem_nil, IsEmpty.forall_iff,
    implies_true, and_true, decide_eq_false_iff_not, ne_eq, not_not,
    Bool.or_eq_false_iff]

/-- A plan is made exactly if all three records are accepted. -/
theorem buildReadPlan_eq_ok_iff
    {plan : L1ReadPlan} :
    buildReadPlan pointer manifest report manifestKey request = .ok plan ↔
      validatePointer pointer request = .ok () ∧
        validateManifest pointer manifest request = .ok () ∧
        validateReport report manifest manifestKey = .ok () ∧
        manifest.readPlan manifestKey = plan := by
  unfold buildReadPlan
  cases validatePointer pointer request with
  | error failure =>
      simp [bind, Except.bind]
  | ok _ =>
      cases validateManifest pointer manifest request with
      | error failure =>
          simp [bind, Except.bind]
      | ok _ =>
          cases validateReport report manifest manifestKey with
          | error failure =>
              simp [bind, Except.bind]
          | ok _ =>
              simp [bind, Except.bind, pure, Except.pure]

/-- Records of which one is not accepted give an error. -/
theorem exists_error_of_not_accepted
    (notAccepted :
      ¬ (validatePointer pointer request = .ok () ∧
        validateManifest pointer manifest request = .ok () ∧
        validateReport report manifest manifestKey = .ok ())) :
    ∃ failure,
      buildReadPlan pointer manifest report manifestKey request =
        .error failure := by
  cases planned :
      buildReadPlan pointer manifest report manifestKey request with
  | error failure =>
      exact ⟨failure, rfl⟩
  | ok plan =>
      obtain ⟨byPointer, byManifest, byReport, _⟩ :=
        buildReadPlan_eq_ok_iff.mp planned
      exact absurd ⟨byPointer, byManifest, byReport⟩ notAccepted

end Validators

section Contract

variable
  {Number : Type}
  [NumberFormat Number]
  (sha256Hex : String → String)

/-- The records of a run, as a reader plans its reads from them. -/
def FinishedRun.planFor
    (run : FinishedRun Number)
    (pointer : L1IndexPointer)
    (request : L1ReadRequest) : Except L1AdmissibilityError L1ReadPlan :=
  buildReadPlan pointer (run.manifest sha256Hex) (run.report sha256Hex)
    (manifestObjectKey run.l1RunId) request

omit [NumberFormat Number] in
/-- A pointer of a run parses to the values of the run. -/
theorem FinishedRun.fromJson_indexPointer
    (run : FinishedRun Number)
    (windowStartMs : Int) :
    L1IndexPointer.fromJson (run.indexPointer windowStartMs) =
      some
        { schemaVersion := pointerSchemaVersion
          canonicalManifestKey := manifestObjectKey run.l1RunId
          l1RunId := run.l1RunId
          status := run.build.status.asStr
          finishedAtMs := run.timing.finishedAtMs
          inputTimeRangeStartMs := run.inputRange.startMs
          inputTimeRangeEndMs := run.inputRange.endMs
          indexedWindowStartMs := some windowStartMs
          indexedWindowEndMs :=
            some (saturatingAdd windowStartMs run.args.windowMs)
          schemaVersionEmitted := sliceSchemaVersion } :=
  fromJson_indexPointerJson _ _ _ _ _ _ _

/-- The manifest of a successful run names the keys of its slices. -/
theorem FinishedRun.manifest_outputObjectKeys
    {run : FinishedRun Number}
    (success : run.build.status = .success) :
    (run.manifest sha256Hex).outputObjectKeys =
      (groupSlices run.l1RunId run.args.windowMs
        run.build.slices).keys := by
  rw [← run.sliceOutputKeys_eq]
  change (run.publishedKeys sha256Hex).sliceOutputKeys = _
  rw [FinishedRun.publishedKeys, if_pos success]

/-- The report of a run passes the check against its own manifest. -/
theorem FinishedRun.validateReport_own
    (run : FinishedRun Number) :
    validateReport (run.report sha256Hex) (run.manifest sha256Hex)
        (manifestObjectKey run.l1RunId) =
      .ok () :=
  validateReport_eq_ok_iff.mpr
    ⟨rfl, rfl, rfl, ⟨rfl, rfl⟩, rfl, rfl, rfl,
      ⟨⟨⟨⟨rfl, rfl⟩, rfl⟩, rfl⟩, rfl⟩, rfl⟩

/-- Inside its range, a successful run with slices is readable. -/
theorem FinishedRun.planFor_success
    {run : FinishedRun Number}
    (success : run.build.status = .success)
    (someSlice : run.build.slices ≠ [])
    {windowStartMs : Int}
    {pointer : L1IndexPointer}
    (parsed :
      L1IndexPointer.fromJson (run.indexPointer windowStartMs) =
        some pointer)
    {request : InputRange}
    (startCovered : run.inputRange.startMs ≤ request.startMs)
    (endCovered : request.endMs ≤ run.inputRange.endMs) :
    run.planFor sha256Hex pointer (.normalizedMarketSlice request) =
      .ok
        ((run.manifest sha256Hex).readPlan
          (manifestObjectKey run.l1RunId)) := by
  rw [run.fromJson_indexPointer, Option.some.injEq] at parsed
  have status : run.build.status.asStr = "success" := by
    rw [success]
    rfl
  have someKey : (run.manifest sha256Hex).outputObjectKeys ≠ [] := by
    rw [run.manifest_outputObjectKeys sha256Hex success]
    obtain ⟨slice, rest, form⟩ := List.exists_cons_of_ne_nil someSlice
    exact List.ne_nil_of_mem
      ((mem_groupSlices_keys _ _ _).mpr
        ⟨slice, by rw [form]; exact List.mem_cons_self, rfl⟩)
  apply buildReadPlan_eq_ok_iff.mpr
  subst parsed
  refine ⟨?_, ?_, run.validateReport_own sha256Hex, rfl⟩
  · exact validatePointer_eq_ok_iff.mpr
      ⟨rfl, status, rfl, startCovered, endCovered⟩
  · exact validateManifest_eq_ok_iff.mpr
      ⟨rfl, rfl, status, rfl, ⟨startCovered, endCovered⟩, someKey, rfl⟩

/-- Publisher and reader agree on the records of a run. -/
structure ReadContract (run : FinishedRun Number) : Prop where
  /-- A successful run with slices is planned with its own keys. -/
  readable :
    run.build.status = .success →
    run.build.slices ≠ [] →
    ∀ windowStartMs ∈ indexWindowStarts run.inputRange run.args.windowMs,
    ∃ pointer,
      L1IndexPointer.fromJson (run.indexPointer windowStartMs) =
          some pointer ∧
        ∀ request : InputRange,
          run.inputRange.startMs ≤ request.startMs →
          request.endMs ≤ run.inputRange.endMs →
          ∃ plan,
            run.planFor sha256Hex pointer
                (.normalizedMarketSlice request) =
              .ok plan ∧
            plan.outputObjectKeys =
              (groupSlices run.l1RunId run.args.windowMs
                run.build.slices).keys ∧
            plan.marketDataQualitySummaryKey =
              (run.manifest sha256Hex).marketDataQualitySummaryKey ∧
            plan.marketFeatureDeltaKey =
              (run.manifest sha256Hex).marketFeatureDeltaKey ∧
            plan.marketFeatureDeltaSummaryKey =
              (run.manifest sha256Hex).marketFeatureDeltaSummaryKey ∧
            plan.marketRegimeContextKey =
              (run.manifest sha256Hex).marketRegimeContextKey ∧
            plan.symbolUniverseSnapshotKey =
              (run.manifest sha256Hex).symbolUniverseSnapshotKey
  /-- The records of any other run are refused. -/
  unsuccessful :
    run.build.status ≠ .success →
    ∀ windowStartMs pointer request,
      L1IndexPointer.fromJson (run.indexPointer windowStartMs) =
        some pointer →
      ∃ failure, run.planFor sha256Hex pointer request = .error failure
  /-- A request that the range does not contain is refused. -/
  uncovered :
    ∀ windowStartMs pointer request,
      L1IndexPointer.fromJson (run.indexPointer windowStartMs) =
        some pointer →
      ¬ (run.inputRange.startMs ≤ request.inputRange.startMs ∧
        request.inputRange.endMs ≤ run.inputRange.endMs) →
      ∃ failure, run.planFor sha256Hex pointer request = .error failure
  /-- Records of which one is from another run are refused. -/
  mixed :
    ∀ (manifestRun reportRun : FinishedRun Number)
      windowStartMs pointer manifestKey request,
      ¬ (run.l1RunId = manifestRun.l1RunId ∧
        manifestRun.l1RunId = reportRun.l1RunId) →
      L1IndexPointer.fromJson (run.indexPointer windowStartMs) =
        some pointer →
      ∃ failure,
        buildReadPlan pointer (manifestRun.manifest sha256Hex)
            (reportRun.report sha256Hex) manifestKey request =
          .error failure

/-- A reader accepts what one successful run has written, and nothing else. -/
theorem publisher_reader_agree
    (run : FinishedRun Number) :
    ReadContract sha256Hex run := by
  refine ⟨?_, ?_, ?_, ?_⟩
  · intro success someSlice windowStartMs _
    refine ⟨_, run.fromJson_indexPointer windowStartMs, ?_⟩
    intro request startCovered endCovered
    exact ⟨_,
      FinishedRun.planFor_success sha256Hex success someSlice
        (run.fromJson_indexPointer windowStartMs) startCovered endCovered,
      run.manifest_outputObjectKeys sha256Hex success,
      rfl, rfl, rfl, rfl, rfl⟩
  · intro other windowStartMs pointer request parsed
    rw [run.fromJson_indexPointer, Option.some.injEq] at parsed
    subst parsed
    apply exists_error_of_not_accepted
    rintro ⟨byPointer, _, _⟩
    exact other
      ((BuildStatus.asStr_eq_success _).mp
        (validatePointer_eq_ok_iff.mp byPointer).2.1)
  · intro windowStartMs pointer request parsed notCovered
    rw [run.fromJson_indexPointer, Option.some.injEq] at parsed
    subst parsed
    apply exists_error_of_not_accepted
    rintro ⟨byPointer, _, _⟩
    exact notCovered (validatePointer_eq_ok_iff.mp byPointer).2.2.2
  · intro manifestRun reportRun windowStartMs pointer manifestKey request
      different parsed
    rw [run.fromJson_indexPointer, Option.some.injEq] at parsed
    subst parsed
    apply exists_error_of_not_accepted
    rintro ⟨_, byManifest, byReport⟩
    have pointerRun : manifestRun.l1RunId = run.l1RunId :=
      (validateManifest_eq_ok_iff.mp byManifest).2.1
    have reportedRun : reportRun.l1RunId = manifestRun.l1RunId :=
      (validateReport_eq_ok_iff.mp byReport).2.1
    exact different ⟨pointerRun.symm, reportedRun.symm⟩

end Contract

section Sample

/-- The digests of the texts that a run of the first quarter hour hashes. -/
def quarterSha256Hex (text : String) : String :=
  if text = Build.btcPayload then
    Build.btcCodec.sha256Hex text
  else if text = "binance|BTC|0|900000|" ++ sliceSchemaVersion then
    "3856dd51ca683fd7eb484de56bccc973a81b87cbeb98315d94b693f04868add9"
  else if text = "binance|ETH|0|900000|" ++ sliceSchemaVersion then
    "8449449d6a09f31b6e5bc1c4d300e9308a7fa4eb06aef32c85cb047193d1b26a"
  else
    quarterHourSha256Hex text

/-- Slices as long as the scheduled range. -/
def quarterArgs : NormalizeArgs :=
  { namedBucketArgs with windowMs := defaultScheduleIntervalMs }

/-- A run of the first quarter hour that has read some events. -/
def quarterRun (events : List RawInputEvent) : FinishedRun ℚ where
  args := quarterArgs
  l1RunId := l1RunId 0 900000 1900000
  inputRange := ⟨0, 900000⟩
  build :=
    (Build.ingestRows
      { Build.btcCodec with sha256Hex := quarterSha256Hex } quarterArgs
      (Build.BuildAccumulator.new quarterArgs ⟨0, 900000⟩
        ⟨-300000, 1200000⟩ Build.oneObject)
      (events.map .rawEvent)).finish
  timing := ⟨1900000, 1900000⟩

/-- The run that has read one trade of BTC. -/
def btcRun : FinishedRun ℚ :=
  quarterRun [Build.btcTrade "t-1"]

/-- The manifest of a run names a rollup that the plan leaves out. -/
theorem btcRun_plan_without_rollup :
    ∃ pointer plan,
      L1IndexPointer.fromJson (btcRun.indexPointer 0) =
          some pointer ∧
        btcRun.planFor quarterSha256Hex pointer
            (.normalizedMarketSlice ⟨0, 900000⟩) =
          .ok plan ∧
        (btcRun.manifest
            quarterSha256Hex).symbolUniverseBootstrapRollupKey =
          some ("symbol_universe_snapshot/bootstrap_rollup/" ++
            "event_date=1970-01-01/latest.json") ∧
        (btcRun.manifest
            quarterSha256Hex).symbolUniverseBootstrapRollupKey ∉
          plan.projectionKeys := by
  refine ⟨_, _, btcRun.fromJson_indexPointer 0,
    FinishedRun.planFor_success quarterSha256Hex (by decide +kernel)
      (by decide +kernel) (btcRun.fromJson_indexPointer 0)
      (le_refl _) (le_refl _), ?_, ?_⟩
  · decide +kernel
  · decide +kernel

/-- The run with one slice is read with the key of that slice. -/
theorem btcRun_readable :
    ∃ pointer plan,
      L1IndexPointer.fromJson (btcRun.indexPointer 0) =
          some pointer ∧
        btcRun.planFor quarterSha256Hex pointer
            (.normalizedMarketSlice ⟨0, 900000⟩) =
          .ok plan ∧
        plan.outputObjectKeys =
          ["normalized_market_slice/venue=binance/event_date=1970-01-01/" ++
            "hour=00/window_ms=900000/shard=00/" ++
            "run_id=l1_0_900000_1900000-part-000001.parquet"] := by
  obtain ⟨pointer, parsed, planned⟩ :=
    (publisher_reader_agree quarterSha256Hex btcRun).readable
      (by decide +kernel) (by decide +kernel) 0 (by decide +kernel)
  obtain ⟨plan, accepted, keys, _⟩ :=
    planned ⟨0, 900000⟩ (le_refl _) (le_refl _)
  refine ⟨pointer, plan, parsed, accepted, ?_⟩
  rw [keys]
  decide +kernel

end Sample

end MarketIngest.Publish
