import MarketIngest.Admissibility
import MarketIngest.SliceQuality
import MarketIngest.UniverseRollup

namespace MarketIngest.Publish

open Normalize S3

/-!
# Records of a run

A successful run stores its slices in one object for each venue and hour, and
one object for each projection of the slices.  The report and the manifest name
all of these objects.  Both records are functions of the build, of the range and
of the keys, and the slices are divided among their objects without a loss or a
repetition.
-/

/-- Key of the slices of a venue and an hour. -/
def sliceObjectKey
    (venue : String)
    (windowStartMs windowMs : Int)
    (runId : String) : String :=
  let part := timePart windowStartMs
  "normalized_market_slice/venue=" ++ (venue ++
    ("/event_date=" ++ (part.eventDate ++
      ("/hour=" ++ (Text.zeroPadded 2 part.hour ++
        ("/window_ms=" ++ (toString windowMs ++
          ("/shard=00/run_id=" ++ (runId ++ "-part-000001.parquet")))))))))

/-- Key of the quality summary of a run. -/
def marketDataQualitySummaryObjectKey (runId : String) : String :=
  "market_data_quality_summary/run_id=" ++ (runId ++ "/summary.json")

/-- Key of the feature deltas of a run. -/
def marketFeatureDeltaObjectKey (runId : String) : String :=
  "market_feature_delta/run_id=" ++ (runId ++ "/delta.json")

/-- Key of the summary of the feature deltas of a run. -/
def marketFeatureDeltaSummaryObjectKey (runId : String) : String :=
  "market_feature_delta_summary/run_id=" ++ (runId ++ "/summary.json")

/-- Key of the regime contexts of a run. -/
def marketRegimeContextObjectKey (runId : String) : String :=
  "market_regime_context/run_id=" ++ (runId ++ "/context.json")

/-- Key of the universe snapshot of a run. -/
def symbolUniverseSnapshotObjectKey (runId : String) : String :=
  "symbol_universe_snapshot/run_id=" ++ (runId ++ "/snapshot.json")

/-- The keys of what a run has published. -/
structure PublishedOutputKeys where
  sliceOutputKeys : List String := []
  marketDataQualitySummaryKey : Option String := none
  marketFeatureDeltaKey : Option String := none
  marketFeatureDeltaSummaryKey : Option String := none
  marketRegimeContextKey : Option String := none
  symbolUniverseSnapshotKey : Option String := none
  symbolUniverseBootstrapRollupKey : Option String := none
  deriving Repr, DecidableEq

/-- The projections among the published keys. -/
def PublishedOutputKeys.projectionKeys
    (keys : PublishedOutputKeys) : List (Option String) :=
  [keys.marketDataQualitySummaryKey, keys.marketFeatureDeltaKey,
    keys.marketFeatureDeltaSummaryKey, keys.marketRegimeContextKey,
    keys.symbolUniverseSnapshotKey, keys.symbolUniverseBootstrapRollupKey]

/-- When a run started and finished. -/
structure RunTiming where
  startedAtMs : Int
  finishedAtMs : Int
  deriving Repr, DecidableEq

/-- The report of a run. -/
structure NormalizationReport where
  schemaVersion : String
  l1RunId : String
  inputTimeRangeStartMs : Int
  inputTimeRangeEndMs : Int
  runMode : String
  fallbackAlert : Bool
  inputSchemaVersions : List String
  inputLocalObjectCount : Nat
  inputS3ObjectCount : Nat
  inputObjectKeys : List String
  inputRecordCount : Nat
  duplicateEventCount : Nat
  invalidEventCount : Nat
  payloadHashMismatchCount : Nat
  sliceCountTotal : Nat
  sliceCountComplete : Nat
  sliceCountPartial : Nat
  sliceCountIncomplete : Nat
  sliceCountReferenceOnly : Nat
  outputObjectKeys : List String
  marketDataQualitySummaryKey : Option String
  marketFeatureDeltaKey : Option String
  marketFeatureDeltaSummaryKey : Option String
  marketRegimeContextKey : Option String
  symbolUniverseSnapshotKey : Option String
  symbolUniverseBootstrapRollupKey : Option String
  status : String
  failureReason : Option String
  manifestKey : String
  startedAtMs : Int
  finishedAtMs : Int
  schemaVersionEmitted : String
  deriving Repr, DecidableEq

/-- The manifest of a run. -/
structure L1Manifest where
  schemaVersion : String
  l1RunId : String
  status : String
  inputTimeRangeStartMs : Int
  inputTimeRangeEndMs : Int
  schemaVersionEmitted : String
  reportKey : String
  outputObjectKeys : List String
  marketDataQualitySummaryKey : Option String
  marketFeatureDeltaKey : Option String
  marketFeatureDeltaSummaryKey : Option String
  marketRegimeContextKey : Option String
  symbolUniverseSnapshotKey : Option String
  symbolUniverseBootstrapRollupKey : Option String
  outputRecordCount : Nat
  sliceCountTotal : Nat
  finishedAtMs : Int
  deriving Repr, DecidableEq

/-- The keys that a manifest names. -/
def L1Manifest.publishedKeys (manifest : L1Manifest) : PublishedOutputKeys where
  sliceOutputKeys := manifest.outputObjectKeys
  marketDataQualitySummaryKey := manifest.marketDataQualitySummaryKey
  marketFeatureDeltaKey := manifest.marketFeatureDeltaKey
  marketFeatureDeltaSummaryKey := manifest.marketFeatureDeltaSummaryKey
  marketRegimeContextKey := manifest.marketRegimeContextKey
  symbolUniverseSnapshotKey := manifest.symbolUniverseSnapshotKey
  symbolUniverseBootstrapRollupKey :=
    manifest.symbolUniverseBootstrapRollupKey

/-- How many slices are complete, partial, incomplete and for reference. -/
structure CompletenessCounts where
  complete : Nat := 0
  partially : Nat := 0
  incomplete : Nat := 0
  referenceOnly : Nat := 0
  deriving Repr, DecidableEq

/-- Count one slice. -/
def CompletenessCounts.count
    (counts : CompletenessCounts)
    (sliceCompleteness : String) : CompletenessCounts :=
  match sliceCompleteness with
  | "complete" => { counts with complete := counts.complete + 1 }
  | "partial" => { counts with partially := counts.partially + 1 }
  | "reference_only" =>
      { counts with referenceOnly := counts.referenceOnly + 1 }
  | _ => { counts with incomplete := counts.incomplete + 1 }

variable {Number : Type}

/-- The report of a build. -/
def report
    (build : Build.BuildResult Number)
    (l1RunId : String)
    (inputRange : InputRange)
    (timing : RunTiming)
    (manifestKey : String)
    (publishedKeys : PublishedOutputKeys) : NormalizationReport :=
  let counts :=
    build.slices.foldl
      (fun counts slice =>
        CompletenessCounts.count counts slice.sliceCompleteness)
      {}
  { schemaVersion := reportSchemaVersion
    l1RunId := l1RunId
    inputTimeRangeStartMs := inputRange.startMs
    inputTimeRangeEndMs := inputRange.endMs
    runMode := build.runMode
    fallbackAlert := build.fallbackAlert
    inputSchemaVersions := build.inputSchemaVersions
    inputLocalObjectCount := build.inputLocalObjectCount
    inputS3ObjectCount := build.inputS3ObjectCount
    inputObjectKeys := build.inputObjectKeys
    inputRecordCount := build.inputRecordCount
    duplicateEventCount := build.duplicateEventCount
    invalidEventCount := build.invalidEventCount
    payloadHashMismatchCount := build.payloadHashMismatchCount
    sliceCountTotal := build.slices.length
    sliceCountComplete := counts.complete
    sliceCountPartial := counts.partially
    sliceCountIncomplete := counts.incomplete
    sliceCountReferenceOnly := counts.referenceOnly
    outputObjectKeys := publishedKeys.sliceOutputKeys
    marketDataQualitySummaryKey := publishedKeys.marketDataQualitySummaryKey
    marketFeatureDeltaKey := publishedKeys.marketFeatureDeltaKey
    marketFeatureDeltaSummaryKey :=
      publishedKeys.marketFeatureDeltaSummaryKey
    marketRegimeContextKey := publishedKeys.marketRegimeContextKey
    symbolUniverseSnapshotKey := publishedKeys.symbolUniverseSnapshotKey
    symbolUniverseBootstrapRollupKey :=
      publishedKeys.symbolUniverseBootstrapRollupKey
    status := build.status.asStr
    failureReason := build.failureReason
    manifestKey := manifestKey
    startedAtMs := timing.startedAtMs
    finishedAtMs := timing.finishedAtMs
    schemaVersionEmitted := sliceSchemaVersion }

/-- The manifest of a reported run. -/
def manifest
    (report : NormalizationReport)
    (l1RunId : String)
    (inputRange : InputRange)
    (reportKey : String)
    (publishedKeys : PublishedOutputKeys)
    (timing : RunTiming) : L1Manifest where
  schemaVersion := manifestSchemaVersion
  l1RunId := l1RunId
  status := report.status
  inputTimeRangeStartMs := inputRange.startMs
  inputTimeRangeEndMs := inputRange.endMs
  schemaVersionEmitted := sliceSchemaVersion
  reportKey := reportKey
  outputObjectKeys := publishedKeys.sliceOutputKeys
  marketDataQualitySummaryKey := publishedKeys.marketDataQualitySummaryKey
  marketFeatureDeltaKey := publishedKeys.marketFeatureDeltaKey
  marketFeatureDeltaSummaryKey := publishedKeys.marketFeatureDeltaSummaryKey
  marketRegimeContextKey := publishedKeys.marketRegimeContextKey
  symbolUniverseSnapshotKey := publishedKeys.symbolUniverseSnapshotKey
  symbolUniverseBootstrapRollupKey :=
    publishedKeys.symbolUniverseBootstrapRollupKey
  outputRecordCount := report.sliceCountTotal
  sliceCountTotal := report.sliceCountTotal
  finishedAtMs := timing.finishedAtMs

section Groups

variable
  (runId : String)
  (windowMs : Int)
  (slices : List (SliceRow Number))

/-- The key of the object that a slice goes to. -/
def objectKeyOf (slice : SliceRow Number) : String :=
  sliceObjectKey slice.venue slice.windowStartMs windowMs runId

/-- The positions of the slices of each object. -/
def groupSlices : OrderedMap String (List Nat) :=
  slices.zipIdx.foldl
    (fun grouped indexed =>
      grouped.upsert (objectKeyOf runId windowMs indexed.1)
        (fun known => known.getD [] ++ [indexed.2]))
    .empty

/-- The slices of each object. -/
def sliceObjects : List (String × List (SliceRow Number)) :=
  (groupSlices runId windowMs slices).entries.map (fun entry =>
    (entry.1, entry.2.filterMap (fun index => slices[index]?)))

/-- The keys of the slice objects are the keys of the slices. -/
theorem mem_groupSlices_keys
    {key : String} :
    key ∈ (groupSlices runId windowMs slices).keys ↔
      ∃ slice ∈ slices, objectKeyOf runId windowMs slice = key := by
  unfold groupSlices
  rw [OrderedMap.mem_keys_foldl_upsert
    (fun (indexed : SliceRow Number × Nat) (known : Option (List Nat)) =>
      known.getD [] ++ [indexed.2])]
  constructor
  · rintro (inEmpty | ⟨indexed, member, sameKey⟩)
    · cases inEmpty
    · exact ⟨indexed.1, List.fst_mem_of_mem_zipIdx member, sameKey⟩
  · rintro ⟨slice, member, sameKey⟩
    obtain ⟨index, found⟩ := List.mem_iff_getElem?.mp member
    exact Or.inr
      ⟨(slice, index), List.mem_zipIdx_iff_getElem?.mpr found, sameKey⟩

/-- An object holds the slices with its key, in their order. -/
theorem rows_of_mem_sliceObjects
    {object : String × List (SliceRow Number)}
    (member : object ∈ sliceObjects runId windowMs slices) :
    object.2 =
      slices.filter
        (fun slice => objectKeyOf runId windowMs slice = object.1) := by
  obtain ⟨⟨key, indices⟩, inGroups, rfl⟩ := List.mem_map.mp member
  have grouped :
      ((groupSlices runId windowMs slices).get? key).getD [] =
        ((OrderedMap.empty : OrderedMap String (List Nat)).get? key).getD
            [] ++
          (slices.zipIdx.filter
            (fun indexed =>
              objectKeyOf runId windowMs indexed.1 = key)).map
            Prod.snd :=
    OrderedMap.get?_groups Prod.snd slices.zipIdx .empty key
  rw [OrderedMap.get?_eq_some_iff.mpr inGroups, OrderedMap.get?_empty,
    Option.getD_some, Option.getD_none, List.nil_append] at grouped
  have positions :
      ∀ indexed ∈ slices.zipIdx, slices[indexed.2]? = some indexed.1 :=
    fun indexed inside => List.mem_zipIdx_iff_getElem?.mp inside
  rw [show (key, indices).2 = indices from rfl, grouped,
    List.filterMap_map]
  calc
    (slices.zipIdx.filter
        (fun indexed =>
          objectKeyOf runId windowMs indexed.1 = key)).filterMap
        ((fun index => slices[index]?) ∘ Prod.snd) =
        (slices.zipIdx.filter
          (fun indexed =>
            objectKeyOf runId windowMs indexed.1 = key)).filterMap
          (fun indexed => some indexed.1) :=
      List.filterMap_congr (fun indexed inside =>
        positions indexed (List.mem_filter.mp inside).1)
    _ = (slices.zipIdx.map Prod.fst).filter
          (fun slice => objectKeyOf runId windowMs slice = key) := by
      rw [List.filterMap_eq_map', List.filter_map]
      rfl
    _ = slices.filter
          (fun slice => objectKeyOf runId windowMs slice = key) := by
      rw [List.zipIdx_map_fst]

/-- The keys of the slice objects in order. -/
theorem sliceObjects_keys :
    (sliceObjects runId windowMs slices).map Prod.fst =
      (groupSlices runId windowMs slices).keys := by
  simp [sliceObjects, OrderedMap.keys]

/-- The slice objects divide the slices: each slice is in exactly one. -/
theorem sliceObjects_partition :
    ((sliceObjects runId windowMs slices).flatMap Prod.snd).Perm slices := by
  have ofKeys :
      (sliceObjects runId windowMs slices).flatMap Prod.snd =
        (groupSlices runId windowMs slices).keys.flatMap (fun key =>
          slices.filter
            (fun slice => objectKeyOf runId windowMs slice = key)) := by
    rw [← sliceObjects_keys, List.flatMap_map]
    exact List.flatMap_congr (fun object member =>
      rows_of_mem_sliceObjects runId windowMs slices member)
  have covered :
      slices.filter
          (fun slice =>
            objectKeyOf runId windowMs slice ∈
              (groupSlices runId windowMs slices).keys) =
        slices := by
    apply List.filter_eq_self.mpr
    intro slice member
    exact decide_eq_true
      ((mem_groupSlices_keys runId windowMs slices).mpr
        ⟨slice, member, rfl⟩)
  rw [ofKeys]
  refine (OrderedMap.flatMap_filter_perm (objectKeyOf runId windowMs)
    slices (OrderedMap.keys_nodup _)).trans ?_
  rw [covered]

end Groups

/-- A built run, as it is handed over for publication. -/
structure FinishedRun (Number : Type) where
  args : NormalizeArgs
  l1RunId : String
  inputRange : InputRange
  build : Build.BuildResult Number
  timing : RunTiming

namespace FinishedRun

/-- The keys of the slice objects, as they are recorded. -/
def sliceOutputKeys (run : FinishedRun Number) : List String :=
  (groupSlices run.l1RunId run.args.windowMs
    run.build.slices).keys.insertionSort (· ≤ ·)

/-- The recorded keys are the keys of the groups. -/
theorem sliceOutputKeys_eq (run : FinishedRun Number) :
    run.sliceOutputKeys =
      (groupSlices run.l1RunId run.args.windowMs run.build.slices).keys :=
  List.Pairwise.insertionSort_eq
    ((OrderedMap.keys_ascending _).imp le_of_lt)

/-- The pointer that the run writes for a window. -/
def indexPointer
    (run : FinishedRun Number)
    (windowStartMs : Int) : JsonDocument :=
  indexPointerJson (manifestObjectKey run.l1RunId) run.l1RunId
    run.build.status.asStr run.timing.finishedAtMs run.inputRange
    windowStartMs run.args.windowMs

variable
  [NumberFormat Number]
  (sha256Hex : String → String)

/-- The rollups that the run adds to the universe, one for each day. -/
def currentRollups
    (run : FinishedRun Number) :
    List (SymbolUniverseBootstrapRollup Number) :=
  buildSymbolUniverseBootstrapRollups sha256Hex run.l1RunId run.inputRange
    run.timing.finishedAtMs run.build.slices

/-- The keys of the rollups that the run uploads, as they are recorded. -/
def publishedRollupKeys (run : FinishedRun Number) : List String :=
  ((run.currentRollups sha256Hex).map (fun rollup =>
    symbolUniverseBootstrapRollupObjectKey rollup.dayStartMs)).insertionSort
      (· ≤ ·)

/-- The keys that the run has published when its records are written. -/
def publishedKeys (run : FinishedRun Number) : PublishedOutputKeys :=
  if run.build.status = .success then
    { sliceOutputKeys := run.sliceOutputKeys
      marketDataQualitySummaryKey :=
        some (marketDataQualitySummaryObjectKey run.l1RunId)
      marketFeatureDeltaKey :=
        some (marketFeatureDeltaObjectKey run.l1RunId)
      marketFeatureDeltaSummaryKey :=
        some (marketFeatureDeltaSummaryObjectKey run.l1RunId)
      marketRegimeContextKey :=
        some (marketRegimeContextObjectKey run.l1RunId)
      symbolUniverseSnapshotKey :=
        some (symbolUniverseSnapshotObjectKey run.l1RunId)
      symbolUniverseBootstrapRollupKey :=
        (run.publishedRollupKeys sha256Hex).head? }
  else
    {}

/-- The report that the run writes. -/
def report (run : FinishedRun Number) : NormalizationReport :=
  Publish.report run.build run.l1RunId run.inputRange run.timing
    (manifestObjectKey run.l1RunId) (run.publishedKeys sha256Hex)

/-- The manifest that the run writes. -/
def manifest (run : FinishedRun Number) : L1Manifest :=
  Publish.manifest (run.report sha256Hex) run.l1RunId run.inputRange
    (reportObjectKey run.l1RunId) (run.publishedKeys sha256Hex) run.timing

end FinishedRun

end MarketIngest.Publish
