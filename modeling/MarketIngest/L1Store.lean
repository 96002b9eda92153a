import MarketIngest.Fallible
import MarketIngest.ReferenceStore
import MarketIngest.RunRecords
import Mathlib.Data.List.ReduceOption

namespace MarketIngest.Publish

open Normalize S3

/-!
# Objects of the L1 bucket

The bucket holds the slices, the projections, the report, the manifest and the
pointers of every run.  A run uploads them one after the other and stops at the
first upload that fails; only the pointers are uploaded independently of each
other.  A process can stop between any two requests.
-/

/-- What a run computes from its slices besides them. -/
inductive Projection where
  | marketDataQualitySummary
  | marketFeatureDelta
  | marketFeatureDeltaSummary
  | marketRegimeContext
  | symbolUniverseBootstrapRollup
  | symbolUniverseSnapshot
  deriving Repr, DecidableEq

/-- An object of the bucket. -/
inductive L1Object (Number : Type) where
  | slices (rows : List (SliceRow Number))
  | projection (kind : Projection)
  | report (report : NormalizationReport)
  | manifest (manifest : L1Manifest)
  | pointer (document : JsonDocument)
  deriving DecidableEq

/-- The objects of the bucket by key. -/
abbrev L1Bucket (Number : Type) := OrderedMap String (L1Object Number)

/-- The keys among published keys. -/
def PublishedOutputKeys.all (keys : PublishedOutputKeys) : List String :=
  keys.sliceOutputKeys ++ keys.projectionKeys.reduceOption

/-- The manifest that a pointer names. -/
def canonicalManifestKey (document : JsonDocument) : Option String :=
  document.asStr "canonical_manifest_key"

variable {Number : Type}

/-- The keys that a reader follows from an object. -/
def L1Object.references : L1Object Number → List String
  | .slices _ => []
  | .projection _ => []
  | .report _ => []
  | .manifest stored => stored.reportKey :: stored.publishedKeys.all
  | .pointer document => (canonicalManifestKey document).toList

/-- The slices in an object. -/
def L1Object.rows : L1Object Number → List (SliceRow Number)
  | .slices rows => rows
  | .projection _ => []
  | .report _ => []
  | .manifest _ => []
  | .pointer _ => []

/-- The slices under a key. -/
def rowsAt
    (bucket : L1Bucket Number)
    (key : String) : List (SliceRow Number) :=
  ((bucket.get? key).map L1Object.rows).getD []

/-- A process that publishes: the bucket and what will happen to its requests.
The process has stopped when nothing more will happen. -/
structure PublishState (Number : Type) where
  bucket : L1Bucket Number
  fate : List PutOutcome

/-- A part of a publication. -/
abbrev Publishing (Number : Type) :=
  Fallible (PublishState Number) RunError

section Requests

variable (failure : RunError)

/-- Make one request, local work before it included; say if it succeeded. -/
def attempt
    (change : L1Bucket Number → L1Bucket Number) :
    Publishing Number Bool := do
  let state ← get
  match state.fate with
  | [] => throw failure
  | outcome :: fate =>
      set
        { bucket :=
            if outcome.applied then change state.bucket else state.bucket
          fate := fate : PublishState Number }
      return outcome.acknowledged

/-- A request that must succeed. -/
def request
    (change : L1Bucket Number → L1Bucket Number) :
    Publishing Number Unit := do
  if ← attempt failure change then
    pure ()
  else
    throw failure

/-- Upload one object. -/
def uploadObject
    (key : String)
    (object : L1Object Number) : Publishing Number Unit :=
  request failure (fun bucket => bucket.insert key object)

/-- Upload objects in order and return their keys. -/
def uploadAll :
    List (String × L1Object Number) → Publishing Number (List String)
  | [] => pure []
  | (key, object) :: rest => do
      uploadObject failure key object
      let keys ← uploadAll rest
      return key :: keys

end Requests

section Publication

variable (run : FinishedRun Number)

/-- Upload the slices, one object for each venue and hour. -/
def publishSliceParquets : Publishing Number (List String) := do
  let outputKeys ←
    uploadAll .artifacts
      ((sliceObjects run.l1RunId run.args.windowMs run.build.slices).map
        (fun object => (object.1, .slices object.2)))
  return outputKeys.insertionSort (· ≤ ·)

/-- Upload the quality summary. -/
def publishQualitySummary
    (publishedKeys : PublishedOutputKeys) :
    Publishing Number PublishedOutputKeys := do
  let qualityKey := marketDataQualitySummaryObjectKey run.l1RunId
  uploadObject .artifacts qualityKey (.projection .marketDataQualitySummary)
  return { publishedKeys with marketDataQualitySummaryKey := some qualityKey }

/-- Upload the summary of the feature deltas, then the feature deltas. -/
def publishFeatureDeltas
    (publishedKeys : PublishedOutputKeys) :
    Publishing Number PublishedOutputKeys := do
  let featureDeltaKey := marketFeatureDeltaObjectKey run.l1RunId
  let featureDeltaSummaryKey :=
    marketFeatureDeltaSummaryObjectKey run.l1RunId
  uploadObject .artifacts featureDeltaSummaryKey
    (.projection .marketFeatureDeltaSummary)
  uploadObject .artifacts featureDeltaKey (.projection .marketFeatureDelta)
  return {
    publishedKeys with
    marketFeatureDeltaSummaryKey := some featureDeltaSummaryKey
    marketFeatureDeltaKey := some featureDeltaKey
  }

/-- Upload the regime contexts. -/
def publishRegimeContexts
    (publishedKeys : PublishedOutputKeys) :
    Publishing Number PublishedOutputKeys := do
  let regimeContextKey := marketRegimeContextObjectKey run.l1RunId
  uploadObject .artifacts regimeContextKey (.projection .marketRegimeContext)
  return {
    publishedKeys with marketRegimeContextKey := some regimeContextKey
  }

/-- Upload the pointers of the windows; one failure does not stop the others. -/
def publishIndexPointers : List Int → Publishing Number Bool
  | [] => pure true
  | windowStartMs :: rest => do
      let done ←
        attempt .indexPointers (fun bucket =>
          bucket.insert (indexPointerKey run.args.windowMs windowStartMs)
            (.pointer (run.indexPointer windowStartMs)))
      let others ← publishIndexPointers rest
      return done && others

/-- Upload report and manifest, and after them the pointers. -/
def publishManifestAndIndex
    (publishedKeys : PublishedOutputKeys) : Publishing Number Unit := do
  let reportKey := reportObjectKey run.l1RunId
  let manifestKey := manifestObjectKey run.l1RunId
  let report :=
    Publish.report run.build run.l1RunId run.inputRange run.timing
      manifestKey publishedKeys
  uploadObject .report reportKey (.report report)
  let manifest :=
    Publish.manifest report run.l1RunId run.inputRange reportKey
      publishedKeys run.timing
  uploadObject .manifest manifestKey (.manifest manifest)
  -- The manifest is read back; the bucket does not change.
  request .verifyManifest id
  if shouldPublishIndexPointers report.status then
    if ← publishIndexPointers run
        (indexWindowStarts run.inputRange run.args.windowMs) then
      pure ()
    else
      throw .indexPointers
  else
    pure ()

variable
  [NumberFormat Number]
  (sha256Hex : String → String)

/-- Read the rollups, upload those of the run and the universe snapshot. -/
def publishBootstrapRollupAndUniverse
    (publishedKeys : PublishedOutputKeys) :
    Publishing Number PublishedOutputKeys := do
  request .artifacts id
  let rollupKeys ←
    uploadAll .artifacts
      ((run.currentRollups sha256Hex).map (fun rollup =>
        (symbolUniverseBootstrapRollupObjectKey rollup.dayStartMs,
          .projection .symbolUniverseBootstrapRollup)))
  let universeKey := symbolUniverseSnapshotObjectKey run.l1RunId
  uploadObject .artifacts universeKey (.projection .symbolUniverseSnapshot)
  return {
    publishedKeys with
    symbolUniverseBootstrapRollupKey :=
      (rollupKeys.insertionSort (· ≤ ·)).head?
    symbolUniverseSnapshotKey := some universeKey
  }

/-- Upload the slices and projections of a successful run. -/
def publishArtifacts : Publishing Number PublishedOutputKeys := do
  let sliceOutputKeys ← publishSliceParquets run
  let withSummary ←
    publishQualitySummary run { sliceOutputKeys := sliceOutputKeys }
  let withDeltas ← publishFeatureDeltas run withSummary
  let withContexts ← publishRegimeContexts run withDeltas
  publishBootstrapRollupAndUniverse run sha256Hex withContexts

/-- Publish a built run. -/
def publishOutputs : Publishing Number Unit := do
  let publishedKeys ←
    if run.build.status = .success then
      publishArtifacts run sha256Hex
    else
      pure {}
  publishManifestAndIndex run publishedKeys

end Publication

end MarketIngest.Publish
