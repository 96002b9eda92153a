import MarketIngest.L1Store
import MarketIngest.ReadPlan
import MarketIngest.Runs

namespace MarketIngest.Publish

open Normalize S3 ReferenceStore

/-!
# Pointers never dangle

Every object of the bucket was written by some run, and whatever an object names
was written before it.  So every pointer leads to a manifest, a report, slices
and projections, wherever the runs were interrupted.  The slices are those of
the build as long as no run overwrites the slices of another one, which it can
do only under the same run identifier.
-/

/-- The families of objects, told apart by their keys. -/
inductive ObjectKind where
  | slices
  | report
  | projection
  | manifest
  | pointer
  deriving Repr, DecidableEq

/-- How the keys of a family start. -/
def ObjectKind.prefixes : ObjectKind → List String
  | .slices => ["normalized_market_slice/"]
  | .report => ["normalization_report/"]
  | .projection =>
      ["market_data_quality_summary/", "market_feature_delta/",
        "market_feature_delta_summary/", "market_regime_context/",
        "symbol_universe_snapshot/"]
  | .manifest => ["runs/"]
  | .pointer => ["l1_index/"]

/-- The key belongs to the family. -/
def ObjectKind.Owns (kind : ObjectKind) (key : String) : Prop :=
  ∃ leading ∈ kind.prefixes, Text.startsWith key leading = true

/-- No key of one family starts like the keys of another. -/
private theorem prefixes_apart
    (first second : ObjectKind) :
    ∀ leading ∈ first.prefixes,
      ∀ other ∈ second.prefixes,
        Text.startsWith leading other = true → first = second := by
  cases first <;> cases second <;>
    simp [ObjectKind.prefixes, Text.startsWith]

/-- A key belongs to one family. -/
theorem ObjectKind.eq_of_owns
    {first second : ObjectKind}
    {key : String}
    (ofFirst : first.Owns key)
    (ofSecond : second.Owns key) :
    first = second := by
  obtain ⟨leading, among, starts⟩ := ofFirst
  obtain ⟨other, amongOther, startsOther⟩ := ofSecond
  rcases Text.startsWith_or_startsWith starts startsOther with
    longer | shorter
  · exact prefixes_apart first second leading among other amongOther longer
  · exact (prefixes_apart second first other amongOther leading among
      shorter).symm

/-- A key that continues a beginning of the family belongs to it. -/
theorem ObjectKind.owns_append
    {kind : ObjectKind}
    (leading : String)
    {text : String}
    (among : leading ∈ kind.prefixes)
    (starts : Text.startsWith text leading = true)
    (rest : String) :
    kind.Owns (text ++ rest) :=
  ⟨leading, among, Text.startsWith_append starts rest⟩

variable {Number : Type}

/-- The family of an object. -/
def L1Object.kind : L1Object Number → ObjectKind
  | .slices _ => .slices
  | .projection _ => .projection
  | .report _ => .report
  | .manifest _ => .manifest
  | .pointer _ => .pointer

section Keys

/-- Slice keys belong to the slices. -/
theorem owns_sliceObjectKey
    (venue : String)
    (windowStartMs windowMs : Int)
    (runId : String) :
    ObjectKind.slices.Owns
      (sliceObjectKey venue windowStartMs windowMs runId) :=
  ObjectKind.owns_append "normalized_market_slice/" List.mem_cons_self
    (by simp [Text.startsWith]) _

/-- Report keys belong to the reports. -/
theorem owns_reportObjectKey (runId : String) :
    ObjectKind.report.Owns (reportObjectKey runId) :=
  ObjectKind.owns_append "normalization_report/" List.mem_cons_self
    (by simp [Text.startsWith]) _

/-- Manifest keys belong to the manifests. -/
theorem owns_manifestObjectKey (runId : String) :
    ObjectKind.manifest.Owns (manifestObjectKey runId) :=
  ObjectKind.owns_append "runs/" List.mem_cons_self
    (by simp [Text.startsWith]) _

/-- Pointer keys belong to the pointers. -/
theorem owns_indexPointerKey (windowMs windowStartMs : Int) :
    ObjectKind.pointer.Owns (indexPointerKey windowMs windowStartMs) :=
  ObjectKind.owns_append "l1_index/" List.mem_cons_self
    (by simp [Text.startsWith]) _

/-- The key of a quality summary belongs to the projections. -/
theorem owns_marketDataQualitySummaryObjectKey (runId : String) :
    ObjectKind.projection.Owns
      (marketDataQualitySummaryObjectKey runId) :=
  ObjectKind.owns_append "market_data_quality_summary/" (by decide)
    (by simp [Text.startsWith]) _

/-- The key of feature deltas belongs to the projections. -/
theorem owns_marketFeatureDeltaObjectKey (runId : String) :
    ObjectKind.projection.Owns
      (marketFeatureDeltaObjectKey runId) :=
  ObjectKind.owns_append "market_feature_delta/" (by decide)
    (by simp [Text.startsWith]) _

/-- The key of a summary of feature deltas belongs to the projections. -/
theorem owns_marketFeatureDeltaSummaryObjectKey (runId : String) :
    ObjectKind.projection.Owns
      (marketFeatureDeltaSummaryObjectKey runId) :=
  ObjectKind.owns_append "market_feature_delta_summary/" (by decide)
    (by simp [Text.startsWith]) _

/-- The key of regime contexts belongs to the projections. -/
theorem owns_marketRegimeContextObjectKey (runId : String) :
    ObjectKind.projection.Owns
      (marketRegimeContextObjectKey runId) :=
  ObjectKind.owns_append "market_regime_context/" (by decide)
    (by simp [Text.startsWith]) _

/-- The key of a universe snapshot belongs to the projections. -/
theorem owns_symbolUniverseSnapshotObjectKey (runId : String) :
    ObjectKind.projection.Owns
      (symbolUniverseSnapshotObjectKey runId) :=
  ObjectKind.owns_append "symbol_universe_snapshot/" (by decide)
    (by simp [Text.startsWith]) _

/-- The key of a rollup belongs to the projections. -/
theorem owns_symbolUniverseBootstrapRollupObjectKey (dayStartMs : Int) :
    ObjectKind.projection.Owns
      (symbolUniverseBootstrapRollupObjectKey dayStartMs) :=
  ObjectKind.owns_append "symbol_universe_snapshot/" (by decide)
    (by simp [Text.startsWith]) _

/-- A run identifier has no separator of keys. -/
theorem slash_not_mem_l1RunId (startMs endMs startedAtMs : Int) :
    '/' ∉ (l1RunId startMs endMs startedAtMs).toList := by
  have noNumber :
      ∀ number : Int, '/' ∉ (toString number).toList :=
    Text.not_mem_toString_int (by decide) (by decide)
  unfold l1RunId
  simp only [String.toList_append, List.mem_append, not_or]
  exact ⟨by decide, noNumber _, by decide, noNumber _, by decide,
    noNumber _⟩

/-- A slice key determines the run. -/
theorem runId_eq_of_sliceObjectKey_eq
    {firstVenue secondVenue firstRunId secondRunId : String}
    {firstStartMs secondStartMs firstWindowMs secondWindowMs : Int}
    (firstFree : '/' ∉ firstRunId.toList)
    (secondFree : '/' ∉ secondRunId.toList)
    (same :
      sliceObjectKey firstVenue firstStartMs firstWindowMs firstRunId =
        sliceObjectKey secondVenue secondStartMs secondWindowMs
          secondRunId) :
    firstRunId = secondRunId := by
  -- The run is in the last segment of the key.
  have cut :
      ∀ (venue runId : String) (windowStartMs windowMs : Int),
        ∃ leading,
          (sliceObjectKey venue windowStartMs windowMs runId).toList =
            leading ++ '/' ::
              ("run_id=".toList ++
                (runId.toList ++ "-part-000001.parquet".toList)) := by
    intro venue runId windowStartMs windowMs
    have shard :
        "/shard=00/run_id=".toList =
          "/shard=00".toList ++ '/' :: "run_id=".toList := by
      decide
    let part := timePart windowStartMs
    refine
      ⟨"normalized_market_slice/venue=".toList ++ (venue.toList ++
        ("/event_date=".toList ++ (part.eventDate.toList ++
          ("/hour=".toList ++ ((Text.zeroPadded 2 part.hour).toList ++
            ("/window_ms=".toList ++ ((toString windowMs).toList ++
              "/shard=00".toList))))))), ?_⟩
    unfold sliceObjectKey
    simp only [String.toList_append]
    rw [shard]
    simp only [List.append_assoc, List.cons_append, part]
  have free :
      ∀ runId : String,
        '/' ∉ runId.toList →
        '/' ∉ "run_id=".toList ++
          (runId.toList ++ "-part-000001.parquet".toList) := by
    intro runId idFree
    simp only [List.mem_append, not_or]
    exact ⟨by decide, idFree, by decide⟩
  obtain ⟨firstLeading, firstCut⟩ :=
    cut firstVenue firstRunId firstStartMs firstWindowMs
  obtain ⟨secondLeading, secondCut⟩ :=
    cut secondVenue secondRunId secondStartMs secondWindowMs
  have segments :=
    (Text.lastSegment_inj (free _ firstFree) (free _ secondFree)
      (firstCut.symm.trans
        ((congrArg String.toList same).trans secondCut))).2
  exact String.toList_inj.mp
    (List.append_cancel_right (List.append_cancel_left segments))

/-- The key of a slice object is a slice key of the run. -/
theorem exists_sliceObjectKey_of_mem
    {runId key : String}
    {windowMs : Int}
    {slices rows : List (SliceRow Number)}
    (member : (key, rows) ∈ sliceObjects runId windowMs slices) :
    ∃ venue windowStartMs,
      key = sliceObjectKey venue windowStartMs windowMs runId := by
  have inKeys : key ∈ (groupSlices runId windowMs slices).keys := by
    rw [← sliceObjects_keys]
    exact List.mem_map_of_mem member
  obtain ⟨slice, _, sameKey⟩ :=
    (mem_groupSlices_keys runId windowMs slices).mp inKeys
  exact ⟨slice.venue, slice.windowStartMs, sameKey.symm⟩

end Keys

/-- A run as the worker publishes it: it is named after its range and its start,
and its status is that of its build. -/
structure PublicationRun (Number : Type) extends FinishedRun Number where
  identified :
    l1RunId =
      Normalize.l1RunId inputRange.startMs inputRange.endMs
        timing.startedAtMs
  finished : (build.status, build.failureReason) = build.summary.finish

/-- Two runs publish the same slices in the same way. -/
def SamePublication (first second : PublicationRun Number) : Prop :=
  first.args.windowMs = second.args.windowMs ∧
    first.build.status = second.build.status ∧
    first.build.slices = second.build.slices

/-- An empty build has no slices. -/
theorem PublicationRun.slices_eq_nil_of_empty
    {run : PublicationRun Number}
    (isEmpty : run.build.status = .empty) :
    run.build.slices = [] := by
  have finished := congrArg Prod.fst run.finished
  rw [isEmpty] at finished
  unfold Normalize.BuildResult.finish at finished
  split_ifs at finished with mismatch noSlices
  exact List.length_eq_zero_iff.mp noSlices

/-- A run identifier of the worker has no separator of keys. -/
theorem PublicationRun.slash_not_mem
    (run : PublicationRun Number) :
    '/' ∉ run.l1RunId.toList := by
  rw [run.identified]
  exact slash_not_mem_l1RunId _ _ _

/-- The pointer of a run names the manifest of the run. -/
theorem canonicalManifestKey_indexPointer
    (run : FinishedRun Number)
    (windowStartMs : Int) :
    canonicalManifestKey (run.indexPointer windowStartMs) =
      some (manifestObjectKey run.l1RunId) := by
  simp [canonicalManifestKey, FinishedRun.indexPointer, indexPointerJson,
    JsonDocument.asStr, List.lookup_cons]

section Writes

variable
  [NumberFormat Number]
  (sha256Hex : String → String)

/-- The objects that a run may write. -/
inductive FinishedRun.Writes
    (run : FinishedRun Number) :
    String → L1Object Number → Prop
  | slices
      {key : String}
      {rows : List (SliceRow Number)}
      (success : run.build.status = .success)
      (member :
        (key, rows) ∈
          sliceObjects run.l1RunId run.args.windowMs run.build.slices) :
      run.Writes key (.slices rows)
  | projection
      {key : String}
      (kind : Projection)
      (owned : ObjectKind.projection.Owns key) :
      run.Writes key (.projection kind)
  | report :
      run.Writes (reportObjectKey run.l1RunId)
        (.report (run.report sha256Hex))
  | manifest :
      run.Writes (manifestObjectKey run.l1RunId)
        (.manifest (run.manifest sha256Hex))
  | pointer
      (notBlocked : run.build.status ≠ .blocked)
      (windowStartMs : Int) :
      run.Writes (indexPointerKey run.args.windowMs windowStartMs)
        (.pointer (run.indexPointer windowStartMs))

variable {sha256Hex}

/-- A run writes every object under a key of its family. -/
theorem FinishedRun.Writes.owned
    {run : FinishedRun Number}
    {key : String}
    {object : L1Object Number}
    (writes : run.Writes sha256Hex key object) :
    object.kind.Owns key := by
  cases writes with
  | slices success member =>
      obtain ⟨venue, windowStartMs, rfl⟩ :=
        exists_sliceObjectKey_of_mem member
      exact owns_sliceObjectKey _ _ _ _
  | projection kind owned =>
      exact owned
  | report =>
      exact owns_reportObjectKey _
  | manifest =>
      exact owns_manifestObjectKey _
  | pointer notBlocked windowStartMs =>
      exact owns_indexPointerKey _ _

/-- What a run writes under a manifest key is its manifest. -/
theorem FinishedRun.Writes.manifest_of_key
    {run : FinishedRun Number}
    {runId : String}
    {object : L1Object Number}
    (writes : run.Writes sha256Hex (manifestObjectKey runId) object) :
    object = .manifest (run.manifest sha256Hex) ∧ run.l1RunId = runId := by
  have kind :=
    ObjectKind.eq_of_owns writes.owned (owns_manifestObjectKey runId)
  generalize sameKey : manifestObjectKey runId = key at writes
  cases writes with
  | slices success member => cases kind
  | projection other owned => cases kind
  | report => cases kind
  | manifest =>
      exact ⟨rfl, (Text.eq_of_enclosed_eq sameKey).symm⟩
  | pointer notBlocked windowStartMs => cases kind

/-- What a run writes under a slice key are its slices with that key. -/
theorem FinishedRun.Writes.slices_of_key
    {run : FinishedRun Number}
    {key : String}
    {object : L1Object Number}
    (writes : run.Writes sha256Hex key object)
    (owned : ObjectKind.slices.Owns key) :
    ∃ rows,
      object = .slices rows ∧
        run.build.status = .success ∧
        (key, rows) ∈
          sliceObjects run.l1RunId run.args.windowMs run.build.slices := by
  have kind := ObjectKind.eq_of_owns writes.owned owned
  cases writes with
  | slices success member => exact ⟨_, rfl, success, member⟩
  | projection other ownedOther => cases kind
  | report => cases kind
  | manifest => cases kind
  | pointer notBlocked windowStartMs => cases kind

/-- Every object comes from a run, and what it names is present. -/
structure StoreHolds
    (sha256Hex : String → String)
    (runs : List (PublicationRun Number))
    (bucket : L1Bucket Number) : Prop where
  closed : Closed L1Object.references bucket
  origin :
    ∀ key object,
      bucket.get? key = some object →
      ∃ run ∈ runs, run.toFinishedRun.Writes sha256Hex key object

/-- The bucket holds what runs have written, the known keys among it. -/
structure Holding
    (sha256Hex : String → String)
    (runs : List (PublicationRun Number))
    (known : List String)
    (bucket : L1Bucket Number) : Prop where
  store : StoreHolds sha256Hex runs bucket
  present : ∀ key ∈ known, Present bucket key

/-- Fewer keys may be known. -/
theorem Holding.mono
    {runs : List (PublicationRun Number)}
    {known fewer : List String}
    {bucket : L1Bucket Number}
    (holding : Holding sha256Hex runs known bucket)
    (subset : fewer ⊆ known) :
    Holding sha256Hex runs fewer bucket :=
  ⟨holding.store, fun key member => holding.present key (subset member)⟩

/-- An upload after what it names keeps the store and makes its key known. -/
theorem Holding.insert
    {runs : List (PublicationRun Number)}
    {known : List String}
    {bucket : L1Bucket Number}
    (holding : Holding sha256Hex runs known bucket)
    {run : PublicationRun Number}
    (among : run ∈ runs)
    {key : String}
    {object : L1Object Number}
    (writes : run.toFinishedRun.Writes sha256Hex key object)
    (named : object.references ⊆ known) :
    Holding sha256Hex runs (key :: known) (bucket.insert key object) := by
  refine ⟨⟨?_, ?_⟩, ?_⟩
  · exact holding.store.closed.insert
      (fun target member => holding.present target (named member))
  · intro other found stored
    rw [OrderedMap.get?_insert] at stored
    split_ifs at stored with same
    · cases stored
      rw [same]
      exact ⟨run, among, writes⟩
    · exact holding.store.origin other found stored
  · intro target member
    rcases List.mem_cons.mp member with rfl | isKnown
    · exact present_insert_same _ _ _
    · exact (holding.present target isKnown).insert _ _

end Writes

section Requests

variable
  {failure : RunError}
  {change : L1Bucket Number → L1Bucket Number}

/-- The outcome of one request. -/
theorem outcome_attempt
    (state : PublishState Number) :
    (attempt failure change).outcome state =
      match state.fate with
      | [] => (state, .error failure)
      | outcome :: fate =>
          ({ bucket :=
               if outcome.applied then change state.bucket
               else state.bucket
             fate := fate },
            .ok outcome.acknowledged) := by
  obtain ⟨bucket, fate⟩ := state
  cases fate with
  | nil => rfl
  | cons outcome rest => rfl

/-- A request leaves the bucket or changes it; it has if it succeeded. -/
theorem attempt_ensures
    (started : L1Bucket Number → Prop)
    (kept : ∀ bucket, started bucket → started (change bucket)) :
    Fallible.Ensures (fun state => started state.bucket)
      (attempt failure change)
      (fun done state =>
        started state.bucket ∧
          (done = true →
            ∃ bucket, started bucket ∧ state.bucket = change bucket))
      (fun state => started state.bucket) := by
  intro before holds
  rw [outcome_attempt]
  obtain ⟨bucket, fate⟩ := before
  cases fate with
  | nil => exact holds
  | cons outcome rest =>
      cases outcome with
      | stored =>
          exact ⟨kept bucket holds, fun _ => ⟨bucket, holds, rfl⟩⟩
      | rejected =>
          exact ⟨holds, fun done => by cases done⟩
      | storedUnacknowledged =>
          exact ⟨kept bucket holds, fun done => by cases done⟩

/-- A request that must succeed has changed the bucket when it returns. -/
theorem request_ensures
    (started : L1Bucket Number → Prop)
    (kept : ∀ bucket, started bucket → started (change bucket)) :
    Fallible.Ensures (fun state => started state.bucket)
      (request failure change)
      (fun _ state =>
        ∃ bucket, started bucket ∧ state.bucket = change bucket)
      (fun state => started state.bucket) := by
  apply Fallible.ensures_bind (attempt_ensures started kept)
  intro done
  cases done with
  | false =>
      exact Fallible.ensures_throw (fun _ reached => reached.1)
  | true =>
      exact Fallible.ensures_pure (fun _ reached => reached.2 rfl)

end Requests

section Uploads

variable
  [NumberFormat Number]
  {sha256Hex : String → String}
  {runs : List (PublicationRun Number)}
  {known : List String}
  {run : PublicationRun Number}
  {failure : RunError}

/-- The bucket of a state holds what runs have written. -/
def HoldingState
    (sha256Hex : String → String)
    (runs : List (PublicationRun Number))
    (known : List String)
    (state : PublishState Number) : Prop :=
  Holding sha256Hex runs known state.bucket

/-- A request that changes nothing keeps what is known. -/
theorem request_id_ensures :
    Fallible.Ensures (HoldingState sha256Hex runs known)
      (request failure id)
      (fun _ => HoldingState sha256Hex runs known)
      (HoldingState sha256Hex runs []) := by
  refine (request_ensures (Holding sha256Hex runs known)
    (fun _ => id)).imp
    (fun _ => id) ?_ (fun _ holding => holding.mono (List.nil_subset _))
  rintro _ state ⟨bucket, holding, same⟩
  rw [HoldingState, same]
  exact holding

/-- An upload makes its key known. -/
theorem uploadObject_ensures
    (among : run ∈ runs)
    {key : String}
    {object : L1Object Number}
    (writes : run.toFinishedRun.Writes sha256Hex key object)
    (named : object.references ⊆ known) :
    Fallible.Ensures (HoldingState sha256Hex runs known)
      (uploadObject failure key object)
      (fun _ => HoldingState sha256Hex runs (key :: known))
      (HoldingState sha256Hex runs []) := by
  refine (request_ensures (Holding sha256Hex runs known) ?_).imp
    (fun _ => id) ?_ (fun _ holding => holding.mono (List.nil_subset _))
  · intro bucket holding
    exact (holding.insert among writes named).mono (List.subset_cons_self _ _)
  · rintro _ state ⟨bucket, holding, same⟩
    rw [HoldingState, same]
    exact holding.insert among writes named

/-- Uploads of objects that name nothing make their keys known. -/
theorem uploadAll_ensures
    (among : run ∈ runs)
    {objects : List (String × L1Object Number)}
    (writes :
      ∀ object ∈ objects,
        run.toFinishedRun.Writes sha256Hex object.1 object.2 ∧
          object.2.references = []) :
    Fallible.Ensures (HoldingState sha256Hex runs known)
      (uploadAll failure objects)
      (fun keys state =>
        keys = objects.map Prod.fst ∧
          HoldingState sha256Hex runs (objects.map Prod.fst ++ known) state)
      (HoldingState sha256Hex runs []) := by
  induction objects generalizing known with
  | nil =>
      exact Fallible.ensures_pure (fun _ holding => ⟨rfl, holding⟩)
  | cons object rest inductionHypothesis =>
      obtain ⟨ofFirst, ofRest⟩ := List.forall_mem_cons.mp writes
      apply Fallible.ensures_bind
        (uploadObject_ensures among ofFirst.1
          (by rw [ofFirst.2]; exact List.nil_subset _))
      intro _
      apply Fallible.ensures_bind (inductionHypothesis ofRest)
      intro keys
      apply Fallible.ensures_pure
      rintro state ⟨rfl, holding⟩
      refine ⟨rfl, holding.mono ?_⟩
      intro key member
      simp only [List.map_cons, List.cons_append, List.mem_cons,
        List.mem_append] at member ⊢
      tauto

/-- The slices are uploaded under their recorded keys. -/
theorem publishSliceParquets_ensures
    (among : run ∈ runs)
    (success : run.build.status = .success) :
    Fallible.Ensures (HoldingState sha256Hex runs [])
      (publishSliceParquets run.toFinishedRun)
      (fun keys state =>
        keys = run.sliceOutputKeys ∧
          HoldingState sha256Hex runs run.sliceOutputKeys state)
      (HoldingState sha256Hex runs []) := by
  have keys :
      ((sliceObjects run.l1RunId run.args.windowMs run.build.slices).map
          (fun object =>
            (object.1, (.slices object.2 : L1Object Number)))).map
          Prod.fst =
        (groupSlices run.l1RunId run.args.windowMs
          run.build.slices).keys := by
    rw [List.map_map, ← sliceObjects_keys]
    rfl
  unfold publishSliceParquets
  apply Fallible.ensures_bind (uploadAll_ensures among ?_)
  · intro outputKeys
    apply Fallible.ensures_pure
    rintro state ⟨rfl, holding⟩
    rw [keys, List.append_nil] at holding
    rw [keys]
    exact ⟨rfl, by rwa [run.sliceOutputKeys_eq]⟩
  · intro object member
    obtain ⟨⟨key, rows⟩, inObjects, rfl⟩ := List.mem_map.mp member
    exact ⟨.slices success inObjects, rfl⟩

/-- A projection is uploaded under a key of its family. -/
theorem uploadProjection_ensures
    (among : run ∈ runs)
    {key : String}
    (kind : Projection)
    (owned : ObjectKind.projection.Owns key) :
    Fallible.Ensures (HoldingState sha256Hex runs known)
      (uploadObject failure key (.projection kind))
      (fun _ => HoldingState sha256Hex runs (key :: known))
      (HoldingState sha256Hex runs []) :=
  uploadObject_ensures among (.projection kind owned) (List.nil_subset _)

/-- The quality summary is uploaded under its recorded key. -/
theorem publishQualitySummary_ensures
    (among : run ∈ runs)
    (publishedKeys : PublishedOutputKeys) :
    Fallible.Ensures (HoldingState sha256Hex runs known)
      (publishQualitySummary run.toFinishedRun publishedKeys)
      (fun keys state =>
        keys =
            { publishedKeys with
              marketDataQualitySummaryKey :=
                some (marketDataQualitySummaryObjectKey run.l1RunId) } ∧
          HoldingState sha256Hex runs
            (marketDataQualitySummaryObjectKey run.l1RunId :: known) state)
      (HoldingState sha256Hex runs []) := by
  unfold publishQualitySummary
  apply Fallible.ensures_bind
    (uploadProjection_ensures among .marketDataQualitySummary
      (owns_marketDataQualitySummaryObjectKey _))
  intro _
  exact Fallible.ensures_pure (fun _ holding => ⟨rfl, holding⟩)

/-- The feature deltas are uploaded under their recorded keys. -/
theorem publishFeatureDeltas_ensures
    (among : run ∈ runs)
    (publishedKeys : PublishedOutputKeys) :
    Fallible.Ensures (HoldingState sha256Hex runs known)
      (publishFeatureDeltas run.toFinishedRun publishedKeys)
      (fun keys state =>
        keys =
            { publishedKeys with
              marketFeatureDeltaSummaryKey :=
                some (marketFeatureDeltaSummaryObjectKey run.l1RunId)
              marketFeatureDeltaKey :=
                some (marketFeatureDeltaObjectKey run.l1RunId) } ∧
          HoldingState sha256Hex runs
            (marketFeatureDeltaObjectKey run.l1RunId ::
              marketFeatureDeltaSummaryObjectKey run.l1RunId :: known)
            state)
      (HoldingState sha256Hex runs []) := by
  unfold publishFeatureDeltas
  apply Fallible.ensures_bind
    (uploadProjection_ensures among .marketFeatureDeltaSummary
      (owns_marketFeatureDeltaSummaryObjectKey _))
  intro _
  apply Fallible.ensures_bind
    (uploadProjection_ensures among .marketFeatureDelta
      (owns_marketFeatureDeltaObjectKey _))
  intro _
  exact Fallible.ensures_pure (fun _ holding => ⟨rfl, holding⟩)

/-- The regime contexts are uploaded under their recorded key. -/
theorem publishRegimeContexts_ensures
    (among : run ∈ runs)
    (publishedKeys : PublishedOutputKeys) :
    Fallible.Ensures (HoldingState sha256Hex runs known)
      (publishRegimeContexts run.toFinishedRun publishedKeys)
      (fun keys state =>
        keys =
            { publishedKeys with
              marketRegimeContextKey :=
                some (marketRegimeContextObjectKey run.l1RunId) } ∧
          HoldingState sha256Hex runs
            (marketRegimeContextObjectKey run.l1RunId :: known) state)
      (HoldingState sha256Hex runs []) := by
  unfold publishRegimeContexts
  apply Fallible.ensures_bind
    (uploadProjection_ensures among .marketRegimeContext
      (owns_marketRegimeContextObjectKey _))
  intro _
  exact Fallible.ensures_pure (fun _ holding => ⟨rfl, holding⟩)

/-- The rollups and the snapshot are uploaded under their recorded keys. -/
theorem publishBootstrapRollupAndUniverse_ensures
    (among : run ∈ runs)
    (publishedKeys : PublishedOutputKeys) :
    Fallible.Ensures (HoldingState sha256Hex runs known)
      (publishBootstrapRollupAndUniverse run.toFinishedRun sha256Hex
        publishedKeys)
      (fun keys state =>
        keys =
            { publishedKeys with
              symbolUniverseBootstrapRollupKey :=
                (run.publishedRollupKeys sha256Hex).head?
              symbolUniverseSnapshotKey :=
                some (symbolUniverseSnapshotObjectKey run.l1RunId) } ∧
          HoldingState sha256Hex runs
            (symbolUniverseSnapshotObjectKey run.l1RunId ::
              (run.publishedRollupKeys sha256Hex ++ known))
            state)
      (HoldingState sha256Hex runs []) := by
  have keys :
      (((run.currentRollups sha256Hex).map (fun rollup =>
          (symbolUniverseBootstrapRollupObjectKey rollup.dayStartMs,
            (.projection .symbolUniverseBootstrapRollup :
              L1Object Number)))).map Prod.fst).insertionSort (· ≤ ·) =
        run.publishedRollupKeys sha256Hex := by
    rw [List.map_map]
    rfl
  unfold publishBootstrapRollupAndUniverse
  apply Fallible.ensures_bind request_id_ensures
  intro _
  apply Fallible.ensures_bind (uploadAll_ensures among ?_)
  · intro rollupKeys
    apply Fallible.ensures_assuming
    intro recorded
    apply Fallible.ensures_bind
      (uploadProjection_ensures among .symbolUniverseSnapshot
        (owns_symbolUniverseSnapshotObjectKey _))
    intro _
    apply Fallible.ensures_pure
    intro state holding
    rw [recorded, keys]
    refine ⟨rfl, holding.mono (List.cons_subset_cons _ ?_)⟩
    rw [← keys]
    exact List.append_subset.mpr
      ⟨fun key member =>
        List.mem_append_left _
          ((List.perm_insertionSort _ _).mem_iff.mp member),
        List.subset_append_right _ _⟩
  · intro object member
    obtain ⟨rollup, _, rfl⟩ := List.mem_map.mp member
    exact ⟨.projection _
      (owns_symbolUniverseBootstrapRollupObjectKey _), rfl⟩

/-- A successful run has uploaded whatever it records. -/
theorem publishArtifacts_ensures
    (among : run ∈ runs)
    (success : run.build.status = .success) :
    Fallible.Ensures (HoldingState sha256Hex runs [])
      (publishArtifacts run.toFinishedRun sha256Hex)
      (fun keys state =>
        keys = run.publishedKeys sha256Hex ∧
          HoldingState sha256Hex runs (run.publishedKeys sha256Hex).all
            state)
      (HoldingState sha256Hex runs []) := by
  unfold publishArtifacts
  apply Fallible.ensures_bind (publishSliceParquets_ensures among success)
  intro sliceOutputKeys
  apply Fallible.ensures_assuming
  rintro rfl
  apply Fallible.ensures_bind (publishQualitySummary_ensures among _)
  intro withSummary
  apply Fallible.ensures_assuming
  rintro rfl
  apply Fallible.ensures_bind (publishFeatureDeltas_ensures among _)
  intro withDeltas
  apply Fallible.ensures_assuming
  rintro rfl
  apply Fallible.ensures_bind (publishRegimeContexts_ensures among _)
  intro withContexts
  apply Fallible.ensures_assuming
  rintro rfl
  refine (publishBootstrapRollupAndUniverse_ensures among _).imp
    (fun _ => id) ?_ (fun _ => id)
  rintro keys state ⟨rfl, holding⟩
  have recorded :
      run.publishedKeys sha256Hex =
        { sliceOutputKeys := run.sliceOutputKeys
          marketDataQualitySummaryKey :=
            some (marketDataQualitySummaryObjectKey run.l1RunId)
          marketFeatureDeltaKey :=
            some (marketFeatureDeltaObjectKey run.l1RunId)
          marketFeatureDeltaSummaryKey :=
            some (marketFeatureDeltaSummaryObjectKey run.l1RunId)
          marketRegimeContextKey :=
            some (marketRegimeContextObjectKey run.l1RunId)
          symbolUniverseSnapshotKey :=
            some (symbolUniverseSnapshotObjectKey run.l1RunId)
          symbolUniverseBootstrapRollupKey :=
            (run.publishedRollupKeys sha256Hex).head? } :=
    if_pos success
  rw [recorded]
  refine ⟨rfl, holding.mono ?_⟩
  intro key member
  simp only [PublishedOutputKeys.all, PublishedOutputKeys.projectionKeys,
    List.mem_append, List.reduceOption_mem_iff, List.mem_cons,
    Option.some.injEq, List.not_mem_nil, or_false] at member
  simp only [List.mem_cons, List.mem_append]
  rcases member with inSlices | isSummary | isDelta | isDeltaSummary |
    isContext | isSnapshot | isRollup
  · tauto
  · tauto
  · tauto
  · tauto
  · tauto
  · tauto
  · have := List.mem_of_head? isRollup.symm
    tauto

/-- Pointers that name a known manifest keep the store. -/
theorem publishIndexPointers_ensures
    (among : run ∈ runs)
    (notBlocked : run.build.status ≠ .blocked)
    (windowStarts : List Int) :
    Fallible.Ensures
      (HoldingState sha256Hex runs [manifestObjectKey run.l1RunId])
      (publishIndexPointers run.toFinishedRun windowStarts)
      (fun _ =>
        HoldingState sha256Hex runs [manifestObjectKey run.l1RunId])
      (HoldingState sha256Hex runs []) := by
  induction windowStarts with
  | nil =>
      exact Fallible.ensures_pure (fun _ holding => holding)
  | cons windowStartMs rest inductionHypothesis =>
      have named :
          (L1Object.pointer (run.indexPointer windowStartMs) :
              L1Object Number).references =
            [manifestObjectKey run.l1RunId] := by
        rw [L1Object.references, canonicalManifestKey_indexPointer]
        rfl
      have kept :
          ∀ bucket,
            Holding sha256Hex runs [manifestObjectKey run.l1RunId] bucket →
            Holding sha256Hex runs [manifestObjectKey run.l1RunId]
              (bucket.insert
                (indexPointerKey run.args.windowMs windowStartMs)
                (.pointer (run.indexPointer windowStartMs))) :=
        fun bucket holding =>
          (holding.insert among (.pointer notBlocked windowStartMs)
            (by rw [named]; exact List.Subset.refl _)).mono
              (List.subset_cons_self _ _)
      unfold publishIndexPointers
      apply Fallible.ensures_bind
        ((attempt_ensures _ kept).imp (fun _ => id)
          (fun _ _ reached => reached.1)
          (fun _ holding => holding.mono (List.nil_subset _)))
      intro done
      apply Fallible.ensures_bind inductionHypothesis
      intro others
      exact Fallible.ensures_pure (fun _ holding => holding)

/-- Report, manifest and pointers follow what they name. -/
theorem publishManifestAndIndex_ensures
    (among : run ∈ runs) :
    Fallible.Ensures
      (HoldingState sha256Hex runs (run.publishedKeys sha256Hex).all)
      (publishManifestAndIndex run.toFinishedRun
        (run.publishedKeys sha256Hex))
      (fun _ => HoldingState sha256Hex runs [])
      (HoldingState sha256Hex runs []) := by
  have forgotten :
      ∀ known state,
        HoldingState sha256Hex runs known state →
        HoldingState sha256Hex runs [] state :=
    fun _ _ holding => holding.mono (List.nil_subset _)
  unfold publishManifestAndIndex
  apply Fallible.ensures_bind
    (uploadObject_ensures among .report (List.nil_subset _))
  intro _
  apply Fallible.ensures_bind
    (uploadObject_ensures among .manifest (List.Subset.refl _))
  intro _
  apply Fallible.ensures_bind request_id_ensures
  intro _
  split_ifs with published
  · have notBlocked : run.build.status ≠ .blocked := by
      rw [show (Publish.report run.build run.l1RunId run.inputRange
        run.timing (manifestObjectKey run.l1RunId)
        (run.publishedKeys sha256Hex)).status =
          run.build.status.asStr from rfl,
        shouldPublishIndexPointers_asStr] at published
      exact of_decide_eq_true published
    apply Fallible.ensures_bind
      ((publishIndexPointers_ensures among notBlocked _).imp
        (fun _ holding => holding.mono (by simp))
        (fun _ _ => id) (fun _ => id))
    intro done
    cases done with
    | false => exact Fallible.ensures_throw (forgotten _)
    | true => exact Fallible.ensures_pure (forgotten _)
  · exact Fallible.ensures_pure (forgotten _)

/-- Wherever a publication ends, the store is in order. -/
theorem publishOutputs_ensures
    (among : run ∈ runs) :
    Fallible.Ensures (HoldingState sha256Hex runs [])
      (publishOutputs run.toFinishedRun sha256Hex)
      (fun _ => HoldingState sha256Hex runs [])
      (HoldingState sha256Hex runs []) := by
  -- The records are written from the keys of what is in the bucket.
  have recorded :
      ∀ publishedKeys,
        Fallible.Ensures
          (fun state =>
            publishedKeys = run.publishedKeys sha256Hex ∧
              HoldingState sha256Hex runs
                (run.publishedKeys sha256Hex).all state)
          (publishManifestAndIndex run.toFinishedRun publishedKeys)
          (fun _ => HoldingState sha256Hex runs [])
          (HoldingState sha256Hex runs []) := by
    intro publishedKeys
    apply Fallible.ensures_assuming
    rintro rfl
    exact publishManifestAndIndex_ensures among
  unfold publishOutputs
  split_ifs with success
  · exact Fallible.ensures_bind (publishArtifacts_ensures among success)
      recorded
  · have nothing : run.publishedKeys sha256Hex = {} := if_neg success
    rw [nothing] at recorded
    exact Fallible.ensures_bind
      (Fallible.ensures_pure (fun _ holding => ⟨rfl, holding⟩)) recorded

end Uploads

section Histories

variable
  [NumberFormat Number]
  (sha256Hex : String → String)

/-- A run that is published and what happens to its requests. -/
structure Publication (Number : Type) where
  run : PublicationRun Number
  fate : List PutOutcome

/-- The bucket after a publication, wherever it has ended. -/
def publishStep
    (bucket : L1Bucket Number)
    (publication : Publication Number) : L1Bucket Number :=
  ((publishOutputs publication.run.toFinishedRun sha256Hex).outcome
    ⟨bucket, publication.fate⟩).1.bucket

/-- The bucket after a history of publications. -/
def publishAll (history : List (Publication Number)) : L1Bucket Number :=
  Runs.run (publishStep sha256Hex) .empty history

variable {sha256Hex}

/-- One publication keeps the store in order. -/
theorem storeHolds_publishStep
    {runs : List (PublicationRun Number)}
    {bucket : L1Bucket Number}
    (holds : StoreHolds sha256Hex runs bucket)
    {publication : Publication Number}
    (among : publication.run ∈ runs) :
    StoreHolds sha256Hex runs
      (publishStep sha256Hex bucket publication) := by
  have ensured :=
    publishOutputs_ensures among ⟨bucket, publication.fate⟩
      (⟨holds, fun _ member => by cases member⟩ :
        Holding sha256Hex runs [] bucket)
  unfold publishStep
  revert ensured
  rcases (publishOutputs publication.run.toFinishedRun sha256Hex).outcome
    ⟨bucket, publication.fate⟩ with ⟨after, result⟩
  cases result with
  | ok _ => exact Holding.store
  | error failure => exact Holding.store

/-- After every history of publications the store is in order. -/
theorem storeHolds_publishAll
    (sha256Hex : String → String)
    (history : List (Publication Number)) :
    StoreHolds sha256Hex (history.map Publication.run)
      (publishAll sha256Hex history) := by
  have among :
      ∀ publications : List (Publication Number),
        publications ⊆ history →
        ∀ bucket,
          StoreHolds sha256Hex (history.map Publication.run) bucket →
          StoreHolds sha256Hex (history.map Publication.run)
            (Runs.run (publishStep sha256Hex) bucket publications) := by
    intro publications
    induction publications with
    | nil =>
        intro _ bucket holds
        exact holds
    | cons publication rest inductionHypothesis =>
        intro subset bucket holds
        obtain ⟨first, others⟩ := List.cons_subset.mp subset
        exact inductionHypothesis others _
          (storeHolds_publishStep holds (List.mem_map_of_mem first))
  refine among history (List.Subset.refl _) _ ⟨closed_empty, ?_⟩
  intro key object stored
  rw [OrderedMap.get?_empty] at stored
  cases stored

end Histories

section Resolution

variable
  [NumberFormat Number]
  {sha256Hex : String → String}
  {runs : List (PublicationRun Number)}
  {bucket : L1Bucket Number}

/-- What is present under a key is an object of its family. -/
theorem StoreHolds.exists_of_owned
    (holds : StoreHolds sha256Hex runs bucket)
    {key : String}
    (present : Present bucket key)
    {kind : ObjectKind}
    (owned : kind.Owns key) :
    ∃ object, bucket.get? key = some object ∧ object.kind = kind := by
  obtain ⟨object, stored⟩ := present
  obtain ⟨run, _, writes⟩ := holds.origin key object stored
  exact ⟨object, stored, ObjectKind.eq_of_owns writes.owned owned⟩

/-- What a manifest names is in the bucket. -/
structure ManifestBacked
    (bucket : L1Bucket Number)
    (stored : L1Manifest) : Prop where
  report : ∃ found, bucket.get? stored.reportKey = some (.report found)
  slices :
    ∀ key ∈ stored.outputObjectKeys,
      ∃ rows, bucket.get? key = some (.slices rows)
  projections :
    ∀ key,
      some key ∈ stored.publishedKeys.projectionKeys →
      ∃ kind, bucket.get? key = some (.projection kind)

/-- The slice keys of a run belong to the slices. -/
theorem owns_of_mem_sliceOutputKeys
    {run : FinishedRun Number}
    {key : String}
    (member : key ∈ (run.publishedKeys sha256Hex).sliceOutputKeys) :
    ObjectKind.slices.Owns key := by
  unfold FinishedRun.publishedKeys at member
  split_ifs at member with success
  · have inGroups : key ∈ run.sliceOutputKeys := member
    rw [run.sliceOutputKeys_eq] at inGroups
    obtain ⟨slice, _, rfl⟩ := (mem_groupSlices_keys _ _ _).mp inGroups
    exact owns_sliceObjectKey _ _ _ _
  · cases member

/-- The projection keys of a run belong to the projections. -/
theorem owns_of_mem_projectionKeys
    {run : FinishedRun Number}
    {key : String}
    (member :
      some key ∈ (run.publishedKeys sha256Hex).projectionKeys) :
    ObjectKind.projection.Owns key := by
  unfold FinishedRun.publishedKeys at member
  split_ifs at member with success
  · simp only [PublishedOutputKeys.projectionKeys, List.mem_cons,
      Option.some.injEq, List.not_mem_nil, or_false] at member
    rcases member with rfl | rfl | rfl | rfl | rfl | isRollup
    · exact owns_marketDataQualitySummaryObjectKey _
    · exact owns_marketFeatureDeltaObjectKey _
    · exact owns_marketFeatureDeltaSummaryObjectKey _
    · exact owns_marketRegimeContextObjectKey _
    · exact owns_symbolUniverseSnapshotObjectKey _
    · have inKeys := List.mem_of_head? isRollup.symm
      unfold FinishedRun.publishedRollupKeys at inKeys
      rw [(List.perm_insertionSort _ _).mem_iff] at inKeys
      obtain ⟨rollup, _, rfl⟩ := List.mem_map.mp inKeys
      exact owns_symbolUniverseBootstrapRollupObjectKey _
  · simp [PublishedOutputKeys.projectionKeys] at member

/-- Every stored manifest is backed. -/
theorem StoreHolds.manifestBacked
    (holds : StoreHolds sha256Hex runs bucket)
    {run : PublicationRun Number}
    {manifestKey : String}
    (stored :
      bucket.get? manifestKey = some (.manifest (run.manifest sha256Hex))) :
    ManifestBacked bucket (run.manifest sha256Hex) := by
  have present := holds.closed manifestKey _ stored
  refine ⟨?_, ?_, ?_⟩
  · obtain ⟨object, found, kind⟩ :=
      holds.exists_of_owned (present _ List.mem_cons_self)
        (owns_reportObjectKey _)
    cases object with
    | report found' => exact ⟨found', found⟩
    | _ => cases kind
  · intro key member
    obtain ⟨object, found, kind⟩ :=
      holds.exists_of_owned
        (present key
          (List.mem_cons_of_mem _ (List.mem_append_left _ member)))
        (owns_of_mem_sliceOutputKeys member)
    cases object with
    | slices rows => exact ⟨rows, found⟩
    | _ => cases kind
  · intro key member
    obtain ⟨object, found, kind⟩ :=
      holds.exists_of_owned
        (present key
          (List.mem_cons_of_mem _
            (List.mem_append_right _
              (List.reduceOption_mem_iff.mpr member))))
        (owns_of_mem_projectionKeys member)
    cases object with
    | projection projected => exact ⟨projected, found⟩
    | _ => cases kind

/-- Every stored pointer leads to the manifest of a run of its identifier. -/
theorem StoreHolds.manifest_of_pointer
    (holds : StoreHolds sha256Hex runs bucket)
    {key : String}
    {document : JsonDocument}
    (stored : bucket.get? key = some (.pointer document)) :
    ∃ pointerRun ∈ runs,
      ∃ manifestRun ∈ runs,
        pointerRun.build.status ≠ .blocked ∧
          manifestRun.l1RunId = pointerRun.l1RunId ∧
          canonicalManifestKey document =
            some (manifestObjectKey pointerRun.l1RunId) ∧
          bucket.get? (manifestObjectKey pointerRun.l1RunId) =
            some (.manifest (manifestRun.manifest sha256Hex)) := by
  obtain ⟨pointerRun, among, writes⟩ := holds.origin key _ stored
  generalize isPointer : L1Object.pointer document = object at writes
  cases writes with
  | slices success member => cases isPointer
  | projection kind owned => cases isPointer
  | report => cases isPointer
  | manifest => cases isPointer
  | pointer notBlocked windowStartMs =>
      cases isPointer
      have names :=
        canonicalManifestKey_indexPointer pointerRun.toFinishedRun
          windowStartMs
      obtain ⟨object, found⟩ :=
        holds.closed _ _ stored (manifestObjectKey pointerRun.l1RunId)
          (by simp [L1Object.references, names])
      obtain ⟨manifestRun, amongRuns, written⟩ :=
        holds.origin _ object found
      obtain ⟨rfl, sameId⟩ := written.manifest_of_key
      exact ⟨pointerRun, among, manifestRun, amongRuns, notBlocked, sameId,
        names, found⟩

/-- A pointer leads to records and projections that are present, and to slice
objects that hold every slice of the build exactly once. -/
def PointerHolds
    (sha256Hex : String → String)
    (runs : List (PublicationRun Number))
    (bucket : L1Bucket Number)
    (document : JsonDocument) : Prop :=
  ∃ manifestKey stored,
    canonicalManifestKey document = some manifestKey ∧
      bucket.get? manifestKey = some (.manifest stored) ∧
      ManifestBacked bucket stored ∧
      ∃ run ∈ runs,
        stored = run.manifest sha256Hex ∧
          (stored.outputObjectKeys.flatMap (rowsAt bucket)).Perm
            run.build.slices

/-- Unless a run of the same identifier publishes differently, the slice
objects of a run hold what the run has put into them. -/
theorem StoreHolds.rowsAt_eq
    (holds : StoreHolds sha256Hex runs bucket)
    {run : PublicationRun Number}
    (same :
      ∀ other ∈ runs,
        other.l1RunId = run.l1RunId → SamePublication other run)
    {key : String}
    {rows : List (SliceRow Number)}
    (member :
      (key, rows) ∈
        sliceObjects run.l1RunId run.args.windowMs run.build.slices)
    (present : Present bucket key) :
    rowsAt bucket key = rows := by
  obtain ⟨object, stored⟩ := present
  obtain ⟨writer, among, writes⟩ := holds.origin key object stored
  obtain ⟨venue, windowStartMs, keyForm⟩ :=
    exists_sliceObjectKey_of_mem member
  obtain ⟨written, rfl, _, writtenMember⟩ :=
    writes.slices_of_key (keyForm ▸ owns_sliceObjectKey _ _ _ _)
  obtain ⟨writerVenue, writerStartMs, writerForm⟩ :=
    exists_sliceObjectKey_of_mem writtenMember
  have sameId : writer.l1RunId = run.l1RunId :=
    runId_eq_of_sliceObjectKey_eq writer.slash_not_mem run.slash_not_mem
      (writerForm.symm.trans keyForm)
  obtain ⟨sameWindow, _, sameSlices⟩ := same writer among sameId
  rw [sameId, sameWindow, sameSlices] at writtenMember
  have rowsForm := rows_of_mem_sliceObjects _ _ _ member
  have writtenForm := rows_of_mem_sliceObjects _ _ _ writtenMember
  rw [rowsAt, stored]
  exact writtenForm.trans rowsForm.symm

/-- Unless a run of the same identifier publishes differently, the slice
objects of a stored manifest hold every slice of the build exactly once. -/
theorem StoreHolds.slices_perm
    (holds : StoreHolds sha256Hex runs bucket)
    {run : PublicationRun Number}
    (same :
      ∀ other ∈ runs,
        other.l1RunId = run.l1RunId → SamePublication other run)
    (notBlocked : run.build.status ≠ .blocked)
    (backed : ManifestBacked bucket (run.manifest sha256Hex)) :
    ((run.manifest sha256Hex).outputObjectKeys.flatMap
        (rowsAt bucket)).Perm
      run.build.slices := by
  have recorded :
      (run.manifest sha256Hex).outputObjectKeys =
        (run.publishedKeys sha256Hex).sliceOutputKeys :=
    rfl
  cases status : run.build.status with
  | blocked =>
      exact absurd status notBlocked
  | empty =>
      have nothing : run.publishedKeys sha256Hex = {} := by
        unfold FinishedRun.publishedKeys
        rw [status]
        rfl
      rw [recorded, nothing, run.slices_eq_nil_of_empty status]
      exact List.Perm.refl _
  | success =>
      have keys :
          (run.manifest sha256Hex).outputObjectKeys =
            (sliceObjects run.l1RunId run.args.windowMs
              run.build.slices).map Prod.fst := by
        rw [recorded, FinishedRun.publishedKeys, if_pos status,
          sliceObjects_keys]
        exact run.sliceOutputKeys_eq
      have held :
          ∀ object ∈
            sliceObjects run.l1RunId run.args.windowMs run.build.slices,
            rowsAt bucket object.1 = object.2 := by
        intro object member
        obtain ⟨rows, stored⟩ :=
          backed.slices object.1
            (by rw [keys]; exact List.mem_map_of_mem member)
        exact holds.rowsAt_eq same member ⟨_, stored⟩
      rw [keys, List.flatMap_map, List.flatMap_congr held]
      exact sliceObjects_partition _ _ _

end Resolution

section PublishedPointers

variable
  [NumberFormat Number]
  (sha256Hex : String → String)

/-- Whatever fails and wherever runs stop, no pointer dangles. -/
theorem publishedPointers_backed
    (history : List (Publication Number))
    {key : String}
    {document : JsonDocument}
    (stored :
      (publishAll sha256Hex history).get? key =
        some (.pointer document)) :
    ∃ manifestKey found,
      canonicalManifestKey document = some manifestKey ∧
        (publishAll sha256Hex history).get? manifestKey =
          some (.manifest found) ∧
        ManifestBacked (publishAll sha256Hex history) found := by
  have holds := storeHolds_publishAll sha256Hex history
  obtain ⟨_, _, _, _, _, _, names, found⟩ :=
    holds.manifest_of_pointer stored
  exact ⟨_, _, names, found, holds.manifestBacked found⟩

/-- If no run publishes another build under the identifier of a run, every
pointer also leads to the slices of its build. -/
theorem publishedPointers_hold
    (history : List (Publication Number))
    (identifiersApart :
      ∀ first ∈ history, ∀ second ∈ history,
        first.run.l1RunId = second.run.l1RunId →
        SamePublication first.run second.run) :
    ∀ key document,
      (publishAll sha256Hex history).get? key = some (.pointer document) →
      PointerHolds sha256Hex (history.map Publication.run)
        (publishAll sha256Hex history) document := by
  have holds := storeHolds_publishAll sha256Hex history
  intro key document stored
  obtain ⟨pointerRun, pointerAmong, manifestRun, manifestAmong, notBlocked,
    sameId, names, found⟩ := holds.manifest_of_pointer stored
  obtain ⟨pointerPublication, inHistory, rfl⟩ :=
    List.mem_map.mp pointerAmong
  obtain ⟨publication, published, rfl⟩ := List.mem_map.mp manifestAmong
  have backed := holds.manifestBacked found
  refine ⟨_, _, names, found, backed, publication.run, manifestAmong, rfl,
    ?_⟩
  apply holds.slices_perm
  · intro other amongRuns sameOther
    obtain ⟨otherPublication, otherPublished, rfl⟩ :=
      List.mem_map.mp amongRuns
    exact identifiersApart otherPublication otherPublished publication
      published sameOther
  · rw [(identifiersApart publication published pointerPublication
      inHistory sameId).2.1]
    exact notBlocked
  · exact backed

end PublishedPointers

section Sample

/-- A run of the first quarter hour, published by a worker. -/
def quarterPublicationRun
    (events : List RawInputEvent) : PublicationRun ℚ where
  toFinishedRun := quarterRun events
  identified := rfl
  finished := Build.finish_status _

/-- A trade of ETH at Binance. -/
def ethTrade : RawInputEvent :=
  { Build.btcTrade "t-2" with
    symbolNative := "ETHUSDT"
    symbolCanonical := "ETH"
    baseAsset := "ETH" }

/-- A run that is published whole. -/
def wholePublication : Publication ℚ where
  run := quarterPublicationRun [Build.btcTrade "t-1"]
  fate := List.replicate 12 .stored

/-- In the same millisecond, a run that has also read a trade of ETH and stops
after its first upload. -/
def stoppedPublication : Publication ℚ where
  run := quarterPublicationRun [Build.btcTrade "t-1", ethTrade]
  fate := [.stored]

/-- A run of the same quarter hour that is started a minute later, has also read
a trade of ETH, and stops after its second upload. -/
def laterPublication : Publication ℚ where
  run :=
    { quarterPublicationRun [Build.btcTrade "t-1", ethTrade] with
      l1RunId := l1RunId 0 900000 1960000
      timing := ⟨1960000, 1960000⟩
      identified := rfl }
  fate := List.replicate 2 .stored

/-- A run that is published whole has a pointer, which leads to its slice also
after a later run has stopped on the way. -/
theorem laterPublication_holds :
    let history := [wholePublication, laterPublication]
    let bucket := publishAll quarterSha256Hex history
    bucket.get? (indexPointerKey 900000 0) =
        some (.pointer (wholePublication.run.indexPointer 0)) ∧
      (bucket.get? (manifestObjectKey laterPublication.run.l1RunId) = none ∧
        (laterPublication.run.sliceOutputKeys.map
          fun key => (rowsAt bucket key).length) = [2]) ∧
      PointerHolds quarterSha256Hex (history.map Publication.run) bucket
        (wholePublication.run.indexPointer 0) := by
  intro history bucket
  -- The bucket is evaluated once for all that is read from it.
  have reached :
      bucket.get? (indexPointerKey 900000 0) =
          some (.pointer (wholePublication.run.indexPointer 0)) ∧
        bucket.get? (manifestObjectKey laterPublication.run.l1RunId) = none ∧
        (laterPublication.run.sliceOutputKeys.map
          fun key => (rowsAt bucket key).length) = [2] := by
    decide +kernel
  have idsApart :
      wholePublication.run.l1RunId ≠ laterPublication.run.l1RunId := by
    decide +kernel
  refine ⟨reached.1, reached.2, publishedPointers_hold quarterSha256Hex
    history ?_ _ _ reached.1⟩
  intro first firstMember second secondMember sameId
  simp only [history, List.mem_cons, List.not_mem_nil,
    or_false] at firstMember secondMember
  rcases firstMember with rfl | rfl <;> rcases secondMember with rfl | rfl
  · exact ⟨rfl, rfl, rfl⟩
  · exact absurd sameId idsApart
  · exact absurd sameId.symm idsApart
  · exact ⟨rfl, rfl, rfl⟩

/-- A run under the same identifier overwrites slices that a pointer leads to. -/
theorem stoppedPublication_overwrites :
    ∃ document,
      (publishAll quarterSha256Hex
          [wholePublication, stoppedPublication]).get?
            (indexPointerKey 900000 0) =
          some (.pointer document) ∧
        ¬ PointerHolds quarterSha256Hex
          [wholePublication.run, stoppedPublication.run]
          (publishAll quarterSha256Hex
            [wholePublication, stoppedPublication])
          document := by
  -- The bucket is evaluated once for all that is read from it.
  have reached :
      (publishAll quarterSha256Hex
            [wholePublication, stoppedPublication]).get?
            (indexPointerKey 900000 0) =
          some (.pointer (wholePublication.run.indexPointer 0)) ∧
        (publishAll quarterSha256Hex
            [wholePublication, stoppedPublication]).get?
            (manifestObjectKey wholePublication.run.l1RunId) =
          some
            (.manifest
              (wholePublication.run.manifest quarterSha256Hex)) ∧
        ((wholePublication.run.manifest
            quarterSha256Hex).outputObjectKeys.flatMap
          (rowsAt (publishAll quarterSha256Hex
            [wholePublication, stoppedPublication]))).length = 2 := by
    decide +kernel
  obtain ⟨pointerStored, manifestStored, twoSlices⟩ := reached
  refine ⟨_, pointerStored, ?_⟩
  rintro ⟨manifestKey, stored, names, found, _, run, among, written,
    slices⟩
  rw [canonicalManifestKey_indexPointer, Option.some.injEq] at names
  rw [← names, manifestStored, Option.some.injEq,
    L1Object.manifest.injEq] at found
  rw [← found] at written slices
  have length := slices.length_eq
  rw [twoSlices] at length
  rcases List.mem_cons.mp among with rfl | inRest
  · revert length
    decide +kernel
  · have counts := congrArg L1Manifest.sliceCountTotal written
    rw [List.mem_singleton.mp inRest] at counts
    revert counts
    decide +kernel

end Sample

end MarketIngest.Publish
