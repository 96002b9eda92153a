import MarketIngest.ArgumentValues
import MarketIngest.L0Sink
import MarketIngest.L1Store
import MarketIngest.ReadPlan

namespace MarketIngest.Retention

open Normalize S3 Publish
open Storage (StorageError isBlank)

/-!
# Retention of the L1 bucket

A retention run lists the objects family by family, selects the first expired
ones up to a limit and deletes them one by one; a delete that fails is counted
and skipped.  Ages are ages of single objects.  The theorem says exactly when
every pointer that is left still leads to its manifest, report and slices.
-/

/-- What a listing tells of an object. -/
structure S3ObjectSummary where
  key : String
  lastModifiedMs : Option Int
  sizeBytes : Nat
  deriving Repr, DecidableEq

/-- An object as it is stored. -/
structure DatedObject (Content : Type) where
  content : Content
  lastModifiedMs : Option Int
  sizeBytes : Nat
  deriving DecidableEq

/-- Objects with their dates by key. -/
abbrev DatedBucket (Content : Type) :=
  OrderedMap String (DatedObject Content)

/-- What is retained how long. -/
structure S3RetentionConfig where
  bucket : String
  region : String
  profile : Option String
  prefixes : List String
  protectedPrefixes : List String
  retentionSecs : Int
  maxDeletesPerRun : Nat
  deriving Repr, DecidableEq

/-- The account of a retention run. -/
structure S3RetentionStats where
  scannedObjectCount : Nat := 0
  missingLastModifiedCount : Nat := 0
  protectedObjectCount : Nat := 0
  expiredObjectCount : Nat := 0
  deletedObjectCount : Nat := 0
  failedDeleteCount : Nat := 0
  deletedBytes : Nat := 0
  maxDeletedAgeSecs : Int := 0
  stoppedAtDeleteLimit : Bool := false
  deriving Repr, DecidableEq

/-- The families of the L1 bucket, in the order in which they are listed. -/
def defaultL1RetentionPrefixes : List String :=
  ["normalized_market_slice/", "normalization_report/",
    "market_data_quality_summary/", "market_feature_delta/",
    "market_feature_delta_summary/", "market_regime_context/",
    "symbol_universe_snapshot/", "runs/", "l1_index/"]

/-- Retention of the L1 bucket. -/
def l1S3RetentionConfig
    (bucket region : String)
    (profile : Option String)
    (retentionDays : Int)
    (maxDeletesPerRun : Nat) : S3RetentionConfig where
  bucket := bucket
  region := region
  profile := profile
  prefixes := defaultL1RetentionPrefixes
  protectedPrefixes := []
  retentionSecs := saturatingMul retentionDays 86400
  maxDeletesPerRun := maxDeletesPerRun

/-- Refuse unsafe settings. -/
def validateConfig
    (config : S3RetentionConfig) : Except StorageError Unit :=
  firstRefusal
    [(isBlank config.bucket,
        .invalidConfig "s3 retention bucket is required"),
      (config.prefixes.isEmpty,
        .invalidConfig "s3 retention prefixes are required"),
      (config.retentionSecs ≤ 0,
        .invalidConfig "s3 retention seconds must be positive"),
      (config.maxDeletesPerRun = 0,
        .invalidConfig
          "s3 retention max deletes per run must be positive")]

/-- What to do with an object. -/
inductive RetentionDecision where
  | keep
  | missingLastModified
  | inProtectedFamily
  | delete (ageSecs : Int)
  deriving Repr, DecidableEq

/-- The key is below a protected prefix. -/
def isProtectedKey
    (key : String)
    (protectedPrefixes : List String) : Bool :=
  protectedPrefixes.any (fun leading =>
    !leading.isEmpty && Text.startsWith key leading)

/-- Decide on an object by its age. -/
def retentionDecision
    (config : S3RetentionConfig)
    (nowMs : Int)
    (object : S3ObjectSummary) : RetentionDecision :=
  if isProtectedKey object.key config.protectedPrefixes then
    .inProtectedFamily
  else
    match object.lastModifiedMs with
    | none => .missingLastModified
    | some lastModifiedMs =>
        let ageMs := saturatingSub nowMs lastModifiedMs
        let retentionMs := saturatingMul config.retentionSecs 1000
        if ageMs < retentionMs then
          .keep
        else
          .delete (ageMs.tdiv 1000)

/-- An object that is to be deleted. -/
structure RetentionDeleteCandidate where
  key : String
  sizeBytes : Nat
  ageSecs : Int
  deriving Repr, DecidableEq

/-- Count an object, and select it if it is expired and the limit allows. -/
def observeRetentionObject
    (config : S3RetentionConfig)
    (nowMs : Int)
    (planned : S3RetentionStats × List RetentionDeleteCandidate)
    (object : S3ObjectSummary) :
    S3RetentionStats × List RetentionDeleteCandidate :=
  let (before, deleteCandidates) := planned
  let stats :=
    { before with scannedObjectCount := before.scannedObjectCount + 1 }
  match retentionDecision config nowMs object with
  | .keep => (stats, deleteCandidates)
  | .missingLastModified =>
      ({ stats with
          missingLastModifiedCount := stats.missingLastModifiedCount + 1 },
        deleteCandidates)
  | .inProtectedFamily =>
      ({ stats with protectedObjectCount := stats.protectedObjectCount + 1 },
        deleteCandidates)
  | .delete ageSecs =>
      let expired :=
        { stats with expiredObjectCount := stats.expiredObjectCount + 1 }
      if config.maxDeletesPerRun ≤ deleteCandidates.length then
        ({ expired with stoppedAtDeleteLimit := true }, deleteCandidates)
      else
        (expired,
          deleteCandidates ++
            [{ key := object.key
               sizeBytes := object.sizeBytes
               ageSecs := ageSecs }])

/-- What happens to one delete. -/
inductive DeleteOutcome where
  | deleted
  | failed
  | deletedUnacknowledged
  deriving Repr, DecidableEq

/-- The object is gone afterwards. -/
def DeleteOutcome.applied : DeleteOutcome → Bool
  | .deleted => true
  | .failed => false
  | .deletedUnacknowledged => true

/-- The caller sees success. -/
def DeleteOutcome.acknowledged : DeleteOutcome → Bool
  | .deleted => true
  | .failed => false
  | .deletedUnacknowledged => false

/-- What the surroundings of a retention run decide. -/
structure RetentionSurroundings where
  listFails : String → Bool
  delete : String → DeleteOutcome

section Runner

variable
  {Content : Type}
  (config : S3RetentionConfig)
  (nowMs : Int)
  (surroundings : RetentionSurroundings)

/-- The objects below a prefix, in the order of their keys. -/
def listObjectSummaries
    (bucket : DatedBucket Content)
    (keyPrefix : String) : List S3ObjectSummary :=
  (bucket.entries.filter (fun entry =>
    Text.startsWith entry.1 keyPrefix)).map (fun entry =>
      { key := entry.1
        lastModifiedMs := entry.2.lastModifiedMs
        sizeBytes := entry.2.sizeBytes })

/-- Go through the families; a failed listing ends the run. -/
def observePrefixes
    (bucket : DatedBucket Content) :
    List String →
    S3RetentionStats × List RetentionDeleteCandidate →
    Except StorageError
      (S3RetentionStats × List RetentionDeleteCandidate)
  | [], planned => .ok planned
  | keyPrefix :: rest, planned =>
      if surroundings.listFails keyPrefix then
        .error .aws
      else
        observePrefixes bucket rest
          ((listObjectSummaries bucket keyPrefix).foldl
            (observeRetentionObject config nowMs) planned)

/-- Delete one selected object and account for it. -/
def deleteCandidate
    (state : DatedBucket Content × S3RetentionStats)
    (candidate : RetentionDeleteCandidate) :
    DatedBucket Content × S3RetentionStats :=
  let (bucket, stats) := state
  let outcome := surroundings.delete candidate.key
  (if outcome.applied then bucket.erase candidate.key else bucket,
    if outcome.acknowledged then
      { stats with
        deletedObjectCount := stats.deletedObjectCount + 1
        deletedBytes :=
          min CommandLine.u64Max (stats.deletedBytes + candidate.sizeBytes)
        maxDeletedAgeSecs := max stats.maxDeletedAgeSecs candidate.ageSecs }
    else
      { stats with failedDeleteCount := stats.failedDeleteCount + 1 })

/-- One retention run. -/
def runS3RetentionOnce
    (bucket : DatedBucket Content) :
    DatedBucket Content × Except StorageError S3RetentionStats :=
  match validateConfig config with
  | .error failure => (bucket, .error failure)
  | .ok () =>
      match observePrefixes config nowMs surroundings bucket config.prefixes
          ({}, []) with
      | .error failure => (bucket, .error failure)
      | .ok (stats, deleteCandidates) =>
          let (after, account) :=
            deleteCandidates.foldl (deleteCandidate surroundings)
              (bucket, stats)
          (after, .ok account)

/-- The selection of an object, if it is expired. -/
def expired?
    (object : S3ObjectSummary) : Option RetentionDeleteCandidate :=
  match retentionDecision config nowMs object with
  | .delete ageSecs =>
      some
        { key := object.key
          sizeBytes := object.sizeBytes
          ageSecs := ageSecs }
  | _ => none

/-- The expired objects in the order in which they are listed. -/
def expiredObjects
    (bucket : DatedBucket Content) : List RetentionDeleteCandidate :=
  (config.prefixes.flatMap (listObjectSummaries bucket)).filterMap
    (expired? config nowMs)

/-- The objects that a run selects: the first expired ones. -/
def selectedKeys (bucket : DatedBucket Content) : List String :=
  ((expiredObjects config nowMs bucket).take config.maxDeletesPerRun).map
    (fun candidate => candidate.key)

/-- Observed objects are selected in order, up to the limit. -/
theorem observed_candidates
    (objects : List S3ObjectSummary)
    (planned : S3RetentionStats × List RetentionDeleteCandidate) :
    (objects.foldl (observeRetentionObject config nowMs) planned).2 =
      planned.2 ++
        (objects.filterMap (expired? config nowMs)).take
          (config.maxDeletesPerRun - planned.2.length) := by
  induction objects generalizing planned with
  | nil =>
      simp
  | cons object rest inductionHypothesis =>
      rw [List.foldl_cons, inductionHypothesis]
      unfold observeRetentionObject
      cases decision : retentionDecision config nowMs object with
      | keep =>
          simp [expired?, decision]
      | missingLastModified =>
          simp [expired?, decision]
      | inProtectedFamily =>
          simp [expired?, decision]
      | delete ageSecs =>
          by_cases full : config.maxDeletesPerRun ≤ planned.2.length
          · simp [full, Nat.sub_eq_zero_of_le full]
          · have room :
                config.maxDeletesPerRun - planned.2.length =
                  (config.maxDeletesPerRun - (planned.2.length + 1)) + 1 := by
              omega
            simp [full, expired?, decision, room]

/-- If every listing succeeds, the families are observed one after another. -/
theorem observePrefixes_eq
    (bucket : DatedBucket Content)
    {prefixes : List String}
    (listed :
      ∀ keyPrefix ∈ prefixes, surroundings.listFails keyPrefix = false)
    (planned : S3RetentionStats × List RetentionDeleteCandidate) :
    observePrefixes config nowMs surroundings bucket prefixes planned =
      .ok
        ((prefixes.flatMap (listObjectSummaries bucket)).foldl
          (observeRetentionObject config nowMs) planned) := by
  induction prefixes generalizing planned with
  | nil =>
      rfl
  | cons keyPrefix rest inductionHypothesis =>
      obtain ⟨first, others⟩ := List.forall_mem_cons.mp listed
      rw [observePrefixes, if_neg (by simp [first]),
        inductionHypothesis others, List.flatMap_cons, List.foldl_append]

/-- A failed listing fails the run. -/
theorem observePrefixes_error
    (bucket : DatedBucket Content)
    {prefixes : List String}
    (failing :
      ∃ keyPrefix ∈ prefixes, surroundings.listFails keyPrefix = true)
    (planned : S3RetentionStats × List RetentionDeleteCandidate) :
    ∃ failure,
      observePrefixes config nowMs surroundings bucket prefixes planned =
        .error failure := by
  induction prefixes generalizing planned with
  | nil =>
      obtain ⟨_, member, _⟩ := failing
      cases member
  | cons keyPrefix rest inductionHypothesis =>
      by_cases first : surroundings.listFails keyPrefix = true
      · exact ⟨.aws, by rw [observePrefixes, if_pos first]⟩
      · rw [observePrefixes, if_neg first]
        obtain ⟨failed, member, fails⟩ := failing
        rcases List.mem_cons.mp member with rfl | later
        · exact absurd fails first
        · exact inductionHypothesis ⟨failed, later, fails⟩ _

/-- The deletes remove the objects whose delete is applied. -/
theorem deleted_get?
    (candidates : List RetentionDeleteCandidate)
    (state : DatedBucket Content × S3RetentionStats)
    {key : String}
    {object : DatedObject Content} :
    (candidates.foldl (deleteCandidate surroundings) state).1.get? key =
        some object ↔
      state.1.get? key = some object ∧
        ¬ (key ∈ candidates.map (fun candidate => candidate.key) ∧
          (surroundings.delete key).applied = true) := by
  induction candidates generalizing state with
  | nil =>
      simp
  | cons candidate rest inductionHypothesis =>
      rw [List.foldl_cons, inductionHypothesis]
      by_cases applied : (surroundings.delete candidate.key).applied = true
      · by_cases same : key = candidate.key
        · simp [deleteCandidate, same, applied]
        · simp [deleteCandidate, same, applied,
            OrderedMap.get?_erase_other _ same]
      · by_cases same : key = candidate.key
        · simp [deleteCandidate, same, applied]
        · simp [deleteCandidate, same, applied]

/-- The run deletes the object under the key: it reaches its deletes, the object
is among the first expired ones and its own delete is applied. -/
structure Deletes
    (bucket : DatedBucket Content)
    (key : String) : Prop where
  accepted : validateConfig config = .ok ()
  listed :
    ∀ keyPrefix ∈ config.prefixes, surroundings.listFails keyPrefix = false
  selected : key ∈ selectedKeys config nowMs bucket
  applied : (surroundings.delete key).applied = true

/-- What a run leaves is what it does not delete, unchanged. -/
theorem runS3RetentionOnce_get?
    (bucket : DatedBucket Content)
    {key : String}
    {object : DatedObject Content} :
    (runS3RetentionOnce config nowMs surroundings bucket).1.get? key =
        some object ↔
      bucket.get? key = some object ∧
        ¬ Deletes config nowMs surroundings bucket key := by
  unfold runS3RetentionOnce
  cases accepted : validateConfig config with
  | error failure =>
      have none : ¬ Deletes config nowMs surroundings bucket key :=
        fun deletes => by
          have := accepted.symm.trans deletes.accepted
          cases this
      simp [none]
  | ok _ =>
      by_cases listed :
          ∀ keyPrefix ∈ config.prefixes,
            surroundings.listFails keyPrefix = false
      · have planned :=
          observed_candidates config nowMs
            (config.prefixes.flatMap (listObjectSummaries bucket)) ({}, [])
        have exactly :
            Deletes config nowMs surroundings bucket key ↔
              key ∈ selectedKeys config nowMs bucket ∧
                (surroundings.delete key).applied = true :=
          ⟨fun deletes => ⟨deletes.selected, deletes.applied⟩,
            fun both => ⟨accepted, listed, both.1, both.2⟩⟩
        rw [observePrefixes_eq config nowMs surroundings bucket listed]
        simp only [deleted_get?]
        rw [planned, exactly]
        rfl
      · have failing :
            ∃ keyPrefix ∈ config.prefixes,
              surroundings.listFails keyPrefix = true := by
          simpa using listed
        obtain ⟨failure, failed⟩ :=
          observePrefixes_error config nowMs surroundings bucket failing
            ({}, [])
        have none : ¬ Deletes config nowMs surroundings bucket key :=
          fun deletes => listed deletes.listed
        simp [failed, none]

end Runner

section Contract

variable {Number : Type}

/-- What is stored under a key. -/
def contentAt
    (bucket : DatedBucket (L1Object Number))
    (key : String) : Option (L1Object Number) :=
  (bucket.get? key).map (fun object => object.content)

/-- A pointer leads to its manifest, and that to its report and its slices. -/
def PointerReadable
    (bucket : DatedBucket (L1Object Number))
    (document : JsonDocument) : Prop :=
  ∃ manifestKey stored,
    canonicalManifestKey document = some manifestKey ∧
      contentAt bucket manifestKey = some (.manifest stored) ∧
      (∃ found, contentAt bucket stored.reportKey = some (.report found)) ∧
      ∀ key ∈ stored.outputObjectKeys,
        ∃ rows, contentAt bucket key = some (.slices rows)

/-- Every pointer of the bucket can be read. -/
def PointersReadable (bucket : DatedBucket (L1Object Number)) : Prop :=
  ∀ key document,
    contentAt bucket key = some (.pointer document) →
    PointerReadable bucket document

/-- A reader of the pointer needs the object under the key. -/
def Needs
    (bucket : DatedBucket (L1Object Number))
    (document : JsonDocument)
    (key : String) : Prop :=
  ∃ manifestKey stored,
    canonicalManifestKey document = some manifestKey ∧
      contentAt bucket manifestKey = some (.manifest stored) ∧
      (key = manifestKey ∨ key = stored.reportKey ∨
        key ∈ stored.outputObjectKeys)

variable
  (config : S3RetentionConfig)
  (nowMs : Int)
  (surroundings : RetentionSurroundings)

/-- Whenever the run deletes an object that a pointer needs, the pointer is
among the first expired objects too and its delete is applied. -/
def PointersGoWithData
    (bucket : DatedBucket (L1Object Number)) : Prop :=
  ∀ pointerKey document key,
    contentAt bucket pointerKey = some (.pointer document) →
    Needs bucket document key →
    Deletes config nowMs surroundings bucket key →
    pointerKey ∈ selectedKeys config nowMs bucket ∧
      (surroundings.delete pointerKey).applied = true

variable
  {config : S3RetentionConfig}
  {nowMs : Int}
  {surroundings : RetentionSurroundings}
  {bucket : DatedBucket (L1Object Number)}

/-- What a run leaves under a key is what it does not delete. -/
theorem contentAt_after
    {key : String}
    {content : L1Object Number} :
    contentAt (runS3RetentionOnce config nowMs surroundings bucket).1 key =
        some content ↔
      contentAt bucket key = some content ∧
        ¬ Deletes config nowMs surroundings bucket key := by
  simp only [contentAt, Option.map_eq_some_iff, runS3RetentionOnce_get?]
  constructor
  · rintro ⟨object, ⟨stored, kept⟩, same⟩
    exact ⟨⟨object, stored, same⟩, kept⟩
  · rintro ⟨⟨object, stored, same⟩, kept⟩
    exact ⟨object, ⟨stored, kept⟩, same⟩

/-- A readable pointer stays readable if nothing it needs is deleted. -/
theorem pointerReadable_after
    {document : JsonDocument}
    (readable : PointerReadable bucket document)
    (kept :
      ∀ key, Needs bucket document key →
        ¬ Deletes config nowMs surroundings bucket key) :
    PointerReadable
      (runS3RetentionOnce config nowMs surroundings bucket).1 document := by
  obtain ⟨manifestKey, stored, names, found, ⟨report, reported⟩, slices⟩ :=
    readable
  have needs :
      ∀ key,
        key = manifestKey ∨ key = stored.reportKey ∨
          key ∈ stored.outputObjectKeys →
        Needs bucket document key :=
    fun key among => ⟨manifestKey, stored, names, found, among⟩
  refine ⟨manifestKey, stored, names, ?_, ⟨report, ?_⟩, ?_⟩
  · exact contentAt_after.mpr
      ⟨found, kept _ (needs _ (Or.inl rfl))⟩
  · exact contentAt_after.mpr
      ⟨reported, kept _ (needs _ (Or.inr (Or.inl rfl)))⟩
  · intro key member
    obtain ⟨rows, held⟩ := slices key member
    exact ⟨rows, contentAt_after.mpr
      ⟨held, kept key (needs key (Or.inr (Or.inr member)))⟩⟩

/-- Of a pointer that is readable afterwards nothing it needs was deleted. -/
theorem kept_of_pointerReadable_after
    {document : JsonDocument}
    (readable :
      PointerReadable
        (runS3RetentionOnce config nowMs surroundings bucket).1 document)
    {key : String}
    (needs : Needs bucket document key) :
    ¬ Deletes config nowMs surroundings bucket key := by
  obtain ⟨manifestKey, stored, names, found, ⟨report, reported⟩, slices⟩ :=
    readable
  obtain ⟨neededKey, needed, neededNames, neededFound, among⟩ := needs
  have sameKey : neededKey = manifestKey :=
    Option.some.inj (neededNames.symm.trans names)
  have foundBefore := contentAt_after.mp found
  have sameManifest : needed = stored := by
    rw [sameKey, foundBefore.1] at neededFound
    cases neededFound
    rfl
  rw [sameKey, sameManifest] at among
  rcases among with rfl | rfl | isSlice
  · exact foundBefore.2
  · exact (contentAt_after.mp reported).2
  · obtain ⟨rows, held⟩ := slices key isSlice
    exact (contentAt_after.mp held).2

/-- Retention keeps the pointers readable exactly if a pointer is deleted
whenever something that it needs is deleted. -/
theorem retention_readable_iff
    (bucketName region : String)
    (profile : Option String)
    (retentionDays : Int)
    (maxDeletesPerRun : Nat)
    (nowMs : Int)
    (surroundings : RetentionSurroundings)
    (bucket : DatedBucket (L1Object Number))
    (readable : PointersReadable bucket) :
    PointersReadable
        (runS3RetentionOnce
          (l1S3RetentionConfig bucketName region profile retentionDays
            maxDeletesPerRun)
          nowMs surroundings bucket).1 ↔
      PointersGoWithData
        (l1S3RetentionConfig bucketName region profile retentionDays
          maxDeletesPerRun)
        nowMs surroundings bucket := by
  constructor
  · intro readableAfter pointerKey document key isPointer needs deletes
    by_contra notDeleted
    have left :
        ¬ Deletes
          (l1S3RetentionConfig bucketName region profile retentionDays
            maxDeletesPerRun)
          nowMs surroundings bucket pointerKey :=
      fun pointerDeleted =>
        notDeleted ⟨pointerDeleted.selected, pointerDeleted.applied⟩
    exact kept_of_pointerReadable_after
      (readableAfter pointerKey document
        (contentAt_after.mpr ⟨isPointer, left⟩))
      needs deletes
  · intro together pointerKey document left
    obtain ⟨isPointer, notDeleted⟩ := contentAt_after.mp left
    apply pointerReadable_after (readable pointerKey document isPointer)
    intro key needs deletes
    obtain ⟨selected, applied⟩ :=
      together pointerKey document key isPointer needs deletes
    exact notDeleted ⟨deletes.accepted, deletes.listed, selected, applied⟩

end Contract

section Sample

/-- The objects that a reader needs of a run with one slice object, and its
pointer, which was written one millisecond after them. -/
def quarterBucket : DatedBucket (L1Object ℚ) :=
  (((OrderedMap.empty.insert
    (sliceObjectKey "binance" 0 900000 btcRun.l1RunId)
    ⟨.slices btcRun.build.slices, some 1900000, 2048⟩).insert
    (reportObjectKey btcRun.l1RunId)
    ⟨.report (btcRun.report quarterSha256Hex), some 1900000, 1024⟩).insert
    (manifestObjectKey btcRun.l1RunId)
    ⟨.manifest (btcRun.manifest quarterSha256Hex), some 1900000, 1024⟩).insert
    (indexPointerKey 900000 0)
    ⟨.pointer (btcRun.indexPointer 0), some 1900001, 512⟩

/-- One day of retention. -/
def oneDayConfig : S3RetentionConfig :=
  l1S3RetentionConfig "l1-bucket" "ap-northeast-2" none 1 1000

/-- Every listing and every delete succeeds. -/
def undisturbed : RetentionSurroundings where
  listFails := fun _ => false
  delete := fun _ => .deleted

/-- The pointer of the sample names the manifest of its run. -/
private theorem names_quarterManifest :
    canonicalManifestKey (btcRun.indexPointer 0) =
      some (manifestObjectKey btcRun.l1RunId) := by
  decide +kernel

/-- The pointer of the sample is readable. -/
theorem quarterBucket_readable : PointersReadable quarterBucket := by
  have slices :
      ∀ key ∈ (btcRun.manifest quarterSha256Hex).outputObjectKeys,
        contentAt quarterBucket key =
          some (.slices btcRun.build.slices) := by
    decide +kernel
  intro key document stored
  unfold contentAt quarterBucket at stored
  simp only [OrderedMap.get?_insert, OrderedMap.get?_empty] at stored
  split_ifs at stored with isPointer isManifest isReport isSlices
  · cases stored
    exact ⟨_, btcRun.manifest quarterSha256Hex, names_quarterManifest,
      by decide +kernel,
      ⟨btcRun.report quarterSha256Hex, by decide +kernel⟩,
      fun sliceKey member => ⟨_, slices sliceKey member⟩⟩
  · cases stored
  · cases stored
  · cases stored
  · cases stored

/-- The run of the second quarter hour, with a trade of BTC in it. -/
def secondQuarterRun : FinishedRun ℚ where
  args := quarterArgs
  l1RunId := l1RunId 900000 1800000 2800000
  inputRange := ⟨900000, 1800000⟩
  build :=
    (Build.ingestRows
      { Build.btcCodec with sha256Hex := quarterSha256Hex } quarterArgs
      (Build.BuildAccumulator.new quarterArgs ⟨900000, 1800000⟩
        ⟨600000, 2100000⟩ Build.oneObject)
      [.rawEvent
        { Build.btcTrade "t-2" with
          exchangeTimestampMs := 900500
          ingestTimestampMs := 900510 }]).finish
  timing := ⟨2800000, 2800000⟩

/-- Both quarter hours; the objects of the second one are younger. -/
def halfHourBucket : DatedBucket (L1Object ℚ) :=
  (((quarterBucket.insert
    (sliceObjectKey "binance" 900000 900000 secondQuarterRun.l1RunId)
    ⟨.slices secondQuarterRun.build.slices, some 2800000, 2048⟩).insert
    (reportObjectKey secondQuarterRun.l1RunId)
    ⟨.report (secondQuarterRun.report quarterSha256Hex), some 2800000,
      1024⟩).insert
    (manifestObjectKey secondQuarterRun.l1RunId)
    ⟨.manifest (secondQuarterRun.manifest quarterSha256Hex), some 2800000,
      1024⟩).insert
    (indexPointerKey 900000 900000)
    ⟨.pointer (secondQuarterRun.indexPointer 900000), some 2800001, 512⟩

/-- The second pointer of the sample names the manifest of its run. -/
private theorem names_secondQuarterManifest :
    canonicalManifestKey (secondQuarterRun.indexPointer 900000) =
      some (manifestObjectKey secondQuarterRun.l1RunId) := by
  decide +kernel

/-- The pointers of the two quarter hours. -/
private theorem halfHourBucket_pointers
    {key : String}
    {document : JsonDocument}
    (stored : contentAt halfHourBucket key = some (.pointer document)) :
    (key = indexPointerKey 900000 900000 ∧
        document = secondQuarterRun.indexPointer 900000) ∨
      key = indexPointerKey 900000 0 ∧ document = btcRun.indexPointer 0 := by
  unfold contentAt halfHourBucket quarterBucket at stored
  simp only [OrderedMap.get?_insert, OrderedMap.get?_empty] at stored
  split_ifs at stored with isSecond _ _ _ isFirst <;>
    cases stored
  · exact .inl ⟨isSecond, rfl⟩
  · exact .inr ⟨isFirst, rfl⟩

/-- The keys that are selected when the first pointer is one day old. -/
def firstQuarterKeys : List String :=
  [sliceObjectKey "binance" 0 900000 btcRun.l1RunId,
    reportObjectKey btcRun.l1RunId, manifestObjectKey btcRun.l1RunId,
    indexPointerKey 900000 0]

/-- The half hour holds the manifest, the report and the slices of a run. -/
def HalfHourHolds (run : FinishedRun ℚ) : Prop :=
  contentAt halfHourBucket (manifestObjectKey run.l1RunId) =
      some (.manifest (run.manifest quarterSha256Hex)) ∧
    contentAt halfHourBucket (run.manifest quarterSha256Hex).reportKey =
      some (.report (run.report quarterSha256Hex)) ∧
    ∀ key ∈ (run.manifest quarterSha256Hex).outputObjectKeys,
      contentAt halfHourBucket key = some (.slices run.build.slices)

instance (run : FinishedRun ℚ) : Decidable (HalfHourHolds run) :=
  inferInstanceAs (Decidable (_ ∧ _ ∧ _))

-- The bucket is evaluated once for all that is read from it.
/-- Both runs are held, and only the first one is selected. -/
private theorem halfHourBucket_holds :
    HalfHourHolds btcRun ∧ HalfHourHolds secondQuarterRun ∧
      selectedKeys oneDayConfig 88300001 halfHourBucket =
        firstQuarterKeys ∧
      ∀ key ∈
        manifestObjectKey secondQuarterRun.l1RunId ::
          (secondQuarterRun.manifest quarterSha256Hex).reportKey ::
          indexPointerKey 900000 900000 ::
          (secondQuarterRun.manifest quarterSha256Hex).outputObjectKeys,
        key ∉ firstQuarterKeys := by
  decide +kernel

/-- A run that the half hour holds is readable through its pointer. -/
private theorem HalfHourHolds.readable
    {run : FinishedRun ℚ}
    (holds : HalfHourHolds run)
    {document : JsonDocument}
    (names :
      canonicalManifestKey document =
        some (manifestObjectKey run.l1RunId)) :
    PointerReadable halfHourBucket document :=
  ⟨_, _, names, holds.1, ⟨_, holds.2.1⟩,
    fun key member => ⟨_, holds.2.2 key member⟩⟩

/-- Both pointers of the half hour are readable. -/
theorem halfHourBucket_readable : PointersReadable halfHourBucket := by
  obtain ⟨first, second, -, -⟩ := halfHourBucket_holds
  intro key document stored
  rcases halfHourBucket_pointers stored with ⟨-, rfl⟩ | ⟨-, rfl⟩
  · exact second.readable names_secondQuarterManifest
  · exact first.readable names_quarterManifest

/-- Nothing that the second pointer needs is selected. -/
private theorem secondQuarter_young
    {key : String}
    (needs :
      Needs halfHourBucket (secondQuarterRun.indexPointer 900000) key) :
    key ∉ selectedKeys oneDayConfig 88300001 halfHourBucket := by
  obtain ⟨-, second, selected, young⟩ := halfHourBucket_holds
  obtain ⟨manifestKey, stored, names, found, among⟩ := needs
  rw [names_secondQuarterManifest, Option.some.injEq] at names
  rw [← names, second.1, Option.some.injEq,
    L1Object.manifest.injEq] at found
  rw [← names, ← found] at among
  rw [selected]
  apply young
  simp only [List.mem_cons]
  rcases among with isManifest | isReport | isSlice
  · exact .inl isManifest
  · exact .inr (.inl isReport)
  · exact .inr (.inr (.inr isSlice))

/-- When the first pointer and what it needs are deleted together, the second
one stays readable. -/
theorem halfHourBucket_kept :
    let after :=
      (runS3RetentionOnce
        (l1S3RetentionConfig "l1-bucket" "ap-northeast-2" none 1 1000)
        88300001 undisturbed halfHourBucket).1
    PointersReadable after ∧
      contentAt after (indexPointerKey 900000 0) = none ∧
      contentAt after (indexPointerKey 900000 900000) =
        some (.pointer (secondQuarterRun.indexPointer 900000)) := by
  intro after
  obtain ⟨-, -, selected, young⟩ := halfHourBucket_holds
  have deletesFirst :
      Deletes oneDayConfig 88300001 undisturbed halfHourBucket
        (indexPointerKey 900000 0) :=
    ⟨by decide +kernel, fun _ _ => rfl, by
      rw [selected]
      simp [firstQuarterKeys], rfl⟩
  refine ⟨?_, ?_, ?_⟩
  · refine (retention_readable_iff "l1-bucket" "ap-northeast-2" none 1 1000
      88300001 undisturbed halfHourBucket halfHourBucket_readable).mpr ?_
    intro pointerKey document key isPointer needs deletes
    rcases halfHourBucket_pointers isPointer with ⟨-, rfl⟩ | ⟨rfl, -⟩
    · exact absurd deletes.selected (secondQuarter_young needs)
    · exact ⟨deletesFirst.selected, deletesFirst.applied⟩
  · rw [Option.eq_none_iff_forall_not_mem]
    intro content found
    exact (contentAt_after.mp found).2 deletesFirst
  · refine contentAt_after.mpr ⟨?_, fun deletes => ?_⟩
    · rw [contentAt, halfHourBucket, OrderedMap.get?_insert_same]
      rfl
    · have among := deletes.selected
      change _ ∈ selectedKeys oneDayConfig 88300001 halfHourBucket at among
      rw [selected] at among
      exact young _ (by simp) among

/-- One day after the slices were written they are deleted, and the pointer is
left. -/
theorem quarterBucket_pointer_dangles :
    PointersReadable quarterBucket ∧
      contentAt
          (runS3RetentionOnce oneDayConfig 88300000 undisturbed
            quarterBucket).1
          (indexPointerKey 900000 0) =
        some (.pointer (btcRun.indexPointer 0)) ∧
      ¬ PointersReadable
        (runS3RetentionOnce oneDayConfig 88300000 undisturbed
          quarterBucket).1 := by
  have reached :
      contentAt
            (runS3RetentionOnce oneDayConfig 88300000 undisturbed
              quarterBucket).1
            (indexPointerKey 900000 0) =
          some (.pointer (btcRun.indexPointer 0)) ∧
        contentAt
            (runS3RetentionOnce oneDayConfig 88300000 undisturbed
              quarterBucket).1
            (manifestObjectKey btcRun.l1RunId) =
          none := by
    decide +kernel
  obtain ⟨pointerLeft, manifestGone⟩ := reached
  refine ⟨quarterBucket_readable, pointerLeft, ?_⟩
  intro readable
  obtain ⟨manifestKey, stored, names, found, _⟩ :=
    readable _ _ pointerLeft
  rw [names_quarterManifest, Option.some.injEq] at names
  rw [← names, manifestGone] at found
  cases found

end Sample

end MarketIngest.Retention
