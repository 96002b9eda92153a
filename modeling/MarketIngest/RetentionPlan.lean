import MarketIngest.Retention

namespace MarketIngest.Retention

open S3 Storage

/-!
# What a retention run selects

A run observes the objects of one family after the other.  The plan that the
tests look at observes one listing and skips the keys that it has seen.  Both
select the first expired objects and count all of them, and they agree if no
prefix of the configuration is a prefix of another one.
-/

/-- The families of the L0 bucket, in the order in which they are listed. -/
def defaultL0RetentionPrefixes : List String :=
  ["raw_market_event/", "source_health/", "symbol_health/", "gap_alert/",
    "runs/"]

/-- Retention of the L0 bucket. -/
def l0S3RetentionConfig
    (bucket region : String)
    (profile : Option String)
    (retentionDays : Int)
    (maxDeletesPerRun : Nat) : S3RetentionConfig where
  bucket := bucket
  region := region
  profile := profile
  prefixes := defaultL0RetentionPrefixes
  protectedPrefixes := []
  retentionSecs := saturatingMul retentionDays 86400
  maxDeletesPerRun := maxDeletesPerRun

/-- What a listing leads to: its account and its selected objects. -/
structure RetentionDeletePlan where
  stats : S3RetentionStats
  deleteCandidates : List RetentionDeleteCandidate
  deriving Repr, DecidableEq

section Plan

variable
  (config : S3RetentionConfig)
  (nowMs : Int)

/-- Observe the objects with keys that were not seen before. -/
def planFrom :
    List S3ObjectSummary →
    List String →
    S3RetentionStats × List RetentionDeleteCandidate →
    S3RetentionStats × List RetentionDeleteCandidate
  | [], _, planned => planned
  | object :: rest, seen, planned =>
      if object.key ∈ seen then
        planFrom rest seen planned
      else
        planFrom rest (object.key :: seen)
          (observeRetentionObject config nowMs planned object)

/-- The plan for a listing. -/
def planRetentionDeletes
    (objects : List S3ObjectSummary) : RetentionDeletePlan :=
  let (stats, deleteCandidates) := planFrom config nowMs objects [] ({}, [])
  { stats := stats, deleteCandidates := deleteCandidates }

end Plan

/-- The first object of every key that is not seen yet. -/
def firstOfKeys :
    List S3ObjectSummary → List String → List S3ObjectSummary
  | [], _ => []
  | object :: rest, seen =>
      if object.key ∈ seen then
        firstOfKeys rest seen
      else
        object :: firstOfKeys rest (object.key :: seen)

/-- Listed keys that differ are all first ones. -/
theorem firstOfKeys_eq_self
    {objects : List S3ObjectSummary}
    {seen : List String}
    (distinct : (objects.map (fun object => object.key)).Nodup)
    (fresh : ∀ object ∈ objects, object.key ∉ seen) :
    firstOfKeys objects seen = objects := by
  induction objects generalizing seen with
  | nil =>
      rfl
  | cons object rest inductionHypothesis =>
      obtain ⟨new, others⟩ := List.nodup_cons.mp distinct
      obtain ⟨first, later⟩ := List.forall_mem_cons.mp fresh
      have restFresh :
          ∀ other ∈ rest, other.key ∉ object.key :: seen := by
        intro other member isSeen
        rcases List.mem_cons.mp isSeen with same | before
        · exact new (List.mem_map.mpr ⟨other, member, same⟩)
        · exact later other member before
      rw [firstOfKeys, if_neg first,
        inductionHypothesis others restFresh]

/-- The plan observes the first object of every key. -/
theorem planFrom_eq_foldl
    (config : S3RetentionConfig)
    (nowMs : Int)
    (objects : List S3ObjectSummary)
    (seen : List String)
    (planned : S3RetentionStats × List RetentionDeleteCandidate) :
    planFrom config nowMs objects seen planned =
      (firstOfKeys objects seen).foldl
        (observeRetentionObject config nowMs) planned := by
  induction objects generalizing seen planned with
  | nil =>
      rfl
  | cons object rest inductionHypothesis =>
      by_cases known : object.key ∈ seen
      · rw [planFrom, firstOfKeys, if_pos known, if_pos known,
          inductionHypothesis]
      · rw [planFrom, firstOfKeys, if_neg known, if_neg known,
          List.foldl_cons, inductionHypothesis]

section Account

/-- The object is kept because of its age. -/
def RetentionDecision.isKeep : RetentionDecision → Bool
  | .keep => true
  | _ => false

/-- The age of the object is not known. -/
def RetentionDecision.isMissing : RetentionDecision → Bool
  | .missingLastModified => true
  | _ => false

/-- The object is protected. -/
def RetentionDecision.isProtected : RetentionDecision → Bool
  | .inProtectedFamily => true
  | _ => false

/-- The object is expired. -/
def RetentionDecision.isDelete : RetentionDecision → Bool
  | .delete _ => true
  | _ => false

variable
  (config : S3RetentionConfig)
  (nowMs : Int)

/-- How many objects are decided upon in one way. -/
def decidedCount
    (way : RetentionDecision → Bool)
    (objects : List S3ObjectSummary) : Nat :=
  objects.countP (fun object => way (retentionDecision config nowMs object))

/-- How an account changes when some objects are observed. -/
def observedStats
    (before : S3RetentionStats)
    (selectedCount : Nat)
    (objects : List S3ObjectSummary) : S3RetentionStats :=
  let count := fun way => decidedCount config nowMs way objects
  { before with
    scannedObjectCount := before.scannedObjectCount + objects.length
    missingLastModifiedCount :=
      before.missingLastModifiedCount + count RetentionDecision.isMissing
    protectedObjectCount :=
      before.protectedObjectCount + count RetentionDecision.isProtected
    expiredObjectCount :=
      before.expiredObjectCount + count RetentionDecision.isDelete
    stoppedAtDeleteLimit :=
      before.stoppedAtDeleteLimit ||
        decide (config.maxDeletesPerRun <
          selectedCount + count RetentionDecision.isDelete) }

/-- Observed objects are counted, also after the limit is reached. -/
theorem observed_stats
    (objects : List S3ObjectSummary)
    (planned : S3RetentionStats × List RetentionDeleteCandidate)
    (room : planned.2.length ≤ config.maxDeletesPerRun) :
    (objects.foldl (observeRetentionObject config nowMs) planned).1 =
      observedStats config nowMs planned.1 planned.2.length objects := by
  induction objects generalizing planned with
  | nil =>
      simp [observedStats, decidedCount, Nat.not_lt.mpr room]
  | cons object rest inductionHypothesis =>
      obtain ⟨before, selected⟩ := planned
      replace room : selected.length ≤ config.maxDeletesPerRun := room
      rw [List.foldl_cons]
      cases decision : retentionDecision config nowMs object with
      | keep | missingLastModified | inProtectedFamily =>
          rw [inductionHypothesis _
            (by simpa [observeRetentionObject, decision] using room)]
          simp [observeRetentionObject, decision, observedStats,
            decidedCount, RetentionDecision.isMissing,
            RetentionDecision.isProtected, RetentionDecision.isDelete]
          omega
      | delete ageSecs =>
          by_cases full : config.maxDeletesPerRun ≤ selected.length
          · rw [inductionHypothesis _
              (by simpa [observeRetentionObject, decision, full] using room)]
            simp [observeRetentionObject, decision, observedStats,
              decidedCount, RetentionDecision.isMissing,
              RetentionDecision.isProtected, RetentionDecision.isDelete,
              full]
            omega
          · have fits :
                (selected ++
                  [(⟨object.key, object.sizeBytes, ageSecs⟩ :
                    RetentionDeleteCandidate)]).length ≤
                  config.maxDeletesPerRun := by
              rw [List.length_append, List.length_singleton]
              omega
            rw [inductionHypothesis _
              (by simpa [observeRetentionObject, decision, full] using fits)]
            simp [observeRetentionObject, decision, observedStats,
              decidedCount, RetentionDecision.isMissing,
              RetentionDecision.isProtected, RetentionDecision.isDelete,
              full]
            refine ⟨by omega, by omega, ?_⟩
            rw [Nat.add_right_comm selected.length 1, Nat.add_assoc]

/-- Every observed object is decided upon in one of four ways. -/
theorem decidedCounts
    (objects : List S3ObjectSummary) :
    objects.length =
      decidedCount config nowMs RetentionDecision.isKeep objects +
        decidedCount config nowMs RetentionDecision.isMissing objects +
        decidedCount config nowMs RetentionDecision.isProtected objects +
        decidedCount config nowMs RetentionDecision.isDelete objects := by
  induction objects with
  | nil =>
      rfl
  | cons object rest inductionHypothesis =>
      unfold decidedCount at inductionHypothesis ⊢
      rw [List.length_cons, inductionHypothesis]
      cases decision : retentionDecision config nowMs object with
      | keep | missingLastModified | inProtectedFamily | delete _ =>
          simp [decision, RetentionDecision.isKeep,
            RetentionDecision.isMissing, RetentionDecision.isProtected,
            RetentionDecision.isDelete]
          omega

end Account

section Candidates

variable
  (config : S3RetentionConfig)
  (nowMs : Int)

/-- The object is below a protected prefix. -/
def IsProtected (object : S3ObjectSummary) : Prop :=
  ∃ leading ∈ config.protectedPrefixes,
    leading ≠ "" ∧ leading.toList <+: object.key.toList

/-- The object may be deleted: it is old enough and not protected. -/
structure MayDelete (object : S3ObjectSummary) : Prop where
  notProtected : ¬ IsProtected config object
  old :
    ∃ lastModifiedMs,
      object.lastModifiedMs = some lastModifiedMs ∧
        config.retentionSecs * 1000 ≤ nowMs - lastModifiedMs

/-- The selection of an object that may be deleted. -/
def candidateOf (object : S3ObjectSummary) : RetentionDeleteCandidate where
  key := object.key
  sizeBytes := object.sizeBytes
  ageSecs := (nowMs - object.lastModifiedMs.getD nowMs).tdiv 1000

/-- The retention and all ages are representable. -/
structure AgesFit (objects : List S3ObjectSummary) : Prop where
  retention :
    i64Min ≤ config.retentionSecs * 1000 ∧
      config.retentionSecs * 1000 ≤ i64Max
  ages :
    ∀ object ∈ objects, ∀ lastModifiedMs,
      object.lastModifiedMs = some lastModifiedMs →
        i64Min ≤ nowMs - lastModifiedMs ∧ nowMs - lastModifiedMs ≤ i64Max

/-- A key is protected if it has a protected prefix that is not empty. -/
theorem isProtectedKey_iff
    {object : S3ObjectSummary} :
    isProtectedKey object.key config.protectedPrefixes = true ↔
      IsProtected config object := by
  simp [isProtectedKey, IsProtected, Text.startsWith_iff]

/-- Objects with representable ages are selected if they may be deleted. -/
theorem expired?_eq
    {objects : List S3ObjectSummary}
    (fit : AgesFit config nowMs objects)
    {object : S3ObjectSummary}
    (member : object ∈ objects)
    [Decidable (MayDelete config nowMs object)] :
    expired? config nowMs object =
      if MayDelete config nowMs object then
        some (candidateOf nowMs object)
      else
        none := by
  unfold expired? retentionDecision
  by_cases protectedKey :
      isProtectedKey object.key config.protectedPrefixes = true
  · have notDeleted : ¬ MayDelete config nowMs object :=
      fun may => may.notProtected ((isProtectedKey_iff config).mp protectedKey)
    rw [if_pos protectedKey, if_neg notDeleted]
  · rw [if_neg protectedKey]
    have notProtected : ¬ IsProtected config object :=
      fun isProtected =>
        protectedKey ((isProtectedKey_iff config).mpr isProtected)
    cases modified : object.lastModifiedMs with
    | none =>
        have notDeleted : ¬ MayDelete config nowMs object := by
          rintro ⟨_, _, known, _⟩
          rw [modified] at known
          cases known
        rw [if_neg notDeleted]
    | some lastModifiedMs =>
        obtain ⟨lower, upper⟩ := fit.ages object member _ modified
        obtain ⟨atLeast, atMost⟩ := fit.retention
        have may :
            MayDelete config nowMs object ↔
              config.retentionSecs * 1000 ≤ nowMs - lastModifiedMs := by
          constructor
          · rintro ⟨_, other, known, old⟩
            rw [modified] at known
            cases known
            exact old
          · exact fun old => ⟨notProtected, lastModifiedMs, modified, old⟩
        simp only [saturatingSub_of_mem lower upper,
          saturatingMul_of_mem atLeast atMost]
        by_cases old :
            config.retentionSecs * 1000 ≤ nowMs - lastModifiedMs
        · rw [if_neg (not_lt.mpr old), if_pos (may.mpr old)]
          simp [candidateOf, modified]
        · rw [if_pos (not_le.mp old),
            if_neg (fun mayDelete => old (may.mp mayDelete))]

end Candidates

section Contract

variable
  (config : S3RetentionConfig)
  (nowMs : Int)

open Classical in
/-- The first objects that may be deleted are selected, and all are counted. -/
structure SelectsExactly
    (objects : List S3ObjectSummary)
    (planned : S3RetentionStats × List RetentionDeleteCandidate) :
    Prop where
  candidates :
    planned.2 =
      ((objects.filter (MayDelete config nowMs)).take
        config.maxDeletesPerRun).map (candidateOf nowMs)
  scanned : planned.1.scannedObjectCount = objects.length
  accounted :
    planned.1.scannedObjectCount =
      decidedCount config nowMs RetentionDecision.isKeep objects +
        planned.1.missingLastModifiedCount +
        planned.1.protectedObjectCount + planned.1.expiredObjectCount
  expired :
    planned.1.expiredObjectCount =
      (objects.filter (MayDelete config nowMs)).length
  stopped :
    planned.1.stoppedAtDeleteLimit = true ↔
      config.maxDeletesPerRun < planned.1.expiredObjectCount

open Classical in
/-- What is selected of the objects that may be deleted. -/
theorem filterMap_expired?
    {objects : List S3ObjectSummary}
    (fit : AgesFit config nowMs objects) :
    objects.filterMap (expired? config nowMs) =
      (objects.filter (MayDelete config nowMs)).map
        (candidateOf nowMs) := by
  rw [← List.filterMap_eq_map, List.filterMap_filter]
  apply List.filterMap_congr
  intro object member
  rw [expired?_eq config nowMs fit member]
  simp only [decide_eq_true_eq, Function.comp_apply]

/-- The expired objects are counted. -/
theorem length_filterMap_expired?
    (objects : List S3ObjectSummary) :
    (objects.filterMap (expired? config nowMs)).length =
      decidedCount config nowMs RetentionDecision.isDelete objects := by
  rw [List.length_filterMap_eq_countP, decidedCount]
  congr 1
  funext object
  unfold expired?
  cases retentionDecision config nowMs object with
  | keep | missingLastModified | inProtectedFamily | delete _ =>
      rfl

/-- Observing a listing selects exactly what it should. -/
theorem observed_selectsExactly
    {objects : List S3ObjectSummary}
    (fit : AgesFit config nowMs objects) :
    SelectsExactly config nowMs objects
      (objects.foldl (observeRetentionObject config nowMs) ({}, [])) := by
  have candidates := observed_candidates config nowMs objects ({}, [])
  have stats :=
    observed_stats config nowMs objects ({}, []) (Nat.zero_le _)
  have counted := length_filterMap_expired? config nowMs objects
  rw [filterMap_expired? config nowMs fit] at candidates counted
  rw [List.length_map] at counted
  constructor
  · rw [candidates, List.nil_append, List.map_take]
    rfl
  · rw [stats]
    exact Nat.zero_add _
  · rw [stats]
    simpa [observedStats] using decidedCounts config nowMs objects
  · rw [stats, counted]
    exact Nat.zero_add _
  · rw [stats]
    simp [observedStats]

/-- An account as it was before the deletes. -/
def S3RetentionStats.beforeDeletes
    (stats : S3RetentionStats) : S3RetentionStats :=
  { stats with
    deletedObjectCount := 0
    failedDeleteCount := 0
    deletedBytes := 0
    maxDeletedAgeSecs := 0 }

section Deletes

variable
  {Content : Type}
  (surroundings : RetentionSurroundings)

/-- One selected object is deleted or fails; nothing else is counted. -/
theorem deleteCandidate_accounted
    (state : DatedBucket Content × S3RetentionStats)
    (candidate : RetentionDeleteCandidate) :
    (deleteCandidate surroundings state candidate).2.deletedObjectCount +
          (deleteCandidate surroundings state candidate).2.failedDeleteCount =
        state.2.deletedObjectCount + state.2.failedDeleteCount + 1 ∧
      (deleteCandidate surroundings state candidate).2.beforeDeletes =
        state.2.beforeDeletes := by
  cases acknowledged :
      (surroundings.delete candidate.key).acknowledged with
  | true =>
      simp only [deleteCandidate, acknowledged, if_true]
      exact ⟨by omega, rfl⟩
  | false =>
      simp only [deleteCandidate, acknowledged, Bool.false_eq_true, if_false]
      exact ⟨by omega, rfl⟩

/-- Every selected object is deleted or fails; nothing else is counted. -/
theorem deletes_accounted
    (candidates : List RetentionDeleteCandidate)
    (state : DatedBucket Content × S3RetentionStats) :
    (candidates.foldl (deleteCandidate surroundings)
            state).2.deletedObjectCount +
          (candidates.foldl (deleteCandidate surroundings)
            state).2.failedDeleteCount =
        state.2.deletedObjectCount + state.2.failedDeleteCount +
          candidates.length ∧
      (candidates.foldl (deleteCandidate surroundings) state).2.beforeDeletes =
        state.2.beforeDeletes := by
  induction candidates generalizing state with
  | nil =>
      exact ⟨rfl, rfl⟩
  | cons candidate rest inductionHypothesis =>
      obtain ⟨counted, kept⟩ :=
        inductionHypothesis (deleteCandidate surroundings state candidate)
      obtain ⟨first, firstKept⟩ :=
        deleteCandidate_accounted surroundings state candidate
      rw [List.foldl_cons, List.length_cons, counted, kept, first]
      exact ⟨by omega, firstKept⟩

end Deletes

/-- Nothing is deleted while objects are observed. -/
theorem observed_beforeDeletes
    (objects : List S3ObjectSummary) :
    (objects.foldl (observeRetentionObject config nowMs)
        ({}, [])).1.beforeDeletes =
      (objects.foldl (observeRetentionObject config nowMs) ({}, [])).1 := by
  rw [observed_stats config nowMs objects ({}, []) (Nat.zero_le _)]
  rfl

/-- No prefix is a prefix of another one. -/
def PrefixFree (prefixes : List String) : Prop :=
  prefixes.Pairwise (fun one other =>
    Text.startsWith one other = false ∧ Text.startsWith other one = false)

/-- The default prefixes are apart. -/
theorem defaultPrefixes_prefixFree :
    PrefixFree defaultL0RetentionPrefixes ∧
      PrefixFree defaultL1RetentionPrefixes := by
  unfold PrefixFree
  decide +kernel

/-- A store lists every key below the prefix at most once. -/
structure IsListing
    (keyPrefix : String)
    (objects : List S3ObjectSummary) : Prop where
  below : ∀ object ∈ objects, Text.startsWith object.key keyPrefix = true
  distinct : (objects.map (fun object => object.key)).Nodup

/-- Listings of prefixes apart have no key in common. -/
theorem listings_distinct
    {prefixes : List String}
    {listing : String → List S3ObjectSummary}
    (apart : PrefixFree prefixes)
    (listed : ∀ keyPrefix ∈ prefixes, IsListing keyPrefix (listing keyPrefix)) :
    ((prefixes.flatMap listing).map (fun object => object.key)).Nodup := by
  rw [List.map_flatMap, List.nodup_flatMap]
  refine ⟨fun keyPrefix member => (listed keyPrefix member).distinct, ?_⟩
  refine List.Pairwise.imp_of_mem ?_ apart
  intro one other oneListed otherListed distinct key isOne isOther
  obtain ⟨object, member, rfl⟩ := List.mem_map.mp isOne
  obtain ⟨twin, twinMember, same⟩ := List.mem_map.mp isOther
  have startsOne := (listed one oneListed).below object member
  have startsOther := (listed other otherListed).below twin twinMember
  replace same : twin.key = object.key := same
  rw [same] at startsOther
  rcases Text.startsWith_or_startsWith startsOne startsOther with
    starts | starts
  · rw [distinct.1] at starts
    cases starts
  · rw [distinct.2] at starts
    cases starts

/-- A bucket lists every key once. -/
theorem isListing_listObjectSummaries
    {Content : Type}
    (bucket : DatedBucket Content)
    (keyPrefix : String) :
    IsListing keyPrefix (listObjectSummaries bucket keyPrefix) where
  below := by
    intro object member
    obtain ⟨entry, kept, rfl⟩ := List.mem_map.mp member
    exact (List.mem_filter.mp kept).2
  distinct := by
    rw [listObjectSummaries, List.map_map]
    exact bucket.keys_nodup.sublist
      (List.filter_sublist.map Prod.fst)

/-- The account of a run that observed and selected, and then deleted. -/
structure AccountsFor
    (planned : S3RetentionStats × List RetentionDeleteCandidate)
    (account : S3RetentionStats) : Prop where
  deletes :
    account.deletedObjectCount + account.failedDeleteCount =
      planned.2.length
  observed : account.beforeDeletes = planned.1

/-- A run whose listings succeed accounts for what it observed. -/
theorem runS3RetentionOnce_accountsFor
    {Content : Type}
    (valid : validateConfig config = .ok ())
    {surroundings : RetentionSurroundings}
    {bucket : DatedBucket Content}
    (listed :
      ∀ keyPrefix ∈ config.prefixes,
        surroundings.listFails keyPrefix = false) :
    ∃ account,
      (runS3RetentionOnce config nowMs surroundings bucket).2 = .ok account ∧
      AccountsFor
        ((config.prefixes.flatMap (listObjectSummaries bucket)).foldl
          (observeRetentionObject config nowMs) ({}, []))
        account := by
  set planned :=
    (config.prefixes.flatMap (listObjectSummaries bucket)).foldl
      (observeRetentionObject config nowMs) ({}, []) with isPlanned
  obtain ⟨deletes, kept⟩ :=
    deletes_accounted surroundings planned.2 (bucket, planned.1)
  have before : planned.1.beforeDeletes = planned.1 :=
    observed_beforeDeletes config nowMs _
  refine ⟨_, ?_, ?_, kept.trans before⟩
  · unfold runS3RetentionOnce
    rw [valid, observePrefixes_eq config nowMs surroundings bucket listed]
  · have none : planned.1.deletedObjectCount + planned.1.failedDeleteCount =
        0 := by
      rw [← before]
      rfl
    rw [deletes, none, Nat.zero_add]

/-- Over prefixes apart the plan selects and counts what is observed. -/
theorem planRetentionDeletes_agrees
    (apart : PrefixFree config.prefixes)
    {listing : String → List S3ObjectSummary}
    (listed :
      ∀ keyPrefix ∈ config.prefixes,
        IsListing keyPrefix (listing keyPrefix)) :
    planRetentionDeletes config nowMs (config.prefixes.flatMap listing) =
      { stats :=
          ((config.prefixes.flatMap listing).foldl
            (observeRetentionObject config nowMs) ({}, [])).1
        deleteCandidates :=
          ((config.prefixes.flatMap listing).foldl
            (observeRetentionObject config nowMs) ({}, [])).2 } := by
  simp only [planRetentionDeletes, planFrom_eq_foldl]
  rw [firstOfKeys_eq_self (listings_distinct apart listed) (by simp)]

/--
A retention run selects the first objects that may be deleted and accounts for
every object that it has listed; the plan with its set of seen keys agrees with
it if no prefix is a prefix of another one, as the default prefixes are.
-/
theorem retention_selectsExactly
    (config : S3RetentionConfig)
    (valid : validateConfig config = .ok ())
    (nowMs : Int) :
    (∀ objects, AgesFit config nowMs objects →
      SelectsExactly config nowMs objects
        (objects.foldl (observeRetentionObject config nowMs) ({}, []))) ∧
    (∀ (Content : Type) surroundings (bucket : DatedBucket Content),
      (∀ keyPrefix ∈ config.prefixes,
        surroundings.listFails keyPrefix = false) →
      ∃ account,
        (runS3RetentionOnce config nowMs surroundings bucket).2 =
          .ok account ∧
        AccountsFor
          ((config.prefixes.flatMap (listObjectSummaries bucket)).foldl
            (observeRetentionObject config nowMs) ({}, []))
          account ∧
        (PrefixFree config.prefixes →
          account.beforeDeletes =
            (planRetentionDeletes config nowMs
              (config.prefixes.flatMap
                (listObjectSummaries bucket))).stats)) ∧
    (PrefixFree config.prefixes →
      ∀ listing : String → List S3ObjectSummary,
        (∀ keyPrefix ∈ config.prefixes,
          IsListing keyPrefix (listing keyPrefix)) →
        config.prefixes.foldl
            (fun planned keyPrefix =>
              (listing keyPrefix).foldl
                (observeRetentionObject config nowMs) planned)
            ({}, []) =
          ((planRetentionDeletes config nowMs
              (config.prefixes.flatMap listing)).stats,
            (planRetentionDeletes config nowMs
              (config.prefixes.flatMap listing)).deleteCandidates)) ∧
    PrefixFree defaultL0RetentionPrefixes ∧
    PrefixFree defaultL1RetentionPrefixes := by
  refine ⟨?_, ?_, ?_, defaultPrefixes_prefixFree⟩
  · intro objects fit
    exact observed_selectsExactly config nowMs fit
  · intro Content surroundings bucket listed
    obtain ⟨account, returned, accounts⟩ :=
      runS3RetentionOnce_accountsFor config nowMs valid listed
    refine ⟨account, returned, accounts, fun apart => ?_⟩
    rw [accounts.observed, planRetentionDeletes_agrees config nowMs apart
      (fun keyPrefix _ => isListing_listObjectSummaries bucket keyPrefix)]
  · intro apart listing listed
    rw [← List.foldl_flatMap,
      planRetentionDeletes_agrees config nowMs apart listed]

/-- The L0 bucket with one day of retention, two deletes a run, and a family that
is protected. -/
def cappedConfig : S3RetentionConfig :=
  { l0S3RetentionConfig "l0-bucket" "ap-northeast-2" none 1 2 with
    protectedPrefixes := ["raw_market_event/protected/"] }

/-- A bucket with three expired objects, a protected one, a young one, and one
without a date. -/
def mixedBucket : DatedBucket Unit :=
  (((((OrderedMap.empty.insert
    "gap_alert/old.parquet" ⟨(), some 0, 10⟩).insert
    "raw_market_event/old.parquet" ⟨(), some 0, 20⟩).insert
    "raw_market_event/protected/old.parquet" ⟨(), some 0, 30⟩).insert
    "raw_market_event/undated.parquet" ⟨(), none, 40⟩).insert
    "raw_market_event/young.parquet" ⟨(), some 150000000, 50⟩).insert
    "source_health/old.parquet" ⟨(), some 0, 60⟩

/-- The objects of the bucket in the order in which they are listed. -/
def mixedObjects : List S3ObjectSummary :=
  cappedConfig.prefixes.flatMap (listObjectSummaries mixedBucket)

/-- What is observed of them after two days and more. -/
def mixedPlanned : S3RetentionStats × List RetentionDeleteCandidate :=
  mixedObjects.foldl (observeRetentionObject cappedConfig 200000000) ({}, [])

/-- Every listing succeeds, and one delete fails. -/
def oneDeleteFails : RetentionSurroundings where
  listFails := fun _ => false
  delete := fun key =>
    if key = "raw_market_event/old.parquet" then .deleted else .failed

/-- Of the six objects the first two expired ones are selected, of which one is
deleted; the plan agrees. -/
theorem mixedBucket_selectsExactly :
    (SelectsExactly cappedConfig 200000000 mixedObjects mixedPlanned ∧
        mixedPlanned =
          ({ scannedObjectCount := 6
             missingLastModifiedCount := 1
             protectedObjectCount := 1
             expiredObjectCount := 3
             stoppedAtDeleteLimit := true },
            [⟨"raw_market_event/old.parquet", 20, 200000⟩,
              ⟨"source_health/old.parquet", 60, 200000⟩])) ∧
      (∃ account,
        (runS3RetentionOnce cappedConfig 200000000 oneDeleteFails
            mixedBucket).2 =
          .ok account ∧
        AccountsFor mixedPlanned account ∧
        (account.deletedObjectCount, account.failedDeleteCount,
            account.deletedBytes) = (1, 1, 20)) ∧
      cappedConfig.prefixes.foldl
          (fun planned keyPrefix =>
            (listObjectSummaries mixedBucket keyPrefix).foldl
              (observeRetentionObject cappedConfig 200000000) planned)
          ({}, []) =
        ((planRetentionDeletes cappedConfig 200000000 mixedObjects).stats,
          (planRetentionDeletes cappedConfig 200000000
            mixedObjects).deleteCandidates) := by
  obtain ⟨selects, runs, agrees, apart, -⟩ :=
    retention_selectsExactly cappedConfig (by decide +kernel) 200000000
  have fit : AgesFit cappedConfig 200000000 mixedObjects := by
    refine ⟨by decide, fun object member lastModifiedMs modified => ?_⟩
    have dated :
        ∀ object ∈ mixedObjects,
          object.lastModifiedMs ∈
            [none, some 0, some (150000000 : Int)] := by
      decide +kernel
    have known := dated object member
    rw [modified] at known
    simp only [List.mem_cons, List.not_mem_nil, or_false, reduceCtorEq,
      Option.some.injEq, false_or] at known
    rcases known with rfl | rfl <;> decide
  obtain ⟨account, returned, accounts, -⟩ :=
    runs Unit oneDeleteFails mixedBucket (fun _ _ => rfl)
  have counts :
      ((runS3RetentionOnce cappedConfig 200000000 oneDeleteFails
            mixedBucket).2.toOption.map fun account =>
          (account.deletedObjectCount, account.failedDeleteCount,
            account.deletedBytes)) =
        some (1, 1, 20) := by
    decide +kernel
  rw [returned] at counts
  exact
    ⟨⟨selects mixedObjects fit, by decide +kernel⟩,
      ⟨account, returned, accounts, Option.some.inj counts⟩,
      agrees apart (listObjectSummaries mixedBucket) fun keyPrefix _ =>
        isListing_listObjectSummaries mixedBucket keyPrefix⟩

end Contract

end MarketIngest.Retention
