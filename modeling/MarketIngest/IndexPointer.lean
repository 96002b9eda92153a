import MarketIngest.ModeDecision
import MarketIngest.ObjectKeys
import MarketIngest.S3Bucket

namespace MarketIngest.Normalize

open S3

/-!
# Publication of a run

A finished run writes its report and its manifest, and then one index pointer
for each window of its input range.  Pointers are written for successful and
for empty runs.  The PUTs of the pointers are independent of each other, so any
subset of them can be stored when the run fails or is interrupted.
-/

/-- Schema of a pointer. -/
def pointerSchemaVersion : String :=
  "l1_index_pointer_v1"

/-- Schema of the slices a run emits. -/
def sliceSchemaVersion : String :=
  "normalized_market_slice_v1"

/-- Schema of a report. -/
def reportSchemaVersion : String :=
  "normalization_report_v1"

/-- Schema of a manifest. -/
def manifestSchemaVersion : String :=
  "l1_manifest_v1"

/-- Result of building the slices of a range. -/
inductive BuildStatus where
  | success
  | empty
  | blocked
  deriving Repr, DecidableEq

/-- The text of a status in reports, manifests and pointers. -/
def BuildStatus.asStr : BuildStatus → String
  | .success => "success"
  | .empty => "empty"
  | .blocked => "blocked"

/-- What a build contributes to status and publication. -/
structure BuildResult where
  payloadHashMismatchCount : Nat
  sliceCount : Nat
  deriving Repr, DecidableEq

/-- Status and failure reason of a finished build. -/
def BuildResult.finish
    (build : BuildResult) : BuildStatus × Option String :=
  if build.payloadHashMismatchCount > 0 then
    (.blocked, some "payload_hash_mismatch")
  else if build.sliceCount = 0 then
    (.empty, some "no_l1_slices")
  else
    (.success, none)

/-- Status of a finished build. -/
def BuildResult.status (build : BuildResult) : BuildStatus :=
  build.finish.1

/-- The pointer of one window. -/
def indexPointerJson
    (manifestKey l1RunId status : String)
    (finishedAtMs : Int)
    (inputRange : InputRange)
    (indexedWindowStartMs windowMs : Int) : JsonDocument :=
  [("schema_version", .text pointerSchemaVersion),
    ("canonical_manifest_key", .text manifestKey),
    ("l1_run_id", .text l1RunId),
    ("status", .text status),
    ("finished_at_ms", .i64 finishedAtMs),
    ("input_time_range_start_ms", .i64 inputRange.startMs),
    ("input_time_range_end_ms", .i64 inputRange.endMs),
    ("indexed_window_start_ms", .i64 indexedWindowStartMs),
    ("indexed_window_end_ms",
      .i64 (saturatingAdd indexedWindowStartMs windowMs)),
    ("schema_version_emitted", .text sliceSchemaVersion)]

/-- The loop over window starts, with a bound on its rounds. -/
def indexWindowStartsFrom
    (windowMs endMs : Int) :
    Nat → Int → List Int
  | 0, _ => []
  | rounds + 1, current =>
      if current < endMs then
        if i64Max < current + windowMs then
          [current]
        else if current + windowMs ≤ current then
          [current]
        else
          current ::
            indexWindowStartsFrom windowMs endMs rounds
              (current + windowMs)
      else
        []

/-- The starts of the windows of a range. -/
def indexWindowStarts
    (inputRange : InputRange)
    (windowMs : Int) : List Int :=
  if windowMs ≤ 0 ∨ inputRange.endMs ≤ inputRange.startMs then
    []
  else
    indexWindowStartsFrom windowMs inputRange.endMs
      (inputRange.endMs - inputRange.startMs).toNat inputRange.startMs

/-- Pointers are written for successful and for empty runs. -/
def shouldPublishIndexPointers (status : String) : Bool :=
  status = "success" || status = "empty"

/-- Why a run failed. -/
inductive RunError where
  | read
  | artifacts
  | report
  | manifest
  | verifyManifest
  | indexPointers
  deriving Repr, DecidableEq

/-- PUT the pointers of all windows of a range. -/
def publishIndexPointers
    (args : NormalizeArgs)
    (manifestKey l1RunId status : String)
    (finishedAtMs : Int)
    (inputRange : InputRange)
    (pointerPut : Int → PutOutcome)
    (bucket : Bucket) : Bucket × Except RunError Nat :=
  let windowStarts := indexWindowStarts inputRange args.windowMs
  let published :=
    windowStarts.foldl
      (fun current windowStartMs =>
        (uploadJsonIfPointerCurrent current
          (indexPointerKey args.windowMs windowStartMs)
          (indexPointerJson manifestKey l1RunId status finishedAtMs
            inputRange windowStartMs args.windowMs)
          (pointerPut windowStartMs)).1)
      bucket
  (published,
    if windowStarts.all (fun start => (pointerPut start).acknowledged) then
      .ok windowStarts.length
    else
      .error .indexPointers)

/-- What the surroundings of one run decide. -/
structure RunOutcome where
  readFails : Bool
  build : BuildResult
  artifactsFail : Bool
  reportPut : PutOutcome
  manifestPut : PutOutcome
  verifyFails : Bool
  pointerPut : Int → PutOutcome

/-- Nothing disturbs the run: the build decides its status alone. -/
def RunOutcome.undisturbed (build : BuildResult) : RunOutcome where
  readFails := false
  build := build
  artifactsFail := false
  reportPut := .stored
  manifestPut := .stored
  verifyFails := false
  pointerPut := fun _ => .stored

/-- The report of a run. -/
def reportJson
    (build : BuildResult)
    (l1RunId : String)
    (inputRange : InputRange)
    (startedAtMs finishedAtMs : Int)
    (manifestKey : String) : JsonDocument :=
  [("schema_version", .text reportSchemaVersion),
    ("l1_run_id", .text l1RunId),
    ("input_time_range_start_ms", .i64 inputRange.startMs),
    ("input_time_range_end_ms", .i64 inputRange.endMs),
    ("payload_hash_mismatch_count",
      .i64 build.payloadHashMismatchCount),
    ("slice_count_total", .i64 build.sliceCount),
    ("status", .text build.status.asStr),
    ("failure_reason",
      match build.finish.2 with
      | some reason => .text reason
      | none => .null),
    ("manifest_key", .text manifestKey),
    ("started_at_ms", .i64 startedAtMs),
    ("finished_at_ms", .i64 finishedAtMs),
    ("schema_version_emitted", .text sliceSchemaVersion)]

/-- The manifest of a run. -/
def manifestJson
    (build : BuildResult)
    (l1RunId : String)
    (inputRange : InputRange)
    (reportKey : String)
    (finishedAtMs : Int) : JsonDocument :=
  [("schema_version", .text manifestSchemaVersion),
    ("l1_run_id", .text l1RunId),
    ("status", .text build.status.asStr),
    ("input_time_range_start_ms", .i64 inputRange.startMs),
    ("input_time_range_end_ms", .i64 inputRange.endMs),
    ("schema_version_emitted", .text sliceSchemaVersion),
    ("report_key", .text reportKey),
    ("output_record_count", .i64 build.sliceCount),
    ("slice_count_total", .i64 build.sliceCount),
    ("finished_at_ms", .i64 finishedAtMs)]

/-- Write report, manifest and, depending on the status, the pointers. -/
def publishManifestAndIndex
    (args : NormalizeArgs)
    (l1RunId : String)
    (inputRange : InputRange)
    (startedAtMs finishedAtMs : Int)
    (outcome : RunOutcome)
    (bucket : Bucket) : Bucket × Except RunError Unit :=
  let reportKey := reportObjectKey l1RunId
  let manifestKey := manifestObjectKey l1RunId
  let (afterReport, reportDone) :=
    uploadJson bucket reportKey
      (reportJson outcome.build l1RunId inputRange startedAtMs
        finishedAtMs manifestKey)
      outcome.reportPut
  if !reportDone then
    (afterReport, .error .report)
  else
    let (afterManifest, manifestDone) :=
      uploadJson afterReport manifestKey
        (manifestJson outcome.build l1RunId inputRange reportKey
          finishedAtMs)
        outcome.manifestPut
    if !manifestDone then
      (afterManifest, .error .manifest)
    else if outcome.verifyFails then
      (afterManifest, .error .verifyManifest)
    else if shouldPublishIndexPointers outcome.build.status.asStr then
      let (afterPointers, published) :=
        publishIndexPointers args manifestKey l1RunId
          outcome.build.status.asStr finishedAtMs inputRange
          outcome.pointerPut afterManifest
      (afterPointers, published.map (fun _ => ()))
    else
      (afterManifest, .ok ())

/-- Publish the outputs of a built run. -/
def publishOutputs
    (args : NormalizeArgs)
    (l1RunId : String)
    (inputRange : InputRange)
    (startedAtMs finishedAtMs : Int)
    (outcome : RunOutcome)
    (bucket : Bucket) : Bucket × Except RunError Unit :=
  if outcome.build.status = .success ∧ outcome.artifactsFail then
    (bucket, .error .artifacts)
  else
    publishManifestAndIndex args l1RunId inputRange startedAtMs
      finishedAtMs outcome bucket

/-- Read, build and publish a selected run. -/
def runDecision
    (args : NormalizeArgs)
    (decision : RunDecision)
    (nowMs : Int)
    (outcome : RunOutcome)
    (bucket : Bucket) : Bucket × Except RunError Unit :=
  let inputRange := decision.inputRange
  if outcome.readFails then
    (bucket, .error .read)
  else
    publishOutputs args
      (l1RunId inputRange.startMs inputRange.endMs nowMs)
      inputRange nowMs nowMs outcome bucket

/-- The document says that its run was successful. -/
def jsonStatusSuccess (document : JsonDocument) : Bool :=
  document.asStr "status" = some "success"

/-- The end of the input range of the document's run. -/
def inputTimeRangeEndMs (document : JsonDocument) : Option Int :=
  document.asI64 "input_time_range_end_ms"

/-- The start of the input range of the document's run. -/
def inputTimeRangeStartMs (document : JsonDocument) : Option Int :=
  document.asI64 "input_time_range_start_ms"

section PointerFields

variable
  {manifestKey l1RunId status : String}
  {finishedAtMs : Int}
  {inputRange : InputRange}
  {indexedWindowStartMs windowMs : Int}

@[simp] theorem jsonStatusSuccess_indexPointerJson :
    jsonStatusSuccess
        (indexPointerJson manifestKey l1RunId status finishedAtMs
          inputRange indexedWindowStartMs windowMs) =
      decide (status = "success") := by
  simp [jsonStatusSuccess, JsonDocument.asStr, indexPointerJson,
    List.lookup_cons]

@[simp] theorem inputTimeRangeEndMs_indexPointerJson :
    inputTimeRangeEndMs
        (indexPointerJson manifestKey l1RunId status finishedAtMs
          inputRange indexedWindowStartMs windowMs) =
      some inputRange.endMs := by
  simp [inputTimeRangeEndMs, JsonDocument.asI64, indexPointerJson,
    List.lookup_cons]

@[simp] theorem inputTimeRangeStartMs_indexPointerJson :
    inputTimeRangeStartMs
        (indexPointerJson manifestKey l1RunId status finishedAtMs
          inputRange indexedWindowStartMs windowMs) =
      some inputRange.startMs := by
  simp [inputTimeRangeStartMs, JsonDocument.asI64, indexPointerJson,
    List.lookup_cons]

end PointerFields

/-- Status texts are told apart by the status. -/
@[simp] theorem BuildStatus.asStr_eq_success
    (status : BuildStatus) :
    status.asStr = "success" ↔ status = .success := by
  cases status <;> decide

/-- Only a blocked build writes no pointers. -/
@[simp] theorem shouldPublishIndexPointers_asStr
    (status : BuildStatus) :
    shouldPublishIndexPointers status.asStr =
      decide (status ≠ .blocked) := by
  cases status <;> decide

section Windows

variable {windowMs endMs : Int}

/-- With enough rounds the loop reaches every window below the end. -/
private theorem mem_indexWindowStartsFrom_iff
    (windowPositive : 0 < windowMs)
    (endRepresentable : endMs ≤ i64Max)
    {rounds : Nat}
    {current windowStartMs : Int}
    (enough : endMs - current ≤ rounds) :
    windowStartMs ∈ indexWindowStartsFrom windowMs endMs rounds current ↔
      current ≤ windowStartMs ∧ windowStartMs < endMs ∧
        windowMs ∣ windowStartMs - current := by
  induction rounds generalizing current with
  | zero =>
      simp only [indexWindowStartsFrom, List.not_mem_nil, false_iff]
      omega
  | succ rounds inductionHypothesis =>
      -- A later window is a whole number of windows after the current one.
      have later
          (differs : windowStartMs ≠ current)
          (above : current ≤ windowStartMs)
          (aligned : windowMs ∣ windowStartMs - current) :
          current + windowMs ≤ windowStartMs := by
        have := Int.le_of_dvd (by omega) aligned
        omega
      have shift :
          windowMs ∣ windowStartMs - current ↔
            windowMs ∣ windowStartMs - (current + windowMs) := by
        rw [← Int.sub_sub]
        exact (Int.dvd_iff_dvd_of_dvd_sub (by simp)).symm
      unfold indexWindowStartsFrom
      split_ifs with below overflow stuck
      · rw [List.mem_singleton]
        constructor
        · rintro rfl
          exact ⟨le_refl _, below, by simp⟩
        · rintro ⟨above, beforeEnd, aligned⟩
          by_contra differs
          have := later differs above aligned
          omega
      · omega
      · rw [List.mem_cons, inductionHypothesis (by omega), ← shift]
        constructor
        · rintro (rfl | ⟨above, beforeEnd, aligned⟩)
          · exact ⟨le_refl _, below, by simp⟩
          · exact ⟨by omega, beforeEnd, aligned⟩
        · rintro ⟨above, beforeEnd, aligned⟩
          by_cases same : windowStartMs = current
          · exact Or.inl same
          · exact Or.inr
              ⟨later same above aligned, beforeEnd, aligned⟩
      · simp only [List.not_mem_nil, false_iff]
        omega

/-- The windows of a range start at its start and lie one window apart. -/
theorem mem_indexWindowStarts_iff
    (windowPositive : 0 < windowMs)
    {inputRange : InputRange}
    (endRepresentable : inputRange.endMs ≤ i64Max)
    {windowStartMs : Int} :
    windowStartMs ∈ indexWindowStarts inputRange windowMs ↔
      inputRange.startMs ≤ windowStartMs ∧
        windowStartMs < inputRange.endMs ∧
        windowMs ∣ windowStartMs - inputRange.startMs := by
  unfold indexWindowStarts
  split_ifs with degenerate
  · simp only [List.not_mem_nil, false_iff]
    omega
  · exact mem_indexWindowStartsFrom_iff windowPositive endRepresentable
      (by omega)

/-- Windows of a range start inside it. -/
theorem bounds_of_mem_indexWindowStarts
    {inputRange : InputRange}
    {windowStartMs : Int}
    (member : windowStartMs ∈ indexWindowStarts inputRange windowMs) :
    inputRange.startMs ≤ windowStartMs ∧
      windowStartMs < inputRange.endMs := by
  have inside
      (rounds : Nat)
      {current : Int}
      (found :
        windowStartMs ∈
          indexWindowStartsFrom windowMs inputRange.endMs rounds
            current) :
      current ≤ windowStartMs ∧ windowStartMs < inputRange.endMs := by
    induction rounds generalizing current with
    | zero =>
        cases found
    | succ rounds inductionHypothesis =>
        unfold indexWindowStartsFrom at found
        split_ifs at found with below overflow stuck
        · simp only [List.mem_singleton] at found
          omega
        · simp only [List.mem_singleton] at found
          omega
        · rcases List.mem_cons.mp found with rfl | later
          · exact ⟨le_refl _, below⟩
          · have bounds := inductionHypothesis later
            omega
        · cases found
  unfold indexWindowStarts at member
  split_ifs at member
  · cases member
  · exact inside _ member

/-- The first window of a non-empty range starts with it. -/
theorem start_mem_indexWindowStarts
    {inputRange : InputRange}
    (windowPositive : 0 < windowMs)
    (nonempty : inputRange.startMs < inputRange.endMs) :
    inputRange.startMs ∈ indexWindowStarts inputRange windowMs := by
  have rounds :
      (inputRange.endMs - inputRange.startMs).toNat =
        (inputRange.endMs - inputRange.startMs).toNat - 1 + 1 := by
    omega
  unfold indexWindowStarts
  rw [if_neg (by omega), rounds, indexWindowStartsFrom, if_pos nonempty]
  split_ifs <;> simp

/-- The windows of a range follow each other. -/
theorem indexWindowStarts_ascending
    (inputRange : InputRange) :
    (indexWindowStarts inputRange windowMs).Pairwise (· < ·) := by
  have ascending
      (rounds : Nat)
      (current : Int) :
      (indexWindowStartsFrom windowMs inputRange.endMs rounds
          current).Pairwise (· < ·) ∧
        ∀ windowStartMs ∈
          indexWindowStartsFrom windowMs inputRange.endMs rounds current,
          current ≤ windowStartMs := by
    induction rounds generalizing current with
    | zero =>
        simp [indexWindowStartsFrom]
    | succ rounds inductionHypothesis =>
        unfold indexWindowStartsFrom
        split_ifs with below overflow stuck
        · simp
        · simp
        · obtain ⟨later, bounds⟩ := inductionHypothesis (current + windowMs)
          refine ⟨List.pairwise_cons.mpr ⟨?_, later⟩, ?_⟩
          · intro windowStartMs member
            have := bounds windowStartMs member
            omega
          · intro windowStartMs member
            rcases List.mem_cons.mp member with rfl | inRest
            · exact le_refl _
            · have := bounds windowStartMs inRest
              omega
        · simp
  unfold indexWindowStarts
  split_ifs with degenerate
  · exact List.Pairwise.nil
  · exact (ascending _ _).1

end Windows

/-- The pointer stored for one window. -/
def pointerAt
    (bucket : Bucket)
    (windowMs windowStartMs : Int) : Option JsonDocument :=
  bucket.get? (indexPointerKey windowMs windowStartMs)

section Publication

variable
  {args : NormalizeArgs}
  {bucket : Bucket}

/-- Publishing pointers replaces exactly the stored windows of the range. -/
theorem publishIndexPointers_pointerAt
    (manifestKey l1RunId status : String)
    (finishedAtMs : Int)
    (inputRange : InputRange)
    (pointerPut : Int → PutOutcome)
    (windowMs windowStartMs : Int) :
    pointerAt
        (publishIndexPointers args manifestKey l1RunId status
          finishedAtMs inputRange pointerPut bucket).1
        windowMs windowStartMs =
      if windowMs = args.windowMs ∧
          windowStartMs ∈ indexWindowStarts inputRange args.windowMs ∧
          (pointerPut windowStartMs).applied = true then
        some
          (indexPointerJson manifestKey l1RunId status finishedAtMs
            inputRange windowStartMs args.windowMs)
      else
        pointerAt bucket windowMs windowStartMs := by
  unfold publishIndexPointers
  generalize indexWindowStarts inputRange args.windowMs = windowStarts
  simp only [uploadJsonIfPointerCurrent_eq]
  induction windowStarts generalizing bucket with
  | nil =>
      simp
  | cons head rest inductionHypothesis =>
      rw [List.foldl_cons, inductionHypothesis]
      simp only [pointerAt, uploadJson_get?, indexPointerKey_inj,
        List.mem_cons]
      grind

/-- A key outside the index is no pointer key. -/
private theorem pointerKey_ne_of_head
    {key : String}
    (head : key.toList.head? ≠ some 'l')
    (windowMs windowStartMs : Int) :
    indexPointerKey windowMs windowStartMs ≠ key := by
  rintro rfl
  apply head
  unfold indexPointerKey
  simp only [String.toList_append]
  rfl

/-- Reports are not stored among the pointers. -/
theorem indexPointerKey_ne_reportObjectKey
    (windowMs windowStartMs : Int)
    (runId : String) :
    indexPointerKey windowMs windowStartMs ≠ reportObjectKey runId := by
  apply pointerKey_ne_of_head
  unfold reportObjectKey
  simp [String.toList_append]

/-- Manifests are not stored among the pointers. -/
theorem indexPointerKey_ne_manifestObjectKey
    (windowMs windowStartMs : Int)
    (runId : String) :
    indexPointerKey windowMs windowStartMs ≠ manifestObjectKey runId := by
  apply pointerKey_ne_of_head
  unfold manifestObjectKey
  simp [String.toList_append]

/-- The pointer that the run of a range writes for one window. -/
def runPointer
    (args : NormalizeArgs)
    (inputRange : InputRange)
    (nowMs : Int)
    (status : BuildStatus)
    (windowStartMs : Int) : JsonDocument :=
  let runId := l1RunId inputRange.startMs inputRange.endMs nowMs
  indexPointerJson (manifestObjectKey runId) runId status.asStr nowMs
    inputRange windowStartMs args.windowMs

/-- The run gets as far as writing pointers. -/
def RunOutcome.reachesIndex (outcome : RunOutcome) : Bool :=
  !outcome.readFails &&
    !(outcome.build.status = .success && outcome.artifactsFail) &&
    outcome.reportPut.acknowledged &&
    outcome.manifestPut.acknowledged &&
    !outcome.verifyFails &&
    outcome.build.status ≠ .blocked

/-- A PUT outside the index leaves the pointers unchanged. -/
theorem pointerAt_uploadJson_other
    (bucket : Bucket)
    {key : String}
    {windowMs windowStartMs : Int}
    (differs : indexPointerKey windowMs windowStartMs ≠ key)
    (document : JsonDocument)
    (put : PutOutcome) :
    pointerAt (uploadJson bucket key document put).1
        windowMs windowStartMs =
      pointerAt bucket windowMs windowStartMs :=
  uploadJson_get?_other bucket differs document put

/-- Report and manifest leave the pointers to the last step. -/
private theorem publishManifestAndIndex_pointerAt
    (runId : String)
    (inputRange : InputRange)
    (startedAtMs finishedAtMs : Int)
    (outcome : RunOutcome)
    (windowMs windowStartMs : Int) :
    pointerAt
        (publishManifestAndIndex args runId inputRange startedAtMs
          finishedAtMs outcome bucket).1
        windowMs windowStartMs =
      if (outcome.reportPut.acknowledged = true ∧
            outcome.manifestPut.acknowledged = true ∧
            outcome.verifyFails = false ∧
            outcome.build.status ≠ .blocked) ∧
          windowMs = args.windowMs ∧
          windowStartMs ∈ indexWindowStarts inputRange args.windowMs ∧
          (outcome.pointerPut windowStartMs).applied = true then
        some
          (indexPointerJson (manifestObjectKey runId) runId
            outcome.build.status.asStr finishedAtMs inputRange
            windowStartMs args.windowMs)
      else
        pointerAt bucket windowMs windowStartMs := by
  have report (before : Bucket) (document : JsonDocument) :=
    pointerAt_uploadJson_other before
      (indexPointerKey_ne_reportObjectKey windowMs windowStartMs runId)
      document outcome.reportPut
  have manifest (before : Bucket) (document : JsonDocument) :=
    pointerAt_uploadJson_other before
      (indexPointerKey_ne_manifestObjectKey windowMs windowStartMs runId)
      document outcome.manifestPut
  unfold publishManifestAndIndex
  simp only [uploadJson_acknowledged, shouldPublishIndexPointers_asStr]
  cases reportDone : outcome.reportPut.acknowledged with
  | false =>
      simp [report]
  | true =>
      cases manifestDone : outcome.manifestPut.acknowledged with
      | false =>
          simp [report, manifest]
      | true =>
          cases verified : outcome.verifyFails with
          | true =>
              simp [report, manifest]
          | false =>
              by_cases gate : outcome.build.status = .blocked
              · simp [gate, report, manifest]
              · simp [gate, publishIndexPointers_pointerAt, report,
                  manifest]

/-- A run changes the pointers of its own windows only. -/
theorem runDecision_pointerAt
    (args : NormalizeArgs)
    (bucket : Bucket)
    (decision : RunDecision)
    (nowMs : Int)
    (outcome : RunOutcome)
    (windowMs windowStartMs : Int) :
    pointerAt (runDecision args decision nowMs outcome bucket).1
        windowMs windowStartMs =
      if outcome.reachesIndex = true ∧ windowMs = args.windowMs ∧
          windowStartMs ∈
            indexWindowStarts decision.inputRange args.windowMs ∧
          (outcome.pointerPut windowStartMs).applied = true then
        some
          (runPointer args decision.inputRange nowMs
            outcome.build.status windowStartMs)
      else
        pointerAt bucket windowMs windowStartMs := by
  unfold runDecision publishOutputs
  cases readFails : outcome.readFails with
  | true =>
      simp [RunOutcome.reachesIndex, readFails]
  | false =>
      by_cases artifacts :
          outcome.build.status = .success ∧ outcome.artifactsFail = true
      · simp [RunOutcome.reachesIndex, artifacts]
      · have published : outcome.reachesIndex = true ↔
            outcome.reportPut.acknowledged = true ∧
              outcome.manifestPut.acknowledged = true ∧
              outcome.verifyFails = false ∧
              outcome.build.status ≠ .blocked := by
          simp only [RunOutcome.reachesIndex, readFails]
          grind
        simp only [artifacts, ↓reduceIte, published, Bool.false_eq_true]
        exact publishManifestAndIndex_pointerAt _ _ _ _ _ _ _

/-- Publishing pointers leaves all other objects unchanged. -/
theorem publishIndexPointers_get?_other
    {key : String}
    (noPointer :
      ∀ windowStartMs, key ≠ indexPointerKey args.windowMs windowStartMs)
    (manifestKey l1RunId status : String)
    (finishedAtMs : Int)
    (inputRange : InputRange)
    (pointerPut : Int → PutOutcome) :
    (publishIndexPointers args manifestKey l1RunId status finishedAtMs
      inputRange pointerPut bucket).1.get? key = bucket.get? key := by
  unfold publishIndexPointers
  generalize indexWindowStarts inputRange args.windowMs = windowStarts
  simp only [uploadJsonIfPointerCurrent_eq]
  induction windowStarts generalizing bucket with
  | nil =>
      rfl
  | cons head rest inductionHypothesis =>
      rw [List.foldl_cons, inductionHypothesis, uploadJson_get?]
      simp [noPointer]

/-- A run leaves every other object below the index unchanged. -/
theorem runDecision_get?_other
    (bucket : Bucket)
    {key : String}
    (noPointer :
      ∀ windowStartMs, key ≠ indexPointerKey args.windowMs windowStartMs)
    (below : Text.startsWith key "l1_index/" = true)
    (decision : RunDecision)
    (nowMs : Int)
    (outcome : RunOutcome) :
    (runDecision args decision nowMs outcome bucket).1.get? key =
      bucket.get? key := by
  have head : key.toList.head? = some 'l' := by
    obtain ⟨rest, shape⟩ := Text.startsWith_iff.mp below
    rw [← shape]
    rfl
  have notReport (runId : String) : key ≠ reportObjectKey runId := by
    rintro rfl
    unfold reportObjectKey at head
    simp [String.toList_append] at head
  have notManifest (runId : String) : key ≠ manifestObjectKey runId := by
    rintro rfl
    unfold manifestObjectKey at head
    simp [String.toList_append] at head
  unfold runDecision publishOutputs publishManifestAndIndex
  simp only
  split_ifs
  all_goals
    simp [uploadJson_get?_other, notReport, notManifest,
      publishIndexPointers_get?_other noPointer]

/-- The run succeeds: nothing failed and every pointer PUT returned. -/
def RunOutcome.completes
    (outcome : RunOutcome)
    (windowStarts : List Int) : Bool :=
  !outcome.readFails &&
    !(outcome.build.status = .success && outcome.artifactsFail) &&
    outcome.reportPut.acknowledged &&
    outcome.manifestPut.acknowledged &&
    !outcome.verifyFails &&
    (outcome.build.status = .blocked ||
      windowStarts.all (fun start =>
        (outcome.pointerPut start).acknowledged))

/-- A blocked build does not make the run fail. -/
theorem runDecision_ok_iff
    (decision : RunDecision)
    (nowMs : Int)
    (outcome : RunOutcome) :
    (runDecision args decision nowMs outcome bucket).2 = .ok () ↔
      outcome.completes
          (indexWindowStarts decision.inputRange args.windowMs) =
        true := by
  unfold runDecision publishOutputs publishManifestAndIndex
    publishIndexPointers RunOutcome.completes
  simp only [uploadJson_acknowledged, shouldPublishIndexPointers_asStr]
  cases outcome.readFails with
  | true =>
      simp
  | false =>
      by_cases artifacts :
          outcome.build.status = .success ∧ outcome.artifactsFail = true
      · simp [artifacts]
      · cases outcome.reportPut.acknowledged with
        | false =>
            simp [artifacts]
        | true =>
            cases outcome.manifestPut.acknowledged with
            | false =>
                simp [artifacts]
            | true =>
                cases outcome.verifyFails with
                | true =>
                    simp [artifacts]
                | false =>
                    by_cases gate : outcome.build.status = .blocked
                    · simp [gate]
                    · by_cases all :
                        (indexWindowStarts decision.inputRange
                          args.windowMs).all (fun start =>
                            (outcome.pointerPut start).acknowledged) =
                          true
                      · simp [artifacts, gate, all, Except.map]
                        grind
                      · simp [artifacts, gate, all, Except.map]

/-- A run that returns has stored all its pointers, unless it is blocked. -/
theorem runDecision_pointerAt_of_ok
    {decision : RunDecision}
    {nowMs : Int}
    {outcome : RunOutcome}
    (returned :
      (runDecision args decision nowMs outcome bucket).2 = .ok ())
    {windowStartMs : Int}
    (member :
      windowStartMs ∈
        indexWindowStarts decision.inputRange args.windowMs) :
    pointerAt (runDecision args decision nowMs outcome bucket).1
        args.windowMs windowStartMs =
      if outcome.build.status = .blocked then
        pointerAt bucket args.windowMs windowStartMs
      else
        some
          (runPointer args decision.inputRange nowMs
            outcome.build.status windowStartMs) := by
  have completes := (runDecision_ok_iff decision nowMs outcome).mp returned
  simp only [RunOutcome.completes, Bool.and_eq_true] at completes
  obtain ⟨⟨⟨⟨⟨read, artifacts⟩, report⟩, manifest⟩, verified⟩, pointers⟩ :=
    completes
  rw [runDecision_pointerAt]
  by_cases blocked : outcome.build.status = .blocked
  · simp [RunOutcome.reachesIndex, blocked]
  · have stored : (outcome.pointerPut windowStartMs).applied = true := by
      simp only [blocked, decide_false, Bool.false_or,
        List.all_eq_true] at pointers
      exact PutOutcome.applied_of_acknowledged
        (pointers windowStartMs member)
    have reaches : outcome.reachesIndex = true := by
      simp only [RunOutcome.reachesIndex, read, artifacts, report,
        manifest, verified, Bool.true_and]
      simpa using blocked
    rw [if_pos ⟨reaches, rfl, member, stored⟩, if_neg blocked]

end Publication

end MarketIngest.Normalize
