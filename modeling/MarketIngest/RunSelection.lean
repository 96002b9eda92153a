import MarketIngest.DownloadOrder
import MarketIngest.InputKeys
import MarketIngest.TextSearch
import Mathlib.Data.List.TakeWhile

namespace MarketIngest.Normalize

/-!
# Selection of listed objects by their run

A live run drops listed objects whose run ended before its range.  The end of a
run is not stored anywhere: it is taken to be the start of the next run that has
an object in the same listing.  An object is therefore dropped although its run
goes on, as soon as any other producer of the listing started after it and not
after the range.
-/

open Storage

section Selection

/-- The start of the run that wrote an object, from the name of the run. -/
def runStartMsFromKey (key : String) : Option Int :=
  (Text.splitOnce? "run_id=".toList key.toList).bind fun parts =>
    let file := parts.2.takeWhile (fun char => char ≠ '/')
    let runId :=
      match Text.splitOnce? "-part-".toList file with
      | some (leading, _) => leading
      | none => file
    (Text.parseI64? (Text.lastField '-' runId)).bind fun seconds =>
      Text.checkedI64 (seconds * 1000)

/-- The next start after a start. -/
def nextRunStartMs (runStarts : List Int) (current : Int) : Option Int :=
  runStarts.find? fun candidate => current < candidate

/-- The objects of one listing that a run reads. -/
def selectS3Keys
    (listedKeys : List String)
    (range : InputRange)
    (runMode : RunMode)
    (l0RunKeyOverlapMs : Int) : List String :=
  let parquetKeys :=
    listedKeys.filter fun key => Text.endsWith key ".parquet"
  if runMode ≠ .live then
    parquetKeys
  else
    let runStarts := sortDedup (parquetKeys.filterMap runStartMsFromKey)
    let overlapMs := max l0RunKeyOverlapMs 0
    parquetKeys.filter fun key =>
      match runStartMsFromKey key with
      | none => true
      | some runStartMs =>
          let runEndMs :=
            (nextRunStartMs runStarts runStartMs).getD i64Max
          let rangeStartMs := saturatingSub range.startMs overlapMs
          decide (runStartMs < range.endMs ∧ rangeStartMs < runEndMs)

/-- The next start is the least one after a start. -/
private theorem lt_nextRunStartMs_iff
    {runStarts : List Int}
    (ascending : runStarts.Pairwise (· < ·))
    {current bound : Int}
    (bounded : bound < i64Max) :
    bound < (nextRunStartMs runStarts current).getD i64Max ↔
      ∀ other ∈ runStarts, current < other → bound < other := by
  unfold nextRunStartMs
  induction runStarts with
  | nil =>
      simpa using bounded
  | cons start rest inductionHypothesis =>
      obtain ⟨least, restAscending⟩ := List.pairwise_cons.mp ascending
      by_cases later : current < start
      · rw [List.find?_cons_of_pos (by simpa using later),
          Option.getD_some]
        constructor
        · intro below other member _
          rcases List.mem_cons.mp member with rfl | inRest
          · exact below
          · exact below.trans (least other inRest)
        · intro all
          exact all start List.mem_cons_self later
      · rw [List.find?_cons_of_neg (by simpa using later),
          inductionHypothesis restAscending, List.forall_mem_cons]
        simp [later]

/-- Outside of live runs every parquet object is selected. -/
theorem mem_selectS3Keys_of_not_live
    {listedKeys : List String}
    {range : InputRange}
    {runMode : RunMode}
    {l0RunKeyOverlapMs : Int}
    (notLive : runMode ≠ .live)
    {key : String} :
    key ∈ selectS3Keys listedKeys range runMode l0RunKeyOverlapMs ↔
      key ∈ listedKeys ∧ Text.endsWith key ".parquet" = true := by
  rw [selectS3Keys, if_pos notLive, List.mem_filter]

/-- A live run selects by the starts of all runs of the listing. -/
theorem mem_selectS3Keys_live_iff
    {listedKeys : List String}
    {range : InputRange}
    {l0RunKeyOverlapMs : Int}
    (startBounded :
      saturatingSub range.startMs (max l0RunKeyOverlapMs 0) < i64Max)
    {key : String} :
    key ∈ selectS3Keys listedKeys range .live l0RunKeyOverlapMs ↔
      key ∈ listedKeys ∧ Text.endsWith key ".parquet" = true ∧
        ∀ runStartMs, runStartMsFromKey key = some runStartMs →
          runStartMs < range.endMs ∧
            ∀ other ∈ listedKeys, Text.endsWith other ".parquet" = true →
              ∀ otherStartMs, runStartMsFromKey other = some otherStartMs →
                runStartMs < otherStartMs →
                saturatingSub range.startMs (max l0RunKeyOverlapMs 0) <
                  otherStartMs := by
  rw [selectS3Keys, if_neg (by simp)]
  simp only [List.mem_filter, and_assoc]
  refine and_congr_right fun _ => and_congr_right fun _ => ?_
  cases runStartMsFromKey key with
  | none =>
      simp
  | some runStartMs =>
      simp only [decide_eq_true_eq, Option.some.injEq, forall_eq']
      refine and_congr_right fun _ => ?_
      rw [lt_nextRunStartMs_iff (sortDedup_ascending _) startBounded]
      simp only [mem_sortDedup, List.mem_filterMap, List.mem_filter]
      constructor
      · intro all other listed isParquet otherStartMs isStart
        exact all otherStartMs ⟨other, ⟨listed, isParquet⟩, isStart⟩
      · rintro all otherStartMs ⟨other, ⟨listed, isParquet⟩, isStart⟩
        exact all other listed isParquet otherStartMs isStart

end Selection

section Workers

/-- The workers that write L0 objects. -/
inductive WorkerKind where
  | ingest
  | backfill
  deriving Repr, DecidableEq

/-- The name of a worker. -/
def WorkerKind.asStr : WorkerKind → String
  | .ingest => "ingest"
  | .backfill => "backfill"

/-- A run of a worker; its start in milliseconds is a timestamp. -/
structure WorkerRun where
  kind : WorkerKind
  venue : String
  startSecs : Nat
  knownVenue : venue ∈ venues
  startFits : (startSecs : Int) * 1000 ≤ i64Max

namespace WorkerRun

/-- The identifier of a run ends with the second of its start. -/
def runId (run : WorkerRun) : String :=
  "market-" ++ run.kind.asStr ++ "-" ++ run.venue ++ "-" ++
    toString run.startSecs

/-- The start of a run. -/
def startMs (run : WorkerRun) : Int :=
  run.startSecs * 1000

/-- The identifier of a run, cut at its hyphens. -/
private theorem toList_runId
    (run : WorkerRun) :
    run.runId.toList =
      "market".toList ++ '-' :: (run.kind.asStr.toList ++ '-' ::
        (run.venue.toList ++ '-' :: (toString run.startSecs).toList)) := by
  simp [runId]

/-- The venue of a run is one of two. -/
private theorem venue_cases
    (run : WorkerRun) :
    run.venue = "upbit" ∨ run.venue = "binance" := by
  have known := run.knownVenue
  simpa only [venues, List.mem_cons, List.not_mem_nil, or_false] using known

/-- The second of the start consists of digits. -/
private theorem not_mem_secs
    (run : WorkerRun)
    {char : Char}
    (notDigit : char.isDigit = false) :
    char ∉ (toString run.startSecs).toList := by
  intro member
  change char ∈ (Nat.repr run.startSecs).toList at member
  rw [Nat.repr_eq_ofList_toDigits, String.toList_ofList] at member
  have isDigit :=
    Nat.isDigit_of_mem_toDigits (by decide) (by decide) member
  rw [notDigit] at isDigit
  cases isDigit

/-- Kind and venue of a run have no hyphens. -/
private theorem hyphen_not_mem_names
    (run : WorkerRun) :
    '-' ∉ run.kind.asStr.toList ∧ '-' ∉ run.venue.toList := by
  constructor
  · cases run.kind <;> simp [WorkerKind.asStr]
  · rcases run.venue_cases with isUpbit | isBinance
    · simp [isUpbit]
    · simp [isBinance]

/-- An identifier consists of lower-case letters, hyphens and digits. -/
theorem not_mem_runId
    (run : WorkerRun)
    {char : Char}
    (notLower : char.isLower = false)
    (notHyphen : char ≠ '-')
    (notDigit : char.isDigit = false) :
    char ∉ run.runId.toList := by
  have letters
      {text : String}
      (lower : text.toList.all Char.isLower = true) :
      char ∉ text.toList := by
    intro member
    have isLower := List.all_eq_true.mp lower char member
    rw [notLower] at isLower
    cases isLower
  have kindFree : char ∉ run.kind.asStr.toList := by
    apply letters
    cases run.kind <;> simp [WorkerKind.asStr]
  have venueFree : char ∉ run.venue.toList := by
    apply letters
    rcases run.venue_cases with isUpbit | isBinance
    · simp [isUpbit]
    · simp [isBinance]
  have secsFree := run.not_mem_secs notDigit
  have marketFree : char ∉ "market".toList := letters (by simp)
  rw [run.toList_runId]
  simp only [List.mem_append, List.mem_cons, marketFree, kindFree, venueFree,
    secsFree, notHyphen, or_false]
  exact not_false

/-- An identifier has no separator of segments. -/
theorem slash_not_mem_runId
    (run : WorkerRun) :
    '/' ∉ run.runId.toList :=
  run.not_mem_runId (by decide) (by decide) (by decide)

/-- The last part of an identifier is the second of the start. -/
private theorem lastField_runId
    (run : WorkerRun) :
    Text.lastField '-' run.runId.toList =
      (toString run.startSecs).toList := by
  have cut :
      run.runId.toList =
        ("market".toList ++ '-' :: (run.kind.asStr.toList ++ '-' ::
          run.venue.toList)) ++ '-' :: (toString run.startSecs).toList := by
    rw [run.toList_runId]
    simp only [List.append_assoc, List.cons_append]
  rw [cut]
  exact Text.lastField_append (@not_mem_secs run '-' (by decide))

/-- The identifier ends where the number of the part begins. -/
private theorem splitOnce?_part
    (run : WorkerRun)
    (rest : List Char) :
    Text.splitOnce? "-part-".toList
        (run.runId.toList ++ '-' :: ("part".toList ++ '-' :: rest)) =
      some (run.runId.toList, rest) := by
  obtain ⟨kindFree, venueFree⟩ := run.hyphen_not_mem_names
  have secsFree := @not_mem_secs run '-' (by decide)
  have marker : "-part-".toList = '-' :: ("part".toList ++ ['-']) := rfl
  have partFree : '-' ∉ "part".toList := by simp
  have skip
      {name behind : List Char}
      (free : '-' ∉ name)
      (different : "part".toList ≠ name) :
      ¬ "part".toList ++ ['-'] <+: name ++ '-' :: behind := by
    intro starts
    exact different
      ((Text.segment_prefix_iff partFree free).mp starts).1
  have kindDiffers : "part".toList ≠ run.kind.asStr.toList := by
    cases run.kind <;> simp [WorkerKind.asStr]
  have venueDiffers : "part".toList ≠ run.venue.toList := by
    rcases run.venue_cases with isUpbit | isBinance
    · simp [isUpbit]
    · simp [isBinance]
  have secsDiffer :
      "part".toList ≠ (toString run.startSecs).toList := by
    intro same
    apply @not_mem_secs run 'p' (by decide)
    rw [← same]
    simp
  have found :
      "part".toList ++ ['-'] <+: "part".toList ++ '-' :: rest := by
    rw [List.prefix_append_right_inj]
    simp
  have behind :
      ("part".toList ++ '-' :: rest).drop
          ("part".toList ++ ['-']).length =
        rest := by
    simp
  rw [marker, run.toList_runId]
  simp only [List.append_assoc, List.cons_append]
  rw [Text.splitOnce?_opened (by simp), if_neg (skip kindFree kindDiffers),
    Text.splitOnce?_opened kindFree, if_neg (skip venueFree venueDiffers),
    Text.splitOnce?_opened venueFree, if_neg (skip secsFree secsDiffer),
    Text.splitOnce?_opened secsFree, if_pos found, behind]
  rfl

end WorkerRun

/-- A field of a key does not contain the marker of the run. -/
private theorem run_id_not_in_field
    {segment : String}
    (name value : String)
    (isField : segment.toList = name.toList ++ '=' :: value.toList)
    (nameFree : '=' ∉ name.toList)
    (valueFree : '=' ∉ value.toList)
    (different : ¬ "run_id".toList <:+ name.toList) :
    Text.splitOnce? "run_id=".toList segment.toList = none := by
  have marker : "run_id=".toList = "run_id".toList ++ ['='] := rfl
  rw [marker, isField]
  exact Text.splitOnce?_field (by simp) nameFree valueFree different

/-- Venues and kinds have no equals sign. -/
private theorem equals_not_mem_tables :
    (∀ venue ∈ venues, '=' ∉ venue.toList) ∧
      (∀ eventType ∈ rawEventTypes, '=' ∉ eventType.toList) ∧
      ∀ gapType ∈ gapAlertTypes, '=' ∉ gapType.toList := by
  simp [venues, rawEventTypes, gapAlertTypes]

/-- The family does not contain the marker of the run. -/
private theorem run_id_not_in_family
    (folder : L0Folder) :
    Text.splitOnce? "run_id=".toList folder.family.toList = none := by
  have free : '=' ∉ folder.family.toList := by
    cases folder <;> simp [L0Folder.family]
  have inMarker : '=' ∈ "run_id=".toList := by simp
  exact Text.splitOnce?_eq_none inMarker free

/-- The fields of a folder do not contain the marker of the run. -/
private theorem run_id_not_in_fields
    {folder : L0Folder}
    (isInput : folder ∈ inputFolders) :
    ∀ field ∈ folder.fields,
      Text.splitOnce? "run_id=".toList field.toList = none := by
  obtain ⟨venueFree, eventTypeFree, gapTypeFree⟩ := equals_not_mem_tables
  have venueField
      {venue : String}
      (known : venue ∈ venues) :
      Text.splitOnce? "run_id=".toList ("venue=" ++ venue).toList = none :=
    run_id_not_in_field "venue" venue (by simp)
      (by simp) (venueFree venue known) (by decide)
  have eventTypeField
      {eventType : String}
      (known : eventType ∈ rawEventTypes) :
      Text.splitOnce? "run_id=".toList ("event_type=" ++ eventType).toList =
        none :=
    run_id_not_in_field "event_type" eventType
      (by simp) (by simp) (eventTypeFree eventType known) (by decide)
  have gapTypeField
      {gapType : String}
      (known : gapType ∈ gapAlertTypes) :
      Text.splitOnce? "run_id=".toList ("gap_type=" ++ gapType).toList =
        none :=
    run_id_not_in_field "gap_type" gapType
      (by simp) (by simp) (gapTypeFree gapType known) (by decide)
  simp only [inputFolders, List.mem_flatMap, List.mem_append, List.mem_map,
    List.mem_cons, List.not_mem_nil, or_false] at isInput
  obtain ⟨venue, known, isFolder⟩ := isInput
  rcases isFolder with ⟨eventType, knownType, rfl⟩ | (rfl | rfl) |
    ⟨gapType, knownType, rfl⟩
  · simp only [L0Folder.fields, List.forall_mem_cons]
    exact ⟨venueField known, eventTypeField knownType, by simp⟩
  · simp only [L0Folder.fields, List.forall_mem_cons]
    exact ⟨venueField known, by simp⟩
  · simp only [L0Folder.fields, List.forall_mem_cons]
    exact ⟨venueField known, by simp⟩
  · simp only [L0Folder.fields, List.forall_mem_cons]
    exact ⟨venueField known, gapTypeField knownType, by simp⟩

/-- No segment of a key contains the marker of the run. -/
private theorem run_id_not_in_keySegments
    {folder : L0Folder}
    (isInput : folder ∈ inputFolders)
    (timestampMs : Int)
    (shard : Nat) :
    ∀ segment ∈ keySegments folder (timePart timestampMs) shard,
      Text.splitOnce? "run_id=".toList segment.toList = none := by
  have numberFree := @Text.not_mem_zeroPadded '=' (by decide) 2
  have dateFree :=
    @Calendar.not_mem_renderDate '=' (by decide) (by decide) (by decide)
  intro segment member
  simp only [keySegments, L0Folder.segments, hourSegments,
    List.cons_append, List.nil_append, List.mem_cons, List.mem_append,
    List.not_mem_nil, or_false] at member
  rcases member with rfl | inFields | rfl | rfl | rfl
  · exact run_id_not_in_family folder
  · exact run_id_not_in_fields isInput segment inFields
  · exact run_id_not_in_field "event_date"
      (timePart timestampMs).eventDate (by simp) (by simp)
      (dateFree _) (by decide)
  · exact run_id_not_in_field "hour"
      (Text.zeroPadded 2 (timePart timestampMs).hour) (by simp)
      (by simp) (numberFree _) (by decide)
  · exact run_id_not_in_field "shard"
      (Text.zeroPadded 2 shard) (by simp [shardSegment]) (by simp)
      (numberFree _) (by decide)

/-- The start of a run is read off the keys of its objects. -/
theorem runStartMsFromKey_folderKey
    {folder : L0Folder}
    (isInput : folder ∈ inputFolders)
    (timestampMs : Int)
    (shard : Nat)
    (run : WorkerRun)
    (partNumber : Nat) :
    runStartMsFromKey
        (folderKey folder (timePart timestampMs) shard run.runId
          partNumber) =
      some run.startMs := by
  have file :
      (partFile run.runId partNumber).toList =
        "run_id=".toList ++
          (run.runId.toList ++ '-' :: ("part".toList ++ '-' ::
            (Text.zeroPadded 6 partNumber ++ ".parquet").toList)) := by
    simp [partFile]
  have tailFree :
      ∀ char ∈ run.runId.toList ++ '-' :: ("part".toList ++ '-' ::
          (Text.zeroPadded 6 partNumber ++ ".parquet").toList),
        decide (char ≠ '/') = true := by
    intro char member
    apply decide_eq_true
    rintro rfl
    have runFree := run.slash_not_mem_runId
    have numberFree := @Text.not_mem_zeroPadded '/' (by decide) 6 partNumber
    simp [runFree, numberFree] at member
  have whole := List.takeWhile_eq_self_iff.mpr tailFree
  have fits :
      ((run.startSecs : Nat) : Int) ≤ i64Max := by
    have product := run.startFits
    omega
  have small := run.startFits
  unfold runStartMsFromKey folderKey
  rw [Text.splitOnce?_path (by simp) (by simp)
    (run_id_not_in_keySegments isInput timestampMs shard), file,
    Text.splitOnce?_of_prefix]
  simp only [Option.map_some, Option.bind_some, whole, run.splitOnce?_part]
  rw [run.lastField_runId, Text.parseI64?_toString fits, Option.bind_some,
    Text.checkedI64, if_pos ⟨by simp only [i64Min]; omega, small⟩]
  rfl

end Workers

end MarketIngest.Normalize
