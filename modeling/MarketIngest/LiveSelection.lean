import MarketIngest.RunSelection

namespace MarketIngest.Normalize

/-!
# What live selection loses

The objects below one prefix of raw events come from any number of runs that
may overlap.  Live selection keeps every object with a row of the range exactly
if no such object is overtaken: no other run of the listing started after its
run and at or before the range.  Where no object is lost, live and catch-up runs
build the same slices.
-/

open Storage Build

/-- An object of raw events in a listing. -/
structure ListedObject where
  shard : Nat
  run : WorkerRun
  partNumber : Nat
  rows : List RawInputEvent

section Listing

variable
  (folder : L0Folder)
  (hour : Int)

/-- The key of a listed object. -/
def ListedObject.key (object : ListedObject) : String :=
  folderKey folder (timePart hour) object.shard object.run.runId
    object.partNumber

/-- The object has an event of the range. -/
def ListedObject.HasRowIn
    (object : ListedObject)
    (range : InputRange) : Prop :=
  ∃ event ∈ object.rows, inRange range event = true

/-- The objects of a listing that are read. -/
def readObjects
    (listing : List ListedObject)
    (range : InputRange)
    (runMode : RunMode)
    (l0RunKeyOverlapMs : Int) : List ListedObject :=
  listing.filter fun object =>
    object.key folder hour ∈
      selectS3Keys (listing.map (ListedObject.key folder hour)) range runMode
        l0RunKeyOverlapMs

/--
Every object with an event of the range whose run started before the end of the
range is kept by a live run.
-/
def KeepsStarted
    (listing : List ListedObject)
    (range : InputRange)
    (l0RunKeyOverlapMs : Int) : Prop :=
  ∀ object ∈ listing, object.HasRowIn range →
    object.run.startMs < range.endMs →
    object.key folder hour ∈
      selectS3Keys (listing.map (ListedObject.key folder hour)) range .live
        l0RunKeyOverlapMs

end Listing

/--
No run that has an object in the listing started after the run of such an object
and at or before the start of the range, less the overlap.
-/
def NotOvertaken
    (listing : List ListedObject)
    (range : InputRange)
    (l0RunKeyOverlapMs : Int) : Prop :=
  ∀ object ∈ listing, object.HasRowIn range →
    object.run.startMs < range.endMs →
    ∀ other ∈ listing, object.run.startMs < other.run.startMs →
      saturatingSub range.startMs (max l0RunKeyOverlapMs 0) <
        other.run.startMs

/-- Every object with an event of the range comes from a run before its end. -/
def AllStarted
    (listing : List ListedObject)
    (range : InputRange) : Prop :=
  ∀ object ∈ listing, object.HasRowIn range →
    object.run.startMs < range.endMs

/-- The identifiers of the events of a listing tell the events apart. -/
def DistinctIds (listing : List ListedObject) : Prop :=
  ∀ one ∈ listing.flatMap ListedObject.rows,
    ∀ other ∈ listing.flatMap ListedObject.rows,
      one.eventId = other.eventId → one = other

section Kept

variable
  {folder : L0Folder}
  {hour : Int}
  {listing : List ListedObject}
  {range : InputRange}
  {l0RunKeyOverlapMs : Int}

/-- Keys of objects are keys of parquet files. -/
private theorem key_endsWith
    (object : ListedObject) :
    Text.endsWith (object.key folder hour) ".parquet" = true := by
  have shape :
      object.key folder hour =
        (Text.path (keySegments folder (timePart hour) object.shard) ++
          "run_id=" ++ object.run.runId ++ "-part-" ++
          Text.zeroPadded 6 object.partNumber) ++ ".parquet" := by
    simp only [ListedObject.key, folderKey, partFile, String.append_assoc]
  rw [shape]
  exact Text.endsWith_append _ _

/-- A live run keeps an object by the starts of the runs of the listing. -/
theorem key_mem_selectS3Keys_iff
    (isInput : folder ∈ inputFolders)
    (startBounded :
      saturatingSub range.startMs (max l0RunKeyOverlapMs 0) < i64Max)
    {object : ListedObject}
    (listed : object ∈ listing) :
    object.key folder hour ∈
        selectS3Keys (listing.map (ListedObject.key folder hour)) range .live
          l0RunKeyOverlapMs ↔
      object.run.startMs < range.endMs ∧
        ∀ other ∈ listing, object.run.startMs < other.run.startMs →
          saturatingSub range.startMs (max l0RunKeyOverlapMs 0) <
            other.run.startMs := by
  have startOf (one : ListedObject) :
      runStartMsFromKey (one.key folder hour) = some one.run.startMs :=
    runStartMsFromKey_folderKey isInput hour one.shard one.run
      one.partNumber
  rw [mem_selectS3Keys_live_iff startBounded]
  constructor
  · rintro ⟨_, _, kept⟩
    obtain ⟨started, all⟩ := kept _ (startOf object)
    refine ⟨started, fun other otherListed later => ?_⟩
    exact all _ (List.mem_map_of_mem otherListed) (key_endsWith other) _
      (startOf other) later
  · rintro ⟨started, all⟩
    refine ⟨List.mem_map_of_mem listed, key_endsWith object, ?_⟩
    intro runStartMs isStart
    obtain rfl := Option.some.inj ((startOf object).symm.trans isStart)
    refine ⟨started, ?_⟩
    intro otherKey otherListed _ otherStartMs isOtherStart later
    obtain ⟨other, among, rfl⟩ := List.mem_map.mp otherListed
    obtain rfl := Option.some.inj ((startOf other).symm.trans isOtherStart)
    exact all other among later

/-- A range with an event does not start at the greatest timestamp. -/
private theorem start_bounded
    (endFits : range.endMs ≤ i64Max)
    {object : ListedObject}
    (hasRow : object.HasRowIn range) :
    saturatingSub range.startMs (max l0RunKeyOverlapMs 0) < i64Max := by
  obtain ⟨event, _, inside⟩ := hasRow
  simp only [inRange, Bool.and_eq_true, decide_eq_true_eq] at inside
  simp only [saturatingSub, clampI64, i64Min, i64Max] at *
  omega

/-- Live selection keeps what it should exactly if nothing is overtaken. -/
theorem keepsStarted_iff
    (isInput : folder ∈ inputFolders)
    (endFits : range.endMs ≤ i64Max) :
    KeepsStarted folder hour listing range l0RunKeyOverlapMs ↔
      NotOvertaken listing range l0RunKeyOverlapMs := by
  constructor
  · intro keeps object listed hasRow started
    exact ((key_mem_selectS3Keys_iff isInput
      (start_bounded endFits hasRow) listed).mp
        (keeps object listed hasRow started)).2
  · intro clear object listed hasRow started
    exact (key_mem_selectS3Keys_iff isInput
      (start_bounded endFits hasRow) listed).mpr
        ⟨started, clear object listed hasRow started⟩

/-- Other runs keep every object. -/
theorem readObjects_catchUp :
    readObjects folder hour listing range .catchUp l0RunKeyOverlapMs =
      listing := by
  rw [readObjects, List.filter_eq_self]
  intro object listed
  apply decide_eq_true
  exact (mem_selectS3Keys_of_not_live (by simp)).mpr
    ⟨List.mem_map_of_mem listed, key_endsWith object⟩

end Kept

section Slices

variable
  {Number : Type}
  [NumberFormat Number]
  (codec : Codec Number)
  (args : NormalizeArgs)
  (inputRange scanRange : InputRange)

/-- The files of the objects that are read. -/
def objectFiles (objects : List ListedObject) : List (List InputRow) :=
  objects.map fun object => object.rows.map InputRow.rawEvent

/-- The slices that a run builds from the objects that it reads. -/
def slicesOf
    (metadata : BuildInputMetadata)
    (objects : List ListedObject) : List (SliceRow Number) :=
  (foldRange codec args inputRange scanRange metadata
    (objectFiles objects)).slices

variable {codec args inputRange scanRange}

omit [NumberFormat Number] in
/-- Only events of the range go to slices, whether they are fresh or not. -/
private theorem rangeEvents_rawEvents
    {events : List RawInputEvent}
    (distinct :
      ∀ one ∈ events, ∀ other ∈ events,
        one.eventId = other.eventId → one = other) :
    rangeEvents codec args scanRange inputRange
        (events.map InputRow.rawEvent) =
      firsts (fun event => event.eventId)
        ((events.filter (inRange inputRange)).filter fun event =>
          isReadable codec args scanRange (.rawEvent event) &&
            isSliceEvent inputRange event) := by
  have readable :
      readableEvents codec args scanRange (events.map InputRow.rawEvent) =
        events.filter fun event =>
          isReadable codec args scanRange (.rawEvent event) := by
    rw [readableEvents, List.filter_map, List.filterMap_map]
    exact List.filterMap_some
  have among :
      ∀ event ∈ events.filter (fun event =>
          isReadable codec args scanRange (.rawEvent event)),
        event ∈ events :=
    fun event member => (List.mem_filter.mp member).1
  rw [rangeEvents, freshEvents, readable, filter_firsts]
  · congr 1
    rw [List.filter_filter, List.filter_filter]
    apply List.filter_congr
    intro event _
    unfold isSliceEvent
    cases inRange inputRange event <;> simp [Bool.and_comm]
  · intro one oneMember other otherMember sameId
    rw [distinct one (among one oneMember) other (among other otherMember)
      sameId]

/-- Builds of events with equal events of the range have equal slices. -/
private theorem slices_eq_of_rangeEvents
    {metadata otherMetadata : BuildInputMetadata}
    {events otherEvents : List RawInputEvent}
    (same :
      rangeEvents codec args scanRange inputRange
          (events.map InputRow.rawEvent) =
        rangeEvents codec args scanRange inputRange
          (otherEvents.map InputRow.rawEvent)) :
    (ingestRows codec args
        (BuildAccumulator.new args inputRange scanRange metadata)
        (events.map InputRow.rawEvent)).finish.slices =
      (ingestRows codec args
        (BuildAccumulator.new args inputRange scanRange otherMetadata)
        (otherEvents.map InputRow.rawEvent)).finish.slices := by
  have holdsAfter
      (source : BuildInputMetadata)
      (rows : List InputRow) :
      BuildHolds codec args scanRange inputRange rows
        (ingestRows codec args
          (BuildAccumulator.new args inputRange scanRange source) rows) :=
    buildHolds_ingestRows source rows
  have holds := holdsAfter metadata (events.map InputRow.rawEvent)
  have otherHolds :=
    holdsAfter otherMetadata (otherEvents.map InputRow.rawEvent)
  generalize ingestRows codec args
    (BuildAccumulator.new args inputRange scanRange metadata)
    (events.map InputRow.rawEvent) = state at holds ⊢
  generalize ingestRows codec args
    (BuildAccumulator.new args inputRange scanRange otherMetadata)
    (otherEvents.map InputRow.rawEvent) = otherState at otherHolds ⊢
  have none
      {Row : Type}
      {rowOf : InputRow → Option Row}
      (noEvent : ∀ event, rowOf (.rawEvent event) = none)
      (list : List RawInputEvent) :
      ((list.map InputRow.rawEvent).filter
          (isReadable codec args scanRange)).filterMap rowOf = [] := by
    rw [List.filter_map, List.filterMap_map, List.filterMap_eq_nil_iff]
    exact fun event _ => noEvent event
  have sameRows : state.rows = otherState.rows := by
    apply OrderedMap.ext_get?
    intro key
    have stored := holds.input.rows (ofLex key).1 (ofLex (ofLex key).2).1
      (ofLex (ofLex key).2).2
    have otherStored :=
      otherHolds.input.rows (ofLex key).1 (ofLex (ofLex key).2).1
        (ofLex (ofLex key).2).2
    rw [← same] at otherStored
    exact stored.trans otherStored.symm
  have finished (accumulator : BuildAccumulator Number) :
      accumulator.finish.slices =
        finishSlices accumulator accumulator.inputRange accumulator.rows :=
    rfl
  rw [finished, finished]
  unfold finishSlices
  rw [holds.symbolHealth, holds.sourceHealth, holds.gapAlerts,
    otherHolds.symbolHealth, otherHolds.sourceHealth, otherHolds.gapAlerts,
    holds.sameInputRange, otherHolds.sameInputRange, sameRows,
    none (fun _ => rfl), none (fun _ => rfl), none (fun _ => rfl),
    none (fun _ => rfl), none (fun _ => rfl), none (fun _ => rfl)]

/-- The files of objects hold the events of the objects. -/
private theorem flatten_objectFiles
    (objects : List ListedObject) :
    (objectFiles objects).flatten =
      (objects.flatMap ListedObject.rows).map InputRow.rawEvent := by
  rw [objectFiles, ← List.flatMap_def, List.map_flatMap]

/-- Objects without events of a range may be left out. -/
private theorem filter_rows_of_left_out
    {range : InputRange}
    {keep : ListedObject → Bool}
    {objects : List ListedObject}
    (leftOut :
      ∀ object ∈ objects, keep object = false → ¬ object.HasRowIn range) :
    ((objects.filter keep).flatMap ListedObject.rows).filter
        (inRange range) =
      (objects.flatMap ListedObject.rows).filter (inRange range) := by
  induction objects with
  | nil =>
      rfl
  | cons object rest inductionHypothesis =>
      obtain ⟨objectLeft, restLeft⟩ := List.forall_mem_cons.mp leftOut
      rw [List.flatMap_cons, List.filter_append,
        ← inductionHypothesis restLeft]
      cases kept : keep object with
      | true =>
          rw [List.filter_cons_of_pos kept, List.flatMap_cons,
            List.filter_append]
      | false =>
          have noRows : object.rows.filter (inRange range) = [] := by
            rw [List.filter_eq_nil_iff]
            exact fun event member inside =>
              objectLeft kept ⟨event, member, inside⟩
          rw [List.filter_cons_of_neg (by simp [kept]), noRows,
            List.nil_append]

variable
  {folder : L0Folder}
  {hour : Int}
  {listing : List ListedObject}
  {range : InputRange}
  {l0RunKeyOverlapMs : Int}

/-- Where nothing is lost, live and catch-up runs build the same slices. -/
private theorem slicesOf_live
    (isInput : folder ∈ inputFolders)
    (endFits : range.endMs ≤ i64Max)
    (startInside : range.startMs ≤ inputRange.startMs)
    (endInside : inputRange.endMs ≤ range.endMs)
    (clear : NotOvertaken listing range l0RunKeyOverlapMs)
    (started : AllStarted listing range)
    (distinct : DistinctIds listing)
    (metadata otherMetadata : BuildInputMetadata) :
    slicesOf codec args inputRange scanRange metadata
        (readObjects folder hour listing range .live l0RunKeyOverlapMs) =
      slicesOf codec args inputRange scanRange otherMetadata
        (readObjects folder hour listing range .catchUp
          l0RunKeyOverlapMs) := by
  rw [readObjects_catchUp]
  unfold slicesOf
  rw [foldRange_eq, foldRange_eq, flatten_objectFiles, flatten_objectFiles]
  apply slices_eq_of_rangeEvents
  have among :
      ∀ event ∈ (readObjects folder hour listing range .live
          l0RunKeyOverlapMs).flatMap ListedObject.rows,
        event ∈ listing.flatMap ListedObject.rows := by
    intro event member
    obtain ⟨object, isRead, inRows⟩ := List.mem_flatMap.mp member
    exact List.mem_flatMap.mpr
      ⟨object, (List.mem_filter.mp isRead).1, inRows⟩
  have keeps : KeepsStarted folder hour listing range l0RunKeyOverlapMs :=
    (keepsStarted_iff isInput endFits).mpr clear
  have sameRows :
      ((readObjects folder hour listing range .live
          l0RunKeyOverlapMs).flatMap ListedObject.rows).filter
          (inRange inputRange) =
        (listing.flatMap ListedObject.rows).filter (inRange inputRange) := by
    apply filter_rows_of_left_out
    intro object listed dropped hasRow
    have wider : object.HasRowIn range := by
      obtain ⟨event, member, inside⟩ := hasRow
      refine ⟨event, member, ?_⟩
      simp only [inRange, Bool.and_eq_true, decide_eq_true_eq] at *
      omega
    have kept := keeps object listed wider (started object listed wider)
    simp [kept] at dropped
  rw [rangeEvents_rawEvents (fun one oneMember other otherMember =>
      distinct one (among one oneMember) other (among other otherMember)),
    rangeEvents_rawEvents distinct, sameRows]

variable (codec args inputRange scanRange) in
/--
Live selection keeps the objects with events of the range exactly if none of
them is overtaken; then, if moreover all of them come from runs before the end
of the range and identifiers tell events apart, live and catch-up runs build the
same slices of every part of the range.
-/
theorem liveSelection_keeps_iff
    (isInput : folder ∈ inputFolders)
    (endFits : range.endMs ≤ i64Max) :
    (KeepsStarted folder hour listing range l0RunKeyOverlapMs ↔
      NotOvertaken listing range l0RunKeyOverlapMs) ∧
    (NotOvertaken listing range l0RunKeyOverlapMs →
      AllStarted listing range → DistinctIds listing →
      range.startMs ≤ inputRange.startMs →
      inputRange.endMs ≤ range.endMs →
      ∀ metadata otherMetadata,
        slicesOf codec args inputRange scanRange metadata
            (readObjects folder hour listing range .live
              l0RunKeyOverlapMs) =
          slicesOf codec args inputRange scanRange otherMetadata
            (readObjects folder hour listing range .catchUp
              l0RunKeyOverlapMs)) := by
  refine ⟨keepsStarted_iff isInput endFits, ?_⟩
  intro clear started distinct startInside endInside metadata otherMetadata
  exact slicesOf_live isInput endFits startInside endInside clear started
    distinct metadata otherMetadata

end Slices

section Sample

/-- The folder of the trades of Binance. -/
def tradeFolder : L0Folder :=
  .raw "binance" "trade"

/-- The trades of Binance are read. -/
private theorem tradeFolder_mem : tradeFolder ∈ inputFolders := by
  simp [tradeFolder, inputFolders, venues, rawEventTypes]

/-- The venue of the example runs is known. -/
private theorem binance_mem_venues : "binance" ∈ venues := by
  simp [venues]

/-- The long run starts within the range of `i64`. -/
private theorem longRunStart_fits :
    ((1779471443 : Nat) : Int) * 1000 ≤ i64Max := by
  decide

/-- The backfill starts within the range of `i64`. -/
private theorem backfillStart_fits :
    ((1779474000 : Nat) : Int) * 1000 ≤ i64Max := by
  decide

/-- An object of a run that was started an hour before its trade. -/
def longRunObject : ListedObject where
  shard := 0
  run :=
    { kind := .ingest
      venue := "binance"
      startSecs := 1779471443
      knownVenue := binance_mem_venues
      startFits := longRunStart_fits }
  partNumber := 101
  rows :=
    [{ btcTrade "evt_binance_trade_1779474700010_42" with
        exchangeTimestampMs := 1779474700000
        ingestTimestampMs := 1779474700010 }]

/-- An object of a backfill that was started ten minutes before the trade. -/
def backfillObject : ListedObject where
  shard := 0
  run :=
    { kind := .backfill
      venue := "binance"
      startSecs := 1779474000
      knownVenue := binance_mem_venues
      startFits := backfillStart_fits }
  partNumber := 1
  rows := []

/-- The range of twenty minutes around the trade. -/
def tradeRange : InputRange where
  startMs := 1779474600000
  endMs := 1779475800000

/-- The object of the long run has the trade. -/
private theorem longRunObject_hasRow : longRunObject.HasRowIn tradeRange :=
  ⟨_, List.mem_singleton.mpr rfl, by decide⟩

/-- The object of the long run is dropped because of the backfill. -/
theorem longRun_dropped :
    ¬ KeepsStarted tradeFolder 1779472800000
        [longRunObject, backfillObject] tradeRange 360000 := by
  intro keeps
  have clear :=
    (keepsStarted_iff tradeFolder_mem (by decide)).mp keeps
  have later :=
    clear longRunObject (by simp) longRunObject_hasRow (by decide)
      backfillObject (by simp) (by decide)
  revert later
  decide

/-- The earlier backfill starts within the range of `i64`. -/
private theorem earlierStart_fits :
    ((1744500000 : Nat) : Int) * 1000 ≤ i64Max := by
  decide

/-- The second run starts within the range of `i64`. -/
private theorem secondRunStart_fits :
    ((1779474300 : Nat) : Int) * 1000 ≤ i64Max := by
  decide

/-- An object of a second run, which was started in the overlap and also has a
trade of the range. -/
def secondRunObject : ListedObject where
  shard := 0
  run :=
    { kind := .ingest
      venue := "binance"
      startSecs := 1779474300
      knownVenue := binance_mem_venues
      startFits := secondRunStart_fits }
  partNumber := 14
  rows :=
    [{ btcTrade "evt_binance_trade_1779474710010_43" with
        exchangeTimestampMs := 1779474710000
        ingestTimestampMs := 1779474710010 }]

/-- An object of a backfill that ended before the range. -/
def earlierObject : ListedObject :=
  { backfillObject with
    run :=
      { kind := .backfill
        venue := "binance"
        startSecs := 1744500000
        knownVenue := binance_mem_venues
        startFits := earlierStart_fits } }

/-- Two producers with trades of the range, and an earlier backfill. -/
def producerObjects : List ListedObject :=
  [earlierObject, longRunObject, secondRunObject]

/-- Without an overtaking run both producers are kept, and the slices are those
of a catch-up run, which also reads the earlier backfill. -/
theorem producers_kept :
    KeepsStarted tradeFolder 1779472800000 producerObjects tradeRange
        360000 ∧
      ((readObjects tradeFolder 1779472800000 producerObjects tradeRange
            .live 360000).length = 2 ∧
        (readObjects tradeFolder 1779472800000 producerObjects tradeRange
            .catchUp 360000).length = 3) ∧
      ∀ metadata otherMetadata,
        slicesOf btcCodec namedBucketArgs tradeRange tradeRange metadata
            (readObjects tradeFolder 1779472800000 producerObjects
              tradeRange .live 360000) =
          slicesOf btcCodec namedBucketArgs tradeRange tradeRange
            otherMetadata
            (readObjects tradeFolder 1779472800000 producerObjects
              tradeRange .catchUp 360000) := by
  have started : AllStarted producerObjects tradeRange := by
    intro object listed _
    simp only [producerObjects, List.mem_cons, List.not_mem_nil,
      or_false] at listed
    rcases listed with rfl | rfl | rfl <;> decide
  have clear : NotOvertaken producerObjects tradeRange 360000 := by
    intro object listed hasRow _ other otherListed later
    simp only [producerObjects, List.mem_cons, List.not_mem_nil,
      or_false] at listed otherListed
    rcases listed with rfl | rfl | rfl
    · obtain ⟨event, member, _⟩ := hasRow
      cases member
    all_goals
      rcases otherListed with rfl | rfl | rfl <;> revert later <;> decide
  have distinct : DistinctIds producerObjects := by
    intro one oneMember other otherMember
    simp only [producerObjects, earlierObject, backfillObject,
      longRunObject, secondRunObject, List.flatMap_cons, List.flatMap_nil,
      List.nil_append, List.cons_append, List.mem_cons, List.not_mem_nil,
      or_false] at oneMember otherMember
    rcases oneMember with rfl | rfl <;>
      rcases otherMember with rfl | rfl <;> decide
  obtain ⟨kept, same⟩ :=
    @liveSelection_keeps_iff ℚ _ btcCodec namedBucketArgs tradeRange
      tradeRange tradeFolder 1779472800000 producerObjects tradeRange 360000
      tradeFolder_mem (by decide)
  exact
    ⟨kept.mpr clear, ⟨by decide +kernel, by decide +kernel⟩,
      same clear started distinct (le_refl _) (le_refl _)⟩

end Sample

end MarketIngest.Normalize
