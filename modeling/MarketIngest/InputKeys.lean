import MarketIngest.L0Keys
import MarketIngest.ReadRange

namespace MarketIngest.Normalize

/-!
# Listing prefixes of the L0 objects

A run lists one prefix per hour of its range and per folder of a fixed table of
venues and kinds.  The writers compute the folder and the hour of a record on
their own.  The two sides agree: a record of a known kind and of a time in the
range is filed below exactly one of the prefixes, and below the prefixes lie
only records of the hours that the range touches.
-/

open Storage

variable {Payload : Type}

/-- The venues whose objects are read. -/
def venues : List String :=
  ["upbit", "binance"]

/-- The kinds of raw market events that are read. -/
def rawEventTypes : List String :=
  ["trade", "book_ticker", "depth_delta", "depth_snapshot", "ticker",
    "funding_rate_snapshot", "open_interest_snapshot"]

/-- The kinds of gap alerts whose prefixes are listed. -/
def gapAlertTypes : List String :=
  ["depth_update_id_gap", "ordering_violation", "upbit_error"]

/-- The end of a listing prefix. -/
def hourText (part : TimePart) : String :=
  "/event_date=" ++ part.eventDate ++ "/hour=" ++
    Text.zeroPadded 2 part.hour ++ "/"

/-- The prefixes that are listed for an hour. -/
def inputPrefixesForPart (part : TimePart) : List String :=
  venues.flatMap fun venue =>
    rawEventTypes.map (fun eventType =>
        "raw_market_event/venue=" ++ venue ++ "/event_type=" ++ eventType ++
          hourText part) ++
      (["symbol_health/venue=" ++ venue ++ hourText part,
          "source_health/venue=" ++ venue ++ hourText part] ++
        gapAlertTypes.map fun gapType =>
          "gap_alert/venue=" ++ venue ++ "/gap_type=" ++ gapType ++
            hourText part)

/-- The dates and hours that are listed for a range. -/
def hourlyTimeParts (startMs endMs : Int) : List TimePart :=
  (Build.hourlyParts startMs endMs).map timePart

/-- The prefixes that are listed for a range. -/
def inputPrefixes (startMs endMs : Int) : List String :=
  (hourlyTimeParts startMs endMs).flatMap inputPrefixesForPart

section Folders

/-- The folders whose objects are read. -/
def inputFolders : List L0Folder :=
  venues.flatMap fun venue =>
    rawEventTypes.map (L0Folder.raw venue) ++
      ([.symbolHealth venue, .sourceHealth venue] ++
        gapAlertTypes.map (L0Folder.gap venue))

/-- Venues and kinds have no separators. -/
theorem slash_not_mem_tables :
    (∀ venue ∈ venues, '/' ∉ venue.toList) ∧
      (∀ eventType ∈ rawEventTypes, '/' ∉ eventType.toList) ∧
      ∀ gapType ∈ gapAlertTypes, '/' ∉ gapType.toList := by
  simp [venues, rawEventTypes, gapAlertTypes]

/-- The folders that are read have no separators in their texts. -/
theorem slashFree_of_mem_inputFolders
    {folder : L0Folder}
    (isInput : folder ∈ inputFolders) :
    Text.SlashFree folder.texts := by
  obtain ⟨venueFree, eventTypeFree, gapTypeFree⟩ := slash_not_mem_tables
  simp only [inputFolders, List.mem_flatMap, List.mem_append, List.mem_map,
    List.mem_cons, List.not_mem_nil, or_false] at isInput
  obtain ⟨venue, known, isFolder⟩ := isInput
  have free := venueFree venue known
  rcases isFolder with ⟨eventType, knownType, rfl⟩ | (rfl | rfl) |
    ⟨gapType, knownType, rfl⟩
  · simp [Text.SlashFree, L0Folder.texts, free,
      eventTypeFree eventType knownType]
  · simp [Text.SlashFree, L0Folder.texts, free]
  · simp [Text.SlashFree, L0Folder.texts, free]
  · simp [Text.SlashFree, L0Folder.texts, free,
      gapTypeFree gapType knownType]

/-- The text of an hour as segments behind a folder. -/
theorem hourText_eq
    (part : TimePart) :
    hourText part = "/" ++ Text.path (hourSegments part) := by
  have date : "/event_date=" = "/" ++ "event_date=" := rfl
  have hour : "/hour=" = "/" ++ "hour=" := rfl
  unfold hourText hourSegments
  rw [date, hour]
  simp only [Text.path, String.append_assoc, String.append_empty,
    -String.reduceAppend]

/-- The prefix of a folder and an hour, written out. -/
private theorem hourPrefix_eq
    (folder : L0Folder)
    (part : TimePart) :
    hourPrefix folder part =
      match folder with
      | .raw venue eventType =>
          "raw_market_event/venue=" ++ venue ++ "/event_type=" ++
            eventType ++ hourText part
      | .sourceHealth venue =>
          "source_health/venue=" ++ venue ++ hourText part
      | .symbolHealth venue =>
          "symbol_health/venue=" ++ venue ++ hourText part
      | .gap venue gapType =>
          "gap_alert/venue=" ++ venue ++ "/gap_type=" ++ gapType ++
            hourText part := by
  obtain ⟨raw, source, symbol, gap, eventType, gapTypeName⟩ :=
    leadingNames_cut
  cases folder <;>
    simp only [hourPrefix, hourText_eq, raw, source, symbol, gap, eventType,
      gapTypeName, L0Folder.segments, L0Folder.family, L0Folder.fields,
      Text.path, List.cons_append, List.nil_append, String.append_assoc,
      -String.reduceAppend]

/-- One prefix is listed per folder. -/
theorem inputPrefixesForPart_eq
    (part : TimePart) :
    inputPrefixesForPart part =
      inputFolders.map fun folder => hourPrefix folder part := by
  simp only [inputPrefixesForPart, inputFolders, List.map_flatMap,
    List.map_append, List.map_map, List.map_cons, List.map_nil,
    hourPrefix_eq, Function.comp_def]

end Folders

section Hours

/-- A timestamp with a calendar date is far from the limits of its type. -/
theorem bounds_of_representable
    {timestampMs : Int}
    (representable : representableTimestamp timestampMs = true) :
    -9000000000000000 ≤ timestampMs ∧ timestampMs ≤ 9000000000000000 := by
  simp only [representableTimestamp, decide_eq_true_eq] at representable
  have era := Calendar.civilFromDays_year_bounds (timestampMs / dayMs)
  simp only [dayMs] at *
  omega

/-- The listed hours are hours between the start and the end of the range. -/
private theorem bounds_of_mem_hourlyPartsFrom
    {endMs hour : Int}
    (endRepresentable : endMs + hourMs ≤ i64Max)
    (rounds : Nat)
    {current : Int}
    (lower : i64Min ≤ current)
    (isHour : floorHourMs current = current)
    (member : hour ∈ Build.hourlyPartsFrom endMs rounds current) :
    current ≤ hour ∧ hour < endMs ∧ floorHourMs hour = hour := by
  induction rounds generalizing current with
  | zero =>
      cases member
  | succ rounds inductionHypothesis =>
      rw [Build.hourlyPartsFrom] at member
      split_ifs at member with below
      · rcases List.mem_cons.mp member with rfl | later
        · exact ⟨Int.le_refl _, below, isHour⟩
        · have next :
              saturatingAdd current hourMs = current + hourMs := by
            apply saturatingAdd_of_mem
            · simp only [hourMs]
              omega
            · omega
          rw [next] at later
          have nextIsHour :
              floorHourMs (current + hourMs) = current + hourMs := by
            simp only [floorHourMs, hourMs] at *
            omega
          obtain ⟨after, bounded⟩ :=
            inductionHypothesis (by simp only [hourMs]; omega) nextIsHour
              later
          simp only [hourMs] at after
          exact ⟨by omega, bounded⟩
      · cases member

variable {startMs endMs : Int}

/-- Every listed hour contains a time of the range. -/
theorem exists_time_of_mem_hourlyParts
    (startRepresentable : representableTimestamp startMs = true)
    (endRepresentable : representableTimestamp endMs = true)
    (inOrder : startMs < endMs)
    {hour : Int}
    (member : hour ∈ Build.hourlyParts startMs endMs) :
    representableTimestamp hour = true ∧
      ∃ time, startMs ≤ time ∧ time < endMs ∧ floorHourMs time = hour := by
  have startBounds := bounds_of_representable startRepresentable
  have endBounds := bounds_of_representable endRepresentable
  obtain ⟨lower, upper, isHour⟩ :=
    bounds_of_mem_hourlyPartsFrom
      (by simp only [hourMs, i64Max]; omega) _
      (by simp only [floorHourMs, hourMs, i64Min]; omega)
      (by simp only [floorHourMs, hourMs]; omega) member
  constructor
  · apply representableTimestamp_of_between startRepresentable
      endRepresentable
    · simp only [floorHourMs, hourMs, dayMs] at *
      omega
    · omega
  · refine ⟨max hour startMs, Int.le_max_right _ _, ?_, ?_⟩
    · omega
    · simp only [floorHourMs, hourMs] at *
      omega

/-- The hour of a time of the range is listed. -/
theorem timePart_mem_hourlyTimeParts
    {time : Int}
    (startRepresentable : representableTimestamp startMs = true)
    (endRepresentable : representableTimestamp endMs = true)
    (lower : startMs ≤ time)
    (upper : time < endMs) :
    timePart time ∈ hourlyTimeParts startMs endMs := by
  have startBounds := bounds_of_representable startRepresentable
  have endBounds := bounds_of_representable endRepresentable
  have listed :=
    Build.floorHourMs_mem_hourlyParts
      (by simp only [i64Min]; omega) (by simp only [i64Max]; omega)
      lower upper
  rw [← timePart_floorHourMs]
  exact List.mem_map_of_mem listed

end Hours

section Listing

/-- A raw or health record of a known venue and kind. -/
def KnownRecord : L0Record Payload → Prop
  | .raw record => record.venue ∈ venues ∧ record.eventType ∈ rawEventTypes
  | .sourceHealth record => record.venue ∈ venues
  | .symbolHealth record => record.venue ∈ venues
  | .gap _ => False

/-- The folders of known records are read. -/
theorem KnownRecord.folder_mem
    {record : L0Record Payload}
    (known : KnownRecord record) :
    record.folder ∈ inputFolders := by
  cases record with
  | raw record =>
      refine List.mem_flatMap.mpr ⟨record.venue, known.1, ?_⟩
      exact List.mem_append_left _ (List.mem_map_of_mem known.2)
  | sourceHealth record =>
      refine List.mem_flatMap.mpr ⟨record.venue, known, ?_⟩
      simp [L0Record.folder]
  | symbolHealth record =>
      refine List.mem_flatMap.mpr ⟨record.venue, known, ?_⟩
      simp [L0Record.folder]
  | gap record =>
      cases known

/-- A listed prefix is the prefix of a folder and a listed hour. -/
theorem mem_inputPrefixes_iff
    {startMs endMs : Int}
    {inputPrefix : String} :
    inputPrefix ∈ inputPrefixes startMs endMs ↔
      ∃ folder ∈ inputFolders, ∃ part ∈ hourlyTimeParts startMs endMs,
        inputPrefix = hourPrefix folder part := by
  simp only [inputPrefixes, List.mem_flatMap, inputPrefixesForPart_eq,
    List.mem_map]
  constructor
  · rintro ⟨part, listed, folder, isInput, rfl⟩
    exact ⟨folder, isInput, part, listed, rfl⟩
  · rintro ⟨folder, isInput, part, listed, rfl⟩
    exact ⟨part, listed, folder, isInput, rfl⟩

/-- Listed parts have no separators. -/
theorem slashFree_of_mem_hourlyTimeParts
    {startMs endMs : Int}
    {part : TimePart}
    (listed : part ∈ hourlyTimeParts startMs endMs) :
    Text.SlashFree (hourSegments part) := by
  obtain ⟨hour, _, rfl⟩ := List.mem_map.mp listed
  exact slashFree_hourSegments hour

/-- A record is filed below a prefix of its own folder and hour only. -/
theorem objectKey_startsWith_iff
    {record : L0Record Payload}
    (recordFree : Text.SlashFree record.folder.texts)
    {folder : L0Folder}
    (isInput : folder ∈ inputFolders)
    {part : TimePart}
    (partFree : Text.SlashFree (hourSegments part))
    {hash : String → Nat}
    {shardCount partNumber : Nat}
    {runId : String} :
    Text.startsWith (record.objectKey hash shardCount runId partNumber)
        (hourPrefix folder part) = true ↔
      folder = record.folder ∧ part = timePart record.timeMs := by
  rw [L0Record.objectKey_eq]
  exact folderKey_startsWith_iff recordFree
    (slashFree_of_mem_inputFolders isInput) (slashFree_hourSegments _)
    partFree

/--
A raw or health record of a known kind and of a time in the range is filed below
exactly one listed prefix, and what is filed below a listed prefix belongs to an
hour that the range touches.
-/
theorem writtenRecords_listed
    {startMs endMs : Int}
    (startRepresentable : representableTimestamp startMs = true)
    (endRepresentable : representableTimestamp endMs = true)
    (inOrder : startMs < endMs)
    (hash : String → Nat)
    (shardCount partNumber : Nat)
    (runId : String)
    {record : L0Record Payload}
    (timeRepresentable : representableTimestamp record.timeMs = true) :
    (KnownRecord record → startMs ≤ record.timeMs → record.timeMs < endMs →
      ∃! inputPrefix, inputPrefix ∈ inputPrefixes startMs endMs ∧
        Text.startsWith (record.objectKey hash shardCount runId partNumber)
          inputPrefix = true) ∧
    (Text.SlashFree record.folder.texts →
      ∀ inputPrefix ∈ inputPrefixes startMs endMs,
        Text.startsWith (record.objectKey hash shardCount runId partNumber)
          inputPrefix = true →
        ∃ time, startMs ≤ time ∧ time < endMs ∧
          floorHourMs time = floorHourMs record.timeMs) := by
  constructor
  · intro known lower upper
    have isInput := known.folder_mem
    have recordFree := slashFree_of_mem_inputFolders isInput
    have listed :=
      timePart_mem_hourlyTimeParts startRepresentable endRepresentable
        lower upper
    refine ⟨hourPrefix record.folder (timePart record.timeMs), ⟨?_, ?_⟩, ?_⟩
    · exact mem_inputPrefixes_iff.mpr ⟨_, isInput, _, listed, rfl⟩
    · exact (objectKey_startsWith_iff recordFree isInput
        (slashFree_hourSegments _)).mpr ⟨rfl, rfl⟩
    · rintro inputPrefix ⟨member, starts⟩
      obtain ⟨folder, otherInput, part, otherListed, rfl⟩ :=
        mem_inputPrefixes_iff.mp member
      obtain ⟨rfl, rfl⟩ :=
        (objectKey_startsWith_iff recordFree otherInput
          (slashFree_of_mem_hourlyTimeParts otherListed)).mp starts
      rfl
  · intro recordFree inputPrefix member starts
    obtain ⟨folder, isInput, part, listed, rfl⟩ :=
      mem_inputPrefixes_iff.mp member
    have sameHour :=
      ((objectKey_startsWith_iff recordFree isInput
        (slashFree_of_mem_hourlyTimeParts listed)).mp starts).2
    obtain ⟨hour, isListed, rfl⟩ := List.mem_map.mp listed
    obtain ⟨hourRepresentable, time, lower, upper, inHour⟩ :=
      exists_time_of_mem_hourlyParts startRepresentable endRepresentable
        inOrder isListed
    refine ⟨time, lower, upper, ?_⟩
    rw [← floorHourMs_eq_of_timePart_eq hourRepresentable timeRepresentable
      sameHour, ← inHour]
    simp only [floorHourMs, hourMs]
    omega

/-- A trade of the last millisecond of 1970-01-01. -/
def lastTradeOfDay : L0Record Unit :=
  .raw
    { eventId := "evt_binance_trade_86400000_1"
      producerRunId := "market-ingest-binance-86390"
      venue := "binance"
      eventType := "trade"
      symbolNative := "BTCUSDT"
      exchangeTimestampMs := 86399999
      ingestTimestampMs := 86400000
      payload := () }

/-- A range across midnight lists the trade below exactly one prefix. -/
theorem lastTradeOfDay_listed :
    ∃! inputPrefix, inputPrefix ∈ inputPrefixes 86399999 86400001 ∧
      Text.startsWith
        (lastTradeOfDay.objectKey String.length 1
          "market-ingest-binance-86390" 1)
        inputPrefix = true := by
  have known : KnownRecord lastTradeOfDay := by
    simp [KnownRecord, lastTradeOfDay, venues, rawEventTypes]
  exact (writtenRecords_listed (by decide) (by decide) (by decide)
    String.length 1 1 "market-ingest-binance-86390" (by decide)).1
    known (by decide) (by decide)

end Listing

end MarketIngest.Normalize
