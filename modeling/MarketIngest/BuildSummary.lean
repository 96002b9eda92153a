import MarketIngest.SeededSlices

namespace MarketIngest.Build

open Normalize

/-!
# What a build has read

The rows of the four families arrive in one sequence.  After any sequence the
state of a build is described by the rows alone: which of them are readable,
which readable events are the first with their identifier, and which of these
fall into a range.
-/

/-- A decoded row of one of the four families. -/
inductive InputRow where
  | rawEvent (event : RawInputEvent)
  | symbolHealth (row : SymbolHealthInput)
  | sourceHealth (row : SourceHealthInput)
  | gapAlert (row : GapAlertInput)
  deriving Repr, DecidableEq

namespace InputRow

/-- The schema that a row declares. -/
def schemaVersion : InputRow → String
  | rawEvent event => event.schemaVersion
  | symbolHealth row => row.schemaVersion
  | sourceHealth row => row.schemaVersion
  | gapAlert row => row.schemaVersion

/-- The schema that rows of the family have. -/
def expectedSchema : InputRow → String
  | rawEvent _ => "raw_market_event_v2"
  | symbolHealth _ => "symbol_health_v1"
  | sourceHealth _ => "source_health_v2"
  | gapAlert _ => "gap_alert_v1"

/-- The text that is hashed. -/
def payload : InputRow → String
  | rawEvent event => event.payloadJson
  | symbolHealth row =>
      row.venue ++ ":" ++ row.symbolNative ++ ":" ++
        toString row.observedAtMs ++ ":" ++ row.reasonCodes
  | sourceHealth row => row.payloadJson
  | gapAlert row => row.payloadJson

/-- The hash that a row declares. -/
def payloadSha256 : InputRow → String
  | rawEvent event => event.payloadSha256
  | symbolHealth row => row.payloadSha256
  | sourceHealth row => row.payloadSha256
  | gapAlert row => row.payloadSha256

/-- The event of a raw row. -/
def rawEvent? : InputRow → Option RawInputEvent
  | rawEvent event => some event
  | _ => none

/-- The row, if it is about the health of a symbol. -/
def symbolHealth? : InputRow → Option SymbolHealthInput
  | symbolHealth row => some row
  | _ => none

/-- The row, if it is about the health of a venue. -/
def sourceHealth? : InputRow → Option SourceHealthInput
  | sourceHealth row => some row
  | _ => none

/-- The row, if it is a gap alert. -/
def gapAlert? : InputRow → Option GapAlertInput
  | gapAlert row => some row
  | _ => none

end InputRow

section Rows

variable
  {Number : Type}
  [NumberFormat Number]
  (codec : Codec Number)
  (args : NormalizeArgs)

/-- Read a row of any family. -/
def ingestRow
    (accumulator : BuildAccumulator Number) :
    InputRow → BuildAccumulator Number
  | .rawEvent event => ingestRawEvent codec args accumulator event
  | .symbolHealth row => ingestSymbolHealth codec accumulator row
  | .sourceHealth row => ingestSourceHealth codec accumulator row
  | .gapAlert row => ingestGapAlert codec accumulator row

/-- Read rows one after the other. -/
def ingestRows
    (accumulator : BuildAccumulator Number)
    (rows : List InputRow) : BuildAccumulator Number :=
  rows.foldl (ingestRow codec args) accumulator

variable (scanRange : InputRange)

/-- The payload of a row of the right schema does not have its hash. -/
def hashMismatch (row : InputRow) : Bool :=
  row.schemaVersion = row.expectedSchema &&
    codec.sha256Hex row.payload ≠ row.payloadSha256

/-- The time of an event is positive and not after the scanned range. -/
def timeValid (event : RawInputEvent) : Bool :=
  0 < event.exchangeTimestampMs &&
    event.exchangeTimestampMs <
      saturatingAdd scanRange.endMs args.clockSkewMarginMs

/-- The row passes the checks of its family. -/
def isReadable (row : InputRow) : Bool :=
  row.schemaVersion = row.expectedSchema &&
    codec.sha256Hex row.payload = row.payloadSha256 &&
    row.rawEvent?.all (timeValid args scanRange)

/-- The readable events among rows. -/
def readableEvents (rows : List InputRow) : List RawInputEvent :=
  (rows.filter (isReadable codec args scanRange)).filterMap
    InputRow.rawEvent?

/-- The readable events without repetitions of an identifier. -/
def freshEvents (rows : List InputRow) : List RawInputEvent :=
  firsts (fun event => event.eventId)
    (readableEvents codec args scanRange rows)

/-- The event goes to a slice of the range. -/
def isSliceEvent (range : InputRange) (event : RawInputEvent) : Bool :=
  !isDerivativeMarketEvent event && inRange range event

/-- The fresh events that go to slices of a range. -/
def rangeEvents
    (range : InputRange)
    (rows : List InputRow) : List RawInputEvent :=
  (freshEvents codec args scanRange rows).filter (isSliceEvent range)

/-- A fresh event turns out to be invalid. -/
def isInvalidContent
    (inputRange : InputRange)
    (event : RawInputEvent) : Bool :=
  if isDerivativeMarketEvent event then
    inRange (lookbackRange args inputRange) event &&
      (parseDerivativeMetric codec event).isNone
  else
    inRange inputRange event &&
      isSeeded args inputRange (eventWindowStart args event) &&
      (invalidReason codec event).isSome

/-- The state of a build is what the rows make of it. -/
structure BuildHolds
    (inputRange : InputRange)
    (rows : List InputRow)
    (accumulator : BuildAccumulator Number) : Prop where
  sameInputRange : accumulator.inputRange = inputRange
  sameScanRange : accumulator.scanRange = scanRange
  sameProjectionRange :
    accumulator.projectionRange = lookbackRange args inputRange
  input :
    RangeHolds codec args inputRange
      (rangeEvents codec args scanRange inputRange rows)
      accumulator.inputState
  projection :
    RangeHolds codec args (lookbackRange args inputRange)
      (rangeEvents codec args scanRange (lookbackRange args inputRange) rows)
      accumulator.projectionState
  seen :
    ∀ eventId,
      (accumulator.seenEventIds.get? eventId).isSome ↔
        eventId ∈
          (readableEvents codec args scanRange rows).map
            (fun event => event.eventId)
  symbolHealth :
    accumulator.symbolHealth =
      (rows.filter (isReadable codec args scanRange)).filterMap
        InputRow.symbolHealth?
  sourceHealth :
    accumulator.sourceHealth =
      (rows.filter (isReadable codec args scanRange)).filterMap
        InputRow.sourceHealth?
  gapAlerts :
    accumulator.gapAlerts =
      (rows.filter (isReadable codec args scanRange)).filterMap
        InputRow.gapAlert?
  schemaVersions :
    ∀ schemaVersion,
      (accumulator.schemaVersions.get? schemaVersion).isSome ↔
        schemaVersion ∈ rows.map InputRow.schemaVersion
  inputRecordCount : accumulator.stats.inputRecordCount = rows.length
  duplicateEventCount :
    accumulator.stats.duplicateEventCount +
        (freshEvents codec args scanRange rows).length =
      (readableEvents codec args scanRange rows).length
  invalidEventCount :
    accumulator.stats.invalidEventCount =
      rows.countP (fun row => !isReadable codec args scanRange row) +
        (freshEvents codec args scanRange rows).countP
          (isInvalidContent codec args inputRange)
  payloadHashMismatchCount :
    accumulator.stats.payloadHashMismatchCount =
      rows.countP (hashMismatch codec)

/-- Before the first row there is nothing. -/
theorem buildHolds_nil
    (inputRange : InputRange)
    (metadata : BuildInputMetadata) :
    BuildHolds codec args scanRange inputRange []
      (BuildAccumulator.new args inputRange scanRange metadata) where
  sameInputRange := rfl
  sameScanRange := rfl
  sameProjectionRange := rfl
  input := rangeHolds_nil codec args inputRange .zero
  projection :=
    rangeHolds_nil codec args (lookbackRange args inputRange) .zero
  seen := by
    intro eventId
    exact iff_of_false
      (by simp [BuildAccumulator.new]) (by simp [readableEvents])
  symbolHealth := rfl
  sourceHealth := rfl
  gapAlerts := rfl
  schemaVersions := by
    intro schemaVersion
    exact iff_of_false (by simp [BuildAccumulator.new]) (by simp)
  inputRecordCount := rfl
  duplicateEventCount := rfl
  invalidEventCount := rfl
  payloadHashMismatchCount := rfl

/-- The counters after a row that is not readable. -/
def rejectedStats (row : InputRow) (stats : BuildStats) : BuildStats :=
  if hashMismatch codec row then
    stats.countRecord.countHashMismatch.countInvalid
  else
    stats.countRecord.countInvalid

end Rows

section Steps

variable
  {Number : Type}
  {codec : Codec Number}
  {args : NormalizeArgs}
  {scanRange : InputRange}

/-- The checks that a readable row passed. -/
private theorem checks_of_readable
    {row : InputRow}
    (readable : isReadable codec args scanRange row = true) :
    row.schemaVersion = row.expectedSchema ∧
      codec.sha256Hex row.payload = row.payloadSha256 ∧
      row.rawEvent?.all (timeValid args scanRange) = true := by
  simpa only [isReadable, Bool.and_eq_true, decide_eq_true_eq, and_assoc]
    using readable

variable [NumberFormat Number]

/-- A row that is not readable is counted and nothing else. -/
theorem ingestRow_of_unreadable
    {accumulator : BuildAccumulator Number}
    (sameScanRange : accumulator.scanRange = scanRange)
    {row : InputRow}
    (unreadable : isReadable codec args scanRange row = false) :
    ingestRow codec args accumulator row =
      { accumulator with
        stats := rejectedStats codec row accumulator.stats
        schemaVersions :=
          accumulator.schemaVersions.insert row.schemaVersion () } := by
  subst sameScanRange
  by_cases schema : row.schemaVersion = row.expectedSchema
  · by_cases hash : codec.sha256Hex row.payload = row.payloadSha256
    · cases row with
      | rawEvent event =>
          have untimely :
              event.exchangeTimestampMs ≤ 0 ∨
                saturatingAdd accumulator.scanRange.endMs
                  args.clockSkewMarginMs ≤ event.exchangeTimestampMs := by
            simp only [isReadable, schema, hash, InputRow.rawEvent?,
              Option.all_some, timeValid, decide_true, Bool.true_and,
              Bool.and_eq_false_iff, decide_eq_false_iff_not, not_lt]
              at unreadable
            exact unreadable
          simp only [InputRow.schemaVersion, InputRow.expectedSchema,
            InputRow.payload, InputRow.payloadSha256] at schema hash
          simp [ingestRow, ingestRawEvent, BuildAccumulator.countRecord,
            schema, hash, untimely, rejectedStats, hashMismatch,
            InputRow.schemaVersion, InputRow.payload,
            InputRow.payloadSha256]
      | symbolHealth row => simp [isReadable, schema, hash,
          InputRow.rawEvent?] at unreadable
      | sourceHealth row => simp [isReadable, schema, hash,
          InputRow.rawEvent?] at unreadable
      | gapAlert row => simp [isReadable, schema, hash,
          InputRow.rawEvent?] at unreadable
    · cases row <;>
        simp_all [ingestRow, ingestRawEvent, ingestSymbolHealth,
          ingestSourceHealth, ingestGapAlert, countUnreadable,
          BuildAccumulator.countRecord, rejectedStats, hashMismatch,
          InputRow.schemaVersion, InputRow.expectedSchema,
          InputRow.payload, InputRow.payloadSha256,
          BuildStats.countInvalid, BuildStats.countHashMismatch]
  · cases row <;>
      simp_all [ingestRow, ingestRawEvent, ingestSymbolHealth,
        ingestSourceHealth, ingestGapAlert, countUnreadable,
        BuildAccumulator.countRecord, rejectedStats, hashMismatch,
        InputRow.schemaVersion, InputRow.expectedSchema]

/-- A readable row about health or gaps is collected. -/
theorem ingestRow_of_side_row
    (accumulator : BuildAccumulator Number)
    {row : InputRow}
    (readable : isReadable codec args scanRange row = true)
    (noEvent : row.rawEvent? = none) :
    ingestRow codec args accumulator row =
      { accumulator with
        stats := accumulator.stats.countRecord
        schemaVersions :=
          accumulator.schemaVersions.insert row.schemaVersion ()
        symbolHealth :=
          accumulator.symbolHealth ++ row.symbolHealth?.toList
        sourceHealth :=
          accumulator.sourceHealth ++ row.sourceHealth?.toList
        gapAlerts := accumulator.gapAlerts ++ row.gapAlert?.toList } := by
  obtain ⟨schema, hash, -⟩ := checks_of_readable readable
  cases row with
  | rawEvent event => cases noEvent
  | symbolHealth row =>
      simp only [InputRow.schemaVersion, InputRow.expectedSchema,
        InputRow.payload, InputRow.payloadSha256] at schema hash
      simp only [ingestRow, ingestSymbolHealth, BuildAccumulator.countRecord,
        schema, hash, ne_eq, not_true_eq_false, if_false,
        InputRow.symbolHealth?, InputRow.sourceHealth?, InputRow.gapAlert?,
        InputRow.schemaVersion, Option.toList_some, Option.toList_none,
        List.append_nil]
  | sourceHealth row =>
      simp only [InputRow.schemaVersion, InputRow.expectedSchema,
        InputRow.payload, InputRow.payloadSha256] at schema hash
      simp only [ingestRow, ingestSourceHealth, BuildAccumulator.countRecord,
        schema, hash, ne_eq, not_true_eq_false, or_self, if_false,
        InputRow.symbolHealth?, InputRow.sourceHealth?, InputRow.gapAlert?,
        InputRow.schemaVersion, Option.toList_some, Option.toList_none,
        List.append_nil]
  | gapAlert row =>
      simp only [InputRow.schemaVersion, InputRow.expectedSchema,
        InputRow.payload, InputRow.payloadSha256] at schema hash
      simp only [ingestRow, ingestGapAlert, BuildAccumulator.countRecord,
        schema, hash, ne_eq, not_true_eq_false, or_self, if_false,
        InputRow.symbolHealth?, InputRow.sourceHealth?, InputRow.gapAlert?,
        InputRow.schemaVersion, Option.toList_some, Option.toList_none,
        List.append_nil]

/-- A fresh event is noted as seen before it is used. -/
def noteSeen
    (accumulator : BuildAccumulator Number)
    (event : RawInputEvent) : BuildAccumulator Number :=
  { accumulator with
    stats := accumulator.stats.countRecord
    schemaVersions :=
      accumulator.schemaVersions.insert event.schemaVersion ()
    seenEventIds := accumulator.seenEventIds.insert event.eventId () }

/-- A readable event is a duplicate, a metric or part of slices. -/
theorem ingestRow_rawEvent
    {accumulator : BuildAccumulator Number}
    (sameScanRange : accumulator.scanRange = scanRange)
    {event : RawInputEvent}
    (readable :
      isReadable codec args scanRange (.rawEvent event) = true) :
    ingestRow codec args accumulator (.rawEvent event) =
      if (accumulator.seenEventIds.get? event.eventId).isSome then
        { accumulator with
          stats := accumulator.stats.countRecord.countDuplicate
          schemaVersions :=
            accumulator.schemaVersions.insert event.schemaVersion () }
      else if isDerivativeMarketEvent event then
        ingestDerivativeEvent codec (noteSeen accumulator event) event
      else
        ingestSpotEvent codec args (noteSeen accumulator event) event := by
  subst sameScanRange
  obtain ⟨schema, hash, timely⟩ := checks_of_readable readable
  simp only [InputRow.schemaVersion, InputRow.expectedSchema,
    InputRow.payload, InputRow.payloadSha256, InputRow.rawEvent?,
    Option.all_some, timeValid, Bool.and_eq_true, decide_eq_true_eq]
    at schema hash timely
  have notUntimely :
      ¬ (event.exchangeTimestampMs ≤ 0 ∨
        saturatingAdd accumulator.scanRange.endMs args.clockSkewMarginMs ≤
          event.exchangeTimestampMs) := by
    omega
  simp only [ingestRow, ingestRawEvent, BuildAccumulator.countRecord,
    noteSeen, schema, hash, notUntimely, ne_eq, not_true_eq_false, if_false]

/-- The applied event is counted as invalid if its content is. -/
theorem stats_of_applied
    (inputRange : InputRange)
    {event : RawInputEvent}
    (isSpot : isDerivativeMarketEvent event = false)
    (stats : BuildStats) :
    (if inRange inputRange event then
      if isSeeded args inputRange (eventWindowStart args event) then
        countApplied codec stats event
      else
        stats
    else
      stats) =
      if isInvalidContent codec args inputRange event then
        stats.countInvalid
      else
        stats := by
  simp only [isInvalidContent, isSpot, Bool.false_eq_true, if_false]
  cases inRange inputRange event <;>
    cases isSeeded args inputRange (eventWindowStart args event) <;>
    simp [countApplied]

/-- An event that is no metric goes to the slices of its range. -/
theorem ingestRange_sliceEvent
    {range : InputRange}
    {events : List RawInputEvent}
    {state : RangeState Number}
    (holds :
      RangeHolds codec args range
        (events.filter (isSliceEvent range)) state)
    {event : RawInputEvent}
    (isSpot : isDerivativeMarketEvent event = false) :
    RangeHolds codec args range
        ((events ++ [event]).filter (isSliceEvent range))
        (ingestRange codec args range state event) ∧
      (ingestRange codec args range state event).stats =
        if isInvalidContent codec args range event then
          state.stats.countInvalid
        else
          state.stats := by
  rw [← stats_of_applied range isSpot]
  cases within : inRange range event with
  | true =>
      obtain ⟨held, counted⟩ := ingestRange_holds holds within
      rw [List.filter_append,
        List.filter_cons_of_pos (by simp [isSliceEvent, isSpot, within]),
        List.filter_nil, if_pos rfl]
      exact ⟨held, counted⟩
  | false =>
      rw [ingestRange_of_not_inRange within, List.filter_append,
        List.filter_cons_of_neg (by simp [isSliceEvent, within]),
        List.filter_nil, List.append_nil, if_neg (by simp)]
      exact ⟨holds, rfl⟩

end Steps

section Runs

variable
  {Number : Type}
  {codec : Codec Number}
  {args : NormalizeArgs}
  {scanRange inputRange : InputRange}
  {rows : List InputRow}
  {accumulator : BuildAccumulator Number}

/-- One more schema version is noted. -/
private theorem schemaVersions_concat
    (noted :
      ∀ schemaVersion,
        (accumulator.schemaVersions.get? schemaVersion).isSome ↔
          schemaVersion ∈ rows.map InputRow.schemaVersion)
    (row : InputRow)
    (schemaVersion : String) :
    ((accumulator.schemaVersions.insert row.schemaVersion ()).get?
        schemaVersion).isSome ↔
      schemaVersion ∈ (rows ++ [row]).map InputRow.schemaVersion := by
  rw [OrderedMap.get?_insert, List.map_append, List.mem_append, ← noted,
    List.map_singleton, List.mem_singleton]
  split_ifs with same
  · simp [same]
  · simp [same]

/-- The readable rows after a row that is not readable. -/
private theorem filter_readable_unreadable
    {row : InputRow}
    (unreadable : isReadable codec args scanRange row = false) :
    (rows ++ [row]).filter (isReadable codec args scanRange) =
      rows.filter (isReadable codec args scanRange) := by
  rw [List.filter_append, List.filter_cons_of_neg (by simp [unreadable]),
    List.filter_nil, List.append_nil]

/-- The readable rows after a readable row. -/
private theorem filter_readable_readable
    {row : InputRow}
    (readable : isReadable codec args scanRange row = true) :
    (rows ++ [row]).filter (isReadable codec args scanRange) =
      rows.filter (isReadable codec args scanRange) ++ [row] := by
  rw [List.filter_append, List.filter_cons_of_pos readable,
    List.filter_nil]

/-- One more collected row. -/
private theorem filterMap_concat
    {Item : Type}
    (collect : InputRow → Option Item)
    (row : InputRow) :
    (rows ++ [row]).filterMap collect =
      rows.filterMap collect ++ (collect row).toList := by
  rw [List.filterMap_append]
  cases found : collect row with
  | none => simp [found]
  | some item => simp [found]

/-- Rows that carry no readable event change no events. -/
theorem readableEvents_of_no_event
    {row : InputRow}
    (noEvent :
      isReadable codec args scanRange row = false ∨ row.rawEvent? = none) :
    readableEvents codec args scanRange (rows ++ [row]) =
      readableEvents codec args scanRange rows := by
  cases readable : isReadable codec args scanRange row with
  | false =>
      rw [readableEvents, filter_readable_unreadable readable,
        readableEvents]
  | true =>
      have none' : row.rawEvent? = none := by
        simpa [readable] using noEvent
      rw [readableEvents, filter_readable_readable readable,
        filterMap_concat, none', Option.toList_none, List.append_nil,
        readableEvents]

/-- Rows that carry no readable event make no event fresh. -/
theorem freshEvents_of_no_event
    {row : InputRow}
    (noEvent :
      isReadable codec args scanRange row = false ∨ row.rawEvent? = none) :
    freshEvents codec args scanRange (rows ++ [row]) =
      freshEvents codec args scanRange rows := by
  rw [freshEvents, freshEvents, readableEvents_of_no_event noEvent]

/-- The readable events after a readable event. -/
theorem readableEvents_rawEvent
    {event : RawInputEvent}
    (readable :
      isReadable codec args scanRange (.rawEvent event) = true) :
    readableEvents codec args scanRange (rows ++ [.rawEvent event]) =
      readableEvents codec args scanRange rows ++ [event] := by
  rw [readableEvents, filter_readable_readable readable, filterMap_concat]
  rfl

/-- A readable event is no row of the other families. -/
private theorem filterMap_rawEvent
    {Item : Type}
    {collect : InputRow → Option Item}
    {event : RawInputEvent}
    (other : collect (.rawEvent event) = none)
    (readable :
      isReadable codec args scanRange (.rawEvent event) = true) :
    ((rows ++ [InputRow.rawEvent event]).filter
        (isReadable codec args scanRange)).filterMap collect =
      (rows.filter (isReadable codec args scanRange)).filterMap collect := by
  rw [filter_readable_readable readable, filterMap_concat, other,
    Option.toList_none, List.append_nil]

/-- A readable row has the hash that it declares. -/
private theorem hashMismatch_of_readable
    {row : InputRow}
    (readable : isReadable codec args scanRange row = true) :
    hashMismatch codec row = false := by
  simp [hashMismatch, (checks_of_readable readable).2.1]

/-- The fresh events after a readable event. -/
theorem freshEvents_rawEvent
    {event : RawInputEvent}
    (readable :
      isReadable codec args scanRange (.rawEvent event) = true) :
    freshEvents codec args scanRange (rows ++ [.rawEvent event]) =
      keepFirst (fun event => event.eventId)
        (freshEvents codec args scanRange rows) event := by
  rw [freshEvents, readableEvents_rawEvent readable, firsts_concat,
    freshEvents]

/-- What an event leaves alone, and what is noted about it. -/
private structure EventFrame
    (before : BuildAccumulator Number)
    (event : RawInputEvent)
    (after : BuildAccumulator Number) : Prop where
  inputRange : after.inputRange = before.inputRange
  scanRange : after.scanRange = before.scanRange
  projectionRange : after.projectionRange = before.projectionRange
  symbolHealth : after.symbolHealth = before.symbolHealth
  sourceHealth : after.sourceHealth = before.sourceHealth
  gapAlerts : after.gapAlerts = before.gapAlerts
  schemaVersions :
    after.schemaVersions =
      before.schemaVersions.insert event.schemaVersion ()
  seen :
    ∀ eventId,
      (after.seenEventIds.get? eventId).isSome ↔
        (before.seenEventIds.get? eventId).isSome ∨ eventId = event.eventId

/-- A noted event is seen. -/
private theorem seen_insert
    (before : BuildAccumulator Number)
    (event : RawInputEvent)
    (eventId : String) :
    ((before.seenEventIds.insert event.eventId ()).get? eventId).isSome ↔
      (before.seenEventIds.get? eventId).isSome ∨
        eventId = event.eventId := by
  rw [OrderedMap.get?_insert]
  split_ifs with same <;> simp [same]

variable [NumberFormat Number]

/-- A row that is not readable adds to the counters only. -/
private theorem buildHolds_unreadable
    (holds : BuildHolds codec args scanRange inputRange rows accumulator)
    {row : InputRow}
    (unreadable : isReadable codec args scanRange row = false) :
    BuildHolds codec args scanRange inputRange (rows ++ [row])
      (ingestRow codec args accumulator row) := by
  have kept :
      (rows ++ [row]).filter (isReadable codec args scanRange) =
        rows.filter (isReadable codec args scanRange) :=
    filter_readable_unreadable unreadable
  have sameReadable :
      readableEvents codec args scanRange (rows ++ [row]) =
        readableEvents codec args scanRange rows :=
    readableEvents_of_no_event (Or.inl unreadable)
  have fresh :
      freshEvents codec args scanRange (rows ++ [row]) =
        freshEvents codec args scanRange rows :=
    freshEvents_of_no_event (Or.inl unreadable)
  have records := holds.inputRecordCount
  have duplicates := holds.duplicateEventCount
  have invalid := holds.invalidEventCount
  have mismatches := holds.payloadHashMismatchCount
  rw [ingestRow_of_unreadable holds.sameScanRange unreadable]
  refine
    { sameInputRange := holds.sameInputRange
      sameScanRange := holds.sameScanRange
      sameProjectionRange := holds.sameProjectionRange
      input := ?_
      projection := ?_
      seen := by rw [sameReadable]; exact holds.seen
      symbolHealth := by rw [kept]; exact holds.symbolHealth
      sourceHealth := by rw [kept]; exact holds.sourceHealth
      gapAlerts := by rw [kept]; exact holds.gapAlerts
      schemaVersions := schemaVersions_concat holds.schemaVersions row
      inputRecordCount := ?_
      duplicateEventCount := ?_
      invalidEventCount := ?_
      payloadHashMismatchCount := ?_ }
  · rw [rangeEvents, fresh]
    exact ⟨holds.input.identities, holds.input.rows⟩
  · rw [rangeEvents, fresh]
    exact holds.projection
  all_goals
    simp only [sameReadable, fresh, List.length_append,
      List.length_singleton, List.countP_append, List.countP_singleton,
      unreadable, Bool.not_false, if_true]
    unfold rejectedStats
    split_ifs <;>
      simp only [BuildStats.countRecord, BuildStats.countInvalid,
        BuildStats.countHashMismatch] <;>
      omega

/-- A readable row about health or gaps is collected and counted. -/
private theorem buildHolds_side_row
    (holds : BuildHolds codec args scanRange inputRange rows accumulator)
    {row : InputRow}
    (readable : isReadable codec args scanRange row = true)
    (noEvent : row.rawEvent? = none) :
    BuildHolds codec args scanRange inputRange (rows ++ [row])
      (ingestRow codec args accumulator row) := by
  have kept :
      (rows ++ [row]).filter (isReadable codec args scanRange) =
        rows.filter (isReadable codec args scanRange) ++ [row] :=
    filter_readable_readable readable
  have sameReadable :
      readableEvents codec args scanRange (rows ++ [row]) =
        readableEvents codec args scanRange rows :=
    readableEvents_of_no_event (Or.inr noEvent)
  have fresh :
      freshEvents codec args scanRange (rows ++ [row]) =
        freshEvents codec args scanRange rows :=
    freshEvents_of_no_event (Or.inr noEvent)
  have hash := hashMismatch_of_readable readable
  have records := holds.inputRecordCount
  have duplicates := holds.duplicateEventCount
  have invalid := holds.invalidEventCount
  have mismatches := holds.payloadHashMismatchCount
  rw [ingestRow_of_side_row accumulator readable noEvent]
  refine
    { sameInputRange := holds.sameInputRange
      sameScanRange := holds.sameScanRange
      sameProjectionRange := holds.sameProjectionRange
      input := ?_
      projection := ?_
      seen := by rw [sameReadable]; exact holds.seen
      symbolHealth := by rw [kept, filterMap_concat, holds.symbolHealth]
      sourceHealth := by rw [kept, filterMap_concat, holds.sourceHealth]
      gapAlerts := by rw [kept, filterMap_concat, holds.gapAlerts]
      schemaVersions := schemaVersions_concat holds.schemaVersions row
      inputRecordCount := ?_
      duplicateEventCount := ?_
      invalidEventCount := ?_
      payloadHashMismatchCount := ?_ }
  · rw [rangeEvents, fresh]
    exact ⟨holds.input.identities, holds.input.rows⟩
  · rw [rangeEvents, fresh]
    exact holds.projection
  all_goals
    simp only [sameReadable, fresh, List.length_append,
      List.length_singleton, List.countP_append, List.countP_singleton,
      readable, hash, Bool.not_true, Bool.false_eq_true, if_false,
      BuildStats.countRecord]
    omega

/-- A readable event is described by what becomes fresh and is counted. -/
private theorem buildHolds_of_frame
    (holds : BuildHolds codec args scanRange inputRange rows accumulator)
    {event : RawInputEvent}
    (readable :
      isReadable codec args scanRange (.rawEvent event) = true)
    {after : BuildAccumulator Number}
    (framed : EventFrame accumulator event after)
    {fresh : List RawInputEvent}
    (isFresh :
      freshEvents codec args scanRange (rows ++ [.rawEvent event]) = fresh)
    (input :
      RangeHolds codec args inputRange
        (fresh.filter (isSliceEvent inputRange)) after.inputState)
    (projection :
      RangeHolds codec args (lookbackRange args inputRange)
        (fresh.filter (isSliceEvent (lookbackRange args inputRange)))
        after.projectionState)
    (records :
      after.stats.inputRecordCount =
        accumulator.stats.inputRecordCount + 1)
    (duplicates :
      after.stats.duplicateEventCount + fresh.length =
        accumulator.stats.duplicateEventCount +
          (freshEvents codec args scanRange rows).length + 1)
    (invalid :
      after.stats.invalidEventCount +
          (freshEvents codec args scanRange rows).countP
            (isInvalidContent codec args inputRange) =
        accumulator.stats.invalidEventCount +
          fresh.countP (isInvalidContent codec args inputRange))
    (mismatches :
      after.stats.payloadHashMismatchCount =
        accumulator.stats.payloadHashMismatchCount) :
    BuildHolds codec args scanRange inputRange (rows ++ [.rawEvent event])
      after := by
  have readables :
      readableEvents codec args scanRange (rows ++ [.rawEvent event]) =
        readableEvents codec args scanRange rows ++ [event] :=
    readableEvents_rawEvent readable
  have hash := hashMismatch_of_readable readable
  have recordsBefore := holds.inputRecordCount
  have duplicatesBefore := holds.duplicateEventCount
  have invalidBefore := holds.invalidEventCount
  have mismatchesBefore := holds.payloadHashMismatchCount
  refine
    { sameInputRange := framed.inputRange.trans holds.sameInputRange
      sameScanRange := framed.scanRange.trans holds.sameScanRange
      sameProjectionRange :=
        framed.projectionRange.trans holds.sameProjectionRange
      input := by rw [rangeEvents, isFresh]; exact input
      projection := by rw [rangeEvents, isFresh]; exact projection
      seen := ?_
      symbolHealth := ?_
      sourceHealth := ?_
      gapAlerts := ?_
      schemaVersions := ?_
      inputRecordCount := ?_
      duplicateEventCount := ?_
      invalidEventCount := ?_
      payloadHashMismatchCount := ?_ }
  · intro eventId
    rw [framed.seen, holds.seen, readables, List.map_append,
      List.mem_append, List.map_singleton, List.mem_singleton]
  · rw [framed.symbolHealth, holds.symbolHealth,
      filterMap_rawEvent rfl readable]
  · rw [framed.sourceHealth, holds.sourceHealth,
      filterMap_rawEvent rfl readable]
  · rw [framed.gapAlerts, holds.gapAlerts, filterMap_rawEvent rfl readable]
  · rw [framed.schemaVersions]
    exact schemaVersions_concat holds.schemaVersions (.rawEvent event)
  all_goals
    simp only [readables, isFresh, List.length_append,
      List.length_singleton, List.countP_append, List.countP_singleton,
      readable, hash, Bool.not_true, Bool.false_eq_true, if_false]
    omega

/-- An event with a known identifier is a duplicate. -/
private theorem buildHolds_duplicate
    (holds : BuildHolds codec args scanRange inputRange rows accumulator)
    {event : RawInputEvent}
    (readable :
      isReadable codec args scanRange (.rawEvent event) = true)
    (seen : (accumulator.seenEventIds.get? event.eventId).isSome) :
    BuildHolds codec args scanRange inputRange (rows ++ [.rawEvent event])
      { accumulator with
        stats := accumulator.stats.countRecord.countDuplicate
        schemaVersions :=
          accumulator.schemaVersions.insert event.schemaVersion () } := by
  have known := (holds.seen event.eventId).mp seen
  have same :
      freshEvents codec args scanRange (rows ++ [.rawEvent event]) =
        freshEvents codec args scanRange rows := by
    rw [freshEvents_rawEvent readable, keepFirst, if_pos]
    rw [freshEvents, mem_map_firsts_iff]
    exact known
  refine buildHolds_of_frame holds readable ?_ same ?_ holds.projection rfl
    ?_ rfl rfl
  · refine ⟨rfl, rfl, rfl, rfl, rfl, rfl, rfl, ?_⟩
    intro eventId
    refine ⟨Or.inl, ?_⟩
    rintro (earlier | rfl)
    · exact earlier
    · exact seen
  · exact ⟨holds.input.identities, holds.input.rows⟩
  · simp only [BuildStats.countRecord, BuildStats.countDuplicate]
    omega

/-- An event with a new identifier becomes fresh. -/
private theorem freshEvents_of_unseen
    (holds : BuildHolds codec args scanRange inputRange rows accumulator)
    {event : RawInputEvent}
    (readable :
      isReadable codec args scanRange (.rawEvent event) = true)
    (unseen : ¬ (accumulator.seenEventIds.get? event.eventId).isSome) :
    freshEvents codec args scanRange (rows ++ [.rawEvent event]) =
      freshEvents codec args scanRange rows ++ [event] := by
  rw [freshEvents_rawEvent readable, keepFirst, if_neg]
  rw [freshEvents, mem_map_firsts_iff, ← holds.seen]
  exact unseen

/-- A fresh event is counted as invalid if its content is. -/
private theorem buildHolds_fresh
    (holds : BuildHolds codec args scanRange inputRange rows accumulator)
    {event : RawInputEvent}
    (readable :
      isReadable codec args scanRange (.rawEvent event) = true)
    (unseen : ¬ (accumulator.seenEventIds.get? event.eventId).isSome)
    {after : BuildAccumulator Number}
    (framed : EventFrame accumulator event after)
    (input :
      RangeHolds codec args inputRange
        ((freshEvents codec args scanRange rows ++ [event]).filter
          (isSliceEvent inputRange))
        after.inputState)
    (projection :
      RangeHolds codec args (lookbackRange args inputRange)
        ((freshEvents codec args scanRange rows ++ [event]).filter
          (isSliceEvent (lookbackRange args inputRange)))
        after.projectionState)
    (counted :
      after.stats =
        if isInvalidContent codec args inputRange event then
          accumulator.stats.countRecord.countInvalid
        else
          accumulator.stats.countRecord) :
    BuildHolds codec args scanRange inputRange (rows ++ [.rawEvent event])
      after := by
  apply buildHolds_of_frame holds readable framed
    (freshEvents_of_unseen holds readable unseen) input projection
  all_goals
    rw [counted]
    split_ifs with content <;>
      simp [BuildStats.countRecord, BuildStats.countInvalid, content] <;>
      omega

/-- A metric is collected or counted, and changes nothing else. -/
theorem ingestDerivativeEvent_eq
    (accumulator : BuildAccumulator Number)
    (event : RawInputEvent) :
    ingestDerivativeEvent codec accumulator event =
      { accumulator with
        stats :=
          if inRange accumulator.projectionRange event &&
              (parseDerivativeMetric codec event).isNone then
            accumulator.stats.countInvalid
          else
            accumulator.stats
        projectionDerivativeMetrics :=
          if inRange accumulator.projectionRange event then
            accumulator.projectionDerivativeMetrics ++
              (parseDerivativeMetric codec event).toList
          else
            accumulator.projectionDerivativeMetrics } := by
  unfold ingestDerivativeEvent
  cases inRange accumulator.projectionRange event <;>
    cases parseDerivativeMetric codec event <;>
    simp

/-- A metric changes no slice. -/
private theorem buildHolds_derivative
    (holds : BuildHolds codec args scanRange inputRange rows accumulator)
    {event : RawInputEvent}
    (readable :
      isReadable codec args scanRange (.rawEvent event) = true)
    (unseen : ¬ (accumulator.seenEventIds.get? event.eventId).isSome)
    (derivative : isDerivativeMarketEvent event = true) :
    BuildHolds codec args scanRange inputRange (rows ++ [.rawEvent event])
      (ingestDerivativeEvent codec (noteSeen accumulator event) event) := by
  have noSlice :
      ∀ range,
        (freshEvents codec args scanRange rows ++ [event]).filter
            (isSliceEvent range) =
          rangeEvents codec args scanRange range rows := by
    intro range
    rw [List.filter_append,
      List.filter_cons_of_neg (by simp [isSliceEvent, derivative]),
      List.filter_nil, List.append_nil, rangeEvents]
  have content :
      isInvalidContent codec args inputRange event =
        (inRange accumulator.projectionRange event &&
          (parseDerivativeMetric codec event).isNone) := by
    rw [isInvalidContent, if_pos derivative, holds.sameProjectionRange]
  rw [ingestDerivativeEvent_eq]
  apply buildHolds_fresh holds readable unseen
  · exact ⟨rfl, rfl, rfl, rfl, rfl, rfl, rfl, seen_insert accumulator event⟩
  · rw [noSlice]
    exact ⟨holds.input.identities, holds.input.rows⟩
  · rw [noSlice]
    exact holds.projection
  · rw [content]
    rfl

/-- An event that is no metric goes to the slices of both ranges. -/
private theorem buildHolds_spot
    (holds : BuildHolds codec args scanRange inputRange rows accumulator)
    {event : RawInputEvent}
    (readable :
      isReadable codec args scanRange (.rawEvent event) = true)
    (unseen : ¬ (accumulator.seenEventIds.get? event.eventId).isSome)
    (isSpot : isDerivativeMarketEvent event = false) :
    BuildHolds codec args scanRange inputRange (rows ++ [.rawEvent event])
      (ingestSpotEvent codec args (noteSeen accumulator event) event) := by
  have inputBefore :
      RangeHolds codec args accumulator.inputRange
        ((freshEvents codec args scanRange rows).filter
          (isSliceEvent accumulator.inputRange))
        (noteSeen accumulator event).inputState := by
    rw [holds.sameInputRange]
    exact ⟨holds.input.identities, holds.input.rows⟩
  have projectionBefore :
      RangeHolds codec args accumulator.projectionRange
        ((freshEvents codec args scanRange rows).filter
          (isSliceEvent accumulator.projectionRange))
        (noteSeen accumulator event).projectionState := by
    rw [holds.sameProjectionRange]
    exact holds.projection
  obtain ⟨inputAfter, counted⟩ := ingestRange_sliceEvent inputBefore isSpot
  obtain ⟨projectionAfter, -⟩ :=
    ingestRange_sliceEvent projectionBefore isSpot
  rw [ingestSpotEvent, ingestInputEvent_eq, ingestProjectionEvent_eq]
  apply buildHolds_fresh holds readable unseen
  · exact ⟨rfl, rfl, rfl, rfl, rfl, rfl, rfl, seen_insert accumulator event⟩
  · rw [← holds.sameInputRange]
    exact inputAfter
  · rw [← holds.sameProjectionRange]
    exact projectionAfter
  · rw [← holds.sameInputRange]
    exact counted

/-- Reading one row keeps the description of the state. -/
theorem buildHolds_step
    (holds : BuildHolds codec args scanRange inputRange rows accumulator)
    (row : InputRow) :
    BuildHolds codec args scanRange inputRange (rows ++ [row])
      (ingestRow codec args accumulator row) := by
  cases readable : isReadable codec args scanRange row with
  | false =>
      exact buildHolds_unreadable holds readable
  | true =>
      cases row with
      | rawEvent event =>
          rw [ingestRow_rawEvent holds.sameScanRange readable]
          split_ifs with seen derivative
          · exact buildHolds_duplicate holds readable seen
          · exact buildHolds_derivative holds readable seen derivative
          · exact buildHolds_spot holds readable seen
              (by simpa using derivative)
      | symbolHealth row =>
          exact buildHolds_side_row holds readable rfl
      | sourceHealth row =>
          exact buildHolds_side_row holds readable rfl
      | gapAlert row =>
          exact buildHolds_side_row holds readable rfl

/-- After any rows the state of a build is what the rows make of it. -/
theorem buildHolds_ingestRows
    (metadata : BuildInputMetadata)
    (rows : List InputRow) :
    BuildHolds codec args scanRange inputRange rows
      (ingestRows codec args
        (BuildAccumulator.new args inputRange scanRange metadata) rows) := by
  induction rows using List.reverseRecOn with
  | nil =>
      exact buildHolds_nil codec args scanRange inputRange metadata
  | append_singleton rows row inductionHypothesis =>
      rw [ingestRows, List.foldl_append]
      exact buildHolds_step inductionHypothesis row

end Runs

end MarketIngest.Build
