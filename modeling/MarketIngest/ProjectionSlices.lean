import MarketIngest.RowAccounting

namespace MarketIngest.Build

open Normalize

/-!
# Slices of the projections

The projections look back before the input range.  Their slices are seeded
window by window from the start of the lookback, while an event is looked up
under the multiple of the window length below its timestamp.  The two agree
exactly if the lookback is a whole number of windows.
-/

section Seeding

variable
  {args : NormalizeArgs}
  {inputRange : InputRange}

/-- The lookback of an accepted range does not saturate. -/
theorem lookbackRange_startMs
    (nonneg : 0 ≤ inputRange.startMs)
    (representable : inputRange.startMs ≤ i64Max) :
    (lookbackRange args inputRange).startMs =
      inputRange.startMs - args.projectionLookbackMs.1 := by
  have positive := args.projectionLookbackMs.2.1
  have bounded := args.projectionLookbackMs.2.2
  refine saturatingSub_of_mem ?_ ?_
  · simp only [i64Min, i64Max] at *
    omega
  · omega

/-- The lookback of an accepted range starts at a representable time. -/
theorem lookbackRange_representable
    (nonneg : 0 ≤ inputRange.startMs)
    (representable : inputRange.startMs ≤ i64Max) :
    i64Min ≤ (lookbackRange args inputRange).startMs := by
  have bounded := args.projectionLookbackMs.2.2
  rw [lookbackRange_startMs nonneg representable]
  simp only [i64Min, i64Max] at *
  omega

/-- The window of an event is seeded if the lookback is in whole windows. -/
theorem isSeeded_lookback_iff
    {interval : Int}
    (accepted :
      validateRange inputRange.startMs inputRange.endMs args.windowMs
        interval = .ok ())
    (endRepresentable : inputRange.endMs ≤ i64Max)
    {event : RawInputEvent}
    (within : inRange (lookbackRange args inputRange) event = true) :
    isSeeded args (lookbackRange args inputRange)
        (eventWindowStart args event) = true ↔
      args.windowMs.1 ∣ args.projectionLookbackMs.1 := by
  have windowPositive := args.windowMs.2.1
  obtain ⟨nonneg, nonempty⟩ := bounds_of_validateRange accepted
  obtain ⟨_, startAligned, -⟩ :=
    windowAligned_of_validateRange windowPositive accepted
  have startRepresentable : inputRange.startMs ≤ i64Max := by
    omega
  have isStart :
      (lookbackRange args inputRange).startMs =
        inputRange.startMs - args.projectionLookbackMs.1 :=
    lookbackRange_startMs nonneg startRepresentable
  rw [isSeeded_iff_of_representable
    (lookbackRange_representable nonneg startRepresentable)
    endRepresentable, isStart]
  simp only [inRange, Bool.and_eq_true, decide_eq_true_eq, isStart] at within
  have window :
      eventWindowStart args event ≤ event.exchangeTimestampMs :=
    Int.ediv_mul_le _ windowPositive.ne'
  have onGrid : args.windowMs.1 ∣ eventWindowStart args event :=
    Int.dvd_mul_left _ _
  constructor
  · rintro ⟨-, -, aligned⟩
    have sum :=
      Int.dvd_add aligned (Int.dvd_sub startAligned onGrid)
    have whole :
        eventWindowStart args event -
              (inputRange.startMs - args.projectionLookbackMs.1) +
            (inputRange.startMs - eventWindowStart args event) =
          args.projectionLookbackMs.1 := by
      omega
    rwa [whole] at sum
  · intro wholeWindows
    have lookbackAligned := Int.dvd_sub startAligned wholeWindows
    refine ⟨?_, ?_, Int.dvd_sub onGrid lookbackAligned⟩
    · -- The start of the lookback is on the grid and not after the event.
      obtain ⟨first, isFirst⟩ := lookbackAligned
      have lower : first ≤ event.exchangeTimestampMs / args.windowMs.1 := by
        rw [Int.le_ediv_iff_mul_le windowPositive, Int.mul_comm, ← isFirst]
        exact within.1
      rw [isFirst, eventWindowStart, Int.mul_comm args.windowMs.1]
      exact Int.mul_le_mul_of_nonneg_right lower windowPositive.le
    · have before : event.exchangeTimestampMs < inputRange.endMs :=
        within.2
      have same :
          (lookbackRange args inputRange).endMs = inputRange.endMs :=
        rfl
      omega

end Seeding

section Slices

variable
  {Number : Type}
  [NumberFormat Number]
  {codec : Codec Number}
  {args : NormalizeArgs}
  {scanRange inputRange : InputRange}
  {rows : List InputRow}
  {accumulator : BuildAccumulator Number}

/-- The keys of the finished slices are those of the stored ones. -/
theorem projectionSlices_keys
    (holds : BuildHolds codec args scanRange inputRange rows accumulator) :
    accumulator.finish.projectionSlices.map SliceRow.key =
      accumulator.projectionRows.keys :=
  finishSlices_keys accumulator accumulator.projectionRange
    fun _ _ => holds.projection.key_of_entry

/-- Finished slices of the projections account for the events they were given. -/
theorem rowAccounts_of_mem_projectionSlices
    (holds : BuildHolds codec args scanRange inputRange rows accumulator)
    {finished : SliceRow Number}
    (member : finished ∈ accumulator.finish.projectionSlices) :
    RowAccounts codec
      ((rangeEvents codec args scanRange (lookbackRange args inputRange)
          rows).filter
        (fun event => eventSliceKey args event = finished.key))
      finished :=
  rowAccounts_of_mem_finishSlices holds.projection member

/-- A symbol with events has a slice for every seeded window. -/
theorem sliceKey_mem_projectionKeys_iff
    (holds : BuildHolds codec args scanRange inputRange rows accumulator)
    {venue symbolCanonical : String}
    {windowStartMs : Int} :
    sliceKey venue symbolCanonical windowStartMs ∈
        accumulator.projectionRows.keys ↔
      (firstIdentity
          (rangeEvents codec args scanRange (lookbackRange args inputRange)
            rows)
          venue symbolCanonical).isSome ∧
        isSeeded args (lookbackRange args inputRange) windowStartMs =
          true := by
  have held :
      accumulator.projectionRows.get?
          (sliceKey venue symbolCanonical windowStartMs) = _ :=
    holds.projection.rows venue symbolCanonical windowStartMs
  rw [OrderedMap.mem_keys_iff, held, sliceAfter]
  split_ifs with seeded
  · simp [seeded, Option.isSome_iff_exists]
  · simp [seeded]

end Slices

section Fresh

variable
  {Number : Type}
  {codec : Codec Number}
  {args : NormalizeArgs}
  {scanRange range : InputRange}
  {event : RawInputEvent}

/-- A fresh readable event is among the events of its range. -/
theorem mem_rangeEvents_of_fresh
    {history : List InputRow}
    (readable : isReadable codec args scanRange (.rawEvent event) = true)
    (fresh :
      event.eventId ∉
        (readableEvents codec args scanRange history).map
          (fun earlier => earlier.eventId))
    (isSpot : isDerivativeMarketEvent event = false)
    (within : inRange range event = true)
    (later : List InputRow) :
    event ∈
      rangeEvents codec args scanRange range
        (history ++ .rawEvent event :: later) := by
  have split :
      readableEvents codec args scanRange
          (history ++ .rawEvent event :: later) =
        readableEvents codec args scanRange history ++
          event :: readableEvents codec args scanRange later := by
    rw [readableEvents, List.filter_append,
      List.filter_cons_of_pos readable, List.filterMap_append]
    rfl
  refine List.mem_filter.mpr ⟨?_, ?_⟩
  · rw [freshEvents, split]
    exact mem_firsts_of_new fresh
  · rw [isSliceEvent, isSpot, within]
    rfl

/-- The identifier of an event of a range is there once. -/
theorem count_rangeEvents
    {rows : List InputRow}
    (member : event ∈ rangeEvents codec args scanRange range rows) :
    ((rangeEvents codec args scanRange range rows).map
      (fun other => other.eventId)).count event.eventId = 1 := by
  have distinct :
      ((freshEvents codec args scanRange rows).map
        (fun other => other.eventId)).Nodup :=
    firsts_nodup _
  refine List.count_eq_one_of_mem ?_ (List.mem_map_of_mem member)
  exact distinct.sublist (List.filter_sublist.map _)

/-- The symbol of an event has an identity. -/
theorem firstIdentity_isSome_of_mem
    {events : List RawInputEvent}
    (member : event ∈ events) :
    (firstIdentity events event.venue event.symbolCanonical).isSome := by
  rw [firstIdentity, Option.isSome_map, List.find?_isSome]
  exact ⟨event, member, by simp [identityKey]⟩

end Fresh

section Counting

variable
  {Number : Type}
  [NumberFormat Number]

/-- An event of the projections finds its slice and is counted in it alone. -/
structure CountedByProjection
    (codec : Codec Number)
    (args : NormalizeArgs)
    (scanRange inputRange : InputRange)
    (metadata : BuildInputMetadata)
    (history : List InputRow)
    (event : RawInputEvent)
    (later : List InputRow) : Prop where
  found :
    let before :=
      ingestRows codec args
        (BuildAccumulator.new args inputRange scanRange metadata) history
    ((ensureIdentity codec args before.projectionRange event
        before.projectionIdentities before.projectionRows).2.get?
      (eventSliceKey args event)).isSome
  slice :
    (((ingestRows codec args
          (BuildAccumulator.new args inputRange scanRange metadata)
          (history ++ .rawEvent event :: later)).finish.projectionSlices.map
        SliceRow.key).count (eventSliceKey args event)) = 1
  accounts :
    ∀ row ∈
      (ingestRows codec args
        (BuildAccumulator.new args inputRange scanRange metadata)
        (history ++ .rawEvent event :: later)).finish.projectionSlices,
      RowAccounts codec
        ((rangeEvents codec args scanRange (lookbackRange args inputRange)
            (history ++ .rawEvent event :: later)).filter
          (fun other => eventSliceKey args other = row.key))
        row
  member :
    event ∈
      rangeEvents codec args scanRange (lookbackRange args inputRange)
        (history ++ .rawEvent event :: later)
  once :
    ((rangeEvents codec args scanRange (lookbackRange args inputRange)
        (history ++ .rawEvent event :: later)).map
      (fun other => other.eventId)).count event.eventId = 1

variable
  {codec : Codec Number}
  {args : NormalizeArgs}
  {scanRange inputRange : InputRange}

/-- An event finds a slice exactly if its window was seeded. -/
private theorem projectionRow_found_iff
    {history : List InputRow}
    {before : BuildAccumulator Number}
    (holds : BuildHolds codec args scanRange inputRange history before)
    (event : RawInputEvent) :
    ((ensureIdentity codec args before.projectionRange event
          before.projectionIdentities before.projectionRows).2.get?
        (eventSliceKey args event)).isSome ↔
      isSeeded args (lookbackRange args inputRange)
        (eventWindowStart args event) = true := by
  have spec :=
    (ensureIdentity_spec holds.projection event).2 event.venue
      event.symbolCanonical (eventWindowStart args event)
  have known := firstIdentity_isSome_of_last
    (rangeEvents codec args scanRange (lookbackRange args inputRange)
      history) event
  have looked := congrArg Option.isSome spec
  rw [sliceAfter] at looked
  rw [holds.sameProjectionRange]
  refine (Bool.coe_iff_coe.mpr looked).trans ?_
  split_ifs with seeded
  · simp [seeded, known]
  · simp [seeded]

/--
An event of the projections is counted in exactly one of their slices if and
only if the lookback is a whole number of windows.
-/
theorem projectionEvents_counted_iff
    (codec : Codec Number)
    (args : NormalizeArgs)
    (scanRange inputRange : InputRange)
    (interval : Int)
    (accepted :
      validateRange inputRange.startMs inputRange.endMs args.windowMs
        interval = .ok ())
    (endRepresentable : inputRange.endMs ≤ i64Max)
    (metadata : BuildInputMetadata)
    (history : List InputRow)
    (event : RawInputEvent)
    (readable : isReadable codec args scanRange (.rawEvent event) = true)
    (fresh :
      event.eventId ∉
        (readableEvents codec args scanRange history).map
          (fun earlier => earlier.eventId))
    (isSpot : isDerivativeMarketEvent event = false)
    (within : inRange (lookbackRange args inputRange) event = true)
    (later : List InputRow) :
    CountedByProjection codec args scanRange inputRange metadata history
        event later ↔
      args.windowMs.1 ∣ args.projectionLookbackMs.1 := by
  have before :
      BuildHolds codec args scanRange inputRange history
        (ingestRows codec args
          (BuildAccumulator.new args inputRange scanRange metadata)
          history) :=
    buildHolds_ingestRows metadata history
  rw [← isSeeded_lookback_iff accepted endRepresentable within]
  constructor
  · intro counted
    exact (projectionRow_found_iff before event).mp counted.found
  · intro seeded
    have member :=
      mem_rangeEvents_of_fresh readable fresh isSpot within later
    have after :
        BuildHolds codec args scanRange inputRange
          (history ++ .rawEvent event :: later)
          (ingestRows codec args
            (BuildAccumulator.new args inputRange scanRange metadata)
            (history ++ .rawEvent event :: later)) :=
      buildHolds_ingestRows metadata _
    refine
      { found := (projectionRow_found_iff before event).mpr seeded
        slice := ?_
        accounts := fun row => rowAccounts_of_mem_projectionSlices after
        member := member
        once := count_rangeEvents member }
    rw [projectionSlices_keys after]
    refine List.count_eq_one_of_mem (OrderedMap.keys_nodup _) ?_
    exact (sliceKey_mem_projectionKeys_iff after).mpr
      ⟨firstIdentity_isSome_of_mem member, seeded⟩

/-- With the default lookback a trade is counted. -/
theorem btcTrade_projected :
    validateRange 0 1000 NormalizeArgs.withDefaults.windowMs 1000 =
        .ok () ∧
      CountedByProjection btcCodec .withDefaults ⟨0, 1000⟩ ⟨0, 1000⟩
        oneObject [] (btcTrade "t-1") [] := by
  have accepted :
      validateRange 0 1000 NormalizeArgs.withDefaults.windowMs 1000 =
        .ok () := by
    decide
  exact ⟨accepted,
    (projectionEvents_counted_iff btcCodec .withDefaults ⟨0, 1000⟩
      ⟨0, 1000⟩ 1000 accepted (by decide) oneObject [] (btcTrade "t-1")
      (by decide) (List.not_mem_nil) (by decide) (by decide) []).mpr
      (by decide)⟩

/-- Accepted arguments with a lookback of one and a half windows. -/
def halfWindowArgs : NormalizeArgs :=
  { namedBucketArgs with
    projectionLookbackMs := ⟨1500, by decide⟩ }

/-- A trade in the first window of the input range. -/
def firstWindowTrade : RawInputEvent :=
  { btcTrade "t-1" with
    exchangeTimestampMs := 900500
    ingestTimestampMs := 900510 }

/-- With a lookback of one and a half windows the trade is dropped. -/
theorem firstWindowTrade_dropped :
    validateParsedArgs halfWindowArgs = .ok () ∧
      validateRange 900000 1800000 halfWindowArgs.windowMs
          halfWindowArgs.scheduleIntervalMs = .ok () ∧
      isReadable btcCodec halfWindowArgs ⟨600000, 2100000⟩
          (.rawEvent firstWindowTrade) = true ∧
      isDerivativeMarketEvent firstWindowTrade = false ∧
      inRange (lookbackRange halfWindowArgs ⟨900000, 1800000⟩)
          firstWindowTrade = true ∧
      ¬ CountedByProjection btcCodec halfWindowArgs ⟨600000, 2100000⟩
          ⟨900000, 1800000⟩ oneObject [] firstWindowTrade [] := by
  have accepted :
      validateRange 900000 1800000 halfWindowArgs.windowMs
        halfWindowArgs.scheduleIntervalMs = .ok () := by
    decide
  have within :
      inRange (lookbackRange halfWindowArgs ⟨900000, 1800000⟩)
        firstWindowTrade = true := by
    decide
  refine ⟨by decide, accepted, by decide, by decide, within, ?_⟩
  intro counted
  have seeded :=
    (projectionRow_found_iff (buildHolds_ingestRows oneObject [])
      firstWindowTrade).mp counted.found
  have wholeWindows :
      halfWindowArgs.windowMs.1 ∣ halfWindowArgs.projectionLookbackMs.1 :=
    (isSeeded_lookback_iff accepted (by decide) within).mp seeded
  exact absurd wholeWindows (by decide)

end Counting

end MarketIngest.Build
