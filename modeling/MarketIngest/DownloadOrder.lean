import MarketIngest.RowAccounting

namespace MarketIngest.Build

open Normalize

/-!
# Downloads in any order

The streaming build reads files in the order in which their downloads complete.
The batch build reads all raw events first and then the other families.  Both
read the same rows, and what they publish depends on the rows only: events are
deduplicated by identifier, slices are finished from sorted lists, and counters
count rows.
-/

/-- Notes depend on sets of reasons and parents only. -/
theorem noted_congr
    {Number : Type}
    {row other : SliceRow Number}
    (same :
      other =
        { row with
          missingReasons := other.missingReasons
          parentEventIds := other.parentEventIds
          parentRunIds := other.parentRunIds })
    (sameReasons :
      ∀ reason, reason ∈ other.missingReasons ↔ reason ∈ row.missingReasons)
    (sameEvents :
      ∀ eventId,
        eventId ∈ other.parentEventIds ↔ eventId ∈ row.parentEventIds)
    (sameRuns :
      ∀ runId, runId ∈ other.parentRunIds ↔ runId ∈ row.parentRunIds) :
    noted other = noted row := by
  have silence : silenceReasons other = silenceReasons row := by
    rw [same]
    rfl
  have top : missingTopReasons other = missingTopReasons row := by
    rw [same]
    rfl
  have reasons :
      sortDedup
          (other.missingReasons ++ silenceReasons row ++
            missingTopReasons row) =
        sortDedup
          (row.missingReasons ++ silenceReasons row ++
            missingTopReasons row) := by
    apply sortDedup_eq_of_mem_iff
    intro reason
    simp only [List.mem_append, sameReasons]
  unfold noted
  rw [silence, top, reasons, sortDedup_eq_of_mem_iff sameEvents,
    sortDedup_eq_of_mem_iff sameRuns, same]

/-- Ordering a slice after health and gaps were attached. -/
theorem normalizeEventOrder_applyHealth
    {Number : Type}
    (symbolHealth : List SymbolHealthInput)
    (sourceHealth : List SourceHealthInput)
    (gapAlerts : List GapAlertInput)
    (range : InputRange)
    (row : SliceRow Number) :
    normalizeEventOrder
        (applyHealthAndGapsToRow symbolHealth sourceHealth gapAlerts range
          row) =
      { normalizeEventOrder row with
        symbolHealthSnapshot := latestSymbolHealth symbolHealth row
        sourceHealthSnapshot := latestSourceHealth sourceHealth row
        qualityStale :=
          row.qualityStale +
            staleCount (latestSymbolHealth symbolHealth row)
              row.windowStartMs
        qualityGap :=
          row.qualityGap + (gapReasons gapAlerts row range).length
        missingReasons :=
          row.missingReasons ++
            symbolHealthReasons (latestSymbolHealth symbolHealth row)
              row.windowStartMs ++
            sourceHealthReasons (latestSourceHealth sourceHealth row) ++
            gapReasons gapAlerts row range } := by
  rw [applyHealthAndGapsToRow_eq]
  rfl

section Summaries

variable
  {Number : Type}
  [NumberFormat Number]
  {codec : Codec Number}
  {args : NormalizeArgs}

/-- What is derived from events with different identifiers is told apart by
the identifier. -/
theorem eq_of_sameId
    {Item : Type}
    {derive' : RawInputEvent → Option Item}
    {idOf : Item → String}
    (refers :
      ∀ event item, derive' event = some item → idOf item = event.eventId)
    {events : List RawInputEvent}
    (distinct : (events.map (fun event => event.eventId)).Nodup)
    {one other : Item}
    (oneMember : one ∈ events.filterMap derive')
    (otherMember : other ∈ events.filterMap derive')
    (sameId : idOf one = idOf other) :
    one = other := by
  obtain ⟨oneEvent, oneAmong, oneDerived⟩ := List.mem_filterMap.mp oneMember
  obtain ⟨otherEvent, otherAmong, otherDerived⟩ :=
    List.mem_filterMap.mp otherMember
  have sameEvent : oneEvent = otherEvent := by
    apply List.inj_on_of_nodup_map distinct oneAmong otherAmong
    rw [← refers _ _ oneDerived, ← refers _ _ otherDerived, sameId]
  rw [sameEvent, otherDerived] at oneDerived
  exact (Option.some.inj oneDerived).symm

/-- Derived items sort in one way if the identifier is part of their key. -/
theorem sortBy_filterMap_eq_of_perm
    {Item Key : Type}
    [LinearOrder Key]
    {derive' : RawInputEvent → Option Item}
    {idOf : Item → String}
    {key : Item → Key}
    (refers :
      ∀ event item, derive' event = some item → idOf item = event.eventId)
    (keyed : ∀ one other, key one = key other → idOf one = idOf other)
    {first second : List RawInputEvent}
    (permuted : first.Perm second)
    (distinct : (first.map (fun event => event.eventId)).Nodup) :
    sortBy key (first.filterMap derive') =
      sortBy key (second.filterMap derive') := by
  apply sortBy_eq_of_perm (permuted.filterMap derive')
  intro one oneMember other otherMember sameKey
  exact eq_of_sameId refers distinct oneMember otherMember
    (keyed one other sameKey)

/-- The last of the sorted items replaces the last of the unsorted ones. -/
theorem getLast?_sortBy_or
    {Item Key Value : Type}
    [LinearOrder Key]
    (key : Item → Key)
    (value : Item → Value)
    (items : List Item) :
    ((sortBy key items).getLast?.map value).or
        ((items.getLast?.map value).or none) =
      (sortBy key items).getLast?.map value := by
  cases sorted : (sortBy key items).getLast? with
  | some last =>
      rfl
  | none =>
      have nothing : items = [] := by
        rw [List.getLast?_eq_none_iff] at sorted
        exact ((sorted ▸ sortBy_perm key items).nil_eq).symm
      rw [nothing]
      rfl

/-- A seeded slice with its events in order. -/
theorem normalizeEventOrder_summarize
    (identity : Identity)
    (windowStartMs : Int)
    (events : List RawInputEvent) :
    normalizeEventOrder
        (summarize codec args (emptySlice codec args identity windowStartMs)
          events) =
      { summarize codec args (emptySlice codec args identity windowStartMs)
          events with
        tradeEvents :=
          sortBy tradeOrderKey (events.filterMap (tradeOf codec))
        lastTradePrice :=
          (sortBy tradeOrderKey
            (events.filterMap (tradeOf codec))).getLast?.map
            (fun trade => trade.price)
        lastTradeSize :=
          (sortBy tradeOrderKey
            (events.filterMap (tradeOf codec))).getLast?.map
            (fun trade => trade.quantity)
        bookTickerEvents :=
          sortBy bookOrderKey (events.filterMap (bookOf codec))
        bestBid :=
          (sortBy bookOrderKey
            (events.filterMap (bookOf codec))).getLast?.map
            (fun book => book.bestBid)
        bestAsk :=
          (sortBy bookOrderKey
            (events.filterMap (bookOf codec))).getLast?.map
            (fun book => book.bestAsk)
        depthEvents := sortBy compactOrderKey (events.filterMap depthOf)
        tickerEvents := sortBy compactOrderKey (events.filterMap tickerOf) } := by
  simp only [normalizeEventOrder, summarize, emptySlice, List.nil_append,
    getLast?_sortBy_or]

/-- Trades refer to their events. -/
theorem parentEventId_of_tradeOf
    (event : RawInputEvent)
    (trade : TradeNormalized Number)
    (derived : tradeOf codec event = some trade) :
    trade.parentEventId = event.eventId := by
  unfold tradeOf at derived
  split_ifs at derived
  exact parentEventId_of_parseTrade codec derived

/-- Tops of the book refer to their events. -/
theorem parentEventId_of_bookOf
    (event : RawInputEvent)
    (book : BookTickerNormalized Number)
    (derived : bookOf codec event = some book) :
    book.parentEventId = event.eventId := by
  unfold bookOf at derived
  split_ifs at derived
  exact parentEventId_of_parseBookTicker codec derived

/-- Depth references refer to their events. -/
private theorem parentEventId_of_depthOf
    (event : RawInputEvent)
    (reference : CompactEventRef)
    (derived : depthOf event = some reference) :
    reference.parentEventId = event.eventId := by
  unfold depthOf at derived
  split_ifs at derived
  rw [← Option.some.inj derived]
  rfl

/-- Ticker references refer to their events. -/
private theorem parentEventId_of_tickerOf
    (event : RawInputEvent)
    (reference : CompactEventRef)
    (derived : tickerOf event = some reference) :
    reference.parentEventId = event.eventId := by
  unfold tickerOf at derived
  split_ifs at derived
  rw [← Option.some.inj derived]
  rfl

/-- Quantities of the trades among events, in their order. -/
def tradeQuantities
    (codec : Codec Number)
    (events : List RawInputEvent) : List Number :=
  (events.filterMap (tradeOf codec)).map (fun trade => trade.quantity)

/-- The ordered slice depends on the order of its events only in what becomes
a set later. -/
theorem normalizeEventOrder_eq_of_perm
    (identity : Identity)
    (windowStartMs : Int)
    {first second : List RawInputEvent}
    (permuted : first.Perm second)
    (distinct : (first.map (fun event => event.eventId)).Nodup)
    (sameVolume :
      sumOf (tradeQuantities codec first) =
        sumOf (tradeQuantities codec second)) :
    normalizeEventOrder
        (summarize codec args (emptySlice codec args identity windowStartMs)
          second) =
      { normalizeEventOrder
          (summarize codec args (emptySlice codec args identity windowStartMs)
            first) with
        missingReasons := second.filterMap (invalidReason codec)
        parentEventIds :=
          (second.flatMap (parentsOf codec)).map (fun event => event.eventId)
        parentRunIds :=
          (second.flatMap (parentsOf codec)).map
            (fun event => event.producerRunId) } := by
  have trades :
      sortBy tradeOrderKey (first.filterMap (tradeOf codec)) =
        sortBy tradeOrderKey (second.filterMap (tradeOf codec)) := by
    apply sortBy_filterMap_eq_of_perm parentEventId_of_tradeOf _ permuted
      distinct
    intro one other sameKey
    simp only [tradeOrderKey, EmbeddingLike.apply_eq_iff_eq,
      Prod.mk.injEq] at sameKey
    exact sameKey.2.2.2
  have books :
      sortBy bookOrderKey (first.filterMap (bookOf codec)) =
        sortBy bookOrderKey (second.filterMap (bookOf codec)) := by
    apply sortBy_filterMap_eq_of_perm parentEventId_of_bookOf _ permuted
      distinct
    intro one other sameKey
    simp only [bookOrderKey, EmbeddingLike.apply_eq_iff_eq,
      Prod.mk.injEq] at sameKey
    exact sameKey.2.2.2
  have compactKeyed :
      ∀ one other, compactOrderKey one = compactOrderKey other →
        one.parentEventId = other.parentEventId := by
    intro one other sameKey
    simp only [compactOrderKey, EmbeddingLike.apply_eq_iff_eq,
      Prod.mk.injEq] at sameKey
    exact sameKey.2.2
  have depths :=
    sortBy_filterMap_eq_of_perm parentEventId_of_depthOf compactKeyed
      permuted distinct
  have tickers :=
    sortBy_filterMap_eq_of_perm parentEventId_of_tickerOf compactKeyed
      permuted distinct
  have volume :
      ((first.filterMap (tradeOf codec)).map
          (fun trade => trade.quantity)).foldl
          (fun sum quantity => sum + quantity) 0 =
        ((second.filterMap (tradeOf codec)).map
          (fun trade => trade.quantity)).foldl
          (fun sum quantity => sum + quantity) 0 :=
    sameVolume
  rw [normalizeEventOrder_summarize, normalizeEventOrder_summarize, ← trades,
    ← books, ← depths, ← tickers]
  simp only [summarize, emptySlice, List.nil_append, volume,
    (permuted.filterMap (tradeOf codec)).length_eq,
    (permuted.filterMap (bookOf codec)).length_eq,
    (permuted.filterMap depthOf).length_eq, permuted.countP_eq]

/-- A finished slice does not depend on the order of anything it is made of. -/
theorem finished_eq_of_perm
    (identity : Identity)
    (windowStartMs : Int)
    (range : InputRange)
    {first second : List RawInputEvent}
    (permuted : first.Perm second)
    (distinct : (first.map (fun event => event.eventId)).Nodup)
    (sameVolume :
      sumOf (tradeQuantities codec first) =
        sumOf (tradeQuantities codec second))
    {symbolFirst symbolSecond : List SymbolHealthInput}
    (symbolAgree : SymbolTiesAgree symbolFirst)
    (symbolPermuted : symbolFirst.Perm symbolSecond)
    {sourceFirst sourceSecond : List SourceHealthInput}
    (sourceAgree : SourceTiesAgree sourceFirst)
    (sourcePermuted : sourceFirst.Perm sourceSecond)
    {gapsFirst gapsSecond : List GapAlertInput}
    (gapsPermuted : gapsFirst.Perm gapsSecond) :
    finalizeSlice
        (applyHealthAndGapsToRow symbolFirst sourceFirst gapsFirst range
          (summarize codec args
            (emptySlice codec args identity windowStartMs) first)) =
      finalizeSlice
        (applyHealthAndGapsToRow symbolSecond sourceSecond gapsSecond range
          (summarize codec args
            (emptySlice codec args identity windowStartMs) second)) := by
  have symbol :
      latestSymbolHealth symbolFirst
          (summarize codec args
            (emptySlice codec args identity windowStartMs) first) =
        latestSymbolHealth symbolSecond
          (summarize codec args
            (emptySlice codec args identity windowStartMs) second) :=
    latestSymbolHealth_eq_of_perm symbolAgree symbolPermuted _
  have source :
      latestSourceHealth sourceFirst
          (summarize codec args
            (emptySlice codec args identity windowStartMs) first) =
        latestSourceHealth sourceSecond
          (summarize codec args
            (emptySlice codec args identity windowStartMs) second) :=
    latestSourceHealth_eq_of_perm sourceAgree sourcePermuted _
  have gaps :
      (gapReasons gapsFirst
          (summarize codec args
            (emptySlice codec args identity windowStartMs) first)
          range).Perm
        (gapReasons gapsSecond
          (summarize codec args
            (emptySlice codec args identity windowStartMs) second)
          range) :=
    (gapsPermuted.filter _).map _
  have same :
      noted
          (normalizeEventOrder
            (applyHealthAndGapsToRow symbolFirst sourceFirst gapsFirst range
              (summarize codec args
                (emptySlice codec args identity windowStartMs) first))) =
        noted
          (normalizeEventOrder
            (applyHealthAndGapsToRow symbolSecond sourceSecond gapsSecond
              range
              (summarize codec args
                (emptySlice codec args identity windowStartMs)
                second))) := by
    rw [normalizeEventOrder_applyHealth, normalizeEventOrder_applyHealth,
      normalizeEventOrder_eq_of_perm identity windowStartMs permuted distinct
        sameVolume, ← symbol, ← source, ← gaps.length_eq]
    symm
    refine noted_congr rfl ?_ ?_ ?_
    · intro reason
      simp only [List.mem_append, gaps.mem_iff]
      simp only [summarize, emptySlice, List.nil_append,
        (permuted.filterMap (invalidReason codec)).mem_iff]
    · intro eventId
      exact ((permuted.flatMap_right (parentsOf codec)).map _).symm.mem_iff
    · intro runId
      exact ((permuted.flatMap_right (parentsOf codec)).map _).symm.mem_iff
  rw [finalizeSlice_eq, finalizeSlice_eq, same]

end Summaries

/-- The decoded rows of a range, by family. -/
structure NormalizeInputs where
  rawEvents : List RawInputEvent
  symbolHealth : List SymbolHealthInput
  sourceHealth : List SourceHealthInput
  gapAlerts : List GapAlertInput
  metadata : BuildInputMetadata

/-- The rows of files, collected by family in file order. -/
def NormalizeInputs.ofFiles
    (files : List (List InputRow))
    (metadata : BuildInputMetadata) : NormalizeInputs where
  rawEvents := files.flatten.filterMap InputRow.rawEvent?
  symbolHealth := files.flatten.filterMap InputRow.symbolHealth?
  sourceHealth := files.flatten.filterMap InputRow.sourceHealth?
  gapAlerts := files.flatten.filterMap InputRow.gapAlert?
  metadata := metadata

section Builds

variable
  {Number : Type}
  [NumberFormat Number]
  (codec : Codec Number)
  (args : NormalizeArgs)
  (inputRange scanRange : InputRange)

/-- Build the slices of a range from collected rows. -/
def buildSlices (inputs : NormalizeInputs) : BuildResult Number :=
  let started :=
    BuildAccumulator.new args inputRange scanRange inputs.metadata
  let withEvents :=
    inputs.rawEvents.foldl (ingestRawEvent codec args) started
  let withSymbols :=
    inputs.symbolHealth.foldl (ingestSymbolHealth codec) withEvents
  let withSources :=
    inputs.sourceHealth.foldl (ingestSourceHealth codec) withSymbols
  (inputs.gapAlerts.foldl (ingestGapAlert codec) withSources).finish

/-- Build the slices of a range from files as their downloads complete. -/
def foldRange
    (metadata : BuildInputMetadata)
    (completed : List (List InputRow)) : BuildResult Number :=
  (completed.foldl
    (fun accumulator file => file.foldl (ingestRow codec args) accumulator)
    (BuildAccumulator.new args inputRange scanRange metadata)).finish

/-- Two builds publish the same, apart from derivative metrics. -/
structure SameBuild (first second : BuildResult Number) : Prop where
  slices : first.slices = second.slices
  projectionSlices : first.projectionSlices = second.projectionSlices
  status : first.status = second.status
  inputRecordCount : first.inputRecordCount = second.inputRecordCount
  duplicateEventCount :
    first.duplicateEventCount = second.duplicateEventCount
  invalidEventCount : first.invalidEventCount = second.invalidEventCount
  payloadHashMismatchCount :
    first.payloadHashMismatchCount = second.payloadHashMismatchCount
  inputSchemaVersions :
    first.inputSchemaVersions = second.inputSchemaVersions

/-- The rows do not contradict each other. -/
structure ConsistentRows (rows : List InputRow) : Prop where
  events :
    ∀ one ∈ rows.filterMap InputRow.rawEvent?,
      ∀ other ∈ rows.filterMap InputRow.rawEvent?,
        one.eventId = other.eventId → one = other
  identities :
    ∀ one ∈ rows.filterMap InputRow.rawEvent?,
      ∀ other ∈ rows.filterMap InputRow.rawEvent?,
        identityKey one = identityKey other →
        Identity.fromEvent one = Identity.fromEvent other
  symbolHealth :
    (rows.filterMap InputRow.symbolHealth?).Pairwise (fun one other =>
      one.venue = other.venue → one.symbolNative = other.symbolNative →
      one.observedAtMs ≠ other.observedAtMs)
  sourceHealth :
    (rows.filterMap InputRow.sourceHealth?).Pairwise (fun one other =>
      one.venue = other.venue → one.observedAtMs ≠ other.observedAtMs)

/-- The volume of every slice is added up exactly. -/
def ExactVolumes (rows : List InputRow) : Prop :=
  ∀ key,
    ExactSums
      (tradeQuantities codec
        ((freshEvents codec args scanRange rows).filter (fun event =>
          eventSliceKey args event = key)))

/-- The streaming build reads the rows of the files one after the other. -/
theorem foldRange_eq
    (metadata : BuildInputMetadata)
    (completed : List (List InputRow)) :
    foldRange codec args inputRange scanRange metadata completed =
      (ingestRows codec args
        (BuildAccumulator.new args inputRange scanRange metadata)
        completed.flatten).finish := by
  rw [foldRange, ingestRows, List.foldl_flatten]

/-- The rows in the order in which the batch build reads them. -/
def NormalizeInputs.rows (inputs : NormalizeInputs) : List InputRow :=
  inputs.rawEvents.map .rawEvent ++
    inputs.symbolHealth.map .symbolHealth ++
    inputs.sourceHealth.map .sourceHealth ++
    inputs.gapAlerts.map .gapAlert

/-- The batch build reads its rows one after the other. -/
theorem buildSlices_eq
    (inputs : NormalizeInputs) :
    buildSlices codec args inputRange scanRange inputs =
      (ingestRows codec args
        (BuildAccumulator.new args inputRange scanRange inputs.metadata)
        inputs.rows).finish := by
  simp only [buildSlices, ingestRows, NormalizeInputs.rows,
    List.foldl_append, List.foldl_map, ingestRow]

/-- The batch build reads the rows of the files. -/
theorem rows_ofFiles_perm
    (files : List (List InputRow))
    (metadata : BuildInputMetadata) :
    files.flatten.Perm (NormalizeInputs.ofFiles files metadata).rows := by
  unfold NormalizeInputs.rows NormalizeInputs.ofFiles
  generalize files.flatten = rows
  simp only
  induction rows with
  | nil =>
      exact List.Perm.refl _
  | cons row rest inductionHypothesis =>
      cases row with
      | rawEvent event =>
          exact inductionHypothesis.cons _
      | symbolHealth row =>
          exact (inductionHypothesis.cons _).trans
            ((List.perm_middle.symm.append_right _).append_right _)
      | sourceHealth row =>
          exact (inductionHypothesis.cons _).trans
            (List.perm_middle.symm.append_right _)
      | gapAlert row =>
          exact (inductionHypothesis.cons _).trans List.perm_middle.symm

end Builds

section Order

variable
  {Number : Type}
  {codec : Codec Number}
  {args : NormalizeArgs}
  {inputRange scanRange : InputRange}
  {first second : List InputRow}

/-- Rows of one symbol with different times have no ties. -/
theorem symbolTiesAgree_of_pairwise
    {rows : List SymbolHealthInput}
    (different :
      rows.Pairwise (fun one other =>
        one.venue = other.venue → one.symbolNative = other.symbolNative →
        one.observedAtMs ≠ other.observedAtMs)) :
    SymbolTiesAgree rows := by
  intro one oneMember other otherMember sameVenue sameSymbol sameTime
  by_cases same : one = other
  · rw [same]
    exact ⟨rfl, rfl, rfl, rfl⟩
  · have symmetric :
        Std.Symm (fun one other : SymbolHealthInput =>
          one.venue = other.venue → one.symbolNative = other.symbolNative →
          one.observedAtMs ≠ other.observedAtMs) :=
      ⟨fun _ _ apart venue symbol => (apart venue.symm symbol.symm).symm⟩
    exact absurd sameTime
      (different.forall oneMember otherMember same sameVenue sameSymbol)

/-- Rows of one venue with different times have no ties. -/
theorem sourceTiesAgree_of_pairwise
    {rows : List SourceHealthInput}
    (different :
      rows.Pairwise (fun one other =>
        one.venue = other.venue → one.observedAtMs ≠ other.observedAtMs)) :
    SourceTiesAgree rows := by
  intro one oneMember other otherMember sameVenue sameTime
  by_cases same : one = other
  · rw [same]
    exact ⟨rfl, rfl, rfl, rfl, rfl, rfl⟩
  · have symmetric :
        Std.Symm (fun one other : SourceHealthInput =>
          one.venue = other.venue →
          one.observedAtMs ≠ other.observedAtMs) :=
      ⟨fun _ _ apart venue => (apart venue.symm).symm⟩
    exact absurd sameTime
      (different.forall oneMember otherMember same sameVenue)

/-- Readable events are events of the rows. -/
theorem mem_of_mem_readableEvents
    {rows : List InputRow}
    {event : RawInputEvent}
    (member : event ∈ readableEvents codec args scanRange rows) :
    event ∈ rows.filterMap InputRow.rawEvent? :=
  (List.filter_sublist.filterMap _).mem member

/-- The fresh events do not depend on the order of the rows. -/
theorem freshEvents_perm
    (permuted : first.Perm second)
    (consistent : ConsistentRows first) :
    (freshEvents codec args scanRange first).Perm
      (freshEvents codec args scanRange second) := by
  apply firsts_perm ((permuted.filter _).filterMap _)
  intro one oneMember other otherMember sameId
  exact consistent.events one (mem_of_mem_readableEvents oneMember) other
    (mem_of_mem_readableEvents otherMember) sameId

/-- Fresh events are events of the rows. -/
theorem mem_of_mem_rangeEvents
    {rows : List InputRow}
    {range : InputRange}
    {event : RawInputEvent}
    (member : event ∈ rangeEvents codec args scanRange range rows) :
    event ∈ rows.filterMap InputRow.rawEvent? :=
  mem_of_mem_readableEvents
    (mem_of_mem_firsts (List.mem_of_mem_filter member))

/-- The identity of a symbol does not depend on which event is first. -/
theorem firstIdentity_eq_of_perm
    {firstEvents secondEvents : List RawInputEvent}
    (permuted : firstEvents.Perm secondEvents)
    (agree :
      ∀ one ∈ firstEvents, ∀ other ∈ firstEvents,
        identityKey one = identityKey other →
        Identity.fromEvent one = Identity.fromEvent other)
    (venue symbolCanonical : String) :
    firstIdentity firstEvents venue symbolCanonical =
      firstIdentity secondEvents venue symbolCanonical := by
  unfold firstIdentity
  cases found : firstEvents.find? (fun event =>
      identityKey event = toLex (venue, symbolCanonical)) with
  | none =>
      have nothing :
          secondEvents.find? (fun event =>
            identityKey event = toLex (venue, symbolCanonical)) = none := by
        rw [List.find?_eq_none] at found ⊢
        intro event member
        exact found event (permuted.mem_iff.mpr member)
      rw [nothing]
  | some one =>
      have oneMember := List.mem_of_find?_eq_some found
      have oneKey := List.find?_some found
      cases other : secondEvents.find? (fun event =>
          identityKey event = toLex (venue, symbolCanonical)) with
      | none =>
          rw [List.find?_eq_none] at other
          exact absurd oneKey (other one (permuted.mem_iff.mp oneMember))
      | some event =>
          have member := List.mem_of_find?_eq_some other
          have key := List.find?_some other
          rw [decide_eq_true_eq] at oneKey key
          rw [Option.map_some, Option.map_some,
            agree one oneMember event (permuted.mem_iff.mpr member)
              (oneKey.trans key.symm)]

variable
  [NumberFormat Number]
  {firstState secondState : BuildAccumulator Number}

/-- Trades of a slice of a range are among the fresh trades of the slice. -/
private theorem tradeQuantities_subperm
    (range : InputRange)
    (rows : List InputRow)
    (key : SliceKey) :
    (tradeQuantities codec
      ((rangeEvents codec args scanRange range rows).filter (fun event =>
        eventSliceKey args event = key))).Subperm
      (tradeQuantities codec
        ((freshEvents codec args scanRange rows).filter (fun event =>
          eventSliceKey args event = key))) := by
  rw [rangeEvents, List.filter_comm]
  exact ((List.filter_sublist.filterMap _).map _).subperm

/-- The slices of a range do not depend on the order of the rows. -/
theorem finishSlices_eq_of_perm
    (range : InputRange)
    (permuted : first.Perm second)
    (consistent : ConsistentRows first)
    (exact' : ExactVolumes codec args scanRange first)
    (firstHolds :
      BuildHolds codec args scanRange inputRange first firstState)
    (secondHolds :
      BuildHolds codec args scanRange inputRange second secondState)
    {firstRange secondRange : RangeState Number}
    (firstSlices :
      RangeHolds codec args range
        (rangeEvents codec args scanRange range first) firstRange)
    (secondSlices :
      RangeHolds codec args range
        (rangeEvents codec args scanRange range second) secondRange) :
    finishSlices firstState range firstRange.rows =
      finishSlices secondState range secondRange.rows := by
  have eventsPermuted :
      (rangeEvents codec args scanRange range first).Perm
        (rangeEvents codec args scanRange range second) :=
    (freshEvents_perm permuted consistent).filter _
  have readables :
      (first.filter (isReadable codec args scanRange)).Perm
        (second.filter (isReadable codec args scanRange)) :=
    permuted.filter _
  have distinct :
      ∀ key,
        (((rangeEvents codec args scanRange range first).filter
          (fun event => eventSliceKey args event = key)).map
          (fun event => event.eventId)).Nodup := by
    intro key
    exact (firsts_nodup _).sublist
      ((List.filter_sublist.trans List.filter_sublist).map _)
  have symbolAgree : SymbolTiesAgree firstState.symbolHealth := by
    rw [firstHolds.symbolHealth]
    exact symbolTiesAgree_of_pairwise
      (consistent.symbolHealth.sublist (List.filter_sublist.filterMap _))
  have sourceAgree : SourceTiesAgree firstState.sourceHealth := by
    rw [firstHolds.sourceHealth]
    exact sourceTiesAgree_of_pairwise
      (consistent.sourceHealth.sublist (List.filter_sublist.filterMap _))
  have symbolPermuted :
      firstState.symbolHealth.Perm secondState.symbolHealth := by
    rw [firstHolds.symbolHealth, secondHolds.symbolHealth]
    exact readables.filterMap _
  have sourcePermuted :
      firstState.sourceHealth.Perm secondState.sourceHealth := by
    rw [firstHolds.sourceHealth, secondHolds.sourceHealth]
    exact readables.filterMap _
  have gapsPermuted :
      firstState.gapAlerts.Perm secondState.gapAlerts := by
    rw [firstHolds.gapAlerts, secondHolds.gapAlerts]
    exact readables.filterMap _
  apply OrderedMap.values_map_eq_of_get?
  intro key
  obtain ⟨venue, symbolCanonical, windowStartMs, rfl⟩ :
      ∃ venue symbolCanonical windowStartMs,
        key = sliceKey venue symbolCanonical windowStartMs :=
    ⟨(ofLex key).1, (ofLex (ofLex key).2).1, (ofLex (ofLex key).2).2, rfl⟩
  have identity :=
    firstIdentity_eq_of_perm eventsPermuted
      (fun one oneMember other otherMember =>
        consistent.identities one (mem_of_mem_rangeEvents oneMember) other
          (mem_of_mem_rangeEvents otherMember))
      venue symbolCanonical
  rw [firstSlices.rows, secondSlices.rows, ← identity, sliceAfter, sliceAfter]
  split_ifs with seeded
  · cases firstIdentity (rangeEvents codec args scanRange range first) venue
        symbolCanonical with
    | none =>
        rfl
    | some known =>
        simp only [Option.map_some, Option.some.injEq]
        apply finished_eq_of_perm known windowStartMs range
          (eventsPermuted.filter _) (distinct _) _ symbolAgree
          symbolPermuted sourceAgree sourcePermuted gapsPermuted
        exact (exact' _).sumOf_eq_of_perm
          (tradeQuantities_subperm range first _)
          (((eventsPermuted.filter _).filterMap _).map _)
  · rfl

/-- What a build publishes does not depend on the order of the rows. -/
theorem sameBuild_of_perm
    (permuted : first.Perm second)
    (consistent : ConsistentRows first)
    (exact' : ExactVolumes codec args scanRange first)
    (firstHolds :
      BuildHolds codec args scanRange inputRange first firstState)
    (secondHolds :
      BuildHolds codec args scanRange inputRange second secondState) :
    SameBuild firstState.finish secondState.finish := by
  have fresh : (freshEvents codec args scanRange first).Perm
      (freshEvents codec args scanRange second) :=
    freshEvents_perm permuted consistent
  have readables : (readableEvents codec args scanRange first).Perm
      (readableEvents codec args scanRange second) :=
    (permuted.filter _).filterMap _
  have slices :
      firstState.finish.slices = secondState.finish.slices := by
    simp only [BuildAccumulator.finish, firstHolds.sameInputRange,
      secondHolds.sameInputRange]
    exact finishSlices_eq_of_perm inputRange permuted consistent exact'
      firstHolds secondHolds firstHolds.input secondHolds.input
  have projectionSlices :
      firstState.finish.projectionSlices =
        secondState.finish.projectionSlices := by
    simp only [BuildAccumulator.finish, firstHolds.sameProjectionRange,
      secondHolds.sameProjectionRange]
    exact finishSlices_eq_of_perm (lookbackRange args inputRange) permuted
      consistent exact' firstHolds secondHolds firstHolds.projection
      secondHolds.projection
  have mismatches :
      firstState.stats.payloadHashMismatchCount =
        secondState.stats.payloadHashMismatchCount := by
    rw [firstHolds.payloadHashMismatchCount,
      secondHolds.payloadHashMismatchCount, permuted.countP_eq]
  have schemas : firstState.schemaVersions = secondState.schemaVersions := by
    apply OrderedMap.ext_get?
    intro schemaVersion
    have same :
        (firstState.schemaVersions.get? schemaVersion).isSome ↔
          (secondState.schemaVersions.get? schemaVersion).isSome := by
      rw [firstHolds.schemaVersions, secondHolds.schemaVersions,
        (permuted.map _).mem_iff]
    cases one : firstState.schemaVersions.get? schemaVersion <;>
      cases other : secondState.schemaVersions.get? schemaVersion <;>
      simp_all
  have firstDuplicates := firstHolds.duplicateEventCount
  have secondDuplicates := secondHolds.duplicateEventCount
  rw [fresh.length_eq, readables.length_eq] at firstDuplicates
  exact
    { slices := slices
      projectionSlices := projectionSlices
      status := by
        have firstStatus := finish_status firstState
        have secondStatus := finish_status secondState
        have summaries :
            firstState.finish.summary = secondState.finish.summary := by
          simp only [BuildResult.summary, slices]
          simp only [BuildAccumulator.finish, mismatches]
        rw [summaries, ← secondStatus] at firstStatus
        exact (Prod.mk.inj firstStatus).1
      inputRecordCount := by
        simp only [BuildAccumulator.finish]
        rw [firstHolds.inputRecordCount, secondHolds.inputRecordCount,
          permuted.length_eq]
      duplicateEventCount := by
        simp only [BuildAccumulator.finish]
        omega
      invalidEventCount := by
        simp only [BuildAccumulator.finish]
        rw [firstHolds.invalidEventCount, secondHolds.invalidEventCount,
          permuted.countP_eq, fresh.countP_eq]
      payloadHashMismatchCount := mismatches
      inputSchemaVersions := by
        simp only [BuildAccumulator.finish]
        rw [schemas] }

/-- The streaming build equals the batch build, in any order of downloads. -/
theorem foldRange_sameBuild
    (codec : Codec Number)
    (args : NormalizeArgs)
    (inputRange scanRange : InputRange)
    (metadata : BuildInputMetadata)
    (files completed : List (List InputRow))
    (permuted : completed.Perm files)
    (consistent : ConsistentRows files.flatten)
    (exact' : ExactVolumes codec args scanRange files.flatten) :
    SameBuild
      (foldRange codec args inputRange scanRange metadata completed)
      (buildSlices codec args inputRange scanRange
        (NormalizeInputs.ofFiles files metadata)) := by
  have streamed :
      SameBuild
        (foldRange codec args inputRange scanRange metadata files)
        (foldRange codec args inputRange scanRange metadata completed) := by
    rw [foldRange_eq, foldRange_eq]
    exact sameBuild_of_perm permuted.symm.flatten consistent exact'
      (buildHolds_ingestRows metadata _) (buildHolds_ingestRows metadata _)
  have batch :
      SameBuild
        (foldRange codec args inputRange scanRange metadata files)
        (buildSlices codec args inputRange scanRange
          (NormalizeInputs.ofFiles files metadata)) := by
    rw [foldRange_eq, buildSlices_eq]
    exact sameBuild_of_perm (rows_ofFiles_perm files metadata) consistent
      exact' (buildHolds_ingestRows metadata _)
      (buildHolds_ingestRows metadata _)
  exact
    { slices := streamed.slices.symm.trans batch.slices
      projectionSlices :=
        streamed.projectionSlices.symm.trans batch.projectionSlices
      status := streamed.status.symm.trans batch.status
      inputRecordCount :=
        streamed.inputRecordCount.symm.trans batch.inputRecordCount
      duplicateEventCount :=
        streamed.duplicateEventCount.symm.trans batch.duplicateEventCount
      invalidEventCount :=
        streamed.invalidEventCount.symm.trans batch.invalidEventCount
      payloadHashMismatchCount :=
        streamed.payloadHashMismatchCount.symm.trans
          batch.payloadHashMismatchCount
      inputSchemaVersions :=
        streamed.inputSchemaVersions.symm.trans batch.inputSchemaVersions }

end Order

/-- Two files of trades that overlap, and a file of health rows. -/
def btcFiles : List (List InputRow) :=
  [[.rawEvent (btcTrade "t-1"), .rawEvent (btcTrade "t-2")],
    [.rawEvent (btcTrade "t-2"), .rawEvent (btcTrade "t-3")],
    [.symbolHealth (btcHealth true)]]

/-- The codec that also hashes the row of health. -/
def healthCodec : Codec ℚ :=
  { btcCodec with
    sha256Hex := fun text =>
      if text = "binance:BTCUSDT:500:" then
        "e525ec058394fa8faff464c33ad907aed4f6b4e9a379bd43dae4c4c6dc77272f"
      else
        btcCodec.sha256Hex text }

/-- The files can complete in the reverse order; one trade is a duplicate, and
every row is valid. -/
theorem btcFiles_sameBuild :
    let batch :=
      buildSlices healthCodec oneWindowBackArgs ⟨0, 1000⟩ ⟨0, 1000⟩
        (NormalizeInputs.ofFiles btcFiles oneObject)
    SameBuild
        (foldRange healthCodec oneWindowBackArgs ⟨0, 1000⟩ ⟨0, 1000⟩
          oneObject btcFiles.reverse)
        batch ∧
      (batch.duplicateEventCount, batch.invalidEventCount) = (1, 0) := by
  intro batch
  exact
    ⟨foldRange_sameBuild healthCodec oneWindowBackArgs ⟨0, 1000⟩ ⟨0, 1000⟩
        oneObject btcFiles btcFiles.reverse (List.reverse_perm _)
        ⟨by decide, by decide, by decide, by decide⟩
        (fun _ => exactSums_rat _),
      by decide +kernel⟩

end MarketIngest.Build
