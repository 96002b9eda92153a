import MarketIngest.NormalizeArgs
import MarketIngest.ObjectKeys
import MarketIngest.OrderedMap
import MarketIngest.SliceRow
import Mathlib.Data.List.Destutter
import Mathlib.Data.Prod.Lex

namespace MarketIngest.Normalize

/-!
# Daily rollups of the symbol universe

A run rolls its slices up by day and symbol.  A daily rollup is merged with the
one that the same day already has: the statistics of each symbol are added up
and the windows they come from are recorded.  Merging a rollup of new windows
keeps everything that both sides have.
-/

/-- A window whose slices a rollup holds. -/
structure SymbolUniverseBootstrapSourceWindow where
  l1RunId : String
  sourceWindowStartMs : Int
  sourceWindowEndMs : Int
  deriving Repr, DecidableEq

/-- The statistics of one symbol on one day. -/
structure SymbolUniverseBootstrapSymbolStats (Number : Type := Float) where
  symbolCanonical : String
  executionSymbolNative : Option String
  referenceSymbolNative : Option String
  tradedNotionalSum : Number
  spreadBpsMedianSamples : List Number
  gapCount : Int
  windowCount : Int
  mappingConfidence : String

/-- What one day of the universe is made of. -/
structure SymbolUniverseBootstrapRollup (Number : Type := Float) where
  schemaVersion : String
  rollupId : String
  eventDate : String
  dayStartMs : Int
  generatedAtMs : Int
  updatedByL1RunId : String
  sourceWindows : List SymbolUniverseBootstrapSourceWindow
  symbols : List (SymbolUniverseBootstrapSymbolStats Number)

/-- The schema that this version reads and writes. -/
def symbolUniverseBootstrapRollupSchemaVersion : String :=
  "symbol_universe_bootstrap_rollup_v1"

/-- Days that a run reads, its own last. -/
def bootstrapRollupDays : Nat :=
  30

/-- The start of the UTC day of a timestamp. -/
def dayStartMs (timestampMs : Int) : Int :=
  timestampMs / dayMs * dayMs

/-- The days that a run reads rollups of, ascending. -/
def bootstrapRollupDayStarts (inputRange : InputRange) : List Int :=
  let endDayStartMs := dayStartMs (saturatingSub inputRange.endMs 1)
  (List.range bootstrapRollupDays).reverse.map
    (fun offset => saturatingSub endDayStartMs (offset * dayMs))

/-- Key of the rollup of a day. -/
def symbolUniverseBootstrapRollupObjectKey (dayStartMs : Int) : String :=
  "symbol_universe_snapshot/bootstrap_rollup/event_date=" ++
    ((timePart dayStartMs).eventDate ++ "/latest.json")

variable
  {Number : Type}
  [NumberFormat Number]

section Building

/-- The price of a slice, if it is a positive number. -/
def price (row : SliceRow Number) : Option Number :=
  (row.midPrice.or row.lastTradePrice).filter
    (fun value => NumberFormat.isFinite value && decide (0 < value))

/-- The median of the finite values. -/
def median (values : List Number) : Option Number :=
  let sorted :=
    (values.filter NumberFormat.isFinite).insertionSort (· ≤ ·)
  let middle := sorted.length / 2
  if sorted.length % 2 = 0 then
    match sorted[middle - 1]?, sorted[middle]? with
    | some lower, some upper =>
        some ((lower + upper) / NumberFormat.ofNat 2)
    | _, _ => none
  else
    sorted[middle]?

/-- The statistics of one symbol while its slices are read. -/
structure BootstrapRunSymbolAccumulator (Number : Type) where
  symbolCanonical : String
  executionSymbolNative : Option String
  referenceSymbolNative : Option String
  tradedNotionalSum : Number
  spreadSamples : List Number
  gapCount : Int
  windowCount : Int
  mappingConfidence : String

/-- The accumulator of a symbol before its first slice. -/
def BootstrapRunSymbolAccumulator.start
    (symbolCanonical : String) : BootstrapRunSymbolAccumulator Number where
  symbolCanonical := symbolCanonical
  executionSymbolNative := none
  referenceSymbolNative := none
  tradedNotionalSum := 0
  spreadSamples := []
  gapCount := 0
  windowCount := 0
  mappingConfidence := "moderate"

/-- The native symbols of both venues, as far as they are known. -/
def assignNativeSymbols
    (row : SliceRow Number)
    (executionSymbolNative referenceSymbolNative : Option String) :
    Option String × Option String :=
  let execution :=
    if row.venue = "upbit" ∧ executionSymbolNative.isNone then
      some row.symbolNative
    else
      executionSymbolNative
  let reference :=
    if row.venue = "binance" ∧ referenceSymbolNative.isNone then
      some row.symbolNative
    else
      referenceSymbolNative
  (some (execution.getD row.symbolNative),
    some (reference.getD row.symbolNative))

/-- Add one slice to the statistics of its symbol. -/
def BootstrapRunSymbolAccumulator.observeSlice
    (accumulator : BootstrapRunSymbolAccumulator Number)
    (row : SliceRow Number) : BootstrapRunSymbolAccumulator Number :=
  let (execution, reference) :=
    assignNativeSymbols row accumulator.executionSymbolNative
      accumulator.referenceSymbolNative
  let tradedNotional := (price row).getD 0 * row.tradeVolume
  { accumulator with
    executionSymbolNative := execution
    referenceSymbolNative := reference
    tradedNotionalSum :=
      if NumberFormat.isFinite tradedNotional &&
          decide (0 < tradedNotional) then
        accumulator.tradedNotionalSum + tradedNotional
      else
        accumulator.tradedNotionalSum
    spreadSamples :=
      accumulator.spreadSamples ++
        (row.spreadBps.filter NumberFormat.isFinite).toList
    gapCount := accumulator.gapCount + row.qualityGap
    windowCount := accumulator.windowCount + 1 }

/-- The statistics of a symbol after its slices. -/
def BootstrapRunSymbolAccumulator.intoSymbolStats
    (accumulator : BootstrapRunSymbolAccumulator Number) :
    SymbolUniverseBootstrapSymbolStats Number where
  symbolCanonical := accumulator.symbolCanonical
  executionSymbolNative := accumulator.executionSymbolNative
  referenceSymbolNative := accumulator.referenceSymbolNative
  tradedNotionalSum := accumulator.tradedNotionalSum
  spreadBpsMedianSamples := (median accumulator.spreadSamples).toList
  gapCount := accumulator.gapCount
  windowCount := accumulator.windowCount
  mappingConfidence := accumulator.mappingConfidence

/-- The slices of a run by day and symbol. -/
def slicesByDaySymbol
    (slices : List (SliceRow Number)) :
    OrderedMap (Int ×ₗ String) (BootstrapRunSymbolAccumulator Number) :=
  slices.foldl
    (fun byDaySymbol row =>
      byDaySymbol.upsert
        (toLex (dayStartMs row.windowStartMs, row.symbolCanonical))
        (fun known =>
          (known.getD (.start row.symbolCanonical)).observeSlice row))
    .empty

/-- The symbols of a run by day. -/
def symbolsByDay
    (slices : List (SliceRow Number)) :
    OrderedMap Int (List (SymbolUniverseBootstrapSymbolStats Number)) :=
  (slicesByDaySymbol slices).entries.foldl
    (fun byDay entry =>
      byDay.upsert (ofLex entry.1).1
        (fun known => known.getD [] ++ [entry.2.intoSymbolStats]))
    .empty

variable (sha256Hex : String → String)

/-- The identifier made of some parts. -/
def stableId (parts : List String) : String :=
  sha256Hex ("|".intercalate parts)

/-- The rollup of one day of a run. -/
def buildSymbolUniverseBootstrapRollup
    (l1RunId : String)
    (inputRange : InputRange)
    (generatedAtMs dayStartMs : Int)
    (symbols : List (SymbolUniverseBootstrapSymbolStats Number)) :
    SymbolUniverseBootstrapRollup Number where
  schemaVersion := symbolUniverseBootstrapRollupSchemaVersion
  rollupId :=
    stableId sha256Hex
      [l1RunId, toString inputRange.startMs, toString inputRange.endMs,
        toString dayStartMs, symbolUniverseBootstrapRollupSchemaVersion]
  eventDate := (timePart dayStartMs).eventDate
  dayStartMs := dayStartMs
  generatedAtMs := generatedAtMs
  updatedByL1RunId := l1RunId
  sourceWindows :=
    [{ l1RunId := l1RunId
       sourceWindowStartMs := inputRange.startMs
       sourceWindowEndMs := inputRange.endMs }]
  symbols :=
    symbols.insertionSort
      (fun left right => left.symbolCanonical ≤ right.symbolCanonical)

/-- The rollups of a run, one for each day with slices. -/
def buildSymbolUniverseBootstrapRollups
    (l1RunId : String)
    (inputRange : InputRange)
    (generatedAtMs : Int)
    (slices : List (SliceRow Number)) :
    List (SymbolUniverseBootstrapRollup Number) :=
  (symbolsByDay slices).entries.map (fun entry =>
    buildSymbolUniverseBootstrapRollup sha256Hex l1RunId inputRange
      generatedAtMs entry.1 entry.2)

end Building

section Merging

/-- Add the statistics of a symbol to those it has. -/
def mergeSymbolRollup
    (existing current : SymbolUniverseBootstrapSymbolStats Number) :
    SymbolUniverseBootstrapSymbolStats Number :=
  { existing with
    executionSymbolNative :=
      existing.executionSymbolNative.or current.executionSymbolNative
    referenceSymbolNative :=
      existing.referenceSymbolNative.or current.referenceSymbolNative
    tradedNotionalSum :=
      existing.tradedNotionalSum + current.tradedNotionalSum
    spreadBpsMedianSamples :=
      existing.spreadBpsMedianSamples ++ current.spreadBpsMedianSamples
    gapCount := existing.gapCount + current.gapCount
    windowCount := existing.windowCount + current.windowCount
    mappingConfidence :=
      if existing.mappingConfidence = "unknown" then
        current.mappingConfidence
      else
        existing.mappingConfidence }

/-- Two windows have the same bounds. -/
def SymbolUniverseBootstrapSourceWindow.sameBounds
    (left right : SymbolUniverseBootstrapSourceWindow) : Bool :=
  left.sourceWindowStartMs = right.sourceWindowStartMs &&
    left.sourceWindowEndMs = right.sourceWindowEndMs

/-- The derived order of windows: by run, then start, then end. -/
def SymbolUniverseBootstrapSourceWindow.le
    (left right : SymbolUniverseBootstrapSourceWindow) : Bool :=
  left.l1RunId < right.l1RunId ||
    left.l1RunId = right.l1RunId &&
      (left.sourceWindowStartMs < right.sourceWindowStartMs ||
        left.sourceWindowStartMs = right.sourceWindowStartMs &&
          left.sourceWindowEndMs ≤ right.sourceWindowEndMs)

/-- The symbols of both rollups, with the statistics of common ones added. -/
def mergedSymbols
    (existing current : List (SymbolUniverseBootstrapSymbolStats Number)) :
    OrderedMap String (SymbolUniverseBootstrapSymbolStats Number) :=
  let bySymbol :=
    existing.foldl
      (fun bySymbol symbol =>
        bySymbol.upsert symbol.symbolCanonical (fun _ => symbol))
      .empty
  current.foldl
    (fun bySymbol symbol =>
      bySymbol.upsert symbol.symbolCanonical (fun
        | some known => mergeSymbolRollup known symbol
        | none => symbol))
    bySymbol

/-- The windows of both rollups, each bounds once if neighbours. -/
def mergedSourceWindows
    (existing current : List SymbolUniverseBootstrapSourceWindow) :
    List SymbolUniverseBootstrapSourceWindow :=
  ((existing ++ current).insertionSort
    (fun left right => left.le right = true)).destutter
      (fun left right => left.sameBounds right = false)

variable (sha256Hex : String → String)

/-- Merge the rollup of a run into the one that its day already has. -/
def mergeSymbolUniverseBootstrapRollup :
    Option (SymbolUniverseBootstrapRollup Number) →
    SymbolUniverseBootstrapRollup Number →
    SymbolUniverseBootstrapRollup Number
  | none, current => current
  | some existing, current =>
      if existing.dayStartMs ≠ current.dayStartMs ∨
          existing.schemaVersion ≠
            symbolUniverseBootstrapRollupSchemaVersion then
        current
      else if current.sourceWindows.any (fun window =>
          existing.sourceWindows.any (fun seen =>
            seen.sameBounds window)) then
        existing
      else
        { existing with
          symbols :=
            (mergedSymbols existing.symbols
              current.symbols).values.insertionSort
                (fun left right =>
                  left.symbolCanonical ≤ right.symbolCanonical)
          sourceWindows :=
            mergedSourceWindows existing.sourceWindows
              current.sourceWindows
          generatedAtMs := current.generatedAtMs
          updatedByL1RunId := current.updatedByL1RunId
          rollupId :=
            stableId sha256Hex
              [existing.eventDate, toString existing.dayStartMs,
                toString current.generatedAtMs,
                symbolUniverseBootstrapRollupSchemaVersion] }

end Merging

/-- The statistics of a symbol in a rollup. -/
def SymbolUniverseBootstrapRollup.symbolStats?
    (rollup : SymbolUniverseBootstrapRollup Number)
    (symbolCanonical : String) :
    Option (SymbolUniverseBootstrapSymbolStats Number) :=
  rollup.symbols.find?
    (fun symbol => symbol.symbolCanonical = symbolCanonical)

/-- The statistics of a symbol from two sides, either of which may lack it. -/
def combineStats :
    Option (SymbolUniverseBootstrapSymbolStats Number) →
    Option (SymbolUniverseBootstrapSymbolStats Number) →
    Option (SymbolUniverseBootstrapSymbolStats Number)
  | none, current => current
  | some existing, none => some existing
  | some existing, some current => some (mergeSymbolRollup existing current)

/-- A rollup of a day as runs build and merge it. -/
structure RollupOfDay
    (day : Int)
    (rollup : SymbolUniverseBootstrapRollup Number) : Prop where
  schema :
    rollup.schemaVersion = symbolUniverseBootstrapRollupSchemaVersion
  day : rollup.dayStartMs = day
  windows :
    rollup.sourceWindows.Pairwise
      (fun left right => left.sameBounds right = false)
  symbols :
    (rollup.symbols.map (fun symbol => symbol.symbolCanonical)).Nodup

section Merged

variable
  {sha256Hex : String → String}
  {day : Int}
  {existing current : SymbolUniverseBootstrapRollup Number}

/-- Having the same bounds does not depend on the order. -/
theorem sameBounds_comm
    (left right : SymbolUniverseBootstrapSourceWindow) :
    left.sameBounds right = right.sameBounds left := by
  simp only [SymbolUniverseBootstrapSourceWindow.sameBounds, eq_comm]

/-- Every merged symbol is under its own name. -/
private theorem mergedSymbols_name
    (first second : List (SymbolUniverseBootstrapSymbolStats Number))
    {name : String}
    {stats : SymbolUniverseBootstrapSymbolStats Number}
    (found : (mergedSymbols first second).get? name = some stats) :
    stats.symbolCanonical = name := by
  let named (name : String)
      (stats : SymbolUniverseBootstrapSymbolStats Number) : Prop :=
    stats.symbolCanonical = name
  refine @OrderedMap.upserts_induction _ _ _ _ _ named _ second _
    (@OrderedMap.upserts_induction _ _ _ _ _ named _ first _ ?_ ?_) ?_
    name stats found
  · intro name stats absent
    cases absent
  · intro symbol _ known _
    rfl
  · intro symbol _ before known
    cases before with
    | none => rfl
    | some stats => exact known stats rfl

/-- The statistics of a merged symbol are those of both sides. -/
private theorem mergedSymbols_get?
    {first second : List (SymbolUniverseBootstrapSymbolStats Number)}
    (firstDistinct :
      (first.map (fun symbol => symbol.symbolCanonical)).Nodup)
    (secondDistinct :
      (second.map (fun symbol => symbol.symbolCanonical)).Nodup)
    (name : String) :
    (mergedSymbols first second).get? name =
      combineStats
        (first.find? (fun symbol => symbol.symbolCanonical = name))
        (second.find? (fun symbol => symbol.symbolCanonical = name)) := by
  unfold mergedSymbols
  rw [OrderedMap.get?_upserts secondDistinct,
    OrderedMap.get?_upserts firstDistinct]
  cases first.find? (fun symbol => symbol.symbolCanonical = name) with
  | none =>
      cases second.find? (fun symbol => symbol.symbolCanonical = name) with
      | none => rfl
      | some symbol => rfl
  | some known =>
      cases second.find? (fun symbol => symbol.symbolCanonical = name) with
      | none => rfl
      | some symbol => rfl

/-- Merging windows of different bounds keeps exactly the windows of both. -/
private theorem mergedSourceWindows_perm
    {first second : List SymbolUniverseBootstrapSourceWindow}
    (distinct :
      (first ++ second).Pairwise
        (fun left right => left.sameBounds right = false)) :
    (mergedSourceWindows first second).Perm (first ++ second) := by
  have perm :=
    List.perm_insertionSort
      (fun left right :
        SymbolUniverseBootstrapSourceWindow => left.le right = true)
      (first ++ second)
  have sorted :=
    perm.symm.pairwise distinct
      (fun {left right} different => by
        rwa [sameBounds_comm] at different)
  unfold mergedSourceWindows
  rw [List.destutter_of_isChain _ _ sorted.isChain]
  exact perm

/-- The windows of two rollups have different bounds. -/
def NewWindows
    (existing current : SymbolUniverseBootstrapRollup Number) : Prop :=
  ∀ seen ∈ existing.sourceWindows,
    ∀ window ∈ current.sourceWindows, seen.sameBounds window = false

/-- Merging new windows goes through both rollups. -/
private theorem merge_of_new
    (existingForm : RollupOfDay day existing)
    (currentForm : RollupOfDay day current)
    (new : NewWindows existing current) :
    let merged :=
      mergeSymbolUniverseBootstrapRollup sha256Hex (some existing) current
    merged.schemaVersion = existing.schemaVersion ∧
      merged.dayStartMs = existing.dayStartMs ∧
      merged.sourceWindows =
        mergedSourceWindows existing.sourceWindows
          current.sourceWindows ∧
      merged.symbols =
        (mergedSymbols existing.symbols
          current.symbols).values.insertionSort
            (fun left right =>
              left.symbolCanonical ≤ right.symbolCanonical) := by
  have accepted :
      ¬ (existing.dayStartMs ≠ current.dayStartMs ∨
        existing.schemaVersion ≠
          symbolUniverseBootstrapRollupSchemaVersion) := by
    simp [existingForm.day, currentForm.day, existingForm.schema]
  have unseen :
      ¬ current.sourceWindows.any (fun window =>
        existing.sourceWindows.any (fun seen =>
          seen.sameBounds window)) = true := by
    simp only [List.any_eq_true, not_exists, not_and]
    intro window member seen seenMember
    simp [new seen seenMember window member]
  simp only [mergeSymbolUniverseBootstrapRollup, if_neg accepted,
    if_neg unseen]
  exact ⟨trivial, trivial, trivial, trivial⟩

omit [NumberFormat Number] in
/-- The windows of two rollups with new windows are all different. -/
private theorem windows_pairwise
    (existingForm : RollupOfDay day existing)
    (currentForm : RollupOfDay day current)
    (new : NewWindows existing current) :
    (existing.sourceWindows ++ current.sourceWindows).Pairwise
      (fun left right => left.sameBounds right = false) :=
  List.pairwise_append.mpr
    ⟨existingForm.windows, currentForm.windows, new⟩

/-- Merging new windows lists the windows of both rollups. -/
theorem merge_sourceWindows_perm
    (existingForm : RollupOfDay day existing)
    (currentForm : RollupOfDay day current)
    (new : NewWindows existing current) :
    (mergeSymbolUniverseBootstrapRollup sha256Hex (some existing)
        current).sourceWindows.Perm
      (existing.sourceWindows ++ current.sourceWindows) := by
  obtain ⟨-, -, windows, -⟩ :=
    @merge_of_new _ _ sha256Hex _ _ _ existingForm currentForm new
  rw [windows]
  exact mergedSourceWindows_perm
    (windows_pairwise existingForm currentForm new)

/-- Merging new windows records exactly the windows of both rollups. -/
theorem mem_merge_sourceWindows
    (existingForm : RollupOfDay day existing)
    (currentForm : RollupOfDay day current)
    (new : NewWindows existing current)
    {window : SymbolUniverseBootstrapSourceWindow} :
    window ∈
        (mergeSymbolUniverseBootstrapRollup sha256Hex (some existing)
          current).sourceWindows ↔
      window ∈ existing.sourceWindows ∨
        window ∈ current.sourceWindows := by
  rw [(merge_sourceWindows_perm existingForm currentForm new).mem_iff,
    List.mem_append]

/-- The names of merged symbols are the keys of their map. -/
private theorem mergedSymbols_names
    (first second : List (SymbolUniverseBootstrapSymbolStats Number)) :
    (mergedSymbols first second).values.map
        (fun symbol => symbol.symbolCanonical) =
      (mergedSymbols first second).keys := by
  simp only [OrderedMap.values, OrderedMap.keys, List.map_map]
  refine List.map_congr_left ?_
  rintro ⟨name, stats⟩ member
  exact mergedSymbols_name first second
    (OrderedMap.get?_eq_some_iff.mpr member)

/-- Merging new windows gives a rollup of the same day. -/
theorem RollupOfDay.merge
    (existingForm : RollupOfDay day existing)
    (currentForm : RollupOfDay day current)
    (new : NewWindows existing current) :
    RollupOfDay day
      (mergeSymbolUniverseBootstrapRollup sha256Hex (some existing)
        current) := by
  obtain ⟨schema, sameDay, windows, symbols⟩ :=
    @merge_of_new _ _ sha256Hex _ _ _ existingForm currentForm new
  refine ⟨schema.trans existingForm.schema,
    sameDay.trans existingForm.day, ?_, ?_⟩
  · rw [windows]
    exact (mergedSourceWindows_perm
      (windows_pairwise existingForm currentForm new)).symm.pairwise
        (windows_pairwise existingForm currentForm new)
        (fun {left right} different => by
          rwa [sameBounds_comm] at different)
  · rw [symbols]
    refine ((List.perm_insertionSort _ _).map _).nodup_iff.mpr ?_
    rw [mergedSymbols_names]
    exact OrderedMap.keys_nodup _

/-- Merging new windows leaves the symbols in ascending order. -/
theorem merge_symbols_ascending
    (existingForm : RollupOfDay day existing)
    (currentForm : RollupOfDay day current)
    (new : NewWindows existing current) :
    ((mergeSymbolUniverseBootstrapRollup sha256Hex (some existing)
        current).symbols.map (fun symbol => symbol.symbolCanonical)).Pairwise
      (fun left right => left < right) := by
  have distinct :=
    (@RollupOfDay.merge _ _ sha256Hex _ _ _ existingForm currentForm
      new).symbols
  obtain ⟨-, -, -, symbols⟩ :=
    @merge_of_new _ _ sha256Hex _ _ _ existingForm currentForm new
  rw [symbols] at distinct ⊢
  have ordered :=
    List.pairwise_insertionSort
      (fun left right : SymbolUniverseBootstrapSymbolStats Number =>
        left.symbolCanonical ≤ right.symbolCanonical)
      (mergedSymbols existing.symbols current.symbols).values
  exact ((List.pairwise_map.mpr ordered).and distinct).imp
    (fun both => lt_of_le_of_ne both.1 both.2)

/-- Merging new windows adds up the statistics of every symbol. -/
theorem merge_symbolStats?
    (existingForm : RollupOfDay day existing)
    (currentForm : RollupOfDay day current)
    (new : NewWindows existing current)
    (name : String) :
    (mergeSymbolUniverseBootstrapRollup sha256Hex (some existing)
        current).symbolStats? name =
      combineStats (existing.symbolStats? name)
        (current.symbolStats? name) := by
  have merged :=
    @RollupOfDay.merge _ _ sha256Hex _ _ _ existingForm currentForm new
  obtain ⟨-, -, -, symbols⟩ :=
    @merge_of_new _ _ sha256Hex _ _ _ existingForm currentForm new
  have lookup :
      (mergeSymbolUniverseBootstrapRollup sha256Hex (some existing)
          current).symbolStats? name =
        (mergedSymbols existing.symbols current.symbols).get? name := by
    apply Option.ext
    intro stats
    unfold SymbolUniverseBootstrapRollup.symbolStats?
    rw [OrderedMap.find?_eq_some_iff_of_nodup merged.symbols, symbols,
      List.mem_insertionSort, OrderedMap.get?_eq_some_iff,
      OrderedMap.values, List.mem_map]
    constructor
    · rintro ⟨⟨⟨key, value⟩, member, rfl⟩, named⟩
      have own :=
        mergedSymbols_name existing.symbols current.symbols
          (OrderedMap.get?_eq_some_iff.mpr member)
      simp only at named
      rw [← named, own]
      exact member
    · intro member
      exact ⟨⟨_, member, rfl⟩,
        mergedSymbols_name existing.symbols current.symbols
          (OrderedMap.get?_eq_some_iff.mpr member)⟩
  rw [lookup, mergedSymbols_get? existingForm.symbols
    currentForm.symbols]
  rfl

end Merged

section Built

variable
  {sha256Hex : String → String}
  {l1RunId : String}
  {inputRange : InputRange}
  {generatedAtMs : Int}
  {slices : List (SliceRow Number)}
  {rollup : SymbolUniverseBootstrapRollup Number}

/-- An accumulator is of its own symbol and of a day with slices. -/
private theorem slicesByDaySymbol_entry
    {key : Int ×ₗ String}
    {accumulator : BootstrapRunSymbolAccumulator Number}
    (member : (key, accumulator) ∈ (slicesByDaySymbol slices).entries) :
    accumulator.symbolCanonical = (ofLex key).2 ∧
      ∃ row ∈ slices, dayStartMs row.windowStartMs = (ofLex key).1 := by
  let filed (key : Int ×ₗ String)
      (accumulator : BootstrapRunSymbolAccumulator Number) : Prop :=
    accumulator.symbolCanonical = (ofLex key).2 ∧
      ∃ row ∈ slices, dayStartMs row.windowStartMs = (ofLex key).1
  refine @OrderedMap.upserts_induction _ _ _ _ _ filed _ slices _ ?_ ?_ key
    accumulator (OrderedMap.get?_eq_some_iff.mpr member)
  · intro key accumulator absent
    cases absent
  · intro row rowMember before known
    refine ⟨?_, row, rowMember, rfl⟩
    cases before with
    | none => rfl
    | some accumulator => exact (known accumulator rfl).1

/-- The symbols of a day are those of its accumulators. -/
private theorem symbolsByDay_entry
    {day : Int}
    {symbols : List (SymbolUniverseBootstrapSymbolStats Number)}
    (member : (day, symbols) ∈ (symbolsByDay slices).entries) :
    symbols =
      ((slicesByDaySymbol slices).entries.filter
        (fun entry => (ofLex entry.1).1 = day)).map
          (fun entry => entry.2.intoSymbolStats) := by
  have grouped :=
    @OrderedMap.get?_groups Int _ _ _
      (fun entry : (Int ×ₗ String) × BootstrapRunSymbolAccumulator Number =>
        (ofLex entry.1).1)
      (fun entry => entry.2.intoSymbolStats)
      (slicesByDaySymbol slices).entries .empty day
  have found :
      (symbolsByDay slices).get? day = some symbols :=
    OrderedMap.get?_eq_some_iff.mpr member
  rw [symbolsByDay] at found
  rw [found] at grouped
  simpa using grouped

/-- A day of a run has a slice. -/
private theorem symbolsByDay_day
    {day : Int}
    {symbols : List (SymbolUniverseBootstrapSymbolStats Number)}
    (member : (day, symbols) ∈ (symbolsByDay slices).entries) :
    ∃ row ∈ slices, dayStartMs row.windowStartMs = day := by
  let filed (day : Int)
      (_ : List (SymbolUniverseBootstrapSymbolStats Number)) : Prop :=
    ∃ row ∈ slices, dayStartMs row.windowStartMs = day
  refine @OrderedMap.upserts_induction _ _ _ _ _ filed _
    (slicesByDaySymbol slices).entries _ ?_ ?_ day symbols
    (OrderedMap.get?_eq_some_iff.mpr member)
  · intro day symbols absent
    cases absent
  · rintro ⟨key, accumulator⟩ entryMember _ _
    exact (slicesByDaySymbol_entry entryMember).2

/-- A symbol has one entry a day. -/
private theorem symbolsByDay_names
    {day : Int}
    {symbols : List (SymbolUniverseBootstrapSymbolStats Number)}
    (member : (day, symbols) ∈ (symbolsByDay slices).entries) :
    (symbols.map (fun symbol => symbol.symbolCanonical)).Nodup := by
  have names :
      symbols.map (fun symbol => symbol.symbolCanonical) =
        ((slicesByDaySymbol slices).entries.filter
          (fun entry => (ofLex entry.1).1 = day)).map
            (fun entry => (ofLex entry.1).2) := by
    rw [symbolsByDay_entry member, List.map_map]
    refine List.map_congr_left ?_
    rintro ⟨key, accumulator⟩ entryMember
    exact (slicesByDaySymbol_entry
      (List.mem_filter.mp entryMember).1).1
  rw [names]
  refine List.Nodup.map_on ?_ ?_
  · rintro first firstMember second secondMember sameName
    have firstDay := (List.mem_filter.mp firstMember).2
    have secondDay := (List.mem_filter.mp secondMember).2
    refine OrderedMap.eq_of_mem_of_key_eq _
      (List.mem_filter.mp firstMember).1
      (List.mem_filter.mp secondMember).1 ?_
    simp only [decide_eq_true_eq] at firstDay secondDay
    exact ofLex.injective
      (Prod.ext (firstDay.trans secondDay.symm) sameName)
  · refine List.Nodup.filter _ ?_
    exact List.Nodup.of_map Prod.fst (OrderedMap.keys_nodup _)

/-- What a run builds is one rollup a day, of its own window. -/
theorem buildSymbolUniverseBootstrapRollups_form
    (member :
      rollup ∈
        buildSymbolUniverseBootstrapRollups sha256Hex l1RunId inputRange
          generatedAtMs slices) :
    RollupOfDay rollup.dayStartMs rollup ∧
      rollup.sourceWindows =
        [⟨l1RunId, inputRange.startMs, inputRange.endMs⟩] ∧
      ∃ row ∈ slices,
        dayStartMs row.windowStartMs = rollup.dayStartMs := by
  obtain ⟨⟨day, symbols⟩, entryMember, rfl⟩ := List.mem_map.mp member
  refine ⟨⟨rfl, rfl, List.pairwise_singleton _ _, ?_⟩, rfl,
    symbolsByDay_day entryMember⟩
  refine ((List.perm_insertionSort _ _).map _).nodup_iff.mpr ?_
  exact symbolsByDay_names entryMember

/-- The accumulator of a symbol after some slices. -/
def observeSlices
    (symbolCanonical : String)
    (rows : List (SliceRow Number)) :
    BootstrapRunSymbolAccumulator Number :=
  rows.foldl
    (fun accumulator row => accumulator.observeSlice row)
    (.start symbolCanonical)

/-- The first slice of a symbol starts its accumulator. -/
private theorem observeSlices_eq
    {symbol : String}
    (rows : List (SliceRow Number))
    (same : ∀ row ∈ rows, row.symbolCanonical = symbol) :
    rows.foldl
        (fun known row =>
          some
            ((known.getD
              (BootstrapRunSymbolAccumulator.start
                row.symbolCanonical)).observeSlice row))
        none =
      if rows = [] then none else some (observeSlices symbol rows) := by
  induction rows using List.reverseRecOn with
  | nil =>
      rfl
  | append_singleton earlier row inductionHypothesis =>
      have rowSymbol := same row (by simp)
      rw [List.foldl_append, inductionHypothesis
        (fun known member => same known (by simp [member]))]
      by_cases first : earlier = []
      · simp [first, observeSlices, rowSymbol]
      · simp [first, observeSlices]

/-- The accumulator of a day and symbol has read the slices of both. -/
theorem slicesByDaySymbol_get?
    (slices : List (SliceRow Number))
    (day : Int)
    (symbol : String) :
    let rows :=
      slices.filter (fun row =>
        (toLex (dayStartMs row.windowStartMs, row.symbolCanonical) :
          Int ×ₗ String) = toLex (day, symbol))
    (slicesByDaySymbol slices).get? (toLex (day, symbol)) =
      if rows = [] then none else some (observeSlices symbol rows) := by
  intro rows
  have same : ∀ row ∈ rows, row.symbolCanonical = symbol := by
    intro row member
    have equal := (List.mem_filter.mp member).2
    simp only [decide_eq_true_eq, EmbeddingLike.apply_eq_iff_eq,
      Prod.mk.injEq] at equal
    exact equal.2
  rw [← observeSlices_eq rows same]
  exact OrderedMap.get?_foldl_upsert _ slices .empty _

/-- What a run builds for a symbol comes from its accumulator of the day. -/
theorem built_symbolStats?
    (member :
      rollup ∈
        buildSymbolUniverseBootstrapRollups sha256Hex l1RunId inputRange
          generatedAtMs slices)
    (symbol : String) :
    rollup.symbolStats? symbol =
      ((slicesByDaySymbol slices).get?
        (toLex (rollup.dayStartMs, symbol))).map
          (fun accumulator => accumulator.intoSymbolStats) := by
  have form := (buildSymbolUniverseBootstrapRollups_form member).1
  obtain ⟨⟨day, symbols⟩, entryMember, rfl⟩ := List.mem_map.mp member
  apply Option.ext
  intro stats
  rw [SymbolUniverseBootstrapRollup.symbolStats?,
    OrderedMap.find?_eq_some_iff_of_nodup form.symbols,
    Option.map_eq_some_iff]
  simp only [buildSymbolUniverseBootstrapRollup,
    List.mem_insertionSort, OrderedMap.get?_eq_some_iff]
  rw [symbolsByDay_entry entryMember, List.mem_map]
  constructor
  · rintro ⟨⟨⟨key, accumulator⟩, found, rfl⟩, named⟩
    obtain ⟨inEntries, sameDay⟩ := List.mem_filter.mp found
    refine ⟨accumulator, ?_, rfl⟩
    have own := (slicesByDaySymbol_entry inEntries).1
    have shape : key = toLex (day, symbol) :=
      ofLex.injective
        (Prod.ext (by simpa using sameDay) (own.symm.trans named))
    rwa [← shape]
  · rintro ⟨accumulator, found, rfl⟩
    have own := (slicesByDaySymbol_entry found).1
    exact ⟨⟨_, List.mem_filter.mpr ⟨found, by simp⟩, rfl⟩, own⟩

/-- A day with slices has a rollup. -/
theorem exists_built
    (sha256Hex : String → String)
    (l1RunId : String)
    (inputRange : InputRange)
    (generatedAtMs : Int)
    {row : SliceRow Number}
    (member : row ∈ slices) :
    ∃ rollup ∈
        buildSymbolUniverseBootstrapRollups sha256Hex l1RunId inputRange
          generatedAtMs slices,
      rollup.dayStartMs = dayStartMs row.windowStartMs := by
  have accumulated :
      toLex (dayStartMs row.windowStartMs, row.symbolCanonical) ∈
        (slicesByDaySymbol slices).keys :=
    (OrderedMap.mem_keys_foldl_upsert _ slices .empty _).mpr
      (Or.inr ⟨row, member, rfl⟩)
  obtain ⟨entry, entryMember, entryKey⟩ := List.mem_map.mp accumulated
  have day :
      dayStartMs row.windowStartMs ∈ (symbolsByDay slices).keys :=
    (OrderedMap.mem_keys_foldl_upsert _ _ .empty _).mpr
      (Or.inr ⟨entry, entryMember, by rw [entryKey]; rfl⟩)
  obtain ⟨dayEntry, dayMember, dayKey⟩ := List.mem_map.mp day
  exact ⟨_, List.mem_map.mpr ⟨dayEntry, dayMember, rfl⟩, dayKey⟩

/-- No day has two rollups of one run. -/
theorem buildSymbolUniverseBootstrapRollups_days :
    ((buildSymbolUniverseBootstrapRollups sha256Hex l1RunId inputRange
      generatedAtMs slices).map (fun rollup => rollup.dayStartMs)).Nodup := by
  have days :
      (buildSymbolUniverseBootstrapRollups sha256Hex l1RunId inputRange
          generatedAtMs slices).map (fun rollup => rollup.dayStartMs) =
        (symbolsByDay slices).keys := by
    simp only [buildSymbolUniverseBootstrapRollups, List.map_map]
    rfl
  rw [days]
  exact OrderedMap.keys_nodup _

end Built

section Days

/-- A day of the calendar. -/
structure UtcDay where
  startMs : Int
  aligned : dayMs ∣ startMs
  dated : representableTimestamp startMs = true

/-- The start of the day of a timestamp with a date has a date. -/
theorem representableTimestamp_dayStartMs
    {timestampMs : Int}
    (dated : representableTimestamp timestampMs = true) :
    representableTimestamp (dayStartMs timestampMs) = true := by
  have sameDay :
      dayStartMs timestampMs / dayMs = timestampMs / dayMs := by
    simp only [dayStartMs, dayMs]
    omega
  simpa only [representableTimestamp, sameDay] using dated

/-- Days start at multiples of their length. -/
theorem dayMs_dvd_dayStartMs
    (timestampMs : Int) :
    dayMs ∣ dayStartMs timestampMs :=
  Int.dvd_mul_left _ _

/-- The day of a timestamp with a date. -/
def UtcDay.ofTimestamp
    (timestampMs : Int)
    (dated : representableTimestamp timestampMs = true) : UtcDay where
  startMs := dayStartMs timestampMs
  aligned := dayMs_dvd_dayStartMs timestampMs
  dated := representableTimestamp_dayStartMs dated

/-- Key of the rollup of a day of the calendar. -/
def UtcDay.key (day : UtcDay) : String :=
  symbolUniverseBootstrapRollupObjectKey day.startMs

/-- Different days have different keys. -/
theorem UtcDay.startMs_eq_of_key_eq
    {first second : UtcDay}
    (same : first.key = second.key) :
    first.startMs = second.startMs := by
  have sameDate :
      (timePart first.startMs).eventDate =
        (timePart second.startMs).eventDate :=
    Text.eq_of_enclosed_eq same
  simp only [timePart, first.dated, second.dated, ↓reduceIte] at sameDate
  have sameDay := Calendar.renderDate_civilFromDays_injective sameDate
  have firstAligned := Int.ediv_mul_cancel first.aligned
  have secondAligned := Int.ediv_mul_cancel second.aligned
  rw [← firstAligned, ← secondAligned, sameDay]

end Days

end MarketIngest.Normalize
