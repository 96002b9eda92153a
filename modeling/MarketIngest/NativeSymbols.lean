import MarketIngest.RollupMergeOrder
import MarketIngest.RollupPublication
import MarketIngest.UniverseRanking

namespace MarketIngest.Normalize

/-!
# Native symbols of a universe member

The first slice of a symbol fills the native symbols of both venues, whatever
its own venue is, and a known native symbol is never replaced, neither by later
slices nor by merging nor by reading a rollup.  So both native symbols of a
symbol are that of its first slice.
-/

/-- The native symbols of the execution and of the reference venue. -/
abbrev NativePair :=
  Option String × Option String

section Slices

variable {Number : Type}

/-- The rows of a symbol. -/
def rowsOfSymbol
    (symbol : String)
    (rows : List (SliceRow Number)) : List (SliceRow Number) :=
  rows.filter (fun row => row.symbolCanonical = symbol)

/-- The rows of a symbol on a day. -/
def rowsOn
    (day : Int)
    (symbol : String)
    (rows : List (SliceRow Number)) : List (SliceRow Number) :=
  rows.filter (fun row =>
    (toLex (dayStartMs row.windowStartMs, row.symbolCanonical) :
      Int ×ₗ String) = toLex (day, symbol))

/-- The native symbol of a row, for both venues. -/
def SliceRow.nativePair (row : SliceRow Number) : NativePair :=
  (some row.symbolNative, some row.symbolNative)

/-- The first row gives both native symbols. -/
theorem assignNativeSymbols_first
    (row : SliceRow Number) :
    assignNativeSymbols row none none = row.nativePair := by
  unfold assignNativeSymbols SliceRow.nativePair
  by_cases upbit : row.venue = "upbit"
  · simp [upbit]
  · by_cases binance : row.venue = "binance"
    · simp [binance]
    · simp [upbit, binance]

/-- Later rows replace no native symbol. -/
theorem assignNativeSymbols_known
    (row : SliceRow Number)
    (execution reference : String) :
    assignNativeSymbols row (some execution) (some reference) =
      (some execution, some reference) := by
  simp [assignNativeSymbols]

/-- The native symbols of an accumulator. -/
def BootstrapRunSymbolAccumulator.natives
    (accumulator : BootstrapRunSymbolAccumulator Number) : NativePair :=
  (accumulator.executionSymbolNative, accumulator.referenceSymbolNative)

variable [NumberFormat Number]

/-- A slice assigns the native symbols of its accumulator. -/
theorem observeSlice_natives
    (accumulator : BootstrapRunSymbolAccumulator Number)
    (row : SliceRow Number) :
    (accumulator.observeSlice row).natives =
      assignNativeSymbols row accumulator.executionSymbolNative
        accumulator.referenceSymbolNative :=
  rfl

/-- An accumulator has the native symbols of its first slice. -/
theorem observeSlices_natives
    (symbol : String)
    (first : SliceRow Number)
    (rest : List (SliceRow Number)) :
    (observeSlices symbol (first :: rest)).natives = first.nativePair := by
  induction rest using List.reverseRecOn with
  | nil =>
      exact assignNativeSymbols_first first
  | append_singleton earlier row inductionHypothesis =>
      have step :
          observeSlices symbol (first :: (earlier ++ [row])) =
            (observeSlices symbol (first :: earlier)).observeSlice row := by
        rw [observeSlices, ← List.cons_append, List.foldl_append]
        rfl
      have known := Prod.mk.inj inductionHypothesis
      rw [step, observeSlice_natives]
      simp only [known.1, known.2]
      exact assignNativeSymbols_known row _ _

/-- The native symbols of the statistics of a rollup. -/
def SymbolUniverseBootstrapSymbolStats.natives
    (stats : SymbolUniverseBootstrapSymbolStats Number) : NativePair :=
  (stats.executionSymbolNative, stats.referenceSymbolNative)

/-- The native symbols that a rollup has of a symbol. -/
def SymbolUniverseBootstrapRollup.natives?
    (rollup : SymbolUniverseBootstrapRollup Number)
    (symbol : String) : Option NativePair :=
  (rollup.symbolStats? symbol).map (·.natives)

/-- A run records the native symbol of the first slice of a day. -/
theorem built_natives?
    {sha256Hex : String → String}
    {l1RunId : String}
    {inputRange : InputRange}
    {generatedAtMs : Int}
    {slices : List (SliceRow Number)}
    {rollup : SymbolUniverseBootstrapRollup Number}
    (member :
      rollup ∈
        buildSymbolUniverseBootstrapRollups sha256Hex l1RunId inputRange
          generatedAtMs slices)
    (symbol : String) :
    rollup.natives? symbol =
      (rowsOn rollup.dayStartMs symbol slices).head?.map
        (·.nativePair) := by
  have looked :=
    slicesByDaySymbol_get? slices rollup.dayStartMs symbol
  change (slicesByDaySymbol slices).get? _ =
    if rowsOn rollup.dayStartMs symbol slices = [] then none
    else some (observeSlices symbol (rowsOn _ symbol slices)) at looked
  rw [SymbolUniverseBootstrapRollup.natives?, built_symbolStats? member,
    looked]
  cases rowsOn rollup.dayStartMs symbol slices with
  | nil => rfl
  | cons first rest =>
      have natives := observeSlices_natives symbol first rest
      rw [if_neg (List.cons_ne_nil first rest)]
      exact congrArg some natives

end Slices

section Merges

variable
  {sha256Hex : String → String}
  {day : Int}
  {existing current : SymbolUniverseBootstrapRollup}

/-- Merging a run keeps known native symbols. -/
theorem merge_natives?
    {symbol execution reference : String}
    (existingForm : RollupOfDay day existing)
    (currentForm : RollupOfDay day current)
    (known :
      existing.natives? symbol = some (some execution, some reference)) :
    RollupOfDay day
        (mergeSymbolUniverseBootstrapRollup sha256Hex (some existing)
          current) ∧
      (mergeSymbolUniverseBootstrapRollup sha256Hex (some existing)
          current).natives? symbol =
        some (some execution, some reference) := by
  by_cases new : NewWindows existing current
  · refine ⟨existingForm.merge currentForm new, ?_⟩
    obtain ⟨stats, found, natives⟩ := Option.map_eq_some_iff.mp known
    obtain ⟨execution, reference⟩ := Prod.mk.inj natives
    rw [SymbolUniverseBootstrapRollup.natives?,
      merge_symbolStats? existingForm currentForm new, found]
    cases current.symbolStats? symbol with
    | none =>
        exact congrArg some natives
    | some added =>
        simp [combineStats, mergeSymbolRollup,
          SymbolUniverseBootstrapSymbolStats.natives, execution, reference]
  · rw [merge_of_recorded existingForm currentForm new]
    exact ⟨existingForm, known⟩

/-- The rollups of a run. -/
def RollupRun.rollups
    (sha256Hex : String → String)
    (run : RollupRun) : List SymbolUniverseBootstrapRollup :=
  buildSymbolUniverseBootstrapRollups sha256Hex run.l1RunId run.inputRange
    run.finishedAtMs run.slices

/-- Merge the rollup of a run into that of its day. -/
def mergeIntoDay
    (sha256Hex : String → String)
    (day : Int)
    (known : Option SymbolUniverseBootstrapRollup)
    (run : RollupRun) : Option SymbolUniverseBootstrapRollup :=
  match (run.rollups sha256Hex).find?
      (fun rollup => rollup.dayStartMs = day) with
  | some current =>
      some (mergeSymbolUniverseBootstrapRollup sha256Hex known current)
  | none => known

/-- The rollup of a day after some runs. -/
def rollupAfter
    (sha256Hex : String → String)
    (day : Int)
    (runs : List RollupRun) : Option SymbolUniverseBootstrapRollup :=
  runs.foldl (mergeIntoDay sha256Hex day) none

/-- The native symbols that some runs record of a symbol. -/
def recordedNatives
    (sha256Hex : String → String)
    (day : Int)
    (symbol : String)
    (runs : List RollupRun) : Option NativePair :=
  (rollupAfter sha256Hex day runs).bind (·.natives? symbol)

/-- A run with a slice of a day has a rollup of the day, which records the
native symbol of the first slice. -/
theorem exists_rollup_natives?
    (sha256Hex : String → String)
    {run : RollupRun}
    {symbol : String}
    {first : SliceRow}
    {rest : List SliceRow}
    (rows : rowsOn day symbol run.slices = first :: rest) :
    ∃ rollup,
      (run.rollups sha256Hex).find?
          (fun rollup => rollup.dayStartMs = day) = some rollup ∧
        RollupOfDay day rollup ∧
        rollup.natives? symbol = some first.nativePair := by
  have inRows : first ∈ rowsOn day symbol run.slices := by
    rw [rows]
    exact List.mem_cons_self
  obtain ⟨inSlices, filed⟩ := List.mem_filter.mp inRows
  simp only [decide_eq_true_eq, EmbeddingLike.apply_eq_iff_eq,
    Prod.mk.injEq] at filed
  obtain ⟨rollup, built, ofDay⟩ :=
    exists_built sha256Hex run.l1RunId run.inputRange run.finishedAtMs
      inSlices
  have sameDay : rollup.dayStartMs = day := ofDay.trans filed.1
  have days :
      ((run.rollups sha256Hex).map (fun rollup => rollup.dayStartMs)).Nodup :=
    buildSymbolUniverseBootstrapRollups_days
  have found :=
    (OrderedMap.find?_eq_some_iff_of_nodup days).mpr ⟨built, sameDay⟩
  have natives := built_natives? built symbol
  rw [sameDay, rows] at natives
  refine ⟨rollup, found, ?_, natives⟩
  rw [← sameDay]
  exact (buildSymbolUniverseBootstrapRollups_form built).1

/-- Later runs keep the native symbols of a rollup. -/
private theorem mergeIntoDays_natives?
    {symbol execution reference : String}
    (runs : List RollupRun)
    (existingForm : RollupOfDay day existing)
    (known :
      existing.natives? symbol = some (some execution, some reference)) :
    ∃ rollup,
      runs.foldl (mergeIntoDay sha256Hex day) (some existing) = some rollup ∧
        RollupOfDay day rollup ∧
        rollup.natives? symbol =
          some (some execution, some reference) := by
  induction runs generalizing existing with
  | nil =>
      exact ⟨existing, rfl, existingForm, known⟩
  | cons run runs inductionHypothesis =>
      rw [List.foldl_cons, mergeIntoDay]
      cases found :
          (run.rollups sha256Hex).find?
            (fun rollup => rollup.dayStartMs = day) with
      | none =>
          exact inductionHypothesis existingForm known
      | some current =>
          have ofDay : current.dayStartMs = day := by
            simpa using List.find?_some found
          have currentForm : RollupOfDay day current := by
            rw [← ofDay]
            exact
              (buildSymbolUniverseBootstrapRollups_form
                (List.mem_of_find?_eq_some found)).1
          obtain ⟨mergedForm, merged⟩ :=
            merge_natives? existingForm currentForm known
          exact inductionHypothesis mergedForm merged

/-- The first run of a day decides the native symbols of its rollup. -/
theorem rollupAfter_natives?
    (sha256Hex : String → String)
    {run : RollupRun}
    {symbol : String}
    {first : SliceRow}
    {rest : List SliceRow}
    (rows : rowsOn day symbol run.slices = first :: rest)
    (runs : List RollupRun) :
    ∃ rollup,
      rollupAfter sha256Hex day (run :: runs) = some rollup ∧
        RollupOfDay day rollup ∧
        rollup.natives? symbol = some first.nativePair := by
  obtain ⟨rollup, found, form, natives⟩ :=
    exists_rollup_natives? sha256Hex rows
  have start : mergeIntoDay sha256Hex day none run = some rollup := by
    rw [mergeIntoDay, found]
    rfl
  rw [rollupAfter, List.foldl_cons, start]
  exact mergeIntoDays_natives? runs form natives

/-- The recorded native symbols are those of the first slice. -/
theorem recordedNatives_eq
    (sha256Hex : String → String)
    {run : RollupRun}
    {symbol : String}
    {first : SliceRow}
    {rest : List SliceRow}
    (rows : rowsOn day symbol run.slices = first :: rest)
    (runs : List RollupRun) :
    recordedNatives sha256Hex day symbol (run :: runs) =
      some first.nativePair := by
  obtain ⟨rollup, after, _, natives⟩ :=
    rollupAfter_natives? sha256Hex rows runs
  rw [recordedNatives, after]
  exact natives

end Merges

section Shown

variable
  {Number : Type}
  [NumberFormat Number]
  {inputRange : InputRange}
  {slices : List (SliceRow Number)}
  {rollups : List (SymbolUniverseBootstrapRollup Number)}
  {symbol : String}

/-- The native symbols of some statistics. -/
def SymbolStats.natives (stat : SymbolStats Number) : NativePair :=
  (stat.executionSymbolNative, stat.referenceSymbolNative)

/-- The native symbols that a snapshot shows for a symbol. -/
def SymbolUniverseSnapshot.natives?
    (snapshot : SymbolUniverseSnapshot Number)
    (symbol : String) : Option NativePair :=
  (snapshot.members.find?
    (fun member => member.symbolCanonical = symbol)).map
      (fun member =>
        (member.executionSymbolNative, member.referenceSymbolNative))

/-- Statistics have the native symbols of their first slice. -/
private theorem observeAll_natives
    (rows : List (SliceRow Number)) :
    (rows.foldl
      (fun known row =>
        some ((known.getD (SymbolStats.fromSlice row)).observeSlice row))
      none).map (·.natives) =
      rows.head?.map (·.nativePair) := by
  induction rows using List.reverseRecOn with
  | nil =>
      rfl
  | append_singleton earlier row inductionHypothesis =>
      rw [List.foldl_append, List.foldl_cons, List.foldl_nil]
      cases earlier with
      | nil =>
          exact congrArg some (assignNativeSymbols_first row)
      | cons first rest =>
          obtain ⟨stat, reached, natives⟩ :=
            Option.map_eq_some_iff.mp inductionHypothesis
          obtain ⟨execution, reference⟩ := Prod.mk.inj natives
          rw [reached]
          change some (assignNativeSymbols row stat.executionSymbolNative
            stat.referenceSymbolNative) = _
          rw [execution, reference, assignNativeSymbols_known]
          rfl

/-- The slices of a run show the native symbol of their first row. -/
theorem symbolStats_natives
    (slices : List (SliceRow Number))
    (symbol : String) :
    ((symbolStats slices).get? symbol).map (·.natives) =
      (rowsOfSymbol symbol slices).head?.map (·.nativePair) := by
  have looked :
      (observedStats slices).get? symbol =
        (rowsOfSymbol symbol slices).foldl
          (fun known row =>
            some ((known.getD (SymbolStats.fromSlice row)).observeSlice
              row))
          none :=
    OrderedMap.get?_foldl_upsert
      (fun (row : SliceRow Number) known =>
        (known.getD (SymbolStats.fromSlice row)).observeSlice row)
      slices .empty symbol
  rw [symbolStats, OrderedMap.get?_mapValues, Option.map_map, looked]
  exact observeAll_natives (rowsOfSymbol symbol slices)

/-- Rollups do not replace known native symbols. -/
private theorem ensureAll_natives
    {execution reference : String}
    (entries : List (Int × SymbolUniverseBootstrapSymbolStats Number))
    {stat : SymbolStats Number}
    (known : stat.natives = (some execution, some reference)) :
    (entries.foldl
      (fun known entry => some (ensureBootstrapSymbolStats entry.2 known))
      (some stat)).map (·.natives) =
      some (some execution, some reference) := by
  induction entries generalizing stat with
  | nil =>
      exact congrArg some known
  | cons entry rest inductionHypothesis =>
      obtain ⟨execution, reference⟩ := Prod.mk.inj known
      refine inductionHypothesis ?_
      simp [ensureBootstrapSymbolStats, SymbolStats.natives, execution,
        reference]

/-- The statistics of a snapshot start from those of the slices. -/
private theorem ensuredStats_get?
    (stats : OrderedMap String (SymbolStats Number))
    (symbols : List (Int × SymbolUniverseBootstrapSymbolStats Number))
    (symbol : String) :
    (ensuredStats stats symbols).get? symbol =
      (symbols.filter
        (fun entry => entry.2.symbolCanonical = symbol)).foldl
          (fun known entry =>
            some (ensureBootstrapSymbolStats entry.2 known))
          (stats.get? symbol) :=
  OrderedMap.get?_foldl_upsert
    (fun (entry : Int × SymbolUniverseBootstrapSymbolStats Number) =>
      ensureBootstrapSymbolStats entry.2)
    symbols stats symbol

/-- A snapshot shows the native symbols of its statistics. -/
theorem snapshot_natives?
    (sha256Hex : String → String)
    (l1RunId : String)
    (inputRange : InputRange)
    (generatedAtMs : Int)
    (slices : List (SliceRow Number))
    (rollups : List (SymbolUniverseBootstrapRollup Number))
    (symbol : String) :
    (buildSymbolUniverseSnapshotFromBootstrap sha256Hex l1RunId inputRange
        generatedAtMs slices rollups).natives? symbol =
      ((symbolStatsFromBootstrap inputRange slices rollups).get?
        symbol).map (·.natives) := by
  let stats := symbolStatsFromBootstrap inputRange slices rollups
  let members :=
    stats.values.map (universeMember (rankBySymbol (liquidityRanks stats)))
  have divided := dividedMembers_perm members
  have symbols : members.map (·.symbolCanonical) = stats.keys := by
    rw [← symbolStatsFromBootstrap_symbols, List.map_map]
    rfl
  have listedOnce := (divided.map (·.symbolCanonical)).nodup_iff.mpr
    (symbols ▸ stats.keys_nodup)
  have shown :
      ((members.filter (·.approvedUniverseSymbol)).insertionSort
          memberBefore ++
        (members.filter fun member =>
          !member.approvedUniverseSymbol).insertionSort memberBefore).find?
            (fun member => member.symbolCanonical = symbol) =
        (stats.get? symbol).map
          (universeMember (rankBySymbol (liquidityRanks stats))) := by
    apply Option.ext
    intro member
    rw [OrderedMap.find?_eq_some_iff_of_nodup listedOnce,
      divided.mem_iff, Option.map_eq_some_iff]
    constructor
    · rintro ⟨listed, named⟩
      obtain ⟨stat, inStats, rfl⟩ := List.mem_map.mp listed
      obtain ⟨key, found⟩ := OrderedMap.mem_values_iff.mp inStats
      have own := symbolStatsFromBootstrap_named found
      exact ⟨stat, (own.symm.trans named) ▸ found, rfl⟩
    · rintro ⟨stat, found, rfl⟩
      exact
        ⟨List.mem_map_of_mem
            (OrderedMap.mem_values_iff.mpr ⟨symbol, found⟩),
          symbolStatsFromBootstrap_named found⟩
  refine (congrArg _ shown).trans ?_
  rw [Option.map_map]
  rfl

/-- A snapshot shows the native symbol of the first slice of the run. -/
theorem snapshot_natives?_of_slices
    {first : SliceRow Number}
    {rest : List (SliceRow Number)}
    (rows : rowsOfSymbol symbol slices = first :: rest)
    (rollups : List (SymbolUniverseBootstrapRollup Number)) :
    ((symbolStatsFromBootstrap inputRange slices rollups).get?
      symbol).map (·.natives) = some first.nativePair := by
  have started := symbolStats_natives slices symbol
  rw [rows] at started
  obtain ⟨stat, found, natives⟩ := Option.map_eq_some_iff.mp started
  rw [symbolStatsFromBootstrap, OrderedMap.get?_mapValues,
    Option.map_map, ensuredStats_get?, found]
  exact ensureAll_natives _ natives

/-- Without slices of a symbol, a snapshot shows what the first rollup has. -/
theorem snapshot_natives?_of_rollup
    {rollup : SymbolUniverseBootstrapRollup Number}
    {execution reference : String}
    (rows : rowsOfSymbol symbol slices = [])
    (admitted : Admitted inputRange rollup = true)
    (recorded :
      rollup.natives? symbol = some (some execution, some reference))
    (later : List (SymbolUniverseBootstrapRollup Number)) :
    ((symbolStatsFromBootstrap inputRange slices
      (rollup :: later)).get? symbol).map (·.natives) =
      some (some execution, some reference) := by
  have absent := symbolStats_natives slices symbol
  rw [rows] at absent
  obtain ⟨stats, found, natives⟩ := Option.map_eq_some_iff.mp recorded
  have listed :
      (rollup.symbols.filter
        (fun stats => stats.symbolCanonical = symbol)).head? =
        some stats := by
    rw [List.head?_filter]
    exact found
  obtain ⟨others, symbols⟩ := List.head?_eq_some_iff.mp listed
  rw [symbolStatsFromBootstrap, OrderedMap.get?_mapValues,
    Option.map_map, ensuredStats_get?, Option.map_eq_none_iff.mp absent,
    List.filter_cons_of_pos admitted, rollupSymbols, List.flatMap_cons,
    List.filter_append, List.filter_map]
  change ((List.map _ (rollup.symbols.filter
    (fun stats => stats.symbolCanonical = symbol)) ++ _).foldl _ none).map
      _ = _
  rw [symbols, List.map_cons, List.cons_append, List.foldl_cons]
  obtain ⟨execution, reference⟩ := Prod.mk.inj natives
  refine ensureAll_natives _ ?_
  simp [ensureBootstrapSymbolStats, SymbolStats.natives,
    SymbolStats.fromBootstrap, execution, reference]

end Shown

section Venues

/-- The run has the same slices in another order. -/
structure RollupRun.Reordered (run other : RollupRun) : Prop where
  l1RunId : other.l1RunId = run.l1RunId
  inputRange : other.inputRange = run.inputRange
  finishedAtMs : other.finishedAtMs = run.finishedAtMs
  slices : other.slices.Perm run.slices

/-- Some of the rows are of the execution and some of the reference venue. -/
def HasBothVenues (rows : List SliceRow) : Prop :=
  (∃ row ∈ rows, row.venue = "upbit") ∧
    ∃ row ∈ rows, row.venue = "binance"

/-- All rows have the same native symbol. -/
def OneNative (rows : List SliceRow) : Prop :=
  ∀ first ∈ rows, ∀ second ∈ rows,
    first.symbolNative = second.symbolNative

/-- Both native symbols are those of rows of their venue. -/
def VenueNatives
    (rows : List SliceRow)
    (symbol : String)
    (natives : Option NativePair) : Prop :=
  ∃ execution reference,
    natives = some (some execution, some reference) ∧
      (∃ row ∈ rows,
        row.symbolCanonical = symbol ∧ row.venue = "upbit" ∧
          row.symbolNative = execution) ∧
        ∃ row ∈ rows,
          row.symbolCanonical = symbol ∧ row.venue = "binance" ∧
            row.symbolNative = reference

/-- The native symbols in the snapshot of a run that reads the rollup of a day
after some runs, and later rollups. -/
def shownNatives
    (sha256Hex : String → String)
    (day : Int)
    (symbol : String)
    (later : List SymbolUniverseBootstrapRollup)
    (runs : List RollupRun)
    (current : RollupRun) : Option NativePair :=
  (buildSymbolUniverseSnapshotFromBootstrap sha256Hex current.l1RunId
    current.inputRange current.finishedAtMs current.slices
    ((rollupAfter sha256Hex day runs).toList ++ later)).natives? symbol

/-- Whatever the order of the slices, the recorded and the shown native symbols
are those of their venues, and always the same. -/
structure NativesFollowVenues
    (sha256Hex : String → String)
    (day : Int)
    (symbol : String)
    (later : List SymbolUniverseBootstrapRollup)
    (runs : List RollupRun)
    (current : RollupRun) : Prop where
  recorded :
    ∀ others, List.Forall₂ RollupRun.Reordered runs others →
      VenueNatives (runs.flatMap (·.slices)) symbol
          (recordedNatives sha256Hex day symbol others) ∧
        recordedNatives sha256Hex day symbol others =
          recordedNatives sha256Hex day symbol runs
  shown :
    ∀ others other, List.Forall₂ RollupRun.Reordered runs others →
      current.Reordered other →
      VenueNatives (runs.flatMap (·.slices) ++ current.slices) symbol
          (shownNatives sha256Hex day symbol later others other) ∧
        shownNatives sha256Hex day symbol later others other =
          shownNatives sha256Hex day symbol later runs current

/-- A run is its own reordering. -/
theorem RollupRun.Reordered.refl
    (run : RollupRun) : run.Reordered run where
  l1RunId := rfl
  inputRange := rfl
  finishedAtMs := rfl
  slices := .refl _

/-- Any slice of a run can come first. -/
theorem RollupRun.exists_reordered_first
    (run : RollupRun)
    {first : SliceRow}
    (member : first ∈ run.slices) :
    ∃ other rest,
      run.Reordered other ∧ other.slices = first :: rest := by
  obtain ⟨before, after, split⟩ := List.append_of_mem member
  have moved : (first :: (before ++ after)).Perm run.slices := by
    rw [split]
    exact List.perm_middle.symm
  refine
    ⟨{ run with
        slices := first :: (before ++ after)
        dated := fun row inMoved =>
          run.dated row (moved.mem_iff.mp inMoved) },
      before ++ after, ⟨rfl, rfl, rfl, moved⟩, rfl⟩

/-- Rows that are there are there in any order. -/
private theorem exists_first_of_perm
    {rows others : List SliceRow}
    {selects : SliceRow → Bool}
    (reordered : others.Perm rows)
    (present : rows.filter selects ≠ []) :
    ∃ first rest,
      others.filter selects = first :: rest ∧
        first ∈ rows.filter selects := by
  have same := reordered.filter selects
  cases found : others.filter selects with
  | nil =>
      rw [found] at same
      exact absurd (List.nil_perm.mp same) present
  | cons first rest =>
      refine ⟨first, rest, rfl, same.mem_iff.mp ?_⟩
      rw [found]
      exact List.mem_cons_self

/-- Rows of both venues with one native symbol show it for both. -/
private theorem venueNatives_of_oneNative
    {rows all : List SliceRow}
    {symbol : String}
    {first : SliceRow}
    (among :
      ∀ row ∈ rows, row ∈ all ∧ row.symbolCanonical = symbol)
    (both : HasBothVenues rows)
    (one : OneNative rows)
    (member : first ∈ rows) :
    VenueNatives all symbol (some first.nativePair) := by
  obtain ⟨⟨upbit, upbitRow, isUpbit⟩, binance, binanceRow, isBinance⟩ :=
    both
  exact
    ⟨first.symbolNative, first.symbolNative, rfl,
      ⟨upbit, (among upbit upbitRow).1, (among upbit upbitRow).2, isUpbit,
        one upbit upbitRow first member⟩,
      binance, (among binance binanceRow).1, (among binance binanceRow).2,
      isBinance, one binance binanceRow first member⟩

/-- Rows of both venues are there. -/
private theorem HasBothVenues.ne_nil
    {rows : List SliceRow}
    (both : HasBothVenues rows) :
    rows ≠ [] := by
  obtain ⟨⟨row, member, _⟩, _⟩ := both
  exact List.ne_nil_of_mem member

/-- The rows of a symbol on a day are of the symbol and of the day. -/
private theorem mem_rowsOn
    {day : Int}
    {symbol : String}
    {rows : List SliceRow}
    {row : SliceRow}
    (member : row ∈ rowsOn day symbol rows) :
    row ∈ rows ∧ dayStartMs row.windowStartMs = day ∧
      row.symbolCanonical = symbol := by
  obtain ⟨inRows, filed⟩ := List.mem_filter.mp member
  simp only [decide_eq_true_eq, EmbeddingLike.apply_eq_iff_eq,
    Prod.mk.injEq] at filed
  exact ⟨inRows, filed⟩

/-- The rows of a symbol are of the symbol. -/
private theorem mem_rowsOfSymbol
    {symbol : String}
    {rows : List SliceRow}
    {row : SliceRow}
    (member : row ∈ rowsOfSymbol symbol rows) :
    row ∈ rows ∧ row.symbolCanonical = symbol := by
  obtain ⟨inRows, named⟩ := List.mem_filter.mp member
  exact ⟨inRows, by simpa using named⟩

/-- The first slice of a symbol in the snapshot's run is shown. -/
theorem shownNatives_of_slices
    {symbol : String}
    {current : RollupRun}
    {first : SliceRow}
    {rest : List SliceRow}
    (rows : rowsOfSymbol symbol current.slices = first :: rest)
    (sha256Hex : String → String)
    (day : Int)
    (later : List SymbolUniverseBootstrapRollup)
    (runs : List RollupRun) :
    shownNatives sha256Hex day symbol later runs current =
      some first.nativePair := by
  rw [shownNatives, snapshot_natives?]
  exact snapshot_natives?_of_slices rows _

/-- Without such a slice the recorded native symbols are shown. -/
theorem shownNatives_of_rollup
    {day : Int}
    {symbol : String}
    {current run : RollupRun}
    {first : SliceRow}
    {rest : List SliceRow}
    (none : rowsOfSymbol symbol current.slices = [])
    (representable : current.inputRange.DaysRepresentable)
    (covered : day ∈ bootstrapRollupDayStarts current.inputRange)
    (rows : rowsOn day symbol run.slices = first :: rest)
    (sha256Hex : String → String)
    (later : List SymbolUniverseBootstrapRollup)
    (runs : List RollupRun) :
    shownNatives sha256Hex day symbol later (run :: runs) current =
      some first.nativePair := by
  obtain ⟨rollup, after, form, natives⟩ :=
    rollupAfter_natives? sha256Hex rows runs
  have inRows : first ∈ rowsOn day symbol run.slices := by
    rw [rows]
    exact List.mem_cons_self
  have aligned : rollup.dayStartMs % dayMs = 0 := by
    rw [form.day, ← (mem_rowsOn inRows).2.1]
    exact Int.mul_emod_left _ _
  have admitted : Admitted current.inputRange rollup = true := by
    rw [admitted_iff representable aligned, form.day]
    exact ⟨form.schema, covered⟩
  rw [shownNatives, snapshot_natives?, after]
  exact snapshot_natives?_of_rollup none admitted natives later

/-- Rows that all have what does not change have one native symbol. -/
private theorem oneNative_of_constant
    {rows : List SliceRow}
    {natives : Option NativePair}
    (each : ∀ row ∈ rows, natives = some row.nativePair) :
    OneNative rows := by
  intro first firstMember second secondMember
  have same :=
    (each first firstMember).symm.trans (each second secondMember)
  exact Option.some.inj (Prod.mk.inj (Option.some.inj same)).1

/-- Rows with one native symbol have the same pair. -/
private theorem OneNative.nativePair_eq
    {rows : List SliceRow}
    {first second : SliceRow}
    (one : OneNative rows)
    (firstMember : first ∈ rows)
    (secondMember : second ∈ rows) :
    first.nativePair = second.nativePair := by
  unfold SliceRow.nativePair
  rw [one first firstMember second secondMember]

/-- Reordered runs record the native symbol of a row of the first run. -/
private theorem recordedNatives_of_reordered
    {sha256Hex : String → String}
    {day : Int}
    {symbol : String}
    {run : RollupRun}
    {runs others : List RollupRun}
    (present : rowsOn day symbol run.slices ≠ [])
    (reordered : List.Forall₂ RollupRun.Reordered (run :: runs) others) :
    ∃ other rest first,
      others = other :: rest ∧
        (∃ tail, rowsOn day symbol other.slices = first :: tail) ∧
        first ∈ rowsOn day symbol run.slices ∧
        recordedNatives sha256Hex day symbol others =
          some first.nativePair := by
  cases reordered with
  | @cons _ other _ rest ofFirst ofRest =>
      obtain ⟨first, tail, rows, member⟩ :=
        exists_first_of_perm ofFirst.slices present
      exact
        ⟨other, rest, first, rfl, ⟨tail, rows⟩, member,
          recordedNatives_eq sha256Hex rows rest⟩

/-- A reordered run that has slices of the symbol shows one of them. -/
private theorem shownNatives_of_reordered
    {sha256Hex : String → String}
    {day : Int}
    {symbol : String}
    {later : List SymbolUniverseBootstrapRollup}
    {runs : List RollupRun}
    {current other : RollupRun}
    (present : rowsOfSymbol symbol current.slices ≠ [])
    (reordered : current.Reordered other) :
    ∃ first ∈ rowsOfSymbol symbol current.slices,
      shownNatives sha256Hex day symbol later runs other =
        some first.nativePair := by
  obtain ⟨first, rest, rows, member⟩ :=
    exists_first_of_perm reordered.slices present
  exact ⟨first, member, shownNatives_of_slices rows _ _ _ _⟩

section Exactly

variable
  {sha256Hex : String → String}
  {day : Int}
  {symbol : String}
  {later : List SymbolUniverseBootstrapRollup}
  {run : RollupRun}
  {runs : List RollupRun}
  {current : RollupRun}

/-- Runs are reorderings of themselves. -/
private theorem reordered_refl
    (runs : List RollupRun) :
    List.Forall₂ RollupRun.Reordered runs runs :=
  List.forall₂_same.mpr (fun run _ => .refl run)

/-- If the order does not matter, the rows have one native symbol. -/
private theorem NativesFollowVenues.oneNative
    (follows :
      NativesFollowVenues sha256Hex day symbol later (run :: runs)
        current) :
    OneNative (rowsOn day symbol run.slices) ∧
      OneNative (rowsOfSymbol symbol current.slices) := by
  constructor
  · apply oneNative_of_constant
    intro row member
    obtain ⟨other, rest, reordered, first⟩ :=
      run.exists_reordered_first (mem_rowsOn member).1
    have rows :
        rowsOn day symbol other.slices = row :: rowsOn day symbol rest := by
      rw [first]
      exact List.filter_cons_of_pos (List.mem_filter.mp member).2
    rw [← recordedNatives_eq sha256Hex rows runs]
    exact
      (follows.recorded (other :: runs)
        (.cons reordered (reordered_refl runs))).2.symm
  · apply oneNative_of_constant
    intro row member
    obtain ⟨other, rest, reordered, first⟩ :=
      current.exists_reordered_first (mem_rowsOfSymbol member).1
    have rows :
        rowsOfSymbol symbol other.slices = row :: rowsOfSymbol symbol rest := by
      rw [first]
      exact List.filter_cons_of_pos (List.mem_filter.mp member).2
    rw [← shownNatives_of_slices rows sha256Hex day later (run :: runs)]
    exact
      (follows.shown (run :: runs) other (reordered_refl _)
        reordered).2.symm

/-- Rows with one native symbol are recorded in any order. -/
private theorem recorded_of_oneNative
    (both : HasBothVenues (rowsOn day symbol run.slices))
    (one : OneNative (rowsOn day symbol run.slices))
    {others : List RollupRun}
    (reordered : List.Forall₂ RollupRun.Reordered (run :: runs) others) :
    VenueNatives ((run :: runs).flatMap (·.slices)) symbol
        (recordedNatives sha256Hex day symbol others) ∧
      recordedNatives sha256Hex day symbol others =
        recordedNatives sha256Hex day symbol (run :: runs) := by
  obtain ⟨_, _, first, _, _, member, recorded⟩ :=
    @recordedNatives_of_reordered sha256Hex _ _ _ _ _ both.ne_nil
      reordered
  obtain ⟨_, _, own, _, _, ownMember, ownRecorded⟩ :=
    @recordedNatives_of_reordered sha256Hex _ _ _ _ _ both.ne_nil
      (reordered_refl (run :: runs))
  rw [recorded, ownRecorded]
  constructor
  · refine venueNatives_of_oneNative ?_ both one member
    intro row inRows
    obtain ⟨inSlices, _, named⟩ := mem_rowsOn inRows
    exact
      ⟨List.mem_flatMap.mpr ⟨run, List.mem_cons_self, inSlices⟩, named⟩
  · rw [one.nativePair_eq member ownMember]

/-- Rows with one native symbol are shown in any order. -/
private theorem shown_of_oneNative
    (both : HasBothVenues (rowsOn day symbol run.slices))
    (currentBoth :
      rowsOfSymbol symbol current.slices = [] ∨
        HasBothVenues (rowsOfSymbol symbol current.slices))
    (representable : current.inputRange.DaysRepresentable)
    (covered : day ∈ bootstrapRollupDayStarts current.inputRange)
    (one : OneNative (rowsOn day symbol run.slices))
    (currentOne : OneNative (rowsOfSymbol symbol current.slices))
    {others : List RollupRun}
    {other : RollupRun}
    (reordered : List.Forall₂ RollupRun.Reordered (run :: runs) others)
    (currentReordered : current.Reordered other) :
    VenueNatives
        ((run :: runs).flatMap (·.slices) ++ current.slices) symbol
        (shownNatives sha256Hex day symbol later others other) ∧
      shownNatives sha256Hex day symbol later others other =
        shownNatives sha256Hex day symbol later (run :: runs) current := by
  rcases currentBoth with none | present
  · obtain ⟨head, rest, first, rfl, ⟨tail, rows⟩, member, _⟩ :=
      @recordedNatives_of_reordered sha256Hex _ _ _ _ _ both.ne_nil
        reordered
    obtain ⟨own, ownTail, ownRows, ownMember⟩ :=
      exists_first_of_perm (.refl run.slices) both.ne_nil
    have otherNone : rowsOfSymbol symbol other.slices = [] := by
      have same := currentReordered.slices.filter
        (fun row => row.symbolCanonical = symbol)
      exact (same.trans (.of_eq none)).eq_nil
    have shown :=
      shownNatives_of_rollup otherNone
        (currentReordered.inputRange ▸ representable)
        (currentReordered.inputRange ▸ covered) rows sha256Hex later rest
    have ownShown :=
      shownNatives_of_rollup none representable covered ownRows sha256Hex
        later runs
    rw [shown, ownShown]
    constructor
    · refine venueNatives_of_oneNative ?_ both one member
      intro row inRows
      obtain ⟨inSlices, _, named⟩ := mem_rowsOn inRows
      exact
        ⟨List.mem_append_left _
          (List.mem_flatMap.mpr ⟨run, List.mem_cons_self, inSlices⟩),
          named⟩
    · rw [one.nativePair_eq member ownMember]
  · obtain ⟨first, member, shown⟩ :=
      shownNatives_of_reordered present.ne_nil currentReordered
    obtain ⟨own, ownMember, ownShown⟩ :=
      shownNatives_of_reordered present.ne_nil (.refl current)
    rw [shown, ownShown]
    constructor
    · refine venueNatives_of_oneNative ?_ present currentOne member
      intro row inRows
      obtain ⟨inSlices, named⟩ := mem_rowsOfSymbol inRows
      exact ⟨List.mem_append_right _ inSlices, named⟩
    · rw [currentOne.nativePair_eq member ownMember]

end Exactly

/-- The native symbols follow the venues exactly if the slices of the symbol
have one native symbol, whatever their venue. -/
theorem nativesFollowVenues_iff
    (sha256Hex : String → String)
    (day : Int)
    (symbol : String)
    (later : List SymbolUniverseBootstrapRollup)
    (run : RollupRun)
    (runs : List RollupRun)
    (current : RollupRun)
    (both : HasBothVenues (rowsOn day symbol run.slices))
    (currentBoth :
      rowsOfSymbol symbol current.slices = [] ∨
        HasBothVenues (rowsOfSymbol symbol current.slices))
    (representable : current.inputRange.DaysRepresentable)
    (covered : day ∈ bootstrapRollupDayStarts current.inputRange) :
    NativesFollowVenues sha256Hex day symbol later (run :: runs) current ↔
      OneNative (rowsOn day symbol run.slices) ∧
        OneNative (rowsOfSymbol symbol current.slices) := by
  constructor
  · exact NativesFollowVenues.oneNative
  · rintro ⟨one, currentOne⟩
    exact
      { recorded := fun _ => recorded_of_oneNative both one
        shown := fun _ _ =>
          shown_of_oneNative both currentBoth representable covered one
            currentOne }

end Venues

section Example

/-- A slice of the execution venue. -/
def krwBtcSlice (windowStartMs : Int) : SliceRow :=
  { btcSlice windowStartMs with
    sliceId := "krw"
    venue := "upbit"
    sourceRole := "execution"
    symbolNative := "KRW-BTC"
    quoteAsset := "KRW" }

/-- A run with a slice of each venue, in the order of the build. -/
def twoVenueRun : RollupRun where
  l1RunId := l1RunId 0 900000 1900000
  inputRange := ⟨0, 900000⟩
  finishedAtMs := 2000000
  slices := [btcSlice 0, krwBtcSlice 0]
  dated := by
    intro row member
    rcases List.mem_pair.mp member with rfl | rfl
    · decide
    · decide

/-- The execution symbol of the run is the symbol of the reference venue. -/
theorem twoVenueRun_records_reference :
    ¬ NativesFollowVenues quarterHourSha256Hex 0 "BTC" [] [twoVenueRun]
      twoVenueRun := by
  intro follows
  have rows :
      rowsOn 0 "BTC" twoVenueRun.slices = [btcSlice 0, krwBtcSlice 0] := by
    rfl
  obtain ⟨⟨execution, reference, recorded, ⟨row, member, _, upbit, native⟩,
      _⟩, _⟩ :=
    follows.recorded [twoVenueRun]
      (.cons (.refl twoVenueRun) .nil)
  rw [recordedNatives_eq quarterHourSha256Hex rows []] at recorded
  have isReference : execution = "BTCUSDT" :=
    (Option.some.inj (Prod.mk.inj (Option.some.inj recorded)).1).symm
  rcases List.mem_pair.mp member with rfl | rfl
  · exact absurd upbit (by decide)
  · rw [isReference] at native
    exact absurd native (by decide)

/-- One native symbol for both venues is recorded for both. -/
def sharedNativeRun : RollupRun where
  l1RunId := l1RunId 0 900000 1900000
  inputRange := ⟨0, 900000⟩
  finishedAtMs := 2000000
  slices := [btcSlice 0, { krwBtcSlice 0 with symbolNative := "BTCUSDT" }]
  dated := by
    intro row member
    rcases List.mem_pair.mp member with rfl | rfl
    · decide
    · decide

/-- With one native symbol for both venues the order does not matter. -/
theorem sharedNativeRun_follows :
    NativesFollowVenues quarterHourSha256Hex 0 "BTC" [] [sharedNativeRun]
      sharedNativeRun := by
  have rows :
      rowsOn 0 "BTC" sharedNativeRun.slices = sharedNativeRun.slices :=
    rfl
  have currentRows :
      rowsOfSymbol "BTC" sharedNativeRun.slices = sharedNativeRun.slices :=
    rfl
  have both : HasBothVenues sharedNativeRun.slices :=
    ⟨⟨_, List.mem_cons_of_mem _ List.mem_cons_self, rfl⟩,
      ⟨_, List.mem_cons_self, rfl⟩⟩
  have one : OneNative sharedNativeRun.slices := by
    intro first firstMember second secondMember
    rcases List.mem_pair.mp firstMember with rfl | rfl
    all_goals
      rcases List.mem_pair.mp secondMember with rfl | rfl
      all_goals rfl
  refine
    (nativesFollowVenues_iff quarterHourSha256Hex 0 "BTC" []
      sharedNativeRun [] sharedNativeRun ?_ ?_ ?_ ?_).mpr ⟨?_, ?_⟩
  · exact rows ▸ both
  · exact Or.inr (currentRows ▸ both)
  · unfold InputRange.DaysRepresentable
    decide
  · decide
  · exact rows ▸ one
  · exact currentRows ▸ one

end Example

end MarketIngest.Normalize
