import MarketIngest.ModeDecision
import MarketIngest.RollupMergeOrder
import MarketIngest.Runs

namespace MarketIngest.Normalize

/-!
# How often a window is counted

The rollup of a day should count every slice that some run of the day covered,
and count it once.  A run is left out of the merge only if a run of exactly the
same range was merged before.  Ranges that overlap without being equal are both
merged, so their common slices are counted twice, and what a second run of a
range adds to the first is not counted at all.
-/

variable
  {Number : Type}
  [NumberFormat Number]

/-- A run with the slices that it built for an accepted range. -/
structure UniverseRun (Number : Type) where
  l1RunId : String
  inputRange : InputRange
  generatedAtMs : Int
  windowMs : PositiveI64
  scheduleIntervalMs : PositiveI64
  slices : List (SliceRow Number)
  accepted :
    validateRange inputRange.startMs inputRange.endMs windowMs
      scheduleIntervalMs = .ok ()
  distinct : (slices.map (fun row => row.key)).Nodup
  inside :
    ∀ row ∈ slices,
      inputRange.startMs ≤ row.windowStartMs ∧
        row.windowStartMs < inputRange.endMs ∧
        windowMs.1 ∣ row.windowStartMs

/-- The slices of a run that are of a day. -/
def UniverseRun.slicesOf
    (run : UniverseRun Number)
    (day : Int) : List (SliceRow Number) :=
  run.slices.filter (fun row => dayStartMs row.windowStartMs = day)

/-- The rollup that a run builds for a day, if it has slices of the day. -/
def UniverseRun.rollupOf
    (sha256Hex : String → String)
    (run : UniverseRun Number)
    (day : Int) : Option (SymbolUniverseBootstrapRollup Number) :=
  (buildSymbolUniverseBootstrapRollups sha256Hex run.l1RunId
    run.inputRange run.generatedAtMs run.slices).find?
      (fun rollup => rollup.dayStartMs = day)

/-- The rollup of a day and the slices that the runs so far covered. -/
structure DayHistory (Number : Type) where
  rollup : Option (SymbolUniverseBootstrapRollup Number)
  covered : List (SliceRow Number)

/-- Nothing was merged. -/
def DayHistory.start : DayHistory Number where
  rollup := none
  covered := []

/-- The slices of a day that a run is the first to cover. -/
def DayHistory.newlyCovered
    (history : DayHistory Number)
    (run : UniverseRun Number)
    (day : Int) : List (SliceRow Number) :=
  (run.slicesOf day).filter
    (fun row => row.key ∉ history.covered.map (fun known => known.key))

/-- Merge the rollup of a run into the one of the day. -/
def mergeRun
    (sha256Hex : String → String)
    (day : Int)
    (history : DayHistory Number)
    (run : UniverseRun Number) : DayHistory Number where
  rollup :=
    match run.rollupOf sha256Hex day with
    | some current =>
        some
          (mergeSymbolUniverseBootstrapRollup sha256Hex history.rollup
            current)
    | none => history.rollup
  covered := history.covered ++ history.newlyCovered run day

/-- The traded notional that a slice adds to its symbol, if any. -/
def tradedNotional (row : SliceRow Number) : Option Number :=
  let notional := (price row).getD 0 * row.tradeVolume
  if NumberFormat.isFinite notional && decide (0 < notional) then
    some notional
  else
    none

/-- The totals that a rollup holds of a symbol. -/
def DayHistory.totalsOf
    (history : DayHistory Number)
    (symbol : String) : Option (SymbolTotals Number) :=
  history.rollup.bind (fun rollup => totalsAmong rollup.symbols symbol)

/-- The covered slices of a symbol. -/
def DayHistory.coveredOf
    (history : DayHistory Number)
    (symbol : String) : List (SliceRow Number) :=
  history.covered.filter (fun row => row.symbolCanonical = symbol)

/-- The totals count the given slices, each once. -/
structure Counts
    (totals : Option (SymbolTotals Number))
    (rows : List (SliceRow Number)) : Prop where
  windowCount :
    totals.elim 0 (fun known => known.windowCount) = rows.length
  gapCount :
    totals.elim 0 (fun known => known.gapCount) =
      (rows.map (fun row => row.qualityGap)).sum
  tradedNotionalSum :
    totals.elim 0 (fun known => known.tradedNotionalSum) =
      sumOf (rows.filterMap tradedNotional)

/-- The rollup counts every covered slice of every symbol once. -/
def CountsOnce (history : DayHistory Number) : Prop :=
  ∀ symbol, Counts (history.totalsOf symbol) (history.coveredOf symbol)

/-- A run of exactly this range was merged before. -/
def Recorded
    (history : DayHistory Number)
    (run : UniverseRun Number) : Prop :=
  ∃ rollup, history.rollup = some rollup ∧
    (run.inputRange.startMs, run.inputRange.endMs) ∈ rollup.windowBounds

/--
A run with slices of the day either has a new range and new slices only, or
repeats a range without a new slice.
-/
def CoversNewOrRepeats
    (day : Int)
    (history : DayHistory Number)
    (run : UniverseRun Number) : Prop :=
  run.slicesOf day = [] ∨
    ¬ Recorded history run ∧
        history.newlyCovered run day = run.slicesOf day ∨
    Recorded history run ∧ history.newlyCovered run day = []

section Building

variable
  {sha256Hex : String → String}
  {day : Int}
  {run : UniverseRun Number}

/-- A slice adds its traded notional, if any. -/
private theorem observeSlice_tradedNotionalSum
    (accumulator : BootstrapRunSymbolAccumulator Number)
    (row : SliceRow Number) :
    (accumulator.observeSlice row).tradedNotionalSum =
      (tradedNotional row).toList.foldl (fun sum summand => sum + summand)
        accumulator.tradedNotionalSum := by
  simp only [BootstrapRunSymbolAccumulator.observeSlice, tradedNotional]
  split_ifs <;> rfl

/-- What the slices of a symbol add up to. -/
private theorem observeSlices_counts
    (symbol : String)
    (rows : List (SliceRow Number)) :
    Counts
      (some (observeSlices symbol rows).intoSymbolStats.totals) rows := by
  induction rows using List.reverseRecOn with
  | nil =>
      exact ⟨rfl, rfl, rfl⟩
  | append_singleton earlier row inductionHypothesis =>
      have last :
          observeSlices symbol (earlier ++ [row]) =
            (observeSlices symbol earlier).observeSlice row := by
        rw [observeSlices, List.foldl_append]
        rfl
      obtain ⟨windows, gaps, notional⟩ := inductionHypothesis
      simp only [Option.elim_some,
        SymbolUniverseBootstrapSymbolStats.totals,
        BootstrapRunSymbolAccumulator.intoSymbolStats]
        at windows gaps notional
      rw [last]
      refine ⟨?_, ?_, ?_⟩
      · change (observeSlices symbol earlier).windowCount + 1 = _
        rw [windows, List.length_append]
        rfl
      · change
          (observeSlices symbol earlier).gapCount + row.qualityGap = _
        simp [gaps]
      · change
          ((observeSlices symbol earlier).observeSlice
            row).tradedNotionalSum = _
        rw [observeSlice_tradedNotionalSum, notional,
          List.filterMap_append, sumOf, sumOf, List.foldl_append]
        cases added : tradedNotional row <;> simp [added]

/-- The rollup of a day counts the slices of the day once. -/
private theorem rollupOf_counts
    {rollup : SymbolUniverseBootstrapRollup Number}
    (built : run.rollupOf sha256Hex day = some rollup)
    (symbol : String) :
    Counts (totalsAmong rollup.symbols symbol)
      ((run.slicesOf day).filter
        (fun row => row.symbolCanonical = symbol)) := by
  have member := List.mem_of_find?_eq_some built
  have sameDay : rollup.dayStartMs = day := by
    simpa using List.find?_some built
  have stats := built_symbolStats? member symbol
  rw [SymbolUniverseBootstrapRollup.symbolStats?, sameDay,
    slicesByDaySymbol_get?] at stats
  have rows :
      (run.slicesOf day).filter
          (fun row => row.symbolCanonical = symbol) =
        run.slices.filter (fun row =>
          (toLex (dayStartMs row.windowStartMs, row.symbolCanonical) :
            Int ×ₗ String) = toLex (day, symbol)) := by
    rw [UniverseRun.slicesOf, List.filter_filter]
    refine List.filter_congr ?_
    intro row _
    simp [and_comm]
  rw [totalsAmong, stats, ← rows]
  split_ifs with empty
  · rw [empty]
    exact ⟨rfl, rfl, rfl⟩
  · exact observeSlices_counts symbol _

/-- A run builds a rollup of a day exactly if it has slices of the day. -/
private theorem rollupOf_eq_none_iff :
    run.rollupOf sha256Hex day = none ↔ run.slicesOf day = [] := by
  rw [UniverseRun.rollupOf, List.find?_eq_none, UniverseRun.slicesOf,
    List.filter_eq_nil_iff]
  constructor
  · intro unbuilt row member
    obtain ⟨rollup, built, rollupDay⟩ :=
      exists_built sha256Hex run.l1RunId run.inputRange
        run.generatedAtMs member
    have otherDay := unbuilt rollup built
    rwa [rollupDay] at otherDay
  · intro noSlice rollup built
    obtain ⟨-, -, row, member, rowDay⟩ :=
      buildSymbolUniverseBootstrapRollups_form built
    have otherDay := noSlice row member
    rwa [rowDay] at otherDay

/-- The rollup that a run builds has the range of the run as its window. -/
private theorem rollupOf_runRollup
    {rollup : SymbolUniverseBootstrapRollup Number}
    (built : run.rollupOf sha256Hex day = some rollup) :
    RollupOfDay day rollup ∧
      rollup.windowBounds =
        [(run.inputRange.startMs, run.inputRange.endMs)] := by
  have sameDay : rollup.dayStartMs = day := by
    simpa using List.find?_some built
  obtain ⟨form, windows, -⟩ :=
    buildSymbolUniverseBootstrapRollups_form
      (List.mem_of_find?_eq_some built)
  refine ⟨sameDay ▸ form, ?_⟩
  rw [SymbolUniverseBootstrapRollup.windowBounds, windows]
  rfl

end Building

section Steps

variable
  {sha256Hex : String → String}
  {day : Int}
  {history : DayHistory Number}
  {run : UniverseRun Number}

/-- A missing total counts as nothing in a sum of totals. -/
private theorem addTotals_elim
    [ExactAddition Number]
    (existing current : Option (SymbolTotals Number)) :
    let sum := addTotals existing current
    sum.elim 0 (fun known => known.windowCount) =
        existing.elim 0 (fun known => known.windowCount) +
          current.elim 0 (fun known => known.windowCount) ∧
      sum.elim 0 (fun known => known.gapCount) =
        existing.elim 0 (fun known => known.gapCount) +
          current.elim 0 (fun known => known.gapCount) ∧
      sum.elim 0 (fun known => known.tradedNotionalSum) =
        existing.elim 0 (fun known => known.tradedNotionalSum) +
          current.elim 0 (fun known => known.tradedNotionalSum) := by
  cases existing with
  | none =>
      simp [addTotals, ExactAddition.zero_add]
  | some known =>
      cases current with
      | none => simp [addTotals, add_zero_of_exact]
      | some added => simp [addTotals]

/-- Totals of two lists of slices add up to the totals of both. -/
private theorem Counts.add
    [ExactAddition Number]
    {existing current : Option (SymbolTotals Number)}
    {rows added : List (SliceRow Number)}
    (counts : Counts existing rows)
    (countsAdded : Counts current added) :
    Counts (addTotals existing current) (rows ++ added) := by
  obtain ⟨windows, gaps, notional⟩ := addTotals_elim existing current
  refine ⟨?_, ?_, ?_⟩
  · rw [windows, counts.windowCount, countsAdded.windowCount,
      List.length_append]
    rfl
  · rw [gaps, counts.gapCount, countsAdded.gapCount, List.map_append,
      List.sum_append]
  · rw [notional, counts.tradedNotionalSum,
      countsAdded.tradedNotionalSum, List.filterMap_append,
      sumOf_append_of_exact]

/-- The same totals count lists of the same length. -/
private theorem Counts.length_eq
    {totals : Option (SymbolTotals Number)}
    {rows others : List (SliceRow Number)}
    (counts : Counts totals rows)
    (countsOthers : Counts totals others) :
    rows.length = others.length := by
  have same := counts.windowCount.symm.trans countsOthers.windowCount
  exact_mod_cast same

/-- The rollup of a history is a rollup of the day. -/
def DayHistory.WellFormed
    (day : Int)
    (history : DayHistory Number) : Prop :=
  ∀ rollup, history.rollup = some rollup → RollupOfDay day rollup

/-- The covered slices of a symbol are extended by those of the run. -/
private theorem mergeRun_coveredOf
    (symbol : String) :
    (mergeRun sha256Hex day history run).coveredOf symbol =
      history.coveredOf symbol ++
        (history.newlyCovered run day).filter
          (fun row => row.symbolCanonical = symbol) := by
  simp only [DayHistory.coveredOf, mergeRun, List.filter_append]

/-- A recorded range leaves the rollup as it is. -/
private theorem mergeRun_rollup_of_recorded
    (wellFormed : history.WellFormed day)
    (recorded : Recorded history run) :
    (mergeRun sha256Hex day history run).rollup = history.rollup := by
  obtain ⟨existing, stored, member⟩ := recorded
  simp only [mergeRun]
  cases built : run.rollupOf sha256Hex day with
  | none => rfl
  | some current =>
      obtain ⟨form, bounds⟩ := rollupOf_runRollup built
      simp only [stored]
      rw [merge_of_recorded (wellFormed existing stored) form]
      rw [newWindows_iff_disjoint, bounds]
      intro disjoint
      exact disjoint _ member (by simp)

/-- A new range adds the totals of the run. -/
private theorem mergeRun_totalsOf_of_new
    (wellFormed : history.WellFormed day)
    (new : ¬ Recorded history run)
    {current : SymbolUniverseBootstrapRollup Number}
    (built : run.rollupOf sha256Hex day = some current)
    (symbol : String) :
    (mergeRun sha256Hex day history run).totalsOf symbol =
      addTotals (history.totalsOf symbol)
        (totalsAmong current.symbols symbol) := by
  obtain ⟨form, bounds⟩ := rollupOf_runRollup built
  simp only [DayHistory.totalsOf, mergeRun, built, Option.bind_some]
  cases stored : history.rollup with
  | none =>
      simp [mergeSymbolUniverseBootstrapRollup, addTotals]
  | some existing =>
      rw [Option.bind_some]
      refine merge_totalsAmong (wellFormed existing stored) form ?_ symbol
      rw [newWindows_iff_disjoint, bounds]
      intro recorded member own
      refine new ⟨existing, stored, ?_⟩
      rwa [List.mem_singleton.mp own] at member

/-- Merging a run keeps the rollup one of the day. -/
private theorem mergeRun_wellFormed
    (wellFormed : history.WellFormed day) :
    (mergeRun sha256Hex day history run).WellFormed day := by
  intro rollup stored
  by_cases recorded : Recorded history run
  · rw [mergeRun_rollup_of_recorded wellFormed recorded] at stored
    exact wellFormed rollup stored
  · simp only [mergeRun] at stored
    cases built : run.rollupOf sha256Hex day with
    | none =>
        rw [built] at stored
        exact wellFormed rollup stored
    | some current =>
        obtain ⟨form, bounds⟩ := rollupOf_runRollup built
        simp only [built, Option.some.injEq] at stored
        rw [← stored]
        cases known : history.rollup with
        | none => exact form
        | some existing =>
            refine (wellFormed existing known).merge form ?_
            rw [newWindows_iff_disjoint, bounds]
            intro bounds member own
            refine recorded ⟨existing, known, ?_⟩
            rwa [List.mem_singleton.mp own] at member

omit [NumberFormat Number] in
/-- Slices of every symbol in the same number are the same slices. -/
private theorem filter_eq_self_of_lengths
    {rows : List (SliceRow Number)}
    {kept : SliceRow Number → Bool}
    (lengths :
      ∀ symbol,
        ((rows.filter kept).filter
            (fun row => row.symbolCanonical = symbol)).length =
          (rows.filter
            (fun row => row.symbolCanonical = symbol)).length) :
    rows.filter kept = rows := by
  rw [List.filter_eq_self]
  intro row member
  have same := lengths row.symbolCanonical
  rw [List.filter_filter, List.filter_congr
    (fun other _ => Bool.and_comm _ _), ← List.filter_filter,
    List.length_filter_eq_length_iff] at same
  exact same row (List.mem_filter.mpr ⟨member, by simp⟩)

/-- The next rollup counts once exactly if the run is new or a repetition. -/
private theorem mergeRun_countsOnce_iff
    [ExactAddition Number]
    (wellFormed : history.WellFormed day)
    (counts : CountsOnce history) :
    CountsOnce (mergeRun sha256Hex day history run) ↔
      CoversNewOrRepeats day history run := by
  by_cases empty : run.slicesOf day = []
  · have unbuilt : run.rollupOf sha256Hex day = none :=
      rollupOf_eq_none_iff.mpr empty
    have unchanged : mergeRun sha256Hex day history run = history := by
      simp [mergeRun, unbuilt, DayHistory.newlyCovered, empty]
    rw [unchanged]
    exact iff_of_true counts (Or.inl empty)
  · by_cases recorded : Recorded history run
    · -- The totals stay, so no slice may be new.
      have totals (symbol : String) :
          (mergeRun sha256Hex day history run).totalsOf symbol =
            history.totalsOf symbol := by
        rw [DayHistory.totalsOf,
          mergeRun_rollup_of_recorded wellFormed recorded]
        rfl
      constructor
      · intro after
        refine Or.inr (Or.inr ⟨recorded, ?_⟩)
        rw [List.eq_nil_iff_forall_not_mem]
        intro row member
        have counted := after row.symbolCanonical
        rw [totals, mergeRun_coveredOf] at counted
        have lengths := (counts row.symbolCanonical).length_eq counted
        rw [List.length_append] at lengths
        have none : ((history.newlyCovered run day).filter
            (fun other => other.symbolCanonical =
              row.symbolCanonical)).length = 0 := by
          omega
        rw [List.length_eq_zero_iff, List.filter_eq_nil_iff] at none
        exact none row member (by simp)
      · rintro (noSlices | ⟨new, -⟩ | ⟨-, repeated⟩)
        · exact absurd noSlices empty
        · exact absurd recorded new
        · intro symbol
          rw [totals, mergeRun_coveredOf, repeated]
          simpa using counts symbol
    · -- The totals of all slices are added, so every slice must be new.
      obtain ⟨current, built⟩ :=
        Option.ne_none_iff_exists'.mp
          (fun none => empty (rollupOf_eq_none_iff.mp none))
      have added (symbol : String) :
          Counts ((mergeRun sha256Hex day history run).totalsOf symbol)
            (history.coveredOf symbol ++
              (run.slicesOf day).filter
                (fun row => row.symbolCanonical = symbol)) := by
        rw [mergeRun_totalsOf_of_new wellFormed recorded built]
        exact (counts symbol).add (rollupOf_counts built symbol)
      constructor
      · intro after
        refine Or.inr (Or.inl ⟨recorded, ?_⟩)
        apply filter_eq_self_of_lengths
        intro symbol
        have counted := after symbol
        rw [mergeRun_coveredOf] at counted
        have lengths := counted.length_eq (added symbol)
        rw [List.length_append, List.length_append] at lengths
        exact Nat.add_left_cancel lengths
      · rintro (noSlices | ⟨-, allNew⟩ | ⟨repeated, -⟩)
        · exact absurd noSlices empty
        · intro symbol
          rw [mergeRun_coveredOf, allNew]
          exact added symbol
        · exact absurd repeated recorded

end Steps

/--
After every run of a sequence the rollup of the day counts each slice that some
run covered once, if and only if every run with slices of the day brings a new
range and new slices only, or repeats a range without a new slice.
-/
theorem countsOnce_iff_coversNewOrRepeats
    [ExactAddition Number]
    (sha256Hex : String → String)
    (day : Int)
    (runs : List (UniverseRun Number)) :
    Runs.Always (mergeRun sha256Hex day) CountsOnce .start runs ↔
      Runs.Along (mergeRun sha256Hex day) (CoversNewOrRepeats day)
        .start runs := by
  have started : (DayHistory.start : DayHistory Number).WellFormed day := by
    intro rollup stored
    cases stored
  have nothing : CountsOnce (DayHistory.start : DayHistory Number) := by
    intro symbol
    exact ⟨rfl, rfl, rfl⟩
  exact Runs.always_iff_along started nothing
    (fun _ => mergeRun_wellFormed)
    (fun _ => mergeRun_countsOnce_iff)

/-- A quarter hour of a symbol, with one trade of volume two. -/
def tradedQuarter (second : Bool) : SliceRow ℚ where
  sliceId :=
    if second then
      "17aebe96b5c1f405fb1248065726ef5e" ++
        "3d3a34254dcde71c93dbf47b25438f5d"
    else
      "3856dd51ca683fd7eb484de56bccc973" ++
        "a81b87cbeb98315d94b693f04868add9"
  venue := "binance"
  sourceRole := "reference"
  symbolNative := "BTCUSDT"
  symbolCanonical := "BTC"
  baseAsset := "BTC"
  quoteAsset := "USDT"
  marketType := "spot"
  windowMs := 900000
  windowStartMs := if second then 900000 else 0
  windowEndMs := if second then 1800000 else 900000
  sliceCompleteness := "partial"
  missingReasons :=
    ["depth_top_missing", "source_health_missing", "symbol_health_missing"]
  qualityOk := 1
  qualityDelayed := 0
  qualityStale := 0
  qualityGap := 0
  qualityInvalid := 0
  tradeCount := 1
  tradeVolume := 2
  lastTradePrice := some 5
  lastTradeSize := some 2
  bestBid := none
  bestAsk := none
  midPrice := none
  spreadBps := none
  bookTickerCount := 0
  depthEventCount := 0
  depthBookRebuilt := false
  tradeEvents :=
    [{ exchangeTimestampMs := if second then 900001 else 1
       ingestTimestampMs := if second then 900002 else 2
       price := 5
       quantity := 2
       side := "buy"
       exchangeSequence := none
       parentEventId := if second then "trade-2" else "trade-1" }]
  bookTickerEvents := []
  depthEvents := []
  tickerEvents := []
  symbolHealthSnapshot := none
  sourceHealthSnapshot := none
  parentEventIds := [if second then "trade-2" else "trade-1"]
  parentRunIds := ["run"]

/-- A run of the first quarter hour. -/
def firstQuarterRun : UniverseRun ℚ where
  l1RunId := "l1_0_900000_1900000"
  inputRange := ⟨0, 900000⟩
  generatedAtMs := 1900000
  windowMs := defaultScheduleIntervalMs
  scheduleIntervalMs := defaultScheduleIntervalMs
  slices := [tradedQuarter false]
  accepted := by decide
  distinct := by decide
  inside := by decide

/-- A run of the second quarter hour. -/
def secondQuarterRun : UniverseRun ℚ where
  l1RunId := "l1_900000_1800000_2900000"
  inputRange := ⟨900000, 1800000⟩
  generatedAtMs := 2900000
  windowMs := defaultScheduleIntervalMs
  scheduleIntervalMs := defaultScheduleIntervalMs
  slices := [tradedQuarter true]
  accepted := by decide
  distinct := by decide
  inside := by decide

/-- A run of the first half hour. -/
def halfHourRun : UniverseRun ℚ where
  l1RunId := "l1_0_1800000_2900000"
  inputRange := ⟨0, 1800000⟩
  generatedAtMs := 2900000
  windowMs := defaultScheduleIntervalMs
  scheduleIntervalMs := defaultScheduleIntervalMs
  slices := [tradedQuarter false, tradedQuarter true]
  accepted := by decide
  distinct := by decide
  inside := by decide

/-- The digests of the texts that these runs hash. -/
def halfHourSha256Hex (text : String) : String :=
  if text =
      "l1_0_900000_1900000|0|900000|0|" ++
        symbolUniverseBootstrapRollupSchemaVersion then
    "48132f9fbfb45628ef71378a94a34156" ++
      "28fe178ff7bf991c91d28fac5cbb901c"
  else if text =
      "l1_0_1800000_2900000|0|1800000|0|" ++
        symbolUniverseBootstrapRollupSchemaVersion then
    "6274edba26baf0290ab27e3db482c81d" ++
      "4eec26764e4e656ef016b76bdf61d827"
  else if text =
      "l1_900000_1800000_2900000|900000|1800000|0|" ++
        symbolUniverseBootstrapRollupSchemaVersion then
    "df0712d3b300528b00f0c2904182ecf9" ++
      "541daab9abe1c729a4605c5b5180021e"
  else
    "261b56d883f0562764dbd2c52ddac4c9" ++
      "256f2dc4403765e9acb23470148f902c"

/-- Two runs of different quarter hours are counted once each. -/
theorem quarterRuns_countsOnce :
    Runs.Always (mergeRun halfHourSha256Hex 0) CountsOnce .start
      [firstQuarterRun, secondQuarterRun] := by
  refine (countsOnce_iff_coversNewOrRepeats halfHourSha256Hex 0
    [firstQuarterRun, secondQuarterRun]).mpr ⟨?_, ?_, trivial⟩
  · refine Or.inr (Or.inl ⟨?_, by decide⟩)
    rintro ⟨rollup, stored, -⟩
    cases stored
  · refine Or.inr (Or.inl ⟨?_, by decide +kernel⟩)
    rintro ⟨rollup, stored, member⟩
    have bounds :
        (mergeRun halfHourSha256Hex 0 .start
          firstQuarterRun).rollup.map (fun known => known.windowBounds) =
          some [(0, 900000)] := by
      decide +kernel
    rw [stored, Option.map_some, Option.some.injEq] at bounds
    rw [bounds] at member
    exact absurd member (by decide)

/-- After the run of the half hour, the first quarter hour counts twice. -/
theorem halfHour_counted_twice :
    let history :=
      Runs.run (mergeRun halfHourSha256Hex 0) .start
        [firstQuarterRun, halfHourRun]
    history.covered = [tradedQuarter false, tradedQuarter true] ∧
      (history.totalsOf "BTC").map
          (fun totals => (totals.windowCount, totals.tradedNotionalSum)) =
        some (3, 30) ∧
      ¬ Runs.Always (mergeRun halfHourSha256Hex 0) CountsOnce .start
        [firstQuarterRun, halfHourRun] := by
  intro history
  have covered :
      history.covered = [tradedQuarter false, tradedQuarter true] := by
    decide +kernel
  have totals :
      (history.totalsOf "BTC").map
          (fun totals => (totals.windowCount, totals.tradedNotionalSum)) =
        some (3, 30) := by
    decide +kernel
  refine ⟨covered, totals, ?_⟩
  intro always
  have counted := (always.final "BTC").windowCount
  have three :
      (history.totalsOf "BTC").elim 0 (fun known => known.windowCount) =
        3 := by
    decide +kernel
  have two : (history.coveredOf "BTC").length = 2 := by
    decide +kernel
  rw [three, two] at counted
  exact absurd counted (by decide)

end MarketIngest.Normalize
