import MarketIngest.ModeDecision
import MarketIngest.UniverseSnapshot
import Mathlib.Data.List.Perm.Subperm

namespace MarketIngest.Normalize

/-!
# Snapshots rank and divide the universe

The statistics of a snapshot have one entry for each symbol that is seen, under
its own name, and the members are made of these entries.  Ranks are positions
in the sorted rows, so at most as many symbols are included as there are
positions.  The days of a symbol are among the days that the run reads.
-/

section Days

variable {inputRange : InputRange}

/-- The days of a snapshot can be computed without overflow. -/
def InputRange.DaysRepresentable (inputRange : InputRange) : Prop :=
  i64Min ≤
    dayStartMs
      (saturatingSub (saturatingSub inputRange.endMs 1)
        (((bootstrapRollupDays : Int) - 1) * dayMs))

/-- A validated range has representable days. -/
theorem daysRepresentable_of_validateRange
    {windowMs scheduleIntervalMs : Int}
    (accepted :
      validateRange inputRange.startMs inputRange.endMs windowMs
        scheduleIntervalMs = .ok ()) :
    inputRange.DaysRepresentable := by
  obtain ⟨nonneg, nonempty⟩ := bounds_of_validateRange accepted
  unfold InputRange.DaysRepresentable dayStartMs saturatingSub clampI64
    bootstrapRollupDays dayMs i64Min i64Max
  omega

/-- The last day that a snapshot covers. -/
def lastDayStartMs (inputRange : InputRange) : Int :=
  dayStartMs (saturatingSub inputRange.endMs 1)

/-- The first day is twenty-nine days before the last one. -/
theorem firstDayStartMs_eq
    (representable : inputRange.DaysRepresentable) :
    dayStartMs
      (saturatingSub (saturatingSub inputRange.endMs 1)
        (((bootstrapRollupDays : Int) - 1) * dayMs)) =
      lastDayStartMs inputRange - 29 * dayMs := by
  revert representable
  unfold InputRange.DaysRepresentable lastDayStartMs dayStartMs
    saturatingSub clampI64 bootstrapRollupDays dayMs i64Min i64Max
  omega

/-- The days that a run reads are the last thirty. -/
theorem mem_bootstrapRollupDayStarts_iff
    (representable : inputRange.DaysRepresentable)
    (day : Int) :
    day ∈ bootstrapRollupDayStarts inputRange ↔
      ∃ offset < bootstrapRollupDays,
        day = lastDayStartMs inputRange - offset * dayMs := by
  have first := firstDayStartMs_eq representable
  have earliest : i64Min ≤ lastDayStartMs inputRange - 29 * dayMs :=
    first ▸ representable
  have latest : lastDayStartMs inputRange ≤ i64Max := by
    have bounds := (clampI64_bounds (inputRange.endMs - 1)).2
    unfold lastDayStartMs dayStartMs saturatingSub dayMs
    omega
  have exact (offset : Nat) (below : offset < bootstrapRollupDays) :
      saturatingSub (lastDayStartMs inputRange) (offset * dayMs) =
        lastDayStartMs inputRange - offset * dayMs := by
    apply saturatingSub_of_mem
    all_goals
      unfold bootstrapRollupDays at below
      unfold dayMs at earliest ⊢
      omega
  simp only [bootstrapRollupDayStarts, List.bind_eq_flatMap,
    List.pure_def, List.mem_map, List.mem_flatMap, List.mem_reverse,
    List.mem_range, List.mem_singleton]
  constructor
  · rintro ⟨_, ⟨offset, below, rfl⟩, rfl⟩
    exact ⟨offset, below, exact offset below⟩
  · rintro ⟨offset, below, rfl⟩
    exact ⟨offset, ⟨offset, below, rfl⟩, exact offset below⟩

/-- Admitted rollups are those of the days that the run reads. -/
theorem admitted_iff
    {Number : Type}
    [NumberFormat Number]
    (representable : inputRange.DaysRepresentable)
    {rollup : SymbolUniverseBootstrapRollup Number}
    (dayAligned : rollup.dayStartMs % dayMs = 0) :
    Admitted inputRange rollup = true ↔
      rollup.schemaVersion = symbolUniverseBootstrapRollupSchemaVersion ∧
        rollup.dayStartMs ∈ bootstrapRollupDayStarts inputRange := by
  have lastAligned : lastDayStartMs inputRange % dayMs = 0 := by
    unfold lastDayStartMs dayStartMs
    exact Int.mul_emod_left _ _
  simp only [Admitted, firstDayStartMs_eq representable,
    Bool.and_eq_true, decide_eq_true_eq,
    mem_bootstrapRollupDayStarts_iff representable]
  apply and_congr_right
  intro _
  constructor
  · rintro ⟨afterFirst, beforeLast⟩
    change rollup.dayStartMs ≤ lastDayStartMs inputRange at beforeLast
    refine
      ⟨((lastDayStartMs inputRange - rollup.dayStartMs) / dayMs).toNat,
        ?_, ?_⟩
    · unfold dayMs at *
      unfold bootstrapRollupDays
      omega
    · unfold dayMs at *
      omega
  · rintro ⟨offset, below, same⟩
    change _ ∧ rollup.dayStartMs ≤ lastDayStartMs inputRange
    unfold bootstrapRollupDays at below
    unfold dayMs at *
    omega

/-- The run reads thirty days. -/
theorem bootstrapRollupDayStarts_length
    (inputRange : InputRange) :
    (bootstrapRollupDayStarts inputRange).length = 30 := by
  simp [bootstrapRollupDayStarts, bootstrapRollupDays]

end Days

section Listed

variable
  {Number : Type}
  {inputRange : InputRange}
  {slices : List (SliceRow Number)}
  {rollups : List (SymbolUniverseBootstrapRollup Number)}

/-- The symbol has statistics in an admitted rollup of a day. -/
def RolledUpOn
    (inputRange : InputRange)
    (rollups : List (SymbolUniverseBootstrapRollup Number))
    (symbolCanonical : String)
    (day : Int) : Prop :=
  ∃ rollup ∈ rollups,
    Admitted inputRange rollup = true ∧ rollup.dayStartMs = day ∧
      ∃ symbol ∈ rollup.symbols, symbol.symbolCanonical = symbolCanonical

/-- The symbol is seen in the slices or in an admitted rollup. -/
def SeenSymbol
    (inputRange : InputRange)
    (slices : List (SliceRow Number))
    (rollups : List (SymbolUniverseBootstrapRollup Number))
    (symbolCanonical : String) : Prop :=
  (∃ row ∈ slices, row.symbolCanonical = symbolCanonical) ∨
    ∃ day, RolledUpOn inputRange rollups symbolCanonical day

/-- The symbols of the admitted rollups, with their days. -/
theorem mem_rollupSymbols_iff
    {entry : Int × SymbolUniverseBootstrapSymbolStats Number} :
    entry ∈ rollupSymbols (rollups.filter (Admitted inputRange)) ↔
      ∃ rollup ∈ rollups,
        Admitted inputRange rollup = true ∧ rollup.dayStartMs = entry.1 ∧
          entry.2 ∈ rollup.symbols := by
  simp only [rollupSymbols, List.mem_flatMap, List.mem_filter,
    List.mem_map]
  constructor
  · rintro ⟨rollup, ⟨member, admitted⟩, symbol, listed, rfl⟩
    exact ⟨rollup, member, admitted, rfl, listed⟩
  · rintro ⟨rollup, member, admitted, day, listed⟩
    refine ⟨rollup, ⟨member, admitted⟩, entry.2, listed, ?_⟩
    rw [day]

/-- The days on which a symbol is rolled up are those of its entries. -/
theorem rolledUpOn_iff
    {symbolCanonical : String}
    {day : Int} :
    RolledUpOn inputRange rollups symbolCanonical day ↔
      ∃ entry ∈ rollupSymbols (rollups.filter (Admitted inputRange)),
        entry.2.symbolCanonical = symbolCanonical ∧ entry.1 = day := by
  simp only [mem_rollupSymbols_iff]
  constructor
  · rintro ⟨rollup, member, admitted, onDay, symbol, listed, named⟩
    exact
      ⟨(day, symbol), ⟨rollup, member, admitted, onDay, listed⟩, named,
        rfl⟩
  · rintro ⟨entry, ⟨rollup, member, admitted, onDay, listed⟩, named, rfl⟩
    exact ⟨rollup, member, admitted, onDay, entry.2, listed, named⟩

variable [NumberFormat Number]

/-- Observed statistics are under the name of their symbol. -/
private theorem observedStats_named
    {symbol : String}
    {stat : SymbolStats Number}
    (found : (observedStats slices).get? symbol = some stat) :
    stat.symbolCanonical = symbol := by
  let named (symbol : String) (stat : SymbolStats Number) : Prop :=
    stat.symbolCanonical = symbol
  refine @OrderedMap.upserts_induction _ _ _ _ _ named
    (fun row known => (known.getD (.fromSlice row)).observeSlice row)
    slices .empty ?_ ?_ symbol stat found
  · intro key value absent
    cases absent
  · intro row _ known bound
    cases known with
    | none => rfl
    | some stat => exact bound stat rfl

/-- The observed symbols are those of the slices. -/
private theorem mem_observedStats_keys_iff
    {symbol : String} :
    symbol ∈ (observedStats slices).keys ↔
      ∃ row ∈ slices, row.symbolCanonical = symbol := by
  have keys :=
    @OrderedMap.mem_keys_foldl_upsert String (SymbolStats Number) _ _
      (fun row : SliceRow Number => row.symbolCanonical)
      (fun row known => (known.getD (.fromSlice row)).observeSlice row)
      slices .empty symbol
  exact keys.trans (or_iff_right List.not_mem_nil)

/-- The statistics of the slices are under the name of their symbol. -/
theorem symbolStats_named
    {symbol : String}
    {stat : SymbolStats Number}
    (found : (symbolStats slices).get? symbol = some stat) :
    stat.symbolCanonical = symbol := by
  rw [symbolStats, OrderedMap.get?_mapValues] at found
  obtain ⟨observed, located, rfl⟩ := Option.map_eq_some_iff.mp found
  exact (observedStats_named located : observed.symbolCanonical = symbol)

/-- Listed statistics are under the name of their symbol. -/
theorem symbolStatsFromBootstrap_named
    {symbol : String}
    {stat : SymbolStats Number}
    (found :
      (symbolStatsFromBootstrap inputRange slices rollups).get? symbol =
        some stat) :
    stat.symbolCanonical = symbol := by
  rw [symbolStatsFromBootstrap, OrderedMap.get?_mapValues] at found
  obtain ⟨ensured, located, rfl⟩ := Option.map_eq_some_iff.mp found
  let named (symbol : String) (stat : SymbolStats Number) : Prop :=
    stat.symbolCanonical = symbol
  let symbols := rollupSymbols (rollups.filter (Admitted inputRange))
  refine @OrderedMap.upserts_induction _ _ _ _
    (fun entry : Int × SymbolUniverseBootstrapSymbolStats Number =>
      entry.2.symbolCanonical)
    named (fun entry => ensureBootstrapSymbolStats entry.2) symbols
    (symbolStats slices) ?_ ?_ symbol ensured located
  · intro key value known
    exact symbolStats_named known
  · intro entry _ known bound
    cases known with
    | none => rfl
    | some stat => exact bound stat rfl

/-- The symbols with statistics are the ones that are seen. -/
theorem mem_symbolStatsFromBootstrap_keys_iff
    {symbol : String} :
    symbol ∈ (symbolStatsFromBootstrap inputRange slices rollups).keys ↔
      SeenSymbol inputRange slices rollups symbol := by
  have rolledUp :
      (∃ entry ∈ rollupSymbols (rollups.filter (Admitted inputRange)),
        entry.2.symbolCanonical = symbol) ↔
        ∃ day, RolledUpOn inputRange rollups symbol day := by
    simp only [rolledUpOn_iff]
    constructor
    · rintro ⟨entry, member, named⟩
      exact ⟨entry.1, entry, member, named, rfl⟩
    · rintro ⟨_, entry, member, named, _⟩
      exact ⟨entry, member, named⟩
  rw [symbolStatsFromBootstrap, OrderedMap.keys_mapValues, ensuredStats,
    OrderedMap.mem_keys_foldl_upsert
      (fun entry : Int × SymbolUniverseBootstrapSymbolStats Number =>
        ensureBootstrapSymbolStats entry.2),
    symbolStats, OrderedMap.keys_mapValues, mem_observedStats_keys_iff,
    rolledUp]
  rfl

/-- Add the notional of a rollup to that of its day. -/
def addDayNotional
    (entry : Int × SymbolUniverseBootstrapSymbolStats Number)
    (known : Option (OrderedMap Int Number)) : OrderedMap Int Number :=
  (known.getD .empty).upsert entry.1 (fun
    | some notional => notional + entry.2.tradedNotionalSum
    | none => entry.2.tradedNotionalSum)

/-- The notional of a day is known once a rollup of the day was read. -/
private theorem addDayNotional_days
    (group : List (Int × SymbolUniverseBootstrapSymbolStats Number))
    (known : Option (OrderedMap Int Number))
    (day : Int) :
    day ∈
        ((group.foldl
          (fun known entry => some (addDayNotional entry known))
          known).getD .empty).keys ↔
      day ∈ (known.getD .empty).keys ∨ ∃ entry ∈ group, entry.1 = day := by
  induction group generalizing known with
  | nil =>
      simp
  | cons entry rest inductionHypothesis =>
      rw [List.foldl_cons, inductionHypothesis, Option.getD_some,
        addDayNotional, OrderedMap.mem_keys_iff, OrderedMap.mem_keys_iff,
        OrderedMap.get?_upsert]
      by_cases same : day = entry.1
      · simp [same]
      · simp [same, Ne.symm same]

/-- The days of a symbol are those on which it is rolled up. -/
theorem dailyNotionalOf_days
    (symbols : List (Int × SymbolUniverseBootstrapSymbolStats Number))
    (symbol : String)
    (day : Int) :
    day ∈ (((dailyNotionalOf symbols).get? symbol).getD .empty).keys ↔
      ∃ entry ∈ symbols,
        entry.2.symbolCanonical = symbol ∧ entry.1 = day := by
  have grouped :
      (dailyNotionalOf symbols).get? symbol =
        (symbols.filter
          (fun entry => entry.2.symbolCanonical = symbol)).foldl
            (fun known entry => some (addDayNotional entry known)) none :=
    OrderedMap.get?_foldl_upsert addDayNotional symbols .empty symbol
  rw [grouped, addDayNotional_days]
  simp [OrderedMap.keys, and_assoc]

/-- The available days are distinct days on which the symbol is rolled up. -/
theorem bootstrapDays_of_listed
    {stat : SymbolStats Number}
    (listed :
      stat ∈ (symbolStatsFromBootstrap inputRange slices rollups).values) :
    ∃ days : List Int,
      days.Nodup ∧ stat.bootstrapDaysAvailable = days.length ∧
        ∀ day,
          day ∈ days ↔
            RolledUpOn inputRange rollups stat.symbolCanonical day := by
  obtain ⟨symbol, found⟩ := OrderedMap.mem_values_iff.mp listed
  rw [symbolStatsFromBootstrap, OrderedMap.get?_mapValues] at found
  obtain ⟨ensured, _, rfl⟩ := Option.map_eq_some_iff.mp found
  let symbols := rollupSymbols (rollups.filter (Admitted inputRange))
  let daily :=
    ((dailyNotionalOf symbols).get? ensured.symbolCanonical).getD .empty
  refine ⟨daily.keys, daily.keys_nodup, ?_, ?_⟩
  · change ((daily.values.length : Nat) : Int) = _
    simp [OrderedMap.values, OrderedMap.keys]
  · intro day
    exact (dailyNotionalOf_days symbols _ day).trans
      (@rolledUpOn_iff _ inputRange rollups _ _).symm

/-- A symbol has at most thirty days, and with thirty it has them all. -/
theorem bootstrapDays_le
    {stat : SymbolStats Number}
    (representable : inputRange.DaysRepresentable)
    (dayAligned : ∀ rollup ∈ rollups, rollup.dayStartMs % dayMs = 0)
    (listed :
      stat ∈ (symbolStatsFromBootstrap inputRange slices rollups).values) :
    stat.bootstrapDaysAvailable ≤ 30 ∧
      (30 ≤ stat.bootstrapDaysAvailable →
        ∀ day ∈ bootstrapRollupDayStarts inputRange,
          RolledUpOn inputRange rollups stat.symbolCanonical day) := by
  obtain ⟨days, distinct, available, onDays⟩ :=
    bootstrapDays_of_listed listed
  have among : days ⊆ bootstrapRollupDayStarts inputRange := by
    intro day member
    obtain ⟨rollup, inRollups, admitted, rfl, _⟩ := (onDays day).mp member
    exact
      ((admitted_iff representable (dayAligned rollup inRollups)).mp
        admitted).2
  have part : days.Subperm (bootstrapRollupDayStarts inputRange) :=
    distinct.subperm among
  have bound := part.length_le
  rw [bootstrapRollupDayStarts_length] at bound
  constructor
  · omega
  · intro enough day member
    have whole : days.Perm (bootstrapRollupDayStarts inputRange) := by
      apply part.perm_of_length_le
      rw [bootstrapRollupDayStarts_length]
      omega
    exact (onDays day).mp (whole.mem_iff.mpr member)

end Listed

section Ranked

variable
  {stats : OrderedMap String (SymbolStats ℚ)}

/-- The order of the rows before they are ranked. -/
def ranksBefore (left right : SymbolLiquidityRank ℚ) : Prop :=
  right.observedTradedNotional < left.observedTradedNotional ∨
    left.observedTradedNotional = right.observedTradedNotional ∧
      left.symbolCanonical < right.symbolCanonical

/-- Rows are compared. -/
private theorem rankedBefore_total
    (left right : String × ℚ) :
    rankedBefore left right ∨ rankedBefore right left := by
  rcases lt_trichotomy left.2 right.2 with less | same | greater
  · exact Or.inr (Or.inl less)
  · rcases le_total left.1 right.1 with before | after
    · exact Or.inl (Or.inr ⟨by rw [same]; exact lt_irrefl _, before⟩)
    · exact Or.inr (Or.inr ⟨by rw [same]; exact lt_irrefl _, after⟩)
  · exact Or.inl (Or.inl greater)

/-- The order of rows is transitive. -/
private theorem rankedBefore_trans
    {first second third : String × ℚ}
    (firstBefore : rankedBefore first second)
    (secondBefore : rankedBefore second third) :
    rankedBefore first third := by
  rcases firstBefore with firstGreater | ⟨firstNotLess, firstName⟩
  · rcases secondBefore with secondGreater | ⟨secondNotLess, _⟩
    · exact Or.inl (secondGreater.trans firstGreater)
    · exact Or.inl (lt_of_le_of_lt (not_lt.mp secondNotLess) firstGreater)
  · rcases secondBefore with secondGreater | ⟨secondNotLess, secondName⟩
    · exact Or.inl (lt_of_lt_of_le secondGreater (not_lt.mp firstNotLess))
    · exact
        Or.inr
          ⟨not_lt.mpr
            ((not_lt.mp secondNotLess).trans (not_lt.mp firstNotLess)),
            firstName.trans secondName⟩

/-- The sorted rows of a snapshot. -/
private def sortedRows
    (stats : OrderedMap String (SymbolStats ℚ)) : List (String × ℚ) :=
  (rankedRows stats).insertionSort rankedBefore

/-- The symbols of the rows are a part of the listed ones. -/
private theorem rankedRows_symbols
    (stats : OrderedMap String (SymbolStats ℚ)) :
    ((rankedRows stats).map Prod.fst).Sublist
      (stats.values.map (·.symbolCanonical)) := by
  unfold rankedRows
  induction stats.values with
  | nil =>
      exact .slnil
  | cons stat rest inductionHypothesis =>
      rw [List.filterMap_cons, List.map_cons]
      split
      · exact inductionHypothesis.cons _
      · next row made =>
        have named : row.1 = stat.symbolCanonical := by
          split at made
          · split_ifs at made
            rw [← Option.some.inj made]
          · cases made
        rw [List.map_cons, named]
        exact inductionHypothesis.cons_cons _

/-- The sorted rows have distinct symbols. -/
private theorem sortedRows_nodup
    (distinct : (stats.values.map (·.symbolCanonical)).Nodup) :
    ((sortedRows stats).map Prod.fst).Nodup := by
  have sorted := List.perm_insertionSort rankedBefore (rankedRows stats)
  rw [sortedRows, (sorted.map Prod.fst).nodup_iff]
  exact distinct.sublist (rankedRows_symbols stats)

/-- The symbols of the ranks are those of the sorted rows. -/
private theorem liquidityRanks_symbols
    (stats : OrderedMap String (SymbolStats ℚ)) :
    (liquidityRanks stats).map (·.symbolCanonical) =
      (sortedRows stats).map Prod.fst := by
  rw [liquidityRanks, List.map_map]
  change (List.zipIdx (sortedRows stats)).map (Prod.fst ∘ Prod.fst) = _
  rw [← List.map_map, List.zipIdx_map_fst]

/-- The ranked symbols are distinct. -/
theorem liquidityRanks_nodup
    (distinct : (stats.values.map (·.symbolCanonical)).Nodup) :
    ((liquidityRanks stats).map (·.symbolCanonical)).Nodup := by
  rw [liquidityRanks_symbols]
  exact sortedRows_nodup distinct

/-- The ranks are counted from one. -/
theorem liquidityRanks_ranks
    (stats : OrderedMap String (SymbolStats ℚ)) :
    (liquidityRanks stats).map (·.liquidityRankAtThatTime) =
      (List.range (liquidityRanks stats).length).map
        (fun index => ((index + 1 : Nat) : Int)) := by
  have positions :
      (List.zipIdx (sortedRows stats)).map Prod.snd =
        List.range (sortedRows stats).length := by
    rw [List.zipIdx_map_snd, List.range_eq_range']
  have length :
      (liquidityRanks stats).length = (sortedRows stats).length := by
    simp [liquidityRanks, sortedRows]
  rw [length, ← positions, List.map_map, liquidityRanks, List.map_map]
  rfl

/-- Greater notional is ranked first, and equal notional by symbol. -/
theorem liquidityRanks_ordered
    (distinct : (stats.values.map (·.symbolCanonical)).Nodup) :
    (liquidityRanks stats).Pairwise ranksBefore := by
  let _ : Std.Total (@rankedBefore ℚ _) := ⟨rankedBefore_total⟩
  let _ : IsTrans (String × ℚ) rankedBefore :=
    ⟨fun _ _ _ => rankedBefore_trans⟩
  have sorted : (sortedRows stats).Pairwise rankedBefore :=
    List.pairwise_insertionSort rankedBefore (rankedRows stats)
  have different :
      (sortedRows stats).Pairwise (fun left right => left.1 ≠ right.1) :=
    List.pairwise_map.mp (sortedRows_nodup distinct)
  have rows :
      ((List.zipIdx (sortedRows stats)).map Prod.fst).Pairwise
        (fun left right => rankedBefore left right ∧ left.1 ≠ right.1) := by
    rw [List.zipIdx_map_fst]
    exact sorted.and different
  refine List.pairwise_map.mpr ((List.pairwise_map.mp rows).imp ?_)
  rintro left right ⟨greater | ⟨notLess, name⟩, other⟩
  · exact Or.inl greater
  · rcases lt_or_eq_of_le (not_lt.mp notLess) with less | same
    · exact Or.inl less
    · exact Or.inr ⟨same.symm, lt_of_le_of_ne name other⟩

/-- A symbol has the rank that the ranking gives it. -/
theorem rankBySymbol_get?_iff
    (distinct : (stats.values.map (·.symbolCanonical)).Nodup)
    {symbol : String}
    {rank : Int} :
    (rankBySymbol (liquidityRanks stats)).get? symbol = some rank ↔
      ∃ row ∈ liquidityRanks stats,
        row.symbolCanonical = symbol ∧
          row.liquidityRankAtThatTime = rank := by
  have ranked := liquidityRanks_nodup distinct
  have looked :=
    @OrderedMap.get?_upserts String Int _ (SymbolLiquidityRank ℚ)
      (·.symbolCanonical)
      (fun row _ => row.liquidityRankAtThatTime)
      (liquidityRanks stats) ranked .empty symbol
  rw [rankBySymbol, looked]
  cases found :
      (liquidityRanks stats).find?
        (fun row => row.symbolCanonical = symbol) with
  | none =>
      have absent := List.find?_eq_none.mp found
      simp only [OrderedMap.get?_empty]
      constructor
      · intro impossible
        cases impossible
      · rintro ⟨row, member, named, _⟩
        exact absurd named (by simpa using absent row member)
  | some row =>
      have located :=
        (OrderedMap.find?_eq_some_iff_of_nodup ranked).mp found
      simp only [Option.some.injEq]
      constructor
      · intro same
        exact ⟨row, located.1, located.2, same⟩
      · rintro ⟨other, member, named, same⟩
        rw [List.inj_on_of_nodup_map ranked located.1 member
          (located.2.trans named.symm)]
        exact same

/-- The symbols of rank fifty or better are the first fifty. -/
theorem mem_take_of_rank_le
    {row : SymbolLiquidityRank ℚ}
    (member : row ∈ liquidityRanks stats)
    (approved : row.liquidityRankAtThatTime ≤ maxApprovedRank) :
    row ∈ (liquidityRanks stats).take 50 := by
  obtain ⟨index, inBounds, rfl⟩ := List.mem_iff_getElem.mp member
  have rank :
      (liquidityRanks stats)[index].liquidityRankAtThatTime =
        ((index + 1 : Nat) : Int) := by
    simp [liquidityRanks]
  rw [rank, maxApprovedRank] at approved
  rw [List.mem_take_iff_getElem]
  exact ⟨index, by omega, rfl⟩

/-- At most fifty symbols have rank fifty or better. -/
theorem length_le_fifty
    {symbols : List String}
    (distinct : symbols.Nodup)
    (ranked :
      ∀ symbol ∈ symbols,
        ∃ row ∈ liquidityRanks stats,
          row.symbolCanonical = symbol ∧
            row.liquidityRankAtThatTime ≤ maxApprovedRank) :
    symbols.length ≤ 50 := by
  have among :
      symbols ⊆
        ((liquidityRanks stats).take 50).map (·.symbolCanonical) := by
    intro symbol member
    obtain ⟨row, isRanked, rfl, approved⟩ := ranked symbol member
    exact List.mem_map_of_mem (mem_take_of_rank_le isRanked approved)
  have bound := (distinct.subperm among).length_le
  rw [List.length_map, List.length_take] at bound
  omega

end Ranked

section Reason

variable
  {stat : SymbolStats ℚ}
  {liquidityRank : Option Int}

/-- The reason of an approved symbol. -/
theorem universeStatusReason_approved
    (stat : SymbolStats ℚ)
    (liquidityRank : Option Int) :
    universeStatusReason stat liquidityRank true = "approved" :=
  rfl

/-- What an approved symbol has. -/
theorem isApprovedUniverseSymbol_iff :
    isApprovedUniverseSymbol stat liquidityRank = true ↔
      minBootstrapDays ≤ stat.bootstrapDaysAvailable ∧
        (∃ rank, liquidityRank = some rank ∧ rank ≤ maxApprovedRank) ∧
          (∃ notional, stat.medianTradedNotional = some notional ∧
            0 < notional) ∧
            (∃ spread, stat.medianSpreadBps = some spread ∧
              spread ≤ maxMedianSpreadBps) ∧
              ∃ gapRate, stat.gapRate = some gapRate ∧
                gapRate ≤ maxGapRate := by
  simp only [isApprovedUniverseSymbol, passesUniverseQuality,
    Bool.and_eq_true, decide_eq_true_eq, Option.any_eq_true, ge_iff_le]

/-- A symbol that is not approved has another reason, which is never the last
one. -/
theorem universeStatusReason_of_not_approved
    (rejected : isApprovedUniverseSymbol stat liquidityRank = false) :
    universeStatusReason stat liquidityRank false ≠ "approved" ∧
      universeStatusReason stat liquidityRank false ≠ "not_admitted" := by
  have notApproved :
      ¬ isApprovedUniverseSymbol stat liquidityRank = true := by
    rw [rejected]
    exact Bool.false_ne_true
  rw [isApprovedUniverseSymbol_iff] at notApproved
  rw [universeStatusReason, if_neg Bool.false_ne_true]
  by_cases fewDays : stat.bootstrapDaysAvailable < minBootstrapDays
  · rw [if_pos fewDays]
    decide
  rw [if_neg fewDays]
  by_cases outside :
      (liquidityRank.all fun rank => decide (rank > maxApprovedRank)) = true
  · rw [if_pos outside]
    decide
  rw [if_neg outside]
  by_cases traded :
      (stat.medianTradedNotional.any fun notional =>
        decide (0 < notional)) = true
  · rw [if_neg (by simp [traded])]
    cases spread : stat.medianSpreadBps with
    | none =>
        dsimp only
        decide
    | some medianSpreadBps =>
        dsimp only
        by_cases wide : medianSpreadBps > maxMedianSpreadBps
        · rw [if_pos wide]
          decide
        rw [if_neg wide]
        by_cases fewGaps :
            (stat.gapRate.any fun gapRate =>
              decide (gapRate ≤ maxGapRate)) = true
        · rw [Option.any_eq_true] at traded fewGaps
          simp only [decide_eq_true_eq] at traded fewGaps
          refine absurd ⟨not_lt.mp fewDays, ?_, traded, ?_, fewGaps⟩
            notApproved
          · cases known : liquidityRank with
            | none => simp [known] at outside
            | some rank => exact ⟨rank, rfl, by simpa [known] using outside⟩
          · exact ⟨medianSpreadBps, spread, not_lt.mp wide⟩
        · rw [Bool.not_eq_true] at fewGaps
          rw [fewGaps, Bool.not_false, if_pos rfl]
          decide
  · rw [Bool.not_eq_true] at traded
    rw [traded, Bool.not_false, if_pos rfl]
    decide

end Reason

section Members

variable {Number : Type}

/-- The members of a snapshot. -/
def SymbolUniverseSnapshot.members
    (snapshot : SymbolUniverseSnapshot Number) :
    List (SymbolUniverseMember Number) :=
  snapshot.includedSymbols ++ snapshot.excludedSymbols

/-- Sorting both sides of a division of the members keeps the members. -/
theorem dividedMembers_perm
    (members : List (SymbolUniverseMember Number)) :
    ((members.filter (·.approvedUniverseSymbol)).insertionSort memberBefore ++
        (members.filter fun member =>
          !member.approvedUniverseSymbol).insertionSort memberBefore).Perm
      members := by
  have sorted :=
    (List.perm_insertionSort memberBefore
      (members.filter (·.approvedUniverseSymbol))).append
      (List.perm_insertionSort memberBefore
        (members.filter fun member => !member.approvedUniverseSymbol))
  exact sorted.trans (List.filter_append_perm _ members)

/-- The statistics of a snapshot are listed once by symbol. -/
theorem symbolStatsFromBootstrap_symbols
    [NumberFormat Number]
    (inputRange : InputRange)
    (slices : List (SliceRow Number))
    (rollups : List (SymbolUniverseBootstrapRollup Number)) :
    (symbolStatsFromBootstrap inputRange slices rollups).values.map
        (·.symbolCanonical) =
      (symbolStatsFromBootstrap inputRange slices rollups).keys :=
  OrderedMap.values_map_eq_keys
    (fun _ _ found => symbolStatsFromBootstrap_named found)

end Members

section Snapshots

/-- What an included symbol has. -/
structure AdmittedMember
    (inputRange : InputRange)
    (rollups : List (SymbolUniverseBootstrapRollup ℚ))
    (member : SymbolUniverseMember ℚ) : Prop where
  rank :
    ∃ rank, member.liquidityRankAtThatTime = some rank ∧ rank ≤ 50
  days : member.bootstrapDaysAvailable = 30
  rolledUp :
    ∀ day ∈ bootstrapRollupDayStarts inputRange,
      RolledUpOn inputRange rollups member.symbolCanonical day
  notional :
    ∃ notional, member.medianTradedNotional30d = some notional ∧
      0 < notional
  spread :
    ∃ spread, member.medianSpreadBps30d = some spread ∧ spread ≤ 50
  gapRate :
    ∃ gapRate, member.gapRate30d = some gapRate ∧ gapRate ≤ 1 / 20

/-- A snapshot ranks and divides the symbols that are seen. -/
structure ConsistentSnapshot
    (inputRange : InputRange)
    (slices : List (SliceRow ℚ))
    (rollups : List (SymbolUniverseBootstrapRollup ℚ))
    (snapshot : SymbolUniverseSnapshot ℚ) : Prop where
  listedOnce :
    (snapshot.members.map (·.symbolCanonical)).Nodup
  listed :
    ∀ symbol,
      symbol ∈ snapshot.members.map (·.symbolCanonical) ↔
        SeenSymbol inputRange slices rollups symbol
  ranks :
    snapshot.liquidityRankAtThatTime.map (·.liquidityRankAtThatTime) =
      (List.range snapshot.liquidityRankAtThatTime.length).map
        (fun index => ((index + 1 : Nat) : Int))
  ordered : snapshot.liquidityRankAtThatTime.Pairwise ranksBefore
  ranked :
    ∀ member ∈ snapshot.members,
      ∀ rank,
        member.liquidityRankAtThatTime = some rank ↔
          ∃ row ∈ snapshot.liquidityRankAtThatTime,
            row.symbolCanonical = member.symbolCanonical ∧
              row.liquidityRankAtThatTime = rank
  atMostFifty : snapshot.includedSymbols.length ≤ 50
  included :
    ∀ member ∈ snapshot.includedSymbols,
      AdmittedMember inputRange rollups member
  approved :
    ∀ member ∈ snapshot.includedSymbols, member.statusReason = "approved"
  rejected :
    ∀ member ∈ snapshot.excludedSymbols, member.statusReason ≠ "approved"
  neverUnexplained :
    ∀ member ∈ snapshot.members, member.statusReason ≠ "not_admitted"
  atMostThirtyDays :
    ∀ member ∈ snapshot.members, member.bootstrapDaysAvailable ≤ 30
  admittedDays :
    ∀ rollup ∈ rollups,
      Admitted inputRange rollup = true ↔
        rollup.schemaVersion =
            symbolUniverseBootstrapRollupSchemaVersion ∧
          rollup.dayStartMs ∈ bootstrapRollupDayStarts inputRange

variable
  {inputRange : InputRange}
  {slices : List (SliceRow ℚ)}
  {rollups : List (SymbolUniverseBootstrapRollup ℚ)}

/-- An included symbol has what the limits ask for. -/
private theorem admittedMember_of_approved
    (representable : inputRange.DaysRepresentable)
    (dayAligned : ∀ rollup ∈ rollups, rollup.dayStartMs % dayMs = 0)
    {ranks : OrderedMap String Int}
    {stat : SymbolStats ℚ}
    (listed :
      stat ∈ (symbolStatsFromBootstrap inputRange slices rollups).values)
    (approved : (universeMember ranks stat).approvedUniverseSymbol = true) :
    AdmittedMember inputRange rollups (universeMember ranks stat) := by
  obtain ⟨enough, rank, notional, spread, gapRate⟩ :=
    isApprovedUniverseSymbol_iff.mp approved
  obtain ⟨atMost, onDays⟩ :=
    bootstrapDays_le representable dayAligned listed
  have fifty : (maxMedianSpreadBps : ℚ) = 50 := rfl
  have twentieth : (maxGapRate : ℚ) = 1 / 20 := by
    change ((5 : Nat) : ℚ) / ((100 : Nat) : ℚ) = 1 / 20
    norm_num
  rw [fifty] at spread
  rw [twentieth] at gapRate
  exact
    { rank := rank
      days := le_antisymm atMost enough
      rolledUp := onDays enough
      notional := notional
      spread := spread
      gapRate := gapRate }

/-- The reason of a member agrees with its side. -/
private theorem universeMember_reason
    (ranks : OrderedMap String Int)
    (stat : SymbolStats ℚ) :
    ((universeMember ranks stat).statusReason = "approved" ↔
      (universeMember ranks stat).approvedUniverseSymbol = true) ∧
      (universeMember ranks stat).statusReason ≠ "not_admitted" := by
  change
    (universeStatusReason stat (ranks.get? stat.symbolCanonical)
        (isApprovedUniverseSymbol stat _) = _ ↔
      isApprovedUniverseSymbol stat _ = true) ∧
      universeStatusReason stat _ (isApprovedUniverseSymbol stat _) ≠ _
  cases approved :
      isApprovedUniverseSymbol stat (ranks.get? stat.symbolCanonical) with
  | true =>
      rw [universeStatusReason_approved]
      decide
  | false =>
      obtain ⟨other, explained⟩ :=
        universeStatusReason_of_not_approved approved
      exact ⟨⟨fun same => absurd same other, nofun⟩, explained⟩

/-- A snapshot is a consistent ranking and division of the symbols. -/
theorem universeSnapshot_consistent
    (sha256Hex : String → String)
    (l1RunId : String)
    (inputRange : InputRange)
    (generatedAtMs : Int)
    (slices : List (SliceRow ℚ))
    (rollups : List (SymbolUniverseBootstrapRollup ℚ))
    (representable : inputRange.DaysRepresentable)
    (dayAligned : ∀ rollup ∈ rollups, rollup.dayStartMs % dayMs = 0) :
    ConsistentSnapshot inputRange slices rollups
      (buildSymbolUniverseSnapshotFromBootstrap sha256Hex l1RunId
        inputRange generatedAtMs slices rollups) := by
  let stats := symbolStatsFromBootstrap inputRange slices rollups
  let ranks := liquidityRanks stats
  let members := stats.values.map (universeMember (rankBySymbol ranks))
  have divided := dividedMembers_perm members
  have symbols :
      members.map (·.symbolCanonical) = stats.keys := by
    rw [← symbolStatsFromBootstrap_symbols, List.map_map]
    rfl
  have distinct : (stats.values.map (·.symbolCanonical)).Nodup := by
    rw [symbolStatsFromBootstrap_symbols]
    exact stats.keys_nodup
  have made :
      ∀ member ∈ members,
        ∃ stat ∈ stats.values,
          universeMember (rankBySymbol ranks) stat = member :=
    fun member => List.mem_map.mp
  have included :
      ∀ member,
        member ∈
            (members.filter (·.approvedUniverseSymbol)).insertionSort
              memberBefore ↔
          member ∈ members ∧ member.approvedUniverseSymbol = true := by
    intro member
    rw [List.mem_insertionSort, List.mem_filter]
  have excluded :
      ∀ member,
        member ∈
            (members.filter fun member =>
              !member.approvedUniverseSymbol).insertionSort memberBefore ↔
          member ∈ members ∧ member.approvedUniverseSymbol = false := by
    intro member
    rw [List.mem_insertionSort, List.mem_filter, Bool.not_eq_true']
  have rankOf :
      ∀ member ∈ members,
        ∀ rank,
          member.liquidityRankAtThatTime = some rank ↔
            ∃ row ∈ ranks,
              row.symbolCanonical = member.symbolCanonical ∧
                row.liquidityRankAtThatTime = rank := by
    intro member inMembers rank
    obtain ⟨stat, _, rfl⟩ := made member inMembers
    exact rankBySymbol_get?_iff distinct
  have admitted :
      ∀ member ∈
          (members.filter (·.approvedUniverseSymbol)).insertionSort
            memberBefore,
        AdmittedMember inputRange rollups member := by
    intro member isIncluded
    obtain ⟨inMembers, approved⟩ := (included member).mp isIncluded
    obtain ⟨stat, listed, rfl⟩ := made member inMembers
    exact admittedMember_of_approved representable dayAligned listed approved
  have listedOnce := (divided.map (·.symbolCanonical)).nodup_iff.mpr
    (symbols ▸ stats.keys_nodup)
  constructor
  case listedOnce =>
    exact listedOnce
  case listed =>
    intro symbol
    refine (divided.map (·.symbolCanonical)).mem_iff.trans ?_
    rw [symbols]
    exact mem_symbolStatsFromBootstrap_keys_iff
  case ranks =>
    exact liquidityRanks_ranks stats
  case ordered =>
    exact liquidityRanks_ordered distinct
  case ranked =>
    intro member listed
    exact rankOf member (divided.mem_iff.mp listed)
  case atMostFifty =>
    rw [← List.length_map (·.symbolCanonical)]
    refine @length_le_fifty stats _ ?_ ?_
    · refine List.Nodup.sublist ?_ listedOnce
      exact (List.sublist_append_left _ _).map _
    · intro symbol isIncluded
      obtain ⟨member, inIncluded, rfl⟩ := List.mem_map.mp isIncluded
      obtain ⟨rank, ranked, approved⟩ := (admitted member inIncluded).rank
      obtain ⟨row, isRanked, named, same⟩ :=
        (rankOf member ((included member).mp inIncluded).1 rank).mp ranked
      exact ⟨row, isRanked, named, same ▸ approved⟩
  case included =>
    exact admitted
  case approved =>
    intro member isIncluded
    obtain ⟨inMembers, approved⟩ := (included member).mp isIncluded
    obtain ⟨stat, _, rfl⟩ := made member inMembers
    exact (universeMember_reason _ stat).1.mpr approved
  case rejected =>
    intro member isExcluded
    obtain ⟨inMembers, rejected⟩ := (excluded member).mp isExcluded
    obtain ⟨stat, _, rfl⟩ := made member inMembers
    rw [(universeMember_reason _ stat).1.ne, rejected]
    exact Bool.false_ne_true
  case neverUnexplained =>
    intro member listed
    obtain ⟨stat, _, rfl⟩ := made member (divided.mem_iff.mp listed)
    exact (universeMember_reason _ stat).2
  case atMostThirtyDays =>
    intro member listed
    obtain ⟨stat, isListed, rfl⟩ := made member (divided.mem_iff.mp listed)
    exact (bootstrapDays_le representable dayAligned isListed).1
  case admittedDays =>
    intro rollup inRollups
    exact admitted_iff representable (dayAligned rollup inRollups)

/-- The statistics of a symbol on each of some days. -/
def rollupSymbol
    (symbolCanonical : String)
    (tradedNotionalSum spreadBps : ℚ) :
    SymbolUniverseBootstrapSymbolStats ℚ where
  symbolCanonical := symbolCanonical
  executionSymbolNative := some ("KRW-" ++ symbolCanonical)
  referenceSymbolNative := some (symbolCanonical ++ "USDT")
  tradedNotionalSum := tradedNotionalSum
  spreadBpsMedianSamples := [spreadBps]
  gapCount := 1
  windowCount := 1440
  mappingConfidence := "moderate"

/-- The daily rollups of two symbols over thirty days, the first of them with
wide spreads. -/
def steadyRollups : List (SymbolUniverseBootstrapRollup ℚ) :=
  (bootstrapRollupDayStarts ⟨2591940000, 2592000000⟩).map fun day =>
    { schemaVersion := symbolUniverseBootstrapRollupSchemaVersion
      rollupId := "rollup"
      eventDate := (timePart day).eventDate
      dayStartMs := day
      generatedAtMs := day
      updatedByL1RunId := "run"
      sourceWindows := [⟨"run", day, day + dayMs⟩]
      symbols := [rollupSymbol "ABC" 500 80, rollupSymbol "BTC" 1000 3] }

/-- The snapshot over thirty days of both symbols. -/
def steadySnapshot : SymbolUniverseSnapshot ℚ :=
  buildSymbolUniverseSnapshotFromBootstrap id "run"
    ⟨2591940000, 2592000000⟩ 2592000000 [] steadyRollups

/-- The snapshot is consistent; it admits the symbol that is ranked first, and
says why it does not admit the other one. -/
theorem steadySnapshot_consistent :
    ConsistentSnapshot ⟨2591940000, 2592000000⟩ [] steadyRollups
        steadySnapshot ∧
      steadySnapshot.includedSymbols.map
          (fun member =>
            (member.symbolCanonical, member.liquidityRankAtThatTime)) =
        [("BTC", some 1)] ∧
      steadySnapshot.excludedSymbols.map
          (fun member => (member.symbolCanonical, member.statusReason)) =
        [("ABC", "spread_too_wide_30d")] := by
  refine ⟨?_, by decide +kernel, by decide +kernel⟩
  refine
    universeSnapshot_consistent id "run" ⟨2591940000, 2592000000⟩ 2592000000
      [] steadyRollups ?_ ?_
  · unfold InputRange.DaysRepresentable
    decide
  · intro rollup member
    obtain ⟨day, inDays, rfl⟩ := List.mem_map.mp member
    have aligned :
        ∀ day ∈ bootstrapRollupDayStarts ⟨2591940000, 2592000000⟩,
          day % dayMs = 0 := by
      decide
    exact aligned day inDays

end Snapshots

end MarketIngest.Normalize
