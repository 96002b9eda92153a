import MarketIngest.UniverseRollup

namespace MarketIngest.Normalize

/-!
# Snapshots of the symbol universe

A snapshot ranks the symbols by their liquidity over the days whose rollups
were read, and includes those that are ranked high enough and pass the limits
of quality.  The statistics of the slices of the run decide only which symbols
are listed.
-/

variable
  {Number : Type}
  [NumberFormat Number]

/-- The statistics by which a symbol is judged. -/
structure SymbolStats (Number : Type) where
  symbolCanonical : String
  executionSymbolNative : Option String
  referenceSymbolNative : Option String
  bootstrapDaysAvailable : Int
  medianSpreadBps : Option Number
  medianTradedNotional : Option Number
  gapRate : Option Number
  mappingConfidence : String
  observedTradedNotional : Number

/-- The place of a symbol among the liquid ones. -/
structure SymbolLiquidityRank (Number : Type) where
  symbolCanonical : String
  liquidityRankAtThatTime : Int
  observedTradedNotional : Number

/-- A symbol of a snapshot. -/
structure SymbolUniverseMember (Number : Type) where
  symbolCanonical : String
  executionSymbolNative : Option String
  referenceSymbolNative : Option String
  liquidityRankAtThatTime : Option Int
  approvedUniverseSymbol : Bool
  bootstrapDaysAvailable : Int
  medianSpreadBps30d : Option Number
  medianTradedNotional30d : Option Number
  gapRate30d : Option Number
  mappingConfidence : String
  statusReason : String

/-- A snapshot of the universe. -/
structure SymbolUniverseSnapshot (Number : Type) where
  schemaVersion : String
  symbolUniverseSnapshotId : String
  universeAsOfMs : Int
  includedSymbols : List (SymbolUniverseMember Number)
  excludedSymbols : List (SymbolUniverseMember Number)
  liquidityRankAtThatTime : List (SymbolLiquidityRank Number)
  selectionPolicyVersion : String
  venueTruthPolicyVersion : String
  dataQualityCutoffVersion : String
  generatedAtMs : Int

/-- The schema of a snapshot. -/
def symbolUniverseSnapshotSchemaVersion : String :=
  "symbol_universe_snapshot_v1"

/-- The version of the ranking. -/
def selectionPolicyVersion : String :=
  "observed_liquidity_rank_p0_v1"

/-- The version of the split between venues. -/
def venueTruthPolicyVersion : String :=
  "execution_reference_split_p0_v1"

/-- The version of the limits of quality. -/
def dataQualityCutoffVersion : String :=
  "requires_30d_bootstrap_p0_v1"

/-- Days that an included symbol has. -/
def minBootstrapDays : Int :=
  30

/-- The last rank that is included. -/
def maxApprovedRank : Int :=
  50

/-- Days that a symbol of the reference venue needs for a rank. -/
def minReferenceWarmupBootstrapDays : Int :=
  1

/-- The widest spread of an included symbol. -/
def maxMedianSpreadBps : Number :=
  NumberFormat.ofNat 50

/-- The greatest share of gaps of an included symbol, one in twenty. -/
def maxGapRate : Number :=
  NumberFormat.ofNat 5 / NumberFormat.ofNat 100

/-- The number of an integer. -/
def numberOfInt (value : Int) : Number :=
  if value < 0 then
    0 - NumberFormat.ofNat value.natAbs
  else
    NumberFormat.ofNat value.natAbs

/-- The share of gaps among some windows. -/
def gapRateOf (gapCount windowCount : Int) : Number :=
  numberOfInt gapCount / numberOfInt windowCount

section Current

/-- The statistics of a symbol before its first slice. -/
def SymbolStats.fromSlice (row : SliceRow Number) : SymbolStats Number where
  symbolCanonical := row.symbolCanonical
  executionSymbolNative := none
  referenceSymbolNative := none
  bootstrapDaysAvailable := 0
  medianSpreadBps := none
  medianTradedNotional := none
  gapRate := none
  mappingConfidence := "moderate"
  observedTradedNotional := 0

/-- The statistics of a symbol that only a rollup has. -/
def SymbolStats.fromBootstrap
    (symbol : SymbolUniverseBootstrapSymbolStats Number) :
    SymbolStats Number where
  symbolCanonical := symbol.symbolCanonical
  executionSymbolNative := symbol.executionSymbolNative
  referenceSymbolNative := symbol.referenceSymbolNative
  bootstrapDaysAvailable := 0
  medianSpreadBps := none
  medianTradedNotional := none
  gapRate := none
  mappingConfidence := symbol.mappingConfidence
  observedTradedNotional := 0

/-- Take the native symbol of a slice. -/
def SymbolStats.observeNativeSymbol
    (stat : SymbolStats Number)
    (row : SliceRow Number) : SymbolStats Number :=
  let (execution, reference) :=
    assignNativeSymbols row stat.executionSymbolNative
      stat.referenceSymbolNative
  { stat with
    executionSymbolNative := execution
    referenceSymbolNative := reference }

/-- The notional that was traded in a slice. -/
def sliceNotional (row : SliceRow Number) : Number :=
  row.tradeVolume * (price row).getD 0

/-- Add a slice to the statistics of its symbol. -/
def SymbolStats.observeSlice
    (stat : SymbolStats Number)
    (row : SliceRow Number) : SymbolStats Number :=
  let observed := stat.observeNativeSymbol row
  { observed with
    observedTradedNotional :=
      observed.observedTradedNotional + sliceNotional row }

/-- The symbols of some slices. -/
def observedStats
    (slices : List (SliceRow Number)) :
    OrderedMap String (SymbolStats Number) :=
  slices.foldl
    (fun stats row =>
      stats.upsert row.symbolCanonical
        (fun known => (known.getD (.fromSlice row)).observeSlice row))
    .empty

/-- The traded notional of some slices by symbol and day. -/
def dailyStats
    (slices : List (SliceRow Number)) :
    OrderedMap String (OrderedMap Int Number) :=
  slices.foldl
    (fun daily row =>
      daily.upsert row.symbolCanonical
        (fun known =>
          (known.getD .empty).upsert (row.windowStartMs / dayMs)
            (fun notional => notional.getD 0 + sliceNotional row)))
    .empty

/-- The spreads of some slices by symbol. -/
def spreadsOf
    (slices : List (SliceRow Number)) :
    OrderedMap String (List Number) :=
  slices.foldl
    (fun spreads row =>
      match row.spreadBps.filter NumberFormat.isFinite with
      | some spread =>
          spreads.upsert row.symbolCanonical
            (fun known => known.getD [] ++ [spread])
      | none => spreads)
    .empty

/-- The gaps and the windows of some slices by symbol. -/
def gapCountsOf
    (slices : List (SliceRow Number)) :
    OrderedMap String (Int × Int) :=
  slices.foldl
    (fun gapCounts row =>
      gapCounts.upsert row.symbolCanonical
        (fun known =>
          let (gaps, windows) := known.getD (0, 0)
          (gaps + row.qualityGap, windows + 1)))
    .empty

/-- The statistics of the slices of a run. -/
def symbolStats
    (slices : List (SliceRow Number)) :
    OrderedMap String (SymbolStats Number) :=
  (observedStats slices).mapValues fun stat =>
    let dailyNotional :=
      (((dailyStats slices).get? stat.symbolCanonical).getD .empty).values
    { stat with
      bootstrapDaysAvailable := dailyNotional.length
      medianTradedNotional := median dailyNotional
      medianSpreadBps :=
        ((spreadsOf slices).get? stat.symbolCanonical).bind median
      gapRate :=
        ((gapCountsOf slices).get? stat.symbolCanonical).map
          fun counts =>
            if counts.2 = 0 then
              NumberFormat.ofNat 1
            else
              gapRateOf counts.1 counts.2 }

end Current

section Bootstrap

/-- The rollup is of this schema and of a day that the snapshot covers. -/
def Admitted
    (inputRange : InputRange)
    (rollup : SymbolUniverseBootstrapRollup Number) : Bool :=
  let bootstrapStartDayMs :=
    dayStartMs
      (saturatingSub (saturatingSub inputRange.endMs 1)
        (((bootstrapRollupDays : Int) - 1) * dayMs))
  let bootstrapEndDayMs := dayStartMs (saturatingSub inputRange.endMs 1)
  rollup.schemaVersion = symbolUniverseBootstrapRollupSchemaVersion &&
    (decide (bootstrapStartDayMs ≤ rollup.dayStartMs) &&
      decide (rollup.dayStartMs ≤ bootstrapEndDayMs))

/-- The symbols of some rollups with their days. -/
def rollupSymbols
    (rollups : List (SymbolUniverseBootstrapRollup Number)) :
    List (Int × SymbolUniverseBootstrapSymbolStats Number) :=
  rollups.flatMap fun rollup =>
    rollup.symbols.map fun symbol => (rollup.dayStartMs, symbol)

/-- A symbol of a rollup among the symbols that are listed. -/
def ensureBootstrapSymbolStats
    (symbol : SymbolUniverseBootstrapSymbolStats Number)
    (known : Option (SymbolStats Number)) : SymbolStats Number :=
  let entry := known.getD (.fromBootstrap symbol)
  { entry with
    executionSymbolNative :=
      entry.executionSymbolNative.or symbol.executionSymbolNative
    referenceSymbolNative :=
      entry.referenceSymbolNative.or symbol.referenceSymbolNative }

/-- The symbols that are listed, after those of some rollups. -/
def ensuredStats
    (stats : OrderedMap String (SymbolStats Number))
    (symbols : List (Int × SymbolUniverseBootstrapSymbolStats Number)) :
    OrderedMap String (SymbolStats Number) :=
  symbols.foldl
    (fun stats symbol =>
      stats.upsert symbol.2.symbolCanonical
        (ensureBootstrapSymbolStats symbol.2))
    stats

/-- The notional of some rollups by symbol and day. -/
def dailyNotionalOf
    (symbols : List (Int × SymbolUniverseBootstrapSymbolStats Number)) :
    OrderedMap String (OrderedMap Int Number) :=
  symbols.foldl
    (fun dailyNotional symbol =>
      dailyNotional.upsert symbol.2.symbolCanonical
        (fun known =>
          (known.getD .empty).upsert symbol.1 (fun
            | some notional => notional + symbol.2.tradedNotionalSum
            | none => symbol.2.tradedNotionalSum)))
    .empty

/-- The spreads of some rollups by symbol. -/
def spreadSamplesOf
    (symbols : List (Int × SymbolUniverseBootstrapSymbolStats Number)) :
    OrderedMap String (List Number) :=
  symbols.foldl
    (fun spreadSamples symbol =>
      spreadSamples.upsert symbol.2.symbolCanonical
        (fun known =>
          known.getD [] ++
            symbol.2.spreadBpsMedianSamples.filter NumberFormat.isFinite))
    .empty

/-- The gaps and the windows of some rollups by symbol. -/
def rollupGapCountsOf
    (symbols : List (Int × SymbolUniverseBootstrapSymbolStats Number)) :
    OrderedMap String (Int × Int) :=
  symbols.foldl
    (fun gapCounts symbol =>
      gapCounts.upsert symbol.2.symbolCanonical
        (fun known =>
          let (gaps, windows) := known.getD (0, 0)
          (gaps + symbol.2.gapCount, windows + symbol.2.windowCount)))
    .empty

/-- The statistics of a listed symbol over the days of the rollups. -/
def finalizeBootstrapStat
    (symbols : List (Int × SymbolUniverseBootstrapSymbolStats Number))
    (stat : SymbolStats Number) : SymbolStats Number :=
  let dayValues :=
    (((dailyNotionalOf symbols).get? stat.symbolCanonical).getD
      .empty).values
  { stat with
    bootstrapDaysAvailable := dayValues.length
    medianTradedNotional := median dayValues
    medianSpreadBps :=
      ((spreadSamplesOf symbols).get? stat.symbolCanonical).bind median
    gapRate :=
      ((rollupGapCountsOf symbols).get? stat.symbolCanonical).map
        fun counts =>
          if counts.2 ≤ 0 then
            NumberFormat.ofNat 1
          else
            gapRateOf counts.1 counts.2 }

/-- The statistics of all symbols of the slices and the admitted rollups. -/
def symbolStatsFromBootstrap
    (inputRange : InputRange)
    (currentSlices : List (SliceRow Number))
    (bootstrapRollups : List (SymbolUniverseBootstrapRollup Number)) :
    OrderedMap String (SymbolStats Number) :=
  let symbols :=
    rollupSymbols (bootstrapRollups.filter (Admitted inputRange))
  (ensuredStats (symbolStats currentSlices) symbols).mapValues
    (finalizeBootstrapStat symbols)

end Bootstrap

section Policy

/-- The symbol of a reference venue may be ranked while it warms up. -/
def isReferenceWarmupSymbol (stat : SymbolStats Number) : Bool :=
  match stat.referenceSymbolNative with
  | some symbol =>
      Text.endsWith symbol "USDT" && !Text.startsWith symbol "KRW-"
  | none => false

/-- The symbol gets a rank. -/
def isLiquidityRankEligible
    (stat : SymbolStats Number)
    (notional : Number) : Bool :=
  if !NumberFormat.isFinite notional || decide (notional ≤ 0) then
    false
  else if stat.bootstrapDaysAvailable ≥ minBootstrapDays then
    true
  else
    decide (minReferenceWarmupBootstrapDays ≤ stat.bootstrapDaysAvailable) &&
      (decide (stat.bootstrapDaysAvailable < minBootstrapDays) &&
        isReferenceWarmupSymbol stat)

/-- Greater notional first, then by symbol. -/
def rankedBefore (left right : String × Number) : Prop :=
  right.2 < left.2 ∨ ¬ left.2 < right.2 ∧ left.1 ≤ right.1

instance rankedBeforeDecidable :
    DecidableRel (@rankedBefore Number _) := fun left right =>
  inferInstanceAs
    (Decidable (right.2 < left.2 ∨ ¬ left.2 < right.2 ∧ left.1 ≤ right.1))

/-- The symbols that get a rank, with their notional. -/
def rankedRows
    (stats : OrderedMap String (SymbolStats Number)) :
    List (String × Number) :=
  stats.values.filterMap fun stat =>
    match stat.medianTradedNotional with
    | some notional =>
        if isLiquidityRankEligible stat notional then
          some (stat.symbolCanonical, notional)
        else
          none
    | none => none

/-- The ranks of the liquid symbols. -/
def liquidityRanks
    (stats : OrderedMap String (SymbolStats Number)) :
    List (SymbolLiquidityRank Number) :=
  ((rankedRows stats).insertionSort rankedBefore).zipIdx.map fun row =>
    { symbolCanonical := row.1.1
      liquidityRankAtThatTime := (row.2 + 1 : Nat)
      observedTradedNotional := row.1.2 }

/-- The statistics pass the limits of quality. -/
def passesUniverseQuality (stat : SymbolStats Number) : Bool :=
  (stat.medianTradedNotional.any fun notional => decide (0 < notional)) &&
    ((stat.medianSpreadBps.any fun spread =>
        decide (spread ≤ maxMedianSpreadBps)) &&
      stat.gapRate.any fun gapRate => decide (gapRate ≤ maxGapRate))

/-- The symbol is included. -/
def isApprovedUniverseSymbol
    (stat : SymbolStats Number)
    (liquidityRank : Option Int) : Bool :=
  decide (stat.bootstrapDaysAvailable ≥ minBootstrapDays) &&
    ((liquidityRank.any fun rank => decide (rank ≤ maxApprovedRank)) &&
      passesUniverseQuality stat)

/-- Why a symbol is included or not. -/
def universeStatusReason
    (stat : SymbolStats Number)
    (liquidityRank : Option Int)
    (approvedUniverseSymbol : Bool) : String :=
  if approvedUniverseSymbol then
    "approved"
  else if stat.bootstrapDaysAvailable < minBootstrapDays then
    "insufficient_30d_bootstrap"
  else if liquidityRank.all fun rank => decide (rank > maxApprovedRank) then
    "outside_top_50_liquidity_rank"
  else if !(stat.medianTradedNotional.any fun notional =>
      decide (0 < notional)) then
    "missing_30d_traded_notional"
  else
    match stat.medianSpreadBps with
    | none => "missing_30d_spread"
    | some medianSpreadBps =>
        if medianSpreadBps > maxMedianSpreadBps then
          "spread_too_wide_30d"
        else if !(stat.gapRate.any fun gapRate =>
            decide (gapRate ≤ maxGapRate)) then
          "gap_rate_too_high_30d"
        else
          "not_admitted"

/-- The order of the members of a list: by rank, then by symbol. -/
def memberBefore (left right : SymbolUniverseMember Number) : Prop :=
  left.liquidityRankAtThatTime.getD i64Max <
      right.liquidityRankAtThatTime.getD i64Max ∨
    left.liquidityRankAtThatTime.getD i64Max =
        right.liquidityRankAtThatTime.getD i64Max ∧
      left.symbolCanonical ≤ right.symbolCanonical

instance memberBeforeDecidable :
    DecidableRel (@memberBefore Number) := fun _ _ =>
  inferInstanceAs (Decidable (_ ∨ _ ∧ _))

end Policy

section Snapshot

/-- The ranks by symbol. -/
def rankBySymbol
    (ranks : List (SymbolLiquidityRank Number)) :
    OrderedMap String Int :=
  ranks.foldl
    (fun rankBySymbol rank =>
      rankBySymbol.upsert rank.symbolCanonical
        (fun _ => rank.liquidityRankAtThatTime))
    .empty

/-- The member of a symbol. -/
def universeMember
    (ranks : OrderedMap String Int)
    (stat : SymbolStats Number) : SymbolUniverseMember Number :=
  let liquidityRank := ranks.get? stat.symbolCanonical
  let approved := isApprovedUniverseSymbol stat liquidityRank
  { symbolCanonical := stat.symbolCanonical
    executionSymbolNative := stat.executionSymbolNative
    referenceSymbolNative := stat.referenceSymbolNative
    liquidityRankAtThatTime := liquidityRank
    approvedUniverseSymbol := approved
    bootstrapDaysAvailable := stat.bootstrapDaysAvailable
    medianSpreadBps30d := stat.medianSpreadBps
    medianTradedNotional30d := stat.medianTradedNotional
    gapRate30d := stat.gapRate
    mappingConfidence := stat.mappingConfidence
    statusReason := universeStatusReason stat liquidityRank approved }

variable (sha256Hex : String → String)

/-- The snapshot of the slices of a run and the rollups that were read. -/
def buildSymbolUniverseSnapshotFromBootstrap
    (l1RunId : String)
    (inputRange : InputRange)
    (generatedAtMs : Int)
    (currentSlices : List (SliceRow Number))
    (bootstrapRollups : List (SymbolUniverseBootstrapRollup Number)) :
    SymbolUniverseSnapshot Number :=
  let stats :=
    symbolStatsFromBootstrap inputRange currentSlices bootstrapRollups
  let ranks := liquidityRanks stats
  let members := stats.values.map (universeMember (rankBySymbol ranks))
  { schemaVersion := symbolUniverseSnapshotSchemaVersion
    symbolUniverseSnapshotId :=
      stableId sha256Hex
        [l1RunId, toString inputRange.startMs, toString inputRange.endMs,
          symbolUniverseSnapshotSchemaVersion]
    universeAsOfMs := inputRange.endMs
    includedSymbols :=
      (members.filter (·.approvedUniverseSymbol)).insertionSort memberBefore
    excludedSymbols :=
      (members.filter fun member =>
        !member.approvedUniverseSymbol).insertionSort memberBefore
    liquidityRankAtThatTime := ranks
    selectionPolicyVersion := selectionPolicyVersion
    venueTruthPolicyVersion := venueTruthPolicyVersion
    dataQualityCutoffVersion := dataQualityCutoffVersion
    generatedAtMs := generatedAtMs }

end Snapshot

end MarketIngest.Normalize
