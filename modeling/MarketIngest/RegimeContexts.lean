import MarketIngest.FeatureDeltas

namespace MarketIngest.Normalize

/-!
# Regime contexts

The return of a slice compares its price with that of an hour before or, if
there is none, with that of the slice before it.  A regime context describes the
returns of one window, and how the returns of the last hour went together with
those of BTC.
-/

/-- The return of a symbol in a window. -/
structure ReturnSample (Number : Type) where
  symbolCanonical : String
  windowEndMs : Int
  returnPct : Number
  lookbackMs : Int

/-- The context of one window. -/
structure MarketRegimeContext (Number : Type) where
  schemaVersion : String
  regimeContextId : String
  l1RunId : String
  scope : String
  windowStartMs : Int
  windowEndMs : Int
  btcReturnSameWindow : Option Number
  ethReturnSameWindow : Option Number
  sectorReturnSameWindow : Option Number
  volatilityRegime : String
  correlationToBtc : Option Number
  knownAsOfMs : Int
  qualityStatus : String
  missingReasons : List String

/-- The schema of a regime context. -/
def marketRegimeContextSchemaVersion : String :=
  "market_regime_context_v1"

variable
  {Number : Type}
  [NumberFormat Number]

section Returns

/-- The price of the last slice that starts at or before a time. -/
def priceWithWindowAtOrBefore
    (rows : List (SliceRow Number))
    (targetMs : Int) : Option (Number × Int) :=
  (rows.reverse.find? fun row =>
    decide (row.windowStartMs ≤ targetMs)).bind fun row =>
      (price row).map fun value => (value, row.windowStartMs)

/-- The price of the last slice that starts before a time. -/
def nearestPriorPriceWithWindow
    (rows : List (SliceRow Number))
    (currentWindowStartMs : Int) : Option (Number × Int) :=
  (rows.reverse.find? fun row =>
    decide (row.windowStartMs < currentWindowStartMs)).bind fun row =>
      (price row).map fun value => (value, row.windowStartMs)

/-- The return of a slice, and over which time. -/
def returnSampleForRow
    (rows : List (SliceRow Number))
    (row : SliceRow Number) : Option (Number × Int) :=
  (price row).bind fun currentPrice =>
    let targetStartMs := saturatingSub row.windowStartMs oneHourMs
    let historical :=
      (priceWithWindowAtOrBefore rows targetStartMs).or
        (nearestPriorPriceWithWindow rows row.windowStartMs)
    historical.bind fun historicalPrice =>
      (percentChange (some currentPrice) (some historicalPrice.1)).map
        fun returnPct =>
          (returnPct, saturatingSub row.windowStartMs historicalPrice.2)

/-- The sample of a slice among the slices of its symbol, with its window. -/
def windowSample
    (rows : List (SliceRow Number))
    (row : SliceRow Number) : Option (Int × ReturnSample Number) :=
  (returnSampleForRow rows row).map fun sample =>
    (row.windowStartMs,
      { symbolCanonical := row.symbolCanonical
        windowEndMs := row.windowEndMs
        returnPct := sample.1
        lookbackMs := sample.2 })

/-- The samples of all slices, symbol by symbol. -/
def windowSamples
    (slices : List (SliceRow Number)) : List (Int × ReturnSample Number) :=
  (groupSlicesBySymbol slices).values.flatMap fun rows =>
    rows.filterMap (windowSample rows)

/-- The samples of each window. -/
def returnSamplesByWindow
    (slices : List (SliceRow Number)) :
    OrderedMap Int (List (ReturnSample Number)) :=
  (windowSamples slices).foldl
    (fun byWindow sample =>
      byWindow.upsert sample.1
        (fun known => known.getD [] ++ [sample.2]))
    .empty

/-- The return of a symbol among some samples. -/
def returnForSymbol
    (samples : List (ReturnSample Number))
    (symbol : String) : Option Number :=
  (samples.find? fun sample =>
    decide (sample.symbolCanonical = symbol)).map (·.returnPct)

/-- The mean return of some samples. -/
def sectorReturn (samples : List (ReturnSample Number)) : Option Number :=
  mean (samples.map (·.returnPct))

variable [SquareRoot Number]

/-- How the returns of BTC and of all symbols went together for an hour. -/
def rollingCorrelationToBtc
    (returnsByWindow : OrderedMap Int (List (ReturnSample Number)))
    (currentWindowStartMs : Int) : Option Number :=
  let startMs := saturatingSub currentWindowStartMs oneHourMs
  let windows :=
    returnsByWindow.entries.filter fun entry =>
      decide (startMs ≤ entry.1) && decide (entry.1 ≤ currentWindowStartMs)
  (windows.mapM fun entry =>
    (returnForSymbol entry.2 "BTC").bind fun btc =>
      (sectorReturn entry.2).map fun sector => (btc, sector)).bind
    fun returns =>
      correlation (returns.map Prod.fst) (returns.map Prod.snd)

end Returns

section Quality

/-- What is missing in a context. -/
def regimeMissingReasons
    (btcReturn ethReturn sectorReturn correlationToBtc : Option Number) :
    List String :=
  missingIfNone btcReturn "btc_return_missing" ++
    (missingIfNone ethReturn "eth_return_missing" ++
      (missingIfNone sectorReturn "sector_return_missing" ++
        missingIfNone correlationToBtc
          "correlation_to_btc_insufficient_samples"))

/-- How complete a context is. -/
def regimeQualityStatus
    (missingReasons : List String)
    (sectorReturn : Option Number) : String :=
  if missingReasons = [] then
    "complete"
  else if sectorReturn.isSome then
    "partial"
  else
    "insufficient"

/-- The name of a volatility. -/
def volatilityRegime (volatility : Option Number) : String :=
  match volatility with
  | some value =>
      if value < NumberFormat.ofNat 5 / NumberFormat.ofNat 10 then
        "low"
      else if value < NumberFormat.ofNat 2 then
        "medium"
      else
        "high"
  | none => "unknown"

end Quality

section Contexts

variable
  [SquareRoot Number]
  (sha256Hex : String → String)
  (l1RunId : String)
  (knownAsOfMs : Int)

/-- The context of a window with its samples. -/
def regimeContextForWindow
    (returnsByWindow : OrderedMap Int (List (ReturnSample Number)))
    (windowStartMs : Int)
    (samples : List (ReturnSample Number)) : MarketRegimeContext Number :=
  let btcReturn := returnForSymbol samples "BTC"
  let ethReturn := returnForSymbol samples "ETH"
  let sectorReturn := sectorReturn samples
  let volatility := populationStddev (samples.map (·.returnPct))
  let correlationToBtc :=
    rollingCorrelationToBtc returnsByWindow windowStartMs
  let missingReasons :=
    regimeMissingReasons btcReturn ethReturn sectorReturn
        correlationToBtc ++
      if samples.any fun sample => decide (sample.lookbackMs < oneHourMs) then
        ["return_lookback_degraded"]
      else
        []
  { schemaVersion := marketRegimeContextSchemaVersion
    regimeContextId :=
      stableId sha256Hex
        [l1RunId, toString windowStartMs, "market_all_symbols",
          marketRegimeContextSchemaVersion]
    l1RunId := l1RunId
    scope := "market_all_symbols"
    windowStartMs := windowStartMs
    windowEndMs :=
      (samples.head?.map (·.windowEndMs)).getD
        (saturatingAdd windowStartMs 1000)
    btcReturnSameWindow := btcReturn
    ethReturnSameWindow := ethReturn
    sectorReturnSameWindow := sectorReturn
    volatilityRegime := volatilityRegime volatility
    correlationToBtc := correlationToBtc
    knownAsOfMs := knownAsOfMs
    qualityStatus := regimeQualityStatus missingReasons sectorReturn
    missingReasons := missingReasons }

/-- The contexts of the windows of a run. -/
def buildMarketRegimeContexts
    (inputRange : InputRange)
    (projectionSlices : List (SliceRow Number)) :
    List (MarketRegimeContext Number) :=
  let returnsByWindow := returnSamplesByWindow projectionSlices
  (returnsByWindow.entries.filter fun entry =>
    decide (inputRange.startMs ≤ entry.1)).map fun entry =>
      regimeContextForWindow sha256Hex l1RunId knownAsOfMs
        returnsByWindow entry.1 entry.2

end Contexts

end MarketIngest.Normalize
