import MarketIngest.TimeGroups
import MarketIngest.UniverseRollup
import Mathlib.Data.Nat.Sqrt

namespace MarketIngest.Normalize

/-!
# Feature deltas and regime contexts

A feature delta compares a value with those of 15 minutes and of an hour before.
A regime context describes the returns of all symbols in one window.  Both are
computed from rows that are grouped by symbol and sorted by time, and look back
from each row.
-/

/-- Fifteen minutes in milliseconds. -/
def fifteenMinutesMs : Int :=
  900000

/-- One hour in milliseconds. -/
def oneHourMs : Int :=
  3600000

section Statistics

variable
  {Number : Type}
  [NumberFormat Number]

/-- A number format with square roots. -/
class SquareRoot (Number : Type) where
  sqrt : Number → Number

/-- Square roots of double-precision numbers. -/
instance floatSquareRoot : SquareRoot Float where
  sqrt := Float.sqrt

/-- Square roots of rational squares. -/
instance rationalSquareRoot : SquareRoot ℚ where
  sqrt := fun value => Nat.sqrt value.num.natAbs / Nat.sqrt value.den

/-- The distance from one to the next double-precision number. -/
def epsilon : Number :=
  NumberFormat.ofNat 1 / NumberFormat.ofNat (2 ^ 52)

/-- The absolute value. -/
def absolute (value : Number) : Number :=
  if value < 0 then 0 - value else value

/-- The change from the previous value in percent. -/
def percentChange (now previous : Option Number) : Option Number :=
  match now, previous with
  | some now, some previous =>
      if !NumberFormat.isFinite now || !NumberFormat.isFinite previous ||
          decide (absolute previous ≤ epsilon) then
        none
      else
        some ((now - previous) / previous * NumberFormat.ofNat 100)
  | _, _ => none

/-- The mean of the finite values. -/
def mean (values : List Number) : Option Number :=
  let finite := values.filter NumberFormat.isFinite
  if finite.length = 0 then
    none
  else
    some (sumOf finite / NumberFormat.ofNat finite.length)

/-- The square of a number. -/
def square (value : Number) : Number :=
  value * value

variable [SquareRoot Number]

/-- The standard deviation of the finite values as a whole population. -/
def populationStddev (values : List Number) : Option Number :=
  let finite := values.filter NumberFormat.isFinite
  if finite.length < 2 then
    none
  else
    let mean := sumOf finite / NumberFormat.ofNat finite.length
    let variance :=
      sumOf (finite.map fun value => square (value - mean)) /
        NumberFormat.ofNat finite.length
    some (SquareRoot.sqrt variance)

/-- The correlation of two series of the same length. -/
def correlation (left right : List Number) : Option Number :=
  if left.length ≠ right.length ∨ left.length < 3 then
    none
  else
    let leftMean := sumOf left / NumberFormat.ofNat left.length
    let rightMean := sumOf right / NumberFormat.ofNat right.length
    let deltas :=
      (left.zip right).map fun pair => (pair.1 - leftMean, pair.2 - rightMean)
    let numerator := sumOf (deltas.map fun delta => delta.1 * delta.2)
    let leftDenominator := sumOf (deltas.map fun delta => square delta.1)
    let rightDenominator := sumOf (deltas.map fun delta => square delta.2)
    if leftDenominator ≤ epsilon ∨ rightDenominator ≤ epsilon then
      none
    else
      some
        (numerator /
          (SquareRoot.sqrt leftDenominator *
            SquareRoot.sqrt rightDenominator))

end Statistics

section Grouping

variable
  {Number : Type}
  [NumberFormat Number]

/-- A symbol of a market at a venue. -/
abbrev SymbolWindowKey :=
  String ×ₗ (String ×ₗ (String ×ₗ String))

/-- The symbol of a slice. -/
def symbolWindowKey (row : SliceRow Number) : SymbolWindowKey :=
  toLex (row.venue,
    toLex (row.symbolNative,
      toLex (row.symbolCanonical, row.marketType)))

/-- The slices of each symbol in the order of their windows. -/
def groupSlicesBySymbol
    (slices : List (SliceRow Number)) :
    OrderedMap SymbolWindowKey (List (SliceRow Number)) :=
  groupByTime symbolWindowKey (·.windowStartMs) slices

/-- The traded volume of a slice, if it is a number that is not negative. -/
def volume (row : SliceRow Number) : Option Number :=
  (some row.tradeVolume).filter fun value =>
    NumberFormat.isFinite value && decide (0 ≤ value)

/-- The value of the last slice that starts at or before a time. -/
def valueAtOrBefore
    (rows : List (SliceRow Number))
    (targetWindowStartMs : Int)
    (value : SliceRow Number → Option Number) : Option Number :=
  let idx :=
    partitionPoint
      (fun row => decide (row.windowStartMs ≤ targetWindowStartMs)) rows
  if idx = 0 then
    none
  else
    rows[idx - 1]?.bind value

end Grouping

/-- The change of one metric of a symbol up to a window. -/
structure MarketFeatureDelta (Number : Type) where
  schemaVersion : String
  featureDeltaId : String
  l1RunId : String
  metricName : String
  venue : String
  symbolNative : String
  symbolCanonical : String
  marketType : String
  valueNow : Number
  value15mAgo : Option Number
  value1hAgo : Option Number
  changePct15m : Option Number
  changePct1h : Option Number
  priceChangeSameWindow : Option Number
  volumeChangeSameWindow : Option Number
  oiPriceDivergence : Option Number
  windowStartMs : Int
  windowEndMs : Int
  knownAsOfMs : Int
  qualityStatus : String
  missingReasons : List String

/-- The schema of a feature delta. -/
def marketFeatureDeltaSchemaVersion : String :=
  "market_feature_delta_v1"

/-- The values of a feature delta. -/
structure MarketFeatureDeltaValues (Number : Type) where
  valueNow : Number
  value15mAgo : Option Number
  value1hAgo : Option Number
  changePct15m : Option Number
  changePct1h : Option Number
  priceChangeSameWindow : Option Number
  volumeChangeSameWindow : Option Number
  oiPriceDivergence : Option Number
  knownAsOfMs : Int

/-- A reason if a value is missing. -/
def missingIfNone
    {Value : Type}
    (value : Option Value)
    (reason : String) : List String :=
  if value.isNone then [reason] else []

/-- How complete the values are. -/
def deltaQualityStatus
    {Number : Type}
    (missingReasons : List String)
    (changePct15m changePct1h : Option Number) : String :=
  if missingReasons = [] then
    "complete"
  else if changePct15m.isSome || changePct1h.isSome then
    "partial"
  else
    "insufficient"

section Deltas

variable
  {Number : Type}
  [NumberFormat Number]
  (sha256Hex : String → String)
  (l1RunId : String)

/-- The delta of one metric of a slice. -/
def marketFeatureDelta
    (metricName : String)
    (row : SliceRow Number)
    (values : MarketFeatureDeltaValues Number) : MarketFeatureDelta Number :=
  let missingReasons :=
    missingIfNone values.value15mAgo "value_15m_ago_missing" ++
      (missingIfNone values.value1hAgo "value_1h_ago_missing" ++
        (missingIfNone values.priceChangeSameWindow
            "price_change_same_window_missing" ++
          missingIfNone values.volumeChangeSameWindow
            "volume_change_same_window_missing"))
  { schemaVersion := marketFeatureDeltaSchemaVersion
    featureDeltaId :=
      stableId sha256Hex
        [l1RunId, metricName, row.venue, row.symbolNative,
          toString row.windowStartMs, marketFeatureDeltaSchemaVersion]
    l1RunId := l1RunId
    metricName := metricName
    venue := row.venue
    symbolNative := row.symbolNative
    symbolCanonical := row.symbolCanonical
    marketType := row.marketType
    valueNow := values.valueNow
    value15mAgo := values.value15mAgo
    value1hAgo := values.value1hAgo
    changePct15m := values.changePct15m
    changePct1h := values.changePct1h
    priceChangeSameWindow := values.priceChangeSameWindow
    volumeChangeSameWindow := values.volumeChangeSameWindow
    oiPriceDivergence := values.oiPriceDivergence
    windowStartMs := row.windowStartMs
    windowEndMs := row.windowEndMs
    knownAsOfMs := values.knownAsOfMs
    qualityStatus :=
      deltaQualityStatus missingReasons values.changePct15m
        values.changePct1h
    missingReasons := missingReasons }

/-- The deltas of a slice among the slices of its symbol. -/
def sliceDeltas
    (knownAsOfMs : Int)
    (rows : List (SliceRow Number))
    (row : SliceRow Number) : List (MarketFeatureDelta Number) :=
  let priceNow := price row
  let volumeNow := some row.tradeVolume
  -- A slice of the input range starts at or after 0, so that an hour before it
  -- is within `i64`.
  let price15m :=
    valueAtOrBefore rows (row.windowStartMs - fifteenMinutesMs) price
  let price1h := valueAtOrBefore rows (row.windowStartMs - oneHourMs) price
  let volume15m :=
    valueAtOrBefore rows (row.windowStartMs - fifteenMinutesMs) volume
  let volume1h := valueAtOrBefore rows (row.windowStartMs - oneHourMs) volume
  let priceChange15m := percentChange priceNow price15m
  let priceChange1h := percentChange priceNow price1h
  let volumeChange15m := percentChange volumeNow volume15m
  let volumeChange1h := percentChange volumeNow volume1h
  (match priceNow with
    | some valueNow =>
        [marketFeatureDelta sha256Hex l1RunId "price" row
          { valueNow := valueNow
            value15mAgo := price15m
            value1hAgo := price1h
            changePct15m := priceChange15m
            changePct1h := priceChange1h
            priceChangeSameWindow := priceChange1h
            volumeChangeSameWindow := volumeChange1h
            oiPriceDivergence := none
            knownAsOfMs := knownAsOfMs }]
    | none => []) ++
    [marketFeatureDelta sha256Hex l1RunId "trade_volume" row
      { valueNow := row.tradeVolume
        value15mAgo := volume15m
        value1hAgo := volume1h
        changePct15m := volumeChange15m
        changePct1h := volumeChange1h
        priceChangeSameWindow := priceChange1h
        volumeChangeSameWindow := volumeChange1h
        oiPriceDivergence := none
        knownAsOfMs := knownAsOfMs }]

/-- The deltas of the slices of the input range. -/
def spotFeatureDeltas
    (inputRange : InputRange)
    (knownAsOfMs : Int)
    (projectionSlices : List (SliceRow Number)) :
    List (MarketFeatureDelta Number) :=
  (groupSlicesBySymbol projectionSlices).values.flatMap fun rows =>
    (rows.filter fun row =>
      decide (inputRange.startMs ≤ row.windowStartMs)).flatMap
        (sliceDeltas sha256Hex l1RunId knownAsOfMs rows)

/-- A derivative metric of a symbol of a market at a venue. -/
abbrev DerivativeMetricKey :=
  String ×ₗ (String ×ₗ (String ×ₗ (String ×ₗ String)))

/-- The metric of an observation. -/
def derivativeMetricKey
    (metric : DerivativeMetricObservation Number) : DerivativeMetricKey :=
  toLex (metric.venue,
    toLex (metric.symbolNative,
      toLex (metric.symbolCanonical,
        toLex (metric.marketType, metric.metricName))))

/-- The observations of each metric in the order of their time. -/
def groupDerivativeMetrics
    (metrics : List (DerivativeMetricObservation Number)) :
    OrderedMap DerivativeMetricKey
      (List (DerivativeMetricObservation Number)) :=
  groupByTime derivativeMetricKey (·.exchangeTimestampMs) metrics

/-- The value of the last observation at or before a time. -/
def derivativeValueAtOrBefore
    (rows : List (DerivativeMetricObservation Number))
    (targetExchangeTimestampMs : Int) : Option Number :=
  ((rows.reverse.find? fun row =>
    decide (row.exchangeTimestampMs ≤ targetExchangeTimestampMs)).map
      (·.value)).filter NumberFormat.isFinite

/-- The delta of an observation among those of its metric. -/
def derivativeFeatureDelta
    (rows : List (DerivativeMetricObservation Number))
    (row : DerivativeMetricObservation Number) :
    MarketFeatureDelta Number :=
  -- An observation of the input range is not before 0, as above.
  let value15m :=
    derivativeValueAtOrBefore rows
      (row.exchangeTimestampMs - fifteenMinutesMs)
  let value1h :=
    derivativeValueAtOrBefore rows (row.exchangeTimestampMs - oneHourMs)
  let changePct15m := percentChange (some row.value) value15m
  let changePct1h := percentChange (some row.value) value1h
  let missingReasons :=
    missingIfNone value15m "value_15m_ago_missing" ++
      missingIfNone value1h "value_1h_ago_missing"
  { schemaVersion := marketFeatureDeltaSchemaVersion
    featureDeltaId :=
      stableId sha256Hex
        [l1RunId, row.metricName, row.venue, row.symbolNative,
          toString row.exchangeTimestampMs,
          marketFeatureDeltaSchemaVersion]
    l1RunId := l1RunId
    metricName := row.metricName
    venue := row.venue
    symbolNative := row.symbolNative
    symbolCanonical := row.symbolCanonical
    marketType := row.marketType
    valueNow := row.value
    value15mAgo := value15m
    value1hAgo := value1h
    changePct15m := changePct15m
    changePct1h := changePct1h
    priceChangeSameWindow := none
    volumeChangeSameWindow := none
    oiPriceDivergence := none
    windowStartMs := row.exchangeTimestampMs
    windowEndMs := saturatingAdd row.exchangeTimestampMs 1000
    knownAsOfMs := row.ingestTimestampMs
    qualityStatus :=
      deltaQualityStatus missingReasons changePct15m changePct1h
    missingReasons := missingReasons }

/-- The deltas of the observations since the start of the input range. -/
def buildDerivativeFeatureDeltas
    (inputRange : InputRange)
    (projectionDerivativeMetrics :
      List (DerivativeMetricObservation Number)) :
    List (MarketFeatureDelta Number) :=
  (groupDerivativeMetrics projectionDerivativeMetrics).values.flatMap
    fun rows =>
      (rows.filter fun row =>
        decide (inputRange.startMs ≤ row.exchangeTimestampMs)).map
          (derivativeFeatureDelta sha256Hex l1RunId rows)

/-- The place of a delta in the published list. -/
def deltaKey
    (delta : MarketFeatureDelta Number) :
    Int ×ₗ (String ×ₗ (String ×ₗ String)) :=
  toLex (delta.windowStartMs,
    toLex (delta.venue,
      toLex (delta.symbolCanonical, delta.metricName)))

/-- All deltas of a run, by window, venue, symbol and metric. -/
def buildMarketFeatureDeltas
    (inputRange : InputRange)
    (knownAsOfMs : Int)
    (projectionSlices : List (SliceRow Number))
    (projectionDerivativeMetrics :
      List (DerivativeMetricObservation Number)) :
    List (MarketFeatureDelta Number) :=
  sortBy deltaKey
    (spotFeatureDeltas sha256Hex l1RunId inputRange knownAsOfMs
        projectionSlices ++
      buildDerivativeFeatureDeltas sha256Hex l1RunId inputRange
        projectionDerivativeMetrics)

end Deltas

end MarketIngest.Normalize
