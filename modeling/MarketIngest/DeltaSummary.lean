import MarketIngest.FeatureDeltas
import Mathlib.Order.Bounds.Basic

namespace MarketIngest.Normalize

/-!
# Summary of feature deltas

The summary has one row for each symbol of a market at a venue, and in it the
newest delta of every metric.  The window and the time of a row are taken over
its deltas, starting from values that stand for no delta at all.
-/

section Grouping

variable {Number : Type}

/-- What a row of the summary is about. -/
abbrev DeltaSummaryKey := String ×ₗ (String ×ₗ (String ×ₗ String))

/-- The row of a delta. -/
def deltaSummaryKey (delta : MarketFeatureDelta Number) : DeltaSummaryKey :=
  toLex (delta.venue,
    toLex (delta.symbolNative,
      toLex (delta.symbolCanonical, delta.marketType)))

/-- The candidate has a later window or was known later. -/
def isNewerDelta (candidate existing : MarketFeatureDelta Number) : Bool :=
  ((compare candidate.windowEndMs existing.windowEndMs).then
    ((compare candidate.windowStartMs existing.windowStartMs).then
      (compare candidate.knownAsOfMs existing.knownAsOfMs))) = .gt

/-- The newest deltas of a row by metric. -/
abbrev LatestMetrics (Number : Type) :=
  OrderedMap String (MarketFeatureDelta Number)

/-- Keep the delta unless there is one of its metric that is as new. -/
def keepIfNewer
    (metrics : LatestMetrics Number)
    (delta : MarketFeatureDelta Number) : LatestMetrics Number :=
  match metrics.get? delta.metricName with
  | some existing =>
      if !isNewerDelta delta existing then metrics
      else metrics.insert delta.metricName delta
  | none => metrics.insert delta.metricName delta

/-- The newest delta of every metric, by row. -/
def latestMetricsBySummaryKey
    (deltas : List (MarketFeatureDelta Number)) :
    OrderedMap DeltaSummaryKey (LatestMetrics Number) :=
  deltas.foldl
    (fun grouped delta =>
      grouped.upsert (deltaSummaryKey delta)
        (fun known => keepIfNewer (known.getD .empty) delta))
    .empty

end Grouping

/-- One metric of a row. -/
structure MarketFeatureDeltaSummaryMetric (Number : Type) where
  metricName : String
  valueNow : Number
  value15mAgo : Option Number
  value1hAgo : Option Number
  changePct15m : Option Number
  changePct1h : Option Number
  priceChangeSameWindow : Option Number
  volumeChangeSameWindow : Option Number
  oiPriceDivergence : Option Number
  windowStartMs : Int
  windowEndMs : Int
  qualityStatus : String

/-- One row of the summary. -/
structure MarketFeatureDeltaSummaryRow (Number : Type) where
  venue : String
  symbolNative : String
  symbolCanonical : String
  marketType : String
  windowStartMs : Int
  windowEndMs : Int
  knownAsOfMs : Int
  qualityStatus : String
  missingReasons : List String
  metrics : List (MarketFeatureDeltaSummaryMetric Number)

/-- What is collected over the deltas of a row. -/
structure MarketFeatureDeltaSummaryAccumulator where
  inputRange : InputRange
  fallbackKnownAsOfMs : Int
  windowStartMs : Int
  windowEndMs : Int
  rowKnownAsOfMs : Int
  missingReasons : OrderedMap String Unit
  hasComplete : Bool
  hasPartial : Bool

namespace MarketFeatureDeltaSummaryAccumulator

variable {Number : Type}

/-- Before the first delta. -/
def new
    (inputRange : InputRange)
    (fallbackKnownAsOfMs : Int) : MarketFeatureDeltaSummaryAccumulator where
  inputRange := inputRange
  fallbackKnownAsOfMs := fallbackKnownAsOfMs
  windowStartMs := i64Max
  windowEndMs := i64Min
  rowKnownAsOfMs := i64Min
  missingReasons := .empty
  hasComplete := false
  hasPartial := false

/-- Collect a delta. -/
def observe
    (accumulator : MarketFeatureDeltaSummaryAccumulator)
    (delta : MarketFeatureDelta Number) :
    MarketFeatureDeltaSummaryAccumulator :=
  { accumulator with
    windowStartMs := min accumulator.windowStartMs delta.windowStartMs
    windowEndMs := max accumulator.windowEndMs delta.windowEndMs
    rowKnownAsOfMs := max accumulator.rowKnownAsOfMs delta.knownAsOfMs
    missingReasons :=
      delta.missingReasons.foldl
        (fun reasons reason => reasons.insert reason ())
        accumulator.missingReasons
    hasComplete :=
      accumulator.hasComplete || delta.qualityStatus = "complete"
    hasPartial := accumulator.hasPartial || delta.qualityStatus = "partial" }

/-- The start of the windows, or that of the range if there are none. -/
def summaryWindowStartMs
    (accumulator : MarketFeatureDeltaSummaryAccumulator) : Int :=
  if accumulator.windowStartMs = i64Max then
    accumulator.inputRange.startMs
  else
    accumulator.windowStartMs

/-- The end of the windows, or that of the range if there are none. -/
def summaryWindowEndMs
    (accumulator : MarketFeatureDeltaSummaryAccumulator) : Int :=
  if accumulator.windowEndMs = i64Min then
    accumulator.inputRange.endMs
  else
    accumulator.windowEndMs

/-- The time at which all was known, or that of the run if nothing was. -/
def summaryKnownAsOfMs
    (accumulator : MarketFeatureDeltaSummaryAccumulator) : Int :=
  if accumulator.rowKnownAsOfMs = i64Min then
    accumulator.fallbackKnownAsOfMs
  else
    accumulator.rowKnownAsOfMs

/-- The best status of the deltas. -/
def qualityStatus
    (accumulator : MarketFeatureDeltaSummaryAccumulator) : String :=
  if accumulator.hasComplete then "complete"
  else if accumulator.hasPartial then "partial"
  else "insufficient"

/-- The row of what was collected. -/
def intoRow
    (accumulator : MarketFeatureDeltaSummaryAccumulator)
    (key : DeltaSummaryKey)
    (metrics : List (MarketFeatureDeltaSummaryMetric Number)) :
    MarketFeatureDeltaSummaryRow Number where
  venue := (ofLex key).1
  symbolNative := (ofLex (ofLex key).2).1
  symbolCanonical := (ofLex (ofLex (ofLex key).2).2).1
  marketType := (ofLex (ofLex (ofLex key).2).2).2
  windowStartMs := accumulator.summaryWindowStartMs
  windowEndMs := accumulator.summaryWindowEndMs
  knownAsOfMs := accumulator.summaryKnownAsOfMs
  qualityStatus := accumulator.qualityStatus
  missingReasons := accumulator.missingReasons.keys
  metrics := metrics

end MarketFeatureDeltaSummaryAccumulator

/-- The summary of the deltas of a run. -/
structure MarketFeatureDeltaSummary (Number : Type) where
  schemaVersion : String
  featureDeltaSummaryId : String
  l1RunId : String
  detailFeatureDeltaKey : String
  windowStartMs : Int
  windowEndMs : Int
  knownAsOfMs : Int
  detailRecordCount : Nat
  summaryRowCount : Nat
  rows : List (MarketFeatureDeltaSummaryRow Number)

/-- The schema of a summary. -/
def marketFeatureDeltaSummarySchemaVersion : String :=
  "market_feature_delta_summary_v1"

section Summary

variable {Number : Type}

/-- The metric that a delta becomes. -/
def summaryMetric
    (delta : MarketFeatureDelta Number) :
    MarketFeatureDeltaSummaryMetric Number where
  metricName := delta.metricName
  valueNow := delta.valueNow
  value15mAgo := delta.value15mAgo
  value1hAgo := delta.value1hAgo
  changePct15m := delta.changePct15m
  changePct1h := delta.changePct1h
  priceChangeSameWindow := delta.priceChangeSameWindow
  volumeChangeSameWindow := delta.volumeChangeSameWindow
  oiPriceDivergence := delta.oiPriceDivergence
  windowStartMs := delta.windowStartMs
  windowEndMs := delta.windowEndMs
  qualityStatus := delta.qualityStatus

/-- The row of a group of newest deltas. -/
def summaryRow
    (inputRange : InputRange)
    (knownAsOfMs : Int)
    (key : DeltaSummaryKey)
    (metrics : LatestMetrics Number) : MarketFeatureDeltaSummaryRow Number :=
  (metrics.values.foldl
      (fun accumulator delta => accumulator.observe delta)
      (MarketFeatureDeltaSummaryAccumulator.new inputRange
        knownAsOfMs)).intoRow
    key (metrics.values.map summaryMetric)

/-- Summarize the deltas of a run. -/
def buildMarketFeatureDeltaSummary
    (sha256Hex : String → String)
    (l1RunId : String)
    (inputRange : InputRange)
    (knownAsOfMs : Int)
    (detailFeatureDeltaKey : String)
    (deltas : List (MarketFeatureDelta Number)) :
    MarketFeatureDeltaSummary Number :=
  let rows :=
    (latestMetricsBySummaryKey deltas).entries.map fun entry =>
      summaryRow inputRange knownAsOfMs entry.1 entry.2
  { schemaVersion := marketFeatureDeltaSummarySchemaVersion
    featureDeltaSummaryId :=
      stableId sha256Hex
        [l1RunId, toString inputRange.startMs, toString inputRange.endMs,
          detailFeatureDeltaKey, marketFeatureDeltaSummarySchemaVersion]
    l1RunId := l1RunId
    detailFeatureDeltaKey := detailFeatureDeltaKey
    windowStartMs := inputRange.startMs
    windowEndMs := inputRange.endMs
    knownAsOfMs := knownAsOfMs
    detailRecordCount := deltas.length
    summaryRowCount := rows.length
    rows := rows }

end Summary

section Newest

variable {Number : Type}

/-- How new a delta is. -/
def deltaTime (delta : MarketFeatureDelta Number) : Int ×ₗ (Int ×ₗ Int) :=
  toLex (delta.windowEndMs, toLex (delta.windowStartMs, delta.knownAsOfMs))

/-- One delta is newer than another if its time is later. -/
theorem isNewerDelta_iff
    {candidate existing : MarketFeatureDelta Number} :
    isNewerDelta candidate existing = true ↔
      deltaTime existing < deltaTime candidate := by
  unfold isNewerDelta deltaTime
  rw [decide_eq_true_eq, Prod.Lex.toLex_lt_toLex, Prod.Lex.toLex_lt_toLex]
  simp only [Ordering.then_eq_gt, compare_gt_iff_gt, compare_eq_iff_eq]
  constructor
  · rintro (later | ⟨same, later | ⟨alsoSame, later⟩⟩)
    · exact .inl later
    · exact .inr ⟨same.symm, .inl later⟩
    · exact .inr ⟨same.symm, .inr ⟨alsoSame.symm, later⟩⟩
  · rintro (later | ⟨same, later | ⟨alsoSame, later⟩⟩)
    · exact .inl later
    · exact .inr ⟨same.symm, .inl later⟩
    · exact .inr ⟨same.symm, .inr ⟨alsoSame.symm, later⟩⟩

/-- What is kept of a metric after one more delta. -/
theorem get?_keepIfNewer
    (metrics : LatestMetrics Number)
    (delta : MarketFeatureDelta Number)
    (name : String) :
    (keepIfNewer metrics delta).get? name =
      if name = delta.metricName then
        some (earlierMax deltaTime (metrics.get? name) delta)
      else
        metrics.get? name := by
  unfold keepIfNewer
  by_cases own : name = delta.metricName
  · subst own
    rw [if_pos rfl]
    cases known : metrics.get? delta.metricName with
    | none =>
        exact OrderedMap.get?_insert_same _ _ _
    | some existing =>
        simp only [Bool.not_eq_true', earlierMax]
        by_cases newer : deltaTime existing < deltaTime delta
        · rw [if_neg (by simp [isNewerDelta_iff.mpr newer]), if_pos newer]
          exact OrderedMap.get?_insert_same _ _ _
        · rw [if_pos (by simpa using mt isNewerDelta_iff.mp newer),
            if_neg newer]
          exact known
  · rw [if_neg own]
    cases metrics.get? delta.metricName with
    | none =>
        exact OrderedMap.get?_insert_other _ own _
    | some existing =>
        simp only
        split_ifs
        · rfl
        · exact OrderedMap.get?_insert_other _ own _

/-- What is kept of a metric is its first newest delta. -/
theorem get?_foldl_keepIfNewer
    (deltas : List (MarketFeatureDelta Number))
    (name : String) :
    (deltas.foldl keepIfNewer .empty).get? name =
      firstMaxByKey deltaTime
        (deltas.filter fun delta => delta.metricName = name) := by
  induction deltas using List.reverseRecOn with
  | nil =>
      rfl
  | append_singleton deltas delta inductionHypothesis =>
      rw [List.foldl_append, List.foldl_cons, List.foldl_nil,
        get?_keepIfNewer, inductionHypothesis, List.filter_append]
      by_cases own : name = delta.metricName
      · rw [if_pos own, List.filter_cons_of_pos (by simpa using own.symm),
          List.filter_nil, firstMaxByKey_concat]
      · rw [if_neg own,
          List.filter_cons_of_neg (by simpa using Ne.symm own),
          List.filter_nil, List.append_nil]

/-- The deltas of a row. -/
def deltasOf
    (deltas : List (MarketFeatureDelta Number))
    (key : DeltaSummaryKey) : List (MarketFeatureDelta Number) :=
  deltas.filter fun delta => deltaSummaryKey delta = key

/-- Updates from nothing give something after the first. -/
private theorem foldl_some_getD
    {Item Value : Type}
    (step : Value → Item → Value)
    (start : Value)
    (items : List Item) :
    items.foldl (fun known item => some (step (known.getD start) item)) none =
      if items.isEmpty then none else some (items.foldl step start) := by
  induction items using List.reverseRecOn with
  | nil =>
      rfl
  | append_singleton items item inductionHypothesis =>
      rw [List.foldl_append, inductionHypothesis]
      cases items with
      | nil => rfl
      | cons head rest => simp

/-- The group of a row. -/
theorem get?_latestMetricsBySummaryKey
    (deltas : List (MarketFeatureDelta Number))
    (key : DeltaSummaryKey) :
    (latestMetricsBySummaryKey deltas).get? key =
      if (deltasOf deltas key).isEmpty then none
      else some ((deltasOf deltas key).foldl keepIfNewer .empty) := by
  rw [latestMetricsBySummaryKey,
    OrderedMap.get?_foldl_upsert
      (fun delta known => keepIfNewer (known.getD .empty) delta),
    OrderedMap.get?_empty]
  exact foldl_some_getD keepIfNewer .empty (deltasOf deltas key)

end Newest

section Collected

variable {Number : Type}

/-- Inserted texts are keys. -/
private theorem mem_keys_foldl_insert
    (reasons : List String)
    (known : OrderedMap String Unit)
    (wanted : String) :
    wanted ∈
        (reasons.foldl (fun set reason => set.insert reason ()) known).keys ↔
      wanted ∈ known.keys ∨ wanted ∈ reasons := by
  induction reasons generalizing known with
  | nil =>
      simp
  | cons reason rest inductionHypothesis =>
      rw [List.foldl_cons, inductionHypothesis, List.mem_cons, ← or_assoc]
      refine or_congr_left ?_
      rw [OrderedMap.mem_keys_iff, OrderedMap.mem_keys_iff]
      by_cases own : wanted = reason
      · simp [own]
      · simp [OrderedMap.get?_insert, own]

/-- What was collected is about the deltas that were seen. -/
structure CollectedOf
    (inputRange : InputRange)
    (knownAsOfMs : Int)
    (chosen : List (MarketFeatureDelta Number))
    (accumulator : MarketFeatureDeltaSummaryAccumulator) : Prop where
  inputRange : accumulator.inputRange = inputRange
  fallback : accumulator.fallbackKnownAsOfMs = knownAsOfMs
  startLe : ∀ delta ∈ chosen, accumulator.windowStartMs ≤ delta.windowStartMs
  startFrom :
    accumulator.windowStartMs = i64Max ∨
      ∃ delta ∈ chosen, delta.windowStartMs = accumulator.windowStartMs
  endGe : ∀ delta ∈ chosen, delta.windowEndMs ≤ accumulator.windowEndMs
  endFrom :
    accumulator.windowEndMs = i64Min ∨
      ∃ delta ∈ chosen, delta.windowEndMs = accumulator.windowEndMs
  knownGe : ∀ delta ∈ chosen, delta.knownAsOfMs ≤ accumulator.rowKnownAsOfMs
  knownFrom :
    accumulator.rowKnownAsOfMs = i64Min ∨
      ∃ delta ∈ chosen, delta.knownAsOfMs = accumulator.rowKnownAsOfMs
  reasons :
    ∀ reason,
      reason ∈ accumulator.missingReasons.keys ↔
        ∃ delta ∈ chosen, reason ∈ delta.missingReasons

/-- One more delta is collected. -/
theorem CollectedOf.observe
    {inputRange : InputRange}
    {knownAsOfMs : Int}
    {chosen : List (MarketFeatureDelta Number)}
    {accumulator : MarketFeatureDeltaSummaryAccumulator}
    (collected : CollectedOf inputRange knownAsOfMs chosen accumulator)
    (delta : MarketFeatureDelta Number) :
    CollectedOf inputRange knownAsOfMs (chosen ++ [delta])
      (accumulator.observe delta) where
  inputRange := collected.inputRange
  fallback := collected.fallback
  startLe := by
    intro other member
    rcases List.mem_append.mp member with earlier | newest
    · exact (min_le_left _ _).trans (collected.startLe other earlier)
    · rw [List.mem_singleton.mp newest]
      exact min_le_right _ _
  startFrom := by
    rcases min_choice accumulator.windowStartMs delta.windowStartMs with
        before | own
    · refine collected.startFrom.imp before.trans ?_
      rintro ⟨other, member, same⟩
      exact ⟨other, List.mem_append_left _ member, same.trans before.symm⟩
    · exact .inr ⟨delta, by simp, own.symm⟩
  endGe := by
    intro other member
    rcases List.mem_append.mp member with earlier | newest
    · exact (collected.endGe other earlier).trans (le_max_left _ _)
    · rw [List.mem_singleton.mp newest]
      exact le_max_right _ _
  endFrom := by
    rcases max_choice accumulator.windowEndMs delta.windowEndMs with
        before | own
    · refine collected.endFrom.imp before.trans ?_
      rintro ⟨other, member, same⟩
      exact ⟨other, List.mem_append_left _ member, same.trans before.symm⟩
    · exact .inr ⟨delta, by simp, own.symm⟩
  knownGe := by
    intro other member
    rcases List.mem_append.mp member with earlier | newest
    · exact (collected.knownGe other earlier).trans (le_max_left _ _)
    · rw [List.mem_singleton.mp newest]
      exact le_max_right _ _
  knownFrom := by
    rcases max_choice accumulator.rowKnownAsOfMs delta.knownAsOfMs with
        before | own
    · refine collected.knownFrom.imp before.trans ?_
      rintro ⟨other, member, same⟩
      exact ⟨other, List.mem_append_left _ member, same.trans before.symm⟩
    · exact .inr ⟨delta, by simp, own.symm⟩
  reasons := by
    intro reason
    refine (mem_keys_foldl_insert _ _ _).trans ?_
    rw [collected.reasons]
    simp only [List.mem_append, List.mem_singleton, or_and_right, exists_or,
      exists_eq_left]

/-- The deltas of a row are collected. -/
theorem collectedOf_foldl
    (inputRange : InputRange)
    (knownAsOfMs : Int)
    (chosen : List (MarketFeatureDelta Number)) :
    CollectedOf inputRange knownAsOfMs chosen
      (chosen.foldl
        (fun accumulator delta => accumulator.observe delta)
        (MarketFeatureDeltaSummaryAccumulator.new inputRange
          knownAsOfMs)) := by
  induction chosen using List.reverseRecOn with
  | nil =>
      exact
        { inputRange := rfl
          fallback := rfl
          startLe := by simp
          startFrom := .inl rfl
          endGe := by simp
          endFrom := .inl rfl
          knownGe := by simp
          knownFrom := .inl rfl
          reasons := by
            simp [MarketFeatureDeltaSummaryAccumulator.new,
              OrderedMap.keys] }
  | append_singleton chosen delta inductionHypothesis =>
      rw [List.foldl_append]
      exact inductionHypothesis.observe delta

/-- The times of a delta are representable. -/
structure RepresentableDelta (delta : MarketFeatureDelta Number) : Prop where
  windowStart : delta.windowStartMs ≤ i64Max
  windowEnd : i64Min ≤ delta.windowEndMs
  knownAsOf : i64Min ≤ delta.knownAsOfMs

/-- The collected times are the earliest start, the latest end and the latest
time of the deltas. -/
theorem CollectedOf.times
    {inputRange : InputRange}
    {knownAsOfMs : Int}
    {chosen : List (MarketFeatureDelta Number)}
    {accumulator : MarketFeatureDeltaSummaryAccumulator}
    (collected : CollectedOf inputRange knownAsOfMs chosen accumulator)
    (nonempty : chosen ≠ [])
    (representable : ∀ delta ∈ chosen, RepresentableDelta delta) :
    IsLeast {time | ∃ delta ∈ chosen, delta.windowStartMs = time}
        accumulator.windowStartMs ∧
      IsGreatest {time | ∃ delta ∈ chosen, delta.windowEndMs = time}
        accumulator.windowEndMs ∧
      IsGreatest {time | ∃ delta ∈ chosen, delta.knownAsOfMs = time}
        accumulator.rowKnownAsOfMs := by
  obtain ⟨some', isSome⟩ := List.exists_mem_of_ne_nil chosen nonempty
  have bounds := representable some' isSome
  refine ⟨⟨?_, ?_⟩, ⟨?_, ?_⟩, ⟨?_, ?_⟩⟩
  · rcases collected.startFrom with sentinel | own
    · refine ⟨some', isSome, le_antisymm ?_ (collected.startLe _ isSome)⟩
      rw [sentinel]
      exact bounds.windowStart
    · exact own
  · rintro time ⟨delta, member, rfl⟩
    exact collected.startLe delta member
  · rcases collected.endFrom with sentinel | own
    · refine ⟨some', isSome, le_antisymm (collected.endGe _ isSome) ?_⟩
      rw [sentinel]
      exact bounds.windowEnd
    · exact own
  · rintro time ⟨delta, member, rfl⟩
    exact collected.endGe delta member
  · rcases collected.knownFrom with sentinel | own
    · refine ⟨some', isSome, le_antisymm (collected.knownGe _ isSome) ?_⟩
      rw [sentinel]
      exact bounds.knownAsOf
    · exact own
  · rintro time ⟨delta, member, rfl⟩
    exact collected.knownGe delta member

end Collected

section Rows

variable {Number : Type}

/-- What a row is about. -/
def MarketFeatureDeltaSummaryRow.key
    (row : MarketFeatureDeltaSummaryRow Number) : DeltaSummaryKey :=
  toLex (row.venue,
    toLex (row.symbolNative, toLex (row.symbolCanonical, row.marketType)))

/-- No two deltas of one metric of a row are as new as each other. -/
def NoTies (deltas : List (MarketFeatureDelta Number)) : Prop :=
  deltas.Pairwise fun one other =>
    deltaSummaryKey one = deltaSummaryKey other →
    one.metricName = other.metricName →
    deltaTime one ≠ deltaTime other

/-- The row shows the newest delta of each of its metrics. -/
structure RowOfNewest
    (deltas chosen : List (MarketFeatureDelta Number))
    (row : MarketFeatureDeltaSummaryRow Number) : Prop where
  names :
    (chosen.map fun delta => delta.metricName).Pairwise fun first second =>
      first < second
  complete :
    ∀ name,
      name ∈ chosen.map (fun delta => delta.metricName) ↔
        ∃ delta ∈ deltas,
          deltaSummaryKey delta = row.key ∧ delta.metricName = name
  newest :
    ∀ delta ∈ chosen,
      IsLatest deltaTime
        ((deltasOf deltas row.key).filter fun other =>
          other.metricName = delta.metricName)
        delta
  metrics : row.metrics = chosen.map summaryMetric
  reasonsAscending :
    row.missingReasons.Pairwise fun first second => first < second
  reasons :
    ∀ reason,
      reason ∈ row.missingReasons ↔
        ∃ delta ∈ chosen, reason ∈ delta.missingReasons

/-- The times of the row are those of its deltas. -/
structure HullTimes
    (chosen : List (MarketFeatureDelta Number))
    (windowStartMs windowEndMs knownAsOfMs : Int) : Prop where
  windowStart :
    IsLeast {time | ∃ delta ∈ chosen, delta.windowStartMs = time}
      windowStartMs
  windowEnd :
    IsGreatest {time | ∃ delta ∈ chosen, delta.windowEndMs = time}
      windowEndMs
  knownAsOf :
    IsGreatest {time | ∃ delta ∈ chosen, delta.knownAsOfMs = time}
      knownAsOfMs

/-- The times of the row are those of its deltas, except that the last and the
first representable time give way to the times of the run. -/
def FallbackTimes
    (inputRange : InputRange)
    (knownAsOfMs : Int)
    (chosen : List (MarketFeatureDelta Number))
    (row : MarketFeatureDeltaSummaryRow Number) : Prop :=
  ∃ windowStart windowEnd knownAsOf,
    HullTimes chosen windowStart windowEnd knownAsOf ∧
      row.windowStartMs =
        (if windowStart = i64Max then inputRange.startMs else windowStart) ∧
      row.windowEndMs =
        (if windowEnd = i64Min then inputRange.endMs else windowEnd) ∧
      row.knownAsOfMs =
        (if knownAsOf = i64Min then knownAsOfMs else knownAsOf)

/-- The times of different deltas of a metric of a row differ. -/
theorem NoTies.nodup
    {deltas : List (MarketFeatureDelta Number)}
    (noTies : NoTies deltas)
    (key : DeltaSummaryKey)
    (name : String) :
    (((deltasOf deltas key).filter fun delta =>
        delta.metricName = name).map deltaTime).Nodup := by
  rw [List.Nodup, List.pairwise_map]
  refine ((noTies.filter _).filter _).imp_of_mem ?_
  intro one other isOne isOther apart
  simp only [List.mem_filter, decide_eq_true_eq] at isOne isOther
  exact apart (isOne.1.2.trans isOther.1.2.symm)
    (isOne.2.trans isOther.2.symm)

/-- A delta that is kept is the newest of its metric. -/
theorem NoTies.newest
    {deltas : List (MarketFeatureDelta Number)}
    (noTies : NoTies deltas)
    {key : DeltaSummaryKey}
    {name : String}
    {delta : MarketFeatureDelta Number}
    (kept :
      ((deltasOf deltas key).foldl keepIfNewer .empty).get? name =
        some delta) :
    IsLatest deltaTime
        ((deltasOf deltas key).filter fun other => other.metricName = name)
        delta ∧
      delta.metricName = name := by
  rw [get?_foldl_keepIfNewer] at kept
  have newest := isLatest_of_firstMaxByKey (noTies.nodup key name) kept
  refine ⟨newest, ?_⟩
  simpa using (List.mem_filter.mp newest.member).2

/-- The group of a row is made of its deltas. -/
theorem group_of_mem_entries
    {deltas : List (MarketFeatureDelta Number)}
    {key : DeltaSummaryKey}
    {metrics : LatestMetrics Number}
    (entry : (key, metrics) ∈ (latestMetricsBySummaryKey deltas).entries) :
    deltasOf deltas key ≠ [] ∧
      metrics = (deltasOf deltas key).foldl keepIfNewer .empty := by
  have found := OrderedMap.get?_eq_some_iff.mpr entry
  rw [get?_latestMetricsBySummaryKey] at found
  split_ifs at found with nothing
  exact ⟨by simpa using nothing, (Option.some.inj found).symm⟩

/-- A row is about the key of its group. -/
theorem summaryRow_key
    (inputRange : InputRange)
    (knownAsOfMs : Int)
    (key : DeltaSummaryKey)
    (metrics : LatestMetrics Number) :
    (summaryRow inputRange knownAsOfMs key metrics).key = key :=
  rfl

/-- The row of a group shows the newest deltas. -/
theorem rowOfNewest_summaryRow
    {deltas : List (MarketFeatureDelta Number)}
    (noTies : NoTies deltas)
    (inputRange : InputRange)
    (knownAsOfMs : Int)
    (key : DeltaSummaryKey) :
    RowOfNewest deltas
      ((deltasOf deltas key).foldl keepIfNewer .empty).values
      (summaryRow inputRange knownAsOfMs key
        ((deltasOf deltas key).foldl keepIfNewer .empty)) := by
  have names :
      ((deltasOf deltas key).foldl keepIfNewer .empty).values.map
          (fun delta => delta.metricName) =
        ((deltasOf deltas key).foldl keepIfNewer .empty).keys :=
    OrderedMap.values_map_eq_keys fun name delta kept =>
      (noTies.newest kept).2
  have collected :=
    collectedOf_foldl inputRange knownAsOfMs
      ((deltasOf deltas key).foldl keepIfNewer .empty).values
  refine
    { names := ?_
      complete := ?_
      newest := ?_
      metrics := rfl
      reasonsAscending := OrderedMap.keys_ascending _
      reasons := collected.reasons }
  · rw [names]
    exact OrderedMap.keys_ascending _
  · intro name
    rw [names, summaryRow_key, OrderedMap.mem_keys_iff]
    simp only [get?_foldl_keepIfNewer]
    constructor
    · rintro ⟨delta, kept⟩
      have member :=
        (isLatest_of_firstMaxByKey (noTies.nodup key name) kept).member
      simp only [deltasOf, List.mem_filter, decide_eq_true_eq] at member
      exact ⟨delta, member.1.1, member.1.2, member.2⟩
    · rintro ⟨delta, member, own, named⟩
      cases kept : firstMaxByKey deltaTime
          ((deltasOf deltas key).filter fun other =>
            other.metricName = name) with
      | some largest =>
          exact ⟨largest, rfl⟩
      | none =>
          rw [firstMaxByKey_eq_none_iff, List.filter_eq_nil_iff] at kept
          have among : delta ∈ deltasOf deltas key :=
            List.mem_filter.mpr ⟨member, decide_eq_true own⟩
          exact absurd (decide_eq_true named) (kept delta among)
  · intro delta member
    obtain ⟨name, kept⟩ := OrderedMap.mem_values_iff.mp member
    obtain ⟨newest, named⟩ := noTies.newest kept
    rw [named]
    exact newest

/-- The row of a group has the times of its deltas or of the run. -/
theorem fallbackTimes_summaryRow
    {deltas : List (MarketFeatureDelta Number)}
    (noTies : NoTies deltas)
    (representable : ∀ delta ∈ deltas, RepresentableDelta delta)
    (inputRange : InputRange)
    (knownAsOfMs : Int)
    {key : DeltaSummaryKey}
    (nonempty : deltasOf deltas key ≠ []) :
    FallbackTimes inputRange knownAsOfMs
      ((deltasOf deltas key).foldl keepIfNewer .empty).values
      (summaryRow inputRange knownAsOfMs key
        ((deltasOf deltas key).foldl keepIfNewer .empty)) := by
  have newest := rowOfNewest_summaryRow noTies inputRange knownAsOfMs key
  have chosen :
      ((deltasOf deltas key).foldl keepIfNewer .empty).values ≠ [] := by
    obtain ⟨delta, member⟩ := List.exists_mem_of_ne_nil _ nonempty
    obtain ⟨isDelta, own⟩ := List.mem_filter.mp member
    have named :=
      (newest.complete delta.metricName).mpr
        ⟨delta, isDelta, of_decide_eq_true own, rfl⟩
    obtain ⟨kept, isKept, _⟩ := List.mem_map.mp named
    exact List.ne_nil_of_mem isKept
  have bounds :
      ∀ delta ∈ ((deltasOf deltas key).foldl keepIfNewer .empty).values,
        RepresentableDelta delta := by
    intro delta member
    have among := (newest.newest delta member).member
    exact representable delta
      (List.mem_of_mem_filter (List.mem_of_mem_filter among))
  have collected :=
    collectedOf_foldl inputRange knownAsOfMs
      ((deltasOf deltas key).foldl keepIfNewer .empty).values
  obtain ⟨starts, ends, known⟩ := collected.times chosen bounds
  refine ⟨_, _, _, ⟨starts, ends, known⟩, ?_, ?_, ?_⟩
  · simp only [summaryRow, MarketFeatureDeltaSummaryAccumulator.intoRow,
      MarketFeatureDeltaSummaryAccumulator.summaryWindowStartMs,
      collected.inputRange]
  · simp only [summaryRow, MarketFeatureDeltaSummaryAccumulator.intoRow,
      MarketFeatureDeltaSummaryAccumulator.summaryWindowEndMs,
      collected.inputRange]
  · simp only [summaryRow, MarketFeatureDeltaSummaryAccumulator.intoRow,
      MarketFeatureDeltaSummaryAccumulator.summaryKnownAsOfMs,
      collected.fallback]

/-- The newest deltas do not depend on the order. -/
theorem latestMetricsBySummaryKey_eq_of_perm
    {first second : List (MarketFeatureDelta Number)}
    (noTies : NoTies first)
    (permuted : first.Perm second) :
    latestMetricsBySummaryKey first = latestMetricsBySummaryKey second := by
  apply OrderedMap.ext_get?
  intro key
  have ofKey : (deltasOf first key).Perm (deltasOf second key) :=
    permuted.filter _
  have sameGroup :
      (deltasOf first key).foldl keepIfNewer .empty =
        (deltasOf second key).foldl keepIfNewer .empty := by
    apply OrderedMap.ext_get?
    intro name
    rw [get?_foldl_keepIfNewer, get?_foldl_keepIfNewer]
    have named := ofKey.filter fun delta => decide (delta.metricName = name)
    have firstDistinct := noTies.nodup key name
    have secondDistinct := (named.map deltaTime).nodup_iff.mp firstDistinct
    cases firstKept : firstMaxByKey deltaTime
        ((deltasOf first key).filter fun delta => delta.metricName = name) with
    | none =>
        rw [firstMaxByKey_eq_none_iff.mp firstKept] at named
        rw [named.nil_eq.symm]
        rfl
    | some one =>
        cases secondKept : firstMaxByKey deltaTime
            ((deltasOf second key).filter fun delta =>
              delta.metricName = name) with
        | none =>
            rw [firstMaxByKey_eq_none_iff.mp secondKept] at named
            rw [named.eq_nil] at firstKept
            cases firstKept
        | some other =>
            have oneLatest :=
              (isLatest_of_firstMaxByKey firstDistinct firstKept).of_perm
                named
            have otherLatest :=
              isLatest_of_firstMaxByKey secondDistinct secondKept
            rw [oneLatest.unique otherLatest]
  rw [get?_latestMetricsBySummaryKey, get?_latestMetricsBySummaryKey,
    sameGroup]
  have sameEmpty :
      (deltasOf first key).isEmpty = (deltasOf second key).isEmpty := by
    rw [Bool.eq_iff_iff, List.isEmpty_iff_length_eq_zero,
      List.isEmpty_iff_length_eq_zero, ofKey.length_eq]
  rw [sameEmpty]

/-- The summary has a row for every key of its deltas, shows their newest deltas
and does not depend on their order. -/
structure SummaryOfNewest
    (deltas : List (MarketFeatureDelta Number))
    (summarize :
      List (MarketFeatureDelta Number) → MarketFeatureDeltaSummary Number)
    (timesOf :
      List (MarketFeatureDelta Number) →
      MarketFeatureDeltaSummaryRow Number → Prop) : Prop where
  rowKeys :
    ((summarize deltas).rows.map MarketFeatureDeltaSummaryRow.key).Pairwise
      fun first second => first < second
  complete :
    ∀ key,
      key ∈ (summarize deltas).rows.map MarketFeatureDeltaSummaryRow.key ↔
        key ∈ deltas.map deltaSummaryKey
  rows :
    ∀ row ∈ (summarize deltas).rows,
      ∃ chosen, RowOfNewest deltas chosen row ∧ timesOf chosen row
  reordered :
    ∀ other, deltas.Perm other → summarize other = summarize deltas

/-- Without ties the summary keeps the newest delta of every metric, in every
order of the deltas. -/
theorem deltaSummary_keepsNewest
    (sha256Hex : String → String)
    (l1RunId : String)
    (inputRange : InputRange)
    (knownAsOfMs : Int)
    (detailFeatureDeltaKey : String)
    {deltas : List (MarketFeatureDelta Number)}
    (noTies : NoTies deltas)
    (representable : ∀ delta ∈ deltas, RepresentableDelta delta) :
    SummaryOfNewest deltas
      (buildMarketFeatureDeltaSummary sha256Hex l1RunId inputRange
        knownAsOfMs detailFeatureDeltaKey)
      (FallbackTimes inputRange knownAsOfMs) := by
  have rowKeys :
      (buildMarketFeatureDeltaSummary sha256Hex l1RunId inputRange
          knownAsOfMs detailFeatureDeltaKey deltas).rows.map
          MarketFeatureDeltaSummaryRow.key =
        (latestMetricsBySummaryKey deltas).keys := by
    rw [buildMarketFeatureDeltaSummary, List.map_map]
    rfl
  refine
    { rowKeys := ?_
      complete := ?_
      rows := ?_
      reordered := ?_ }
  · rw [rowKeys]
    exact OrderedMap.keys_ascending _
  · intro key
    rw [rowKeys, OrderedMap.mem_keys_iff]
    simp only [get?_latestMetricsBySummaryKey]
    constructor
    · rintro ⟨metrics, found⟩
      split_ifs at found with nothing
      obtain ⟨delta, member⟩ :=
        List.exists_mem_of_ne_nil (deltasOf deltas key)
          (by simpa using nothing)
      obtain ⟨isDelta, own⟩ := List.mem_filter.mp member
      exact List.mem_map.mpr ⟨delta, isDelta, of_decide_eq_true own⟩
    · intro member
      obtain ⟨delta, isDelta, own⟩ := List.mem_map.mp member
      have among : delta ∈ deltasOf deltas key :=
        List.mem_filter.mpr ⟨isDelta, decide_eq_true own⟩
      rw [if_neg (by simpa using List.ne_nil_of_mem among)]
      exact ⟨_, rfl⟩
  · intro row member
    obtain ⟨⟨key, metrics⟩, entry, rfl⟩ := List.mem_map.mp member
    obtain ⟨nonempty, rfl⟩ := group_of_mem_entries entry
    exact ⟨_, rowOfNewest_summaryRow noTies inputRange knownAsOfMs key,
      fallbackTimes_summaryRow noTies representable inputRange knownAsOfMs
        nonempty⟩
  · intro other permuted
    rw [buildMarketFeatureDeltaSummary, buildMarketFeatureDeltaSummary,
      ← latestMetricsBySummaryKey_eq_of_perm noTies permuted,
      permuted.length_eq]

end Rows

section Sample

/-- A delta of an open interest that became known at a time. -/
def interestDelta (knownAsOfMs : Int) : MarketFeatureDelta Unit where
  schemaVersion := marketFeatureDeltaSchemaVersion
  featureDeltaId := "delta-1"
  l1RunId := "run-1"
  metricName := "open_interest"
  venue := "binance"
  symbolNative := "BTCUSDT"
  symbolCanonical := "BTC"
  marketType := "usdm_perpetual"
  valueNow := ()
  value15mAgo := none
  value1hAgo := none
  changePct15m := none
  changePct1h := none
  priceChangeSameWindow := none
  volumeChangeSameWindow := none
  oiPriceDivergence := none
  windowStartMs := 500
  windowEndMs := 1500
  knownAsOfMs := knownAsOfMs
  qualityStatus := "insufficient"
  missingReasons := ["value_15m_ago_missing", "value_1h_ago_missing"]

/-- The summary of one run. -/
def sampleSummary
    (deltas : List (MarketFeatureDelta Unit)) :
    MarketFeatureDeltaSummary Unit :=
  buildMarketFeatureDeltaSummary id "run-1" ⟨0, 2000⟩ 2000 "deltas.json"
    deltas

/-- An older delta and its newer one, with the first delta of another symbol
between them. -/
def interestDeltas : List (MarketFeatureDelta Unit) :=
  [interestDelta 1600,
    { interestDelta 1600 with
      featureDeltaId := "delta-2"
      symbolNative := "ETHUSDT"
      symbolCanonical := "ETH" },
    { interestDelta 1900 with
      featureDeltaId := "delta-3"
      value15mAgo := some ()
      windowStartMs := 800
      windowEndMs := 1800
      missingReasons := ["value_1h_ago_missing"] }]

/-- The summary has a row for both symbols, and shows the newer delta. -/
theorem interestDeltas_summarized :
    SummaryOfNewest interestDeltas sampleSummary
        (FallbackTimes ⟨0, 2000⟩ 2000) ∧
      (sampleSummary interestDeltas).rows.map
          (fun row =>
            (row.symbolNative, row.knownAsOfMs, row.missingReasons)) =
        [("BTCUSDT", 1900, ["value_1h_ago_missing"]),
          ("ETHUSDT", 1600,
            ["value_15m_ago_missing", "value_1h_ago_missing"])] := by
  have noTies : NoTies interestDeltas := by
    unfold NoTies interestDeltas
    decide
  have representable :
      ∀ delta ∈ interestDeltas, RepresentableDelta delta := by
    intro delta member
    simp only [interestDeltas, List.mem_cons, List.not_mem_nil,
      or_false] at member
    rcases member with rfl | rfl | rfl <;>
      exact ⟨by decide, by decide, by decide⟩
  exact
    ⟨deltaSummary_keepsNewest id "run-1" ⟨0, 2000⟩ 2000 "deltas.json" noTies
        representable,
      by decide⟩

/-- A delta that became known at the first representable time is shown as known
at the time of the run. -/
theorem firstTime_not_hull :
    ¬ SummaryOfNewest [interestDelta i64Min] sampleSummary
      (fun chosen row =>
        HullTimes chosen row.windowStartMs row.windowEndMs
          row.knownAsOfMs) := by
  intro summary
  obtain ⟨row, rows⟩ :
      ∃ row : MarketFeatureDeltaSummaryRow Unit,
        (sampleSummary [interestDelta i64Min]).rows = [row] ∧
          row.knownAsOfMs = 2000 :=
    ⟨_, rfl, rfl⟩
  obtain ⟨chosen, newest, times⟩ :=
    summary.rows row (by rw [rows.1]; exact List.mem_singleton_self row)
  obtain ⟨delta, member, known⟩ := times.knownAsOf.1
  have among := (newest.newest delta member).member
  have isDelta :=
    List.mem_singleton.mp
      (List.mem_of_mem_filter (List.mem_of_mem_filter among))
  rw [rows.2, isDelta] at known
  exact absurd known (by decide)

end Sample

end MarketIngest.Normalize
