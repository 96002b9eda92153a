import MarketIngest.FeatureDeltas
import MarketIngest.LastValues

namespace MarketIngest.Normalize

/-!
# Identifiers of feature deltas

The identifier of a delta is the hash of its run, metric, venue, native symbol
and time.  Slices are kept apart by the canonical symbol instead of the native
one, and observations by the identifier of their event, so that two deltas can
have one identifier.
-/

section Texts

/-- The text whose hash is the identifier of a delta. -/
def deltaText
    (l1RunId metricName venue symbolNative : String)
    (timestampMs : Int) : String :=
  "|".intercalate
    [l1RunId, metricName, venue, symbolNative, toString timestampMs,
      marketFeatureDeltaSchemaVersion]

/-- The parts of such a text between its separators. -/
theorem deltaText_toList
    (l1RunId metricName venue symbolNative : String)
    (timestampMs : Int) :
    (deltaText l1RunId metricName venue symbolNative timestampMs).toList =
      l1RunId.toList ++ '|' ::
        (metricName.toList ++ '|' ::
          (((venue ++ "|" ++ symbolNative).toList ++ '|' ::
              (toString timestampMs).toList) ++ '|' ::
            marketFeatureDeltaSchemaVersion.toList)) := by
  simp [deltaText, String.intercalate_cons_cons]

/-- Two such texts of one run differ in the metric, in venue and symbol taken
together, or in the time. -/
theorem deltaText_eq_iff
    {l1RunId metricName venue symbolNative : String}
    {timestampMs : Int}
    {otherMetric otherVenue otherSymbol : String}
    {otherTimestampMs : Int}
    (metricFree : '|' ∉ metricName.toList)
    (otherFree : '|' ∉ otherMetric.toList) :
    deltaText l1RunId metricName venue symbolNative timestampMs =
        deltaText l1RunId otherMetric otherVenue otherSymbol
          otherTimestampMs ↔
      metricName = otherMetric ∧
        venue ++ "|" ++ symbolNative = otherVenue ++ "|" ++ otherSymbol ∧
        timestampMs = otherTimestampMs := by
  constructor
  · intro same
    have characters := congrArg String.toList same
    rw [deltaText_toList, deltaText_toList] at characters
    have behindRun :=
      (List.cons.inj (List.append_cancel_left characters)).2
    obtain ⟨sameMetric, behindMetric⟩ :=
      Text.segment_inj metricFree otherFree behindRun
    have schemaFree : '|' ∉ marketFeatureDeltaSchemaVersion.toList := by
      decide
    obtain ⟨beforeSchema, _⟩ :=
      Text.lastSegment_inj schemaFree schemaFree behindMetric
    have numeralFree (number : Int) : '|' ∉ (toString number).toList :=
      Text.not_mem_toString_int (by decide) (by decide) number
    obtain ⟨sameSymbol, sameTime⟩ :=
      Text.lastSegment_inj (numeralFree _) (numeralFree _) beforeSchema
    exact ⟨String.toList_inj.mp sameMetric, String.toList_inj.mp sameSymbol,
      Text.toString_int_injective (String.toList_inj.mp sameTime)⟩
  · rintro ⟨rfl, sameSymbol, rfl⟩
    apply String.toList_inj.mp
    rw [deltaText_toList, deltaText_toList, sameSymbol]

end Texts

section Ids

variable {Number : Type}

/-- The metric is one of those that are observed. -/
def IsDerivativeMetric
    (metric : DerivativeMetricObservation Number) : Prop :=
  metric.metricName = "funding_rate" ∨ metric.metricName = "open_interest"

/-- The observed metrics have no separator. -/
theorem IsDerivativeMetric.not_mem
    {metric : DerivativeMetricObservation Number}
    (isMetric : IsDerivativeMetric metric) :
    '|' ∉ metric.metricName.toList := by
  rcases isMetric with name | name
  · rw [name]
    decide
  · rw [name]
    decide

variable
  [NumberFormat Number]
  (l1RunId : String)

/-- The metrics of the deltas of a slice. -/
def sliceMetrics (row : SliceRow Number) : List String :=
  (if (price row).isSome then ["price"] else []) ++ ["trade_volume"]

/-- The texts of the deltas of a slice. -/
def sliceTexts (row : SliceRow Number) : List String :=
  (sliceMetrics row).map fun metricName =>
    deltaText l1RunId metricName row.venue row.symbolNative row.windowStartMs

/-- The text of the delta of an observation. -/
def observationText (row : DerivativeMetricObservation Number) : String :=
  deltaText l1RunId row.metricName row.venue row.symbolNative
    row.exchangeTimestampMs

/-- The texts of all deltas of a run. -/
def deltaTexts
    (inputRange : InputRange)
    (projectionSlices : List (SliceRow Number))
    (projectionDerivativeMetrics :
      List (DerivativeMetricObservation Number)) : List String :=
  (projectionSlices.filter fun row =>
      decide (inputRange.startMs ≤ row.windowStartMs)).flatMap
    (sliceTexts l1RunId) ++
  (projectionDerivativeMetrics.filter fun row =>
      decide (inputRange.startMs ≤ row.exchangeTimestampMs)).map
    (observationText l1RunId)

/-- The identifiers of the deltas are the hashes of their texts. -/
theorem deltaIds_perm
    (sha256Hex : String → String)
    (inputRange : InputRange)
    (knownAsOfMs : Int)
    (projectionSlices : List (SliceRow Number))
    (projectionDerivativeMetrics :
      List (DerivativeMetricObservation Number)) :
    ((buildMarketFeatureDeltas sha256Hex l1RunId inputRange knownAsOfMs
        projectionSlices projectionDerivativeMetrics).map
      (fun delta => delta.featureDeltaId)).Perm
      ((deltaTexts l1RunId inputRange projectionSlices
        projectionDerivativeMetrics).map sha256Hex) := by
  refine ((sortBy_perm deltaKey _).map _).trans ?_
  rw [List.map_append, deltaTexts, List.map_append]
  refine List.Perm.append ?_ ?_
  · rw [spotFeatureDeltas, List.map_flatMap, List.map_flatMap]
    simp only [List.map_flatMap]
    refine flatMap_groups_perm _ fun group row => ?_
    unfold sliceDeltas sliceTexts sliceMetrics
    cases price row with
    | none => rfl
    | some valueNow => rfl
  · rw [buildDerivativeFeatureDeltas, List.map_flatMap, List.map_map]
    simp only [List.map_map]
    simp only [List.map_eq_flatMap]
    refine flatMap_groups_perm _ fun group row => ?_
    rfl

/-- What tells the deltas of slices apart. -/
def sliceDeltaKey (row : SliceRow Number) : String × Int :=
  (row.venue ++ "|" ++ row.symbolNative, row.windowStartMs)

/-- What tells the deltas of observations apart. -/
def observationDeltaKey
    (row : DerivativeMetricObservation Number) : String × String × Int :=
  (row.metricName, row.venue ++ "|" ++ row.symbolNative,
    row.exchangeTimestampMs)

/-- From the start of the range on no two slices agree in venue and native
symbol and in the window, and no two observations in metric, venue and native
symbol and in the time. -/
structure DeltasToldApart
    (inputRange : InputRange)
    (projectionSlices : List (SliceRow Number))
    (projectionDerivativeMetrics :
      List (DerivativeMetricObservation Number)) : Prop where
  slices :
    ((projectionSlices.filter fun row =>
        decide (inputRange.startMs ≤ row.windowStartMs)).map
      sliceDeltaKey).Nodup
  observations :
    ((projectionDerivativeMetrics.filter fun row =>
        decide (inputRange.startMs ≤ row.exchangeTimestampMs)).map
      observationDeltaKey).Nodup

/-- The metrics of slices are price and volume. -/
theorem name_of_mem_sliceMetrics
    {row : SliceRow Number}
    {metricName : String}
    (member : metricName ∈ sliceMetrics row) :
    metricName = "price" ∨ metricName = "trade_volume" := by
  unfold sliceMetrics at member
  split_ifs at member
  · simpa using member
  · exact .inr (by simpa using member)

/-- The metrics of a slice have no separator. -/
theorem not_mem_of_mem_sliceMetrics
    {row : SliceRow Number}
    {metricName : String}
    (member : metricName ∈ sliceMetrics row) :
    '|' ∉ metricName.toList := by
  rcases name_of_mem_sliceMetrics member with rfl | rfl
  · decide
  · decide

/-- The texts of one slice differ. -/
theorem sliceTexts_nodup (row : SliceRow Number) :
    (sliceTexts l1RunId row).Nodup := by
  have metrics : (sliceMetrics row).Nodup := by
    unfold sliceMetrics
    split_ifs
    · decide
    · decide
  refine metrics.map_on fun one oneMember other otherMember same => ?_
  exact
    ((deltaText_eq_iff (not_mem_of_mem_sliceMetrics oneMember)
      (not_mem_of_mem_sliceMetrics otherMember)).mp same).1

/-- Two slices have no text in common exactly if they are told apart. -/
theorem sliceTexts_disjoint_iff
    {one other : SliceRow Number} :
    (sliceTexts l1RunId one).Disjoint (sliceTexts l1RunId other) ↔
      sliceDeltaKey one ≠ sliceDeltaKey other := by
  constructor
  · intro disjoint same
    obtain ⟨symbol, window⟩ := Prod.mk.inj same
    have own (row : SliceRow Number) :
        "trade_volume" ∈ sliceMetrics row :=
      List.mem_append_right _ (List.mem_singleton_self _)
    refine disjoint (List.mem_map_of_mem (own one)) ?_
    refine List.mem_map.mpr ⟨_, own other, ?_⟩
    exact
      (deltaText_eq_iff (by decide) (by decide)).mpr
        ⟨rfl, symbol.symm, window.symm⟩
  · intro apart text oneText otherText
    obtain ⟨metric, isMetric, rfl⟩ := List.mem_map.mp oneText
    obtain ⟨otherMetric, isOther, same⟩ := List.mem_map.mp otherText
    obtain ⟨_, symbol, window⟩ :=
      (deltaText_eq_iff (not_mem_of_mem_sliceMetrics isOther)
        (not_mem_of_mem_sliceMetrics isMetric)).mp same
    exact apart (Prod.ext symbol.symm window.symm)

/-- The texts differ exactly if slices and observations are told apart. -/
theorem deltaTexts_nodup_iff
    (inputRange : InputRange)
    (projectionSlices : List (SliceRow Number))
    {projectionDerivativeMetrics :
      List (DerivativeMetricObservation Number)}
    (named :
      ∀ metric ∈ projectionDerivativeMetrics, IsDerivativeMetric metric) :
    (deltaTexts l1RunId inputRange projectionSlices
        projectionDerivativeMetrics).Nodup ↔
      DeltasToldApart inputRange projectionSlices
        projectionDerivativeMetrics := by
  have slices (rows : List (SliceRow Number)) :
      (rows.flatMap (sliceTexts l1RunId)).Nodup ↔
        (rows.map sliceDeltaKey).Nodup := by
    have keys :
        (rows.map sliceDeltaKey).Nodup ↔
          rows.Pairwise fun one other =>
            sliceDeltaKey one ≠ sliceDeltaKey other :=
      List.pairwise_map
    rw [List.nodup_flatMap, keys]
    constructor
    · intro both
      exact both.2.imp (sliceTexts_disjoint_iff l1RunId).mp
    · intro apart
      exact ⟨fun row _ => sliceTexts_nodup l1RunId row,
        apart.imp (sliceTexts_disjoint_iff l1RunId).mpr⟩
  have observations :
      ((projectionDerivativeMetrics.filter fun row =>
            decide (inputRange.startMs ≤ row.exchangeTimestampMs)).map
          (observationText l1RunId)).Nodup ↔
        ((projectionDerivativeMetrics.filter fun row =>
            decide (inputRange.startMs ≤ row.exchangeTimestampMs)).map
          observationDeltaKey).Nodup := by
    rw [List.Nodup, List.Nodup, List.pairwise_map, List.pairwise_map]
    have same
        {one other : DerivativeMetricObservation Number}
        (isOne : IsDerivativeMetric one)
        (isOther : IsDerivativeMetric other) :
        observationText l1RunId one = observationText l1RunId other ↔
          observationDeltaKey one = observationDeltaKey other := by
      rw [observationText, observationText,
        deltaText_eq_iff isOne.not_mem isOther.not_mem]
      simp only [observationDeltaKey, Prod.mk.injEq]
    have isMetric
        {metric : DerivativeMetricObservation Number}
        (member :
          metric ∈ projectionDerivativeMetrics.filter fun row =>
            decide (inputRange.startMs ≤ row.exchangeTimestampMs)) :
        IsDerivativeMetric metric :=
      named metric (List.mem_of_mem_filter member)
    constructor
    · intro apart
      exact apart.imp_of_mem fun isOne isOther different =>
        mt (same (isMetric isOne) (isMetric isOther)).mpr different
    · intro apart
      exact apart.imp_of_mem fun isOne isOther different =>
        mt (same (isMetric isOne) (isMetric isOther)).mp different
  rw [deltaTexts, List.nodup_append, slices, observations]
  constructor
  · rintro ⟨slicesApart, observationsApart, _⟩
    exact ⟨slicesApart, observationsApart⟩
  · rintro ⟨slicesApart, observationsApart⟩
    refine ⟨slicesApart, observationsApart, ?_⟩
    intro text isSlice other isObservation same
    obtain ⟨row, _, inRow⟩ := List.mem_flatMap.mp isSlice
    obtain ⟨metricName, member, rfl⟩ := List.mem_map.mp inRow
    obtain ⟨metric, among, rfl⟩ := List.mem_map.mp isObservation
    have isMetric := named metric (List.mem_of_mem_filter among)
    have sameName :=
      ((deltaText_eq_iff (not_mem_of_mem_sliceMetrics member)
        isMetric.not_mem).mp same).1
    rcases name_of_mem_sliceMetrics member with rfl | rfl <;>
      rcases isMetric with name | name <;>
      rw [name] at sameName <;>
      exact absurd sameName (by decide)

end Ids

end MarketIngest.Normalize

namespace MarketIngest.Build

open Normalize

section Runs

variable
  {Number : Type}
  [NumberFormat Number]
  {codec : Codec Number}
  {args : NormalizeArgs}

/-- A parsed metric is one of those that are observed. -/
theorem isDerivativeMetric_of_parsed
    {event : RawInputEvent}
    {metric : DerivativeMetricObservation Number}
    (parsed : parseDerivativeMetric codec event = some metric) :
    IsDerivativeMetric metric := by
  simp only [parseDerivativeMetric, Option.bind_eq_bind,
    Option.bind_eq_some_iff] at parsed
  obtain ⟨value, _, ⟨metricName, metricValue, unit⟩, isMetric, kept⟩ := parsed
  have named :
      metricName = "funding_rate" ∨ metricName = "open_interest" := by
    unfold derivativeMetric at isMetric
    split at isMetric
    · simp only [Option.bind_eq_bind, Option.bind_eq_some_iff] at isMetric
      obtain ⟨_, _, _, _, same⟩ := isMetric
      exact .inl (Prod.mk.inj (Option.some.inj same)).1.symm
    · simp only [Option.bind_eq_bind, Option.bind_eq_some_iff] at isMetric
      obtain ⟨_, _, _, _, same⟩ := isMetric
      exact .inr (Prod.mk.inj (Option.some.inj same)).1.symm
    · cases isMetric
  simp only at kept
  split_ifs at kept
  rw [← Option.some.inj kept]
  exact named

/-- The metrics that a build has read are of those that are observed. -/
def MetricsNamed (accumulator : BuildAccumulator Number) : Prop :=
  ∀ metric ∈ accumulator.projectionDerivativeMetrics,
    IsDerivativeMetric metric

/-- A derivative event adds at most its own metric. -/
theorem MetricsNamed.ingestDerivativeEvent
    {accumulator : BuildAccumulator Number}
    (named : MetricsNamed accumulator)
    (event : RawInputEvent) :
    MetricsNamed (ingestDerivativeEvent codec accumulator event) := by
  unfold Build.ingestDerivativeEvent
  split_ifs with within
  · cases parsed : parseDerivativeMetric codec event with
    | none =>
        exact named
    | some observation =>
        intro metric member
        rcases List.mem_append.mp member with earlier | newest
        · exact named metric earlier
        · rw [List.mem_singleton.mp newest]
          exact isDerivativeMetric_of_parsed parsed
  · exact named

/-- A row adds at most its own metric. -/
theorem MetricsNamed.ingestRow
    {accumulator : BuildAccumulator Number}
    (named : MetricsNamed accumulator)
    (row : InputRow) :
    MetricsNamed (ingestRow codec args accumulator row) := by
  cases row with
  | rawEvent event =>
      unfold Build.ingestRow ingestRawEvent
      simp only
      split_ifs
      · exact named
      · exact named
      · exact named
      · exact named
      · exact MetricsNamed.ingestDerivativeEvent (by exact named) event
      · rw [ingestSpotEvent, ingestInputEvent_eq, ingestProjectionEvent_eq]
        exact named
  | symbolHealth row =>
      unfold Build.ingestRow ingestSymbolHealth
      simp only
      split_ifs
      · exact named
      · exact named
      · exact named
  | sourceHealth row =>
      unfold Build.ingestRow ingestSourceHealth
      simp only
      split_ifs
      · exact named
      · exact named
  | gapAlert row =>
      unfold Build.ingestRow ingestGapAlert
      simp only
      split_ifs
      · exact named
      · exact named

/-- After any rows the metrics of a build are of those that are observed. -/
theorem metricsNamed_ingestRows
    (inputRange scanRange : InputRange)
    (metadata : BuildInputMetadata)
    (rows : List InputRow) :
    MetricsNamed
      (ingestRows codec args
        (BuildAccumulator.new args inputRange scanRange metadata)
        rows) := by
  induction rows using List.reverseRecOn with
  | nil =>
      intro metric member
      cases member
  | append_singleton rows row inductionHypothesis =>
      rw [ingestRows, List.foldl_append]
      exact inductionHypothesis.ingestRow row

/-- If no two texts of a run have one hash, its deltas have different
identifiers exactly if slices and observations are told apart. -/
theorem featureDeltaIds_nodup_iff
    (codec : Codec Number)
    (args : NormalizeArgs)
    (inputRange scanRange : InputRange)
    (metadata : BuildInputMetadata)
    (rows : List InputRow)
    (l1RunId : String)
    (knownAsOfMs : Int)
    {result : BuildResult Number}
    (isResult :
      result =
        (ingestRows codec args
          (BuildAccumulator.new args inputRange scanRange metadata)
          rows).finish)
    (noCollision :
      ∀ one ∈
        deltaTexts l1RunId inputRange result.projectionSlices
          result.projectionDerivativeMetrics,
        ∀ other ∈
          deltaTexts l1RunId inputRange result.projectionSlices
            result.projectionDerivativeMetrics,
          codec.sha256Hex one = codec.sha256Hex other → one = other) :
    ((buildMarketFeatureDeltas codec.sha256Hex l1RunId inputRange knownAsOfMs
        result.projectionSlices result.projectionDerivativeMetrics).map
      (fun delta => delta.featureDeltaId)).Nodup ↔
      DeltasToldApart inputRange result.projectionSlices
        result.projectionDerivativeMetrics := by
  have named :
      ∀ metric ∈ result.projectionDerivativeMetrics,
        IsDerivativeMetric metric := by
    rw [isResult]
    exact metricsNamed_ingestRows inputRange scanRange metadata rows
  rw [(deltaIds_perm l1RunId codec.sha256Hex inputRange knownAsOfMs
      result.projectionSlices
      result.projectionDerivativeMetrics).nodup_iff,
    ← deltaTexts_nodup_iff l1RunId inputRange result.projectionSlices named]
  constructor
  · exact List.Nodup.of_map _
  · intro distinct
    exact distinct.map_on noCollision

end Runs

section Sample

/-- The payload of an open interest. -/
def interestPayload : String :=
  "\x7b\"symbol\":\"BTCUSDT\",\"openInterest\":\"100.5\",\"time\":500\x7d"

/-- Hashing and decoding of the payload, in exact arithmetic. -/
def interestCodec : Codec ℚ where
  sha256Hex := fun text =>
    if text = interestPayload then
      "3199d894ef89324e08dd987c0dfe46c2c46cb6a780eb5f302a1759fdc8c1674f"
    else
      text
  fromStr := fun text =>
    if text = interestPayload then
      some (.object
        [("symbol", .text "BTCUSDT"), ("openInterest", .text "100.5")])
    else
      none
  parseF64 := fun text => if text = "100.5" then some (201 / 2) else none

/-- An open interest of BTC that was polled at a time. -/
def polledInterest (eventId : String) (polledAtMs : Int) : RawInputEvent :=
  { btcTrade eventId with
    marketType := "usdm_perpetual"
    eventType := "open_interest_snapshot"
    ingestTimestampMs := polledAtMs
    payloadJson := interestPayload
    payloadSha256 :=
      "3199d894ef89324e08dd987c0dfe46c2c46cb6a780eb5f302a1759fdc8c1674f" }

/-- The build of polls. -/
def polls (events : List RawInputEvent) : BuildResult ℚ :=
  (ingestRows interestCodec .withDefaults
    (BuildAccumulator.new .withDefaults ⟨0, 1000⟩ ⟨0, 1000⟩ oneObject)
    (events.map .rawEvent)).finish

/-- The first poll. -/
def firstPoll : RawInputEvent :=
  polledInterest "evt_binance_open_interest_snapshot_600_1" 600

/-- The second poll, which found what the first one had found. -/
def secondPoll : RawInputEvent :=
  polledInterest "evt_binance_open_interest_snapshot_800_2" 800

/-- The text of a poll. -/
def pollText : String :=
  deltaText "run-1" "open_interest" "binance" "BTCUSDT" 500

/-- The deltas of two polls of one exchange time have one identifier, although
no two texts have one hash. -/
theorem secondPoll_sameId :
    (∀ one ∈
        deltaTexts "run-1" ⟨0, 1000⟩
          (polls [firstPoll, secondPoll]).projectionSlices
          (polls [firstPoll, secondPoll]).projectionDerivativeMetrics,
      ∀ other ∈
        deltaTexts "run-1" ⟨0, 1000⟩
          (polls [firstPoll, secondPoll]).projectionSlices
          (polls [firstPoll, secondPoll]).projectionDerivativeMetrics,
        interestCodec.sha256Hex one = interestCodec.sha256Hex other →
        one = other) ∧
    ¬ ((buildMarketFeatureDeltas interestCodec.sha256Hex "run-1" ⟨0, 1000⟩
          1000 (polls [firstPoll, secondPoll]).projectionSlices
          (polls [firstPoll, secondPoll]).projectionDerivativeMetrics).map
        (fun delta => delta.featureDeltaId)).Nodup := by
  have texts :
      deltaTexts "run-1" ⟨0, 1000⟩
          (polls [firstPoll, secondPoll]).projectionSlices
          (polls [firstPoll, secondPoll]).projectionDerivativeMetrics =
        [pollText, pollText] :=
    rfl
  constructor
  · rw [texts]
    intro one isOne other isOther _
    simp only [List.mem_cons, List.not_mem_nil, or_false, or_self]
      at isOne isOther
    rw [isOne, isOther]
  · rw [(deltaIds_perm "run-1" interestCodec.sha256Hex ⟨0, 1000⟩ 1000
      (polls [firstPoll, secondPoll]).projectionSlices
      (polls [firstPoll, secondPoll]).projectionDerivativeMetrics).nodup_iff,
      texts]
    intro distinct
    exact (List.nodup_cons.mp distinct).1 (List.mem_singleton_self _)

/-- The payload of a later open interest. -/
def laterPayload : String :=
  "\x7b\"symbol\":\"BTCUSDT\",\"openInterest\":\"100.5\",\"time\":700\x7d"

/-- Some texts and their hashes. -/
def knownHashes : List (String × String) :=
  [(interestPayload,
      "3199d894ef89324e08dd987c0dfe46c2c46cb6a780eb5f302a1759fdc8c1674f"),
    (laterPayload,
      "91a0e88292e7b88f64be01cc366b4a9f6451cd0363c92e492b048b0982451db5"),
    (btcPayload,
      "3ded94df088cf3c991db8f4c18b936ef775e6b9ced6ecd9993ca491a9b84a44d"),
    ("run-1|price|binance|BTCUSDT|0|market_feature_delta_v1",
      "4b05b8a65ca77573753dbac9cf510eca10830f001efd1d7232690c970f7cc8b9"),
    ("run-1|trade_volume|binance|BTCUSDT|0|market_feature_delta_v1",
      "0c1db741af114b8d273949b0f112c2f3e6c99fcbc0cbb1d9d9051d5da54056f5"),
    ("run-1|open_interest|binance|BTCUSDT|500|market_feature_delta_v1",
      "0e799b568b068058aed9d6650ca32ce16268d76590350f2030b477adedc28b7c"),
    ("run-1|open_interest|binance|BTCUSDT|700|market_feature_delta_v1",
      "f90b2e911d559488747ad932ea839b1a5209474a40c13e6656c293098e3ea9d8")]

/-- Hashing and decoding of two polls and a trade, in exact arithmetic. -/
def knownCodec : Codec ℚ where
  sha256Hex := fun text => (knownHashes.lookup text).getD text
  fromStr := fun text =>
    if text = interestPayload ∨ text = laterPayload then
      some (.object
        [("symbol", .text "BTCUSDT"), ("openInterest", .text "100.5")])
    else
      btcCodec.fromStr text
  parseF64 := btcCodec.parseF64

/-- A poll that finds the open interest of a later time. -/
def laterPoll : RawInputEvent :=
  { polledInterest "evt_binance_open_interest_snapshot_800_2" 800 with
    exchangeTimestampMs := 700
    payloadJson := laterPayload
    payloadSha256 :=
      "91a0e88292e7b88f64be01cc366b4a9f6451cd0363c92e492b048b0982451db5" }

/-- A trade and two polls of different times. -/
def tradeAndPolls : List InputRow :=
  [.rawEvent (btcTrade "evt_binance_trade_510_0"), .rawEvent firstPoll,
    .rawEvent laterPoll]

/-- The build of the trade and the polls. -/
def tradeAndPollsBuild : BuildResult ℚ :=
  (ingestRows knownCodec oneWindowBackArgs
    (BuildAccumulator.new oneWindowBackArgs ⟨0, 1000⟩ ⟨0, 1000⟩ oneObject)
    tradeAndPolls).finish

/-- The deltas of the trade and the polls. -/
theorem tradeAndPolls_texts :
    deltaTexts "run-1" ⟨0, 1000⟩ tradeAndPollsBuild.projectionSlices
        tradeAndPollsBuild.projectionDerivativeMetrics =
      [deltaText "run-1" "price" "binance" "BTCUSDT" 0,
        deltaText "run-1" "trade_volume" "binance" "BTCUSDT" 0,
        deltaText "run-1" "open_interest" "binance" "BTCUSDT" 500,
        deltaText "run-1" "open_interest" "binance" "BTCUSDT" 700] := by
  decide +kernel

/-- The deltas of a trade and two polls have different identifiers. -/
theorem tradeAndPolls_ids_nodup :
    ((buildMarketFeatureDeltas knownCodec.sha256Hex "run-1" ⟨0, 1000⟩ 1000
        tradeAndPollsBuild.projectionSlices
        tradeAndPollsBuild.projectionDerivativeMetrics).map
      (fun delta => delta.featureDeltaId)).Nodup := by
  refine
    (featureDeltaIds_nodup_iff knownCodec oneWindowBackArgs ⟨0, 1000⟩
      ⟨0, 1000⟩ oneObject tradeAndPolls "run-1" 1000 rfl ?_).mpr ?_
  · change
      ∀ one ∈
        deltaTexts "run-1" ⟨0, 1000⟩ tradeAndPollsBuild.projectionSlices
          tradeAndPollsBuild.projectionDerivativeMetrics, _
    rw [tradeAndPolls_texts]
    decide +kernel
  · constructor
    · decide +kernel
    · decide +kernel

end Sample

end MarketIngest.Build
