import MarketIngest.ColumnBatch
import MarketIngest.SinkConservation

namespace MarketIngest.Parquet

open Columnar

/-!
# Columns of the L0 objects

Each family has a draft, a record with all of its columns, the schema of its
files and the list of columns that a writer fills.  The schema and the list are
written down separately and line up by position.  What the sink keeps of a
record are its identifier, its run and the fields that choose its partition.
-/

variable
  {Payload : Type}
  (sha256Hex : String → String)

/-- A counter of 64 bits without a sign as one with a sign. -/
def i64FromU64 (value : Nat) : Int :=
  if (value : Int) ≤ i64Max then value else i64Max

/-- An integer column that must not be null. -/
def int64Field (name : String) : Field :=
  ⟨name, .int64, false⟩

/-- A text column that must not be null. -/
def utf8Field (name : String) : Field :=
  ⟨name, .utf8, false⟩

/-- A column of truth values that must not be null. -/
def booleanField (name : String) : Field :=
  ⟨name, .boolean, false⟩

/-- An integer column that may be null. -/
def nullableInt64Field (name : String) : Field :=
  ⟨name, .int64, true⟩

section Raw

/-- A raw market event before it is appended. -/
structure RawMarketEventDraft where
  eventType : String
  venue : String
  sourceRole : String
  marketType : String
  symbolNative : String
  symbolCanonical : String
  baseAsset : String
  quoteAsset : String
  exchangeTimestampMs : Int
  ingestTimestampMs : Int
  sequenceId : String
  sequenceTag : String
  exchangeSequence : Option Int
  diffFirstUpdateId : Option Int
  diffFinalUpdateId : Option Int
  isSnapshot : Bool
  streamType : String
  streamPhase : String
  payloadJson : String
  deriving Repr, DecidableEq

/-- An appended raw market event. -/
structure RawMarketEventRecord where
  eventId : String
  producerRunId : String
  venue : String
  sourceRole : String
  marketType : String
  eventType : String
  symbolNative : String
  symbolCanonical : String
  baseAsset : String
  quoteAsset : String
  exchangeTimestampMs : Int
  ingestTimestampMs : Int
  sequenceId : String
  sequenceTag : String
  exchangeSequence : Option Int
  diffFirstUpdateId : Option Int
  diffFinalUpdateId : Option Int
  isSnapshot : Bool
  streamType : String
  streamPhase : String
  payloadJson : String
  payloadSha256 : String
  schemaVersion : String
  deriving Repr, DecidableEq

/-- The record of a draft; an empty sequence tag is the sequence itself. -/
def RawMarketEventRecord.fromDraft
    (draft : RawMarketEventDraft)
    (producerRunId : String)
    (ordinal : Nat) : RawMarketEventRecord where
  eventId :=
    "evt_" ++ draft.venue ++ "_" ++ draft.eventType ++ "_" ++
      toString draft.ingestTimestampMs ++ "_" ++ toString ordinal
  producerRunId := producerRunId
  venue := draft.venue
  sourceRole := draft.sourceRole
  marketType := draft.marketType
  eventType := draft.eventType
  symbolNative := draft.symbolNative
  symbolCanonical := draft.symbolCanonical
  baseAsset := draft.baseAsset
  quoteAsset := draft.quoteAsset
  exchangeTimestampMs := draft.exchangeTimestampMs
  ingestTimestampMs := draft.ingestTimestampMs
  sequenceId := draft.sequenceId
  sequenceTag :=
    if draft.sequenceTag.isEmpty then
      draft.sequenceId
    else
      draft.sequenceTag
  exchangeSequence := draft.exchangeSequence
  diffFirstUpdateId := draft.diffFirstUpdateId
  diffFinalUpdateId := draft.diffFinalUpdateId
  isSnapshot := draft.isSnapshot
  streamType := draft.streamType
  streamPhase := draft.streamPhase
  payloadJson := draft.payloadJson
  payloadSha256 := sha256Hex draft.payloadJson
  schemaVersion := "raw_market_event_v2"

/-- The fields of raw market events. -/
def rawMarketEventSchema : List Field :=
  [utf8Field "event_id",
    utf8Field "producer_run_id",
    utf8Field "venue",
    utf8Field "source_role",
    utf8Field "market_type",
    utf8Field "event_type",
    utf8Field "symbol_native",
    utf8Field "symbol_canonical",
    utf8Field "base_asset",
    utf8Field "quote_asset",
    int64Field "exchange_timestamp_ms",
    int64Field "ingest_timestamp_ms",
    utf8Field "sequence_id",
    utf8Field "sequence_tag",
    nullableInt64Field "exchange_sequence",
    nullableInt64Field "diff_first_update_id",
    nullableInt64Field "diff_final_update_id",
    booleanField "is_snapshot",
    utf8Field "stream_type",
    utf8Field "stream_phase",
    utf8Field "payload_json",
    utf8Field "payload_sha256",
    utf8Field "schema_version"]

/-- The columns that are filled from raw market events. -/
def rawMarketEventColumns : List (Column RawMarketEventRecord) :=
  [.string (fun record => record.eventId),
    .string (fun record => record.producerRunId),
    .string (fun record => record.venue),
    .string (fun record => record.sourceRole),
    .string (fun record => record.marketType),
    .string (fun record => record.eventType),
    .string (fun record => record.symbolNative),
    .string (fun record => record.symbolCanonical),
    .string (fun record => record.baseAsset),
    .string (fun record => record.quoteAsset),
    .int64 (fun record => record.exchangeTimestampMs),
    .int64 (fun record => record.ingestTimestampMs),
    .string (fun record => record.sequenceId),
    .string (fun record => record.sequenceTag),
    .int64Opt (fun record => record.exchangeSequence),
    .int64Opt (fun record => record.diffFirstUpdateId),
    .int64Opt (fun record => record.diffFinalUpdateId),
    .bool (fun record => record.isSnapshot),
    .string (fun record => record.streamType),
    .string (fun record => record.streamPhase),
    .string (fun record => record.payloadJson),
    .string (fun record => record.payloadSha256),
    .string (fun record => record.schemaVersion)]

/-- Fields and columns of raw market events line up. -/
def rawMarketEventLayout : Layout RawMarketEventRecord where
  schema := rawMarketEventSchema
  columns := rawMarketEventColumns
  nonempty := List.cons_ne_nil _ _
  types := rfl
  nulls := rfl

/-- The batch of raw market events that is written to a file. -/
def rawMarketEventBatch
    (records : List RawMarketEventRecord) :
    Except ArrowError RecordBatch :=
  RecordBatch.tryNew rawMarketEventSchema
    (rawMarketEventColumns.map (Column.array records))

end Raw

section SourceHealth

/-- Health of a source before it is appended. -/
structure SourceHealthDraft where
  venue : String
  sourceRole : String
  observedAtMs : Int
  connectionStatus : String
  heartbeatDelayMs : Int
  streamLagMs : Int
  recentGapCount : Nat
  bookRebuildCount : Nat
  healthLevel : String
  payloadJson : String
  deriving Repr, DecidableEq

/-- Appended health of a source. -/
structure SourceHealthRecord where
  healthEventId : String
  producerRunId : String
  venue : String
  sourceRole : String
  observedAtMs : Int
  connectionStatus : String
  heartbeatDelayMs : Int
  streamLagMs : Int
  recentGapCount : Int
  bookRebuildCount : Int
  healthLevel : String
  payloadJson : String
  payloadSha256 : String
  schemaVersion : String
  deriving Repr, DecidableEq

/-- The record of a draft. -/
def SourceHealthRecord.fromDraft
    (draft : SourceHealthDraft)
    (producerRunId : String)
    (ordinal : Nat) : SourceHealthRecord where
  healthEventId :=
    "health_" ++ draft.venue ++ "_" ++ toString draft.observedAtMs ++
      "_" ++ toString ordinal
  producerRunId := producerRunId
  venue := draft.venue
  sourceRole := draft.sourceRole
  observedAtMs := draft.observedAtMs
  connectionStatus := draft.connectionStatus
  heartbeatDelayMs := draft.heartbeatDelayMs
  streamLagMs := draft.streamLagMs
  recentGapCount := i64FromU64 draft.recentGapCount
  bookRebuildCount := i64FromU64 draft.bookRebuildCount
  healthLevel := draft.healthLevel
  payloadJson := draft.payloadJson
  payloadSha256 := sha256Hex draft.payloadJson
  schemaVersion := "source_health_v2"

/-- The fields of source health. -/
def sourceHealthSchema : List Field :=
  [utf8Field "health_event_id",
    utf8Field "producer_run_id",
    utf8Field "venue",
    utf8Field "source_role",
    int64Field "observed_at_ms",
    utf8Field "connection_status",
    int64Field "heartbeat_delay_ms",
    int64Field "stream_lag_ms",
    int64Field "recent_gap_count",
    int64Field "book_rebuild_count",
    utf8Field "health_level",
    utf8Field "payload_json",
    utf8Field "payload_sha256",
    utf8Field "schema_version"]

/-- The columns that are filled from source health. -/
def sourceHealthColumns : List (Column SourceHealthRecord) :=
  [.string (fun record => record.healthEventId),
    .string (fun record => record.producerRunId),
    .string (fun record => record.venue),
    .string (fun record => record.sourceRole),
    .int64 (fun record => record.observedAtMs),
    .string (fun record => record.connectionStatus),
    .int64 (fun record => record.heartbeatDelayMs),
    .int64 (fun record => record.streamLagMs),
    .int64 (fun record => record.recentGapCount),
    .int64 (fun record => record.bookRebuildCount),
    .string (fun record => record.healthLevel),
    .string (fun record => record.payloadJson),
    .string (fun record => record.payloadSha256),
    .string (fun record => record.schemaVersion)]

/-- Fields and columns of source health line up. -/
def sourceHealthLayout : Layout SourceHealthRecord where
  schema := sourceHealthSchema
  columns := sourceHealthColumns
  nonempty := List.cons_ne_nil _ _
  types := rfl
  nulls := rfl

/-- The batch of source health that is written to a file. -/
def sourceHealthBatch
    (records : List SourceHealthRecord) :
    Except ArrowError RecordBatch :=
  RecordBatch.tryNew sourceHealthSchema
    (sourceHealthColumns.map (Column.array records))

end SourceHealth

section SymbolHealth

/-- Health of a symbol before it is appended. -/
structure SymbolHealthDraft where
  venue : String
  symbolNative : String
  observedAtMs : Int
  lastEventTimeMs : Int
  latencyMs : Int
  isTradeable : Bool
  reasonCodes : List String
  deriving Repr, DecidableEq

/-- Appended health of a symbol. -/
structure SymbolHealthRecord where
  symbolHealthEventId : String
  producerRunId : String
  venue : String
  symbolNative : String
  observedAtMs : Int
  lastEventTimeMs : Int
  latencyMs : Int
  isTradeable : Bool
  reasonCodes : String
  payloadSha256 : String
  schemaVersion : String
  deriving Repr, DecidableEq

/-- The reason codes as one text. -/
def SymbolHealthDraft.joinedReasons (draft : SymbolHealthDraft) : String :=
  ";".intercalate draft.reasonCodes

/-- The record of a draft; its hash is that of some of its columns. -/
def SymbolHealthRecord.fromDraft
    (draft : SymbolHealthDraft)
    (producerRunId : String)
    (ordinal : Nat) : SymbolHealthRecord where
  symbolHealthEventId :=
    "symbol_health_" ++ draft.venue ++ "_" ++ draft.symbolNative ++ "_" ++
      toString draft.observedAtMs ++ "_" ++ toString ordinal
  producerRunId := producerRunId
  venue := draft.venue
  symbolNative := draft.symbolNative
  observedAtMs := draft.observedAtMs
  lastEventTimeMs := draft.lastEventTimeMs
  latencyMs := draft.latencyMs
  isTradeable := draft.isTradeable
  reasonCodes := draft.joinedReasons
  payloadSha256 :=
    sha256Hex
      (draft.venue ++ ":" ++ draft.symbolNative ++ ":" ++
        toString draft.observedAtMs ++ ":" ++ draft.joinedReasons)
  schemaVersion := "symbol_health_v1"

/-- The fields of symbol health. -/
def symbolHealthSchema : List Field :=
  [utf8Field "symbol_health_event_id",
    utf8Field "producer_run_id",
    utf8Field "venue",
    utf8Field "symbol_native",
    int64Field "observed_at_ms",
    int64Field "last_event_time_ms",
    int64Field "latency_ms",
    booleanField "is_tradeable",
    utf8Field "reason_codes",
    utf8Field "payload_sha256",
    utf8Field "schema_version"]

/-- The columns that are filled from symbol health. -/
def symbolHealthColumns : List (Column SymbolHealthRecord) :=
  [.string (fun record => record.symbolHealthEventId),
    .string (fun record => record.producerRunId),
    .string (fun record => record.venue),
    .string (fun record => record.symbolNative),
    .int64 (fun record => record.observedAtMs),
    .int64 (fun record => record.lastEventTimeMs),
    .int64 (fun record => record.latencyMs),
    .bool (fun record => record.isTradeable),
    .string (fun record => record.reasonCodes),
    .string (fun record => record.payloadSha256),
    .string (fun record => record.schemaVersion)]

/-- Fields and columns of symbol health line up. -/
def symbolHealthLayout : Layout SymbolHealthRecord where
  schema := symbolHealthSchema
  columns := symbolHealthColumns
  nonempty := List.cons_ne_nil _ _
  types := rfl
  nulls := rfl

/-- The batch of symbol health that is written to a file. -/
def symbolHealthBatch
    (records : List SymbolHealthRecord) :
    Except ArrowError RecordBatch :=
  RecordBatch.tryNew symbolHealthSchema
    (symbolHealthColumns.map (Column.array records))

end SymbolHealth

section Gaps

/-- A gap alert before it is appended. -/
structure GapAlertDraft where
  venue : String
  sourceRole : String
  symbolNative : String
  gapType : String
  detectedAtMs : Int
  expectedSequenceId : Option Int
  observedSequenceId : Option Int
  healAction : String
  healStatus : String
  payloadJson : String
  deriving Repr, DecidableEq

/-- An appended gap alert. -/
structure GapAlertRecord where
  gapId : String
  producerRunId : String
  venue : String
  sourceRole : String
  symbolNative : String
  gapType : String
  detectedAtMs : Int
  expectedSequenceId : String
  observedSequenceId : String
  healAction : String
  healStatus : String
  payloadJson : String
  payloadSha256 : String
  schemaVersion : String
  deriving Repr, DecidableEq

/-- A number as text; no number is the empty text. -/
def optionalI64 (value : Option Int) : String :=
  (value.map toString).getD ""

/-- The record of a draft. -/
def GapAlertRecord.fromDraft
    (draft : GapAlertDraft)
    (producerRunId : String)
    (ordinal : Nat) : GapAlertRecord where
  gapId :=
    "gap_" ++ draft.venue ++ "_" ++ draft.gapType ++ "_" ++
      toString draft.detectedAtMs ++ "_" ++ toString ordinal
  producerRunId := producerRunId
  venue := draft.venue
  sourceRole := draft.sourceRole
  symbolNative := draft.symbolNative
  gapType := draft.gapType
  detectedAtMs := draft.detectedAtMs
  expectedSequenceId := optionalI64 draft.expectedSequenceId
  observedSequenceId := optionalI64 draft.observedSequenceId
  healAction := draft.healAction
  healStatus := draft.healStatus
  payloadJson := draft.payloadJson
  payloadSha256 := sha256Hex draft.payloadJson
  schemaVersion := "gap_alert_v1"

/-- The fields of gap alerts. -/
def gapAlertSchema : List Field :=
  [utf8Field "gap_id",
    utf8Field "producer_run_id",
    utf8Field "venue",
    utf8Field "source_role",
    utf8Field "symbol_native",
    utf8Field "gap_type",
    int64Field "detected_at_ms",
    utf8Field "expected_sequence_id",
    utf8Field "observed_sequence_id",
    utf8Field "heal_action",
    utf8Field "heal_status",
    utf8Field "payload_json",
    utf8Field "payload_sha256",
    utf8Field "schema_version"]

/-- The columns that are filled from gap alerts. -/
def gapAlertColumns : List (Column GapAlertRecord) :=
  [.string (fun record => record.gapId),
    .string (fun record => record.producerRunId),
    .string (fun record => record.venue),
    .string (fun record => record.sourceRole),
    .string (fun record => record.symbolNative),
    .string (fun record => record.gapType),
    .int64 (fun record => record.detectedAtMs),
    .string (fun record => record.expectedSequenceId),
    .string (fun record => record.observedSequenceId),
    .string (fun record => record.healAction),
    .string (fun record => record.healStatus),
    .string (fun record => record.payloadJson),
    .string (fun record => record.payloadSha256),
    .string (fun record => record.schemaVersion)]

/-- Fields and columns of gap alerts line up. -/
def gapAlertLayout : Layout GapAlertRecord where
  schema := gapAlertSchema
  columns := gapAlertColumns
  nonempty := List.cons_ne_nil _ _
  types := rfl
  nulls := rfl

/-- The batch of gap alerts that is written to a file. -/
def gapAlertBatch
    (records : List GapAlertRecord) :
    Except ArrowError RecordBatch :=
  RecordBatch.tryNew gapAlertSchema
    (gapAlertColumns.map (Column.array records))

end Gaps

section Families

/-- A draft of any family. -/
inductive L0Draft where
  | raw (draft : RawMarketEventDraft)
  | sourceHealth (draft : SourceHealthDraft)
  | symbolHealth (draft : SymbolHealthDraft)
  | gap (draft : GapAlertDraft)
  deriving Repr, DecidableEq

/-- A record of any family with all of its columns. -/
inductive L0Row where
  | raw (record : RawMarketEventRecord)
  | sourceHealth (record : SourceHealthRecord)
  | symbolHealth (record : SymbolHealthRecord)
  | gap (record : GapAlertRecord)
  deriving Repr, DecidableEq

/-- The record of a draft. -/
def L0Row.fromDraft
    (draft : L0Draft)
    (producerRunId : String)
    (ordinal : Nat) : L0Row :=
  match draft with
  | .raw draft => .raw (.fromDraft sha256Hex draft producerRunId ordinal)
  | .sourceHealth draft =>
      .sourceHealth (.fromDraft sha256Hex draft producerRunId ordinal)
  | .symbolHealth draft =>
      .symbolHealth (.fromDraft sha256Hex draft producerRunId ordinal)
  | .gap draft => .gap (.fromDraft sha256Hex draft producerRunId ordinal)

/-- What the sink looks at in a record; the rest is carried along. -/
def L0Row.record (payload : Payload) : L0Row → Storage.L0Record Payload
  | .raw record =>
      .raw
        { eventId := record.eventId
          producerRunId := record.producerRunId
          venue := record.venue
          eventType := record.eventType
          symbolNative := record.symbolNative
          exchangeTimestampMs := record.exchangeTimestampMs
          ingestTimestampMs := record.ingestTimestampMs
          payload := payload }
  | .sourceHealth record =>
      .sourceHealth
        { healthEventId := record.healthEventId
          producerRunId := record.producerRunId
          venue := record.venue
          observedAtMs := record.observedAtMs
          payload := payload }
  | .symbolHealth record =>
      .symbolHealth
        { symbolHealthEventId := record.symbolHealthEventId
          producerRunId := record.producerRunId
          venue := record.venue
          symbolNative := record.symbolNative
          observedAtMs := record.observedAtMs
          payload := payload }
  | .gap record =>
      .gap
        { gapId := record.gapId
          producerRunId := record.producerRunId
          venue := record.venue
          symbolNative := record.symbolNative
          gapType := record.gapType
          detectedAtMs := record.detectedAtMs
          payload := payload }

/-- The call that appends a draft, which the sink carries as the payload. -/
def L0Draft.call
    (publish : Storage.L0StorageSink.PublishOutcome)
    (file : Storage.FileOutcome)
    (draft : L0Draft) : Storage.SinkCall L0Draft :=
  match draft with
  | .raw content =>
      .appendRawMarketEvent
        { eventType := content.eventType
          venue := content.venue
          symbolNative := content.symbolNative
          exchangeTimestampMs := content.exchangeTimestampMs
          ingestTimestampMs := content.ingestTimestampMs
          payload := draft }
        publish file
  | .sourceHealth content =>
      .appendSourceHealth
        { venue := content.venue
          observedAtMs := content.observedAtMs
          payload := draft }
        file
  | .symbolHealth content =>
      .appendSymbolHealth
        { venue := content.venue
          symbolNative := content.symbolNative
          observedAtMs := content.observedAtMs
          payload := draft }
        file
  | .gap content =>
      .appendGapAlert
        { venue := content.venue
          symbolNative := content.symbolNative
          gapType := content.gapType
          detectedAtMs := content.detectedAtMs
          payload := draft }
        file

/-- Appending a draft appends its record. -/
theorem record?_call
    (sink : Storage.L0StorageSink L0Draft)
    (publish : Storage.L0StorageSink.PublishOutcome)
    (file : Storage.FileOutcome)
    (draft : L0Draft) :
    (draft.call publish file).record? sink =
      some ((L0Row.fromDraft sha256Hex draft sink.config.1.runId
        sink.nextOrdinal).record draft) := by
  cases draft <;> rfl

end Families

end MarketIngest.Parquet
