import MarketIngest.DownloadOrder
import MarketIngest.L0Columns
import MarketIngest.L0Keys

namespace MarketIngest.Normalize

open Build Columnar Parquet Storage

/-!
# Rows read back from the L0 objects

The family of an object follows from its key.  A row is decoded column by
column, each found by its name in the schema of the batch.  What the writer
lays out by position comes back under the names that the decoder asks for, and
every row carries the schema and the hash that the build checks.
-/

section Cells

variable
  {Cell : Type}
  (batch : RecordBatch)
  (name : String)
  (row : Nat)

/-- The text of the library for a name that is not in the schema. -/
def unknownFieldMessage : String :=
  "Schema error: Unable to get field named \"" ++ name ++
    "\". Valid fields: [" ++
    ", ".intercalate
      (batch.schema.map (fun field => "\"" ++ field.name ++ "\"")) ++ "]"

/-- The cells of the column of a name, if they have the expected type. -/
def downcastColumn
    (downcast : ColumnArray → Option (List (Option Cell))) :
    Except StorageError (List (Option Cell)) :=
  match batch.column? name with
  | none => .error (.invalidConfig (unknownFieldMessage batch name))
  | some column =>
      match downcast column with
      | none =>
          .error (.invalidConfig
            ("column " ++ name ++ " has unexpected type"))
      | some cells => .ok cells

/-- A text; a null is the empty text. -/
def stringValue : Except StorageError String := do
  let array ← downcastColumn batch name ColumnArray.asUtf8
  return (array[row]?.join).getD ""

/-- An integer; a null is zero. -/
def int64Value : Except StorageError Int := do
  let array ← downcastColumn batch name ColumnArray.asInt64
  return (array[row]?.join).getD 0

/-- An integer that may be null. -/
def int64Optional : Except StorageError (Option Int) := do
  let array ← downcastColumn batch name ColumnArray.asInt64
  return array[row]?.join

/-- A truth value; a null is false. -/
def boolValue : Except StorageError Bool := do
  let array ← downcastColumn batch name ColumnArray.asBoolean
  return (array[row]?.join).getD false

end Cells

section Decoders

variable
  (batch : RecordBatch)
  (row : Nat)

/-- Decode a raw event. -/
def rawEventFromBatch : Except StorageError RawInputEvent := do
  let eventId ← stringValue batch "event_id" row
  let producerRunId ← stringValue batch "producer_run_id" row
  let venue ← stringValue batch "venue" row
  let sourceRole ← stringValue batch "source_role" row
  let marketType ← stringValue batch "market_type" row
  let eventType ← stringValue batch "event_type" row
  let symbolNative ← stringValue batch "symbol_native" row
  let symbolCanonical ← stringValue batch "symbol_canonical" row
  let baseAsset ← stringValue batch "base_asset" row
  let quoteAsset ← stringValue batch "quote_asset" row
  let exchangeTimestampMs ← int64Value batch "exchange_timestamp_ms" row
  let ingestTimestampMs ← int64Value batch "ingest_timestamp_ms" row
  let exchangeSequence ← int64Optional batch "exchange_sequence" row
  let payloadJson ← stringValue batch "payload_json" row
  let payloadSha256 ← stringValue batch "payload_sha256" row
  let schemaVersion ← stringValue batch "schema_version" row
  return {
    eventId := eventId
    producerRunId := producerRunId
    venue := venue
    sourceRole := sourceRole
    marketType := marketType
    eventType := eventType
    symbolNative := symbolNative
    symbolCanonical := symbolCanonical
    baseAsset := baseAsset
    quoteAsset := quoteAsset
    exchangeTimestampMs := exchangeTimestampMs
    ingestTimestampMs := ingestTimestampMs
    exchangeSequence := exchangeSequence
    payloadJson := payloadJson
    payloadSha256 := payloadSha256
    schemaVersion := schemaVersion
  }

/-- Decode the health of a symbol. -/
def symbolHealthFromBatch : Except StorageError SymbolHealthInput := do
  let venue ← stringValue batch "venue" row
  let symbolNative ← stringValue batch "symbol_native" row
  let observedAtMs ← int64Value batch "observed_at_ms" row
  let lastEventTimeMs ← int64Value batch "last_event_time_ms" row
  let latencyMs ← int64Value batch "latency_ms" row
  let isTradeable ← boolValue batch "is_tradeable" row
  let reasonCodes ← stringValue batch "reason_codes" row
  let payloadSha256 ← stringValue batch "payload_sha256" row
  let schemaVersion ← stringValue batch "schema_version" row
  return {
    venue := venue
    symbolNative := symbolNative
    observedAtMs := observedAtMs
    lastEventTimeMs := lastEventTimeMs
    latencyMs := latencyMs
    isTradeable := isTradeable
    reasonCodes := reasonCodes
    payloadSha256 := payloadSha256
    schemaVersion := schemaVersion
  }

/-- Decode the health of a source. -/
def sourceHealthFromBatch : Except StorageError SourceHealthInput := do
  let venue ← stringValue batch "venue" row
  let observedAtMs ← int64Value batch "observed_at_ms" row
  let connectionStatus ← stringValue batch "connection_status" row
  let heartbeatDelayMs ← int64Value batch "heartbeat_delay_ms" row
  let streamLagMs ← int64Value batch "stream_lag_ms" row
  let recentGapCount ← int64Value batch "recent_gap_count" row
  let bookRebuildCount ← int64Value batch "book_rebuild_count" row
  let healthLevel ← stringValue batch "health_level" row
  let payloadJson ← stringValue batch "payload_json" row
  let payloadSha256 ← stringValue batch "payload_sha256" row
  let schemaVersion ← stringValue batch "schema_version" row
  return {
    venue := venue
    observedAtMs := observedAtMs
    connectionStatus := connectionStatus
    heartbeatDelayMs := heartbeatDelayMs
    streamLagMs := streamLagMs
    recentGapCount := recentGapCount
    bookRebuildCount := bookRebuildCount
    healthLevel := healthLevel
    payloadJson := payloadJson
    payloadSha256 := payloadSha256
    schemaVersion := schemaVersion
  }

/-- Decode a gap alert. -/
def gapAlertFromBatch : Except StorageError GapAlertInput := do
  let venue ← stringValue batch "venue" row
  let symbolNative ← stringValue batch "symbol_native" row
  let gapType ← stringValue batch "gap_type" row
  let detectedAtMs ← int64Value batch "detected_at_ms" row
  let payloadJson ← stringValue batch "payload_json" row
  let payloadSha256 ← stringValue batch "payload_sha256" row
  let schemaVersion ← stringValue batch "schema_version" row
  return {
    venue := venue
    symbolNative := symbolNative
    gapType := gapType
    detectedAtMs := detectedAtMs
    payloadJson := payloadJson
    payloadSha256 := payloadSha256
    schemaVersion := schemaVersion
  }

end Decoders

/-- The families of input objects. -/
inductive InputObjectFamily where
  | rawMarketEvent
  | symbolHealth
  | sourceHealth
  | gapAlert
  deriving Repr, DecidableEq

/-- The family that a key belongs to. -/
def InputObjectFamily.fromKey (key : String) : Option InputObjectFamily :=
  if Text.startsWith key "raw_market_event/" then
    some .rawMarketEvent
  else if Text.startsWith key "symbol_health/" then
    some .symbolHealth
  else if Text.startsWith key "source_health/" then
    some .sourceHealth
  else if Text.startsWith key "gap_alert/" then
    some .gapAlert
  else
    none

/-- Decode a row of a family. -/
def decodeRow
    (family : InputObjectFamily)
    (batch : RecordBatch)
    (row : Nat) : Except StorageError InputRow :=
  match family with
  | .rawMarketEvent => (rawEventFromBatch batch row).map .rawEvent
  | .symbolHealth => (symbolHealthFromBatch batch row).map .symbolHealth
  | .sourceHealth => (sourceHealthFromBatch batch row).map .sourceHealth
  | .gapAlert => (gapAlertFromBatch batch row).map .gapAlert

/-- Decode the rows of a batch one after the other. -/
def decodeBatch
    (family : InputObjectFamily)
    (batch : RecordBatch) : Except StorageError (List InputRow) :=
  (List.range batch.rowCount).mapM (decodeRow family batch)

/-- Decode the batches of a file; a key of no family has no rows. -/
def appendBatches
    (key : String)
    (batches : List RecordBatch) : Except StorageError (List InputRow) :=
  match InputObjectFamily.fromKey key with
  | none => .ok []
  | some family =>
      (batches.mapM (decodeBatch family)).map List.flatten

section WrittenCells

variable
  {Record : Type}
  {layout : Layout Record}
  {records : List Record}
  {record : Record}
  {row : Nat}
  (name : String)

/-- A written column is found with all of its cells. -/
private theorem downcastColumn_batch
    {Cell : Type}
    {downcast : ColumnArray → Option (List (Option Cell))}
    {column : Column Record}
    {cells : List (Option Cell)}
    (found : layout.column? name = some column)
    (isCells : downcast (column.array records) = some cells) :
    downcastColumn (layout.batch records) name downcast = .ok cells := by
  unfold downcastColumn
  rw [layout.column?_batch, found]
  simp only [Option.map_some, isCells]

/-- A text comes back under its name. -/
theorem stringValue_batch
    (value : Record → String)
    (found : layout.column? name = some (.string value))
    (atRow : records[row]? = some record) :
    stringValue (layout.batch records) name row = .ok (value record) := by
  unfold stringValue
  rw [downcastColumn_batch name found rfl]
  simp [bind, Except.bind, pure, Except.pure, atRow]

/-- An integer comes back under its name. -/
theorem int64Value_batch
    (value : Record → Int)
    (found : layout.column? name = some (.int64 value))
    (atRow : records[row]? = some record) :
    int64Value (layout.batch records) name row = .ok (value record) := by
  unfold int64Value
  rw [downcastColumn_batch name found rfl]
  simp [bind, Except.bind, pure, Except.pure, atRow]

/-- An optional integer comes back under its name. -/
theorem int64Optional_batch
    (value : Record → Option Int)
    (found : layout.column? name = some (.int64Opt value))
    (atRow : records[row]? = some record) :
    int64Optional (layout.batch records) name row =
      .ok (value record) := by
  unfold int64Optional
  rw [downcastColumn_batch name found rfl]
  simp [bind, Except.bind, pure, Except.pure, atRow]

/-- A truth value comes back under its name. -/
theorem boolValue_batch
    (value : Record → Bool)
    (found : layout.column? name = some (.bool value))
    (atRow : records[row]? = some record) :
    boolValue (layout.batch records) name row = .ok (value record) := by
  unfold boolValue
  rw [downcastColumn_batch name found rfl]
  simp [bind, Except.bind, pure, Except.pure, atRow]

end WrittenCells

/-- The fields that a reader takes from a raw market event. -/
def sharedRawEvent (record : Parquet.RawMarketEventRecord) :
    RawInputEvent where
  eventId := record.eventId
  producerRunId := record.producerRunId
  venue := record.venue
  sourceRole := record.sourceRole
  marketType := record.marketType
  eventType := record.eventType
  symbolNative := record.symbolNative
  symbolCanonical := record.symbolCanonical
  baseAsset := record.baseAsset
  quoteAsset := record.quoteAsset
  exchangeTimestampMs := record.exchangeTimestampMs
  ingestTimestampMs := record.ingestTimestampMs
  exchangeSequence := record.exchangeSequence
  payloadJson := record.payloadJson
  payloadSha256 := record.payloadSha256
  schemaVersion := record.schemaVersion

/-- The fields that a reader takes from the health of a symbol. -/
def sharedSymbolHealth (record : Parquet.SymbolHealthRecord) :
    SymbolHealthInput where
  venue := record.venue
  symbolNative := record.symbolNative
  observedAtMs := record.observedAtMs
  lastEventTimeMs := record.lastEventTimeMs
  latencyMs := record.latencyMs
  isTradeable := record.isTradeable
  reasonCodes := record.reasonCodes
  payloadSha256 := record.payloadSha256
  schemaVersion := record.schemaVersion

/-- The fields that a reader takes from the health of a source. -/
def sharedSourceHealth (record : Parquet.SourceHealthRecord) :
    SourceHealthInput where
  venue := record.venue
  observedAtMs := record.observedAtMs
  connectionStatus := record.connectionStatus
  heartbeatDelayMs := record.heartbeatDelayMs
  streamLagMs := record.streamLagMs
  recentGapCount := record.recentGapCount
  bookRebuildCount := record.bookRebuildCount
  healthLevel := record.healthLevel
  payloadJson := record.payloadJson
  payloadSha256 := record.payloadSha256
  schemaVersion := record.schemaVersion

/-- The fields that a reader takes from a gap alert. -/
def sharedGapAlert (record : Parquet.GapAlertRecord) : GapAlertInput where
  venue := record.venue
  symbolNative := record.symbolNative
  gapType := record.gapType
  detectedAtMs := record.detectedAtMs
  payloadJson := record.payloadJson
  payloadSha256 := record.payloadSha256
  schemaVersion := record.schemaVersion

section WrittenRows

variable {row : Nat}

/-- A written raw market event is decoded to its fields. -/
theorem rawEventFromBatch_batch
    {records : List Parquet.RawMarketEventRecord}
    {record : Parquet.RawMarketEventRecord}
    (atRow : records[row]? = some record) :
    rawEventFromBatch (rawMarketEventLayout.batch records) row =
      .ok (sharedRawEvent record) := by
  unfold rawEventFromBatch
  rw [stringValue_batch "event_id" (fun record => record.eventId)
      rfl atRow,
    stringValue_batch "producer_run_id" (fun record => record.producerRunId)
      rfl atRow,
    stringValue_batch "venue" (fun record => record.venue) rfl atRow,
    stringValue_batch "source_role" (fun record => record.sourceRole)
      rfl atRow,
    stringValue_batch "market_type" (fun record => record.marketType)
      rfl atRow,
    stringValue_batch "event_type" (fun record => record.eventType)
      rfl atRow,
    stringValue_batch "symbol_native" (fun record => record.symbolNative)
      rfl atRow,
    stringValue_batch "symbol_canonical"
      (fun record => record.symbolCanonical) rfl atRow,
    stringValue_batch "base_asset" (fun record => record.baseAsset)
      rfl atRow,
    stringValue_batch "quote_asset" (fun record => record.quoteAsset)
      rfl atRow,
    int64Value_batch "exchange_timestamp_ms"
      (fun record => record.exchangeTimestampMs) rfl atRow,
    int64Value_batch "ingest_timestamp_ms"
      (fun record => record.ingestTimestampMs) rfl atRow,
    int64Optional_batch "exchange_sequence"
      (fun record => record.exchangeSequence) rfl atRow,
    stringValue_batch "payload_json" (fun record => record.payloadJson)
      rfl atRow,
    stringValue_batch "payload_sha256" (fun record => record.payloadSha256)
      rfl atRow,
    stringValue_batch "schema_version" (fun record => record.schemaVersion)
      rfl atRow]
  rfl

/-- Written health of a symbol is decoded to its fields. -/
theorem symbolHealthFromBatch_batch
    {records : List Parquet.SymbolHealthRecord}
    {record : Parquet.SymbolHealthRecord}
    (atRow : records[row]? = some record) :
    symbolHealthFromBatch (symbolHealthLayout.batch records) row =
      .ok (sharedSymbolHealth record) := by
  unfold symbolHealthFromBatch
  rw [stringValue_batch "venue" (fun record => record.venue) rfl atRow,
    stringValue_batch "symbol_native" (fun record => record.symbolNative)
      rfl atRow,
    int64Value_batch "observed_at_ms" (fun record => record.observedAtMs)
      rfl atRow,
    int64Value_batch "last_event_time_ms"
      (fun record => record.lastEventTimeMs) rfl atRow,
    int64Value_batch "latency_ms" (fun record => record.latencyMs)
      rfl atRow,
    boolValue_batch "is_tradeable" (fun record => record.isTradeable)
      rfl atRow,
    stringValue_batch "reason_codes" (fun record => record.reasonCodes)
      rfl atRow,
    stringValue_batch "payload_sha256" (fun record => record.payloadSha256)
      rfl atRow,
    stringValue_batch "schema_version" (fun record => record.schemaVersion)
      rfl atRow]
  rfl

/-- Written health of a source is decoded to its fields. -/
theorem sourceHealthFromBatch_batch
    {records : List Parquet.SourceHealthRecord}
    {record : Parquet.SourceHealthRecord}
    (atRow : records[row]? = some record) :
    sourceHealthFromBatch (sourceHealthLayout.batch records) row =
      .ok (sharedSourceHealth record) := by
  unfold sourceHealthFromBatch
  rw [stringValue_batch "venue" (fun record => record.venue) rfl atRow,
    int64Value_batch "observed_at_ms" (fun record => record.observedAtMs)
      rfl atRow,
    stringValue_batch "connection_status"
      (fun record => record.connectionStatus) rfl atRow,
    int64Value_batch "heartbeat_delay_ms"
      (fun record => record.heartbeatDelayMs) rfl atRow,
    int64Value_batch "stream_lag_ms" (fun record => record.streamLagMs)
      rfl atRow,
    int64Value_batch "recent_gap_count"
      (fun record => record.recentGapCount) rfl atRow,
    int64Value_batch "book_rebuild_count"
      (fun record => record.bookRebuildCount) rfl atRow,
    stringValue_batch "health_level" (fun record => record.healthLevel)
      rfl atRow,
    stringValue_batch "payload_json" (fun record => record.payloadJson)
      rfl atRow,
    stringValue_batch "payload_sha256" (fun record => record.payloadSha256)
      rfl atRow,
    stringValue_batch "schema_version" (fun record => record.schemaVersion)
      rfl atRow]
  rfl

/-- A written gap alert is decoded to its fields. -/
theorem gapAlertFromBatch_batch
    {records : List Parquet.GapAlertRecord}
    {record : Parquet.GapAlertRecord}
    (atRow : records[row]? = some record) :
    gapAlertFromBatch (gapAlertLayout.batch records) row =
      .ok (sharedGapAlert record) := by
  unfold gapAlertFromBatch
  rw [stringValue_batch "venue" (fun record => record.venue) rfl atRow,
    stringValue_batch "symbol_native" (fun record => record.symbolNative)
      rfl atRow,
    stringValue_batch "gap_type" (fun record => record.gapType) rfl atRow,
    int64Value_batch "detected_at_ms" (fun record => record.detectedAtMs)
      rfl atRow,
    stringValue_batch "payload_json" (fun record => record.payloadJson)
      rfl atRow,
    stringValue_batch "payload_sha256" (fun record => record.payloadSha256)
      rfl atRow,
    stringValue_batch "schema_version" (fun record => record.schemaVersion)
      rfl atRow]
  rfl

end WrittenRows

end MarketIngest.Normalize
