import MarketIngest.ObjectKeys
import Mathlib.Data.Prod.Lex

namespace MarketIngest.Storage

/-!
# Records of the L0 bucket

Four families of drafts become records when they are appended: raw market
events, source health, symbol health and gap alerts.  A record gets an
identifier that ends with its ordinal, and a partition of its family.  The
payload of a draft is kept as it is and never inspected.
-/

variable {Payload : Type}

/-- A raw market event before it is appended. -/
structure RawMarketEventDraft (Payload : Type) where
  eventType : String
  venue : String
  symbolNative : String
  exchangeTimestampMs : Int
  ingestTimestampMs : Int
  payload : Payload

/-- An appended raw market event. -/
structure RawMarketEventRecord (Payload : Type) where
  eventId : String
  producerRunId : String
  venue : String
  eventType : String
  symbolNative : String
  exchangeTimestampMs : Int
  ingestTimestampMs : Int
  payload : Payload

/-- The record of a draft. -/
def RawMarketEventRecord.fromDraft
    (draft : RawMarketEventDraft Payload)
    (producerRunId : String)
    (ordinal : Nat) : RawMarketEventRecord Payload where
  eventId :=
    "evt_" ++ draft.venue ++ "_" ++ draft.eventType ++ "_" ++
      toString draft.ingestTimestampMs ++ "_" ++ toString ordinal
  producerRunId := producerRunId
  venue := draft.venue
  eventType := draft.eventType
  symbolNative := draft.symbolNative
  exchangeTimestampMs := draft.exchangeTimestampMs
  ingestTimestampMs := draft.ingestTimestampMs
  payload := draft.payload

/-- Health of a source before it is appended. -/
structure SourceHealthDraft (Payload : Type) where
  venue : String
  observedAtMs : Int
  payload : Payload

/-- Appended health of a source. -/
structure SourceHealthRecord (Payload : Type) where
  healthEventId : String
  producerRunId : String
  venue : String
  observedAtMs : Int
  payload : Payload

/-- The record of a draft. -/
def SourceHealthRecord.fromDraft
    (draft : SourceHealthDraft Payload)
    (producerRunId : String)
    (ordinal : Nat) : SourceHealthRecord Payload where
  healthEventId :=
    "health_" ++ draft.venue ++ "_" ++ toString draft.observedAtMs ++
      "_" ++ toString ordinal
  producerRunId := producerRunId
  venue := draft.venue
  observedAtMs := draft.observedAtMs
  payload := draft.payload

/-- Health of a symbol before it is appended. -/
structure SymbolHealthDraft (Payload : Type) where
  venue : String
  symbolNative : String
  observedAtMs : Int
  payload : Payload

/-- Appended health of a symbol. -/
structure SymbolHealthRecord (Payload : Type) where
  symbolHealthEventId : String
  producerRunId : String
  venue : String
  symbolNative : String
  observedAtMs : Int
  payload : Payload

/-- The record of a draft. -/
def SymbolHealthRecord.fromDraft
    (draft : SymbolHealthDraft Payload)
    (producerRunId : String)
    (ordinal : Nat) : SymbolHealthRecord Payload where
  symbolHealthEventId :=
    "symbol_health_" ++ draft.venue ++ "_" ++ draft.symbolNative ++ "_" ++
      toString draft.observedAtMs ++ "_" ++ toString ordinal
  producerRunId := producerRunId
  venue := draft.venue
  symbolNative := draft.symbolNative
  observedAtMs := draft.observedAtMs
  payload := draft.payload

/-- A gap alert before it is appended. -/
structure GapAlertDraft (Payload : Type) where
  venue : String
  symbolNative : String
  gapType : String
  detectedAtMs : Int
  payload : Payload

/-- An appended gap alert. -/
structure GapAlertRecord (Payload : Type) where
  gapId : String
  producerRunId : String
  venue : String
  symbolNative : String
  gapType : String
  detectedAtMs : Int
  payload : Payload

/-- The record of a draft. -/
def GapAlertRecord.fromDraft
    (draft : GapAlertDraft Payload)
    (producerRunId : String)
    (ordinal : Nat) : GapAlertRecord Payload where
  gapId :=
    "gap_" ++ draft.venue ++ "_" ++ draft.gapType ++ "_" ++
      toString draft.detectedAtMs ++ "_" ++ toString ordinal
  producerRunId := producerRunId
  venue := draft.venue
  symbolNative := draft.symbolNative
  gapType := draft.gapType
  detectedAtMs := draft.detectedAtMs
  payload := draft.payload

/-- A record of any family. -/
inductive L0Record (Payload : Type) where
  | raw (record : RawMarketEventRecord Payload)
  | sourceHealth (record : SourceHealthRecord Payload)
  | symbolHealth (record : SymbolHealthRecord Payload)
  | gap (record : GapAlertRecord Payload)

/-- The identifier of a record. -/
def L0Record.id : L0Record Payload → String
  | .raw record => record.eventId
  | .sourceHealth record => record.healthEventId
  | .symbolHealth record => record.symbolHealthEventId
  | .gap record => record.gapId

/-- The record belongs to the raw market events. -/
def L0Record.isRaw : L0Record Payload → Bool
  | .raw _ => true
  | _ => false

/-- The record was appended with the ordinal. -/
def L0Record.HasOrdinal
    (record : L0Record Payload)
    (ordinal : Nat) : Prop :=
  ∃ lead, record.id = lead ++ "_" ++ toString ordinal

/-- A record has only one ordinal. -/
theorem L0Record.HasOrdinal.unique
    {record : L0Record Payload}
    {first second : Nat}
    (hasFirst : record.HasOrdinal first)
    (hasSecond : record.HasOrdinal second) :
    first = second := by
  obtain ⟨firstLead, firstShape⟩ := hasFirst
  obtain ⟨secondLead, secondShape⟩ := hasSecond
  have free (number : Nat) :
      '_' ∉ (toString number).toList :=
    @Text.not_mem_toString_int '_' (by decide) (by decide) number
  have chars :
      firstLead.toList ++ '_' :: (toString first).toList =
        secondLead.toList ++ '_' :: (toString second).toList := by
    have same := congrArg String.toList (firstShape.symm.trans secondShape)
    simpa [String.toList_append] using same
  have numerals :=
    (Text.lastSegment_inj (free first) (free second) chars).2
  have asInts : (first : Int) = second :=
    Text.toString_int_injective (String.toList_inj.mp numerals)
  omega

section Partitions

/-- Where raw market events are filed. -/
structure RawPartitionKey where
  venue : String
  eventType : String
  eventDate : String
  hour : Nat
  shard : Nat
  deriving Repr, DecidableEq

/-- Where health records are filed. -/
structure HealthPartitionKey where
  venue : String
  eventDate : String
  hour : Nat
  shard : Nat
  deriving Repr, DecidableEq

/-- Where symbol health records are filed. -/
abbrev SymbolHealthPartitionKey := HealthPartitionKey

/-- Where gap alerts are filed. -/
structure GapPartitionKey where
  venue : String
  gapType : String
  eventDate : String
  hour : Nat
  shard : Nat
  deriving Repr, DecidableEq

/-- Partitions are ordered field by field. -/
instance : LinearOrder RawPartitionKey :=
  LinearOrder.lift'
    (fun key =>
      toLex (key.venue, toLex (key.eventType, toLex (key.eventDate,
        toLex (key.hour, key.shard)))))
    (by
      rintro ⟨⟩ ⟨⟩ same
      simpa using same)

/-- Partitions are ordered field by field. -/
instance : LinearOrder HealthPartitionKey :=
  LinearOrder.lift'
    (fun key =>
      toLex (key.venue, toLex (key.eventDate,
        toLex (key.hour, key.shard))))
    (by
      rintro ⟨⟩ ⟨⟩ same
      simpa using same)

/-- Partitions are ordered field by field. -/
instance : LinearOrder GapPartitionKey :=
  LinearOrder.lift'
    (fun key =>
      toLex (key.venue, toLex (key.gapType, toLex (key.eventDate,
        toLex (key.hour, key.shard)))))
    (by
      rintro ⟨⟩ ⟨⟩ same
      simpa using same)

/-- The shard of a text, given the hash function of the platform. -/
def shardFor
    (hash : String → Nat)
    (value : String)
    (shardCount : Nat) : Nat :=
  hash value % shardCount

/-- The partition of a raw market event. -/
def rawPartitionFor
    (hash : String → Nat)
    (record : RawMarketEventRecord Payload)
    (shardCount : Nat) : RawPartitionKey :=
  let parts := Normalize.timePart record.exchangeTimestampMs
  { venue := record.venue
    eventType := record.eventType
    eventDate := parts.eventDate
    hour := parts.hour
    shard := shardFor hash record.symbolNative shardCount }

/-- The partition of a source health record. -/
def healthPartitionFor
    (hash : String → Nat)
    (record : SourceHealthRecord Payload)
    (shardCount : Nat) : HealthPartitionKey :=
  let parts := Normalize.timePart record.observedAtMs
  { venue := record.venue
    eventDate := parts.eventDate
    hour := parts.hour
    shard := shardFor hash record.venue shardCount }

/-- The partition of a symbol health record. -/
def symbolHealthPartitionFor
    (hash : String → Nat)
    (record : SymbolHealthRecord Payload)
    (shardCount : Nat) : SymbolHealthPartitionKey :=
  let parts := Normalize.timePart record.observedAtMs
  { venue := record.venue
    eventDate := parts.eventDate
    hour := parts.hour
    shard := shardFor hash record.symbolNative shardCount }

/-- The partition of a gap alert. -/
def gapPartitionFor
    (hash : String → Nat)
    (record : GapAlertRecord Payload)
    (shardCount : Nat) : GapPartitionKey :=
  let parts := Normalize.timePart record.detectedAtMs
  { venue := record.venue
    gapType := record.gapType
    eventDate := parts.eventDate
    hour := parts.hour
    shard := shardFor hash record.symbolNative shardCount }

/-- The part of an object key below the date, common to all families. -/
def objectKeyTail
    (eventDate : String)
    (hour shard : Nat)
    (runId : String)
    (partNumber : Nat) : String :=
  "/event_date=" ++ eventDate ++ "/hour=" ++ Text.zeroPadded 2 hour ++
    "/shard=" ++ Text.zeroPadded 2 shard ++ "/run_id=" ++ runId ++
    "-part-" ++ Text.zeroPadded 6 partNumber ++ ".parquet"

/-- Key of an object of raw market events. -/
def rawObjectKey
    (partition : RawPartitionKey)
    (runId : String)
    (partNumber : Nat) : String :=
  "raw_market_event/venue=" ++ partition.venue ++ "/event_type=" ++
    partition.eventType ++
    objectKeyTail partition.eventDate partition.hour partition.shard
      runId partNumber

/-- Key of an object of source health records. -/
def healthObjectKey
    (partition : HealthPartitionKey)
    (runId : String)
    (partNumber : Nat) : String :=
  "source_health/venue=" ++ partition.venue ++
    objectKeyTail partition.eventDate partition.hour partition.shard
      runId partNumber

/-- Key of an object of symbol health records. -/
def symbolHealthObjectKey
    (partition : SymbolHealthPartitionKey)
    (runId : String)
    (partNumber : Nat) : String :=
  "symbol_health/venue=" ++ partition.venue ++
    objectKeyTail partition.eventDate partition.hour partition.shard
      runId partNumber

/-- Key of an object of gap alerts. -/
def gapObjectKey
    (partition : GapPartitionKey)
    (runId : String)
    (partNumber : Nat) : String :=
  "gap_alert/venue=" ++ partition.venue ++ "/gap_type=" ++
    partition.gapType ++
    objectKeyTail partition.eventDate partition.hour partition.shard
      runId partNumber

end Partitions

end MarketIngest.Storage
