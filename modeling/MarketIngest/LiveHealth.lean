import MarketIngest.L0Columns
import MarketIngest.Saturating
import MarketIngest.WireJson

namespace MarketIngest.Live

open Normalize (JsonValue)
open Parquet (GapAlertDraft L0Draft SourceHealthDraft SymbolHealthDraft)
open Wire

/-!
# The health that a worker leaves behind

At the end of a run a worker stores the health of its source, the health of
every symbol it saw, and the gap alerts it kept.  Both venues judge health in
the same way, by some of their statistics.
-/

/-- The statistics that health is judged by. -/
structure HealthView where
  venue : String
  sourceRole : String
  sourceHealthStatus : String
  receivedMessages : Nat
  malformedMessages : Nat
  gapAlertCount : Nat
  lastIngestTimestampMs : Option Int
  latestStreamLagMs : Int
  symbols : List String
  symbolLastEventTimeMs : OrderedMap String Int
  symbolLastIngestTimeMs : OrderedMap String Int

/-- A detected gap, as both venues keep it. -/
structure GapAlert where
  gapType : String
  symbol : String
  detectedAtMs : Int
  expectedSequenceId : Option Int
  observedSequenceId : Option Int
  healAction : String
  healStatus : String
  deriving Repr, DecidableEq

/-- The age from which a symbol is stale. -/
def staleAfterMs : Int :=
  60000

section Drafts

variable
  {Number : Type}
  (codec : WireCodec Number)
  (view : HealthView)

/-- How late the last message is. -/
def heartbeatDelayMsAt (observedAtMs : Int) : Int :=
  match view.lastIngestTimestampMs with
  | some last => max (saturatingSub observedAtMs last) 0
  | none => 0

/-- The level of health of a worker. -/
def healthLevel : String :=
  if view.sourceHealthStatus = "connected" ∧
      view.malformedMessages = 0 ∧
      view.gapAlertCount = 0 then
    "healthy"
  else if view.receivedMessages = 0 then
    "critical"
  else
    "degraded"

/-- The health of one symbol in the payload of the health of the source. -/
def symbolHealthValue
    (observedAtMs : Int)
    (symbol : String) : JsonValue Number :=
  let lastEventTimeMs := view.symbolLastEventTimeMs.get? symbol
  let lastReceivedTimeMs := view.symbolLastIngestTimeMs.get? symbol
  let latencyMs := do
    let event ← lastEventTimeMs
    let received ← lastReceivedTimeMs
    some (max (saturatingSub received event) 0)
  let staleMs :=
    (lastReceivedTimeMs.map fun received =>
      max (saturatingSub observedAtMs received) 0).getD 0
  jsonObject
    [("symbol_native", .text symbol),
      ("last_event_time_ms", codec.optionalInteger lastEventTimeMs),
      ("last_received_time_ms", codec.optionalInteger lastReceivedTimeMs),
      ("latency_ms", codec.optionalInteger latencyMs),
      ("stale_ms", codec.integer staleMs),
      ("is_tradeable",
        .bool (staleMs < staleAfterMs ∧ view.gapAlertCount = 0)),
      ("reason_codes",
        .array
          (if staleAfterMs ≤ staleMs then [.text "source_stale"] else []))]

/-- The health of all symbols that were seen. -/
def symbolHealthPayload (observedAtMs : Int) : JsonValue Number :=
  .array (view.symbols.map (symbolHealthValue codec view observedAtMs))

/-- The draft of the health of the source. -/
def sourceHealthDraft
    (observedAtMs : Int)
    (payload : JsonValue Number) : SourceHealthDraft where
  venue := view.venue
  sourceRole := view.sourceRole
  observedAtMs := observedAtMs
  connectionStatus := view.sourceHealthStatus
  heartbeatDelayMs := heartbeatDelayMsAt view observedAtMs
  streamLagMs := view.latestStreamLagMs
  recentGapCount := view.gapAlertCount
  bookRebuildCount := 0
  healthLevel := healthLevel view
  payloadJson := codec.toString payload

/-- The draft of the health of one symbol. -/
def symbolHealthDraft
    (observedAtMs : Int)
    (symbol : String) : SymbolHealthDraft :=
  let lastEventTimeMs :=
    (view.symbolLastEventTimeMs.get? symbol).getD observedAtMs
  let lastReceivedTimeMs :=
    (view.symbolLastIngestTimeMs.get? symbol).getD observedAtMs
  let staleMs := max (saturatingSub observedAtMs lastReceivedTimeMs) 0
  let reasonCodes :=
    (if staleAfterMs ≤ staleMs then ["source_stale"] else []) ++
      if view.gapAlertCount > 0 then ["source_gap_detected"] else []
  { venue := view.venue
    symbolNative := symbol
    observedAtMs := observedAtMs
    lastEventTimeMs := lastEventTimeMs
    latencyMs := max (saturatingSub lastReceivedTimeMs lastEventTimeMs) 0
    isTradeable := reasonCodes.isEmpty
    reasonCodes := reasonCodes }

/-- A gap alert as it is written in its payload. -/
def gapAlertValue (alert : GapAlert) : JsonValue Number :=
  .object
    [("gap_type", .text alert.gapType),
      ("symbol", .text alert.symbol),
      ("detected_at_ms", codec.integer alert.detectedAtMs),
      ("expected_sequence_id",
        codec.optionalInteger alert.expectedSequenceId),
      ("observed_sequence_id",
        codec.optionalInteger alert.observedSequenceId),
      ("heal_action", .text alert.healAction),
      ("heal_status", .text alert.healStatus)]

/-- The draft of a gap alert. -/
def gapAlertDraft (alert : GapAlert) : GapAlertDraft where
  venue := view.venue
  sourceRole := view.sourceRole
  symbolNative := alert.symbol
  gapType := alert.gapType
  detectedAtMs := alert.detectedAtMs
  expectedSequenceId := alert.expectedSequenceId
  observedSequenceId := alert.observedSequenceId
  healAction := alert.healAction
  healStatus := alert.healStatus
  payloadJson := codec.toString (gapAlertValue codec alert)

/-- The drafts that a worker appends at the end, in their order. -/
def finalDrafts
    (alerts : List GapAlert)
    (sourceObservedAtMs symbolsObservedAtMs : Int)
    (payload : JsonValue Number) : List L0Draft :=
  .sourceHealth (sourceHealthDraft codec view sourceObservedAtMs payload) ::
    (view.symbols.map fun symbol =>
      .symbolHealth (symbolHealthDraft view symbolsObservedAtMs symbol)) ++
    alerts.map fun alert => .gap (gapAlertDraft codec view alert)

end Drafts

end MarketIngest.Live
