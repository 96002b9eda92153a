import MarketIngest.IndexPointer

namespace MarketIngest.Supervisor

open S3 Normalize

/-!
# Bootstrap chunks and their markers

History is loaded in chunks.  A chunk is backfilled into L0, which a first
marker records, and then normalized in subchunks of the schedule interval, after
which a second marker records that the chunk is complete.  Both markers and the
index pointers are objects of the L1 bucket.
-/

/-- Accepted arguments of the supervisor that the bootstrap uses. -/
structure SupervisorArgs where
  l0S3Bucket : String
  l1S3Bucket : String
  expectSymbolCount : PositiveUsize
  l0SpoolRoot : String
  l0FlushRecords : PositiveUsize
  l0ShardCount : { value : Nat // 0 < value ∧ value < 65536 }
  bootstrapSymbols : Option (List String)
  normalizeScheduleIntervalMs : PositiveI64
  l0RunKeyOverlapMs : PositiveI64
  normalizeMaxWindowsPerTick : PositiveUsize

/-- The defaults, with bucket names as the command line requires them. -/
def SupervisorArgs.withBuckets
    (l0S3Bucket l1S3Bucket : String) : SupervisorArgs where
  l0S3Bucket := l0S3Bucket
  l1S3Bucket := l1S3Bucket
  expectSymbolCount := ⟨50, by decide⟩
  l0SpoolRoot := "/opt/nangman-crypto/data/spool/market-ingest/l0"
  l0FlushRecords := ⟨1000, by decide⟩
  l0ShardCount := ⟨1, by decide⟩
  bootstrapSymbols := none
  normalizeScheduleIntervalMs := defaultScheduleIntervalMs
  l0RunKeyOverlapMs := defaultL0RunKeyOverlapMs
  normalizeMaxWindowsPerTick := defaultMaxWindowsPerTick

/-- A range of history that is loaded as a whole. -/
structure BootstrapChunk where
  startMs : Int
  endMs : Int
  deriving Repr, DecidableEq

/-- The range of a chunk. -/
def BootstrapChunk.range (chunk : BootstrapChunk) : InputRange where
  startMs := chunk.startMs
  endMs := chunk.endMs

/-- The loop over subchunks, with a bound on its rounds. -/
def normalizeSubchunksFrom
    (intervalMs endMs : Int) :
    Nat → Int → List BootstrapChunk
  | 0, _ => []
  | rounds + 1, cursor =>
      if cursor < endMs then
        let subEndMs := min (saturatingAdd cursor intervalMs) endMs
        if subEndMs ≤ cursor then
          []
        else
          { startMs := cursor, endMs := subEndMs } ::
            normalizeSubchunksFrom intervalMs endMs rounds subEndMs
      else
        []

/-- The subchunks of a chunk. -/
def normalizeSubchunks
    (args : SupervisorArgs)
    (chunk : BootstrapChunk) : List BootstrapChunk :=
  let intervalMs : Int := args.normalizeScheduleIntervalMs
  if intervalMs ≤ 0 ∨ chunk.endMs ≤ chunk.startMs then
    []
  else
    normalizeSubchunksFrom intervalMs chunk.endMs
      (chunk.endMs - chunk.startMs).toNat chunk.startMs

/-- Key of the marker that a chunk was backfilled. -/
def l0MarkerKey (chunk : BootstrapChunk) : String :=
  "supervisor/bootstrap/venue=binance/start_ms=" ++
    (toString chunk.startMs ++ ("/end_ms=" ++
      (toString chunk.endMs ++ "/success.json")))

/-- Key of the marker that a chunk is complete. -/
def completeMarkerKey (chunk : BootstrapChunk) : String :=
  "supervisor/bootstrap/venue=binance/start_ms=" ++
    (toString chunk.startMs ++ ("/end_ms=" ++
      (toString chunk.endMs ++ "/complete.json")))

/-- The marker that a chunk was backfilled. -/
def l0MarkerJson (chunk : BootstrapChunk) (nowMs : Int) : JsonDocument :=
  [("schema_version", .text "crypto_market_ingest_bootstrap_l0_marker_v1"),
    ("venue", .text "binance"),
    ("input_start_ms", .i64 chunk.startMs),
    ("input_end_ms", .i64 chunk.endMs),
    ("completed_at_ms", .i64 nowMs)]

/-- The marker that a chunk is complete. -/
def completeMarkerJson
    (chunk : BootstrapChunk)
    (nowMs : Int) : JsonDocument :=
  [("schema_version",
      .text "crypto_market_ingest_bootstrap_complete_marker_v1"),
    ("venue", .text "binance"),
    ("input_start_ms", .i64 chunk.startMs),
    ("input_end_ms", .i64 chunk.endMs),
    ("l0_marker_key", .text (l0MarkerKey chunk)),
    ("completed_at_ms", .i64 nowMs)]

/-- The chunk was backfilled. -/
def hasL0Success (bucket : Bucket) (chunk : BootstrapChunk) : Bool :=
  (bucket.get? (l0MarkerKey chunk)).isSome

/-- The chunk is complete. -/
def hasComplete (bucket : Bucket) (chunk : BootstrapChunk) : Bool :=
  (bucket.get? (completeMarkerKey chunk)).isSome

/-- The first pointer of the chunk is of a successful run of its range. -/
def hasL1Success (bucket : Bucket) (chunk : BootstrapChunk) : Bool :=
  match pointerAt bucket 1000 chunk.startMs with
  | none => false
  | some pointer =>
      jsonStatusSuccess pointer &&
        inputTimeRangeStartMs pointer = some chunk.startMs &&
        inputTimeRangeEndMs pointer = some chunk.endMs

section Subchunks

variable {intervalMs endMs : Int}

/-- A subchunk lies at or after the cursor and before the end. -/
private theorem bounds_of_mem_from
    {rounds : Nat}
    {cursor : Int}
    {subchunk : BootstrapChunk}
    (member :
      subchunk ∈ normalizeSubchunksFrom intervalMs endMs rounds cursor) :
    cursor ≤ subchunk.startMs ∧ subchunk.startMs < subchunk.endMs ∧
      subchunk.endMs ≤ endMs := by
  induction rounds generalizing cursor with
  | zero =>
      cases member
  | succ rounds inductionHypothesis =>
      simp only [normalizeSubchunksFrom] at member
      split_ifs at member with below stuck
      · cases member
      · rcases List.mem_cons.mp member with rfl | later
        · simp only
          omega
        · have bounds := inductionHypothesis later
          omega
      · cases member

/-- Subchunks follow each other without overlap. -/
private theorem ordered_from
    (rounds : Nat)
    (cursor : Int) :
    (normalizeSubchunksFrom intervalMs endMs rounds cursor).Pairwise
      (fun first second => first.endMs ≤ second.startMs) := by
  induction rounds generalizing cursor with
  | zero =>
      exact .nil
  | succ rounds inductionHypothesis =>
      simp only [normalizeSubchunksFrom]
      split_ifs with below stuck
      · exact .nil
      · refine .cons ?_ (inductionHypothesis _)
        intro later member
        exact (bounds_of_mem_from member).1
      · exact .nil

/-- Every subchunk is a non-empty part of its chunk. -/
theorem bounds_of_mem_normalizeSubchunks
    {args : SupervisorArgs}
    {chunk subchunk : BootstrapChunk}
    (member : subchunk ∈ normalizeSubchunks args chunk) :
    chunk.startMs ≤ subchunk.startMs ∧
      subchunk.startMs < subchunk.endMs ∧
      subchunk.endMs ≤ chunk.endMs := by
  simp only [normalizeSubchunks] at member
  split_ifs at member
  · cases member
  · exact bounds_of_mem_from member

/-- Subchunks of a chunk follow each other without overlap. -/
theorem normalizeSubchunks_ordered
    (args : SupervisorArgs)
    (chunk : BootstrapChunk) :
    (normalizeSubchunks args chunk).Pairwise
      (fun first second => first.endMs ≤ second.startMs) := by
  simp only [normalizeSubchunks]
  split_ifs
  · exact .nil
  · exact ordered_from _ _

end Subchunks

section Markers

/-- A key below the supervisor's prefix is no pointer key. -/
private theorem pointerKey_ne_supervisorKey
    {windowMs windowStartMs : Int}
    {rest : String} :
    indexPointerKey windowMs windowStartMs ≠
      "supervisor/bootstrap/venue=binance/start_ms=" ++ rest := by
  intro same
  have heads := congrArg (fun key => key.toList.head?) same
  unfold indexPointerKey at heads
  simp [String.toList_append] at heads

/-- Storing a marker leaves the pointers unchanged. -/
theorem pointerAt_uploadJson_l0Marker
    (bucket : Bucket)
    (chunk : BootstrapChunk)
    (document : JsonDocument)
    (put : PutOutcome)
    (windowMs windowStartMs : Int) :
    pointerAt (uploadJson bucket (l0MarkerKey chunk) document put).1
        windowMs windowStartMs =
      pointerAt bucket windowMs windowStartMs :=
  pointerAt_uploadJson_other bucket pointerKey_ne_supervisorKey document put

/-- Storing a marker leaves the pointers unchanged. -/
theorem pointerAt_uploadJson_completeMarker
    (bucket : Bucket)
    (chunk : BootstrapChunk)
    (document : JsonDocument)
    (put : PutOutcome)
    (windowMs windowStartMs : Int) :
    pointerAt (uploadJson bucket (completeMarkerKey chunk) document put).1
        windowMs windowStartMs =
      pointerAt bucket windowMs windowStartMs :=
  pointerAt_uploadJson_other bucket pointerKey_ne_supervisorKey document put

/-- Whether a chunk counts as normalized depends on its first pointer. -/
theorem hasL1Success_congr
    {first second : Bucket}
    {chunk : BootstrapChunk}
    (same :
      pointerAt first 1000 chunk.startMs =
        pointerAt second 1000 chunk.startMs) :
    hasL1Success first chunk = hasL1Success second chunk := by
  simp only [hasL1Success, same]

/-- What the first pointer of a chunk says, when a run wrote it. -/
theorem hasL1Success_of_runPointer
    {bucket : Bucket}
    {chunk : BootstrapChunk}
    {args : NormalizeArgs}
    {range : InputRange}
    {nowMs windowStartMs : Int}
    {status : BuildStatus}
    (found :
      pointerAt bucket 1000 chunk.startMs =
        some (runPointer args range nowMs status windowStartMs)) :
    hasL1Success bucket chunk = true ↔
      status = .success ∧ range = chunk.range := by
  simp only [hasL1Success, found, runPointer,
    jsonStatusSuccess_indexPointerJson,
    inputTimeRangeStartMs_indexPointerJson,
    inputTimeRangeEndMs_indexPointerJson, BuildStatus.asStr_eq_success,
    Bool.and_eq_true, decide_eq_true_eq, Option.some.injEq,
    InputRange.ext_iff, BootstrapChunk.range, and_assoc]

end Markers

end MarketIngest.Supervisor
