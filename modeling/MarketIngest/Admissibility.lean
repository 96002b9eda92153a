import MarketIngest.IndexPointer

namespace MarketIngest.Normalize

open S3

/-!
# Admissibility of index pointers

A reader parses the pointer of a window and accepts it only if the pointer has
the expected schemas, belongs to a successful run and covers the range that the
reader asks for.
-/

/-- A parsed index pointer. -/
structure L1IndexPointer where
  schemaVersion : String
  canonicalManifestKey : String
  l1RunId : String
  status : String
  finishedAtMs : Int
  inputTimeRangeStartMs : Int
  inputTimeRangeEndMs : Int
  indexedWindowStartMs : Option Int
  indexedWindowEndMs : Option Int
  schemaVersionEmitted : String
  deriving Repr, DecidableEq

/-- Parse a pointer; the indexed window is optional. -/
def L1IndexPointer.fromJson
    (document : JsonDocument) : Option L1IndexPointer := do
  let schemaVersion ← document.asStr "schema_version"
  let canonicalManifestKey ← document.asStr "canonical_manifest_key"
  let l1RunId ← document.asStr "l1_run_id"
  let status ← document.asStr "status"
  let finishedAtMs ← document.asI64 "finished_at_ms"
  let inputTimeRangeStartMs ←
    document.asI64 "input_time_range_start_ms"
  let inputTimeRangeEndMs ← document.asI64 "input_time_range_end_ms"
  let schemaVersionEmitted ← document.asStr "schema_version_emitted"
  return {
    schemaVersion := schemaVersion
    canonicalManifestKey := canonicalManifestKey
    l1RunId := l1RunId
    status := status
    finishedAtMs := finishedAtMs
    inputTimeRangeStartMs := inputTimeRangeStartMs
    inputTimeRangeEndMs := inputTimeRangeEndMs
    indexedWindowStartMs := document.asI64 "indexed_window_start_ms"
    indexedWindowEndMs := document.asI64 "indexed_window_end_ms"
    schemaVersionEmitted := schemaVersionEmitted
  }

/-- What a reader asks for. -/
structure L1ReadRequest where
  inputRange : InputRange
  schemaVersionEmitted : String
  deriving Repr, DecidableEq

/-- A request for slices of the current schema. -/
def L1ReadRequest.normalizedMarketSlice
    (inputRange : InputRange) : L1ReadRequest where
  inputRange := inputRange
  schemaVersionEmitted := sliceSchemaVersion

/-- Why a run is not admissible. -/
inductive L1AdmissibilityError where
  | pointerSchemaMismatch (actual : String)
  | pointerNotSuccess (status : String)
  | pointerSchemaEmittedMismatch (actual expected : String)
  | pointerTimeRangeMismatch
      (actualStartMs actualEndMs expectedStartMs expectedEndMs : Int)
  | manifestSchemaMismatch (actual : String)
  | manifestRunIdMismatch (pointerRunId manifestRunId : String)
  | manifestNotSuccess (status : String)
  | manifestSchemaEmittedMismatch (actual expected : String)
  | manifestTimeRangeMismatch
      (actualStartMs actualEndMs expectedStartMs expectedEndMs : Int)
  | manifestHasNoOutputObjects
  | manifestRecordCountMismatch (outputRecordCount sliceCountTotal : Nat)
  | reportSchemaMismatch (actual : String)
  | reportRunIdMismatch (reportRunId manifestRunId : String)
  | reportStatusMismatch (reportStatus manifestStatus : String)
  | reportTimeRangeMismatch
      (reportStartMs reportEndMs manifestStartMs manifestEndMs : Int)
  | reportSchemaEmittedMismatch (reportSchema manifestSchema : String)
  | reportManifestKeyMismatch (reportManifestKey manifestKey : String)
  | reportOutputObjectsMismatch
  | reportProjectionObjectsMismatch
  deriving Repr, DecidableEq

/-- The actual range covers the expected one. -/
def validateTimeRange
    (actualStartMs actualEndMs : Int)
    (expected : InputRange) : Except (Int × Int × Int × Int) Unit :=
  if actualStartMs ≤ expected.startMs ∧ actualEndMs ≥ expected.endMs then
    .ok ()
  else
    .error (actualStartMs, actualEndMs, expected.startMs, expected.endMs)

/-- Accept or reject a pointer for a request. -/
def validatePointer
    (pointer : L1IndexPointer)
    (request : L1ReadRequest) : Except L1AdmissibilityError Unit :=
  if pointer.schemaVersion ≠ pointerSchemaVersion then
    .error (.pointerSchemaMismatch pointer.schemaVersion)
  else if pointer.status ≠ "success" then
    .error (.pointerNotSuccess pointer.status)
  else if pointer.schemaVersionEmitted ≠ request.schemaVersionEmitted then
    .error (.pointerSchemaEmittedMismatch pointer.schemaVersionEmitted
      request.schemaVersionEmitted)
  else
    match validateTimeRange pointer.inputTimeRangeStartMs
        pointer.inputTimeRangeEndMs request.inputRange with
    | .ok () => .ok ()
    | .error (actualStartMs, actualEndMs, expectedStartMs, expectedEndMs) =>
        .error (.pointerTimeRangeMismatch actualStartMs actualEndMs
          expectedStartMs expectedEndMs)

/-- A written pointer parses to the values it was written from. -/
theorem fromJson_indexPointerJson
    (manifestKey l1RunId status : String)
    (finishedAtMs : Int)
    (inputRange : InputRange)
    (indexedWindowStartMs windowMs : Int) :
    L1IndexPointer.fromJson
        (indexPointerJson manifestKey l1RunId status finishedAtMs
          inputRange indexedWindowStartMs windowMs) =
      some
        { schemaVersion := pointerSchemaVersion
          canonicalManifestKey := manifestKey
          l1RunId := l1RunId
          status := status
          finishedAtMs := finishedAtMs
          inputTimeRangeStartMs := inputRange.startMs
          inputTimeRangeEndMs := inputRange.endMs
          indexedWindowStartMs := some indexedWindowStartMs
          indexedWindowEndMs :=
            some (saturatingAdd indexedWindowStartMs windowMs)
          schemaVersionEmitted := sliceSchemaVersion } := by
  simp [L1IndexPointer.fromJson, indexPointerJson, JsonDocument.asStr,
    JsonDocument.asI64, List.lookup_cons]

/-- A reader of a range would accept the stored pointer. -/
def acceptedBy
    (request : L1ReadRequest)
    (document : JsonDocument) : Bool :=
  match L1IndexPointer.fromJson document with
  | none => false
  | some pointer => validatePointer pointer request matches .ok ()

/-- Inside its range, a written pointer is accepted exactly if successful. -/
theorem acceptedBy_indexPointerJson
    {manifestKey l1RunId status : String}
    {finishedAtMs : Int}
    {inputRange request : InputRange}
    {indexedWindowStartMs windowMs : Int}
    (startCovered : inputRange.startMs ≤ request.startMs)
    (endCovered : request.endMs ≤ inputRange.endMs) :
    acceptedBy (.normalizedMarketSlice request)
        (indexPointerJson manifestKey l1RunId status finishedAtMs
          inputRange indexedWindowStartMs windowMs) =
      decide (status = "success") := by
  unfold acceptedBy
  rw [fromJson_indexPointerJson]
  by_cases success : status = "success"
  · simp [validatePointer, validateTimeRange, success, startCovered,
      endCovered, L1ReadRequest.normalizedMarketSlice]
  · simp [validatePointer, success]

end MarketIngest.Normalize
