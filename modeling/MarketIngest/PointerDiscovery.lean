import MarketIngest.IndexPointer
import MarketIngest.OrderedScan

namespace MarketIngest.Normalize

open S3

/-!
# Finding the frontier

The frontier is not stored.  It is looked up in the index pointers, hour by hour
from the present back, and the first successful pointer decides.  Each hour is
read through one page of its listing, which has the first keys in ascending
order, so in a crowded hour the newest pointers are not seen.
-/

/-- How many hours are looked back. -/
def maxL1PointerLookbackHours : Nat :=
  24 * 90

/-- How many keys of one hour are listed. -/
def l1PointerKeysPerHour : Nat :=
  1000

/-- Requests of one lookup that fail. -/
structure LookupFaults where
  listing : Nat → Bool
  download : String → Bool

/-- Every request of the lookup succeeds. -/
def LookupFaults.none : LookupFaults where
  listing := fun _ => false
  download := fun _ => false

/-- Why a lookup failed. -/
inductive LookupError where
  | listing (offset : Nat)
  | download (key : String)
  deriving Repr, DecidableEq

/-- Fetch one object. -/
def downloadJsonValue
    (faults : LookupFaults)
    (bucket : Bucket)
    (key : String) : Except LookupError JsonDocument :=
  if faults.download key then
    .error (.download key)
  else
    match bucket.get? key with
    | some document => .ok document
    | none => .error (.download key)

/-- Where a pointer says its manifest is. -/
def pointerManifestKey (document : JsonDocument) : Option String :=
  match (document.lookup "canonical_manifest_key").or
      (document.lookup "manifest_key") with
  | some (.text key) => some key
  | _ => none

/-- The end of the run of a pointer, if the run was successful. -/
def successEndMsFromPointer
    (faults : LookupFaults)
    (bucket : Bucket)
    (pointerKey : String) : Except LookupError (Option Int) :=
  match downloadJsonValue faults bucket pointerKey with
  | .error failure => .error failure
  | .ok pointer =>
      if !jsonStatusSuccess pointer then
        .ok none
      else
        match inputTimeRangeEndMs pointer with
        | some endMs => .ok (some endMs)
        | none =>
            match pointerManifestKey pointer with
            | none => .ok none
            | some manifestKey =>
                match downloadJsonValue faults bucket manifestKey with
                | .error failure => .error failure
                | .ok manifest =>
                    if !jsonStatusSuccess manifest then
                      .ok none
                    else
                      .ok (inputTimeRangeEndMs manifest)

/-- Keys of JSON objects, greatest first. -/
def jsonKeysDesc (keys : List String) : List String :=
  (keys.filter (fun key => Text.endsWith key ".json")).mergeSort
    (fun left right => decide (right ≤ left))

/-- The first successful pointer among some keys. -/
def firstSuccessEnd
    (faults : LookupFaults)
    (bucket : Bucket) :
    List String → Except LookupError (Option Int)
  | [] => .ok none
  | pointerKey :: rest =>
      match successEndMsFromPointer faults bucket pointerKey with
      | .error failure => .error failure
      | .ok (some endMs) => .ok (some endMs)
      | .ok none => firstSuccessEnd faults bucket rest

/-- The start of an hour that is looked at. -/
def lookbackHourStartMs (nowMs : Int) (offset : Nat) : Int :=
  saturatingSub (floorHourMs nowMs) (saturatingMul offset hourMs)

/-- The listed pointer keys of one hour, in the order they are tried. -/
def listedPointerKeys
    (bucket : Bucket)
    (windowMs nowMs : Int)
    (offset : Nat) : List String :=
  jsonKeysDesc
    (listKeysPage bucket
      (l1PointerHourPrefix windowMs (lookbackHourStartMs nowMs offset))
      l1PointerKeysPerHour)

/-- Search some hours for a successful pointer. -/
def resolveHours
    (faults : LookupFaults)
    (bucket : Bucket)
    (windowMs nowMs : Int) :
    List Nat → Except LookupError (Option Int)
  | [] => .ok none
  | offset :: rest =>
      if faults.listing offset then
        .error (.listing offset)
      else
        match firstSuccessEnd faults bucket
            (listedPointerKeys bucket windowMs nowMs offset) with
        | .error failure => .error failure
        | .ok (some endMs) => .ok (some endMs)
        | .ok none => resolveHours faults bucket windowMs nowMs rest

/-- The end of the most recent successful run, read from the pointers. -/
def resolveLastL1SuccessEndMs
    (faults : LookupFaults)
    (bucket : Bucket)
    (windowMs nowMs : Int) : Except LookupError (Option Int) :=
  resolveHours faults bucket windowMs nowMs
    (List.range maxL1PointerLookbackHours)

/-- A failed lookup counts as no successful run. -/
def resolveL1SuccessEndMsOrWarn
    (faults : LookupFaults)
    (bucket : Bucket)
    (windowMs nowMs : Int) : Option Int :=
  match resolveLastL1SuccessEndMs faults bucket windowMs nowMs with
  | .ok value => value
  | .error _ => none

/-- A frontier that a tick continues from was found by the lookup. -/
theorem resolveL1SuccessEndMsOrWarn_eq_some_iff
    {faults : LookupFaults}
    {bucket : Bucket}
    {windowMs nowMs endMs : Int} :
    resolveL1SuccessEndMsOrWarn faults bucket windowMs nowMs =
        some endMs ↔
      resolveLastL1SuccessEndMs faults bucket windowMs nowMs =
        .ok (some endMs) := by
  unfold resolveL1SuccessEndMsOrWarn
  generalize resolveLastL1SuccessEndMs faults bucket windowMs nowMs =
    result
  cases result with
  | ok value => simp
  | error failure => simp

/-- The frontier and, only without one, the oldest L0 object. -/
def resolveInitialL0L1State
    (lastL1SuccessEndMs oldestL0ObjectMs : Option Int) :
    Option Int × Option Int :=
  (lastL1SuccessEndMs,
    if lastL1SuccessEndMs.isNone then oldestL0ObjectMs else none)

/-- A pointer as publication writes it. -/
structure PublishedPointer where
  manifestKey : String
  l1RunId : String
  status : BuildStatus
  finishedAtMs : Int
  inputRange : InputRange
  windowMs : Int
  windowStartMs : Int
  published : status ≠ .blocked
  inRange : windowStartMs ∈ indexWindowStarts inputRange windowMs

namespace PublishedPointer

/-- Where the pointer is stored. -/
def key (pointer : PublishedPointer) : String :=
  indexPointerKey pointer.windowMs pointer.windowStartMs

/-- The stored document. -/
def document (pointer : PublishedPointer) : JsonDocument :=
  indexPointerJson pointer.manifestKey pointer.l1RunId
    pointer.status.asStr pointer.finishedAtMs pointer.inputRange
    pointer.windowStartMs pointer.windowMs

/-- The pointer is the current object under its key. -/
def StoredIn
    (pointer : PublishedPointer)
    (bucket : Bucket) : Prop :=
  bucket.get? pointer.key = some pointer.document

end PublishedPointer

/-- Everything below the index prefix was written by publication. -/
def PointerBucket (bucket : Bucket) : Prop :=
  ∀ key document,
    bucket.get? key = some document →
    Text.startsWith key "l1_index/" = true →
    ∃ pointer : PublishedPointer,
      key = pointer.key ∧ document = pointer.document

/-- The empty bucket has no foreign objects below the index prefix. -/
theorem pointerBucket_empty : PointerBucket OrderedMap.empty := by
  intro key document found
  cases found

/-- Runs write nothing but pointers below the index prefix. -/
theorem PointerBucket.runDecision
    {bucket : Bucket}
    (pointers : PointerBucket bucket)
    (args : NormalizeArgs)
    (decision : RunDecision)
    (nowMs : Int)
    (outcome : RunOutcome) :
    PointerBucket (runDecision args decision nowMs outcome bucket).1 := by
  intro key document found below
  by_cases isPointer :
      ∃ windowStartMs, key = indexPointerKey args.windowMs windowStartMs
  · obtain ⟨windowStartMs, rfl⟩ := isPointer
    have stored :=
      runDecision_pointerAt args bucket decision
        nowMs outcome args.windowMs windowStartMs
    rw [pointerAt, found] at stored
    split_ifs at stored with published
    · obtain ⟨reaches, _, inRange, _⟩ := published
      have notBlocked : outcome.build.status ≠ .blocked := by
        simp only [RunOutcome.reachesIndex, Bool.and_eq_true] at reaches
        simpa using reaches.2
      exact
        ⟨{ manifestKey :=
              manifestObjectKey
                (l1RunId decision.inputRange.startMs
                  decision.inputRange.endMs nowMs)
           l1RunId :=
              Normalize.l1RunId decision.inputRange.startMs
                decision.inputRange.endMs nowMs
           status := outcome.build.status
           finishedAtMs := nowMs
           inputRange := decision.inputRange
           windowMs := args.windowMs
           windowStartMs := windowStartMs
           published := notBlocked
           inRange := inRange },
          rfl, Option.some.inj stored⟩
    · exact pointers _ _ stored.symm below
  · have unchanged :=
      runDecision_get?_other bucket
        (fun windowStartMs same => isPointer ⟨windowStartMs, same⟩)
        below decision nowMs outcome
    rw [found] at unchanged
    exact pointers _ _ unchanged.symm below

section Listing

variable
  {bucket : Bucket}
  {windowMs nowMs : Int}

/-- The listed keys of an hour are tried in descending order. -/
theorem listedPointerKeys_descending
    (offset : Nat) :
    (listedPointerKeys bucket windowMs nowMs offset).Pairwise
      (fun left right => right < left) := by
  have ascending :
      ((listKeysPage bucket
          (l1PointerHourPrefix windowMs
            (lookbackHourStartMs nowMs offset))
          l1PointerKeysPerHour).filter
        (fun key => Text.endsWith key ".json")).Pairwise (· < ·) :=
    ((bucket.keys_ascending.filter _).sublist
      (List.take_sublist _ _)).filter _
  unfold listedPointerKeys jsonKeysDesc
  rw [OrderedScan.mergeSort_descending ascending, List.pairwise_reverse]
  exact ascending

/-- A key is listed if few enough keys of its hour precede it. -/
theorem mem_listedPointerKeys_iff
    {offset : Nat}
    {key : String} :
    key ∈ listedPointerKeys bucket windowMs nowMs offset ↔
      key ∈ bucket.keys ∧
        Text.startsWith key
            (l1PointerHourPrefix windowMs
              (lookbackHourStartMs nowMs offset)) =
          true ∧
        Text.endsWith key ".json" = true ∧
        ((bucket.keys.filter (fun other =>
            Text.startsWith other
              (l1PointerHourPrefix windowMs
                (lookbackHourStartMs nowMs offset)))).filter
          (fun other => other < key)).length <
            l1PointerKeysPerHour := by
  unfold listedPointerKeys jsonKeysDesc listKeysPage
  rw [List.mem_mergeSort, List.mem_filter,
    OrderedScan.mem_take_iff (bucket.keys_ascending.filter _),
    List.mem_filter]
  constructor
  · rintro ⟨⟨⟨stored, below⟩, few⟩, json⟩
    exact ⟨stored, below, json, few⟩
  · rintro ⟨stored, below, json, few⟩
    exact ⟨⟨⟨stored, below⟩, few⟩, json⟩

/-- Keys listed for an hour lie below the index prefix. -/
theorem startsWith_index_of_mem
    {offset : Nat}
    {key : String}
    (member : key ∈ listedPointerKeys bucket windowMs nowMs offset) :
    Text.startsWith key "l1_index/" = true := by
  have below := (mem_listedPointerKeys_iff.mp member).2.1
  rw [Text.startsWith_iff] at below ⊢
  refine List.IsPrefix.trans ?_ below
  unfold l1PointerHourPrefix
  rw [String.toList_append]
  exact List.IsPrefix.trans (by decide) (List.prefix_append _ _)

end Listing

section Search

variable
  {bucket : Bucket}
  {windowMs nowMs : Int}

/-- The end of a stored pointer's run, if the run was successful. -/
def PublishedPointer.successEnd (pointer : PublishedPointer) : Option Int :=
  if pointer.status = .success then some pointer.inputRange.endMs else none

/-- Reading a stored pointer needs no second object. -/
theorem successEndMsFromPointer_of_stored
    {pointer : PublishedPointer}
    (stored : pointer.StoredIn bucket)
    (faults : LookupFaults) :
    successEndMsFromPointer faults bucket pointer.key =
      if faults.download pointer.key then
        .error (.download pointer.key)
      else
        .ok pointer.successEnd := by
  unfold successEndMsFromPointer downloadJsonValue
  rw [stored]
  by_cases fails : faults.download pointer.key = true
  · simp [fails]
  · by_cases success : pointer.status = .success
    · simp [fails, PublishedPointer.document,
        PublishedPointer.successEnd, success]
    · simp [fails, PublishedPointer.document,
        PublishedPointer.successEnd, success]

/-- A listed key is the key of a stored pointer. -/
theorem exists_stored_of_mem
    (pointers : PointerBucket bucket)
    {offset : Nat}
    {key : String}
    (member : key ∈ listedPointerKeys bucket windowMs nowMs offset) :
    ∃ pointer : PublishedPointer,
      pointer.key = key ∧ pointer.StoredIn bucket := by
  obtain ⟨document, found⟩ :=
    OrderedMap.mem_keys_iff.mp (mem_listedPointerKeys_iff.mp member).1
  obtain ⟨pointer, rfl, rfl⟩ :=
    pointers key document found (startsWith_index_of_mem member)
  exact ⟨pointer, rfl, found⟩

/-- The end that reading a key yields. -/
def storedSuccessEnd (bucket : Bucket) (key : String) : Option Int :=
  match successEndMsFromPointer .none bucket key with
  | .ok value => value
  | .error _ => none

/-- Without failing requests a stored pointer is read as it is. -/
theorem successEndMsFromPointer_none
    {pointer : PublishedPointer}
    (stored : pointer.StoredIn bucket) :
    successEndMsFromPointer .none bucket pointer.key =
      .ok pointer.successEnd := by
  simpa [LookupFaults.none] using
    successEndMsFromPointer_of_stored stored .none

theorem storedSuccessEnd_of_stored
    {pointer : PublishedPointer}
    (stored : pointer.StoredIn bucket) :
    storedSuccessEnd bucket pointer.key = pointer.successEnd := by
  simp [storedSuccessEnd, successEndMsFromPointer_none stored]

/-- Trying stored pointers in order finds the first successful one. -/
private theorem firstSuccessEnd_eq
    {keys : List String}
    (stored :
      ∀ key ∈ keys, ∃ pointer : PublishedPointer,
        pointer.key = key ∧ pointer.StoredIn bucket) :
    firstSuccessEnd .none bucket keys =
      .ok (keys.findSome? (storedSuccessEnd bucket)) := by
  induction keys with
  | nil =>
      rfl
  | cons head rest inductionHypothesis =>
      obtain ⟨pointer, rfl, pointerStored⟩ := stored head (by simp)
      rw [firstSuccessEnd, successEndMsFromPointer_none pointerStored,
        List.findSome?_cons, storedSuccessEnd_of_stored pointerStored]
      cases pointer.successEnd with
      | none =>
          exact inductionHypothesis
            (fun key member =>
              stored key (List.mem_cons_of_mem _ member))
      | some endMs =>
          rfl

/-- Without failing requests the lookup searches hour by hour. -/
theorem resolveHours_eq
    (pointers : PointerBucket bucket)
    (offsets : List Nat) :
    resolveHours .none bucket windowMs nowMs offsets =
      .ok (offsets.findSome? (fun offset =>
        (listedPointerKeys bucket windowMs nowMs offset).findSome?
          (storedSuccessEnd bucket))) := by
  induction offsets with
  | nil =>
      rfl
  | cons head rest inductionHypothesis =>
      have hour :=
        firstSuccessEnd_eq
          (fun key
              (member :
                key ∈ listedPointerKeys bucket windowMs nowMs head) =>
            exists_stored_of_mem pointers member)
      rw [resolveHours, hour, List.findSome?_cons]
      simp only [LookupFaults.none, Bool.false_eq_true, ↓reduceIte]
      cases (listedPointerKeys bucket windowMs nowMs head).findSome?
          (storedSuccessEnd bucket) with
      | none =>
          exact inductionHypothesis
      | some endMs =>
          rfl

/-- A search of stored keys, with failing requests, is sound. -/
private theorem firstSuccessEnd_sound
    {faults : LookupFaults}
    {keys : List String}
    (stored :
      ∀ key ∈ keys, ∃ pointer : PublishedPointer,
        pointer.key = key ∧ pointer.StoredIn bucket)
    {endMs : Int}
    (found : firstSuccessEnd faults bucket keys = .ok (some endMs)) :
    ∃ pointer : PublishedPointer,
      pointer.key ∈ keys ∧ pointer.StoredIn bucket ∧
        pointer.status = .success ∧
        pointer.inputRange.endMs = endMs := by
  induction keys with
  | nil =>
      simp [firstSuccessEnd] at found
  | cons head rest inductionHypothesis =>
      have stepDown
          (later : firstSuccessEnd faults bucket rest = .ok (some endMs)) :
          ∃ pointer : PublishedPointer,
            pointer.key ∈ head :: rest ∧ pointer.StoredIn bucket ∧
              pointer.status = .success ∧
              pointer.inputRange.endMs = endMs := by
        obtain ⟨pointer, member, facts⟩ :=
          inductionHypothesis
            (fun key member =>
              stored key (List.mem_cons_of_mem _ member)) later
        exact ⟨pointer, List.mem_cons_of_mem _ member, facts⟩
      obtain ⟨pointer, rfl, pointerStored⟩ := stored head (by simp)
      rw [firstSuccessEnd,
        successEndMsFromPointer_of_stored pointerStored] at found
      by_cases fails : faults.download pointer.key = true
      · simp [fails] at found
      · by_cases success : pointer.status = .success
        · simp only [fails, PublishedPointer.successEnd, success,
            Bool.false_eq_true, ↓reduceIte, Except.ok.injEq,
            Option.some.injEq] at found
          exact ⟨pointer, by simp, pointerStored, success, found⟩
        · simp only [fails, PublishedPointer.successEnd, success,
            Bool.false_eq_true, ↓reduceIte] at found
          exact stepDown found

/-- A frontier, also with failing requests, is the end of a stored run. -/
theorem resolveLastL1SuccessEndMs_sound
    (pointers : PointerBucket bucket)
    {faults : LookupFaults}
    {endMs : Int}
    (found :
      resolveLastL1SuccessEndMs faults bucket windowMs nowMs =
        .ok (some endMs)) :
    ∃ pointer : PublishedPointer,
      pointer.windowMs = windowMs ∧ pointer.StoredIn bucket ∧
        pointer.status = .success ∧
        pointer.inputRange.endMs = endMs := by
  unfold resolveLastL1SuccessEndMs at found
  generalize List.range maxL1PointerLookbackHours = offsets at found
  induction offsets with
  | nil =>
      simp [resolveHours] at found
  | cons head rest inductionHypothesis =>
      rw [resolveHours] at found
      split_ifs at found
      split at found
      · cases found
      · rename_i hourFound
        obtain ⟨pointer, member, stored, success, sameEnd⟩ :=
          firstSuccessEnd_sound
            (fun key member => exists_stored_of_mem pointers member)
            hourFound
        have below := (mem_listedPointerKeys_iff.mp member).2.1
        refine ⟨pointer, ?_, stored, success, ?_⟩
        · exact (indexPointerKey_startsWith_iff.mp below).1.symm
        · rw [sameEnd]
          simpa using found
      · exact inductionHypothesis found

/-- A download that succeeds despite failing requests is not affected. -/
private theorem downloadJsonValue_of_ok
    {faults : LookupFaults}
    {key : String}
    {document : JsonDocument}
    (found : downloadJsonValue faults bucket key = .ok document) :
    downloadJsonValue .none bucket key = .ok document := by
  unfold downloadJsonValue at found ⊢
  split_ifs at found
  simpa [LookupFaults.none] using found

/-- Reading a pointer that succeeds is not affected by failing requests. -/
private theorem successEndMsFromPointer_of_ok
    {faults : LookupFaults}
    {key : String}
    {value : Option Int}
    (found : successEndMsFromPointer faults bucket key = .ok value) :
    successEndMsFromPointer .none bucket key = .ok value := by
  unfold successEndMsFromPointer at found ⊢
  split at found
  · cases found
  · rename_i pointer downloaded
    rw [downloadJsonValue_of_ok downloaded]
    simp only at found ⊢
    split_ifs at found ⊢
    · exact found
    · split at found
      · exact found
      · split at found
        · exact found
        · split at found
          · cases found
          · rename_i manifest manifestDownloaded
            rw [downloadJsonValue_of_ok manifestDownloaded]
            exact found

/-- A search that succeeds is not affected by failing requests. -/
private theorem firstSuccessEnd_of_ok
    {faults : LookupFaults}
    {keys : List String}
    {value : Option Int}
    (found : firstSuccessEnd faults bucket keys = .ok value) :
    firstSuccessEnd .none bucket keys = .ok value := by
  induction keys with
  | nil =>
      exact found
  | cons head rest inductionHypothesis =>
      rw [firstSuccessEnd] at found ⊢
      split at found
      · cases found
      · rename_i read
        rw [successEndMsFromPointer_of_ok read]
        exact found
      · rename_i read
        rw [successEndMsFromPointer_of_ok read]
        exact inductionHypothesis found

/-- A lookup that succeeds is not affected by failing requests. -/
theorem resolveLastL1SuccessEndMs_of_ok
    {faults : LookupFaults}
    {value : Option Int}
    (found :
      resolveLastL1SuccessEndMs faults bucket windowMs nowMs =
        .ok value) :
    resolveLastL1SuccessEndMs .none bucket windowMs nowMs =
      .ok value := by
  unfold resolveLastL1SuccessEndMs at found ⊢
  generalize List.range maxL1PointerLookbackHours = offsets at found ⊢
  induction offsets with
  | nil =>
      exact found
  | cons head rest inductionHypothesis =>
      rw [resolveHours] at found ⊢
      split_ifs at found
      simp only [LookupFaults.none, Bool.false_eq_true, ↓reduceIte]
      split at found
      · cases found
      · rename_i hour
        have quiet := firstSuccessEnd_of_ok hour
        simp only [LookupFaults.none] at quiet
        rw [quiet]
        exact found
      · rename_i hour
        have quiet := firstSuccessEnd_of_ok hour
        simp only [LookupFaults.none] at quiet
        rw [quiet]
        exact inductionHypothesis found

end Search

end MarketIngest.Normalize
