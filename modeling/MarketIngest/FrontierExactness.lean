import MarketIngest.PointerDiscovery

namespace MarketIngest.Normalize

open S3

/-!
# When the looked-up frontier is exact

The frontier that a lookup should return is the largest end of the successful
runs with a pointer in the hours looked back.  The lookup sees only the pointers
on the listing page of each hour and takes the first one it meets.  It is exact
if and only if that first pointer also has the largest end.
-/

/-- The window starts in one of the hours that are looked back. -/
def LookedBack (nowMs windowStartMs : Int) : Prop :=
  floorHourMs windowStartMs ≤ floorHourMs nowMs ∧
    floorHourMs nowMs <
      floorHourMs windowStartMs + maxL1PointerLookbackHours * hourMs

/-- Keys of the hour of a pointer that precede it in the listing. -/
def precedingKeys
    (bucket : Bucket)
    (pointer : PublishedPointer) : List String :=
  (bucket.keys.filter (fun key =>
      Text.startsWith key
        (l1PointerHourPrefix pointer.windowMs
          pointer.windowStartMs))).filter
    (fun key => key < pointer.key)

/-- A stored successful pointer. -/
structure SuccessStored
    (bucket : Bucket)
    (windowMs : Int)
    (pointer : PublishedPointer) : Prop where
  stored : pointer.StoredIn bucket
  sameWindow : pointer.windowMs = windowMs
  success : pointer.status = .success

/-- The pointer is on the page that is listed of an hour looked back. -/
structure VisibleAt
    (bucket : Bucket)
    (nowMs : Int)
    (offset : Nat)
    (pointer : PublishedPointer) : Prop where
  near : offset < maxL1PointerLookbackHours
  filed :
    timePart (lookbackHourStartMs nowMs offset) =
      timePart pointer.windowStartMs
  listed : (precedingKeys bucket pointer).length < l1PointerKeysPerHour

/--
A successful pointer that the lookup meets before all others: no other visible
one is in a newer hour, or in the same hour under a greater key.
-/
def MetFirst
    (bucket : Bucket)
    (windowMs nowMs : Int)
    (pointer : PublishedPointer) : Prop :=
  SuccessStored bucket windowMs pointer ∧
    ∃ offset,
      VisibleAt bucket nowMs offset pointer ∧
        ∀ other otherOffset,
          SuccessStored bucket windowMs other →
          VisibleAt bucket nowMs otherOffset other →
          ¬ otherOffset < offset ∧
            ¬ (otherOffset = offset ∧ pointer.key < other.key)

/-- A successful pointer of an hour looked back. -/
def SuccessInLookback
    (bucket : Bucket)
    (windowMs nowMs : Int)
    (pointer : PublishedPointer) : Prop :=
  SuccessStored bucket windowMs pointer ∧
    LookedBack nowMs pointer.windowStartMs

/-- The largest end of the successful runs in the hours looked back. -/
def IsFrontier
    (bucket : Bucket)
    (windowMs nowMs : Int) :
    Option Int → Prop
  | none =>
      ∀ pointer, ¬ SuccessInLookback bucket windowMs nowMs pointer
  | some endMs =>
      (∃ pointer,
        SuccessInLookback bucket windowMs nowMs pointer ∧
          pointer.inputRange.endMs = endMs) ∧
      ∀ pointer,
        SuccessInLookback bucket windowMs nowMs pointer →
        pointer.inputRange.endMs ≤ endMs

section Exactness

variable
  {bucket : Bucket}
  {windowMs nowMs : Int}

/-- The keys tried for an hour are the visible pointers of that hour. -/
theorem mem_listedPointerKeys_iff_pointer
    {offset : Nat}
    (near : offset < maxL1PointerLookbackHours)
    {pointer : PublishedPointer}
    (stored : pointer.StoredIn bucket) :
    pointer.key ∈ listedPointerKeys bucket windowMs nowMs offset ↔
      pointer.windowMs = windowMs ∧
        VisibleAt bucket nowMs offset pointer := by
  have inBucket : pointer.key ∈ bucket.keys :=
    OrderedMap.mem_keys_iff.mpr ⟨_, stored⟩
  have json : Text.endsWith pointer.key ".json" = true :=
    indexPointerKey_endsWith _ _
  have below :
      Text.startsWith pointer.key
          (l1PointerHourPrefix windowMs
            (lookbackHourStartMs nowMs offset)) =
        true ↔
        windowMs = pointer.windowMs ∧
          timePart (lookbackHourStartMs nowMs offset) =
            timePart pointer.windowStartMs :=
    indexPointerKey_startsWith_iff
  -- Under the prefix of its hour, a pointer counts the keys of that prefix.
  have samePrefix
      (sameWindow : windowMs = pointer.windowMs)
      (filed :
        timePart (lookbackHourStartMs nowMs offset) =
          timePart pointer.windowStartMs) :
      l1PointerHourPrefix windowMs (lookbackHourStartMs nowMs offset) =
        l1PointerHourPrefix pointer.windowMs pointer.windowStartMs := by
    unfold l1PointerHourPrefix
    rw [filed, sameWindow]
  rw [mem_listedPointerKeys_iff, below]
  constructor
  · rintro ⟨_, ⟨sameWindow, filed⟩, _, few⟩
    rw [samePrefix sameWindow filed] at few
    exact ⟨sameWindow.symm, near, filed, few⟩
  · rintro ⟨sameWindow, visible⟩
    refine ⟨inBucket, ⟨sameWindow.symm, visible.filed⟩, json, ?_⟩
    rw [samePrefix sameWindow.symm visible.filed]
    exact visible.listed

/-- A successful pointer ends the search. -/
private theorem hit_of_success
    {pointer : PublishedPointer}
    (candidate : SuccessStored bucket windowMs pointer) :
    storedSuccessEnd bucket pointer.key =
      some pointer.inputRange.endMs := by
  rw [storedSuccessEnd_of_stored candidate.stored,
    PublishedPointer.successEnd, if_pos candidate.success]

/-- The search ends only at a visible successful pointer. -/
private theorem exists_success_of_hit
    (pointers : PointerBucket bucket)
    {offset : Nat}
    (near : offset < maxL1PointerLookbackHours)
    {key : String}
    (member : key ∈ listedPointerKeys bucket windowMs nowMs offset)
    {endMs : Int}
    (hit : storedSuccessEnd bucket key = some endMs) :
    ∃ pointer : PublishedPointer,
      pointer.key = key ∧
        SuccessStored bucket windowMs pointer ∧
        VisibleAt bucket nowMs offset pointer ∧
        pointer.inputRange.endMs = endMs := by
  obtain ⟨pointer, rfl, stored⟩ := exists_stored_of_mem pointers member
  obtain ⟨sameWindow, visible⟩ :=
    (mem_listedPointerKeys_iff_pointer near stored).mp member
  rw [storedSuccessEnd_of_stored stored,
    PublishedPointer.successEnd] at hit
  split_ifs at hit with success
  exact ⟨pointer, rfl, ⟨stored, sameWindow, success⟩, visible,
    by simpa using hit⟩

/-- The lookup finds nothing exactly if no successful pointer is visible. -/
theorem resolve_eq_none_iff
    (pointers : PointerBucket bucket) :
    resolveLastL1SuccessEndMs .none bucket windowMs nowMs = .ok none ↔
      ∀ pointer offset,
        SuccessStored bucket windowMs pointer →
        ¬ VisibleAt bucket nowMs offset pointer := by
  rw [resolveLastL1SuccessEndMs, resolveHours_eq pointers,
    Except.ok.injEq, List.findSome?_eq_none_iff]
  simp only [List.mem_range, List.findSome?_eq_none_iff]
  constructor
  · intro misses pointer offset candidate visible
    have member :=
      (mem_listedPointerKeys_iff_pointer visible.near
        candidate.stored).mpr ⟨candidate.sameWindow, visible⟩
    have miss := misses offset visible.near pointer.key member
    rw [hit_of_success candidate] at miss
    cases miss
  · intro hidden offset near key member
    cases hit : storedSuccessEnd bucket key with
    | none =>
        rfl
    | some endMs =>
        obtain ⟨pointer, _, candidate, visible, _⟩ :=
          exists_success_of_hit pointers near member hit
        exact absurd visible (hidden pointer offset candidate)

/-- The lookup returns the end of the pointer that is met first. -/
theorem resolve_eq_some_iff
    (pointers : PointerBucket bucket)
    {endMs : Int} :
    resolveLastL1SuccessEndMs .none bucket windowMs nowMs =
        .ok (some endMs) ↔
      ∃ pointer,
        MetFirst bucket windowMs nowMs pointer ∧
          pointer.inputRange.endMs = endMs := by
  rw [resolveLastL1SuccessEndMs, resolveHours_eq pointers,
    Except.ok.injEq,
    OrderedScan.findSome?_eq_some_iff_first
      (fun below above => absurd (lt_trans below above) (lt_irrefl _))
      List.pairwise_lt_range]
  simp only [List.mem_range, List.findSome?_eq_none_iff,
    OrderedScan.findSome?_eq_some_iff_first
      (fun below above => absurd (lt_trans below above) (lt_irrefl _))
      (listedPointerKeys_descending _)]
  constructor
  · rintro ⟨offset, near, ⟨key, member, hit, greaterMiss⟩, newerMiss⟩
    obtain ⟨pointer, rfl, candidate, visible, sameEnd⟩ :=
      exists_success_of_hit pointers near member hit
    refine ⟨pointer, ⟨candidate, offset, visible, ?_⟩, sameEnd⟩
    intro other otherOffset otherCandidate otherVisible
    have otherMember :=
      (mem_listedPointerKeys_iff_pointer otherVisible.near
        otherCandidate.stored).mpr
        ⟨otherCandidate.sameWindow, otherVisible⟩
    have noMiss : storedSuccessEnd bucket other.key ≠ none := by
      simp [hit_of_success otherCandidate]
    constructor
    · intro newer
      exact noMiss
        (newerMiss otherOffset otherVisible.near newer _ otherMember)
    · rintro ⟨rfl, greaterKey⟩
      exact noMiss (greaterMiss _ otherMember greaterKey)
  · rintro ⟨pointer, ⟨candidate, offset, visible, first⟩, sameEnd⟩
    have member :=
      (mem_listedPointerKeys_iff_pointer visible.near
        candidate.stored).mpr ⟨candidate.sameWindow, visible⟩
    have hit := hit_of_success candidate
    rw [sameEnd] at hit
    refine ⟨offset, visible.near, ⟨pointer.key, member, hit, ?_⟩, ?_⟩
    · intro key keyMember greaterKey
      cases keyHit : storedSuccessEnd bucket key with
      | none =>
          rfl
      | some otherEnd =>
          obtain ⟨other, rfl, otherCandidate, otherVisible, _⟩ :=
            exists_success_of_hit pointers visible.near keyMember keyHit
          exact absurd ⟨rfl, greaterKey⟩
            (first other offset otherCandidate otherVisible).2
    · intro otherOffset otherNear newer key keyMember
      cases keyHit : storedSuccessEnd bucket key with
      | none =>
          rfl
      | some otherEnd =>
          obtain ⟨other, rfl, otherCandidate, otherVisible, _⟩ :=
            exists_success_of_hit pointers otherNear keyMember keyHit
          exact absurd newer
            (first other otherOffset otherCandidate otherVisible).1

/-- Without failing requests the lookup returns. -/
theorem resolve_total
    (windowMs nowMs : Int)
    (pointers : PointerBucket bucket) :
    ∃ result,
      resolveLastL1SuccessEndMs .none bucket windowMs nowMs =
        .ok result := by
  rw [resolveLastL1SuccessEndMs, resolveHours_eq pointers]
  exact ⟨_, rfl⟩

/--
The looked-up frontier is exact if and only if the pointer that is met first
ends no earlier than every successful pointer in the hours looked back, and no
later than some of them.
-/
theorem resolve_isFrontier_iff
    (pointers : PointerBucket bucket) :
    (∃ result,
      resolveLastL1SuccessEndMs .none bucket windowMs nowMs =
          .ok result ∧
        IsFrontier bucket windowMs nowMs result) ↔
      (∀ pointer,
        SuccessInLookback bucket windowMs nowMs pointer →
        ∃ seen,
          MetFirst bucket windowMs nowMs seen ∧
            pointer.inputRange.endMs ≤ seen.inputRange.endMs) ∧
      ∀ seen,
        MetFirst bucket windowMs nowMs seen →
        ∃ pointer,
          SuccessInLookback bucket windowMs nowMs pointer ∧
            seen.inputRange.endMs ≤ pointer.inputRange.endMs := by
  obtain ⟨result, resolved⟩ :=
    resolve_total windowMs nowMs pointers
  have sameEnd
      {seen : PublishedPointer}
      (met : MetFirst bucket windowMs nowMs seen) :
      result = some seen.inputRange.endMs := by
    have viaSeen :=
      (resolve_eq_some_iff pointers).mpr ⟨seen, met, rfl⟩
    rw [resolved] at viaSeen
    exact Except.ok.inj viaSeen
  constructor
  · rintro ⟨value, found, frontier⟩
    have sameValue : value = result :=
      Except.ok.inj (found.symm.trans resolved)
    subst sameValue
    constructor
    · intro pointer candidate
      cases value with
      | none =>
          exact absurd candidate (frontier pointer)
      | some endMs =>
          obtain ⟨seen, met, seenEnd⟩ :=
            (resolve_eq_some_iff pointers).mp resolved
          exact ⟨seen, met, seenEnd ▸ frontier.2 pointer candidate⟩
    · intro seen met
      have shape := sameEnd met
      subst shape
      obtain ⟨pointer, candidate, pointerEnd⟩ := frontier.1
      exact ⟨pointer, candidate, le_of_eq pointerEnd.symm⟩
  · rintro ⟨covered, bounded⟩
    refine ⟨result, resolved, ?_⟩
    cases result with
    | none =>
        intro pointer candidate
        obtain ⟨seen, met, _⟩ := covered pointer candidate
        cases sameEnd met
    | some endMs =>
        obtain ⟨seen, met, seenEnd⟩ :=
          (resolve_eq_some_iff pointers).mp resolved
        have largest
            (pointer : PublishedPointer)
            (candidate :
              SuccessInLookback bucket windowMs nowMs pointer) :
            pointer.inputRange.endMs ≤ endMs := by
          obtain ⟨other, otherMet, below⟩ := covered pointer candidate
          have shape := Option.some.inj (sameEnd otherMet)
          rw [shape]
          exact below
        obtain ⟨pointer, candidate, above⟩ := bounded seen met
        rw [seenEnd] at above
        exact ⟨⟨pointer, candidate,
          le_antisymm (largest pointer candidate) above⟩, largest⟩

end Exactness

section CrowdedHour

/-- Start of 2023-11-14T22:00 UTC. -/
def crowdedHourStartMs : Int :=
  1699999200000

/-- A quarter of the crowded hour. -/
def quarterHour (index : Nat) : InputRange where
  startMs := crowdedHourStartMs + index * 900000
  endMs := crowdedHourStartMs + (index + 1) * 900000

/-- The default worker publishes a successful quarter. -/
def publishQuarter (bucket : Bucket) (index : Nat) : Bucket :=
  (runDecision .withDefaults ⟨.catchUp, quarterHour index⟩
    (crowdedHourStartMs + 3300000) (.undisturbed ⟨0, 1⟩) bucket).1

/-- Three successful quarters: 2700 pointers under one hour prefix. -/
def crowdedHour : Bucket :=
  publishQuarter (publishQuarter (publishQuarter .empty 0) 1) 2

/-- Publishing a quarter replaces the pointers of its seconds. -/
private theorem publishQuarter_pointerAt
    (bucket : Bucket)
    (index : Nat)
    (small : index < 4)
    (windowStartMs : Int) :
    pointerAt (publishQuarter bucket index) 1000 windowStartMs =
      if (quarterHour index).startMs ≤ windowStartMs ∧
          windowStartMs < (quarterHour index).endMs ∧
          (1000 : Int) ∣ windowStartMs then
        some
          (runPointer .withDefaults (quarterHour index)
            (crowdedHourStartMs + 3300000) .success windowStartMs)
      else
        pointerAt bucket 1000 windowStartMs := by
  have windows :
      windowStartMs ∈
          indexWindowStarts (quarterHour index)
            NormalizeArgs.withDefaults.windowMs ↔
        (quarterHour index).startMs ≤ windowStartMs ∧
          windowStartMs < (quarterHour index).endMs ∧
          (1000 : Int) ∣ windowStartMs := by
    rw [mem_indexWindowStarts_iff (by decide) (by
      simp only [quarterHour, crowdedHourStartMs, i64Max]
      omega)]
    simp only [NormalizeArgs.withDefaults, defaultWindowMs, quarterHour,
      crowdedHourStartMs]
    omega
  unfold publishQuarter
  rw [runDecision_pointerAt]
  simp only [windows]
  simp [RunOutcome.reachesIndex, RunOutcome.undisturbed,
    BuildResult.status, BuildResult.finish, PutOutcome.acknowledged,
    PutOutcome.applied, NormalizeArgs.withDefaults, defaultWindowMs]

/-- The crowded hour has a pointer for each of its first 2700 seconds. -/
private theorem crowdedHour_pointerAt
    {windowStartMs : Int}
    {document : JsonDocument}
    (found : pointerAt crowdedHour 1000 windowStartMs = some document) :
    ∃ index : Nat,
      index < 3 ∧
        (quarterHour index).startMs ≤ windowStartMs ∧
        windowStartMs < (quarterHour index).endMs ∧
        document =
          runPointer .withDefaults (quarterHour index)
            (crowdedHourStartMs + 3300000) .success windowStartMs := by
  unfold crowdedHour at found
  rw [publishQuarter_pointerAt _ _ (by decide),
    publishQuarter_pointerAt _ _ (by decide),
    publishQuarter_pointerAt _ _ (by decide)] at found
  split_ifs at found with third second first
  · exact ⟨2, by decide, third.1, third.2.1, (Option.some.inj found).symm⟩
  · exact
      ⟨1, by decide, second.1, second.2.1, (Option.some.inj found).symm⟩
  · exact ⟨0, by decide, first.1, first.2.1, (Option.some.inj found).symm⟩
  · cases found

/-- The first 2700 seconds of the crowded hour have stored pointers. -/
private theorem crowdedHour_stored
    {second : Nat}
    (early : second < 2700) :
    indexPointerKey 1000 (crowdedHourStartMs + second * 1000) ∈
      crowdedHour.keys := by
  apply OrderedMap.mem_keys_iff.mpr
  change ∃ document,
    pointerAt crowdedHour 1000 (crowdedHourStartMs + second * 1000) =
      some document
  unfold crowdedHour
  rw [publishQuarter_pointerAt _ _ (by decide),
    publishQuarter_pointerAt _ _ (by decide),
    publishQuarter_pointerAt _ _ (by decide)]
  split_ifs with third secondQuarter first
  · exact ⟨_, rfl⟩
  · exact ⟨_, rfl⟩
  · exact ⟨_, rfl⟩
  · simp only [quarterHour, crowdedHourStartMs] at *
    omega

/-- Present-day timestamps have thirteen digits. -/
private theorem length_toDigits_crowdedHour
    {timestamp : Nat}
    (lower : 10 ^ 12 ≤ timestamp)
    (upper : timestamp < 10 ^ 13) :
    (Nat.toDigits 10 timestamp).length = 13 := by
  have atMost :=
    (Nat.length_toDigits_le_iff (b := 10) (n := timestamp) (k := 13)
      (by decide) (by decide)).mpr upper
  have notFewer :=
    (Nat.length_toDigits_le_iff (b := 10) (n := timestamp) (k := 12)
      (by decide) (by decide)).not.mpr (by omega)
  omega

/-- A thousand seconds precede every later second of the hour. -/
private theorem crowdedHour_precedingKeys
    {pointer : PublishedPointer}
    (sameWindow : pointer.windowMs = 1000)
    (late : crowdedHourStartMs + 1000000 ≤ pointer.windowStartMs)
    (inHour : pointer.windowStartMs < crowdedHourStartMs + 3600000) :
    1000 ≤ (precedingKeys crowdedHour pointer).length := by
  have distinct :
      ((List.range 1000).map (fun second : Nat =>
        indexPointerKey 1000
          (crowdedHourStartMs + (second : Int) * 1000))).Nodup := by
    refine List.Nodup.map ?_ List.nodup_range
    intro first second same
    have := (indexPointerKey_inj.mp same).2
    omega
  have subset :
      (List.range 1000).map (fun second : Nat =>
          indexPointerKey 1000
            (crowdedHourStartMs + (second : Int) * 1000)) ⊆
        precedingKeys crowdedHour pointer := by
    intro key member
    obtain ⟨second, inRange, rfl⟩ := List.mem_map.mp member
    rw [List.mem_range] at inRange
    obtain ⟨pointerStart, pointerShape⟩ :=
      Int.eq_ofNat_of_zero_le
        (a := pointer.windowStartMs)
        (by simp only [crowdedHourStartMs] at late; omega)
    have secondShape :
        crowdedHourStartMs + (second : Int) * 1000 =
          ((1699999200000 + second * 1000 : Nat) : Int) := by
      simp only [crowdedHourStartMs]
      omega
    have samePart :
        timePart (crowdedHourStartMs + second * 1000) =
          timePart pointer.windowStartMs := by
      rw [← timePart_floorHourMs pointer.windowStartMs,
        ← timePart_floorHourMs (crowdedHourStartMs + second * 1000)]
      congr 1
      simp only [floorHourMs, hourMs, crowdedHourStartMs] at *
      omega
    have keyBelow :
        indexPointerKey 1000 (crowdedHourStartMs + second * 1000) <
          pointer.key := by
      rw [pointerShape, secondShape] at samePart
      rw [PublishedPointer.key, sameWindow, pointerShape, secondShape]
      simp only [crowdedHourStartMs] at late inHour
      refine indexPointerKey_lt_of_lt 1000 samePart ?_ (by omega)
      rw [length_toDigits_crowdedHour (by omega) (by omega),
        length_toDigits_crowdedHour (by omega) (by omega)]
    unfold precedingKeys
    rw [List.mem_filter, List.mem_filter]
    refine ⟨⟨crowdedHour_stored (by omega), ?_⟩, by simpa using keyBelow⟩
    exact indexPointerKey_startsWith_iff.mpr
      ⟨sameWindow, samePart.symm⟩
  have bound := (List.subperm_of_subset distinct subset).length_le
  simpa using bound

/-- The crowded hour was written by publication alone. -/
theorem crowdedHour_pointerBucket : PointerBucket crowdedHour :=
  ((pointerBucket_empty.runDecision _ _ _ _).runDecision _ _ _ _).runDecision
    _ _ _ _

/-- What the lookup sees of the crowded hour ends with its second quarter. -/
private theorem crowdedHour_visible_end
    {pointer : PublishedPointer}
    (candidate : SuccessStored crowdedHour 1000 pointer)
    {nowMs : Int}
    {offset : Nat}
    (visible : VisibleAt crowdedHour nowMs offset pointer) :
    pointer.inputRange.endMs ≤ crowdedHourStartMs + 1800000 := by
  have stored := candidate.stored
  rw [PublishedPointer.StoredIn, PublishedPointer.key,
    candidate.sameWindow] at stored
  obtain ⟨index, small, lower, upper, shape⟩ :=
    crowdedHour_pointerAt stored
  have sameEnd :
      pointer.inputRange.endMs = (quarterHour index).endMs := by
    have ends := congrArg inputTimeRangeEndMs shape
    simpa [PublishedPointer.document, runPointer] using ends
  have listed := visible.listed
  simp only [l1PointerKeysPerHour] at listed
  have early :
      pointer.windowStartMs < crowdedHourStartMs + 1000000 := by
    by_contra late
    have crowded :=
      crowdedHour_precedingKeys candidate.sameWindow
        (not_lt.mp late) (by
          simp only [quarterHour] at upper
          omega)
    omega
  rw [sameEnd]
  simp only [quarterHour, crowdedHourStartMs] at *
  omega

/-- The first pointer of the third quarter. -/
private def thirdQuarterPointer : PublishedPointer where
  manifestKey :=
    manifestObjectKey
      (l1RunId (quarterHour 2).startMs (quarterHour 2).endMs
        (crowdedHourStartMs + 3300000))
  l1RunId :=
    Normalize.l1RunId (quarterHour 2).startMs (quarterHour 2).endMs
      (crowdedHourStartMs + 3300000)
  status := .success
  finishedAtMs := crowdedHourStartMs + 3300000
  inputRange := quarterHour 2
  windowMs := 1000
  windowStartMs := crowdedHourStartMs + 1800000
  published := by decide
  inRange :=
    (mem_indexWindowStarts_iff (by decide) (by decide)).mpr (by decide)

/-- The third quarter is stored, and in the hours looked back. -/
private theorem thirdQuarterPointer_candidate :
    SuccessInLookback crowdedHour 1000 (crowdedHourStartMs + 3300000)
      thirdQuarterPointer := by
  refine ⟨⟨?_, rfl, rfl⟩, ?_⟩
  · change pointerAt crowdedHour 1000 (crowdedHourStartMs + 1800000) = _
    unfold crowdedHour
    rw [publishQuarter_pointerAt _ _ (by decide), if_pos (by decide)]
    rfl
  · exact ⟨by decide, by decide⟩

/--
With 2700 pointers in one hour, the lookup does not return the end of the third
quarter although that quarter was published.
-/
theorem crowdedHour_frontier_not_exact :
    PointerBucket crowdedHour ∧
      ¬ ∃ result,
        resolveLastL1SuccessEndMs .none crowdedHour 1000
            (crowdedHourStartMs + 3300000) =
          .ok result ∧
        IsFrontier crowdedHour 1000 (crowdedHourStartMs + 3300000)
          result := by
  refine ⟨crowdedHour_pointerBucket, ?_⟩
  rintro ⟨result, resolved, frontier⟩
  cases result with
  | none =>
      exact frontier thirdQuarterPointer thirdQuarterPointer_candidate
  | some endMs =>
      have above :=
        frontier.2 thirdQuarterPointer thirdQuarterPointer_candidate
      obtain ⟨seen, ⟨candidate, offset, visible, _⟩, sameEnd⟩ :=
        (resolve_eq_some_iff crowdedHour_pointerBucket).mp resolved
      have below := crowdedHour_visible_end candidate visible
      rw [sameEnd] at below
      simp only [thirdQuarterPointer, quarterHour,
        crowdedHourStartMs] at above below
      omega

/-- The characterisation applies to the crowded hour. -/
theorem resolve_isFrontier_iff_crowdedHour :
    PointerBucket crowdedHour ∧
      ((∃ result,
        resolveLastL1SuccessEndMs .none crowdedHour 1000
              (crowdedHourStartMs + 3300000) =
            .ok result ∧
          IsFrontier crowdedHour 1000 (crowdedHourStartMs + 3300000)
            result) ↔
        (∀ pointer,
          SuccessInLookback crowdedHour 1000
              (crowdedHourStartMs + 3300000) pointer →
          ∃ seen,
            MetFirst crowdedHour 1000 (crowdedHourStartMs + 3300000)
                seen ∧
              pointer.inputRange.endMs ≤ seen.inputRange.endMs) ∧
        ∀ seen,
          MetFirst crowdedHour 1000 (crowdedHourStartMs + 3300000)
              seen →
          ∃ pointer,
            SuccessInLookback crowdedHour 1000
                (crowdedHourStartMs + 3300000) pointer ∧
              seen.inputRange.endMs ≤ pointer.inputRange.endMs) :=
  ⟨crowdedHour_pointerBucket,
    resolve_isFrontier_iff crowdedHour_pointerBucket⟩

end CrowdedHour

end MarketIngest.Normalize
