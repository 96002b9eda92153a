import MarketIngest.BootstrapMarker
import MarketIngest.PointerHistory

namespace MarketIngest.Normalize

open S3 Supervisor

/-!
# Ranges judged by one pointer

The bootstrap judges a subchunk by its first pointer and the worker judges the
frontier by the first pointer it meets.  Both judgements are right as long as
every successful pointer in the bucket belongs to a range whose windows all have
successful pointers.  Runs that publish whole ranges keep it that way.
-/

/-- A successful pointer of a run of the given range. -/
def SuccessOfRange
    (bucket : Bucket)
    (windowMs windowStartMs : Int)
    (range : InputRange) : Prop :=
  ∃ document,
    pointerAt bucket windowMs windowStartMs = some document ∧
      jsonStatusSuccess document = true ∧
      inputTimeRangeStartMs document = some range.startMs ∧
      inputTimeRangeEndMs document = some range.endMs

/-- All windows of a range have successful pointers. -/
def RangePublished
    (bucket : Bucket)
    (windowMs : Int)
    (range : InputRange) : Prop :=
  ∀ windowStartMs ∈ indexWindowStarts range windowMs,
    SuccessAt bucket windowMs windowStartMs

/-- Every successful pointer belongs to a published range. -/
def RangesPublished (bucket : Bucket) : Prop :=
  ∀ windowMs windowStartMs range,
    SuccessOfRange bucket windowMs windowStartMs range →
    RangePublished bucket windowMs range

/--
A successful run stores no pointer at all, or leaves every window of its range
successful.  An empty run that stores a pointer inside the range of a successful
pointer also replaces that pointer.
-/
structure PublishesWhole
    (bucket : Bucket)
    (normalizeRun : NormalizeRun) : Prop where
  success :
    normalizeRun.status = .success →
    ∀ stored, normalizeRun.Writes stored →
    ∀ windowStartMs ∈ normalizeRun.windowStarts,
      normalizeRun.Writes windowStartMs ∨
        SuccessAt bucket normalizeRun.windowMs windowStartMs
  empty :
    normalizeRun.status = .empty →
    ∀ stored, normalizeRun.Writes stored →
    ∀ windowStartMs range,
      SuccessOfRange bucket normalizeRun.windowMs windowStartMs range →
      stored ∈ indexWindowStarts range normalizeRun.windowMs →
      normalizeRun.Writes windowStartMs

section Steps

variable {bucket : Bucket} {normalizeRun : NormalizeRun}

/-- A successful pointer is an old one or one that the run stored. -/
private theorem successOfRange_stepRun
    {windowMs windowStartMs : Int}
    {range : InputRange}
    (after :
      SuccessOfRange (stepRun bucket normalizeRun) windowMs
        windowStartMs range) :
    (windowMs = normalizeRun.windowMs ∧
        normalizeRun.Writes windowStartMs ∧
        normalizeRun.status = .success ∧
        range = normalizeRun.decision.inputRange) ∨
      (¬ (windowMs = normalizeRun.windowMs ∧
            normalizeRun.Writes windowStartMs) ∧
        SuccessOfRange bucket windowMs windowStartMs range) := by
  obtain ⟨document, found, success, sameStart, sameEnd⟩ := after
  rw [stepRun_pointerAt] at found
  split_ifs at found with written
  · obtain ⟨sameWindow, writes⟩ := written
    rw [← Option.some.inj found] at success sameStart sameEnd
    refine Or.inl ⟨sameWindow, writes, by simpa using success, ?_⟩
    simp only [NormalizeRun.pointer, runPointer,
      inputTimeRangeStartMs_indexPointerJson,
      inputTimeRangeEndMs_indexPointerJson,
      Option.some.injEq] at sameStart sameEnd
    exact InputRange.ext sameStart.symm sameEnd.symm
  · exact Or.inr
      ⟨written, document, found, success, sameStart, sameEnd⟩

/-- Publishing whole ranges keeps every successful range published. -/
theorem rangesPublished_stepRun
    (published : RangesPublished bucket)
    (whole : PublishesWhole bucket normalizeRun) :
    RangesPublished (stepRun bucket normalizeRun) := by
  intro windowMs windowStartMs range after other inRange
  rw [successAt_stepRun_iff]
  rcases successOfRange_stepRun after with
      ⟨rfl, writes, success, rfl⟩ | ⟨notWritten, before⟩
  · -- The run's own range: each window is stored now or was successful.
    split_ifs with otherWritten
    · exact success
    · rcases whole.success success windowStartMs writes other inRange with
          stored | successful
      · exact absurd ⟨rfl, stored⟩ otherWritten
      · exact successful
  · -- An older range: only an empty run could take one of its windows.
    have successful := published windowMs windowStartMs range before
      other inRange
    split_ifs with otherWritten
    · obtain ⟨rfl, otherWrites⟩ := otherWritten
      rcases NormalizeRun.status_of_writes otherWrites with
          success | isEmpty
      · exact success
      · exact absurd
          ⟨rfl, whole.empty isEmpty other otherWrites windowStartMs
            range before inRange⟩ notWritten
    · exact successful

/-- What a run that stored its first pointer says about a subchunk. -/
theorem hasL1Success_stepRun
    {subchunk : BootstrapChunk}
    (sameWindow : normalizeRun.windowMs = 1000)
    (writes : normalizeRun.Writes subchunk.startMs) :
    hasL1Success (stepRun bucket normalizeRun) subchunk = true ↔
      normalizeRun.status = .success ∧
        normalizeRun.decision.inputRange = subchunk.range := by
  have found :=
    stepRun_pointerAt bucket normalizeRun 1000 subchunk.startMs
  rw [if_pos ⟨sameWindow.symm, writes⟩] at found
  exact hasL1Success_of_runPointer found

/-- Runs write nothing but pointers below the index prefix. -/
theorem pointerBucket_stepRun
    (pointers : PointerBucket bucket) :
    PointerBucket (stepRun bucket normalizeRun) :=
  pointers.runDecision _ _ _ _

end Steps

section Consumers

variable {bucket : Bucket}

/-- Where ranges are published, the first pointer speaks for a subchunk. -/
private theorem rangePublished_of_hasL1Success
    (published : RangesPublished bucket)
    {subchunk : BootstrapChunk}
    (success : hasL1Success bucket subchunk = true) :
    RangePublished bucket 1000 subchunk.range := by
  unfold hasL1Success at success
  split at success
  · cases success
  · rename_i document found
    simp only [Bool.and_eq_true, decide_eq_true_eq] at success
    exact published 1000 subchunk.startMs subchunk.range
      ⟨document, found, success.1.1, success.1.2, success.2⟩

/-- Where ranges are published, a frontier is the end of one of them. -/
private theorem rangePublished_of_resolve
    (pointers : PointerBucket bucket)
    (published : RangesPublished bucket)
    {faults : LookupFaults}
    {windowMs nowMs endMs : Int}
    (resolved :
      resolveLastL1SuccessEndMs faults bucket windowMs nowMs =
        .ok (some endMs)) :
    ∃ pointer : PublishedPointer,
      pointer.StoredIn bucket ∧ pointer.windowMs = windowMs ∧
        pointer.status = .success ∧
        pointer.inputRange.endMs = endMs ∧
        RangePublished bucket windowMs pointer.inputRange := by
  obtain ⟨pointer, sameWindow, stored, success, sameEnd⟩ :=
    resolveLastL1SuccessEndMs_sound pointers resolved
  refine ⟨pointer, stored, sameWindow, success, sameEnd, ?_⟩
  apply published windowMs pointer.windowStartMs
  refine ⟨pointer.document, ?_, ?_, ?_, ?_⟩
  · rw [pointerAt, ← sameWindow]
    exact stored
  · simp [PublishedPointer.document, success]
  · simp [PublishedPointer.document]
  · simp [PublishedPointer.document]

end Consumers

/--
A bucket in which one pointer speaks for its range: a subchunk that counts as
normalized is published in all its windows, and so is the range whose end the
frontier lookup returns.
-/
structure PointersSpeakForRanges (bucket : Bucket) : Prop where
  subchunks :
    ∀ subchunk,
      hasL1Success bucket subchunk = true →
      RangePublished bucket 1000 subchunk.range
  frontier :
    ∀ faults windowMs nowMs endMs,
      resolveLastL1SuccessEndMs faults bucket windowMs nowMs =
        .ok (some endMs) →
      ∃ pointer : PublishedPointer,
        pointer.StoredIn bucket ∧ pointer.windowMs = windowMs ∧
          pointer.status = .success ∧
          pointer.inputRange.endMs = endMs ∧
          RangePublished bucket windowMs pointer.inputRange

/--
In every history whose runs publish whole ranges, in every bucket state reached,
no partly published range is taken for a finished one.
-/
theorem pointersSpeakForRanges_of_whole
    (runs : List NormalizeRun)
    (whole : Runs.Along stepRun PublishesWhole .empty runs) :
    Runs.Always stepRun PointersSpeakForRanges .empty runs := by
  have invariant :
      Runs.Always stepRun
        (fun bucket => PointerBucket bucket ∧ RangesPublished bucket)
        .empty runs := by
    refine Runs.always_of_along ?_ ?_ whole
    · refine ⟨pointerBucket_empty, ?_⟩
      rintro windowMs windowStartMs range ⟨document, found, _⟩
      cases found
    · rintro bucket normalizeRun ⟨pointers, published⟩ wholeRun
      exact ⟨pointerBucket_stepRun pointers,
        rangesPublished_stepRun published wholeRun⟩
  refine invariant.imp ?_
  rintro bucket ⟨pointers, published⟩
  exact
    { subchunks := fun subchunk success =>
        rangePublished_of_hasL1Success published success
      frontier := fun faults windowMs nowMs endMs resolved =>
        rangePublished_of_resolve pointers published resolved }

/-- A whole quarter hour is published and one pointer speaks for it. -/
theorem pointersSpeakForRanges_quarterRun :
    Runs.Along stepRun PublishesWhole .empty
        [quarterRun ⟨0, 1⟩ (fun _ => .stored)] ∧
      Runs.Always stepRun PointersSpeakForRanges .empty
        [quarterRun ⟨0, 1⟩ (fun _ => .stored)] := by
  have wholeRun :
      PublishesWhole .empty (quarterRun ⟨0, 1⟩ (fun _ => .stored)) := by
    constructor
    · intro _ stored writes windowStartMs inRange
      exact Or.inl ⟨writes.1, inRange, by simp [quarterRun, PutOutcome.applied]⟩
    · intro isEmpty
      exact absurd isEmpty (by decide)
  have whole :
      Runs.Along stepRun PublishesWhole .empty
        [quarterRun ⟨0, 1⟩ (fun _ => .stored)] :=
    ⟨wholeRun, trivial⟩
  exact ⟨whole,
    pointersSpeakForRanges_of_whole _ whole⟩

/--
A run interrupted after its first pointer PUT: the subchunk counts as
normalized, and its second window has no pointer.
-/
theorem interruptedRun_taken_for_finished :
    ¬ Runs.Always stepRun PointersSpeakForRanges .empty
      [quarterRun ⟨0, 1⟩
        (fun windowStartMs =>
          if windowStartMs = 0 then .stored else .rejected)] := by
  intro always
  have speaks := always.final
  rw [Runs.run_cons, Runs.run_nil] at speaks
  have firstWritten :
      (quarterRun ⟨0, 1⟩
        (fun windowStartMs =>
          if windowStartMs = 0 then .stored else .rejected)).Writes 0 :=
    (quarterRun_writes_iff (by decide)).mpr (by decide)
  have secondMissing :
      ¬ (quarterRun ⟨0, 1⟩
        (fun windowStartMs =>
          if windowStartMs = 0 then .stored else .rejected)).Writes
            1000 := by
    rw [quarterRun_writes_iff (by decide)]
    decide
  have counts :
      hasL1Success
          (stepRun .empty
            (quarterRun ⟨0, 1⟩
              (fun windowStartMs =>
                if windowStartMs = 0 then .stored else .rejected)))
          ⟨0, 900000⟩ =
        true := by
    exact (hasL1Success_stepRun rfl firstWritten).mpr ⟨by decide, rfl⟩
  have secondWindow :=
    speaks.subchunks ⟨0, 900000⟩ counts 1000
      ((mem_indexWindowStarts_iff (by decide) (by decide)).mpr
        (by decide))
  rw [successAt_stepRun_iff,
    if_neg (fun written => secondMissing written.2)] at secondWindow
  obtain ⟨document, found, _⟩ := secondWindow
  cases found

end MarketIngest.Normalize
