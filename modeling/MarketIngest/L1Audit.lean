import MarketIngest.Canonical
import MarketIngest.ProjectionSlices
import MarketIngest.ReadRange
import MarketIngest.Tiling

namespace MarketIngest.Normalize

open S3 Tiling

/-!
# The audit of the L1 index

The audit of a range lists the hours of the pointers it expects, and fails if a
pointer is missing.  It goes through the windows of the range in a loop of its
own.  On an accepted range this loop, the one that publishes pointers and the
one that seeds slices go through the same windows.
-/

/-- Windows that an audit can have. -/
def maxAuditWindows : Nat :=
  100000

/-- Why an audit failed. -/
inductive AuditFailure where
  | refused (message : String)
  | listing (keyPrefix : String)
  | missing (missingCount expectedCount : Nat)
  deriving Repr, DecidableEq

/-- The text of a failure, but for that of the service. -/
def AuditFailure.message : AuditFailure → String
  | .refused message => message
  | .listing keyPrefix => "list_objects_v2 prefix=" ++ keyPrefix
  | .missing missingCount expectedCount =>
      "l1 index audit failed: missing " ++ toString missingCount ++ "/" ++
        toString expectedCount ++ " pointers"

/-- The loop over the windows of an audit, with the number that may follow. -/
def auditExpectedKeysFrom
    (windowMs endMs : Int) :
    Nat → Int → Except AuditFailure (List String)
  | 0, current =>
      if current < endMs then
        .error
          (.refused
            ("audit range exceeds " ++ toString maxAuditWindows ++
              " windows"))
      else
        .ok []
  | remaining + 1, current =>
      if current < endMs then
        if i64Max < current + windowMs then
          .error (.refused "audit range overflow")
        else if current + windowMs ≤ current then
          .error (.refused "audit range did not advance")
        else
          (auditExpectedKeysFrom windowMs endMs remaining
            (current + windowMs)).map
              (indexPointerKey windowMs current :: ·)
      else
        .ok []

/-- The pointers that an audit expects. -/
def auditExpectedKeys
    (range : InputRange)
    (windowMs : Int) : Except AuditFailure (List String) :=
  if windowMs ≤ 0 then
    .error (.refused "window_ms must be positive")
  else
    auditExpectedKeysFrom windowMs range.endMs maxAuditWindows range.startMs

/-- The text before and after the last separator, as characters. -/
def rsplitOnceChars
    (separator : List Char) :
    List Char → Option (List Char × List Char)
  | [] => if separator.isEmpty then some ([], []) else none
  | char :: rest =>
      match rsplitOnceChars separator rest with
      | some (before, after) => some (char :: before, after)
      | none =>
          if separator.isPrefixOf (char :: rest) then
            some ([], (char :: rest).drop separator.length)
          else
            none

/-- The text before and after the last separator. -/
def rsplitOnce (text separator : String) : Option (String × String) :=
  (rsplitOnceChars separator.toList text.toList).map fun parts =>
    (String.ofList parts.1, String.ofList parts.2)

/-- The prefixes of the hours of some pointers. -/
def auditHourPrefixes (keys : List String) : List String :=
  sortDedup
    (keys.filterMap fun key =>
      (rsplitOnce key "window_start_ms=").map Prod.fst)

/-- The keys below some prefixes; a failed listing ends the audit. -/
def auditExistingKeys
    (listFails : String → Bool)
    (bucket : Bucket) :
    List String → List String → Except AuditFailure (List String)
  | [], existing => .ok existing
  | keyPrefix :: rest, existing =>
      if listFails keyPrefix then
        .error (.listing keyPrefix)
      else
        auditExistingKeys listFails bucket rest
          (existing ++
            bucket.keys.filter (fun key => Text.startsWith key keyPrefix))

/-- The audit of a range. -/
def runL1IndexAudit
    (args : NormalizeArgs)
    (range : InputRange)
    (listFails : String → Bool)
    (bucket : Bucket) : Except AuditFailure Unit :=
  if range.endMs ≤ range.startMs then
    .error (.refused "audit range must be positive and non-empty")
  else if range.startMs.tmod args.windowMs ≠ 0 ∨
      range.endMs.tmod args.windowMs ≠ 0 then
    .error (.refused "audit range must align to window_ms")
  else do
    let expectedKeys ← auditExpectedKeys range args.windowMs
    let existingKeys ←
      auditExistingKeys listFails bucket (auditHourPrefixes expectedKeys) []
    let missing := expectedKeys.filter fun key => key ∉ existingKeys
    if missing.length = 0 then
      .ok ()
    else
      .error (.missing missing.length expectedKeys.length)

section Prefixes

/-- The parts and the separator make up the text. -/
private theorem eq_of_rsplitOnceChars
    {separator text before after : List Char}
    (split : rsplitOnceChars separator text = some (before, after)) :
    text = before ++ (separator ++ after) := by
  induction text generalizing before with
  | nil =>
      unfold rsplitOnceChars at split
      split_ifs at split with none
      obtain ⟨rfl, rfl⟩ := Prod.mk.inj (Option.some.inj split)
      rw [List.isEmpty_iff.mp none]
      rfl
  | cons char rest inductionHypothesis =>
      unfold rsplitOnceChars at split
      cases later : rsplitOnceChars separator rest with
      | some parts =>
          rw [later] at split
          obtain ⟨rfl, rfl⟩ := Prod.mk.inj (Option.some.inj split)
          rw [List.cons_append, ← inductionHypothesis later]
      | none =>
          rw [later] at split
          dsimp only at split
          split_ifs at split with leads
          obtain ⟨rfl, rfl⟩ := Prod.mk.inj (Option.some.inj split)
          obtain ⟨tail, whole⟩ := List.isPrefixOf_iff_prefix.mp leads
          rw [← whole, List.drop_left, List.nil_append]

/-- A separator that ends with a mark is not found where the mark only comes
too early. -/
private theorem rsplitOnceChars_eq_none
    {stem lead after : List Char}
    {mark : Char}
    (short : lead.length ≤ stem.length)
    (afterFree : mark ∉ after) :
    rsplitOnceChars (stem ++ [mark]) (lead ++ after) = none := by
  cases found : rsplitOnceChars (stem ++ [mark]) (lead ++ after) with
  | none => rfl
  | some parts =>
      have shape :
          lead ++ after = (parts.1 ++ stem) ++ (mark :: parts.2) := by
        rw [eq_of_rsplitOnceChars found]
        simp
      rcases List.append_eq_append_iff.mp shape with
        ⟨extra, _, inAfter⟩ | ⟨extra, inLead, inText⟩
      · exact absurd (by simp [inAfter]) afterFree
      · have none : extra = [] := by
          have lengths := congrArg List.length inLead
          simp only [List.length_append] at lengths
          exact List.length_eq_zero_iff.mp (by omega)
        rw [none, List.nil_append] at inText
        exact absurd (by simp [← inText]) afterFree

/-- A separator that ends with a mark is found last before a text without the
mark. -/
private theorem rsplitOnceChars_append
    {stem after : List Char}
    {mark : Char}
    (before : List Char)
    (afterFree : mark ∉ after) :
    rsplitOnceChars (stem ++ [mark])
        (before ++ ((stem ++ [mark]) ++ after)) =
      some (before, after) := by
  induction before with
  | nil =>
      obtain ⟨char, lead, shape⟩ :
          ∃ char lead, stem ++ [mark] = char :: lead :=
        List.exists_cons_of_ne_nil (by simp)
      have sameLength : lead.length = stem.length := by
        have lengths := congrArg List.length shape
        simp only [List.length_append, List.length_cons,
          List.length_nil] at lengths
        omega
      have later := rsplitOnceChars_eq_none sameLength.le afterFree
      have leads :
          (stem ++ [mark]).isPrefixOf (char :: (lead ++ after)) = true := by
        rw [List.isPrefixOf_iff_prefix, shape]
        exact ⟨after, rfl⟩
      rw [List.nil_append]
      change rsplitOnceChars _ ((stem ++ [mark]) ++ after) = _
      nth_rewrite 2 [shape]
      rw [List.cons_append, rsplitOnceChars, later]
      dsimp only
      rw [if_pos leads, ← List.cons_append, ← shape, List.drop_left]
  | cons char rest inductionHypothesis =>
      rw [List.cons_append, rsplitOnceChars, inductionHypothesis]

/-- The prefix of a pointer is that of its hour. -/
theorem rsplitOnce_indexPointerKey
    (windowMs windowStartMs : Int) :
    rsplitOnce (indexPointerKey windowMs windowStartMs)
        "window_start_ms=" =
      some
        (l1PointerHourPrefix windowMs windowStartMs,
          toString windowStartMs ++ ".json") := by
  have marked :
      "window_start_ms=".toList = "window_start_ms".toList ++ ['='] := by
    decide
  have unmarked : '=' ∉ (toString windowStartMs ++ ".json").toList := by
    rw [String.toList_append, List.mem_append, not_or]
    exact
      ⟨Text.not_mem_toString_int (by decide) (by decide) windowStartMs,
        by decide⟩
  rw [rsplitOnce, indexPointerKey_eq, String.toList_append,
    String.toList_append, marked,
    rsplitOnceChars_append _ unmarked]
  simp

/-- The hour prefixes are those of the pointers. -/
theorem mem_auditHourPrefixes_iff
    {windowMs : Int}
    {starts : List Int}
    {keyPrefix : String} :
    keyPrefix ∈
        auditHourPrefixes (starts.map (indexPointerKey windowMs)) ↔
      ∃ windowStartMs ∈ starts,
        l1PointerHourPrefix windowMs windowStartMs = keyPrefix := by
  simp only [auditHourPrefixes, mem_sortDedup, List.mem_filterMap,
    List.mem_map, exists_exists_and_eq_and, rsplitOnce_indexPointerKey,
    Option.map_some, Option.some.injEq]

end Prefixes

section Grid

variable
  {windowMs endMs : Int}

/-- A window that starts before the end of a whole number of windows ends
before it. -/
private theorem window_le_end
    {current : Int}
    (whole : windowMs ∣ endMs - current)
    (before : current < endMs) :
    current + windowMs ≤ endMs := by
  have far := Int.le_of_dvd (by omega) whole
  omega

/-- After a window a whole number of windows is left. -/
private theorem whole_after
    {current : Int}
    (whole : windowMs ∣ endMs - current) :
    windowMs ∣ endMs - (current + windowMs) := by
  rw [← Int.sub_sub]
  exact Int.dvd_sub whole (Int.dvd_refl windowMs)

/-- The windows of the index follow each other without gaps. -/
private theorem tiles_indexWindowStartsFrom
    (windowPositive : 0 < windowMs)
    (endRepresentable : endMs ≤ i64Max)
    {rounds : Nat}
    {current : Int}
    (whole : windowMs ∣ endMs - current)
    (ordered : current ≤ endMs)
    (enough : endMs - current ≤ rounds) :
    Tiles current endMs
      ((indexWindowStartsFrom windowMs endMs rounds current).map
        fun windowStartMs => (windowStartMs, windowStartMs + windowMs)) := by
  induction rounds generalizing current with
  | zero =>
      have same : current = endMs := by
        omega
      subst same
      exact .nil current
  | succ rounds inductionHypothesis =>
      by_cases before : current < endMs
      · have inside := window_le_end whole before
        rw [indexWindowStartsFrom, if_pos before, if_neg (by omega),
          if_neg (by omega)]
        exact
          .cons (by omega)
            (inductionHypothesis (whole_after whole) inside (by omega))
      · have same : current = endMs := by
          omega
        subst same
        rw [indexWindowStartsFrom, if_neg before]
        exact .nil current

/-- An audit expects the pointers of the windows of the index. -/
private theorem auditExpectedKeysFrom_eq
    (windowPositive : 0 < windowMs)
    (endRepresentable : endMs ≤ i64Max)
    {rounds remaining : Nat}
    {current : Int}
    (whole : windowMs ∣ endMs - current)
    (ordered : current ≤ endMs)
    (enough : endMs - current ≤ rounds)
    (few : endMs - current ≤ remaining * windowMs) :
    auditExpectedKeysFrom windowMs endMs remaining current =
      .ok
        ((indexWindowStartsFrom windowMs endMs rounds current).map
          (indexPointerKey windowMs)) := by
  induction remaining generalizing current rounds with
  | zero =>
      have done : ¬ current < endMs := by
        omega
      rw [auditExpectedKeysFrom, if_neg done]
      cases rounds with
      | zero => rfl
      | succ rounds =>
          rw [indexWindowStartsFrom, if_neg done]
          rfl
  | succ remaining inductionHypothesis =>
      by_cases before : current < endMs
      · have inside := window_le_end whole before
        cases rounds with
        | zero => omega
        | succ rounds =>
            have more :
                ((remaining + 1 : Nat) : Int) * windowMs =
                  remaining * windowMs + windowMs := by
              rw [Int.natCast_succ, Int.add_mul, Int.one_mul]
            rw [auditExpectedKeysFrom, if_pos before, if_neg (by omega),
              if_neg (by omega), indexWindowStartsFrom, if_pos before,
              if_neg (by omega), if_neg (by omega),
              @inductionHypothesis rounds _ (whole_after whole) inside
                (by omega) (by omega)]
            rfl
      · rw [auditExpectedKeysFrom, if_neg before]
        cases rounds with
        | zero => rfl
        | succ rounds =>
            rw [indexWindowStartsFrom, if_neg before]
            rfl

end Grid

section Listing

variable
  {listFails : String → Bool}
  {bucket : Bucket}

/-- Answered listings give the keys below their prefixes. -/
private theorem auditExistingKeys_of_answered
    {prefixes : List String}
    (answered : ∀ keyPrefix ∈ prefixes, listFails keyPrefix = false)
    (existing : List String) :
    auditExistingKeys listFails bucket prefixes existing =
      .ok
        (existing ++
          prefixes.flatMap fun keyPrefix =>
            bucket.keys.filter fun key =>
              Text.startsWith key keyPrefix) := by
  induction prefixes generalizing existing with
  | nil =>
      rw [List.flatMap_nil, List.append_nil]
      rfl
  | cons keyPrefix rest inductionHypothesis =>
      rw [List.forall_mem_cons] at answered
      rw [auditExistingKeys, answered.1, if_neg Bool.false_ne_true,
        inductionHypothesis answered.2, List.flatMap_cons,
        List.append_assoc]

/-- A failed listing ends the audit with its prefix. -/
private theorem auditExistingKeys_of_failed
    {prefixes : List String}
    (failed : ∃ keyPrefix ∈ prefixes, listFails keyPrefix = true)
    (existing : List String) :
    ∃ keyPrefix ∈ prefixes,
      auditExistingKeys listFails bucket prefixes existing =
        .error (.listing keyPrefix) := by
  induction prefixes generalizing existing with
  | nil =>
      obtain ⟨_, member, _⟩ := failed
      cases member
  | cons keyPrefix rest inductionHypothesis =>
      rw [auditExistingKeys]
      split_ifs with fails
      · exact ⟨keyPrefix, List.mem_cons_self, rfl⟩
      · have later : ∃ keyPrefix ∈ rest, listFails keyPrefix = true := by
          obtain ⟨other, member, otherFails⟩ := failed
          rcases List.mem_cons.mp member with rfl | inRest
          · exact absurd otherFails fails
          · exact ⟨other, inRest, otherFails⟩
        obtain ⟨other, inRest, ended⟩ := inductionHypothesis later _
        exact ⟨other, List.mem_cons_of_mem _ inRest, ended⟩

/-- An audit of expected keys, each below one of its prefixes, passes exactly if
all listings are answered and no key is missing. -/
theorem runL1IndexAudit_ok_iff
    {args : NormalizeArgs}
    {range : InputRange}
    {keys : List String}
    (nonempty : range.startMs < range.endMs)
    (startAligned : range.startMs.tmod args.windowMs = 0)
    (endAligned : range.endMs.tmod args.windowMs = 0)
    (expected : auditExpectedKeys range args.windowMs = .ok keys)
    (below :
      ∀ key ∈ keys,
        ∃ keyPrefix ∈ auditHourPrefixes keys,
          Text.startsWith key keyPrefix = true) :
    runL1IndexAudit args range listFails bucket = .ok () ↔
      (∀ keyPrefix ∈ auditHourPrefixes keys,
          listFails keyPrefix = false) ∧
        ∀ key ∈ keys, key ∈ bucket.keys := by
  unfold runL1IndexAudit
  rw [if_neg (not_le.mpr nonempty),
    if_neg (by simp [startAligned, endAligned]), expected]
  by_cases answered :
      ∀ keyPrefix ∈ auditHourPrefixes keys, listFails keyPrefix = false
  · have listed :
        ∀ key ∈ keys,
          (key ∈
              [] ++ (auditHourPrefixes keys).flatMap fun keyPrefix =>
                bucket.keys.filter fun stored =>
                  Text.startsWith stored keyPrefix) ↔
            key ∈ bucket.keys := by
      intro key member
      obtain ⟨keyPrefix, isPrefix, leads⟩ := below key member
      simp only [List.nil_append, List.mem_flatMap, List.mem_filter]
      constructor
      · rintro ⟨_, _, stored, _⟩
        exact stored
      · intro stored
        exact ⟨keyPrefix, isPrefix, stored, leads⟩
    change (do
      let existingKeys ← auditExistingKeys listFails bucket _ []
      _) = _ ↔ _
    rw [auditExistingKeys_of_answered answered]
    change (if (keys.filter _).length = 0 then _ else _) = _ ↔ _
    have present :
        (∀ key ∈ keys,
          ¬ decide (key ∉
              [] ++ (auditHourPrefixes keys).flatMap fun keyPrefix =>
                bucket.keys.filter fun stored =>
                  Text.startsWith stored keyPrefix) = true) ↔
          ∀ key ∈ keys, key ∈ bucket.keys := by
      apply forall₂_congr
      intro key member
      rw [decide_eq_true_eq, not_not, listed key member]
    rw [← List.filter_eq_nil_iff, ← List.length_eq_zero_iff] at present
    split_ifs with none
    · exact ⟨fun _ => ⟨answered, present.mp none⟩, fun _ => rfl⟩
    · constructor
      · intro passed
        cases passed
      · rintro ⟨_, all⟩
        exact absurd (present.mpr all) none
  · have failed :
        ∃ keyPrefix ∈ auditHourPrefixes keys,
          listFails keyPrefix = true := by
      simpa using answered
    obtain ⟨keyPrefix, _, ended⟩ :=
      @auditExistingKeys_of_failed listFails bucket _ failed []
    change (do
      let existingKeys ← auditExistingKeys listFails bucket _ []
      _) = _ ↔ _
    rw [ended]
    constructor
    · intro passed
      cases passed
    · rintro ⟨all, _⟩
      exact absurd all answered

end Listing

section Windows

open Build

variable
  {args : NormalizeArgs}
  {range : InputRange}

/-- The windows that index, audit and slices go through in a range. -/
structure OneWindowGrid
    {Number : Type}
    [NumberFormat Number]
    (codec : Codec Number)
    (args : NormalizeArgs)
    (range : InputRange) : Prop where
  /-- The windows of the index ascend. -/
  ascending :
    (indexWindowStarts range args.windowMs).Pairwise (· < ·)
  /-- They follow each other from start to end. -/
  tiles :
    Tiles range.startMs range.endMs
      ((indexWindowStarts range args.windowMs).map
        fun windowStartMs =>
          (windowStartMs, windowStartMs + args.windowMs.1))
  /-- The audit expects their pointers. -/
  expected :
    auditExpectedKeys range args.windowMs =
      .ok
        ((indexWindowStarts range args.windowMs).map
          (indexPointerKey args.windowMs))
  /-- A symbol is seeded with their slices. -/
  seeded :
    ∀ identity : Identity,
      (seedIdentitySlices codec args range identity
          .empty).values.map (fun row => row.windowStartMs) =
        indexWindowStarts range args.windowMs
  /-- Seeding what is there already adds the slices of these windows. -/
  reseeded :
    ∀ (identity : Identity) (rows : SliceRows Number)
      (key : SliceKey),
      key ∈ (seedIdentitySlices codec args range identity rows).keys ↔
        key ∈ rows.keys ∨
          ∃ windowStartMs ∈ indexWindowStarts range args.windowMs,
            sliceKey identity.venue identity.symbolCanonical
              windowStartMs = key
  /-- Windows with the same pointer are the same. -/
  pointersDiffer :
    ∀ first ∈ indexWindowStarts range args.windowMs,
      ∀ second ∈ indexWindowStarts range args.windowMs,
        indexPointerKey args.windowMs first =
            indexPointerKey args.windowMs second →
          first = second
  /-- A pointer is below a prefix that is listed. -/
  listed :
    ∀ key ∈
        (indexWindowStarts range args.windowMs).map
          (indexPointerKey args.windowMs),
      ∃ keyPrefix ∈
          auditHourPrefixes
            ((indexWindowStarts range args.windowMs).map
              (indexPointerKey args.windowMs)),
        Text.startsWith key keyPrefix = true
  /-- A successful run writes these pointers and no others. -/
  published :
    ∀ (bucket : Bucket) (decision : RunDecision) (nowMs : Int)
      (outcome : RunOutcome),
      decision.inputRange = range →
      (runDecision args decision nowMs outcome bucket).2 = .ok () →
      outcome.build.status ≠ .blocked →
        ∀ windowMs windowStartMs : Int,
          pointerAt (runDecision args decision nowMs outcome bucket).1
              windowMs windowStartMs =
            if windowMs = args.windowMs.1 ∧
                windowStartMs ∈
                  indexWindowStarts range args.windowMs then
              some
                (runPointer args range nowMs outcome.build.status
                  windowStartMs)
            else
              pointerAt bucket windowMs windowStartMs
  /-- An audit with all listings answered passes exactly if the pointers of
  these windows are there. -/
  audited :
    ∀ (listFails : String → Bool) (bucket : Bucket),
      (runL1IndexAudit args range listFails bucket = .ok () ↔
        (∀ keyPrefix ∈
            auditHourPrefixes
              ((indexWindowStarts range args.windowMs).map
                (indexPointerKey args.windowMs)),
          listFails keyPrefix = false) ∧
          ∀ windowStartMs ∈ indexWindowStarts range args.windowMs,
            (pointerAt bucket args.windowMs windowStartMs).isSome = true)

/-- The windows of the index tile an accepted range. -/
private theorem tiles_indexWindowStarts
    {interval : Int}
    (accepted :
      validateRange range.startMs range.endMs args.windowMs interval =
        .ok ())
    (endRepresentable : range.endMs ≤ i64Max) :
    Tiles range.startMs range.endMs
      ((indexWindowStarts range args.windowMs).map
        fun windowStartMs =>
          (windowStartMs, windowStartMs + args.windowMs.1)) := by
  have nonempty := (bounds_of_validateRange accepted).2
  obtain ⟨_, startWhole, endWhole⟩ :=
    windowAligned_of_validateRange args.windowMs.2.1 accepted
  rw [indexWindowStarts, if_neg (by have := args.windowMs.2.1; omega)]
  exact
    tiles_indexWindowStartsFrom args.windowMs.2.1 endRepresentable
      (Int.dvd_sub endWhole startWhole) nonempty.le (by omega)

/-- The audit of an accepted range expects the pointers of the index. -/
private theorem auditExpectedKeys_eq
    {interval : Int}
    (accepted :
      validateRange range.startMs range.endMs args.windowMs interval =
        .ok ())
    (endRepresentable : range.endMs ≤ i64Max)
    (few :
      (range.endMs - range.startMs) / args.windowMs ≤ maxAuditWindows) :
    auditExpectedKeys range args.windowMs =
      .ok
        ((indexWindowStarts range args.windowMs).map
          (indexPointerKey args.windowMs)) := by
  have positive := args.windowMs.2.1
  have nonempty := (bounds_of_validateRange accepted).2
  obtain ⟨_, startWhole, endWhole⟩ :=
    windowAligned_of_validateRange positive accepted
  have whole := Int.dvd_sub endWhole startWhole
  have bounded :
      range.endMs - range.startMs ≤ maxAuditWindows * args.windowMs :=
    calc
      range.endMs - range.startMs =
          (range.endMs - range.startMs) / args.windowMs *
            args.windowMs := (Int.ediv_mul_cancel whole).symm
      _ ≤ maxAuditWindows * args.windowMs :=
          Int.mul_le_mul_of_nonneg_right few positive.le
  rw [auditExpectedKeys, indexWindowStarts, if_neg (not_le.mpr positive),
    if_neg (by omega)]
  exact
    auditExpectedKeysFrom_eq positive endRepresentable whole nonempty.le
      (by omega) bounded

variable
  {Number : Type}
  [NumberFormat Number]

/-- The keys after seeding. -/
private theorem mem_keys_seedIdentitySlices
    (codec : Codec Number)
    (seeds :
      seedWindowStarts range args.windowMs =
        indexWindowStarts range args.windowMs)
    (identity : Identity)
    (rows : SliceRows Number)
    (key : SliceKey) :
    key ∈ (seedIdentitySlices codec args range identity rows).keys ↔
      key ∈ rows.keys ∨
        ∃ windowStartMs ∈ indexWindowStarts range args.windowMs,
          sliceKey identity.venue identity.symbolCanonical windowStartMs =
            key := by
  rw [seedIdentitySlices, seeds]
  exact OrderedMap.mem_keys_foldl_upsert _ _ _ _

/-- Seeding a new symbol gives one slice to each window of the index. -/
private theorem values_seedIdentitySlices
    (codec : Codec Number)
    (seeds :
      seedWindowStarts range args.windowMs =
        indexWindowStarts range args.windowMs)
    (identity : Identity) :
    (seedIdentitySlices codec args range identity
        .empty).values.map (fun row => row.windowStartMs) =
      indexWindowStarts range args.windowMs := by
  have keys :
      (seedIdentitySlices codec args range identity .empty).keys =
        (indexWindowStarts range args.windowMs).map
          (sliceKey identity.venue identity.symbolCanonical) := by
    apply eq_of_ascending_of_mem_iff (OrderedMap.keys_ascending _)
    · apply List.Pairwise.map _ _ (indexWindowStarts_ascending range)
      intro first second below
      exact
        Prod.Lex.toLex_lt_toLex.mpr
          (.inr ⟨rfl, Prod.Lex.toLex_lt_toLex.mpr (.inr ⟨rfl, below⟩)⟩)
    · intro key
      rw [mem_keys_seedIdentitySlices codec seeds, List.mem_map]
      simp [OrderedMap.keys, OrderedMap.empty]
  have named :
      ∀ (key : SliceKey) (row : SliceRow Number),
        (seedIdentitySlices codec args range identity
            .empty).get? key = some row →
          row.key = key := by
    intro key row found
    change (seedIdentitySlices codec args range identity .empty).get?
      (sliceKey (ofLex key).1 (ofLex (ofLex key).2).1
        (ofLex (ofLex key).2).2) = _ at found
    rw [get?_seedIdentitySlices] at found
    split_ifs at found with seeded
    · obtain ⟨_, sameVenue, sameSymbol⟩ := seeded
      obtain rfl := Option.some.inj found
      change sliceKey identity.venue identity.symbolCanonical _ = key
      rw [sameVenue, sameSymbol]
      rfl
    · cases found
  have windows :=
    congrArg (List.map fun key : SliceKey => (ofLex (ofLex key).2).2)
      ((OrderedMap.values_map_eq_keys named).trans keys)
  rw [List.map_map, List.map_map] at windows
  exact windows.trans (List.map_id _)

/-- Index, audit and slices go through one grid of windows, in an accepted
range of at most as many windows as an audit can have. -/
theorem oneWindowGrid
    (codec : Codec Number)
    {interval : Int}
    (accepted :
      validateRange range.startMs range.endMs args.windowMs interval =
        .ok ())
    (endRepresentable : range.endMs ≤ i64Max)
    (few :
      (range.endMs - range.startMs) / args.windowMs ≤ maxAuditWindows) :
    OneWindowGrid codec args range := by
  obtain ⟨nonneg, nonempty⟩ := bounds_of_validateRange accepted
  obtain ⟨_, startWhole, endWhole⟩ :=
    windowAligned_of_validateRange args.windowMs.2.1 accepted
  have seeds :
      seedWindowStarts range args.windowMs =
        indexWindowStarts range args.windowMs :=
    seedWindowStarts_eq args.windowMs.2.1
      (by simp only [i64Min]; omega) endRepresentable
  have expected := auditExpectedKeys_eq accepted endRepresentable few
  have listed :
      ∀ key ∈
          (indexWindowStarts range args.windowMs).map
            (indexPointerKey args.windowMs),
        ∃ keyPrefix ∈
            auditHourPrefixes
              ((indexWindowStarts range args.windowMs).map
                (indexPointerKey args.windowMs)),
          Text.startsWith key keyPrefix = true := by
    intro key member
    obtain ⟨windowStartMs, inRange, rfl⟩ := List.mem_map.mp member
    exact
      ⟨l1PointerHourPrefix args.windowMs windowStartMs,
        mem_auditHourPrefixes_iff.mpr ⟨windowStartMs, inRange, rfl⟩,
        indexPointerKey_startsWith_iff.mpr ⟨rfl, rfl⟩⟩
  exact
    { ascending := indexWindowStarts_ascending range
      tiles := tiles_indexWindowStarts accepted endRepresentable
      expected := expected
      seeded := values_seedIdentitySlices codec seeds
      reseeded := mem_keys_seedIdentitySlices codec seeds
      pointersDiffer := by
        intro first _ second _ same
        exact (indexPointerKey_inj.mp same).2
      listed := listed
      published := by
        intro bucket decision nowMs outcome sameRange returned notBlocked
          windowMs windowStartMs
        subst sameRange
        split_ifs with published
        · obtain ⟨rfl, member⟩ := published
          rw [runDecision_pointerAt_of_ok returned member,
            if_neg notBlocked]
        · rw [runDecision_pointerAt, if_neg]
          rintro ⟨_, sameWindow, member, _⟩
          exact published ⟨sameWindow, member⟩
      audited := by
        intro listFails bucket
        rw [runL1IndexAudit_ok_iff nonempty
          (Int.tmod_eq_zero_of_dvd startWhole)
          (Int.tmod_eq_zero_of_dvd endWhole) expected listed]
        simp only [List.forall_mem_map, OrderedMap.mem_keys_iff,
          pointerAt, Option.isSome_iff_exists] }

/-- A range of three seconds has such a grid. -/
theorem oneWindowGrid_threeSeconds :
    OneWindowGrid btcCodec .withDefaults ⟨0, 3000⟩ :=
  oneWindowGrid btcCodec
    (show validateRange 0 3000 defaultWindowMs 1000 = .ok () by decide)
    (by decide) (by decide)

end Windows

end MarketIngest.Normalize
