import MarketIngest.UniverseRollup
import Mathlib.Algebra.Order.Group.Multiset

namespace MarketIngest.Normalize

/-!
# Merging rollups in any order

Runs of one day are merged one after the other, in the order in which they
happen to finish, and a run may be merged again.  Each different window is
merged once: a rollup whose window is already recorded changes nothing.  So
the result depends on the set of rollups only, up to the order in which windows
and spread samples are listed.
-/

variable
  {Number : Type}
  [NumberFormat Number]

/-- Start and end of a window. -/
def SymbolUniverseBootstrapSourceWindow.bounds
    (window : SymbolUniverseBootstrapSourceWindow) : Int × Int :=
  (window.sourceWindowStartMs, window.sourceWindowEndMs)

/-- Windows have the same bounds if start and end agree. -/
theorem sameBounds_eq_decide
    (left right : SymbolUniverseBootstrapSourceWindow) :
    left.sameBounds right = decide (left.bounds = right.bounds) := by
  simp [SymbolUniverseBootstrapSourceWindow.sameBounds,
    SymbolUniverseBootstrapSourceWindow.bounds]

/-- The bounds of the windows of a rollup. -/
def SymbolUniverseBootstrapRollup.windowBounds
    (rollup : SymbolUniverseBootstrapRollup Number) : List (Int × Int) :=
  rollup.sourceWindows.map (fun window => window.bounds)

/-- Merge rollups one after the other, beginning without a rollup. -/
def mergeAll
    (sha256Hex : String → String)
    (rollups : List (SymbolUniverseBootstrapRollup Number)) :
    Option (SymbolUniverseBootstrapRollup Number) :=
  rollups.foldl
    (fun existing current =>
      some (mergeSymbolUniverseBootstrapRollup sha256Hex existing current))
    none

/-- What rollups count of a symbol; the order of samples does not matter. -/
structure SymbolTotals (Number : Type) where
  windowCount : Int
  gapCount : Int
  tradedNotionalSum : Number
  spreadSamples : Multiset Number

/-- The totals of the statistics of a symbol. -/
def SymbolUniverseBootstrapSymbolStats.totals
    (stats : SymbolUniverseBootstrapSymbolStats Number) :
    SymbolTotals Number where
  windowCount := stats.windowCount
  gapCount := stats.gapCount
  tradedNotionalSum := stats.tradedNotionalSum
  spreadSamples := stats.spreadBpsMedianSamples

/-- The totals of a symbol among the symbols of a rollup. -/
def totalsAmong
    (symbols : List (SymbolUniverseBootstrapSymbolStats Number))
    (symbolCanonical : String) : Option (SymbolTotals Number) :=
  (symbols.find?
    (fun symbol => symbol.symbolCanonical = symbolCanonical)).map
      (fun stats => stats.totals)

/-- Add the totals of two symbols, either of which may be missing. -/
def addTotals :
    Option (SymbolTotals Number) →
    Option (SymbolTotals Number) →
    Option (SymbolTotals Number)
  | none, current => current
  | some existing, none => some existing
  | some existing, some current =>
      some
        { windowCount := existing.windowCount + current.windowCount
          gapCount := existing.gapCount + current.gapCount
          tradedNotionalSum :=
            existing.tradedNotionalSum + current.tradedNotionalSum
          spreadSamples :=
            existing.spreadSamples + current.spreadSamples }

/-- Merging the statistics of a symbol adds their totals. -/
theorem totals_combineStats
    (existing current :
      Option (SymbolUniverseBootstrapSymbolStats Number)) :
    (combineStats existing current).map (fun stats => stats.totals) =
      addTotals (existing.map (fun stats => stats.totals))
        (current.map (fun stats => stats.totals)) := by
  cases existing with
  | none => rfl
  | some known =>
      cases current with
      | none => rfl
      | some stats =>
          simp [combineStats, addTotals, mergeSymbolRollup,
            SymbolUniverseBootstrapSymbolStats.totals]

/-- Without rounding, totals can be added in either order. -/
theorem addTotals_right_comm
    [ExactAddition Number]
    (totals first second : Option (SymbolTotals Number)) :
    addTotals (addTotals totals first) second =
      addTotals (addTotals totals second) first := by
  cases totals with
  | none =>
      cases first with
      | none => cases second <;> rfl
      | some known =>
          cases second with
          | none => rfl
          | some stats =>
              simp only [addTotals, Option.some.injEq,
                SymbolTotals.mk.injEq]
              exact ⟨Int.add_comm _ _, Int.add_comm _ _,
                ExactAddition.add_comm _ _, add_comm _ _⟩
  | some sum =>
      cases first with
      | none => cases second <;> rfl
      | some known =>
          cases second with
          | none => rfl
          | some stats =>
              simp only [addTotals, Option.some.injEq,
                SymbolTotals.mk.injEq]
              exact ⟨Int.add_right_comm _ _ _, Int.add_right_comm _ _ _,
                add_right_comm_of_exact _ _ _, add_right_comm _ _ _⟩

/-- A rollup of a day as a run builds it: of exactly one window. -/
structure RunRollup
    (day : Int)
    (rollup : SymbolUniverseBootstrapRollup Number) : Prop where
  form : RollupOfDay day rollup
  oneWindow : ∃ bounds, rollup.windowBounds = [bounds]

/-- Rollups of runs of a day; the same window has the same symbols. -/
structure RunFamily
    (day : Int)
    (rollups : List (SymbolUniverseBootstrapRollup Number)) : Prop where
  each : ∀ rollup ∈ rollups, RunRollup day rollup
  consistent :
    ∀ first ∈ rollups, ∀ second ∈ rollups,
      first.windowBounds = second.windowBounds →
      first.symbols = second.symbols

/-- A rollup holds each of the given ones, which have different windows. -/
structure MergedFrom
    (day : Int)
    (seen : List (SymbolUniverseBootstrapRollup Number))
    (merged : SymbolUniverseBootstrapRollup Number) : Prop where
  form : RollupOfDay day merged
  windows :
    merged.windowBounds.Perm
      (seen.flatMap (fun rollup => rollup.windowBounds))
  totals :
    ∀ symbol,
      totalsAmong merged.symbols symbol =
        seen.foldl
          (fun totals rollup =>
            addTotals totals (totalsAmong rollup.symbols symbol))
          none

/-- The symbols of a rollup are in ascending order. -/
def SymbolsAscending
    (rollup : SymbolUniverseBootstrapRollup Number) : Prop :=
  (rollup.symbols.map (fun symbol => symbol.symbolCanonical)).Pairwise
    (fun left right => left < right)

section Steps

variable
  {sha256Hex : String → String}
  {day : Int}
  {existing current : SymbolUniverseBootstrapRollup Number}

omit [NumberFormat Number] in
/-- The windows are new if no bounds are shared. -/
theorem newWindows_iff_disjoint :
    NewWindows existing current ↔
      ∀ bounds ∈ existing.windowBounds, bounds ∉ current.windowBounds := by
  simp only [NewWindows, sameBounds_eq_decide, decide_eq_false_iff_not,
    SymbolUniverseBootstrapRollup.windowBounds, List.mem_map,
    not_exists, not_and, forall_exists_index, and_imp]
  constructor
  · rintro new bounds seen member rfl window windowMember same
    exact new seen member window windowMember same.symm
  · intro disjoint seen member window windowMember same
    exact disjoint seen.bounds seen member rfl window windowMember
      same.symm

/-- A rollup of a recorded window changes nothing. -/
theorem merge_of_recorded
    (existingForm : RollupOfDay day existing)
    (currentForm : RollupOfDay day current)
    (recorded : ¬ NewWindows existing current) :
    mergeSymbolUniverseBootstrapRollup sha256Hex (some existing) current =
      existing := by
  have accepted :
      ¬ (existing.dayStartMs ≠ current.dayStartMs ∨
        existing.schemaVersion ≠
          symbolUniverseBootstrapRollupSchemaVersion) := by
    simp [existingForm.day, currentForm.day, existingForm.schema]
  have seen :
      current.sourceWindows.any (fun window =>
        existing.sourceWindows.any (fun seen =>
          seen.sameBounds window)) = true := by
    simp only [NewWindows, not_forall] at recorded
    obtain ⟨known, knownMember, window, windowMember, same⟩ := recorded
    simp only [List.any_eq_true]
    exact ⟨window, windowMember, known, knownMember, by simpa using same⟩
  simp only [mergeSymbolUniverseBootstrapRollup, if_neg accepted,
    if_pos seen]

/-- Merging a new window records the bounds of both sides. -/
theorem merge_windowBounds
    (existingForm : RollupOfDay day existing)
    (currentForm : RollupOfDay day current)
    (new : NewWindows existing current) :
    (mergeSymbolUniverseBootstrapRollup sha256Hex (some existing)
        current).windowBounds.Perm
      (existing.windowBounds ++ current.windowBounds) := by
  rw [SymbolUniverseBootstrapRollup.windowBounds,
    SymbolUniverseBootstrapRollup.windowBounds,
    SymbolUniverseBootstrapRollup.windowBounds, ← List.map_append]
  exact (merge_sourceWindows_perm existingForm currentForm new).map _

/-- Merging a new window adds the totals of its symbols. -/
theorem merge_totalsAmong
    (existingForm : RollupOfDay day existing)
    (currentForm : RollupOfDay day current)
    (new : NewWindows existing current)
    (symbol : String) :
    totalsAmong
        (mergeSymbolUniverseBootstrapRollup sha256Hex (some existing)
          current).symbols symbol =
      addTotals (totalsAmong existing.symbols symbol)
        (totalsAmong current.symbols symbol) := by
  have merged :=
    @merge_symbolStats? _ _ sha256Hex _ _ _ existingForm currentForm new
      symbol
  unfold SymbolUniverseBootstrapRollup.symbolStats? at merged
  rw [totalsAmong, merged, totals_combineStats]
  rfl

/-- The first rollup is merged from itself. -/
private theorem MergedFrom.single
    (currentForm : RollupOfDay day current) :
    MergedFrom day [current]
      (mergeSymbolUniverseBootstrapRollup sha256Hex none current) where
  form := currentForm
  windows := by
    simp [mergeSymbolUniverseBootstrapRollup]
  totals := by
    intro symbol
    simp [mergeSymbolUniverseBootstrapRollup, addTotals]

/-- A rollup of a new window is merged with those already seen. -/
private theorem MergedFrom.extend
    {seen : List (SymbolUniverseBootstrapRollup Number)}
    (merged : MergedFrom day seen existing)
    (currentForm : RollupOfDay day current)
    (new : NewWindows existing current) :
    MergedFrom day (seen ++ [current])
      (mergeSymbolUniverseBootstrapRollup sha256Hex (some existing)
        current) where
  form := merged.form.merge currentForm new
  windows := by
    rw [List.flatMap_append]
    refine (merge_windowBounds merged.form currentForm new).trans ?_
    simpa using merged.windows.append_right current.windowBounds
  totals := by
    intro symbol
    rw [merge_totalsAmong merged.form currentForm new,
      merged.totals symbol, List.foldl_append]
    rfl

/-- The rollups that were merged: one of each window that occurs. -/
structure SeenAmong
    (rollups seen : List (SymbolUniverseBootstrapRollup Number)) :
    Prop where
  subset : ∀ rollup ∈ seen, rollup ∈ rollups
  distinct :
    seen.Pairwise
      (fun first second => first.windowBounds ≠ second.windowBounds)
  covers :
    ∀ rollup ∈ rollups, ∃ known ∈ seen,
      known.windowBounds = rollup.windowBounds

/-- A rollup whose window is recorded was seen with that window. -/
private theorem seen_of_recorded
    {seen : List (SymbolUniverseBootstrapRollup Number)}
    (merged : MergedFrom day seen existing)
    (each : ∀ rollup ∈ seen, RunRollup day rollup)
    (currentRun : RunRollup day current)
    (recorded : ¬ NewWindows existing current) :
    ∃ known ∈ seen, known.windowBounds = current.windowBounds := by
  rw [newWindows_iff_disjoint] at recorded
  simp only [not_forall, not_not] at recorded
  obtain ⟨bounds, member, shared⟩ := recorded
  obtain ⟨known, knownMember, knownBounds⟩ :=
    List.mem_flatMap.mp (merged.windows.mem_iff.mp member)
  obtain ⟨own, ownShape⟩ := currentRun.oneWindow
  obtain ⟨other, otherShape⟩ := (each known knownMember).oneWindow
  rw [ownShape, List.mem_singleton] at shared
  rw [otherShape, List.mem_singleton] at knownBounds
  exact ⟨known, knownMember, by
    rw [ownShape, otherShape, ← shared, ← knownBounds]⟩

/-- A rollup with a new window was not seen before. -/
private theorem unseen_of_new
    {seen : List (SymbolUniverseBootstrapRollup Number)}
    (merged : MergedFrom day seen existing)
    (currentRun : RunRollup day current)
    (new : NewWindows existing current)
    {known : SymbolUniverseBootstrapRollup Number}
    (member : known ∈ seen) :
    known.windowBounds ≠ current.windowBounds := by
  intro same
  obtain ⟨own, ownShape⟩ := currentRun.oneWindow
  refine newWindows_iff_disjoint.mp new own ?_ (by simp [ownShape])
  exact merged.windows.mem_iff.mpr
    (List.mem_flatMap.mpr ⟨known, member, by simp [same, ownShape]⟩)

/-- One more rollup is either merged or already seen. -/
private theorem merged_step
    {rollups seen : List (SymbolUniverseBootstrapRollup Number)}
    (each : ∀ rollup ∈ rollups, RunRollup day rollup)
    (among : SeenAmong rollups seen)
    (merged : MergedFrom day seen existing)
    (currentRun : RunRollup day current) :
    ∃ seenAfter,
      SeenAmong (rollups ++ [current]) seenAfter ∧
        MergedFrom day seenAfter
          (mergeSymbolUniverseBootstrapRollup sha256Hex (some existing)
            current) := by
  have seenEach : ∀ rollup ∈ seen, RunRollup day rollup :=
    fun rollup member => each rollup (among.subset rollup member)
  by_cases new : NewWindows existing current
  · refine ⟨seen ++ [current], ⟨?_, ?_, ?_⟩,
      merged.extend currentRun.form new⟩
    · intro rollup member
      rcases List.mem_append.mp member with earlier | last
      · exact List.mem_append_left _ (among.subset rollup earlier)
      · exact List.mem_append_right _ last
    · refine List.pairwise_append.mpr
        ⟨among.distinct, List.pairwise_singleton _ _, ?_⟩
      intro known member last lastMember
      rw [List.mem_singleton.mp lastMember]
      exact unseen_of_new merged currentRun new member
    · intro rollup member
      rcases List.mem_append.mp member with earlier | last
      · obtain ⟨known, knownMember, same⟩ := among.covers rollup earlier
        exact ⟨known, List.mem_append_left _ knownMember, same⟩
      · exact ⟨rollup, List.mem_append_right _ last, rfl⟩
  · rw [merge_of_recorded merged.form currentRun.form new]
    refine ⟨seen, ⟨?_, among.distinct, ?_⟩, merged⟩
    · intro rollup member
      exact List.mem_append_left _ (among.subset rollup member)
    · intro rollup member
      rcases List.mem_append.mp member with earlier | last
      · exact among.covers rollup earlier
      · rw [List.mem_singleton.mp last]
        exact seen_of_recorded merged seenEach currentRun new

/-- Merging some rollups merges one of each window that occurs. -/
private theorem mergeAll_merged
    (sha256Hex : String → String)
    (rollups : List (SymbolUniverseBootstrapRollup Number))
    (each : ∀ rollup ∈ rollups, RunRollup day rollup)
    (nonempty : rollups ≠ []) :
    ∃ merged seen,
      mergeAll sha256Hex rollups = some merged ∧
        SeenAmong rollups seen ∧
        MergedFrom day seen merged := by
  induction rollups using List.reverseRecOn with
  | nil =>
      exact absurd rfl nonempty
  | append_singleton earlier current inductionHypothesis =>
      have currentRun := each current (by simp)
      have earlierEach : ∀ rollup ∈ earlier, RunRollup day rollup :=
        fun rollup member => each rollup (by simp [member])
      by_cases first : earlier = []
      · subst first
        refine ⟨_, [current], rfl, ⟨?_, ?_, ?_⟩,
          .single currentRun.form⟩
        · simp
        · exact List.pairwise_singleton _ _
        · intro rollup member
          exact ⟨rollup, member, rfl⟩
      · obtain ⟨merged, seen, result, among, source⟩ :=
          inductionHypothesis earlierEach first
        obtain ⟨seenAfter, amongAfter, fromAfter⟩ :=
          merged_step earlierEach among source currentRun
        refine ⟨_, seenAfter, ?_, amongAfter, fromAfter⟩
        rw [mergeAll, List.foldl_append]
        rw [mergeAll] at result
        rw [result]
        rfl

/-- Symbols in ascending order stay so. -/
private theorem mergeAll_ascending
    (sha256Hex : String → String)
    (rollups : List (SymbolUniverseBootstrapRollup Number))
    (each : ∀ rollup ∈ rollups, RunRollup day rollup)
    (ascending : ∀ rollup ∈ rollups, SymbolsAscending rollup)
    {merged : SymbolUniverseBootstrapRollup Number}
    (result : mergeAll sha256Hex rollups = some merged) :
    SymbolsAscending merged := by
  induction rollups using List.reverseRecOn generalizing merged with
  | nil =>
      cases result
  | append_singleton earlier current inductionHypothesis =>
      have currentRun := each current (by simp)
      have earlierEach : ∀ rollup ∈ earlier, RunRollup day rollup :=
        fun rollup member => each rollup (by simp [member])
      rw [mergeAll, List.foldl_append] at result
      have shape := (Option.some.inj result).symm
      by_cases first : earlier = []
      · subst first
        rw [shape]
        exact ascending current (by simp)
      · obtain ⟨before, seen, beforeResult, -, source⟩ :=
          mergeAll_merged sha256Hex earlier earlierEach first
        have beforeAscending :=
          inductionHypothesis earlierEach
            (fun rollup member => ascending rollup (by simp [member]))
            beforeResult
        rw [mergeAll] at beforeResult
        rw [beforeResult] at shape
        rw [shape]
        by_cases new : NewWindows before current
        · exact merge_symbols_ascending source.form currentRun.form new
        · rw [merge_of_recorded source.form currentRun.form new]
          exact beforeAscending

end Steps

/-- Two rollups agree on windows and on what they count of every symbol. -/
structure SameRollup
    (first second : SymbolUniverseBootstrapRollup Number) : Prop where
  windows : first.windowBounds.Perm second.windowBounds
  firstDistinct : first.windowBounds.Nodup
  secondDistinct : second.windowBounds.Nodup
  totals :
    ∀ symbol,
      totalsAmong first.symbols symbol = totalsAmong second.symbols symbol

/-- Two merges give no rollup or rollups that agree. -/
def SameMerge :
    Option (SymbolUniverseBootstrapRollup Number) →
    Option (SymbolUniverseBootstrapRollup Number) → Prop
  | none, none => True
  | some first, some second => SameRollup first second
  | _, _ => False

section Orders

variable
  {day : Int}
  {first second : List (SymbolUniverseBootstrapRollup Number)}

omit [NumberFormat Number] in
/-- The windows of a rollup of a day have different bounds. -/
private theorem windowBounds_nodup
    {rollup : SymbolUniverseBootstrapRollup Number}
    (form : RollupOfDay day rollup) :
    rollup.windowBounds.Nodup := by
  rw [List.Nodup, SymbolUniverseBootstrapRollup.windowBounds,
    List.pairwise_map]
  refine form.windows.imp ?_
  intro left right different
  simpa [sameBounds_eq_decide] using different

omit [NumberFormat Number] in
/-- What is seen of the same rollups differs in its order only. -/
private theorem seen_perm
    (family : RunFamily day first)
    (same : ∀ rollup, rollup ∈ first ↔ rollup ∈ second)
    {firstSeen secondSeen :
      List (SymbolUniverseBootstrapRollup Number)}
    (firstAmong : SeenAmong first firstSeen)
    (secondAmong : SeenAmong second secondSeen) :
    (firstSeen.map (fun rollup =>
        (rollup.windowBounds, rollup.symbols))).Perm
      (secondSeen.map (fun rollup =>
        (rollup.windowBounds, rollup.symbols))) := by
  have distinct
      {rollups seen : List (SymbolUniverseBootstrapRollup Number)}
      (among : SeenAmong rollups seen) :
      (seen.map (fun rollup =>
        (rollup.windowBounds, rollup.symbols))).Nodup := by
    rw [List.Nodup, List.pairwise_map]
    refine among.distinct.imp ?_
    intro left right different equal
    exact different (congrArg Prod.fst equal)
  -- A window that one order has seen was seen by the other order as well.
  have shared
      {rollups others seen known :
        List (SymbolUniverseBootstrapRollup Number)}
      (among : SeenAmong rollups seen)
      (knownAmong : SeenAmong others known)
      (included : ∀ rollup ∈ rollups, rollup ∈ others)
      (inFirst : ∀ rollup ∈ others, rollup ∈ first)
      {entry :
        List (Int × Int) ×
          List (SymbolUniverseBootstrapSymbolStats Number)}
      (member :
        entry ∈ seen.map (fun rollup =>
          (rollup.windowBounds, rollup.symbols))) :
      entry ∈ known.map (fun rollup =>
        (rollup.windowBounds, rollup.symbols)) := by
    obtain ⟨rollup, rollupMember, rfl⟩ := List.mem_map.mp member
    have inOthers := included rollup (among.subset rollup rollupMember)
    obtain ⟨twin, twinMember, sameBounds⟩ :=
      knownAmong.covers rollup inOthers
    have sameSymbols :=
      family.consistent twin
        (inFirst twin (knownAmong.subset twin twinMember)) rollup
        (inFirst rollup inOthers) sameBounds
    exact List.mem_map.mpr
      ⟨twin, twinMember, by rw [sameBounds, sameSymbols]⟩
  refine (List.perm_ext_iff_of_nodup (distinct firstAmong)
    (distinct secondAmong)).mpr ?_
  intro entry
  constructor
  · exact shared firstAmong secondAmong
      (fun rollup => (same rollup).mp) (fun rollup => (same rollup).mpr)
  · exact shared secondAmong firstAmong
      (fun rollup => (same rollup).mpr) (fun _ member => member)

/--
Rollups of runs of one day give the same windows, without duplicates, and the
same totals of every symbol, in whatever order and however often they are
merged, and symbols stay unique and in ascending order.
-/
theorem mergeAll_order_independent
    [ExactAddition Number]
    (sha256Hex : String → String)
    (family : RunFamily day first)
    (same : ∀ rollup, rollup ∈ first ↔ rollup ∈ second) :
    SameMerge (mergeAll sha256Hex first) (mergeAll sha256Hex second) ∧
      ∀ merged, mergeAll sha256Hex first = some merged →
        (merged.symbols.map (fun symbol => symbol.symbolCanonical)).Nodup ∧
          ((∀ rollup ∈ first, SymbolsAscending rollup) →
            SymbolsAscending merged) := by
  by_cases empty : first = []
  · have alsoEmpty : second = [] := by
      rw [List.eq_nil_iff_forall_not_mem]
      intro rollup member
      have absent := (same rollup).mpr member
      rw [empty] at absent
      cases absent
    subst empty alsoEmpty
    refine ⟨trivial, ?_⟩
    intro merged result
    cases result
  · have secondEach : ∀ rollup ∈ second, RunRollup day rollup :=
      fun rollup member => family.each rollup ((same rollup).mpr member)
    have secondNonempty : second ≠ [] := by
      obtain ⟨rollup, member⟩ := List.exists_mem_of_ne_nil first empty
      exact List.ne_nil_of_mem ((same rollup).mp member)
    obtain ⟨firstMerged, firstSeen, firstResult, firstAmong,
      firstSource⟩ :=
      mergeAll_merged sha256Hex first family.each empty
    obtain ⟨secondMerged, secondSeen, secondResult, secondAmong,
      secondSource⟩ :=
      mergeAll_merged sha256Hex second secondEach secondNonempty
    have permuted := seen_perm family same firstAmong secondAmong
    rw [firstResult, secondResult]
    refine ⟨⟨?_, windowBounds_nodup firstSource.form,
      windowBounds_nodup secondSource.form, ?_⟩, ?_⟩
    · refine firstSource.windows.trans (.trans ?_
        secondSource.windows.symm)
      have bounds := permuted.flatMap_right (fun entry => entry.1)
      rwa [List.flatMap_map, List.flatMap_map] at bounds
    · intro symbol
      rw [firstSource.totals, secondSource.totals]
      let addEntry
          (totals : Option (SymbolTotals Number))
          (entry :
            List (Int × Int) ×
              List (SymbolUniverseBootstrapSymbolStats Number)) :=
        addTotals totals (totalsAmong entry.2 symbol)
      let _ : RightCommutative addEntry :=
        ⟨fun _ _ _ => addTotals_right_comm _ _ _⟩
      have totals := permuted.foldl_eq (f := addEntry) none
      rwa [List.foldl_map, List.foldl_map] at totals
    · intro merged result
      obtain rfl := Option.some.inj result
      exact ⟨firstSource.form.symbols, fun ascending =>
        mergeAll_ascending sha256Hex first family.each ascending
          firstResult⟩

/-- The rollup of one of the first two hours, with one symbol. -/
def hourRollup (second : Bool) : SymbolUniverseBootstrapRollup ℚ where
  schemaVersion := symbolUniverseBootstrapRollupSchemaVersion
  rollupId := if second then "second" else "first"
  eventDate := "1970-01-01"
  dayStartMs := 0
  generatedAtMs := 7200000
  updatedByL1RunId := if second then "second" else "first"
  sourceWindows :=
    [if second then ⟨"second", 3600000, 7200000⟩
      else ⟨"first", 0, 3600000⟩]
  symbols :=
    [{ symbolCanonical := "BTC"
       executionSymbolNative := none
       referenceSymbolNative := some "BTCUSDT"
       tradedNotionalSum := if second then 1 / 10 else 1 / 5
       spreadBpsMedianSamples := [if second then 2 else 3]
       gapCount := if second then 1 else 0
       windowCount := 3600
       mappingConfidence := "moderate" }]

/-- The two hours are rollups of runs of the first day. -/
private theorem hourRollup_family :
    RunFamily 0 [hourRollup false, hourRollup true] where
  each := by
    intro rollup member
    simp only [List.mem_cons, List.not_mem_nil, or_false] at member
    rcases member with rfl | rfl
    · exact ⟨⟨rfl, rfl, List.pairwise_singleton _ _, by decide⟩,
        _, rfl⟩
    · exact ⟨⟨rfl, rfl, List.pairwise_singleton _ _, by decide⟩,
        _, rfl⟩
  consistent := by
    intro first firstMember second secondMember sameBounds
    simp only [List.mem_cons, List.not_mem_nil,
      or_false] at firstMember secondMember
    rcases firstMember with rfl | rfl
    · rcases secondMember with rfl | rfl
      · rfl
      · exact absurd sameBounds (by decide)
    · rcases secondMember with rfl | rfl
      · exact absurd sameBounds (by decide)
      · rfl

/-- The digest of the one text that a merge of the two hours hashes. -/
def hourSha256Hex (_ : String) : String :=
  "6242b928c09ac17ef083a67714c9f848c8e45e53356d7cdf11ee462ed3dd1b8c"

/-- Two hours can be merged the other way round and again. -/
theorem hourRollups_order_independent :
    SameMerge
      (mergeAll hourSha256Hex [hourRollup false, hourRollup true])
      (mergeAll hourSha256Hex
        [hourRollup true, hourRollup false, hourRollup true]) :=
  (mergeAll_order_independent hourSha256Hex hourRollup_family (by
    intro rollup
    simp only [List.mem_cons, List.not_mem_nil, or_false]
    tauto)).1

end Orders

end MarketIngest.Normalize
