import MarketIngest.Runs
import MarketIngest.S3Bucket
import MarketIngest.UniverseRollup
import Mathlib.Logic.Function.Basic

namespace MarketIngest.Normalize

open S3

/-!
# Concurrent publication of daily rollups

Every run reads the rollups of its last days, merges its own ones into what it
read, and replaces the stored objects without a condition.  Runs interleave
freely.  What a day holds in the end is what all completed uploads contributed
if and only if every upload replaced the version that its run had read.
-/

/-- A run that publishes rollups of the days its slices are of. -/
structure RollupRun where
  l1RunId : String
  inputRange : InputRange
  finishedAtMs : Int
  slices : List SliceRow
  dated :
    ∀ row ∈ slices, representableTimestamp row.windowStartMs = true

/-- The window that a run contributes. -/
def RollupRun.window
    (run : RollupRun) : SymbolUniverseBootstrapSourceWindow where
  l1RunId := run.l1RunId
  sourceWindowStartMs := run.inputRange.startMs
  sourceWindowEndMs := run.inputRange.endMs

/-- What a run has read. -/
structure BootstrapRollupReadResult where
  rollups : List SymbolUniverseBootstrapRollup
  missingCount : Nat
  invalidCount : Nat

/-- What happens to one GET. -/
inductive GetOutcome where
  | answered
  | unreadable
  | failed
  deriving Repr, DecidableEq

/-- How far the publication of a run is. -/
inductive PublisherState where
  | reading (days : List Int) (read : BootstrapRollupReadResult)
  | publishing
      (read : BootstrapRollupReadResult)
      (remaining : List SymbolUniverseBootstrapRollup)
  | finished
  | failed

/-- The stored rollups by key. -/
abbrev RollupStore := OrderedMap String SymbolUniverseBootstrapRollup

/-- Read the rollup of one day; a failed request ends the run. -/
def readDay
    (store : RollupStore)
    (day : Int)
    (read : BootstrapRollupReadResult)
    (outcome : GetOutcome) : Option BootstrapRollupReadResult :=
  match store.get? (symbolUniverseBootstrapRollupObjectKey day),
      outcome with
  | _, .failed => none
  | none, _ => some { read with missingCount := read.missingCount + 1 }
  | some rollup, .answered =>
      some { read with rollups := read.rollups ++ [rollup] }
  | some _, .unreadable =>
      some { read with invalidCount := read.invalidCount + 1 }

/-- All days are read. -/
def BootstrapRollupReadResult.sorted
    (read : BootstrapRollupReadResult) : BootstrapRollupReadResult :=
  { read with
    rollups :=
      read.rollups.insertionSort
        (fun left right => left.dayStartMs ≤ right.dayStartMs) }

/-- Take the rollup of a day out of what was read. -/
def takeExistingRollup
    (read : BootstrapRollupReadResult)
    (day : Int) :
    Option SymbolUniverseBootstrapRollup × BootstrapRollupReadResult :=
  (read.rollups.find? (fun rollup => rollup.dayStartMs = day),
    { read with
      rollups :=
        read.rollups.eraseP (fun rollup => rollup.dayStartMs = day) })

/-- Go on with what was read and the merged rollup, or end with an error. -/
def afterUpload
    (others : BootstrapRollupReadResult)
    (merged : SymbolUniverseBootstrapRollup)
    (rest : List SymbolUniverseBootstrapRollup)
    (put : PutOutcome) : PublisherState :=
  if put.acknowledged then
    .publishing { others with rollups := others.rollups ++ [merged] } rest
  else
    .failed

/-- The store and the publications that share it. -/
structure PublicationState (Run : Type) where
  store : RollupStore
  publishers : Run → PublisherState
  completed : List SymbolUniverseBootstrapRollup

/-- One run makes its next request or, without one to make, its next step. -/
structure PublicationAction (Run : Type) where
  run : Run
  get : GetOutcome
  put : PutOutcome

section Steps

variable {Run : Type} [DecidableEq Run]

/-- A run goes on without changing the store. -/
def PublicationState.advance
    (state : PublicationState Run)
    (run : Run)
    (publisher : PublisherState) : PublicationState Run :=
  { state with
    publishers := Function.update state.publishers run publisher }

/-- A run replaces the rollup of a day. -/
def PublicationState.upload
    (state : PublicationState Run)
    (current merged : SymbolUniverseBootstrapRollup) :
    PublicationState Run :=
  { state with
    store :=
      state.store.insert
        (symbolUniverseBootstrapRollupObjectKey current.dayStartMs) merged
    completed := state.completed ++ [current] }

/-- One step of one run. -/
def stepPublication
    (sha256Hex : String → String)
    (input : Run → RollupRun)
    (state : PublicationState Run)
    (action : PublicationAction Run) : PublicationState Run :=
  match state.publishers action.run with
  | .reading [] read =>
      let run := input action.run
      state.advance action.run
        (.publishing read.sorted
          (buildSymbolUniverseBootstrapRollups sha256Hex run.l1RunId
            run.inputRange run.finishedAtMs run.slices))
  | .reading (day :: days) read =>
      match readDay state.store day read action.get with
      | some after => state.advance action.run (.reading days after)
      | none => state.advance action.run .failed
  | .publishing _ [] => state.advance action.run .finished
  | .publishing read (current :: rest) =>
      let (existing, others) :=
        takeExistingRollup read current.dayStartMs
      let merged :=
        mergeSymbolUniverseBootstrapRollup sha256Hex existing current
      let after :=
        if action.put.applied then state.upload current merged else state
      after.advance action.run
        (afterUpload others merged rest action.put)
  | .finished => state
  | .failed => state

/-- What the completed uploads of a day contributed, in their order. -/
def PublicationState.completedOf
    (state : PublicationState Run)
    (day : UtcDay) : List SymbolUniverseBootstrapRollup :=
  state.completed.filter (fun current => current.dayStartMs = day.startMs)

/-- The stored rollup of a day. -/
def PublicationState.latest?
    (state : PublicationState Run)
    (day : UtcDay) : Option SymbolUniverseBootstrapRollup :=
  state.store.get? day.key

/-- The windows of a version of a day; nothing stored has none. -/
def windowsOf :
    Option SymbolUniverseBootstrapRollup →
    List SymbolUniverseBootstrapSourceWindow
  | none => []
  | some rollup => rollup.sourceWindows

/-- The windows of all completed uploads are in the stored rollup. -/
def ContainsWindows
    (day : UtcDay)
    (state : PublicationState Run) : Prop :=
  ∀ current ∈ state.completedOf day,
    ∀ window ∈ current.sourceWindows,
      window ∈ windowsOf (state.latest? day)

/-- Every symbol has what all completed uploads contributed to it. -/
def ContainsSymbols
    (day : UtcDay)
    (state : PublicationState Run) : Prop :=
  ∀ name,
    (state.latest? day).bind (fun latest => latest.symbolStats? name) =
      (state.completedOf day).foldl
        (fun stats current =>
          combineStats stats (current.symbolStats? name))
        none

/-- An upload for the day replaces the version that its run has read. -/
def ReplacesWhatItRead
    (day : UtcDay)
    (state : PublicationState Run)
    (action : PublicationAction Run) : Prop :=
  ∀ read current rest,
    state.publishers action.run = .publishing read (current :: rest) →
    current.dayStartMs = day.startMs →
    action.put.applied = true →
    (takeExistingRollup read day.startMs).1 = state.latest? day

end Steps

section Invariant

variable {Run : Type}

/-- What a run has read so far. -/
def PublisherState.read? :
    PublisherState → Option BootstrapRollupReadResult
  | .reading _ read => some read
  | .publishing read _ => some read
  | .finished => none
  | .failed => none

/-- A run may still upload a rollup of the day. -/
def PublisherState.mayUpload (day : UtcDay) : PublisherState → Prop
  | .reading _ _ => True
  | .publishing _ remaining =>
      ∃ current ∈ remaining, current.dayStartMs = day.startMs
  | .finished => False
  | .failed => False

/-- A rollup that a run builds. -/
structure BuiltBy
    (run : RollupRun)
    (rollup : SymbolUniverseBootstrapRollup) : Prop where
  form : RollupOfDay rollup.dayStartMs rollup
  window : rollup.sourceWindows = [run.window]
  dated : ∃ day : UtcDay, day.startMs = rollup.dayStartMs

/-- What a run has left to upload is its own, for different days. -/
def PublisherState.OwnRollups (run : RollupRun) : PublisherState → Prop
  | .publishing _ remaining =>
      (remaining.map (fun current => current.dayStartMs)).Nodup ∧
        ∀ current ∈ remaining, BuiltBy run current
  | _ => True

/-- A version of a day has only windows of completed uploads. -/
structure VersionOf
    (day : UtcDay)
    (completed : List SymbolUniverseBootstrapRollup)
    (rollup : SymbolUniverseBootstrapRollup) : Prop where
  form : RollupOfDay day.startMs rollup
  known :
    ∀ window ∈ rollup.sourceWindows,
      ∃ done ∈ completed, window ∈ done.sourceWindows

/-- A version of the day is stored, or lacks a window of a completed upload. -/
def StoredOrBehind
    (day : UtcDay)
    (state : PublicationState Run)
    (rollup : SymbolUniverseBootstrapRollup) : Prop :=
  state.latest? day = some rollup ∨
    ∃ done ∈ state.completedOf day,
      ∃ window ∈ done.sourceWindows, window ∉ rollup.sourceWindows

/-- What holds of a day in every interleaving. -/
structure PublicationInvariant
    (input : Run → RollupRun)
    (day : UtcDay)
    (state : PublicationState Run) : Prop where
  filed :
    ∀ key rollup,
      state.store.get? key = some rollup →
      ∃ other : UtcDay,
        other.startMs = rollup.dayStartMs ∧ key = other.key
  latest :
    ∀ rollup,
      state.latest? day = some rollup →
      VersionOf day (state.completedOf day) rollup
  contributed :
    state.completedOf day = [] → state.latest? day = none
  readers :
    ∀ run read rollup,
      (state.publishers run).read? = some read →
      rollup ∈ read.rollups →
      rollup.dayStartMs = day.startMs →
      VersionOf day (state.completedOf day) rollup ∧
        StoredOrBehind day state rollup
  own :
    ∀ run, (state.publishers run).OwnRollups (input run)
  origin :
    ∀ done ∈ state.completedOf day,
      RollupOfDay day.startMs done ∧
        ∃ run,
          done.sourceWindows = [(input run).window] ∧
            ¬ (state.publishers run).mayUpload day
  symbols :
    ContainsWindows day state → ContainsSymbols day state

end Invariant

section Advances

variable
  {Run : Type} [DecidableEq Run]
  {input : Run → RollupRun}
  {day : UtcDay}
  {state : PublicationState Run}
  {run : Run}
  {publisher : PublisherState}

@[simp] theorem advance_latest? :
    (state.advance run publisher).latest? day = state.latest? day :=
  rfl

@[simp] theorem advance_completedOf :
    (state.advance run publisher).completedOf day =
      state.completedOf day :=
  rfl

@[simp] theorem advance_publishers_self :
    (state.advance run publisher).publishers run = publisher := by
  simp only [PublicationState.advance, Function.update_self]

theorem advance_publishers_other
    {other : Run}
    (different : other ≠ run) :
    (state.advance run publisher).publishers other =
      state.publishers other := by
  simp only [PublicationState.advance, Function.update_of_ne different]

/-- A run that goes on keeps the invariant, if its new state fits the store. -/
theorem PublicationInvariant.advance
    (invariant : PublicationInvariant input day state)
    (reads :
      ∀ read rollup,
        publisher.read? = some read →
        rollup ∈ read.rollups →
        rollup.dayStartMs = day.startMs →
        VersionOf day (state.completedOf day) rollup ∧
          StoredOrBehind day state rollup)
    (own : publisher.OwnRollups (input run))
    (uploads :
      publisher.mayUpload day →
      (state.publishers run).mayUpload day) :
    PublicationInvariant input day (state.advance run publisher) where
  filed := invariant.filed
  latest := invariant.latest
  contributed := invariant.contributed
  readers := by
    intro other read rollup isRead member sameDay
    by_cases same : other = run
    · rw [same, advance_publishers_self] at isRead
      exact reads read rollup isRead member sameDay
    · rw [advance_publishers_other same] at isRead
      exact invariant.readers other read rollup isRead member sameDay
  own := by
    intro other
    by_cases same : other = run
    · rw [same, advance_publishers_self]
      exact own
    · rw [advance_publishers_other same]
      exact invariant.own other
  origin := by
    intro done member
    obtain ⟨form, other, window, past⟩ := invariant.origin done member
    refine ⟨form, other, window, ?_⟩
    by_cases same : other = run
    · rw [same] at past
      rw [same, advance_publishers_self]
      exact fun may => past (uploads may)
    · rw [advance_publishers_other same]
      exact past
  symbols := invariant.symbols

end Advances

section Uploads

variable
  {Run : Type}
  {sha256Hex : String → String}
  {input : Run → RollupRun}
  {day : UtcDay}
  {state : PublicationState Run}
  {run : Run}
  {read : BootstrapRollupReadResult}
  {current merged : SymbolUniverseBootstrapRollup}
  {rest : List SymbolUniverseBootstrapRollup}

/-- A merge that starts from a rollup of the same day is of that day. -/
theorem merge_dayStartMs
    {existing : Option SymbolUniverseBootstrapRollup}
    (sameDay :
      ∀ rollup,
        existing = some rollup → rollup.dayStartMs = current.dayStartMs) :
    (mergeSymbolUniverseBootstrapRollup sha256Hex existing
      current).dayStartMs = current.dayStartMs := by
  cases existing with
  | none => rfl
  | some rollup =>
      simp only [mergeSymbolUniverseBootstrapRollup]
      split_ifs
      · rfl
      · exact sameDay rollup rfl
      · exact sameDay rollup rfl

/-- What is taken out of the read rollups was read, for the day. -/
theorem takeExistingRollup_some
    {startMs : Int}
    {rollup : SymbolUniverseBootstrapRollup}
    (taken : (takeExistingRollup read startMs).1 = some rollup) :
    rollup ∈ read.rollups ∧ rollup.dayStartMs = startMs :=
  ⟨List.mem_of_find?_eq_some taken,
    by simpa using List.find?_some taken⟩

/-- An upload for another day changes nothing of the day. -/
theorem upload_other_day
    (dated : ∃ other : UtcDay, other.startMs = current.dayStartMs)
    (different : current.dayStartMs ≠ day.startMs) :
    (state.upload current merged).latest? day = state.latest? day ∧
      (state.upload current merged).completedOf day =
        state.completedOf day := by
  obtain ⟨other, sameStart⟩ := dated
  have otherKey :
      day.key ≠
        symbolUniverseBootstrapRollupObjectKey current.dayStartMs := by
    intro same
    rw [← sameStart] at same different
    exact different (UtcDay.startMs_eq_of_key_eq same).symm
  constructor
  · exact OrderedMap.get?_insert_other _ otherKey _
  · simp [PublicationState.completedOf, PublicationState.upload,
      different]

/-- An upload for the day adds to it. -/
theorem upload_same_day
    (sameDay : current.dayStartMs = day.startMs) :
    (state.upload current merged).latest? day = some merged ∧
      (state.upload current merged).completedOf day =
        state.completedOf day ++ [current] := by
  constructor
  · rw [PublicationState.latest?, PublicationState.upload, UtcDay.key,
      sameDay]
    exact OrderedMap.get?_insert_same _ _ _
  · simp [PublicationState.completedOf, PublicationState.upload, sameDay]

/-- Uploads file their rollups under the key of their day. -/
private theorem upload_filed
    (invariant : PublicationInvariant input day state)
    (dated : ∃ other : UtcDay, other.startMs = current.dayStartMs)
    (mergedDay : merged.dayStartMs = current.dayStartMs)
    {key : String}
    {rollup : SymbolUniverseBootstrapRollup}
    (found :
      (state.upload current merged).store.get? key = some rollup) :
    ∃ other : UtcDay,
      other.startMs = rollup.dayStartMs ∧ key = other.key := by
  rw [PublicationState.upload] at found
  simp only [OrderedMap.get?_insert] at found
  split_ifs at found with same
  · obtain ⟨other, sameStart⟩ := dated
    refine ⟨other, ?_, ?_⟩
    · rw [← Option.some.inj found, mergedDay, sameStart]
    · rw [same, UtcDay.key, sameStart]
  · exact invariant.filed key rollup found

/-- An upload for another day keeps the invariant of the day. -/
private theorem PublicationInvariant.uploadOther
    (invariant : PublicationInvariant input day state)
    (dated : ∃ other : UtcDay, other.startMs = current.dayStartMs)
    (mergedDay : merged.dayStartMs = current.dayStartMs)
    (different : current.dayStartMs ≠ day.startMs) :
    PublicationInvariant input day (state.upload current merged) := by
  obtain ⟨sameLatest, sameCompleted⟩ :=
    @upload_other_day _ day state current merged dated different
  have samePublishers :
      (state.upload current merged).publishers = state.publishers :=
    rfl
  refine
    { filed := fun key rollup =>
        upload_filed invariant dated mergedDay
      latest := ?_
      contributed := ?_
      readers := ?_
      own := invariant.own
      origin := ?_
      symbols := ?_ }
  · rw [sameLatest, sameCompleted]
    exact invariant.latest
  · rw [sameLatest, sameCompleted]
    exact invariant.contributed
  · rw [samePublishers, sameCompleted]
    simp only [StoredOrBehind, sameLatest, sameCompleted]
    exact invariant.readers
  · rw [samePublishers, sameCompleted]
    exact invariant.origin
  · simp only [ContainsWindows, ContainsSymbols, sameLatest,
      sameCompleted]
    exact invariant.symbols

/-- A run is about to upload its rollup of the day. -/
private structure Uploading
    (input : Run → RollupRun)
    (day : UtcDay)
    (state : PublicationState Run)
    (run : Run)
    (read : BootstrapRollupReadResult)
    (current : SymbolUniverseBootstrapRollup)
    (rest : List SymbolUniverseBootstrapRollup) : Prop where
  distinct : Function.Injective (fun other => (input other).inputRange)
  invariant : PublicationInvariant input day state
  publishing : state.publishers run = .publishing read (current :: rest)
  sameDay : current.dayStartMs = day.startMs

/-- The rollup that a run uploads is its own. -/
private theorem Uploading.built
    (uploading : Uploading input day state run read current rest) :
    BuiltBy (input run) current := by
  have own := uploading.invariant.own run
  rw [uploading.publishing] at own
  exact own.2 current List.mem_cons_self

/-- The window of an upload is not the window of a completed one. -/
private theorem Uploading.newWindow
    (uploading : Uploading input day state run read current rest)
    {done : SymbolUniverseBootstrapRollup}
    (member : done ∈ state.completedOf day)
    {window : SymbolUniverseBootstrapSourceWindow}
    (windowMember : window ∈ done.sourceWindows) :
    window.sameBounds (input run).window = false := by
  obtain ⟨-, other, windows, past⟩ :=
    uploading.invariant.origin done member
  have different : other ≠ run := by
    rintro rfl
    refine past ?_
    rw [uploading.publishing]
    exact ⟨current, List.mem_cons_self, uploading.sameDay⟩
  rw [windows, List.mem_singleton] at windowMember
  by_contra same
  refine different (uploading.distinct ?_)
  simp only [windowMember, SymbolUniverseBootstrapSourceWindow.sameBounds,
    RollupRun.window, Bool.not_eq_false, Bool.and_eq_true,
    decide_eq_true_eq] at same
  exact InputRange.ext same.1 same.2

/-- What an upload starts from is a version of the day, stored or behind. -/
private theorem Uploading.existing
    (uploading : Uploading input day state run read current rest)
    {rollup : SymbolUniverseBootstrapRollup}
    (taken :
      (takeExistingRollup read day.startMs).1 = some rollup) :
    (VersionOf day (state.completedOf day) rollup ∧
        StoredOrBehind day state rollup) ∧
      NewWindows rollup current := by
  obtain ⟨member, sameDay⟩ := takeExistingRollup_some taken
  have seen :=
    uploading.invariant.readers run read rollup
      (by rw [uploading.publishing]; rfl) member sameDay
  refine ⟨seen, ?_⟩
  intro window windowMember own ownMember
  obtain ⟨done, doneMember, doneWindow⟩ :=
    seen.1.known window windowMember
  rw [uploading.built.window, List.mem_singleton] at ownMember
  rw [ownMember]
  exact uploading.newWindow doneMember doneWindow

/-- What an upload stores. -/
private structure Merges
    (day : UtcDay)
    (existing : Option SymbolUniverseBootstrapRollup)
    (current merged : SymbolUniverseBootstrapRollup) : Prop where
  form : RollupOfDay day.startMs merged
  windows :
    ∀ window,
      window ∈ merged.sourceWindows ↔
        window ∈ windowsOf existing ∨ window ∈ current.sourceWindows
  symbols :
    ∀ name,
      merged.symbolStats? name =
        combineStats
          (existing.bind (fun rollup => rollup.symbolStats? name))
          (current.symbolStats? name)

/-- An upload stores what its run read and its own rollup. -/
private theorem Uploading.merges
    (uploading : Uploading input day state run read current rest) :
    Merges day (takeExistingRollup read day.startMs).1 current
      (mergeSymbolUniverseBootstrapRollup sha256Hex
        (takeExistingRollup read day.startMs).1 current) := by
  have currentForm : RollupOfDay day.startMs current :=
    uploading.sameDay ▸ uploading.built.form
  cases taken : (takeExistingRollup read day.startMs).1 with
  | none =>
      refine ⟨currentForm, ?_, ?_⟩
      · intro window
        simp [mergeSymbolUniverseBootstrapRollup, windowsOf]
      · intro name
        rfl
  | some rollup =>
      obtain ⟨⟨version, -⟩, new⟩ := uploading.existing taken
      exact
        { form := version.form.merge currentForm new
          windows := fun window =>
            mem_merge_sourceWindows version.form currentForm new
          symbols := merge_symbolStats? version.form currentForm new }

/-- An upload keeps all windows exactly if none was lost and it is current. -/
private theorem Uploading.containsWindows_iff
    (uploading : Uploading input day state run read current rest)
    (merges :
      Merges day (takeExistingRollup read day.startMs).1 current merged) :
    ContainsWindows day (state.upload current merged) ↔
      ContainsWindows day state ∧
        (takeExistingRollup read day.startMs).1 = state.latest? day := by
  obtain ⟨stored, completed⟩ :=
    @upload_same_day _ day state current merged uploading.sameDay
  have ownWindow := uploading.built.window
  unfold ContainsWindows
  rw [stored, completed]
  simp only [windowsOf, merges.windows]
  constructor
  · intro contained
    -- No completed window is the run's own, so all are in what it read.
    have inRead :
        ∀ done ∈ state.completedOf day,
          ∀ window ∈ done.sourceWindows,
            window ∈
              windowsOf (takeExistingRollup read day.startMs).1 := by
      intro done member window windowMember
      rcases contained done (List.mem_append_left _ member) window
          windowMember with older | own
      · exact older
      · have different := uploading.newWindow member windowMember
        rw [ownWindow, List.mem_singleton] at own
        rw [own] at different
        simp [SymbolUniverseBootstrapSourceWindow.sameBounds] at different
    have current :
        (takeExistingRollup read day.startMs).1 = state.latest? day := by
      cases taken : (takeExistingRollup read day.startMs).1 with
      | some rollup =>
          obtain ⟨⟨-, now | ⟨done, member, window, windowMember, lacks⟩⟩,
            -⟩ := uploading.existing taken
          · exact now.symm
          · have has := inRead done member window windowMember
            rw [taken] at has
            exact absurd has lacks
      | none =>
          refine (uploading.invariant.contributed ?_).symm
          rw [List.eq_nil_iff_forall_not_mem]
          intro done member
          obtain ⟨-, other, windows, -⟩ :=
            uploading.invariant.origin done member
          have has :=
            inRead done member (input other).window (by simp [windows])
          rw [taken] at has
          cases has
    rw [current] at inRead
    exact ⟨inRead, current⟩
  · rintro ⟨contained, current⟩ done member window windowMember
    rw [current]
    rcases List.mem_append.mp member with older | own
    · exact .inl (contained done older window windowMember)
    · rw [List.mem_singleton.mp own] at windowMember
      exact .inr windowMember

/-- What an upload stores is a version of the day. -/
private theorem Uploading.versionOf
    (uploading : Uploading input day state run read current rest)
    (merges :
      Merges day (takeExistingRollup read day.startMs).1 current merged) :
    VersionOf day (state.completedOf day ++ [current]) merged := by
  refine ⟨merges.form, ?_⟩
  intro window windowMember
  rcases (merges.windows window).mp windowMember with older | own
  · cases taken : (takeExistingRollup read day.startMs).1 with
    | none =>
        rw [taken] at older
        cases older
    | some rollup =>
        rw [taken] at older
        obtain ⟨⟨version, -⟩, -⟩ := uploading.existing taken
        obtain ⟨done, member, doneWindow⟩ := version.known window older
        exact ⟨done, List.mem_append_left _ member, doneWindow⟩
  · exact ⟨current, List.mem_append_right _ List.mem_cons_self, own⟩

/-- What was read before an upload is behind it. -/
private theorem Uploading.behind
    (uploading : Uploading input day state run read current rest)
    {rollup : SymbolUniverseBootstrapRollup}
    (version : VersionOf day (state.completedOf day) rollup) :
    VersionOf day (state.completedOf day ++ [current]) rollup ∧
      ∃ done ∈ state.completedOf day ++ [current],
        ∃ window ∈ done.sourceWindows,
          window ∉ rollup.sourceWindows := by
  have member : current ∈ state.completedOf day ++ [current] :=
    List.mem_append_right _ List.mem_cons_self
  refine ⟨⟨version.form, ?_⟩, current, member, (input run).window, ?_, ?_⟩
  · intro window windowMember
    obtain ⟨done, doneMember, doneWindow⟩ :=
      version.known window windowMember
    exact ⟨done, List.mem_append_left _ doneMember, doneWindow⟩
  · rw [uploading.built.window]
    exact List.mem_cons_self
  · intro windowMember
    obtain ⟨done, doneMember, doneWindow⟩ :=
      version.known _ windowMember
    have different := uploading.newWindow doneMember doneWindow
    simp [SymbolUniverseBootstrapSourceWindow.sameBounds] at different

variable [DecidableEq Run]

/-- An upload of the day keeps the invariant of the day. -/
private theorem Uploading.invariantAfter
    (uploading : Uploading input day state run read current rest)
    (merges :
      Merges day (takeExistingRollup read day.startMs).1 current merged)
    {publisher : PublisherState}
    (reads :
      ∀ after rollup,
        publisher.read? = some after →
        rollup ∈ after.rollups →
        rollup = merged ∨ rollup ∈ read.rollups)
    (own : publisher.OwnRollups (input run))
    (past : ¬ publisher.mayUpload day) :
    PublicationInvariant input day
      ((state.upload current merged).advance run publisher) := by
  obtain ⟨stored, completed⟩ :=
    @upload_same_day _ day state current merged uploading.sameDay
  have invariant := uploading.invariant
  have version := uploading.versionOf merges
  have mergedDay : merged.dayStartMs = current.dayStartMs :=
    merges.form.day.trans uploading.sameDay.symm
  have older {other : Run} {before : BootstrapRollupReadResult}
      {rollup : SymbolUniverseBootstrapRollup}
      (isRead : (state.publishers other).read? = some before)
      (member : rollup ∈ before.rollups)
      (sameDay : rollup.dayStartMs = day.startMs) :
      VersionOf day (state.completedOf day ++ [current]) rollup ∧
        (some merged = some rollup ∨
          ∃ done ∈ state.completedOf day ++ [current],
            ∃ window ∈ done.sourceWindows,
              window ∉ rollup.sourceWindows) := by
    obtain ⟨known, lacks⟩ :=
      uploading.behind
        (invariant.readers other before rollup isRead member sameDay).1
    exact ⟨known, .inr lacks⟩
  refine
    { filed := fun key rollup =>
        upload_filed invariant uploading.built.dated mergedDay
      latest := ?_
      contributed := ?_
      readers := ?_
      own := ?_
      origin := ?_
      symbols := ?_ }
  · intro rollup found
    rw [advance_latest?, stored] at found
    rw [advance_completedOf, completed, ← Option.some.inj found]
    exact version
  · intro none
    rw [advance_completedOf, completed] at none
    simp at none
  · intro other after rollup isRead member sameDay
    simp only [StoredOrBehind, advance_latest?, advance_completedOf,
      stored, completed]
    by_cases same : other = run
    · rw [same, advance_publishers_self] at isRead
      rcases reads after rollup isRead member with rfl | before
      · exact ⟨version, .inl rfl⟩
      · refine @older run read _ ?_ before sameDay
        rw [uploading.publishing]
        rfl
    · rw [advance_publishers_other same] at isRead
      exact older isRead member sameDay
  · intro other
    by_cases same : other = run
    · rw [same, advance_publishers_self]
      exact own
    · rw [advance_publishers_other same]
      exact invariant.own other
  · intro done member
    rw [advance_completedOf, completed] at member
    rcases List.mem_append.mp member with before | isCurrent
    · obtain ⟨form, other, windows, otherPast⟩ :=
        invariant.origin done before
      refine ⟨form, other, windows, ?_⟩
      by_cases same : other = run
      · rw [same, advance_publishers_self]
        exact past
      · rw [advance_publishers_other same]
        exact otherPast
    · rw [List.mem_singleton.mp isCurrent]
      refine ⟨uploading.sameDay ▸ uploading.built.form, run,
        uploading.built.window, ?_⟩
      rw [advance_publishers_self]
      exact past
  · intro contained name
    obtain ⟨before, current⟩ :=
      (uploading.containsWindows_iff merges).mp contained
    rw [advance_latest?, advance_completedOf, stored, completed,
      List.foldl_append, ← invariant.symbols before name, ← current]
    exact merges.symbols name

end Uploads

section Interleavings

variable
  {Run : Type} [DecidableEq Run]
  {sha256Hex : String → String}
  {input : Run → RollupRun}
  {day : UtcDay}
  {state : PublicationState Run}

/-- What a step does to the day. -/
private structure StepExact
    (input : Run → RollupRun)
    (day : UtcDay)
    (state after : PublicationState Run)
    (action : PublicationAction Run) : Prop where
  invariant : PublicationInvariant input day after
  exactly :
    ContainsWindows day after ↔
      ContainsWindows day state ∧ ReplacesWhatItRead day state action

omit [DecidableEq Run] in
/-- A step that uploads nothing for the day is exact. -/
private theorem stepExact_of_silent
    {after : PublicationState Run}
    {action : PublicationAction Run}
    (invariant : PublicationInvariant input day after)
    (sameLatest : after.latest? day = state.latest? day)
    (sameCompleted : after.completedOf day = state.completedOf day)
    (silent :
      ∀ read current rest,
        state.publishers action.run = .publishing read (current :: rest) →
        current.dayStartMs = day.startMs →
        action.put.applied = false) :
    StepExact input day state after action := by
  refine ⟨invariant, ?_⟩
  have replaces : ReplacesWhatItRead day state action := by
    intro read current rest publishing sameDay applied
    rw [silent read current rest publishing sameDay] at applied
    cases applied
  unfold ContainsWindows
  rw [sameLatest, sameCompleted]
  exact (and_iff_left replaces).symm

/-- Ending a run keeps the invariant. -/
private theorem PublicationInvariant.stop
    (invariant : PublicationInvariant input day state)
    (run : Run)
    {publisher : PublisherState}
    (ended : publisher = .finished ∨ publisher = .failed) :
    PublicationInvariant input day (state.advance run publisher) := by
  rcases ended with rfl | rfl
  · exact invariant.advance (fun _ _ none => by cases none) trivial
      (fun may => may.elim)
  · exact invariant.advance (fun _ _ none => by cases none) trivial
      (fun may => may.elim)

/-- Reading a day reads the stored version of it. -/
private theorem PublicationInvariant.readDay
    (invariant : PublicationInvariant input day state)
    {run : Run}
    {next : Int}
    {days : List Int}
    {read after : BootstrapRollupReadResult}
    {outcome : GetOutcome}
    (reading : state.publishers run = .reading (next :: days) read)
    (answer : readDay state.store next read outcome = some after) :
    PublicationInvariant input day
      (state.advance run (.reading days after)) := by
  refine invariant.advance ?_ trivial (fun _ => by rw [reading]; trivial)
  intro result rollup isRead member sameDay
  obtain rfl := Option.some.inj isRead
  have origin :
      rollup ∈ read.rollups ∨
        state.store.get?
          (symbolUniverseBootstrapRollupObjectKey next) = some rollup := by
    unfold Normalize.readDay at answer
    split at answer
    · cases answer
    · rw [← Option.some.inj answer] at member
      exact .inl member
    · rename_i stored found
      rw [← Option.some.inj answer] at member
      rcases List.mem_append.mp member with before | new
      · exact .inl before
      · rw [List.mem_singleton.mp new]
        exact .inr found
    · rw [← Option.some.inj answer] at member
      exact .inl member
  rcases origin with before | found
  · refine invariant.readers run read rollup ?_ before sameDay
    rw [reading]
    rfl
  · obtain ⟨other, otherStart, key⟩ := invariant.filed _ rollup found
    have stored : state.latest? day = some rollup := by
      rw [key, UtcDay.key, otherStart, sameDay] at found
      exact found
    exact ⟨invariant.latest rollup stored, .inl stored⟩

/-- A run that has read everything builds its own rollups. -/
private theorem PublicationInvariant.build
    (invariant : PublicationInvariant input day state)
    {run : Run}
    {read : BootstrapRollupReadResult}
    (reading : state.publishers run = .reading [] read) :
    PublicationInvariant input day
      (state.advance run
        (.publishing read.sorted
          (buildSymbolUniverseBootstrapRollups sha256Hex
            (input run).l1RunId (input run).inputRange
            (input run).finishedAtMs (input run).slices))) := by
  refine invariant.advance ?_
    ⟨buildSymbolUniverseBootstrapRollups_days, ?_⟩
    (fun _ => by rw [reading]; trivial)
  · intro result rollup isRead member sameDay
    obtain rfl := Option.some.inj isRead
    refine invariant.readers run read rollup (by rw [reading]; rfl) ?_
      sameDay
    exact (List.mem_insertionSort _).mp member
  · intro current member
    obtain ⟨form, window, row, rowMember, rowDay⟩ :=
      buildSymbolUniverseBootstrapRollups_form member
    exact ⟨form, window,
      .ofTimestamp row.windowStartMs ((input run).dated row rowMember),
      rowDay⟩

omit [DecidableEq Run] in
/-- What a run has left before an upload is its own. -/
private theorem ownRollups_cons
    (invariant : PublicationInvariant input day state)
    {run : Run}
    {read : BootstrapRollupReadResult}
    {current : SymbolUniverseBootstrapRollup}
    {rest : List SymbolUniverseBootstrapRollup}
    (publishing :
      state.publishers run = .publishing read (current :: rest)) :
    BuiltBy (input run) current ∧
      (∀ other ∈ rest, other.dayStartMs ≠ current.dayStartMs) ∧
      (rest.map (fun other => other.dayStartMs)).Nodup ∧
      ∀ other ∈ rest, BuiltBy (input run) other := by
  have own := invariant.own run
  rw [publishing] at own
  obtain ⟨distinct, built⟩ := own
  rw [List.map_cons, List.nodup_cons] at distinct
  rw [List.forall_mem_cons] at built
  refine ⟨built.1, ?_, distinct.2, built.2⟩
  intro other member same
  exact distinct.1 (List.mem_map.mpr ⟨other, member, same⟩)

/-- What a run knows after an upload. -/
private theorem afterUpload_read?
    {others after : BootstrapRollupReadResult}
    {merged rollup : SymbolUniverseBootstrapRollup}
    {rest : List SymbolUniverseBootstrapRollup}
    {put : PutOutcome}
    (isRead : (afterUpload others merged rest put).read? = some after)
    (member : rollup ∈ after.rollups) :
    rollup = merged ∨ rollup ∈ others.rollups := by
  unfold afterUpload at isRead
  split_ifs at isRead
  · obtain rfl := Option.some.inj isRead
    rcases List.mem_append.mp member with before | new
    · exact .inr before
    · exact .inl (List.mem_singleton.mp new)
  · cases isRead

/-- What a run has left after an upload is its own. -/
private theorem afterUpload_own
    {others : BootstrapRollupReadResult}
    {merged : SymbolUniverseBootstrapRollup}
    {rest : List SymbolUniverseBootstrapRollup}
    {put : PutOutcome}
    {run : RollupRun}
    (distinct : (rest.map (fun other => other.dayStartMs)).Nodup)
    (built : ∀ other ∈ rest, BuiltBy run other) :
    (afterUpload others merged rest put).OwnRollups run := by
  unfold afterUpload
  split_ifs
  · exact ⟨distinct, built⟩
  · trivial

/-- A run may upload for a day after an upload only if it has it left. -/
private theorem afterUpload_mayUpload
    {others : BootstrapRollupReadResult}
    {merged : SymbolUniverseBootstrapRollup}
    {rest : List SymbolUniverseBootstrapRollup}
    {put : PutOutcome}
    (may : (afterUpload others merged rest put).mayUpload day) :
    ∃ current ∈ rest, current.dayStartMs = day.startMs := by
  unfold afterUpload at may
  split_ifs at may
  · exact may
  · exact may.elim

/-- A step that uploads is exact. -/
private theorem stepExact_upload
    (distinct : Function.Injective (fun run => (input run).inputRange))
    (invariant : PublicationInvariant input day state)
    {action : PublicationAction Run}
    {read : BootstrapRollupReadResult}
    {current : SymbolUniverseBootstrapRollup}
    {rest : List SymbolUniverseBootstrapRollup}
    (publishing :
      state.publishers action.run = .publishing read (current :: rest)) :
    StepExact input day state (stepPublication sha256Hex input state action)
      action := by
  obtain ⟨built, otherDays, restDistinct, restBuilt⟩ :=
    ownRollups_cons invariant publishing
  have mergedDay :=
    @merge_dayStartMs sha256Hex current
      (takeExistingRollup read current.dayStartMs).1
      (fun rollup taken => (takeExistingRollup_some taken).2)
  simp only [stepPublication, publishing]
  set merged :=
    mergeSymbolUniverseBootstrapRollup sha256Hex
      (takeExistingRollup read current.dayStartMs).1 current
    with mergedShape
  cases applied : action.put.applied with
  | false =>
      have unacknowledged : action.put.acknowledged = false := by
        by_contra acknowledged
        have := PutOutcome.applied_of_acknowledged
          (by simpa using acknowledged)
        rw [applied] at this
        cases this
      refine stepExact_of_silent ?_ rfl rfl (fun _ _ _ _ _ => applied)
      exact invariant.stop action.run
        (.inr (by simp [afterUpload, unacknowledged]))
  | true =>
      have known {after : BootstrapRollupReadResult}
          {rollup : SymbolUniverseBootstrapRollup}
          (isRead :
            (afterUpload (takeExistingRollup read current.dayStartMs).2
              merged rest action.put).read? = some after)
          (member : rollup ∈ after.rollups) :
          rollup = merged ∨ rollup ∈ read.rollups :=
        (afterUpload_read? isRead member).imp_right
          (fun before => List.mem_of_mem_eraseP before)
      have own :=
        @afterUpload_own
          (takeExistingRollup read current.dayStartMs).2 merged rest
          action.put (input action.run) restDistinct restBuilt
      by_cases sameDay : current.dayStartMs = day.startMs
      · have uploading :
            Uploading input day state action.run read current rest :=
          ⟨distinct, invariant, publishing, sameDay⟩
        have merges :
            Merges day (takeExistingRollup read day.startMs).1 current
              merged := by
          rw [mergedShape, sameDay]
          exact uploading.merges
        refine ⟨uploading.invariantAfter merges
          (fun after rollup => known) own ?_, ?_⟩
        · intro may
          obtain ⟨other, member, otherDay⟩ := afterUpload_mayUpload may
          exact otherDays other member (otherDay.trans sameDay.symm)
        · refine (uploading.containsWindows_iff merges).trans
            (and_congr_right' ⟨?_, ?_⟩)
          · intro replaced otherRead otherCurrent otherRest same _ _
            rw [publishing] at same
            obtain ⟨rfl, -⟩ := PublisherState.publishing.inj same
            exact replaced
          · intro replaces
            exact replaces read current rest publishing sameDay applied
      · obtain ⟨sameLatest, sameCompleted⟩ :=
          @upload_other_day _ day state current merged built.dated
            sameDay
        refine stepExact_of_silent ?_ sameLatest sameCompleted ?_
        · refine (invariant.uploadOther built.dated mergedDay
            sameDay).advance ?_ own ?_
          · intro after rollup isRead member rollupDay
            rcases known isRead member with rfl | before
            · exact absurd (mergedDay.symm.trans rollupDay) sameDay
            · rw [sameCompleted]
              simp only [StoredOrBehind, sameLatest, sameCompleted]
              refine invariant.readers action.run read rollup ?_ before
                rollupDay
              rw [publishing]
              rfl
          · intro may
            obtain ⟨other, member, otherDay⟩ := afterUpload_mayUpload may
            rw [show (state.upload current merged).publishers action.run =
              .publishing read (current :: rest) from publishing]
            exact ⟨other, List.mem_cons_of_mem _ member, otherDay⟩
        · intro otherRead otherCurrent otherRest same otherDay
          rw [publishing] at same
          obtain ⟨-, same⟩ := PublisherState.publishing.inj same
          rw [← List.head_eq_of_cons_eq same] at otherDay
          exact absurd otherDay sameDay

/-- Every step of every run is exact. -/
private theorem stepExact
    (distinct : Function.Injective (fun run => (input run).inputRange))
    (invariant : PublicationInvariant input day state)
    (action : PublicationAction Run) :
    StepExact input day state (stepPublication sha256Hex input state action)
      action := by
  cases publisher : state.publishers action.run with
  | reading days read =>
      have silent :
          ∀ read current rest,
            state.publishers action.run =
              .publishing read (current :: rest) →
            current.dayStartMs = day.startMs →
            action.put.applied = false := by
        intro read current rest publishing
        rw [publisher] at publishing
        cases publishing
      cases days with
      | nil =>
          simp only [stepPublication, publisher]
          exact stepExact_of_silent (invariant.build publisher) rfl rfl
            silent
      | cons next days =>
          simp only [stepPublication, publisher]
          cases answer : readDay state.store next read action.get with
          | some after =>
              exact stepExact_of_silent
                (invariant.readDay publisher answer) rfl rfl silent
          | none =>
              exact stepExact_of_silent
                (invariant.stop action.run (.inr rfl)) rfl rfl silent
  | publishing read remaining =>
      cases remaining with
      | nil =>
          simp only [stepPublication, publisher]
          refine stepExact_of_silent
            (invariant.stop action.run (.inl rfl)) rfl rfl ?_
          intro read current rest publishing
          rw [publisher] at publishing
          cases publishing
      | cons current rest =>
          exact stepExact_upload distinct invariant publisher
  | finished =>
      simp only [stepPublication, publisher]
      refine stepExact_of_silent invariant rfl rfl ?_
      intro read current rest publishing
      rw [publisher] at publishing
      cases publishing
  | failed =>
      simp only [stepPublication, publisher]
      refine stepExact_of_silent invariant rfl rfl ?_
      intro read current rest publishing
      rw [publisher] at publishing
      cases publishing

end Interleavings

/-- A slice of one second without events. -/
def btcSlice (windowStartMs : Int) : SliceRow where
  sliceId := "btc"
  venue := "binance"
  sourceRole := "reference"
  symbolNative := "BTCUSDT"
  symbolCanonical := "BTC"
  baseAsset := "BTC"
  quoteAsset := "USDT"
  marketType := "spot"
  windowMs := 1000
  windowStartMs := windowStartMs
  windowEndMs := windowStartMs + 1000
  sliceCompleteness := "incomplete"
  missingReasons := ["depth_top_missing", "trade_silence"]
  qualityOk := 0
  qualityDelayed := 0
  qualityStale := 0
  qualityGap := 0
  qualityInvalid := 0
  tradeCount := 0
  tradeVolume := 0
  lastTradePrice := none
  lastTradeSize := none
  bestBid := none
  bestAsk := none
  midPrice := none
  spreadBps := none
  bookTickerCount := 0
  depthEventCount := 0
  depthBookRebuilt := false
  tradeEvents := []
  bookTickerEvents := []
  depthEvents := []
  tickerEvents := []
  symbolHealthSnapshot := none
  sourceHealthSnapshot := none
  parentEventIds := []
  parentRunIds := []

/-- The digests of the texts that the two runs hash. -/
def quarterHourSha256Hex (text : String) : String :=
  if text =
      "l1_0_900000_1900000|0|900000|0|" ++
        symbolUniverseBootstrapRollupSchemaVersion then
    "48132f9fbfb45628ef71378a94a34156" ++
      "28fe178ff7bf991c91d28fac5cbb901c"
  else if text =
      "l1_900000_1800000_1900000|900000|1800000|0|" ++
        symbolUniverseBootstrapRollupSchemaVersion then
    "b455eccfbe835a3dabf044d5918a77a3" ++
      "c53197940cec54e2a43f35485d828ee3"
  else
    "9a9927ea278e9b2124e3361362ba2587" ++
      "4a0b95c9b514f533311edb74c985dfe1"

end MarketIngest.Normalize
