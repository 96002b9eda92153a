import MarketIngest.SpoolTree
import MarketIngest.TextSearch

namespace MarketIngest.Storage

/-!
# Eviction of uploaded files

When the disk is full, a pass deletes parquet files that have an old marker, the
oldest first, until enough is free.  The disk is asked before every deletion.
Files of the health and gap families are never deleted.
-/

variable {Payload : Type}

/-- When and how much is deleted. -/
structure EvictionConfig where
  spoolRoot : SpoolRoot
  highWaterPct : Nat
  emergencyPct : Nat
  safetyFloorSecs : Int

/-- What a pass reports. -/
structure EvictionStats where
  diskUsedPctBefore : Nat
  diskUsedPctAfter : Nat
  triggered : Bool
  emergency : Bool
  evictedCount : Nat
  evictedBytes : Nat
  candidateCount : Nat
  deriving Repr, DecidableEq

/-- A parquet file with a marker. -/
structure EvictableFile where
  parquetPath : String
  sealedPath : String
  sealedAtMs : Int
  parquetSize : Nat
  deriving Repr, DecidableEq

/-- What the system answers to a pass. -/
structure EvictionAnswers where
  /-- The readings of the disk, in the order of the calls. -/
  probe : Nat → Except StorageError Nat
  /-- The files in the order of the directories. -/
  listed : Except StorageError (List String)
  removeFails : String → Bool

/-- What a pass leaves, deletes and returns. -/
structure EvictionResult (Payload : Type) where
  tree : SpoolTree Payload
  removed : List EvictableFile
  returned : Except StorageError EvictionStats

/-- How far below the high water mark a pass stops. -/
def targetOffsetPct : Nat :=
  5

/-- Parts of the paths that are never deleted. -/
def protectedMarkers : List String :=
  ["symbol_health/", "source_health/", "gap_alert/"]

/-- The text with slashes for backslashes. -/
def normalizeSeparators (text : String) : String :=
  String.ofList
    (text.toList.map fun char => if char.toNat = 92 then '/' else char)

/-- The path is one of those that are never deleted. -/
def isProtectedPath (path : String) (root : SpoolRoot) : Bool :=
  match stripPrefix path root.path with
  | none => false
  | some relative =>
      protectedMarkers.any (Text.contains (normalizeSeparators relative))

/-- The time before which markers are old. -/
def safetyCutoffMs (nowMs safetyFloorSecs : Int) : Int :=
  saturatingSub nowMs (saturatingMul safetyFloorSecs 1000)

/-- The parquet files that have a marker. -/
def collectFilesOnDisk
    (root : SpoolRoot)
    (listed : List String)
    (tree : SpoolTree Payload) : List EvictableFile :=
  (parquetFilesUnder root listed tree).filterMap fun path =>
    match tree.get? (sealedMarkerPath path), tree.get? path with
    | some sealedMeta, some parquetMeta =>
        some
          { parquetPath := path
            sealedPath := sealedMarkerPath path
            sealedAtMs := sealedMeta.mtimeMs
            parquetSize := parquetMeta.length }
    | _, _ => none

/-- The files that may be deleted, those sealed first in front. -/
def rankEvictable
    (files : List EvictableFile)
    (cutoffMs : Int)
    (root : SpoolRoot) : List EvictableFile :=
  sortBy (fun file => file.sealedAtMs)
    ((files.filter fun file => !isProtectedPath file.parquetPath root).filter
      fun file => file.sealedAtMs ≤ cutoffMs)

/-- Delete a file, if the system does. -/
def removeFile
    (removeFails : String → Bool)
    (path : String)
    (tree : SpoolTree Payload) : Option (SpoolTree Payload) :=
  if removeFails path || (tree.get? path).isNone then
    none
  else
    some (tree.erase path)

/-- What has been deleted so far. -/
structure EvictionProgress (Payload : Type) where
  tree : SpoolTree Payload
  removed : List EvictableFile
  evictedCount : Nat
  evictedBytes : Nat

/-- Delete a candidate and then its marker. -/
def evictCandidate
    (removeFails : String → Bool)
    (candidate : EvictableFile)
    (progress : EvictionProgress Payload) : EvictionProgress Payload :=
  match removeFile removeFails candidate.parquetPath progress.tree with
  | none => progress
  | some tree =>
      { tree := (removeFile removeFails candidate.sealedPath tree).getD tree
        removed := progress.removed ++ [candidate]
        evictedCount := progress.evictedCount + 1
        evictedBytes := progress.evictedBytes + candidate.parquetSize }

/-- Delete candidates until the disk is below the target; the calls of the probe
are counted. -/
def evictCandidates
    (answers : EvictionAnswers)
    (target : Nat) :
    Nat → List EvictableFile → EvictionProgress Payload →
      EvictionProgress Payload × Except StorageError Nat
  | calls, [], progress => (progress, .ok calls)
  | calls, candidate :: rest, progress =>
      match answers.probe calls with
      | .error error => (progress, .error error)
      | .ok current =>
          if current < target then
            (progress, .ok (calls + 1))
          else
            evictCandidates answers target (calls + 1) rest
              (evictCandidate answers.removeFails candidate progress)

/-- The candidates of a pass. -/
def evictionCandidates
    (config : EvictionConfig)
    (nowMs : Int)
    (listed : List String)
    (tree : SpoolTree Payload) : List EvictableFile :=
  rankEvictable (collectFilesOnDisk config.spoolRoot listed tree)
    (safetyCutoffMs nowMs config.safetyFloorSecs) config.spoolRoot

/-- One pass. -/
def evictOnce
    (config : EvictionConfig)
    (nowMs : Int)
    (answers : EvictionAnswers)
    (tree : SpoolTree Payload) : EvictionResult Payload :=
  match answers.probe 0 with
  | .error error => ⟨tree, [], .error error⟩
  | .ok initial =>
      let stats : EvictionStats := ⟨initial, initial, false, false, 0, 0, 0⟩
      if initial < config.highWaterPct then
        ⟨tree, [], .ok stats⟩
      else
        match answers.listed with
        | .error error => ⟨tree, [], .error error⟩
        | .ok listed =>
            let candidates := evictionCandidates config nowMs listed tree
            match
              evictCandidates answers (config.highWaterPct - targetOffsetPct)
                1 candidates ⟨tree, [], 0, 0⟩ with
            | (progress, .error error) =>
                ⟨progress.tree, progress.removed, .error error⟩
            | (progress, .ok calls) =>
                match answers.probe calls with
                | .error error =>
                    ⟨progress.tree, progress.removed, .error error⟩
                | .ok final =>
                    ⟨progress.tree, progress.removed,
                      .ok
                        { stats with
                          diskUsedPctAfter := final
                          triggered := true
                          emergency := config.emergencyPct ≤ initial
                          evictedCount := progress.evictedCount
                          evictedBytes := progress.evictedBytes
                          candidateCount := candidates.length }⟩

section Candidates

variable
  {config : EvictionConfig}
  {nowMs : Int}
  {tree : SpoolTree Payload}

/-- A file that a pass may delete. -/
structure MayEvict
    (config : EvictionConfig)
    (nowMs : Int)
    (tree : SpoolTree Payload)
    (candidate : EvictableFile) : Prop where
  present : (tree.get? candidate.parquetPath).isSome = true
  marked :
    ∃ marker,
      tree.get? (sealedMarkerPath candidate.parquetPath) = some marker ∧
        marker.mtimeMs = candidate.sealedAtMs
  sealedPath : candidate.sealedPath = sealedMarkerPath candidate.parquetPath
  old : candidate.sealedAtMs ≤ safetyCutoffMs nowMs config.safetyFloorSecs
  unprotected :
    isProtectedPath candidate.parquetPath config.spoolRoot = false
  parquet : hasParquetExtension candidate.parquetPath = true
  inSpool :
    (stripPrefix candidate.parquetPath config.spoolRoot.path).isSome = true

/-- A collected file is a parquet file with a marker. -/
private theorem mem_collectFilesOnDisk
    {root : SpoolRoot}
    {listed : List String}
    {candidate : EvictableFile}
    (member : candidate ∈ collectFilesOnDisk root listed tree) :
    candidate.parquetPath ∈ parquetFilesUnder root listed tree ∧
      candidate.sealedPath = sealedMarkerPath candidate.parquetPath ∧
      ∃ marker,
        tree.get? (sealedMarkerPath candidate.parquetPath) =
            some marker ∧
          marker.mtimeMs = candidate.sealedAtMs := by
  obtain ⟨path, isFile, found⟩ := List.mem_filterMap.mp member
  cases marked : tree.get? (sealedMarkerPath path) with
  | none =>
      rw [marked] at found
      cases found
  | some marker =>
      cases present : tree.get? path with
      | none =>
          rw [marked, present] at found
          cases found
      | some file =>
          rw [marked, present] at found
          obtain rfl := Option.some.inj found
          exact ⟨isFile, rfl, marker, marked, rfl⟩

/-- Candidates may be deleted. -/
theorem mayEvict_of_mem
    {listed : List String}
    {candidate : EvictableFile}
    (member : candidate ∈ evictionCandidates config nowMs listed tree) :
    MayEvict config nowMs tree candidate := by
  have ranked := (sortBy_perm _ _).mem_iff.mp member
  simp only [List.mem_filter, decide_eq_true_eq, Bool.not_eq_true'] at ranked
  obtain ⟨⟨collected, unprotected⟩, old⟩ := ranked
  obtain ⟨isFile, sealedPath, marked⟩ := mem_collectFilesOnDisk collected
  simp only [parquetFilesUnder, List.mem_filter, Bool.and_eq_true]
    at isFile
  obtain ⟨_, ⟨inSpool, parquet⟩, present⟩ := isFile
  exact
    { present := present
      marked := marked
      sealedPath := sealedPath
      old := old
      unprotected := unprotected
      parquet := parquet
      inSpool := inSpool }

/-- Candidates are deleted in the order in which they were sealed. -/
theorem evictionCandidates_ascending
    (listed : List String) :
    (evictionCandidates config nowMs listed tree).Pairwise
      (fun first second => first.sealedAtMs ≤ second.sealedAtMs) :=
  sortBy_ascending _ _

end Candidates

section Passes

/-- What the deletion of some candidates does to the files. -/
structure Deletes
    (before after : SpoolTree Payload)
    (removed : List EvictableFile) : Prop where
  untouched :
    ∀ path,
      path ∉ removed.map (fun file => file.parquetPath) →
      path ∉ removed.map (fun file => file.sealedPath) →
        after.get? path = before.get? path
  onlyDeletes :
    ∀ path file,
      after.get? path = some file → before.get? path = some file
  gone : ∀ file ∈ removed, after.get? file.parquetPath = none

/-- A pass takes as many candidates as it reads values above the target. -/
structure StopsBelow
    (answers : EvictionAnswers)
    (target calls : Nat)
    (candidates removed : List EvictableFile)
    (taken : Nat) : Prop where
  fromTaken : removed.Sublist (candidates.take taken)
  above :
    ∀ earlier : Nat,
      earlier < taken →
        ∃ current,
          answers.probe (calls + earlier) = .ok current ∧
            target ≤ current
  stops :
    taken < candidates.length →
      ∀ current,
        answers.probe (calls + taken) = .ok current → current < target

/-- Nothing is deleted. -/
private theorem deletes_nil
    (tree : SpoolTree Payload) :
    Deletes tree tree [] where
  untouched := fun _ _ _ => rfl
  onlyDeletes := fun _ _ found => found
  gone := fun _ member => absurd member List.not_mem_nil

/-- Files are deleted one after the other. -/
private theorem Deletes.trans
    {before middle after : SpoolTree Payload}
    {first second : List EvictableFile}
    (earlier : Deletes before middle first)
    (later : Deletes middle after second) :
    Deletes before after (first ++ second) where
  untouched := by
    intro path notParquet notSealed
    rw [List.map_append, List.mem_append, not_or] at notParquet notSealed
    rw [later.untouched path notParquet.2 notSealed.2,
      earlier.untouched path notParquet.1 notSealed.1]
  onlyDeletes := by
    intro path file found
    exact earlier.onlyDeletes path file (later.onlyDeletes path file found)
  gone := by
    intro file member
    rcases List.mem_append.mp member with inFirst | inSecond
    · cases found : after.get? file.parquetPath with
      | none => rfl
      | some kept =>
          have still := later.onlyDeletes _ _ found
          rw [earlier.gone file inFirst] at still
          cases still
    · exact later.gone file inSecond

/-- What a file system that deletes a file leaves. -/
private theorem get?_removeFile
    {removeFails : String → Bool}
    {path : String}
    {tree after : SpoolTree Payload}
    (removed : removeFile removeFails path tree = some after)
    (other : String) :
    after.get? other = if other = path then none else tree.get? other := by
  unfold removeFile at removed
  split_ifs at removed
  obtain rfl := Option.some.inj removed
  split_ifs with same
  · rw [same]
    exact OrderedMap.get?_erase_same tree path
  · exact OrderedMap.get?_erase_other tree same

/-- A candidate is deleted with its marker, or nothing happens. -/
private theorem evictCandidate_deletes
    (removeFails : String → Bool)
    (candidate : EvictableFile)
    (progress : EvictionProgress Payload) :
    ∃ removed,
      removed.Sublist [candidate] ∧
        (evictCandidate removeFails candidate progress).removed =
          progress.removed ++ removed ∧
        Deletes progress.tree
          (evictCandidate removeFails candidate progress).tree removed := by
  unfold evictCandidate
  cases parquet :
      removeFile removeFails candidate.parquetPath progress.tree with
  | none =>
      exact ⟨[], List.nil_sublist _, (List.append_nil _).symm,
        deletes_nil _⟩
  | some tree =>
      refine ⟨[candidate], List.Sublist.refl _, rfl, ?_⟩
      have first := get?_removeFile parquet
      dsimp only
      cases marker : removeFile removeFails candidate.sealedPath tree with
      | none =>
          exact
            { untouched := by
                intro path notParquet _
                rw [Option.getD_none, first,
                  if_neg (by simpa using notParquet)]
              onlyDeletes := by
                intro path file found
                rw [Option.getD_none, first] at found
                split_ifs at found
                exact found
              gone := by
                intro file member
                obtain rfl := List.mem_singleton.mp member
                rw [Option.getD_none, first, if_pos rfl] }
      | some cleared =>
          have second := get?_removeFile marker
          exact
            { untouched := by
                intro path notParquet notSealed
                rw [Option.getD_some, second,
                  if_neg (by simpa using notSealed), first,
                  if_neg (by simpa using notParquet)]
              onlyDeletes := by
                intro path file found
                rw [Option.getD_some, second] at found
                split_ifs at found
                rw [first] at found
                split_ifs at found
                exact found
              gone := by
                intro file member
                obtain rfl := List.mem_singleton.mp member
                rw [Option.getD_some, second, first, if_pos rfl, ite_self] }

/-- The loop of a pass. -/
private theorem evictCandidates_spec
    (answers : EvictionAnswers)
    (target : Nat)
    (candidates : List EvictableFile)
    (calls : Nat)
    (progress : EvictionProgress Payload) :
    let after :=
      (evictCandidates answers target calls candidates progress).1
    ∃ removed taken,
      after.removed = progress.removed ++ removed ∧
        Deletes progress.tree after.tree removed ∧
        StopsBelow answers target calls candidates removed taken := by
  induction candidates generalizing calls progress with
  | nil =>
      exact
        ⟨[], 0, (List.append_nil _).symm, deletes_nil _,
          { fromTaken := List.nil_sublist _
            above := fun _ none => absurd none (Nat.not_lt_zero _)
            stops := fun none => absurd none (Nat.not_lt_zero _) }⟩
  | cons candidate rest inductionHypothesis =>
      have stopsAtOnce
          (stops :
            ∀ current,
              answers.probe calls = .ok current → current < target) :
          StopsBelow answers target calls (candidate :: rest) [] 0 :=
        { fromTaken := List.nil_sublist _
          above := fun _ none => absurd none (Nat.not_lt_zero _)
          stops := fun _ => stops }
      unfold evictCandidates
      cases reading : answers.probe calls with
      | error error =>
          refine ⟨[], 0, (List.append_nil _).symm, deletes_nil _,
            stopsAtOnce ?_⟩
          intro current found
          rw [reading] at found
          cases found
      | ok current =>
          dsimp only
          split_ifs with reached
          · refine ⟨[], 0, (List.append_nil _).symm, deletes_nil _,
              stopsAtOnce ?_⟩
            intro other found
            rw [reading] at found
            obtain rfl := Except.ok.inj found
            exact reached
          · obtain ⟨first, single, collected, deletes⟩ :=
              evictCandidate_deletes answers.removeFails candidate progress
            obtain ⟨later, taken, collectedLater, deletesLater, stops⟩ :=
              inductionHypothesis (calls + 1)
                (evictCandidate answers.removeFails candidate progress)
            refine ⟨first ++ later, taken + 1, ?_,
              deletes.trans deletesLater, ?_⟩
            · rw [collectedLater, collected, List.append_assoc]
            · exact
                { fromTaken := by
                    rw [List.take_succ_cons]
                    exact single.append stops.fromTaken
                  above := by
                    intro earlier isEarlier
                    cases earlier with
                    | zero =>
                        exact ⟨current, reading, not_lt.mp reached⟩
                    | succ earlier =>
                        rw [Nat.add_comm earlier, ← Nat.add_assoc]
                        exact
                          stops.above earlier (Nat.lt_of_succ_lt_succ isEarlier)
                  stops := by
                    intro more
                    rw [Nat.add_comm taken, ← Nat.add_assoc]
                    exact stops.stops (Nat.lt_of_succ_lt_succ more) }

/-- A pass deletes only what it may, in order, and stops below its target. -/
structure EvictionSound
    (config : EvictionConfig)
    (nowMs : Int)
    (answers : EvictionAnswers)
    (tree : SpoolTree Payload)
    (result : EvictionResult Payload) : Prop where
  may : ∀ file ∈ result.removed, MayEvict config nowMs tree file
  ascending :
    result.removed.Pairwise
      (fun first second => first.sealedAtMs ≤ second.sealedAtMs)
  deletes : Deletes tree result.tree result.removed
  triggered :
    result.removed ≠ [] →
      ∃ initial,
        answers.probe 0 = .ok initial ∧ config.highWaterPct ≤ initial
  stops :
    result.removed ≠ [] →
      ∃ listed taken,
        answers.listed = .ok listed ∧
          StopsBelow answers (config.highWaterPct - targetOffsetPct) 1
            (evictionCandidates config nowMs listed tree) result.removed
            taken

/-- A pass that deletes nothing is sound. -/
private theorem evictionSound_nothing
    {config : EvictionConfig}
    {nowMs : Int}
    {answers : EvictionAnswers}
    {tree : SpoolTree Payload}
    (returned : Except StorageError EvictionStats) :
    EvictionSound config nowMs answers tree ⟨tree, [], returned⟩ where
  may := fun _ member => absurd member List.not_mem_nil
  ascending := List.Pairwise.nil
  deletes := deletes_nil tree
  triggered := fun some => absurd rfl some
  stops := fun some => absurd rfl some

/-- Every pass is sound. -/
theorem evictOnce_sound
    (config : EvictionConfig)
    (nowMs : Int)
    (answers : EvictionAnswers)
    (tree : SpoolTree Payload) :
    EvictionSound config nowMs answers tree
      (evictOnce config nowMs answers tree) := by
  unfold evictOnce
  cases reading : answers.probe 0 with
  | error error =>
      exact evictionSound_nothing _
  | ok initial =>
      dsimp only
      split_ifs with below
      · exact evictionSound_nothing _
      · cases walked : answers.listed with
        | error error =>
            exact evictionSound_nothing _
        | ok listed =>
            dsimp only
            obtain ⟨removed, taken, collected, deletes, stops⟩ :=
              evictCandidates_spec answers
                (config.highWaterPct - targetOffsetPct)
                (evictionCandidates config nowMs listed tree) 1
                ⟨tree, [], 0, 0⟩
            have sound
                (returned : Except StorageError EvictionStats)
                {progress : EvictionProgress Payload}
                (isProgress :
                  (evictCandidates answers
                      (config.highWaterPct - targetOffsetPct) 1
                      (evictionCandidates config nowMs listed tree)
                      ⟨tree, [], 0, 0⟩).1 = progress) :
                EvictionSound config nowMs answers tree
                  ⟨progress.tree, progress.removed, returned⟩ := by
              subst isProgress
              rw [List.nil_append] at collected
              rw [collected]
              have fromCandidates :=
                stops.fromTaken.trans (List.take_sublist _ _)
              exact
                { may := fun file member =>
                    mayEvict_of_mem (fromCandidates.mem member)
                  ascending :=
                    (evictionCandidates_ascending listed).sublist
                      fromCandidates
                  deletes := deletes
                  triggered := fun _ =>
                    ⟨initial, reading, not_lt.mp below⟩
                  stops := fun _ => ⟨listed, taken, walked, stops⟩ }
            cases ended :
                evictCandidates answers
                  (config.highWaterPct - targetOffsetPct) 1
                  (evictionCandidates config nowMs listed tree)
                  ⟨tree, [], 0, 0⟩ with
            | mk progress returned =>
                rw [ended] at sound
                cases returned with
                | error error =>
                    exact sound _ rfl
                | ok calls =>
                    dsimp only
                    cases answers.probe calls with
                    | error error => exact sound _ rfl
                    | ok final => exact sound _ rfl

end Passes

end MarketIngest.Storage
