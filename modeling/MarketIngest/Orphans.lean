import MarketIngest.SpoolTree

namespace MarketIngest.Storage

/-!
# Orphans of the spool

A pass looks at the parquet files without a marker.  Those that have been there
for long and cannot be read are moved out of the spool, to a name that is not
taken.  A name that is taken gets a number, and after a thousand taken names the
reading of a clock.
-/

variable {Payload : Type}

/-- Which files are looked at. -/
structure UnsealedOrphanConfig where
  spoolRoot : SpoolRoot
  safetyFloorSecs : Int

/-- What a pass counts. -/
structure UnsealedOrphanStats where
  scannedUnsealedCount : Nat
  recentUnsealedCount : Nat
  validUnsealedCount : Nat
  invalidUnsealedCount : Nat
  quarantinedCount : Nat
  quarantinedBytes : Nat
  quarantineRoot : Option String
  deriving Repr, DecidableEq

/-- What the system answers to a pass. -/
structure CleanupAnswers where
  /-- The files in the order of the directories. -/
  listed : Except StorageError (List String)
  metadataFails : String → Bool
  openFails : String → Bool
  directoryFails : String → Bool
  renameFails : String → Bool
  /-- The clock when a destination is chosen for a file. -/
  nanosNow : String → Nat

/-- A pass so far. -/
structure CleanupProgress (Payload : Type) where
  tree : SpoolTree Payload
  moves : List (String × String)
  stats : UnsealedOrphanStats

/-- What a pass leaves, moves and returns. -/
structure CleanupResult (Payload : Type) where
  tree : SpoolTree Payload
  moves : List (String × String)
  returned : Except StorageError UnsealedOrphanStats

/-- The path with a number behind the file name. -/
def numberedPath (path : String) (number : Nat) : String :=
  path ++ ("." ++ toString number)

/-- The first of the names of a path that is not taken. -/
def uniquePath
    (tree : SpoolTree Payload)
    (nanos : Nat)
    (path : String) : String :=
  if (tree.get? path).isNone then
    path
  else
    match
      (List.range' 1 999).find? fun index =>
        (tree.get? (numberedPath path index)).isNone with
    | some index => numberedPath path index
    | none => numberedPath path nanos

/-- Where a file of the spool is moved to. -/
def quarantineDestination
    (root : SpoolRoot)
    (tree : SpoolTree Payload)
    (nanos : Nat)
    (path : String) : Except StorageError String :=
  match stripPrefix path root.path with
  | none => .error (.invalidConfig "prefix not found")
  | some relative =>
      .ok (uniquePath tree nanos (quarantineRoot root ++ ("/" ++ relative)))

/-- Move a file; a file at the destination is replaced. -/
def renameFile
    (tree : SpoolTree Payload)
    (source destination : String)
    (file : SpoolFile Payload) : SpoolTree Payload :=
  (tree.erase source).insert destination file

/-- Look at one file. -/
def cleanupFile
    (config : UnsealedOrphanConfig)
    (cutoffMs : Int)
    (answers : CleanupAnswers)
    (path : String)
    (progress : CleanupProgress Payload) :
    CleanupProgress Payload × Except StorageError Unit :=
  if (progress.tree.get? (sealedMarkerPath path)).isSome then
    (progress, .ok ())
  else
    let stats :=
      { progress.stats with
        scannedUnsealedCount := progress.stats.scannedUnsealedCount + 1 }
    let counted (stats : UnsealedOrphanStats) : CleanupProgress Payload :=
      { progress with stats := stats }
    match progress.tree.get? path with
    | none => (counted stats, .error .io)
    | some file =>
        if answers.metadataFails path then
          (counted stats, .error .io)
        else if cutoffMs < file.mtimeMs then
          (counted
            { stats with
              recentUnsealedCount := stats.recentUnsealedCount + 1 },
            .ok ())
        else if answers.openFails path then
          (counted stats, .error .io)
        else if file.footerValid then
          (counted
            { stats with
              validUnsealedCount := stats.validUnsealedCount + 1 },
            .ok ())
        else
          let invalid :=
            { stats with
              invalidUnsealedCount := stats.invalidUnsealedCount + 1 }
          match
            quarantineDestination config.spoolRoot progress.tree
              (answers.nanosNow path) path with
          | .error error => (counted invalid, .error error)
          | .ok destination =>
              if answers.directoryFails destination then
                (counted invalid, .error .io)
              else if answers.renameFails path then
                (counted invalid, .error .io)
              else
                ({ tree := renameFile progress.tree path destination file
                   moves := progress.moves ++ [(path, destination)]
                   stats :=
                     { invalid with
                       quarantinedCount := invalid.quarantinedCount + 1
                       quarantinedBytes :=
                         invalid.quarantinedBytes + file.length } },
                  .ok ())

/-- Look at files, up to the first failure. -/
def cleanupFiles
    (config : UnsealedOrphanConfig)
    (cutoffMs : Int)
    (answers : CleanupAnswers) :
    List String → CleanupProgress Payload →
      CleanupProgress Payload × Except StorageError Unit
  | [], progress => (progress, .ok ())
  | path :: rest, progress =>
      match cleanupFile config cutoffMs answers path progress with
      | (after, .ok ()) => cleanupFiles config cutoffMs answers rest after
      | (after, .error error) => (after, .error error)

/-- The counts before the first file. -/
def UnsealedOrphanStats.zero : UnsealedOrphanStats :=
  ⟨0, 0, 0, 0, 0, 0, none⟩

/-- The time before which unsealed files are old. -/
def orphanCutoffMs (config : UnsealedOrphanConfig) (nowMs : Int) : Int :=
  saturatingSub nowMs (saturatingMul config.safetyFloorSecs 1000)

/-- One pass. -/
def cleanupInvalidUnsealedOnce
    (config : UnsealedOrphanConfig)
    (nowMs : Int)
    (answers : CleanupAnswers)
    (tree : SpoolTree Payload) : CleanupResult Payload :=
  match answers.listed with
  | .error error => ⟨tree, [], .error error⟩
  | .ok listed =>
      match
        cleanupFiles config (orphanCutoffMs config nowMs) answers
          (parquetFilesUnder config.spoolRoot listed tree)
          ⟨tree, [], .zero⟩ with
      | (progress, .error error) =>
          ⟨progress.tree, progress.moves, .error error⟩
      | (progress, .ok ()) =>
          ⟨progress.tree, progress.moves,
            .ok
              (if 0 < progress.stats.quarantinedCount then
                { progress.stats with
                  quarantineRoot := some (quarantineRoot config.spoolRoot) }
              else
                progress.stats)⟩

section Moves

/-- Files are moved one after the other, each as is allowed at that time. -/
inductive Moves
    (allowed : SpoolTree Payload → String → String → Prop) :
    SpoolTree Payload → List (String × String) → SpoolTree Payload → Prop
  | nil (tree : SpoolTree Payload) :
      Moves allowed tree [] tree
  | cons
      {tree after : SpoolTree Payload}
      {source destination : String}
      {file : SpoolFile Payload}
      {rest : List (String × String)}
      (isAllowed : allowed tree source destination)
      (present : tree.get? source = some file)
      (moves :
        Moves allowed (renameFile tree source destination file) rest after) :
      Moves allowed tree ((source, destination) :: rest) after

/-- Further files are moved afterwards. -/
theorem Moves.trans
    {allowed : SpoolTree Payload → String → String → Prop}
    {before middle after : SpoolTree Payload}
    {first second : List (String × String)}
    (earlier : Moves allowed before first middle)
    (later : Moves allowed middle second after) :
    Moves allowed before (first ++ second) after := by
  induction earlier with
  | nil tree =>
      exact later
  | cons isAllowed present moves inductionHypothesis =>
      exact .cons isAllowed present (inductionHypothesis later)

/-- What every move keeps holds after all of them, and each of them is allowed
where it holds. -/
theorem Moves.keep
    {allowed stronger : SpoolTree Payload → String → String → Prop}
    {invariant : SpoolTree Payload → Prop}
    (strengthen :
      ∀ {tree source destination},
        invariant tree → allowed tree source destination →
          stronger tree source destination)
    (kept :
      ∀ {tree source destination file},
        invariant tree → allowed tree source destination →
          tree.get? source = some file →
            invariant (renameFile tree source destination file))
    {before after : SpoolTree Payload}
    {moves : List (String × String)}
    (holds : invariant before)
    (moved : Moves allowed before moves after) :
    invariant after ∧ Moves stronger before moves after := by
  induction moved with
  | nil tree =>
      exact ⟨holds, .nil tree⟩
  | cons isAllowed present moves inductionHypothesis =>
      obtain ⟨holdsAfter, strong⟩ :=
        inductionHypothesis (kept holds isAllowed present)
      exact ⟨holdsAfter, .cons (strengthen holds isAllowed) present strong⟩

/-- What a move leaves at a path. -/
theorem get?_renameFile
    (tree : SpoolTree Payload)
    (source destination : String)
    (file : SpoolFile Payload)
    (path : String) :
    (renameFile tree source destination file).get? path =
      if path = destination then
        some file
      else if path = source then
        none
      else
        tree.get? path := by
  rw [renameFile, OrderedMap.get?_insert]
  split_ifs with isDestination isSource
  · rfl
  · rw [isSource]
    exact OrderedMap.get?_erase_same tree source
  · exact OrderedMap.get?_erase_other tree isSource

end Moves

section Passes

/-- A file that a pass may move, and where to. -/
structure MayQuarantine
    (config : UnsealedOrphanConfig)
    (cutoffMs : Int)
    (answers : CleanupAnswers)
    (tree : SpoolTree Payload)
    (source destination : String) : Prop where
  unsealed : tree.get? (sealedMarkerPath source) = none
  parquet : hasParquetExtension source = true
  unreadable :
    ∃ file,
      tree.get? source = some file ∧ file.mtimeMs ≤ cutoffMs ∧
        file.footerValid = false
  destination :
    quarantineDestination config.spoolRoot tree (answers.nanosNow source)
        source =
      .ok destination

/-- The counts of a pass without a failure. -/
structure Counted (stats : UnsealedOrphanStats) : Prop where
  scanned :
    stats.scannedUnsealedCount =
      stats.recentUnsealedCount + stats.validUnsealedCount +
        stats.invalidUnsealedCount
  invalid : stats.invalidUnsealedCount = stats.quarantinedCount

/-- What happens to one file. -/
private theorem cleanupFile_spec
    (config : UnsealedOrphanConfig)
    (cutoffMs : Int)
    (answers : CleanupAnswers)
    {path : String}
    (parquet : hasParquetExtension path = true)
    (progress : CleanupProgress Payload) :
    let after := cleanupFile config cutoffMs answers path progress
    (∃ moves,
        after.1.moves = progress.moves ++ moves ∧
          Moves (MayQuarantine config cutoffMs answers) progress.tree moves
            after.1.tree) ∧
      (Counted progress.stats → after.2 = .ok () →
        Counted after.1.stats) := by
  have unmoved :
      ∃ moves,
        progress.moves = progress.moves ++ moves ∧
          Moves (MayQuarantine config cutoffMs answers) progress.tree moves
            progress.tree :=
    ⟨[], (List.append_nil _).symm, .nil _⟩
  unfold cleanupFile
  by_cases marked :
      (progress.tree.get? (sealedMarkerPath path)).isSome = true
  · rw [if_pos marked]
    exact ⟨unmoved, fun counted _ => counted⟩
  · rw [if_neg marked]
    cases present : progress.tree.get? path with
    | none =>
        exact ⟨unmoved, fun _ returned => nomatch returned⟩
    | some file =>
        have recentCounted :
            Counted progress.stats →
              progress.stats.scannedUnsealedCount + 1 =
                progress.stats.recentUnsealedCount + 1 +
                  progress.stats.validUnsealedCount +
                  progress.stats.invalidUnsealedCount := by
          intro counted
          have := counted.scanned
          omega
        have validCounted :
            Counted progress.stats →
              progress.stats.scannedUnsealedCount + 1 =
                progress.stats.recentUnsealedCount +
                  (progress.stats.validUnsealedCount + 1) +
                  progress.stats.invalidUnsealedCount := by
          intro counted
          have := counted.scanned
          omega
        dsimp only
        cases chosen :
            quarantineDestination config.spoolRoot progress.tree
              (answers.nanosNow path) path with
        | error error =>
            dsimp only
            split_ifs
            · exact ⟨unmoved, fun _ returned => nomatch returned⟩
            · exact ⟨unmoved, fun counted _ =>
                ⟨recentCounted counted, counted.invalid⟩⟩
            · exact ⟨unmoved, fun _ returned => nomatch returned⟩
            · exact ⟨unmoved, fun counted _ =>
                ⟨validCounted counted, counted.invalid⟩⟩
            · exact ⟨unmoved, fun _ returned => nomatch returned⟩
        | ok destination =>
            dsimp only
            split_ifs with unreadable recent unopened valid
            · exact ⟨unmoved, fun _ returned => nomatch returned⟩
            · exact ⟨unmoved, fun counted _ =>
                ⟨recentCounted counted, counted.invalid⟩⟩
            · exact ⟨unmoved, fun _ returned => nomatch returned⟩
            · exact ⟨unmoved, fun counted _ =>
                ⟨validCounted counted, counted.invalid⟩⟩
            · exact ⟨unmoved, fun _ returned => nomatch returned⟩
            · exact ⟨unmoved, fun _ returned => nomatch returned⟩
            · have may :
                  MayQuarantine config cutoffMs answers progress.tree path
                    destination :=
                { unsealed := by simpa using marked
                  parquet := parquet
                  unreadable :=
                    ⟨file, present, not_lt.mp recent,
                      by simpa using valid⟩
                  destination := chosen }
              refine
                ⟨⟨[(path, destination)], rfl,
                  .cons may present (.nil _)⟩, ?_⟩
              intro counted _
              have scanned := counted.scanned
              have invalid := counted.invalid
              constructor
              · dsimp only
                omega
              · dsimp only
                omega

/-- What happens to files. -/
private theorem cleanupFiles_spec
    (config : UnsealedOrphanConfig)
    (cutoffMs : Int)
    (answers : CleanupAnswers)
    {paths : List String}
    (parquet : ∀ path ∈ paths, hasParquetExtension path = true)
    (progress : CleanupProgress Payload) :
    let after := cleanupFiles config cutoffMs answers paths progress
    (∃ moves,
        after.1.moves = progress.moves ++ moves ∧
          Moves (MayQuarantine config cutoffMs answers) progress.tree moves
            after.1.tree) ∧
      (Counted progress.stats → after.2 = .ok () →
        Counted after.1.stats) := by
  induction paths generalizing progress with
  | nil =>
      exact
        ⟨⟨[], (List.append_nil _).symm, .nil _⟩,
          fun counted _ => counted⟩
  | cons path rest inductionHypothesis =>
      rw [List.forall_mem_cons] at parquet
      obtain ⟨⟨first, collected, moves⟩, counts⟩ :=
        cleanupFile_spec config cutoffMs answers parquet.1 progress
      unfold cleanupFiles
      cases looked : cleanupFile config cutoffMs answers path progress with
      | mk middle returned =>
          rw [looked] at collected moves counts
          cases returned with
          | error error =>
              exact
                ⟨⟨first, collected, moves⟩,
                  fun _ ended => nomatch ended⟩
          | ok done =>
              obtain
                  ⟨⟨later, collectedLater, movesLater⟩, countsLater⟩ :=
                inductionHypothesis parquet.2 middle
              refine
                ⟨⟨first ++ later, ?_, moves.trans movesLater⟩,
                  fun counted ended =>
                    countsLater (counts counted rfl) ended⟩
              change
                (cleanupFiles config cutoffMs answers rest middle).1.moves =
                  _
              rw [collectedLater, collected, List.append_assoc]

/-- A pass moves only what it may, and its counts add up. -/
structure CleanupSound
    (allowed : SpoolTree Payload → String → String → Prop)
    (tree : SpoolTree Payload)
    (result : CleanupResult Payload) : Prop where
  moves : Moves allowed tree result.moves result.tree
  counted :
    ∀ stats,
      result.returned = .ok stats →
        Counted stats

/-- Every pass is sound. -/
theorem cleanup_sound
    (config : UnsealedOrphanConfig)
    (nowMs : Int)
    (answers : CleanupAnswers)
    (tree : SpoolTree Payload) :
    CleanupSound
      (MayQuarantine config (orphanCutoffMs config nowMs) answers) tree
      (cleanupInvalidUnsealedOnce config nowMs answers tree) := by
  have zero : Counted .zero := ⟨rfl, rfl⟩
  unfold cleanupInvalidUnsealedOnce
  dsimp only
  cases answers.listed with
  | error error =>
      exact ⟨.nil tree, fun _ returned => nomatch returned⟩
  | ok listed =>
      have parquet :
          ∀ path ∈ parquetFilesUnder config.spoolRoot listed tree,
            hasParquetExtension path = true := by
        intro path member
        simp only [parquetFilesUnder, List.mem_filter, Bool.and_eq_true]
          at member
        exact member.2.1.2
      obtain ⟨⟨moves, collected, moved⟩, counts⟩ :=
        cleanupFiles_spec config (orphanCutoffMs config nowMs) answers parquet
          ⟨tree, [], .zero⟩
      dsimp only
      cases ended :
          cleanupFiles config (orphanCutoffMs config nowMs) answers
            (parquetFilesUnder config.spoolRoot listed tree)
            ⟨tree, [], .zero⟩ with
      | mk progress returned =>
          rw [ended] at collected moved counts
          rw [List.nil_append] at collected
          dsimp only at collected moved
          rw [← collected] at moved
          cases returned with
          | error error =>
              exact ⟨moved, fun _ returned => nomatch returned⟩
          | ok done =>
              refine ⟨moved, ?_⟩
              intro stats returned
              obtain rfl := Except.ok.inj returned
              have counted := counts zero rfl
              split_ifs
              · exact ⟨counted.scanned, counted.invalid⟩
              · exact counted

end Passes

end MarketIngest.Storage
