import MarketIngest.Eviction
import MarketIngest.Orphans
import Mathlib.Logic.Function.Basic

namespace MarketIngest.Storage

/-!
# What was not uploaded is not deleted

Sinks, eviction and the cleanup of orphans share the files of a spool and meet
only in the markers.  In every interleaving of the steps of sinks with whole
passes of the two others, a marker stands beside a file whose upload succeeded,
and every file is where it was written or where its path leads to out of the
spool.
-/

variable {Payload : Type}

section Places

variable
  {root : SpoolRoot}
  {path source : String}

/-- The last character of a text. -/
def lastChar (text : String) : Option Char :=
  text.toList.getLast?

/-- The end of a text has its last character. -/
private theorem lastChar_append
    (text : String)
    {rest : String}
    (nonempty : rest ≠ "") :
    lastChar (text ++ rest) = lastChar rest := by
  have chars : rest.toList ≠ [] := by
    intro none
    exact nonempty (String.toList_inj.mp none)
  rw [lastChar, lastChar, String.toList_append,
    List.getLast?_append_of_ne_nil _ chars]

/-- Parquet files end with a t. -/
private theorem lastChar_of_parquet
    (parquet : hasParquetExtension path = true) :
    lastChar path = some 't' := by
  simp only [hasParquetExtension, Bool.and_eq_true] at parquet
  have ends := List.isSuffixOf_iff_suffix.mp parquet.1
  obtain ⟨start, whole⟩ := ends
  rw [lastChar, ← whole, List.getLast?_append_of_ne_nil _ (by decide)]
  decide

/-- Markers end with a d. -/
private theorem lastChar_sealedMarkerPath :
    lastChar (sealedMarkerPath path) = some 'd' := by
  rw [sealedMarkerPath, lastChar_append _ (by decide)]
  decide

/-- Files with the number one end with it. -/
private theorem lastChar_numberedPath :
    lastChar (numberedPath path 1) = some '1' := by
  rw [numberedPath, lastChar_append _ (by decide)]
  decide

/-- Markers of different files are different. -/
private theorem sealedMarkerPath_inj
    (same : sealedMarkerPath path = sealedMarkerPath source) :
    path = source :=
  (String.append_left_inj _).mp same

/-- Numbered files of different names are different. -/
private theorem numberedPath_inj
    (same : numberedPath path 1 = numberedPath source 1) :
    path = source :=
  (String.append_left_inj _).mp same

/-- The destination has the path below the root, out of the spool. -/
def LeadsTo (root : SpoolRoot) (source destination : String) : Prop :=
  ∃ relative,
    source = root.path ++ ("/" ++ relative) ∧
      destination = quarantineRoot root ++ ("/" ++ relative)

/-- Two files do not lead to one place. -/
private theorem LeadsTo.inj
    {other destination : String}
    (leads : LeadsTo root source destination)
    (otherLeads : LeadsTo root other destination) :
    source = other := by
  obtain ⟨relative, rfl, rfl⟩ := leads
  obtain ⟨otherRelative, rfl, same⟩ := otherLeads
  rw [String.append_right_inj] at same
  rw [same]

/-- A file keeps its last character. -/
private theorem LeadsTo.lastChar_eq
    {destination : String}
    (leads : LeadsTo root source destination) :
    lastChar destination = lastChar source := by
  obtain ⟨relative, rfl, rfl⟩ := leads
  have nonempty : "/" ++ relative ≠ "" := by
    intro none
    have chars := congrArg String.toList none
    simp at chars
  rw [lastChar_append _ nonempty, lastChar_append _ nonempty]

/-- A file that leads to a place in the spool leads to its own place. -/
private theorem LeadsTo.eq_of_inSpool
    {destination relative : String}
    (leads : LeadsTo root source destination)
    (inSpool : destination = root.path ++ ("/" ++ relative)) :
    source = destination := by
  obtain ⟨own, rfl, rfl⟩ := leads
  have chars := congrArg String.toList inSpool
  simp only [quarantineRoot, SpoolRoot.path, String.toList_append,
    List.append_assoc, List.append_cancel_left_eq] at chars
  have cut :
      "orphaned-unsealed".toList ++ '/' :: own.toList =
        root.name.toList ++ '/' :: relative.toList := by
    simpa using chars
  obtain ⟨sameName, _⟩ :=
    Text.segment_inj (by decide) root.plain cut
  have name := String.toList_inj.mp sameName
  rw [SpoolRoot.path, ← name]
  rfl

end Places

section Files

variable
  {root : SpoolRoot}
  {plan done : Nat → List (SinkStep Payload)}
  {tree : SpoolTree Payload}

/-- The sinks write files of their own, each once. -/
structure FilesApart
    (root : SpoolRoot)
    (plan : Nat → List (SinkStep Payload)) : Prop where
  inSpool :
    ∀ index object file,
      .write object file ∈ plan index →
        ∃ relative, object.localPath = root.path ++ ("/" ++ relative)
  parquet :
    ∀ index object file,
      .write object file ∈ plan index →
        hasParquetExtension object.localPath = true
  written :
    ∀ index object file,
      .finish object file ∈ plan index →
        .write object file ∈ plan index
  sameObject :
    ∀ index object file other otherObject otherFile,
      .write object file ∈ plan index →
      .write otherObject otherFile ∈ plan other →
      object.localPath = otherObject.localPath →
        index = other ∧ object = otherObject
  once :
    ∀ index before object file after,
      plan index = before ++ .write object file :: after →
        ∀ otherFile, .write object otherFile ∉ before
  isProtected :
    ∀ index object file,
      .write object file ∈ plan index →
      isProtectedPath object.localPath root = false →
        ∃ venue eventType,
          object.flush.partition.folder = .raw venue eventType

/-- Where the file of an object can be. -/
def Located
    (root : SpoolRoot)
    (object : SpooledObject Payload)
    (path : String) : Prop :=
  path = object.localPath ∨
    ∃ destination,
      LeadsTo root object.localPath destination ∧
        (path = destination ∨ path = numberedPath destination 1)

/-- The files of a spool after some steps of the sinks. -/
structure SpoolInv
    (root : SpoolRoot)
    (done : Nat → List (SinkStep Payload))
    (tree : SpoolTree Payload) : Prop where
  objects :
    ∀ path file object,
      tree.get? path = some file →
      file.contents = some object →
        Located root object path ∧
          ∃ index written, .write object written ∈ done index
  markers :
    ∀ path file,
      tree.get? path = some file →
      file.contents = none →
        ∃ index object written,
          .finish object written ∈ done index ∧
            object.isUploaded = true ∧
            path = sealedMarkerPath object.localPath
  single :
    ∀ path file other otherFile object,
      tree.get? path = some file →
      file.contents = some object →
      tree.get? other = some otherFile →
      otherFile.contents = some object →
        path = other
  kept :
    ∀ index object written,
      .write object written ∈ done index →
      (object.isUploaded = true →
        ∀ finished, .finish object finished ∉ done index) →
        ∃ path file,
          tree.get? path = some file ∧ file.contents = some object

/-- The path of a written object. -/
private theorem object_of_written
    (apart : FilesApart root plan)
    (started : ∀ index, done index <+: plan index)
    {index : Nat}
    {object : SpooledObject Payload}
    {written : FlushFile}
    (member : .write object written ∈ done index) :
    .write object written ∈ plan index ∧
      lastChar object.localPath = some 't' ∧
      ∃ relative, object.localPath = root.path ++ ("/" ++ relative) := by
  have planned := (started index).subset member
  exact
    ⟨planned, lastChar_of_parquet (apart.parquet _ _ _ planned),
      apart.inSpool _ _ _ planned⟩

/-- A parquet file in the spool is the object that was written there. -/
private theorem SpoolInv.localPath_eq
    (holds : SpoolInv root done tree)
    {path relative : String}
    {file : SpoolFile Payload}
    {object : SpooledObject Payload}
    (present : tree.get? path = some file)
    (isObject : file.contents = some object)
    (inSpool : path = root.path ++ ("/" ++ relative))
    (parquet : lastChar path = some 't') :
    object.localPath = path := by
  obtain ⟨located, _⟩ := holds.objects path file object present isObject
  rcases located with own | ⟨destination, leads, moved | numbered⟩
  · exact own.symm
  · subst moved
    exact leads.eq_of_inSpool inSpool
  · rw [numbered, lastChar_numberedPath] at parquet
    cases parquet

/-- A file that is not a marker has contents. -/
private theorem SpoolInv.contents_of_lastChar
    (holds : SpoolInv root done tree)
    {path : String}
    {file : SpoolFile Payload}
    (present : tree.get? path = some file)
    (notMarker : lastChar path ≠ some 'd') :
    ∃ object, file.contents = some object := by
  cases contents : file.contents with
  | none =>
      obtain ⟨_, _, _, _, _, isMarker⟩ :=
        holds.markers path file present contents
      rw [isMarker, lastChar_sealedMarkerPath] at notMarker
      exact absurd rfl notMarker
  | some object =>
      exact ⟨object, rfl⟩

/-- An object does not have the path of a marker. -/
private theorem SpoolInv.lastChar_of_object
    (holds : SpoolInv root done tree)
    (apart : FilesApart root plan)
    (started : ∀ index, done index <+: plan index)
    {path : String}
    {file : SpoolFile Payload}
    {object : SpooledObject Payload}
    (present : tree.get? path = some file)
    (isObject : file.contents = some object) :
    lastChar path ≠ some 'd' := by
  obtain ⟨located, index, written, member⟩ :=
    holds.objects path file object present isObject
  obtain ⟨_, parquet, _⟩ := object_of_written apart started member
  rcases located with own | ⟨destination, leads, moved | numbered⟩
  · rw [own, parquet]
    decide
  · rw [moved, leads.lastChar_eq, parquet]
    decide
  · rw [numbered, lastChar_numberedPath]
    decide

/-- Beside a marker stands an object whose upload succeeded. -/
private theorem SpoolInv.uploaded_of_marker
    (holds : SpoolInv root done tree)
    (apart : FilesApart root plan)
    (started : ∀ index, done index <+: plan index)
    {path : String}
    {marker : SpoolFile Payload}
    (marked : tree.get? (sealedMarkerPath path) = some marker) :
    ∃ index object written,
      .finish object written ∈ done index ∧
        object.isUploaded = true ∧ object.localPath = path := by
  cases contents : marker.contents with
  | none =>
      obtain ⟨index, object, written, finished, uploaded, isMarker⟩ :=
        holds.markers _ marker marked contents
      exact
        ⟨index, object, written, finished, uploaded,
          (sealedMarkerPath_inj isMarker).symm⟩
  | some object =>
      exact
        absurd lastChar_sealedMarkerPath
          (holds.lastChar_of_object apart started marked contents)

/-- The object of a file that a pass may delete. -/
theorem SpoolInv.object_of_mayEvict
    (holds : SpoolInv root done tree)
    (apart : FilesApart root plan)
    (started : ∀ index, done index <+: plan index)
    {config : EvictionConfig}
    (sameRoot : config.spoolRoot = root)
    {nowMs : Int}
    {candidate : EvictableFile}
    (may : MayEvict config nowMs tree candidate) :
    ∃ index object finished file venue eventType,
      .finish object finished ∈ done index ∧
        object.isUploaded = true ∧
        object.localPath = candidate.parquetPath ∧
        tree.get? candidate.parquetPath = some file ∧
        file.contents = some object ∧
        object.flush.partition.folder = .raw venue eventType := by
  obtain ⟨marker, marked, _⟩ := may.marked
  obtain ⟨index, object, finished, isFinished, uploaded, isLocal⟩ :=
    holds.uploaded_of_marker apart started marked
  obtain ⟨file, present⟩ := Option.isSome_iff_exists.mp may.present
  obtain ⟨relative, below⟩ := Option.isSome_iff_exists.mp may.inSpool
  have parquet := lastChar_of_parquet may.parquet
  obtain ⟨there, isObject⟩ :=
    holds.contents_of_lastChar present (by rw [parquet]; decide)
  have sameLocal :=
    holds.localPath_eq present isObject
      (sameRoot ▸ stripPrefix_eq_some_iff.mp below) parquet
  obtain ⟨_, other, written, isWritten⟩ :=
    holds.objects _ file there present isObject
  have planned :=
    apart.written _ _ _ ((started index).subset isFinished)
  obtain ⟨_, sameObject⟩ :=
    apart.sameObject _ _ _ _ _ _ planned
      ((started other).subset isWritten) (isLocal.trans sameLocal.symm)
  subst sameObject
  obtain ⟨venue, eventType, isRaw⟩ :=
    apart.isProtected _ _ _ planned
      (isLocal ▸ sameRoot ▸ may.unprotected)
  exact
    ⟨index, object, finished, file, venue, eventType, isFinished, uploaded,
      isLocal, present, isObject, isRaw⟩

/-- A pass of eviction keeps what was not uploaded. -/
theorem SpoolInv.evict
    (holds : SpoolInv root done tree)
    (apart : FilesApart root plan)
    (started : ∀ index, done index <+: plan index)
    {config : EvictionConfig}
    (sameRoot : config.spoolRoot = root)
    (nowMs : Int)
    (answers : EvictionAnswers) :
    SpoolInv root done (evictOnce config nowMs answers tree).tree := by
  have sound := evictOnce_sound config nowMs answers tree
  have shrinks := sound.deletes.onlyDeletes
  exact
    { objects := by
        intro path file object present
        exact holds.objects path file object (shrinks path file present)
      markers := by
        intro path file present
        exact holds.markers path file (shrinks path file present)
      single := by
        intro path file other otherFile object present isObject
          otherPresent
        exact
          holds.single path file other otherFile object
            (shrinks path file present) isObject
            (shrinks other otherFile otherPresent)
      kept := by
        intro index object written isWritten notUploaded
        obtain ⟨path, file, present, isObject⟩ :=
          holds.kept index object written isWritten notUploaded
        refine ⟨path, file, ?_, isObject⟩
        rw [sound.deletes.untouched, present]
        · intro removed
          obtain ⟨candidate, member, samePath⟩ := List.mem_map.mp removed
          obtain ⟨other, there, finished, entry, _, _, isFinished,
              uploaded, _, there_present, isThere, _⟩ :=
            holds.object_of_mayEvict apart started sameRoot
              (sound.may candidate member)
          rw [samePath, present] at there_present
          obtain rfl := Option.some.inj there_present
          obtain rfl := Option.some.inj (isObject.symm.trans isThere)
          obtain ⟨rfl, _⟩ :=
            apart.sameObject _ _ _ _ _ _
              (apart.written _ _ _ ((started other).subset isFinished))
              ((started index).subset isWritten) rfl
          exact notUploaded uploaded finished isFinished
        · intro removed
          obtain ⟨candidate, member, samePath⟩ := List.mem_map.mp removed
          apply holds.lastChar_of_object apart started present isObject
          rw [← samePath, (sound.may candidate member).sealedPath]
          exact lastChar_sealedMarkerPath }

/-- An orphan is moved to a name that is not taken, its own or the first. -/
private theorem SpoolInv.destination_free
    (holds : SpoolInv root done tree)
    (apart : FilesApart root plan)
    (started : ∀ index, done index <+: plan index)
    {config : UnsealedOrphanConfig}
    (sameRoot : config.spoolRoot = root)
    {cutoffMs : Int}
    {answers : CleanupAnswers}
    {source destination : String}
    (may : MayQuarantine config cutoffMs answers tree source destination) :
    ∃ file object,
      tree.get? source = some file ∧ file.contents = some object ∧
        object.localPath = source ∧
        tree.get? destination = none ∧
        Located root object destination := by
  obtain ⟨file, present, _⟩ := may.unreadable
  have parquet := lastChar_of_parquet may.parquet
  obtain ⟨object, isObject⟩ :=
    holds.contents_of_lastChar present (by rw [parquet]; decide)
  have chosen := may.destination
  unfold quarantineDestination at chosen
  cases stripped : stripPrefix source config.spoolRoot.path with
  | none =>
      rw [stripped] at chosen
      cases chosen
  | some relative =>
      rw [stripped, sameRoot] at chosen
      rw [sameRoot] at stripped
      have inSpool := stripPrefix_eq_some_iff.mp stripped
      have isLocal := holds.localPath_eq present isObject inSpool parquet
      have leads :
          LeadsTo root object.localPath
            (quarantineRoot root ++ ("/" ++ relative)) :=
        ⟨relative, isLocal.trans inSpool, rfl⟩
      obtain rfl := Except.ok.inj chosen
      refine ⟨file, object, present, isObject, isLocal, ?_⟩
      generalize quarantineRoot root ++ ("/" ++ relative) = own at leads
      unfold uniquePath
      split_ifs with free
      · exact ⟨Option.isNone_iff_eq_none.mp free,
          .inr ⟨own, leads, .inl rfl⟩⟩
      · have numberFree :
            (tree.get? (numberedPath own 1)).isNone = true := by
          rw [Option.isNone_iff_eq_none, Option.eq_none_iff_forall_ne_some]
          intro other otherPresent
          obtain ⟨there, isThere⟩ :=
            holds.contents_of_lastChar otherPresent
              (by rw [lastChar_numberedPath]; decide)
          obtain ⟨located, otherIndex, otherWritten, isWritten⟩ :=
            holds.objects _ other there otherPresent isThere
          obtain ⟨planned, thereParquet, _⟩ :=
            object_of_written apart started isWritten
          rcases located with atHome | ⟨away, thereLeads, moved | numbered⟩
          · rw [← atHome, lastChar_numberedPath] at thereParquet
            cases thereParquet
          · have ends := thereLeads.lastChar_eq
            rw [← moved, lastChar_numberedPath, thereParquet] at ends
            cases ends
          · obtain rfl := numberedPath_inj numbered
            have sameLocal := leads.inj thereLeads
            obtain ⟨_, index, written, isOwn⟩ :=
              holds.objects _ file object present isObject
            obtain ⟨_, rfl⟩ :=
              apart.sameObject _ _ _ _ _ _
                ((started index).subset isOwn) planned sameLocal
            have samePath :=
              holds.single _ file _ other object present isObject
                otherPresent isThere
            rw [samePath, lastChar_numberedPath] at parquet
            cases parquet
        have first :
            (List.range' 1 999).find? (fun index =>
                (tree.get? (numberedPath own index)).isNone) =
              some 1 := by
          rw [List.range'_succ, List.find?_cons, numberFree]
        rw [first]
        exact ⟨Option.isNone_iff_eq_none.mp numberFree,
          .inr ⟨own, leads, .inr rfl⟩⟩

/-- Moving an orphan keeps what was not uploaded. -/
private theorem SpoolInv.move
    (holds : SpoolInv root done tree)
    (apart : FilesApart root plan)
    (started : ∀ index, done index <+: plan index)
    {config : UnsealedOrphanConfig}
    (sameRoot : config.spoolRoot = root)
    {cutoffMs : Int}
    {answers : CleanupAnswers}
    {source destination : String}
    (may : MayQuarantine config cutoffMs answers tree source destination)
    {file : SpoolFile Payload}
    (present : tree.get? source = some file) :
    SpoolInv root done (renameFile tree source destination file) := by
  obtain ⟨moved, object, movedPresent, isObject, isLocal, free, located⟩ :=
    holds.destination_free apart started sameRoot may
  obtain rfl := Option.some.inj (present.symm.trans movedPresent)
  have lookup := get?_renameFile tree source destination file
  exact
    { objects := by
        intro path other there found isThere
        rw [lookup] at found
        split_ifs at found with isDestination isSource
        · obtain rfl := Option.some.inj found
          obtain rfl := Option.some.inj (isObject.symm.trans isThere)
          rw [isDestination]
          exact ⟨located, (holds.objects _ _ _ present isObject).2⟩
        · exact holds.objects path other there found isThere
      markers := by
        intro path other found isMarker
        rw [lookup] at found
        split_ifs at found with isDestination isSource
        · obtain rfl := Option.some.inj found
          rw [isObject] at isMarker
          cases isMarker
        · exact holds.markers path other found isMarker
      single := by
        intro first firstFile second secondFile there foundFirst isFirst
          foundSecond isSecond
        rw [lookup] at foundFirst foundSecond
        split_ifs at foundFirst foundSecond with
          firstMoved secondMoved secondGone firstGone secondMoved secondGone
        · rw [firstMoved, secondMoved]
        · obtain rfl := Option.some.inj foundFirst
          exact absurd
            (holds.single _ _ _ _ there foundSecond isSecond present isFirst)
            secondGone
        · obtain rfl := Option.some.inj foundSecond
          exact absurd
            (holds.single _ _ _ _ there foundFirst isFirst present isSecond)
            firstGone
        · exact
            holds.single _ _ _ _ there foundFirst isFirst foundSecond
              isSecond
      kept := by
        intro index there written isWritten notUploaded
        obtain ⟨path, other, found, isThere⟩ :=
          holds.kept index there written isWritten notUploaded
        by_cases isSource : path = source
        · subst isSource
          obtain rfl := Option.some.inj (present.symm.trans found)
          refine ⟨destination, file, ?_, isThere⟩
          rw [lookup, if_pos rfl]
        · refine ⟨path, other, ?_, isThere⟩
          have notDestination : path ≠ destination := by
            rintro rfl
            rw [free] at found
            cases found
          rw [lookup, if_neg notDestination, if_neg isSource, found] }

/-- A pass of the cleanup keeps what was not uploaded, and moves to names that
are not taken. -/
theorem SpoolInv.cleanup
    (holds : SpoolInv root done tree)
    (apart : FilesApart root plan)
    (started : ∀ index, done index <+: plan index)
    {config : UnsealedOrphanConfig}
    (sameRoot : config.spoolRoot = root)
    (nowMs : Int)
    (answers : CleanupAnswers) :
    let result := cleanupInvalidUnsealedOnce config nowMs answers tree
    SpoolInv root done result.tree ∧
      CleanupSound
        (fun before source destination =>
          MayQuarantine config (orphanCutoffMs config nowMs) answers before
              source destination ∧
            before.get? destination = none)
        tree result := by
  have sound := cleanup_sound config nowMs answers tree
  have free
      {before : SpoolTree Payload}
      {source destination : String}
      (holds : SpoolInv root done before)
      (may :
        MayQuarantine config (orphanCutoffMs config nowMs) answers before
          source destination) :
      MayQuarantine config (orphanCutoffMs config nowMs) answers before
          source destination ∧
        before.get? destination = none := by
    obtain ⟨_, _, _, _, _, notTaken, _⟩ :=
      holds.destination_free apart started sameRoot may
    exact ⟨may, notTaken⟩
  obtain ⟨kept, moves⟩ :=
    Moves.keep free
      (fun holds may present =>
        holds.move apart started sameRoot may present)
      holds sound.moves
  exact ⟨kept, moves, sound.counted⟩

/-- One more step of a sink is done. -/
structure OneMore
    (done : Nat → List (SinkStep Payload))
    (index : Nat)
    (step : SinkStep Payload)
    (after : Nat → List (SinkStep Payload)) : Prop where
  later : ∀ other earlier, earlier ∈ done other → earlier ∈ after other
  now : step ∈ after index
  only :
    ∀ other earlier,
      earlier ∈ after other →
        earlier ∈ done other ∨ other = index ∧ earlier = step

/-- The file of an object is not there before it is written. -/
private theorem SpoolInv.absent
    (holds : SpoolInv root done tree)
    (apart : FilesApart root plan)
    (started : ∀ index, done index <+: plan index)
    {index : Nat}
    {object : SpooledObject Payload}
    {file : FlushFile}
    {rest : List (SinkStep Payload)}
    (next : plan index = done index ++ .write object file :: rest)
    {path : String}
    {other : SpoolFile Payload}
    (present : tree.get? path = some other) :
    other.contents ≠ some object ∧ path ≠ object.localPath := by
  have planned : .write object file ∈ plan index := by
    rw [next]
    exact List.mem_append_right _ List.mem_cons_self
  have notWritten (written : FlushFile) (otherIndex : Nat) :
      .write object written ∉ done otherIndex := by
    intro isWritten
    obtain ⟨rfl, _⟩ :=
      apart.sameObject _ _ _ _ _ _ ((started otherIndex).subset isWritten)
        planned rfl
    exact apart.once _ _ _ _ _ next written isWritten
  constructor
  · intro isObject
    obtain ⟨_, otherIndex, written, isWritten⟩ :=
      holds.objects path other object present isObject
    exact notWritten written otherIndex isWritten
  · rintro rfl
    obtain ⟨relative, inSpool⟩ := apart.inSpool _ _ _ planned
    have parquet := lastChar_of_parquet (apart.parquet _ _ _ planned)
    obtain ⟨there, isThere⟩ :=
      holds.contents_of_lastChar present (by rw [parquet]; decide)
    have sameLocal :=
      holds.localPath_eq present isThere inSpool parquet
    obtain ⟨_, otherIndex, written, isWritten⟩ :=
      holds.objects _ other there present isThere
    obtain ⟨_, rfl⟩ :=
      apart.sameObject _ _ _ _ _ _ ((started otherIndex).subset isWritten)
        planned sameLocal
    exact notWritten written otherIndex isWritten

/-- Writing a file keeps what was not uploaded. -/
theorem SpoolInv.write
    (holds : SpoolInv root done tree)
    (apart : FilesApart root plan)
    (started : ∀ index, done index <+: plan index)
    {index : Nat}
    {object : SpooledObject Payload}
    {file : FlushFile}
    {rest : List (SinkStep Payload)}
    (next : plan index = done index ++ .write object file :: rest)
    {after : Nat → List (SinkStep Payload)}
    (more : OneMore done index (.write object file) after) :
    SpoolInv root after ((SinkStep.write object file).perform tree) := by
  have lookup (path : String) :=
    OrderedMap.get?_insert tree object.localPath path
      { mtimeMs := file.mtimeMs
        length := file.length
        footerValid := file.footerValid
        contents := some object }
  exact
    { objects := by
        intro path other there found isThere
        rw [SinkStep.perform, lookup] at found
        split_ifs at found with isOwn
        · obtain rfl := Option.some.inj found
          obtain rfl := Option.some.inj isThere
          exact ⟨.inl isOwn, index, file, more.now⟩
        · obtain ⟨located, otherIndex, written, isWritten⟩ :=
            holds.objects path other there found isThere
          exact ⟨located, otherIndex, written, more.later _ _ isWritten⟩
      markers := by
        intro path other found isMarker
        rw [SinkStep.perform, lookup] at found
        split_ifs at found with isOwn
        · obtain rfl := Option.some.inj found
          cases isMarker
        · obtain
              ⟨otherIndex, there, written, finished, uploaded, isPath⟩ :=
            holds.markers path other found isMarker
          exact
            ⟨otherIndex, there, written, more.later _ _ finished, uploaded,
              isPath⟩
      single := by
        intro first firstFile second secondFile there foundFirst isFirst
          foundSecond isSecond
        rw [SinkStep.perform, lookup] at foundFirst foundSecond
        split_ifs at foundFirst foundSecond with
          firstOwn secondOwn secondOwn
        · rw [firstOwn, secondOwn]
        · obtain rfl := Option.some.inj foundFirst
          obtain rfl := Option.some.inj isFirst
          exact absurd isSecond
            (holds.absent apart started next foundSecond).1
        · obtain rfl := Option.some.inj foundSecond
          obtain rfl := Option.some.inj isSecond
          exact absurd isFirst
            (holds.absent apart started next foundFirst).1
        · exact
            holds.single _ _ _ _ there foundFirst isFirst foundSecond
              isSecond
      kept := by
        intro otherIndex there written isWritten notUploaded
        rcases more.only _ _ isWritten with isEarlier | ⟨_, isStep⟩
        · obtain ⟨path, other, found, isThere⟩ :=
            holds.kept otherIndex there written isEarlier
              (fun uploaded finished isFinished =>
                notUploaded uploaded finished (more.later _ _ isFinished))
          refine ⟨path, other, ?_, isThere⟩
          rw [SinkStep.perform, lookup,
            if_neg (holds.absent apart started next found).2, found]
        · obtain ⟨rfl, rfl⟩ := SinkStep.write.inj isStep
          exact
            ⟨there.localPath, _, (lookup there.localPath).trans (if_pos rfl),
              rfl⟩ }

/-- The end of an upload keeps what was not uploaded. -/
theorem SpoolInv.finish
    (holds : SpoolInv root done tree)
    (apart : FilesApart root plan)
    (started : ∀ index, done index <+: plan index)
    {index : Nat}
    {object : SpooledObject Payload}
    {file : FlushFile}
    {after : Nat → List (SinkStep Payload)}
    (more : OneMore done index (.finish object file) after) :
    SpoolInv root after ((SinkStep.finish object file).perform tree) := by
  have same : SpoolInv root after tree :=
    { objects := by
        intro path other there found isThere
        obtain ⟨located, otherIndex, written, isWritten⟩ :=
          holds.objects path other there found isThere
        exact ⟨located, otherIndex, written, more.later _ _ isWritten⟩
      markers := by
        intro path other found isMarker
        obtain ⟨otherIndex, there, written, finished, uploaded, isPath⟩ :=
          holds.markers path other found isMarker
        exact
          ⟨otherIndex, there, written, more.later _ _ finished, uploaded,
            isPath⟩
      single := holds.single
      kept := by
        intro otherIndex there written isWritten notUploaded
        rcases more.only _ _ isWritten with isEarlier | ⟨_, isStep⟩
        · exact
            holds.kept otherIndex there written isEarlier
              (fun uploaded finished isFinished =>
                notUploaded uploaded finished (more.later _ _ isFinished))
        · cases isStep }
  rw [SinkStep.perform]
  split_ifs with uploaded
  · cases isSealed : file.sealedMs with
    | none => exact same
    | some sealedMs =>
        have lookup (path : String) :=
          OrderedMap.get?_insert tree (sealedMarkerPath object.localPath)
            path
            { mtimeMs := sealedMs
              length := 0
              footerValid := false
              contents := none }
        exact
          { objects := by
              intro path other there found isThere
              rw [lookup] at found
              split_ifs at found with isMarker
              · obtain rfl := Option.some.inj found
                cases isThere
              · exact same.objects path other there found isThere
            markers := by
              intro path other found isMarker
              rw [lookup] at found
              split_ifs at found with isOwn
              · exact ⟨index, object, file, more.now, uploaded, isOwn⟩
              · exact same.markers path other found isMarker
            single := by
              intro first firstFile second secondFile there foundFirst
                isFirst foundSecond isSecond
              rw [lookup] at foundFirst foundSecond
              split_ifs at foundFirst foundSecond
              · obtain rfl := Option.some.inj foundFirst
                cases isFirst
              · obtain rfl := Option.some.inj foundFirst
                cases isFirst
              · obtain rfl := Option.some.inj foundSecond
                cases isSecond
              · exact
                  holds.single _ _ _ _ there foundFirst isFirst foundSecond
                    isSecond
            kept := by
              intro otherIndex there written isWritten notUploaded
              obtain ⟨path, other, found, isThere⟩ :=
                same.kept otherIndex there written isWritten notUploaded
              refine ⟨path, other, ?_, isThere⟩
              have notMarker :=
                holds.lastChar_of_object apart started found isThere
              rw [lookup, if_neg, found]
              rintro rfl
              exact notMarker lastChar_sealedMarkerPath }
  · exact same

end Files

end MarketIngest.Storage
