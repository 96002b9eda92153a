import MarketIngest.InputEntries

namespace MarketIngest.Normalize

/-!
# Discovery of the input objects

The objects of the sinks lie in the bucket under their keys and in the spool
below the identifiers of their runs.  Of the gap alerts, the spool shows every
kind that workers emit, the bucket only the kinds of the prefix table.  Which
objects a run discovers therefore depends on its mode and on what is left in the
spool.
-/

open Storage

section Objects

/-- The kinds of gap alerts that workers emit. -/
def emittedGapTypes : List String :=
  ["depth_update_id_gap", "ordering_violation", "upbit_error",
    "ws_reconnect", "historical_range_empty"]

/-- The folders that workers write. -/
def emittedFolders : List L0Folder :=
  venues.flatMap fun venue =>
    rawEventTypes.map (L0Folder.raw venue) ++
      ([.symbolHealth venue, .sourceHealth venue] ++
        emittedGapTypes.map (L0Folder.gap venue))

/-- An object that a sink wrote and uploaded. -/
structure SinkObject where
  folder : L0Folder
  emitted : folder ∈ emittedFolders
  timestampMs : Int
  shard : Nat
  run : WorkerRun
  partNumber : Nat

namespace SinkObject

/-- The hour of an object. -/
def part (object : SinkObject) : TimePart :=
  timePart object.timestampMs

/-- The key of an object in the bucket. -/
def key (object : SinkObject) : String :=
  folderKey object.folder object.part object.shard object.run.runId
    object.partNumber

/-- The path of an object below the spool root. -/
def relativePath (object : SinkObject) : String :=
  object.run.runId ++ "/" ++ object.key

end SinkObject

/-- A folder that is written has a known venue and a known kind. -/
@[elab_as_elim]
private theorem emitted_cases
    {motive : L0Folder → Prop}
    (raw :
      ∀ venue ∈ venues, ∀ eventType ∈ rawEventTypes,
        motive (.raw venue eventType))
    (sourceHealth : ∀ venue ∈ venues, motive (.sourceHealth venue))
    (symbolHealth : ∀ venue ∈ venues, motive (.symbolHealth venue))
    (gap :
      ∀ venue ∈ venues, ∀ gapType ∈ emittedGapTypes,
        motive (.gap venue gapType))
    {folder : L0Folder}
    (emitted : folder ∈ emittedFolders) :
    motive folder := by
  simp only [emittedFolders, List.mem_flatMap, List.mem_append, List.mem_map,
    List.mem_cons, List.not_mem_nil, or_false] at emitted
  obtain ⟨venue, known, isFolder⟩ := emitted
  rcases isFolder with ⟨eventType, knownType, rfl⟩ | (rfl | rfl) |
    ⟨gapType, knownType, rfl⟩
  · exact raw venue known eventType knownType
  · exact symbolHealth venue known
  · exact sourceHealth venue known
  · exact gap venue known gapType knownType

/-- Venues and kinds have neither separators nor equals signs. -/
private theorem texts_plain :
    (∀ venue ∈ venues,
      '/' ∉ venue.toList ∧ '\\' ∉ venue.toList ∧ '_' ∉ venue.toList) ∧
    (∀ eventType ∈ rawEventTypes,
      '/' ∉ eventType.toList ∧ '\\' ∉ eventType.toList) ∧
    ∀ gapType ∈ emittedGapTypes,
      '/' ∉ gapType.toList ∧ '\\' ∉ gapType.toList := by
  simp [venues, rawEventTypes, emittedGapTypes]

/-- The texts of a folder that is written have no separators. -/
private theorem slashFree_of_emitted
    {folder : L0Folder}
    (emitted : folder ∈ emittedFolders) :
    Text.SlashFree folder.texts := by
  obtain ⟨venuePlain, eventTypePlain, gapTypePlain⟩ := texts_plain
  refine emitted_cases ?_ ?_ ?_ ?_ emitted
  · intro venue known eventType knownType
    simp [Text.SlashFree, L0Folder.texts, venuePlain venue known,
      eventTypePlain eventType knownType]
  · intro venue known
    simp [Text.SlashFree, L0Folder.texts, venuePlain venue known]
  · intro venue known
    simp [Text.SlashFree, L0Folder.texts, venuePlain venue known]
  · intro venue known gapType knownType
    simp [Text.SlashFree, L0Folder.texts, venuePlain venue known,
      gapTypePlain gapType knownType]

/-- The folders that are read are among those that are written. -/
private theorem mem_inputFolders_iff
    {folder : L0Folder}
    (emitted : folder ∈ emittedFolders) :
    folder ∈ inputFolders ↔
      ∀ venue gapType, folder = .gap venue gapType →
        gapType ∈ gapAlertTypes := by
  refine emitted_cases ?_ ?_ ?_ ?_ emitted
  · intro venue known eventType knownType
    simp only [reduceCtorEq, false_imp_iff, implies_true, iff_true]
    exact List.mem_flatMap.mpr ⟨venue, known,
      List.mem_append_left _ (List.mem_map_of_mem knownType)⟩
  · intro venue known
    simp only [reduceCtorEq, false_imp_iff, implies_true, iff_true]
    exact List.mem_flatMap.mpr ⟨venue, known, by simp⟩
  · intro venue known
    simp only [reduceCtorEq, false_imp_iff, implies_true, iff_true]
    exact List.mem_flatMap.mpr ⟨venue, known, by simp⟩
  · intro venue known gapType _
    constructor
    · intro isInput otherVenue otherType same
      obtain ⟨rfl, rfl⟩ := L0Folder.gap.inj same
      simp only [inputFolders, List.mem_flatMap, List.mem_append,
        List.mem_map, List.mem_cons, List.not_mem_nil, or_false,
        reduceCtorEq, and_false, exists_false, false_or,
        L0Folder.gap.injEq] at isInput
      obtain ⟨_, _, _, isType, _, rfl⟩ := isInput
      exact isType
    · intro inTable
      refine List.mem_flatMap.mpr ⟨venue, known, ?_⟩
      simp [inTable venue gapType rfl]

end Objects

section Keys

variable (object : SinkObject)

/-- The file of an object. -/
private def file : String :=
  partFile object.run.runId object.partNumber

/-- The file of an object is one segment. -/
private theorem slash_not_mem_file : '/' ∉ (file object).toList := by
  have runFree := object.run.slash_not_mem_runId
  have numberFree :=
    @Text.not_mem_zeroPadded '/' (by decide) 6 object.partNumber
  simp [file, partFile, runFree, numberFree]

/-- The file of an object is a parquet file. -/
private theorem file_endsWith :
    Text.endsWith (file object) ".parquet" = true := by
  have shape :
      file object =
        ("run_id=" ++ object.run.runId ++ "-part-" ++
          Text.zeroPadded 6 object.partNumber) ++ ".parquet" := by
    simp only [file, partFile, String.append_assoc]
  rw [shape]
  exact Text.endsWith_append _ _

/-- The segments of a key below its family. -/
private def lowerSegments : List String :=
  object.folder.fields ++
    (hourSegments object.part ++ [shardSegment object.shard])

/-- A key is the path of its family and the lower segments. -/
private theorem key_eq :
    object.key =
      Text.path (object.folder.family :: lowerSegments object) ++
        file object :=
  rfl

/-- The segments of a key have no separators. -/
private theorem slashFree_segments :
    Text.SlashFree (object.folder.family :: lowerSegments object) :=
  slashFree_keySegments (slashFree_of_emitted object.emitted)
    (slashFree_hourSegments _) _

/-- A path in the spool is the path of a key below the run. -/
private theorem relativePath_eq :
    object.relativePath =
      Text.path
          (object.run.runId :: object.folder.family ::
            lowerSegments object) ++
        file object := by
  have cut :
      Text.path
          (object.run.runId :: object.folder.family ::
            lowerSegments object) =
        object.run.runId ++ ("/" ++
          Text.path (object.folder.family :: lowerSegments object)) :=
    rfl
  rw [SinkObject.relativePath, key_eq, cut]
  simp only [String.append_assoc]

/-- The segments of a path in the spool have no separators. -/
private theorem slashFree_relative :
    Text.SlashFree
      (object.run.runId :: object.folder.family :: lowerSegments object) :=
  List.forall_mem_cons.mpr
    ⟨object.run.slash_not_mem_runId, slashFree_segments object⟩

/-- A key is the key of a parquet file. -/
theorem SinkObject.key_endsWith :
    Text.endsWith object.key ".parquet" = true := by
  obtain ⟨leading, isFile⟩ :=
    List.isSuffixOf_iff_suffix.mp (file_endsWith object)
  rw [key_eq, Text.endsWith, List.isSuffixOf_iff_suffix,
    String.toList_append, ← isFile, ← List.append_assoc]
  exact List.suffix_append _ _

/-- A path in the spool is the path of a parquet file. -/
private theorem relativePath_hasParquetExtension :
    hasParquetExtension object.relativePath = true := by
  have name :
      Text.lastField '/' object.relativePath.toList =
        (file object).toList := by
    rw [relativePath_eq]
    exact Text.lastField_path _ (slash_not_mem_file object)
  have named : file object ≠ ".parquet" := by
    intro same
    have characters := congrArg String.toList same
    simp [file, partFile] at characters
  unfold hasParquetExtension
  rw [name, String.ofList_toList]
  simp [file_endsWith, named]

/-- A key lies below the prefix of its own folder and hour only. -/
theorem SinkObject.key_startsWith_iff
    {folder : L0Folder}
    (isInput : folder ∈ inputFolders)
    {part : TimePart}
    (partFree : Text.SlashFree (hourSegments part)) :
    Text.startsWith object.key (hourPrefix folder part) = true ↔
      folder = object.folder ∧ part = object.part :=
  folderKey_startsWith_iff (slashFree_of_emitted object.emitted)
    (slashFree_of_mem_inputFolders isInput) (slashFree_hourSegments _)
    partFree

end Keys

section Spool

variable (object : SinkObject)

/-- Families by which a path in the spool is recognised. -/
private def families : List String :=
  ["raw_market_event", "symbol_health", "source_health", "gap_alert"]

/-- The markers close the names of the families. -/
private theorem keyMarkers_eq :
    keyMarkers = families.map fun family => family ++ "/" :=
  rfl

/-- Names of families have an underscore, but no separator. -/
private theorem families_plain :
    ∀ family ∈ families,
      '/' ∉ family.toList ∧ '=' ∉ family.toList ∧ '_' ∈ family.toList := by
  simp [families]

/-- No kind ends with the name of a family. -/
private theorem families_not_in_kinds :
    (families.all fun family =>
      (rawEventTypes ++ emittedGapTypes).all fun kind =>
        !family.toList.isSuffixOf kind.toList) = true := by
  decide

/-- Of the names of families none is the end of another. -/
private theorem families_apart :
    (families.all fun family =>
      families.all fun other =>
        !family.toList.isSuffixOf other.toList || family = other) =
      true := by
  decide

/-- The family of a folder is one of the families. -/
private theorem family_mem
    (folder : L0Folder) :
    folder.family ∈ families := by
  cases folder <;> simp [families, L0Folder.family]

/-- A field does not end with the name of a family if its value does not. -/
private theorem not_suffix_field
    {family segment value : String}
    (isFamily : family ∈ families)
    (name : String)
    (isField : segment.toList = name.toList ++ '=' :: value.toList)
    (different : ¬ family.toList <:+ value.toList) :
    ¬ family.toList <:+ segment.toList := by
  rw [isField]
  exact fun isEnd =>
    different (Text.suffix_of_suffix_field
      (families_plain family isFamily).2.1 isEnd)

/-- A text without an underscore does not end with the name of a family. -/
private theorem not_suffix_plain
    {family text : String}
    (isFamily : family ∈ families)
    (plain : '_' ∉ text.toList) :
    ¬ family.toList <:+ text.toList :=
  fun isEnd => plain (isEnd.subset (families_plain family isFamily).2.2)

/-- A kind does not end with the name of a family. -/
private theorem not_suffix_kind
    {family kind : String}
    (isFamily : family ∈ families)
    (isKind : kind ∈ rawEventTypes ++ emittedGapTypes) :
    ¬ family.toList <:+ kind.toList := by
  have apart :=
    List.all_eq_true.mp
      (List.all_eq_true.mp families_not_in_kinds family isFamily) kind isKind
  intro isEnd
  rw [List.isSuffixOf_iff_suffix.mpr isEnd] at apart
  cases apart

/-- No field of a written folder ends with the name of a family. -/
private theorem not_suffix_fields
    {family : String}
    (isFamily : family ∈ families)
    {folder : L0Folder}
    (emitted : folder ∈ emittedFolders) :
    ∀ field ∈ folder.fields, ¬ family.toList <:+ field.toList := by
  have venuePlain := texts_plain.1
  have venueField
      {venue : String}
      (known : venue ∈ venues) :
      ¬ family.toList <:+ ("venue=" ++ venue).toList :=
    not_suffix_field isFamily "venue" (by simp)
      (not_suffix_plain isFamily (venuePlain venue known).2.2)
  refine emitted_cases ?_ ?_ ?_ ?_ emitted
  · intro venue known eventType knownType
    have kindField :
        ¬ family.toList <:+ ("event_type=" ++ eventType).toList :=
      not_suffix_field isFamily "event_type" (by simp)
        (not_suffix_kind isFamily (List.mem_append_left _ knownType))
    simp only [L0Folder.fields, List.forall_mem_cons]
    exact ⟨venueField known, kindField, by simp⟩
  · intro venue known
    simp only [L0Folder.fields, List.forall_mem_cons]
    exact ⟨venueField known, by simp⟩
  · intro venue known
    simp only [L0Folder.fields, List.forall_mem_cons]
    exact ⟨venueField known, by simp⟩
  · intro venue known gapType knownType
    have kindField :
        ¬ family.toList <:+ ("gap_type=" ++ gapType).toList :=
      not_suffix_field isFamily "gap_type" (by simp)
        (not_suffix_kind isFamily (List.mem_append_right _ knownType))
    simp only [L0Folder.fields, List.forall_mem_cons]
    exact ⟨venueField known, kindField, by simp⟩

/-- No lower segment of a key ends with the name of a family. -/
private theorem not_suffix_lowerSegments
    {family : String}
    (isFamily : family ∈ families) :
    ∀ segment ∈ lowerSegments object,
      ¬ family.toList <:+ segment.toList := by
  have numberPlain (number : Nat) :
      ¬ family.toList <:+ (Text.zeroPadded 2 number).toList :=
    not_suffix_plain isFamily (Text.not_mem_zeroPadded (by decide) 2 number)
  have datePlain : ¬ family.toList <:+ object.part.eventDate.toList :=
    not_suffix_plain isFamily
      (Calendar.not_mem_renderDate (by decide) (by decide) (by decide) _)
  intro segment member
  simp only [lowerSegments, hourSegments, List.mem_append, List.mem_cons,
    List.cons_append, List.nil_append, List.not_mem_nil, or_false] at member
  rcases member with inFields | rfl | rfl | rfl
  · exact not_suffix_fields isFamily object.emitted segment inFields
  · exact not_suffix_field isFamily "event_date" (by simp) datePlain
  · have isField :
        ("hour=" ++ Text.zeroPadded 2 object.part.hour).toList =
          "hour".toList ++
            '=' :: (Text.zeroPadded 2 object.part.hour).toList := by
      simp
    exact not_suffix_field isFamily "hour" isField (numberPlain _)
  · have isField :
        (shardSegment object.shard).toList =
          "shard".toList ++
            '=' :: (Text.zeroPadded 2 object.shard).toList := by
      simp [shardSegment]
    exact not_suffix_field isFamily "shard" isField (numberPlain _)

/-- The identifier of a run does not end with the name of a family. -/
private theorem not_suffix_runId
    {family : String}
    (isFamily : family ∈ families) :
    ¬ family.toList <:+ object.run.runId.toList :=
  not_suffix_plain isFamily
    (object.run.not_mem_runId (by decide) (by decide) (by decide))

/-- A path in the spool has no backslash. -/
private theorem normalizedPath_relativePath :
    normalizedPath object.relativePath = object.relativePath.toList := by
  have runFree : '\\' ∉ object.run.runId.toList :=
    object.run.not_mem_runId (by decide) (by decide) (by decide)
  have numberFree := @Text.not_mem_zeroPadded '\\' (by decide)
  have dateFree : '\\' ∉ object.part.eventDate.toList :=
    Calendar.not_mem_renderDate (by decide) (by decide) (by decide) _
  have folderFree : '\\' ∉ (Text.path object.folder.segments).toList := by
    obtain ⟨venuePlain, eventTypePlain, gapTypePlain⟩ := texts_plain
    refine emitted_cases ?_ ?_ ?_ ?_ object.emitted
    · intro venue known eventType knownType
      simp [L0Folder.segments, L0Folder.family, L0Folder.fields, Text.path,
        (venuePlain venue known).2.1,
        (eventTypePlain eventType knownType).2]
    · intro venue known
      simp [L0Folder.segments, L0Folder.family, L0Folder.fields, Text.path,
        (venuePlain venue known).2.1]
    · intro venue known
      simp [L0Folder.segments, L0Folder.family, L0Folder.fields, Text.path,
        (venuePlain venue known).2.1]
    · intro venue known gapType knownType
      simp [L0Folder.segments, L0Folder.family, L0Folder.fields, Text.path,
        (venuePlain venue known).2.1, (gapTypePlain gapType knownType).2]
  have free : '\\' ∉ object.relativePath.toList := by
    simp [SinkObject.relativePath, SinkObject.key, folderKey, keySegments,
      Text.path_append, hourSegments, shardSegment, partFile, Text.path,
      runFree, numberFree, dateFree, folderFree]
  unfold normalizedPath
  rw [List.map_congr_left (g := id), List.map_id]
  intro char member
  rw [if_neg]
  · rfl
  · rintro rfl
    exact free member

/-- The key of an object is read off its path in the spool. -/
private theorem keyFromLocalPath_relativePath :
    keyFromLocalPath object.relativePath = some object.key := by
  have fileFree := slash_not_mem_file object
  have ownFamily := family_mem object.folder
  have closed (family : String) :
      (family ++ "/").toList = family.toList ++ ['/'] := by
    simp
  have other
      {family : String}
      (isFamily : family ∈ families)
      (different : family ≠ object.folder.family) :
      Text.splitOnce? (family ++ "/").toList object.relativePath.toList =
        none := by
    have apart :
        ¬ family.toList <:+ object.folder.family.toList := by
      intro isEnd
      have names :=
        List.all_eq_true.mp
          (List.all_eq_true.mp families_apart family isFamily) _ ownFamily
      rw [List.isSuffixOf_iff_suffix.mpr isEnd] at names
      exact different (by simpa using names)
    rw [closed, relativePath_eq]
    apply Text.splitOnce?_closed_path (families_plain family isFamily).1
      (slashFree_relative object) _ fileFree
    exact List.forall_mem_cons.mpr ⟨not_suffix_runId object isFamily,
      List.forall_mem_cons.mpr
        ⟨apart, not_suffix_lowerSegments object isFamily⟩⟩
  have own :
      ∃ before,
        Text.splitOnce? (object.folder.family ++ "/").toList
            object.relativePath.toList =
          some (before,
            (Text.path (lowerSegments object) ++ file object).toList) := by
    obtain ⟨familyFree, _⟩ := families_plain _ ownFamily
    rw [closed, relativePath_eq, Text.toList_path_cons,
      Text.splitOnce?_closed familyFree object.run.slash_not_mem_runId,
      if_neg (not_suffix_runId object ownFamily), Text.toList_path_cons,
      Text.splitOnce?_closed familyFree familyFree,
      if_pos List.suffix_rfl]
    exact ⟨_, rfl⟩
  obtain ⟨before, found⟩ := own
  have restored :
      String.ofList
          ((object.folder.family ++ "/").toList ++
            (Text.path (lowerSegments object) ++ file object).toList) =
        object.key := by
    rw [key_eq, Text.path, ← String.toList_append, String.ofList_toList]
    simp only [String.append_assoc]
  obtain ⟨earlier, later, split, notEarlier⟩ :=
    List.eq_append_cons_of_mem ownFamily
  unfold keyFromLocalPath
  rw [normalizedPath_relativePath, keyMarkers_eq, List.findSome?_map,
    List.findSome?_eq_some_iff]
  refine ⟨earlier, object.folder.family, later, split, ?_, ?_⟩
  · rw [Function.comp_apply, found, Option.map_some, restored]
  · intro family isEarlier
    have different : family ≠ object.folder.family := by
      rintro rfl
      exact notEarlier isEarlier
    have isFamily : family ∈ families := by
      rw [split]
      exact List.mem_append_left _ isEarlier
    rw [Function.comp_apply, other isFamily different, Option.map_none]

/-- The lower segments of a key have the hour of the object only. -/
private theorem hourSegments_infix_iff
    {part : TimePart} :
    hourSegments part <:+: lowerSegments object ↔ part = object.part := by
  have notVenue (date venue : String) :
      "event_date=" ++ date ≠ "venue=" ++ venue := by
    intro same
    have characters := congrArg String.toList same
    simp at characters
  have notEventType (date eventType : String) :
      "event_date=" ++ date ≠ "event_type=" ++ eventType := by
    intro same
    have characters := congrArg String.toList same
    simp at characters
  have notGapType (date gapType : String) :
      "event_date=" ++ date ≠ "gap_type=" ++ gapType := by
    intro same
    have characters := congrArg String.toList same
    simp at characters
  have notHour (date hour : String) :
      "event_date=" ++ date ≠ "hour=" ++ hour := by
    intro same
    have characters := congrArg String.toList same
    simp at characters
  have notShard (date shard : String) :
      "event_date=" ++ date ≠ "shard=" ++ shard := by
    intro same
    have characters := congrArg String.toList same
    simp at characters
  have inHour :
      hourSegments part <:+:
          hourSegments object.part ++ [shardSegment object.shard] ↔
        hourSegments part = hourSegments object.part := by
    simp only [hourSegments, shardSegment, List.cons_append,
      List.nil_append, List.infix_cons_iff, List.cons_prefix_cons, notHour,
      notShard, false_and, List.infix_nil, reduceCtorEq, or_false,
      List.nil_prefix, and_true, List.cons.injEq]
  have skipped :
      hourSegments part <:+: lowerSegments object ↔
        hourSegments part <:+:
          hourSegments object.part ++ [shardSegment object.shard] := by
    unfold lowerSegments
    cases object.folder <;>
      simp only [L0Folder.fields, List.cons_append, List.nil_append,
        List.infix_cons_iff, hourSegments, List.cons_prefix_cons, notVenue,
        notEventType, notGapType, false_and, false_or]
  rw [skipped, inHour]
  exact hourSegments_injective.eq_iff

/-- A key matches the hours that include its own. -/
private theorem keyMatchesParts_iff
    {range : InputRange} :
    keyMatchesParts object.key
        (hourlyTimeParts range.startMs range.endMs) = true ↔
      object.part ∈ hourlyTimeParts range.startMs range.endMs := by
  obtain ⟨familyFree, lowerFree⟩ :=
    List.forall_mem_cons.mp (slashFree_segments object)
  have recognized :
      (keyMarkers.any fun marker =>
        Text.startsWith object.key marker) = true := by
    rw [keyMarkers_eq, List.any_map, List.any_eq_true]
    refine ⟨object.folder.family, family_mem _, ?_⟩
    have cut :
        object.key =
          (object.folder.family ++ "/") ++
            (Text.path (lowerSegments object) ++ file object) := by
      rw [key_eq, Text.path]
      simp only [String.append_assoc]
    rw [Function.comp_apply, cut]
    exact Text.startsWith_append
      (Text.startsWith_iff.mpr (List.prefix_refl _)) _
  have inHour
      {part : TimePart}
      (partFree : Text.SlashFree (hourSegments part)) :
      Text.contains object.key (hourText part) = true ↔
        part = object.part := by
    rw [hourText_eq, key_eq,
      Text.contains_path_iff familyFree lowerFree partFree
        (slash_not_mem_file object)]
    exact hourSegments_infix_iff object
  rw [keyMatchesParts, recognized, Bool.true_and, List.any_eq_true]
  constructor
  · rintro ⟨part, listed, inPart⟩
    rw [← (inHour (slashFree_of_mem_hourlyTimeParts listed)).mp inPart]
    exact listed
  · intro listed
    exact ⟨_, listed,
      (inHour (slashFree_of_mem_hourlyTimeParts listed)).mpr rfl⟩

end Spool

section Discovery

/-- The keys of objects in the bucket. -/
def bucketKeys (objects : List SinkObject) : List String :=
  objects.map SinkObject.key

/-- The paths of objects in the spool. -/
def spoolPaths (objects : List SinkObject) : List String :=
  objects.map SinkObject.relativePath

variable
  (objects : List SinkObject)
  (range : InputRange)
  (l0RunKeyOverlapMs : Int)

/-- The gap alerts of the listed hours have kinds of the prefix table. -/
def GapTypesListed : Prop :=
  ∀ object ∈ objects,
    object.part ∈ hourlyTimeParts range.startMs range.endMs →
    ∀ venue gapType, object.folder = .gap venue gapType →
      gapType ∈ gapAlertTypes

/--
Every object that is listed comes from a run that started before the end of the
range and after which no other run of its prefix started before the range.
-/
def NothingDropped : Prop :=
  ∀ object ∈ objects, object.folder ∈ inputFolders →
    object.part ∈ hourlyTimeParts range.startMs range.endMs →
    object.run.startMs < range.endMs ∧
      ∀ other ∈ objects, other.folder = object.folder →
        other.part = object.part →
        object.run.startMs < other.run.startMs →
        saturatingSub range.startMs (max l0RunKeyOverlapMs 0) <
          other.run.startMs

/--
Whatever the mode of a run and whatever is left in the spool, the same objects
are discovered.
-/
def DiscoveriesAgree : Prop :=
  ∀ spooled, (∀ object ∈ spooled, object ∈ objects) → ∀ runMode,
    (collectInputEntries (bucketKeys objects) (spoolPaths spooled) range
        runMode l0RunKeyOverlapMs).map InputEntry.key =
      s3InputKeys (bucketKeys objects) range .catchUp l0RunKeyOverlapMs

variable
  {objects : List SinkObject}
  {range : InputRange}
  {l0RunKeyOverlapMs : Int}

/-- The keys of the spooled objects of the listed hours are found. -/
theorem mem_local_iff
    {spooled : List SinkObject}
    {key : String} :
    key ∈ (localInputEntries (spoolPaths spooled) range).map
        InputEntry.key ↔
      ∃ object ∈ spooled, object.key = key ∧
        object.part ∈ hourlyTimeParts range.startMs range.endMs := by
  rw [mem_keys_localInputEntries_iff]
  constructor
  · rintro ⟨inParts, relative, listed, _, isKey⟩
    obtain ⟨object, spools, rfl⟩ := List.mem_map.mp listed
    rw [keyFromLocalPath_relativePath] at isKey
    obtain rfl := Option.some.inj isKey
    exact ⟨object, spools, rfl, (keyMatchesParts_iff object).mp inParts⟩
  · rintro ⟨object, spools, rfl, inHours⟩
    exact ⟨(keyMatchesParts_iff object).mpr inHours, object.relativePath,
      List.mem_map_of_mem spools, relativePath_hasParquetExtension object,
      keyFromLocalPath_relativePath object⟩

/-- The objects below a prefix are those of its folder and hour. -/
private theorem mem_listed_iff
    {folder : L0Folder}
    (isInput : folder ∈ inputFolders)
    {part : TimePart}
    (listed : part ∈ hourlyTimeParts range.startMs range.endMs)
    {key : String} :
    key ∈ (bucketKeys objects).filter
        (fun key => Text.startsWith key (hourPrefix folder part)) ↔
      ∃ object ∈ objects, object.key = key ∧ object.folder = folder ∧
        object.part = part := by
  have partFree := slashFree_of_mem_hourlyTimeParts listed
  rw [List.mem_filter, bucketKeys, List.mem_map]
  constructor
  · rintro ⟨⟨object, stored, rfl⟩, starts⟩
    obtain ⟨sameFolder, samePart⟩ :=
      (object.key_startsWith_iff isInput partFree).mp starts
    exact ⟨object, stored, rfl, sameFolder.symm, samePart.symm⟩
  · rintro ⟨object, stored, rfl, rfl, rfl⟩
    exact ⟨⟨object, stored, rfl⟩,
      (object.key_startsWith_iff isInput partFree).mpr ⟨rfl, rfl⟩⟩

/-- Outside of live runs the objects of the listed folders are found. -/
theorem mem_s3_iff
    {runMode : RunMode}
    (notLive : runMode ≠ .live)
    {key : String} :
    key ∈ s3InputKeys (bucketKeys objects) range runMode
        l0RunKeyOverlapMs ↔
      ∃ object ∈ objects, object.key = key ∧
        object.folder ∈ inputFolders ∧
        object.part ∈ hourlyTimeParts range.startMs range.endMs := by
  rw [mem_s3InputKeys_iff]
  constructor
  · rintro ⟨folder, isInput, part, listed, selected⟩
    have among := ((mem_selectS3Keys_of_not_live notLive).mp selected).1
    obtain ⟨object, stored, isKey, rfl, rfl⟩ :=
      (mem_listed_iff isInput listed).mp among
    exact ⟨object, stored, isKey, isInput, listed⟩
  · rintro ⟨object, stored, rfl, isInput, listed⟩
    refine ⟨object.folder, isInput, object.part, listed, ?_⟩
    exact (mem_selectS3Keys_of_not_live notLive).mpr
      ⟨(mem_listed_iff isInput listed).mpr ⟨object, stored, rfl, rfl, rfl⟩,
        object.key_endsWith⟩

/-- A live run finds the listed objects that it does not drop. -/
theorem mem_s3_live_iff
    (startBounded :
      saturatingSub range.startMs (max l0RunKeyOverlapMs 0) < i64Max)
    {key : String} :
    key ∈ s3InputKeys (bucketKeys objects) range .live
        l0RunKeyOverlapMs ↔
      ∃ object ∈ objects, object.key = key ∧
        object.folder ∈ inputFolders ∧
        object.part ∈ hourlyTimeParts range.startMs range.endMs ∧
        object.run.startMs < range.endMs ∧
        ∀ other ∈ objects, other.folder = object.folder →
          other.part = object.part →
          object.run.startMs < other.run.startMs →
          saturatingSub range.startMs (max l0RunKeyOverlapMs 0) <
            other.run.startMs := by
  have startOf
      {object : SinkObject}
      (isInput : object.folder ∈ inputFolders) :
      runStartMsFromKey object.key = some object.run.startMs :=
    runStartMsFromKey_folderKey isInput object.timestampMs object.shard
      object.run object.partNumber
  rw [mem_s3InputKeys_iff]
  constructor
  · rintro ⟨folder, isInput, part, listed, selected⟩
    obtain ⟨among, _, kept⟩ :=
      (mem_selectS3Keys_live_iff startBounded).mp selected
    obtain ⟨object, stored, rfl, rfl, rfl⟩ :=
      (mem_listed_iff isInput listed).mp among
    obtain ⟨started, all⟩ := kept _ (startOf isInput)
    refine ⟨object, stored, rfl, isInput, listed, started, ?_⟩
    intro other otherStored sameFolder samePart later
    have otherAmong :=
      (mem_listed_iff isInput listed).mpr
        ⟨other, otherStored, rfl, sameFolder, samePart⟩
    exact all _ otherAmong other.key_endsWith _
      (startOf (sameFolder ▸ isInput)) later
  · rintro ⟨object, stored, rfl, isInput, listed, started, all⟩
    refine ⟨object.folder, isInput, object.part, listed, ?_⟩
    refine (mem_selectS3Keys_live_iff startBounded).mpr
      ⟨(mem_listed_iff isInput listed).mpr ⟨object, stored, rfl, rfl, rfl⟩,
        object.key_endsWith, ?_⟩
    intro runStartMs isStart
    obtain rfl := Option.some.inj ((startOf isInput).symm.trans isStart)
    refine ⟨started, ?_⟩
    intro otherKey otherAmong _ otherStartMs isOtherStart later
    obtain ⟨other, otherStored, rfl, sameFolder, samePart⟩ :=
      (mem_listed_iff isInput listed).mp otherAmong
    have otherStart := startOf (sameFolder ▸ isInput)
    obtain rfl := Option.some.inj (otherStart.symm.trans isOtherStart)
    exact all other otherStored sameFolder samePart later

/-- Objects with one key agree in folder, hour and start of the run. -/
private theorem same_of_key_eq
    {object other : SinkObject}
    (isInput : other.folder ∈ inputFolders)
    (same : other.key = object.key) :
    other.folder = object.folder ∧ other.part = object.part ∧
      other.run.startMs = object.run.startMs := by
  have partFree := slashFree_hourSegments other.timestampMs
  have own :=
    (other.key_startsWith_iff isInput partFree).mpr ⟨rfl, rfl⟩
  rw [same] at own
  obtain ⟨sameFolder, samePart⟩ :=
    (object.key_startsWith_iff isInput partFree).mp own
  refine ⟨sameFolder, samePart, ?_⟩
  have otherStart :
      runStartMsFromKey other.key = some other.run.startMs :=
    runStartMsFromKey_folderKey isInput other.timestampMs other.shard
      other.run other.partNumber
  have start : runStartMsFromKey object.key = some object.run.startMs :=
    runStartMsFromKey_folderKey (sameFolder ▸ isInput) object.timestampMs
      object.shard object.run object.partNumber
  rw [same, start] at otherStart
  exact (Option.some.inj otherStart).symm

/-- If all kinds are listed, an object of a listed hour is in a read folder. -/
private theorem GapTypesListed.folder_mem
    (allListed : GapTypesListed objects range)
    {object : SinkObject}
    (stored : object ∈ objects)
    (listed : object.part ∈ hourlyTimeParts range.startMs range.endMs) :
    object.folder ∈ inputFolders :=
  (mem_inputFolders_iff object.emitted).mpr (allListed object stored listed)

/-- The full spool shows what catch-up lists exactly if all kinds are listed. -/
private theorem local_eq_s3_iff :
    (localInputEntries (spoolPaths objects) range).map InputEntry.key =
        s3InputKeys (bucketKeys objects) range .catchUp l0RunKeyOverlapMs ↔
      GapTypesListed objects range := by
  constructor
  · intro same object stored listed venue gapType isGap
    have found := mem_local_iff.mpr ⟨object, stored, rfl, listed⟩
    rw [same] at found
    obtain ⟨other, _, sameKey, isInput, _⟩ :=
      (mem_s3_iff (by simp)).mp found
    have sameFolder := (same_of_key_eq isInput sameKey).1
    rw [sameFolder] at isInput
    exact (mem_inputFolders_iff object.emitted).mp isInput venue gapType
      isGap
  · intro allListed
    apply eq_of_ascending_of_mem_iff (localInputEntries_ascending _ _)
      (sortDedup_ascending _)
    intro key
    rw [mem_local_iff, ← s3InputKeys, mem_s3_iff (by simp)]
    constructor
    · rintro ⟨object, stored, isKey, listed⟩
      exact ⟨object, stored, isKey, allListed.folder_mem stored listed,
        listed⟩
    · rintro ⟨object, stored, isKey, _, listed⟩
      exact ⟨object, stored, isKey, listed⟩

/-- Where nothing is dropped, live runs list what other runs list. -/
private theorem s3_eq_of_nothingDropped
    (startBounded :
      saturatingSub range.startMs (max l0RunKeyOverlapMs 0) < i64Max)
    (clear : NothingDropped objects range l0RunKeyOverlapMs)
    (runMode : RunMode) :
    s3InputKeys (bucketKeys objects) range runMode l0RunKeyOverlapMs =
      s3InputKeys (bucketKeys objects) range .catchUp
        l0RunKeyOverlapMs := by
  have notLive : RunMode.catchUp ≠ .live := by simp
  apply eq_of_ascending_of_mem_iff (sortDedup_ascending _)
    (sortDedup_ascending _)
  intro key
  rw [← s3InputKeys, ← s3InputKeys, mem_s3_iff notLive]
  by_cases isLive : runMode = .live
  · rw [isLive, mem_s3_live_iff startBounded]
    constructor
    · rintro ⟨object, stored, isKey, isInput, listed, _⟩
      exact ⟨object, stored, isKey, isInput, listed⟩
    · rintro ⟨object, stored, isKey, isInput, listed⟩
      exact ⟨object, stored, isKey, isInput, listed,
        clear object stored isInput listed⟩
  · exact mem_s3_iff isLive

/-- All discoveries agree exactly if both searches show every object. -/
private theorem discoveriesAgree_iff
    (startBounded :
      saturatingSub range.startMs (max l0RunKeyOverlapMs 0) < i64Max) :
    DiscoveriesAgree objects range l0RunKeyOverlapMs ↔
      GapTypesListed objects range ∧
        NothingDropped objects range l0RunKeyOverlapMs := by
  constructor
  · intro agree
    constructor
    · intro object stored listed venue gapType isGap
      have found : object.key ∈
          s3InputKeys (bucketKeys objects) range .catchUp
            l0RunKeyOverlapMs := by
        rw [← agree objects (fun _ among => among) .live,
          keys_collectInputEntries, mem_sortDedup, if_pos rfl]
        exact List.mem_append_left _
          (mem_local_iff.mpr ⟨object, stored, rfl, listed⟩)
      obtain ⟨other, _, sameKey, isInput, _⟩ :=
        (mem_s3_iff (by simp)).mp found
      rw [(same_of_key_eq isInput sameKey).1] at isInput
      exact (mem_inputFolders_iff object.emitted).mp isInput venue gapType
        isGap
    · intro object stored isInput listed
      have found : object.key ∈
          s3InputKeys (bucketKeys objects) range .live
            l0RunKeyOverlapMs := by
        have shown : object.key ∈
            s3InputKeys (bucketKeys objects) range .catchUp
              l0RunKeyOverlapMs :=
          (mem_s3_iff (by simp)).mpr ⟨object, stored, rfl, isInput, listed⟩
        have none : ∀ object ∈ ([] : List SinkObject), object ∈ objects :=
          fun _ member => (List.not_mem_nil member).elim
        rw [← agree [] none .live, keys_collectInputEntries, mem_sortDedup,
          if_pos rfl, List.mem_append] at shown
        refine shown.resolve_left fun isLocal => ?_
        obtain ⟨_, member, _⟩ := mem_local_iff.mp isLocal
        cases member
      obtain ⟨other, _, sameKey, otherInput, _, started, all⟩ :=
        (mem_s3_live_iff startBounded).mp found
      obtain ⟨sameFolder, samePart, sameStart⟩ :=
        same_of_key_eq otherInput sameKey
      rw [sameFolder, samePart, sameStart] at all
      rw [sameStart] at started
      exact ⟨started, all⟩
  · rintro ⟨allListed, clear⟩ spooled among runMode
    rw [keys_collectInputEntries,
      s3_eq_of_nothingDropped startBounded clear runMode]
    symm
    apply eq_sortDedup_of_mem_iff (sortDedup_ascending _)
    intro key
    rw [← s3InputKeys, List.mem_append, or_iff_right_of_imp]
    intro isLocal
    split_ifs at isLocal with isLive
    · obtain ⟨object, spools, isKey, listed⟩ := mem_local_iff.mp isLocal
      have stored := among object spools
      exact (mem_s3_iff (by simp)).mpr ⟨object, stored, isKey,
        allListed.folder_mem stored listed, listed⟩
    · cases isLocal

/--
The full spool shows the objects that a catch-up run lists exactly if the gap
alerts of the range have kinds of the prefix table.  Merging shows every object
once.  The input objects depend neither on the mode nor on the spool exactly if
moreover live selection drops nothing.
-/
theorem localDiscovery_agrees_iff
    (startBounded : range.startMs < i64Max) :
    ((localInputEntries (spoolPaths objects) range).map InputEntry.key =
        s3InputKeys (bucketKeys objects) range .catchUp l0RunKeyOverlapMs ↔
      GapTypesListed objects range) ∧
    (∀ spooled runMode,
      ((collectInputEntries (bucketKeys objects) (spoolPaths spooled) range
        runMode l0RunKeyOverlapMs).map InputEntry.key).Nodup) ∧
    (DiscoveriesAgree objects range l0RunKeyOverlapMs ↔
      GapTypesListed objects range ∧
        NothingDropped objects range l0RunKeyOverlapMs) := by
  have bounded :
      saturatingSub range.startMs (max l0RunKeyOverlapMs 0) < i64Max := by
    simp only [saturatingSub, clampI64, i64Min, i64Max] at *
    omega
  refine ⟨local_eq_s3_iff, ?_, discoveriesAgree_iff bounded⟩
  intro spooled runMode
  rw [keys_collectInputEntries]
  exact (sortDedup_ascending _).imp ne_of_lt

end Discovery

section Sample

/-- A run of the ingest worker of Binance. -/
def binanceRun : WorkerRun where
  kind := .ingest
  venue := "binance"
  startSecs := 1779471443
  knownVenue := by simp [venues]
  startFits := by decide

/-- An object of the hour from 1779472800000 in a folder. -/
def sampleObject
    (folder : L0Folder)
    (emitted : folder ∈ emittedFolders) : SinkObject where
  folder := folder
  emitted := emitted
  timestampMs := 1779474700000
  shard := 0
  run := binanceRun
  partNumber := 1

/-- The alert of a reconnect of Binance. -/
def reconnectObject : SinkObject :=
  sampleObject (.gap "binance" "ws_reconnect")
    (by simp [emittedFolders, venues, emittedGapTypes])

/-- The alert of a skipped update of Binance. -/
def skippedUpdateObject : SinkObject :=
  sampleObject (.gap "binance" "depth_update_id_gap")
    (by simp [emittedFolders, venues, emittedGapTypes])

/-- The alert of the reconnect is found in the spool only. -/
theorem reconnect_only_in_spool :
    (localInputEntries (spoolPaths [reconnectObject])
        ⟨1779474600000, 1779475800000⟩).map InputEntry.key ≠
      s3InputKeys (bucketKeys [reconnectObject])
        ⟨1779474600000, 1779475800000⟩ .catchUp 360000 := by
  intro same
  have listed :
      reconnectObject.part ∈
        hourlyTimeParts 1779474600000 1779475800000 :=
    timePart_mem_hourlyTimeParts (by decide) (by decide) (by decide)
      (by decide)
  have inTable :=
    local_eq_s3_iff.mp same reconnectObject List.mem_cons_self listed
      "binance" "ws_reconnect" rfl
  simp [gapAlertTypes] at inTable

/-- The alert of the skipped update is found in both places. -/
theorem skippedUpdate_in_both :
    (localInputEntries (spoolPaths [skippedUpdateObject])
        ⟨1779474600000, 1779475800000⟩).map InputEntry.key =
      s3InputKeys (bucketKeys [skippedUpdateObject])
        ⟨1779474600000, 1779475800000⟩ .catchUp 360000 := by
  refine (localDiscovery_agrees_iff (by decide)).1.mpr ?_
  intro object stored _ venue gapType isGap
  rw [List.mem_singleton.mp stored] at isGap
  obtain ⟨_, rfl⟩ := L0Folder.gap.inj isGap
  simp [gapAlertTypes]

end Sample

end MarketIngest.Normalize
