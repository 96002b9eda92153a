import MarketIngest.RunSelection

namespace MarketIngest.Normalize

/-!
# Input objects on disk and in the bucket

A live run reads the objects that are still in the spool directory and those
that it lists in the bucket; other runs read the bucket only.  The spool is
searched by family and hour, the bucket by an enumerated table of prefixes.  The
two searches find the same objects exactly if every gap alert of the range has a
kind of the table.
-/

open Storage

section Definitions

/-- Where an input object comes from. -/
inductive InputEntrySource where
  | local
  | s3
  deriving Repr, DecidableEq

/-- An input object. -/
structure InputEntry where
  key : String
  path : Option String
  source : InputEntrySource
  deriving Repr, DecidableEq

/-- The beginnings of keys by which a path in the spool is recognised. -/
def keyMarkers : List String :=
  ["raw_market_event/", "symbol_health/", "source_health/", "gap_alert/"]

/-- A path below the spool root, with the separators of a key. -/
def normalizedPath (relative : String) : List Char :=
  relative.toList.map fun char => if char = '\\' then '/' else char

/-- The key of an object from its path below the spool root. -/
def keyFromLocalPath (relative : String) : Option String :=
  keyMarkers.findSome? fun marker =>
    (Text.splitOnce? marker.toList (normalizedPath relative)).map fun parts =>
      String.ofList (marker.toList ++ parts.2)

/-- The key belongs to a known family and to one of some hours. -/
def keyMatchesParts (key : String) (parts : List TimePart) : Bool :=
  (keyMarkers.any fun marker => Text.startsWith key marker) &&
    parts.any fun part => Text.contains key (hourText part)

/-- The name of the file has the extension of parquet files. -/
def hasParquetExtension (relative : String) : Bool :=
  let name := String.ofList (Text.lastField '/' relative.toList)
  Text.endsWith name ".parquet" && name ≠ ".parquet"

/-- The objects of a range in the spool, the last path of every key. -/
def localInputEntries
    (relativePaths : List String)
    (range : InputRange) : List InputEntry :=
  let parts := hourlyTimeParts range.startMs range.endMs
  let found :=
    (relativePaths.filter hasParquetExtension).filterMap fun relative =>
      (keyFromLocalPath relative).bind fun key =>
        if keyMatchesParts key parts then
          some { key := key, path := some relative, source := .local }
        else
          none
  (found.foldl
    (fun entries entry =>
      entries.upsert entry.key fun _ => entry)
    (OrderedMap.empty : OrderedMap String InputEntry)).values

/-- The keys of a range that a run selects in the bucket. -/
def s3InputKeys
    (bucketKeys : List String)
    (range : InputRange)
    (runMode : RunMode)
    (l0RunKeyOverlapMs : Int) : List String :=
  sortDedup
    ((inputPrefixes range.startMs range.endMs).flatMap fun inputPrefix =>
      selectS3Keys
        (bucketKeys.filter fun key => Text.startsWith key inputPrefix)
        range runMode l0RunKeyOverlapMs)

/-- Local objects and the listed ones that are not among them. -/
def mergeEntries
    (localEntries : List InputEntry)
    (s3Keys : List String) : List InputEntry :=
  let entries :=
    localEntries.foldl
      (fun entries entry => entries.upsert entry.key fun _ => entry)
      (OrderedMap.empty : OrderedMap String InputEntry)
  (s3Keys.foldl
    (fun entries key =>
      entries.upsert key fun known =>
        known.getD { key := key, path := none, source := .s3 })
    entries).values

/-- The input objects of a range. -/
def collectInputEntries
    (bucketKeys relativePaths : List String)
    (range : InputRange)
    (runMode : RunMode)
    (l0RunKeyOverlapMs : Int) : List InputEntry :=
  let localEntries :=
    if runMode = .live then localInputEntries relativePaths range else []
  mergeEntries localEntries
    (s3InputKeys bucketKeys range runMode l0RunKeyOverlapMs)

end Definitions

section Entries

/-- Every entry is stored under its own key. -/
private def FiledByKey (entries : OrderedMap String InputEntry) : Prop :=
  ∀ key entry, entries.get? key = some entry → entry.key = key

/-- The keys of filed entries are the keys of the map. -/
private theorem FiledByKey.keys_values
    {entries : OrderedMap String InputEntry}
    (filed : FiledByKey entries) :
    entries.values.map InputEntry.key = entries.keys := by
  rw [OrderedMap.values, OrderedMap.keys, List.map_map]
  apply List.map_congr_left
  intro entry member
  exact filed entry.1 entry.2 (OrderedMap.get?_eq_some_iff.mpr member)

/-- Entries that are placed under their keys are filed. -/
private theorem filedByKey_foldl
    {entries : OrderedMap String InputEntry}
    (filed : FiledByKey entries)
    (added : List InputEntry) :
    FiledByKey
      (added.foldl
        (fun entries entry => entries.upsert entry.key fun _ => entry)
        entries) :=
  OrderedMap.upserts_induction added filed fun _ _ _ _ => rfl

/-- Nothing is filed in the empty map. -/
private theorem filedByKey_empty : FiledByKey .empty := by
  intro key entry stored
  cases stored

/-- The keys of the entries that were placed. -/
private theorem mem_keys_foldl
    {entries : OrderedMap String InputEntry}
    {added : List InputEntry}
    {key : String} :
    key ∈
        (added.foldl
          (fun entries entry => entries.upsert entry.key fun _ => entry)
          entries).keys ↔
      key ∈ entries.keys ∨ key ∈ added.map InputEntry.key := by
  rw [OrderedMap.mem_keys_foldl_upsert (fun entry _ => entry), List.mem_map]

/-- The keys of the objects that are found in the spool. -/
theorem mem_keys_localInputEntries_iff
    {relativePaths : List String}
    {range : InputRange}
    {key : String} :
    key ∈ (localInputEntries relativePaths range).map InputEntry.key ↔
      keyMatchesParts key (hourlyTimeParts range.startMs range.endMs) =
          true ∧
        ∃ relative ∈ relativePaths, hasParquetExtension relative = true ∧
          keyFromLocalPath relative = some key := by
  rw [localInputEntries,
    (filedByKey_foldl filedByKey_empty _).keys_values, mem_keys_foldl]
  simp only [OrderedMap.keys, OrderedMap.entries_empty, List.map_nil,
    List.not_mem_nil, false_or, List.mem_map, List.mem_filterMap,
    List.mem_filter, Option.bind_eq_some_iff]
  constructor
  · rintro ⟨entry, ⟨relative, ⟨listed, isParquet⟩, found, isKey, isEntry⟩,
      rfl⟩
    split_ifs at isEntry with inParts
    obtain rfl := Option.some.inj isEntry
    exact ⟨inParts, relative, listed, isParquet, isKey⟩
  · rintro ⟨inParts, relative, listed, isParquet, isKey⟩
    exact ⟨_, ⟨relative, ⟨listed, isParquet⟩, key, isKey, if_pos inParts⟩,
      rfl⟩

/-- Every object in the spool is found once, in the order of the keys. -/
theorem localInputEntries_ascending
    (relativePaths : List String)
    (range : InputRange) :
    ((localInputEntries relativePaths range).map
      InputEntry.key).Pairwise (fun one other => one < other) := by
  rw [localInputEntries,
    (filedByKey_foldl filedByKey_empty _).keys_values]
  exact OrderedMap.keys_ascending _

/-- Every merged object appears once, in the order of the keys. -/
theorem keys_mergeEntries
    (localEntries : List InputEntry)
    (s3Keys : List String) :
    (mergeEntries localEntries s3Keys).map InputEntry.key =
      sortDedup (localEntries.map InputEntry.key ++ s3Keys) := by
  have filed :=
    filedByKey_foldl filedByKey_empty localEntries
  have merged :
      FiledByKey
        (s3Keys.foldl
          (fun entries key =>
            entries.upsert key fun known =>
              known.getD { key := key, path := none, source := .s3 })
          (localEntries.foldl
            (fun entries entry => entries.upsert entry.key fun _ => entry)
            .empty)) := by
    have induction' :=
      @OrderedMap.upserts_induction String InputEntry _ String id
        (fun key entry => entry.key = key)
        (fun key known =>
          known.getD { key := key, path := none, source := .s3 })
    refine induction' s3Keys filed ?_
    intro key _ known bound
    cases known with
    | none => rfl
    | some entry => exact bound entry rfl
  rw [mergeEntries, merged.keys_values]
  apply eq_sortDedup_of_mem_iff (OrderedMap.keys_ascending _)
  intro key
  have placed :=
    @OrderedMap.mem_keys_foldl_upsert String InputEntry _ String id
      (fun key known =>
        known.getD { key := key, path := none, source := .s3 })
      s3Keys
      (localEntries.foldl
        (fun entries entry => entries.upsert entry.key fun _ => entry)
        .empty) key
  simp only [id_eq, mem_keys_foldl] at placed
  simpa [OrderedMap.keys] using placed

/-- The keys that a run selects in the bucket. -/
theorem mem_s3InputKeys_iff
    {bucketKeys : List String}
    {range : InputRange}
    {runMode : RunMode}
    {l0RunKeyOverlapMs : Int}
    {key : String} :
    key ∈ s3InputKeys bucketKeys range runMode l0RunKeyOverlapMs ↔
      ∃ folder ∈ inputFolders,
        ∃ part ∈ hourlyTimeParts range.startMs range.endMs,
          key ∈ selectS3Keys
            (bucketKeys.filter fun key =>
              Text.startsWith key (hourPrefix folder part))
            range runMode l0RunKeyOverlapMs := by
  simp only [s3InputKeys, mem_sortDedup, List.mem_flatMap,
    mem_inputPrefixes_iff]
  constructor
  · rintro ⟨_, ⟨folder, isInput, part, listed, rfl⟩, selected⟩
    exact ⟨folder, isInput, part, listed, selected⟩
  · rintro ⟨folder, isInput, part, listed, selected⟩
    exact ⟨_, ⟨folder, isInput, part, listed, rfl⟩, selected⟩

/-- The keys of the input objects of a range. -/
theorem keys_collectInputEntries
    (bucketKeys relativePaths : List String)
    (range : InputRange)
    (runMode : RunMode)
    (l0RunKeyOverlapMs : Int) :
    (collectInputEntries bucketKeys relativePaths range runMode
        l0RunKeyOverlapMs).map InputEntry.key =
      sortDedup
        ((if runMode = .live then
            localInputEntries relativePaths range
          else []).map InputEntry.key ++
          s3InputKeys bucketKeys range runMode l0RunKeyOverlapMs) :=
  keys_mergeEntries _ _

end Entries

end MarketIngest.Normalize
