import MarketIngest.L0Records
import MarketIngest.SegmentPath

namespace MarketIngest.Storage

/-!
# Keys of the L0 objects as paths

An object key is a path: the folder of its kind, the hour, the shard and the
file.  The keys below the prefix of one folder and hour are therefore those of
the records of that folder and hour.
-/

open Normalize (TimePart timePart)

variable {Payload : Type}

/-- The folder of the objects of one kind. -/
inductive L0Folder where
  | raw (venue eventType : String)
  | sourceHealth (venue : String)
  | symbolHealth (venue : String)
  | gap (venue gapType : String)
  deriving Repr, DecidableEq

namespace L0Folder

/-- The family of a folder. -/
def family : L0Folder → String
  | .raw _ _ => "raw_market_event"
  | .sourceHealth _ => "source_health"
  | .symbolHealth _ => "symbol_health"
  | .gap _ _ => "gap_alert"

/-- The partition fields in front of the hour. -/
def fields : L0Folder → List String
  | .raw venue eventType => ["venue=" ++ venue, "event_type=" ++ eventType]
  | .sourceHealth venue => ["venue=" ++ venue]
  | .symbolHealth venue => ["venue=" ++ venue]
  | .gap venue gapType => ["venue=" ++ venue, "gap_type=" ++ gapType]

/-- The segments of a folder. -/
def segments (folder : L0Folder) : List String :=
  folder.family :: folder.fields

/-- The texts of the records that a folder is made of. -/
def texts : L0Folder → List String
  | .raw venue eventType => [venue, eventType]
  | .sourceHealth venue => [venue]
  | .symbolHealth venue => [venue]
  | .gap venue gapType => [venue, gapType]

/-- A folder has two or three segments. -/
theorem length_segments
    (folder : L0Folder) :
    2 ≤ folder.segments.length ∧ folder.segments.length ≤ 3 := by
  cases folder with
  | raw venue eventType => exact ⟨Nat.le_succ 2, Nat.le_refl 3⟩
  | sourceHealth venue => exact ⟨Nat.le_refl 2, Nat.le_succ 2⟩
  | symbolHealth venue => exact ⟨Nat.le_refl 2, Nat.le_succ 2⟩
  | gap venue gapType => exact ⟨Nat.le_succ 2, Nat.le_refl 3⟩

/-- Folders of one family have equally many segments. -/
theorem length_segments_eq
    {first second : L0Folder}
    (sameFamily : first.family = second.family) :
    first.segments.length = second.segments.length := by
  cases first <;> cases second <;> simp [family] at sameFamily <;> rfl

/-- The segments of a folder determine it. -/
theorem segments_injective :
    Function.Injective segments := by
  intro first second same
  cases first <;> cases second <;>
    simp [segments, family, fields] at same <;> simp [same]

/-- Without separators in its texts a folder has none in its segments. -/
theorem slashFree_segments
    {folder : L0Folder}
    (free : Text.SlashFree folder.texts) :
    Text.SlashFree folder.segments := by
  cases folder <;>
    simp_all [Text.SlashFree, texts, segments, family, fields]

end L0Folder

/-- The segments of an hour. -/
def hourSegments (part : TimePart) : List String :=
  ["event_date=" ++ part.eventDate,
    "hour=" ++ Text.zeroPadded 2 part.hour]

/-- The segment of a shard. -/
def shardSegment (shard : Nat) : String :=
  "shard=" ++ Text.zeroPadded 2 shard

/-- The file of a part. -/
def partFile (runId : String) (partNumber : Nat) : String :=
  "run_id=" ++ (runId ++
    ("-part-" ++ (Text.zeroPadded 6 partNumber ++ ".parquet")))

/-- The segments of an object key. -/
def keySegments
    (folder : L0Folder)
    (part : TimePart)
    (shard : Nat) : List String :=
  folder.segments ++ (hourSegments part ++ [shardSegment shard])

/-- The key of an object in a folder. -/
def folderKey
    (folder : L0Folder)
    (part : TimePart)
    (shard : Nat)
    (runId : String)
    (partNumber : Nat) : String :=
  Text.path (keySegments folder part shard) ++ partFile runId partNumber

/-- The prefix of the objects of one folder and hour. -/
def hourPrefix (folder : L0Folder) (part : TimePart) : String :=
  Text.path (folder.segments ++ hourSegments part)

section ObjectKeys

/-- Leading names of keys, cut at their separators. -/
theorem leadingNames_cut :
    "raw_market_event/venue=" = "raw_market_event" ++ ("/" ++ "venue=") ∧
      "source_health/venue=" = "source_health" ++ ("/" ++ "venue=") ∧
      "symbol_health/venue=" = "symbol_health" ++ ("/" ++ "venue=") ∧
      "gap_alert/venue=" = "gap_alert" ++ ("/" ++ "venue=") ∧
      "/event_type=" = "/" ++ "event_type=" ∧
      "/gap_type=" = "/" ++ "gap_type=" :=
  ⟨rfl, rfl, rfl, rfl, rfl, rfl⟩

/-- The fields behind the folder of a key, cut at their separators. -/
private theorem objectKeyTail_eq
    (part : TimePart)
    (shard : Nat)
    (runId : String)
    (partNumber : Nat) :
    objectKeyTail part.eventDate part.hour shard runId partNumber =
      "/" ++ (Text.path (hourSegments part ++ [shardSegment shard]) ++
        partFile runId partNumber) := by
  have date : "/event_date=" = "/" ++ "event_date=" := rfl
  have hour : "/hour=" = "/" ++ "hour=" := rfl
  have shardName : "/shard=" = "/" ++ "shard=" := rfl
  have run : "/run_id=" = "/" ++ "run_id=" := rfl
  unfold objectKeyTail partFile shardSegment
  rw [date, hour, shardName, run]
  simp only [hourSegments, Text.path, List.cons_append, List.nil_append,
    String.append_assoc, String.append_empty, -String.reduceAppend]

variable
  (runId : String)
  (partNumber : Nat)

/-- Keys of raw market events are paths. -/
theorem rawObjectKey_eq
    (partition : RawPartitionKey) :
    rawObjectKey partition runId partNumber =
      folderKey (.raw partition.venue partition.eventType)
        ⟨partition.eventDate, partition.hour⟩ partition.shard
        runId partNumber := by
  obtain ⟨family, _, _, _, eventType, _⟩ := leadingNames_cut
  have tail :=
    objectKeyTail_eq ⟨partition.eventDate, partition.hour⟩ partition.shard
      runId partNumber
  unfold rawObjectKey folderKey keySegments
  rw [tail, family, eventType]
  simp only [L0Folder.segments, L0Folder.family, L0Folder.fields, Text.path,
    List.cons_append, List.nil_append, String.append_assoc,
    -String.reduceAppend]

/-- Keys of source health records are paths. -/
theorem healthObjectKey_eq
    (partition : HealthPartitionKey) :
    healthObjectKey partition runId partNumber =
      folderKey (.sourceHealth partition.venue)
        ⟨partition.eventDate, partition.hour⟩ partition.shard
        runId partNumber := by
  obtain ⟨_, family, _, _, _, _⟩ := leadingNames_cut
  have tail :=
    objectKeyTail_eq ⟨partition.eventDate, partition.hour⟩ partition.shard
      runId partNumber
  unfold healthObjectKey folderKey keySegments
  rw [tail, family]
  simp only [L0Folder.segments, L0Folder.family, L0Folder.fields, Text.path,
    List.cons_append, List.nil_append, String.append_assoc,
    -String.reduceAppend]

/-- Keys of symbol health records are paths. -/
theorem symbolHealthObjectKey_eq
    (partition : SymbolHealthPartitionKey) :
    symbolHealthObjectKey partition runId partNumber =
      folderKey (.symbolHealth partition.venue)
        ⟨partition.eventDate, partition.hour⟩ partition.shard
        runId partNumber := by
  obtain ⟨_, _, family, _, _, _⟩ := leadingNames_cut
  have tail :=
    objectKeyTail_eq ⟨partition.eventDate, partition.hour⟩ partition.shard
      runId partNumber
  unfold symbolHealthObjectKey folderKey keySegments
  rw [tail, family]
  simp only [L0Folder.segments, L0Folder.family, L0Folder.fields, Text.path,
    List.cons_append, List.nil_append, String.append_assoc,
    -String.reduceAppend]

/-- Keys of gap alerts are paths. -/
theorem gapObjectKey_eq
    (partition : GapPartitionKey) :
    gapObjectKey partition runId partNumber =
      folderKey (.gap partition.venue partition.gapType)
        ⟨partition.eventDate, partition.hour⟩ partition.shard
        runId partNumber := by
  obtain ⟨_, _, _, family, _, gapType⟩ := leadingNames_cut
  have tail :=
    objectKeyTail_eq ⟨partition.eventDate, partition.hour⟩ partition.shard
      runId partNumber
  unfold gapObjectKey folderKey keySegments
  rw [tail, family, gapType]
  simp only [L0Folder.segments, L0Folder.family, L0Folder.fields, Text.path,
    List.cons_append, List.nil_append, String.append_assoc,
    -String.reduceAppend]

end ObjectKeys

section Prefixes

/-- The segments of an hour determine it. -/
theorem hourSegments_injective :
    Function.Injective hourSegments := by
  rintro ⟨firstDate, firstHour⟩ ⟨secondDate, secondHour⟩ same
  have fields :
      firstDate = secondDate ∧
        Text.zeroPadded 2 firstHour = Text.zeroPadded 2 secondHour := by
    simpa [hourSegments] using same
  rw [fields.1, Text.zeroPadded_injective 2 fields.2]

/-- The segments of the hour of a time have no separators. -/
theorem slashFree_hourSegments
    (timestampMs : Int) :
    Text.SlashFree (hourSegments (timePart timestampMs)) := by
  have date := Calendar.slash_not_mem_renderDate
  have number := @Text.not_mem_zeroPadded '/' (by decide) 2
  simp [Text.SlashFree, hourSegments, timePart, date, number]

/-- The segment of a shard has no separator. -/
theorem slash_not_mem_shardSegment
    (shard : Nat) :
    '/' ∉ (shardSegment shard).toList := by
  have number := @Text.not_mem_zeroPadded '/' (by decide) 2
  simp [shardSegment, number]

variable
  {folder other : L0Folder}
  {part otherPart : TimePart}

/-- The segments of a key have no separators if those of its parts do not. -/
theorem slashFree_keySegments
    (folderFree : Text.SlashFree folder.texts)
    (partFree : Text.SlashFree (hourSegments part))
    (shard : Nat) :
    Text.SlashFree (keySegments folder part shard) := by
  intro segment member
  rcases List.mem_append.mp member with inFolder | inRest
  · exact L0Folder.slashFree_segments folderFree segment inFolder
  · rcases List.mem_append.mp inRest with inHour | isShard
    · exact partFree segment inHour
    · rw [List.mem_singleton.mp isShard]
      exact slash_not_mem_shardSegment shard

/-- Keys start with the prefix of their own folder and hour only. -/
theorem folderKey_startsWith_iff
    (folderFree : Text.SlashFree folder.texts)
    (otherFree : Text.SlashFree other.texts)
    (partFree : Text.SlashFree (hourSegments part))
    (otherPartFree : Text.SlashFree (hourSegments otherPart))
    {shard partNumber : Nat}
    {runId : String} :
    Text.startsWith (folderKey folder part shard runId partNumber)
        (hourPrefix other otherPart) = true ↔
      other = folder ∧ otherPart = part := by
  have keyFree := slashFree_keySegments folderFree partFree shard
  have prefixFree :
      Text.SlashFree (other.segments ++ hourSegments otherPart) := by
    intro segment member
    rcases List.mem_append.mp member with inFolder | inHour
    · exact L0Folder.slashFree_segments otherFree segment inFolder
    · exact otherPartFree segment inHour
  have shorter :
      (other.segments ++ hourSegments otherPart).length ≤
        (keySegments folder part shard).length := by
    have lower := folder.length_segments.1
    have upper := other.length_segments.2
    simp only [keySegments, hourSegments, List.length_append,
      List.length_cons, List.length_nil]
    omega
  unfold folderKey hourPrefix
  rw [Text.startsWith_path_iff keyFree prefixFree (Or.inl shorter)]
  constructor
  · rintro ⟨rest, isKey⟩
    have sameFamily : other.family = folder.family :=
      (List.cons.inj isKey).1
    rw [keySegments, List.append_assoc] at isKey
    obtain ⟨sameFolder, sameRest⟩ :=
      List.append_inj isKey (L0Folder.length_segments_eq sameFamily)
    have sameHour := (List.append_inj sameRest rfl).1
    exact ⟨L0Folder.segments_injective sameFolder,
      hourSegments_injective sameHour⟩
  · rintro ⟨rfl, rfl⟩
    rw [keySegments, ← List.append_assoc]
    exact List.prefix_append _ _

end Prefixes

section Records

/-- The folder of the objects that hold a record. -/
def L0Record.folder : L0Record Payload → L0Folder
  | .raw record => .raw record.venue record.eventType
  | .sourceHealth record => .sourceHealth record.venue
  | .symbolHealth record => .symbolHealth record.venue
  | .gap record => .gap record.venue record.gapType

/-- The time by which a record is filed. -/
def L0Record.timeMs : L0Record Payload → Int
  | .raw record => record.exchangeTimestampMs
  | .sourceHealth record => record.observedAtMs
  | .symbolHealth record => record.observedAtMs
  | .gap record => record.detectedAtMs

/-- The text whose hash chooses the shard of a record. -/
def L0Record.shardText : L0Record Payload → String
  | .raw record => record.symbolNative
  | .sourceHealth record => record.venue
  | .symbolHealth record => record.symbolNative
  | .gap record => record.symbolNative

/-- The key of the object that a sink files a record under. -/
def L0Record.objectKey
    (hash : String → Nat)
    (shardCount : Nat)
    (runId : String)
    (partNumber : Nat) : L0Record Payload → String
  | .raw record =>
      rawObjectKey (rawPartitionFor hash record shardCount) runId partNumber
  | .sourceHealth record =>
      healthObjectKey (healthPartitionFor hash record shardCount) runId
        partNumber
  | .symbolHealth record =>
      symbolHealthObjectKey (symbolHealthPartitionFor hash record shardCount)
        runId partNumber
  | .gap record =>
      gapObjectKey (gapPartitionFor hash record shardCount) runId partNumber

/-- A record is filed by its folder, its hour and its shard. -/
theorem L0Record.objectKey_eq
    (hash : String → Nat)
    (shardCount : Nat)
    (runId : String)
    (partNumber : Nat)
    (record : L0Record Payload) :
    record.objectKey hash shardCount runId partNumber =
      folderKey record.folder (timePart record.timeMs)
        (shardFor hash record.shardText shardCount) runId partNumber := by
  cases record with
  | raw record => exact rawObjectKey_eq runId partNumber _
  | sourceHealth record => exact healthObjectKey_eq runId partNumber _
  | symbolHealth record => exact symbolHealthObjectKey_eq runId partNumber _
  | gap record => exact gapObjectKey_eq runId partNumber _

end Records

end MarketIngest.Storage
