import MarketIngest.InputKeys
import MarketIngest.Rfc3339
import Mathlib.Data.Finset.Sort
import Mathlib.Data.String.Lemmas
import Mathlib.Order.Bounds.Basic

namespace MarketIngest.Normalize

/-!
# The oldest hour of the raw market events

Without a finished run the schedule starts at the oldest raw object.  One key is
listed per folder, and its hour is read from its text.  The sink fills dates and
hours up to fixed widths, so the first key of a folder is one of its oldest
hour.
-/

open Storage

variable {Payload Failure : Type}

/-- The number of keys that are listed per folder. -/
def l0BootstrapKeysPerPrefix : Nat :=
  1

/-- What stands behind the first occurrence of a marker. -/
def textBehind (marker key : String) : Option (List Char) :=
  (Text.splitOnce? marker.toList key.toList).map Prod.snd

/-- The first characters of a text that has so many. -/
def leadingChars (count : Nat) (text : List Char) : Option (List Char) :=
  if count ≤ text.length then some (text.take count) else none

/-- Parse an unsigned decimal numeral of 32 bits. -/
def parseU32? (text : List Char) : Option Nat :=
  let digits := if text.head? = some '+' then text.tail else text
  (Text.parseDigits? digits).filter fun number => number < 2 ^ 32

/-- The start of the hour in an object key. -/
def parseEventDateHourMs (key : String) : Option Int := do
  let behindDate ← textBehind "event_date=" key
  let dateStr ← leadingChars 10 behindDate
  let behindHour ← textBehind "/hour=" key
  let hourStr ← leadingChars 2 behindHour
  let hour ← parseU32? hourStr
  Calendar.parseFromRfc3339
    (dateStr ++ 'T' :: ((Text.zeroPadded 2 hour).toList ++ ":00:00Z".toList))

/-- Listing the first keys below a prefix. -/
abbrev ListKeysPage (Failure : Type) :=
  String → Nat → Except Failure (List String)

/-- The prefix of the raw objects of a venue and a kind. -/
def rawEventPrefix (venue eventType : String) : String :=
  "raw_market_event/venue=" ++ venue ++ "/event_type=" ++ eventType ++ "/"

/-- Take the hour of the first listed key into account. -/
def olderHour
    (listKeysPage : ListKeysPage Failure)
    (venue : String)
    (oldest : Option Int)
    (eventType : String) : Except Failure (Option Int) := do
  let keys ←
    listKeysPage (rawEventPrefix venue eventType) l0BootstrapKeysPerPrefix
  let key? := keys.find? fun key => Text.endsWith key ".parquet"
  return match key?.bind parseEventDateHourMs with
    | none => oldest
    | some candidate =>
        some (oldest.elim candidate fun current => min current candidate)

/-- The hour of the oldest raw object, or the first failure. -/
def resolveOldestL0ObjectMs
    (newUploader : Except Failure (ListKeysPage Failure)) :
    Except Failure (Option Int) := do
  let listKeysPage ← newUploader
  venues.foldlM
    (fun oldest venue =>
      rawEventTypes.foldlM (olderHour listKeysPage venue) oldest)
    none

section Oldest

/-- The oldest time of a set, if the set has any. -/
def IsOldest (times : Set Int) : Option Int → Prop
  | none => times = ∅
  | some time => IsLeast times time

/-- A further set is accounted for by its oldest time. -/
theorem IsOldest.union
    {seen times : Set Int}
    {oldest : Option Int}
    {candidate : Int}
    (isOldest : IsOldest seen oldest)
    (isLeast : IsLeast times candidate) :
    IsOldest (seen ∪ times)
      (some (oldest.elim candidate fun current => min current candidate)) := by
  cases oldest with
  | none =>
      have empty : seen = ∅ := isOldest
      rw [empty, Set.empty_union]
      exact isLeast
  | some current =>
      exact IsLeast.union isOldest isLeast

/-- The oldest time of the members of a list is their minimum. -/
theorem IsOldest.eq_min?
    {times : List Int}
    {oldest : Option Int}
    (isOldest : IsOldest {time | time ∈ times} oldest) :
    oldest = times.min? := by
  cases oldest with
  | none =>
      have empty : times = [] :=
        List.eq_nil_iff_forall_not_mem.mpr fun time member =>
          (Set.ext_iff.mp isOldest time).mp member
      rw [empty]
      rfl
  | some time =>
      exact (List.min?_eq_some_iff.mpr ⟨isOldest.1, isOldest.2⟩).symm

/-- Steps that account for one set each account for all of them. -/
theorem foldlM_isOldest
    {Item : Type}
    {step : Option Int → Item → Except Failure (Option Int)}
    {times : Item → Set Int}
    {items : List Item}
    (advances :
      ∀ item ∈ items, ∀ seen oldest, IsOldest seen oldest →
        ∃ next, step oldest item = .ok next ∧
          IsOldest (seen ∪ times item) next)
    {seen : Set Int}
    {oldest : Option Int}
    (isOldest : IsOldest seen oldest) :
    ∃ last, items.foldlM step oldest = .ok last ∧
      IsOldest (seen ∪ {time | ∃ item ∈ items, time ∈ times item}) last := by
  induction items generalizing seen oldest with
  | nil =>
      refine ⟨oldest, rfl, ?_⟩
      simpa using isOldest
  | cons item rest inductionHypothesis =>
      obtain ⟨next, stepped, nextOldest⟩ :=
        advances item List.mem_cons_self seen oldest isOldest
      obtain ⟨last, ran, lastOldest⟩ :=
        inductionHypothesis
          (fun later member => advances later (List.mem_cons_of_mem _ member))
          nextOldest
      refine ⟨last, ?_, ?_⟩
      · rw [List.foldlM_cons, stepped]
        exact ran
      · have sets :
            seen ∪ times item ∪ {time | ∃ other ∈ rest, time ∈ times other} =
              seen ∪ {time | ∃ other ∈ item :: rest, time ∈ times other} := by
          rw [Set.union_assoc]
          congr 1
          ext time
          simp
        rwa [← sets]

end Oldest

section Keys

/-- The year of a time is written with four digits. -/
def FourDigitTime (timestampMs : Int) : Prop :=
  (Calendar.civilFromDays (timestampMs / dayMs)).FourDigitYear

/-- The hour of the day of a time. -/
def hourOfDay (timestampMs : Int) : Nat :=
  (timestampMs % dayMs / hourMs).toNat

/-- A day has hours 0 to 23. -/
theorem hourOfDay_le
    (timestampMs : Int) :
    hourOfDay timestampMs ≤ 23 := by
  simp only [hourOfDay, dayMs, hourMs]
  omega

/-- An hour starts at its day and its hour of the day. -/
theorem floorHourMs_eq
    (timestampMs : Int) :
    floorHourMs timestampMs =
      timestampMs / dayMs * 86400000 + hourOfDay timestampMs * 3600000 := by
  simp only [floorHourMs, hourOfDay, dayMs, hourMs]
  omega

/-- An earlier hour is on an earlier day, or earlier on the same day. -/
theorem day_or_hour_of_floorHourMs_lt
    {first second : Int}
    (earlier : floorHourMs first < floorHourMs second) :
    first / dayMs < second / dayMs ∨
      first / dayMs = second / dayMs ∧
        hourOfDay first < hourOfDay second := by
  have firstHour := hourOfDay_le first
  have secondHour := hourOfDay_le second
  rw [floorHourMs_eq, floorHourMs_eq] at earlier
  omega

/-- Date and hour of a time with a year of four digits. -/
theorem FourDigitTime.timePart_eq
    {timestampMs : Int}
    (fourDigits : FourDigitTime timestampMs) :
    timePart timestampMs =
      { eventDate :=
          Calendar.renderDate (Calendar.civilFromDays (timestampMs / dayMs))
        hour := hourOfDay timestampMs } := by
  have representable : representableTimestamp timestampMs = true := by
    obtain ⟨lower, upper⟩ := fourDigits
    simp only [representableTimestamp, decide_eq_true_eq]
    omega
  simp [timePart, representable, hourOfDay]

/-- What follows the hour in an object key. -/
def behindHour (shard : Nat) (runId : String) (partNumber : Nat) : String :=
  Text.path [shardSegment shard] ++ partFile runId partNumber

variable
  (folder : L0Folder)
  (shard : Nat)
  (runId : String)
  (partNumber : Nat)

/-- An object key, cut below its folder. -/
theorem folderKey_eq
    (part : TimePart) :
    folderKey folder part shard runId partNumber =
      Text.path folder.segments ++
        (Text.path (hourSegments part) ++
          behindHour shard runId partNumber) := by
  rw [folderKey, keySegments, Text.path_append, Text.path_append, behindHour]
  simp only [String.append_assoc]

/-- The characters of an object key, cut below its folder. -/
theorem toList_folderKey
    (part : TimePart) :
    (folderKey folder part shard runId partNumber).toList =
      (Text.path folder.segments).toList ++
        (Text.path (hourSegments part) ++
          behindHour shard runId partNumber).toList := by
  rw [folderKey_eq, String.toList_append]

/-- Date and hour in an object key. -/
theorem toList_path_hourSegments
    (part : TimePart)
    (file : String) :
    (Text.path (hourSegments part) ++ file).toList =
      "event_date=".toList ++ (part.eventDate.toList ++ '/' ::
        ("hour=".toList ++ ((Text.zeroPadded 2 part.hour).toList ++ '/' ::
          file.toList))) := by
  rw [hourSegments, Text.toList_path_cons, Text.toList_path_cons, Text.path,
    String.empty_append, String.toList_append, String.toList_append]
  simp only [List.append_assoc]

/-- Within a folder the keys of earlier hours come first. -/
theorem folderKey_lt_of_lt
    {first second : Int}
    (firstYear : FourDigitTime first)
    (secondYear : FourDigitTime second)
    (earlier : floorHourMs first < floorHourMs second)
    (otherShard : Nat)
    (otherRunId : String)
    (otherPartNumber : Nat) :
    folderKey folder (timePart first) shard runId partNumber <
      folderKey folder (timePart second) otherShard otherRunId
        otherPartNumber := by
  have short (timestampMs : Int) : hourOfDay timestampMs < 10 ^ 2 := by
    have := hourOfDay_le timestampMs
    omega
  have dateLength :=
    (Calendar.length_renderDate firstYear).trans
      (Calendar.length_renderDate secondYear).symm
  have hourLength :=
    (Text.length_zeroPadded (by decide) (short first)).trans
      (Text.length_zeroPadded (by decide) (short second)).symm
  rw [String.lt_iff_toList_lt, toList_folderKey, toList_folderKey,
    toList_path_hourSegments, toList_path_hourSegments,
    firstYear.timePart_eq, secondYear.timePart_eq]
  refine List.append_left_lt (List.append_left_lt ?_)
  rcases day_or_hour_of_floorHourMs_lt earlier with
    earlierDay | ⟨sameDay, earlierHour⟩
  · exact Text.append_lt_append_of_length dateLength
      (Calendar.renderDate_lt_of_lt firstYear secondYear earlierDay) _ _
  · rw [sameDay]
    refine List.append_left_lt (List.cons_lt_cons_self.mpr
      (List.append_left_lt ?_))
    exact Text.append_lt_append_of_length hourLength
      (Text.zeroPadded_lt_of_lt (by decide) (short second) earlierHour) _ _

end Keys

section Parsing

/-- The hour of 32 bits in two digits. -/
theorem parseU32?_zeroPadded
    {number : Nat}
    (small : number < 10 ^ 2) :
    parseU32? (Text.zeroPadded 2 number).toList = some number := by
  have notSign :
      (Text.zeroPadded 2 number).toList.head? ≠ some '+' := by
    intro isFirst
    have digit :=
      Text.isDigit_of_mem_zeroPadded (List.mem_of_head? isFirst)
    cases digit
  rw [parseU32?, if_neg notSign, Text.parseDigits?_zeroPadded]
  exact if_pos (decide_eq_true (by omega))

/-- The first characters of a text of known length. -/
theorem leadingChars_append
    {leading : List Char}
    {count : Nat}
    (length : leading.length = count)
    (rest : List Char) :
    leadingChars count (leading ++ rest) = some leading := by
  rw [leadingChars, if_pos (by simp [length]), List.take_left' length]

/-- The folder holds raw market events of a known venue and kind. -/
structure KnownRawFolder (venue eventType : String) : Prop where
  venue : venue ∈ venues
  eventType : eventType ∈ rawEventTypes

/-- Venues and kinds have neither separators nor equals signs. -/
private theorem tables_plain :
    (∀ venue ∈ venues, '/' ∉ venue.toList ∧ '=' ∉ venue.toList) ∧
      ∀ eventType ∈ rawEventTypes,
        '/' ∉ eventType.toList ∧ '=' ∉ eventType.toList := by
  simp [venues, rawEventTypes]

variable
  {venue eventType : String}

/-- The texts of a known folder have no separators. -/
theorem KnownRawFolder.textsFree
    (known : KnownRawFolder venue eventType) :
    Text.SlashFree (L0Folder.raw venue eventType).texts := by
  simp [Text.SlashFree, L0Folder.texts, (tables_plain.1 _ known.venue).1,
    (tables_plain.2 _ known.eventType).1]

/-- The segments of a known folder have no separators. -/
theorem KnownRawFolder.slashFree
    (known : KnownRawFolder venue eventType) :
    Text.SlashFree (L0Folder.raw venue eventType).segments :=
  L0Folder.slashFree_segments known.textsFree

/-- The marker of the date is in no segment of a known folder. -/
theorem KnownRawFolder.date_absent
    (known : KnownRawFolder venue eventType) :
    ∀ segment ∈ (L0Folder.raw venue eventType).segments,
      Text.splitOnce? "event_date=".toList segment.toList = none := by
  have field
      {name value : String}
      (nameFree : '=' ∉ name.toList)
      (valueFree : '=' ∉ value.toList)
      (different : ¬ "event_date".toList <:+ name.toList) :
      Text.splitOnce? "event_date=".toList (name ++ "=" ++ value).toList =
        none := by
    have absent :=
      Text.splitOnce?_field (by decide) nameFree valueFree different
    simpa using absent
  intro segment member
  simp only [L0Folder.segments, L0Folder.family, L0Folder.fields,
    List.mem_cons, List.not_mem_nil, or_false] at member
  rcases member with rfl | rfl | rfl
  · decide
  · exact @field "venue" venue (by decide) (tables_plain.1 _ known.venue).2
      (by decide)
  · exact @field "event_type" eventType (by decide)
      (tables_plain.2 _ known.eventType).2 (by decide)

/-- What stands behind the marker of the date in a raw key. -/
theorem KnownRawFolder.behind_date
    (known : KnownRawFolder venue eventType)
    (part : TimePart)
    (file : String) :
    textBehind "event_date="
        (Text.path (L0Folder.raw venue eventType).segments ++
          (Text.path (hourSegments part) ++ file)) =
      some (part.eventDate.toList ++ '/' ::
        ("hour=".toList ++ ((Text.zeroPadded 2 part.hour).toList ++ '/' ::
          file.toList))) := by
  rw [textBehind, Text.splitOnce?_path (by decide) (by decide)
      known.date_absent,
    toList_path_hourSegments, Text.splitOnce?_of_prefix]
  rfl

/-- What stands behind the marker of the hour in a raw key. -/
theorem KnownRawFolder.behind_hour
    (known : KnownRawFolder venue eventType)
    (timestampMs : Int)
    (file : String) :
    textBehind "/hour="
        (Text.path (L0Folder.raw venue eventType).segments ++
          (Text.path (hourSegments (timePart timestampMs)) ++ file)) =
      some ((Text.zeroPadded 2 (timePart timestampMs).hour).toList ++ '/' ::
        file.toList) := by
  have dateFree :
      '/' ∉ (timePart timestampMs).eventDate.toList :=
    Calendar.slash_not_mem_renderDate _
  have others :
      Text.SlashFree
        ["venue=" ++ venue, "event_type=" ++ eventType,
          "event_date=" ++ (timePart timestampMs).eventDate] := by
    simp [Text.SlashFree, dateFree, (tables_plain.1 _ known.venue).1,
      (tables_plain.2 _ known.eventType).1]
  have shape :
      Text.path (L0Folder.raw venue eventType).segments ++
          (Text.path (hourSegments (timePart timestampMs)) ++ file) =
        Text.path
            ["raw_market_event", "venue=" ++ venue,
              "event_type=" ++ eventType,
              "event_date=" ++ (timePart timestampMs).eventDate] ++
          ("hour=" ++ (Text.zeroPadded 2 (timePart timestampMs).hour ++
            ("/" ++ file))) := by
    simp only [L0Folder.segments, L0Folder.family, L0Folder.fields,
      hourSegments, Text.path, String.append_assoc, String.append_empty]
  have behind :
      (Text.zeroPadded 2 (timePart timestampMs).hour ++
          ("/" ++ file)).toList =
        (Text.zeroPadded 2 (timePart timestampMs).hour).toList ++ '/' ::
          file.toList := by
    simp
  have marker : "/hour=".toList = '/' :: "hour=".toList := rfl
  have different :
      ∀ segment ∈
        ["venue=" ++ venue, "event_type=" ++ eventType,
          "event_date=" ++ (timePart timestampMs).eventDate],
        ¬ "hour=".toList <+: segment.toList := by
    simp
  rw [textBehind, shape, String.toList_append, String.toList_append, behind,
    marker]
  exact Text.splitOnce?_opened_path (by decide) (by decide) others different
    _

/-- The hour in the key of a raw object is that of its events. -/
theorem parseEventDateHourMs_folderKey
    (known : KnownRawFolder venue eventType)
    {timestampMs : Int}
    (fourDigits : FourDigitTime timestampMs)
    (shard : Nat)
    (runId : String)
    (partNumber : Nat) :
    parseEventDateHourMs
        (folderKey (.raw venue eventType) (timePart timestampMs) shard runId
          partNumber) =
      some (floorHourMs timestampMs) := by
  have hourSmall : hourOfDay timestampMs < 10 ^ 2 := by
    have := hourOfDay_le timestampMs
    omega
  rw [parseEventDateHourMs, folderKey_eq, known.behind_date,
    known.behind_hour, fourDigits.timePart_eq]
  simp only [Option.bind_eq_bind, Option.bind_some,
    leadingChars_append (Calendar.length_renderDate fourDigits),
    leadingChars_append (Text.length_zeroPadded (by decide) hourSmall),
    parseU32?_zeroPadded hourSmall]
  rw [Calendar.parseFromRfc3339_hour fourDigits (hourOfDay_le timestampMs),
    floorHourMs_eq]

end Parsing

section Listing

/-- The first keys below a prefix in the order of their texts. -/
def firstKeys
    (keys : Finset String)
    (keyPrefix : String)
    (maxKeys : Nat) : List String :=
  ((keys.filter fun key => Text.startsWith key keyPrefix = true).sort).take
    maxKeys

/-- The first key below a prefix is the least one. -/
theorem firstKeys_one
    (keys : Finset String)
    (keyPrefix : String) :
    (firstKeys keys keyPrefix 1 = [] ∧
        ∀ key ∈ keys, Text.startsWith key keyPrefix = false) ∨
      ∃ key ∈ keys, Text.startsWith key keyPrefix = true ∧
        firstKeys keys keyPrefix 1 = [key] ∧
        ∀ other ∈ keys, Text.startsWith other keyPrefix = true →
          key ≤ other := by
  have members (key : String) :
      key ∈ (keys.filter fun key =>
          Text.startsWith key keyPrefix = true).sort ↔
        key ∈ keys ∧ Text.startsWith key keyPrefix = true := by
    rw [Finset.mem_sort, Finset.mem_filter]
  have sorted :=
    Finset.pairwise_sort
      (keys.filter fun key => Text.startsWith key keyPrefix = true) (· ≤ ·)
  unfold firstKeys
  generalize
    (keys.filter fun key => Text.startsWith key keyPrefix = true).sort =
      listed at members sorted ⊢
  cases listed with
  | nil =>
      refine Or.inl ⟨rfl, fun key member => ?_⟩
      by_contra starts
      exact List.not_mem_nil
        ((members key).mpr ⟨member, Bool.eq_true_of_not_eq_false starts⟩)
  | cons key rest =>
      obtain ⟨isKey, starts⟩ := (members key).mp List.mem_cons_self
      refine Or.inr ⟨key, isKey, starts, rfl, fun other member below => ?_⟩
      rcases List.mem_cons.mp ((members other).mpr ⟨member, below⟩) with
        rfl | later
      · exact le_rfl
      · exact (List.pairwise_cons.mp sorted).1 other later

/-- The prefix of raw objects is the path of their folder. -/
theorem rawEventPrefix_eq
    (venue eventType : String) :
    rawEventPrefix venue eventType =
      Text.path (L0Folder.raw venue eventType).segments := by
  obtain ⟨family, _, _, _, kind, _⟩ := leadingNames_cut
  unfold rawEventPrefix
  rw [family, kind]
  simp only [L0Folder.segments, L0Folder.family, L0Folder.fields, Text.path,
    String.append_assoc, String.append_empty, -String.reduceAppend]

/-- An object of the L0 bucket, given by a record in it. -/
structure FiledObject (Payload : Type) where
  record : L0Record Payload
  shardCount : Nat
  runId : String
  partNumber : Nat

namespace FiledObject

/-- The key of an object. -/
def key (hash : String → Nat) (object : FiledObject Payload) : String :=
  object.record.objectKey hash object.shardCount object.runId
    object.partNumber

/-- The start of the hour of the raw market events of an object. -/
def rawHourMs? (object : FiledObject Payload) : Option Int :=
  match object.record with
  | .raw record => some (floorHourMs record.exchangeTimestampMs)
  | _ => none

/-- Raw market events are of known venues, kinds and years. -/
def Known (object : FiledObject Payload) : Prop :=
  ∀ record, object.record = .raw record →
    KnownRawFolder record.venue record.eventType ∧
      FourDigitTime record.exchangeTimestampMs

end FiledObject

/-- The keys of some objects. -/
def filedKeys
    (hash : String → Nat)
    (objects : List (FiledObject Payload)) : Finset String :=
  (objects.map (FiledObject.key hash)).toFinset

/-- The hours of the raw objects of a venue and a kind. -/
def folderHours
    (objects : List (FiledObject Payload))
    (venue eventType : String) : Set Int :=
  {time | ∃ object ∈ objects, object.record.folder = .raw venue eventType ∧
    object.rawHourMs? = some time}

/-- A key below the prefix of a raw folder is of a raw folder. -/
theorem family_of_startsWith
    {folder : L0Folder}
    {part : TimePart}
    {shard partNumber : Nat}
    {runId venue eventType : String}
    (starts :
      Text.startsWith (folderKey folder part shard runId partNumber)
        (rawEventPrefix venue eventType) = true) :
    folder.family = "raw_market_event" := by
  have free (other : L0Folder) : '/' ∉ other.family.toList := by
    cases other <;> simp [L0Folder.family]
  have prefixShape :=
    Text.toList_path_cons "raw_market_event"
      (L0Folder.raw venue eventType).fields ""
  rw [String.append_empty, String.append_empty] at prefixShape
  rw [rawEventPrefix_eq, Text.startsWith_iff, folderKey, keySegments,
    L0Folder.segments, L0Folder.segments, List.cons_append,
    Text.toList_path_cons, L0Folder.family, prefixShape] at starts
  have sameFamily :=
    ((Text.segment_prefix_iff (free (.raw venue eventType))
      (free folder)).mp starts).1
  exact (String.toList_inj.mp sameFamily).symm

/-- Below the prefix of a folder are the keys of its objects. -/
theorem key_startsWith_iff
    {object : FiledObject Payload}
    (objectKnown : object.Known)
    {venue eventType : String}
    (known : KnownRawFolder venue eventType)
    (hash : String → Nat) :
    Text.startsWith (object.key hash) (rawEventPrefix venue eventType) =
        true ↔
      object.record.folder = .raw venue eventType := by
  rw [FiledObject.key, L0Record.objectKey_eq]
  constructor
  · intro starts
    have isRaw := family_of_startsWith starts
    cases isRecord : object.record with
    | raw record =>
        obtain ⟨recordKnown, _⟩ := objectKnown record isRecord
        have keyFree :=
          slashFree_keySegments recordKnown.textsFree
            (slashFree_hourSegments record.exchangeTimestampMs)
            (shardFor hash record.symbolNative object.shardCount)
        rw [isRecord, rawEventPrefix_eq, folderKey] at starts
        obtain ⟨rest, isKey⟩ :=
          (Text.startsWith_path_iff keyFree known.slashFree
            (Or.inl (by simp [keySegments, L0Folder.segments,
              L0Folder.fields]))).mp starts
        exact (L0Folder.segments_injective
          (List.append_inj isKey rfl).1).symm
    | sourceHealth record =>
        simp [isRecord, L0Record.folder, L0Folder.family] at isRaw
    | symbolHealth record =>
        simp [isRecord, L0Record.folder, L0Folder.family] at isRaw
    | gap record =>
        simp [isRecord, L0Record.folder, L0Folder.family] at isRaw
  · intro isFolder
    rw [isFolder, rawEventPrefix_eq, folderKey_eq]
    exact Text.startsWith_path_append _ _

/-- The keys of the objects of a folder are ordered as their hours. -/
theorem key_lt_of_hour_lt
    {first second : FiledObject Payload}
    {firstHour secondHour : Int}
    (firstKnown : first.Known)
    (secondKnown : second.Known)
    (sameFolder : first.record.folder = second.record.folder)
    (isFirst : first.rawHourMs? = some firstHour)
    (isSecond : second.rawHourMs? = some secondHour)
    (earlier : firstHour < secondHour)
    (hash : String → Nat) :
    first.key hash < second.key hash := by
  rw [FiledObject.key, FiledObject.key, L0Record.objectKey_eq,
    L0Record.objectKey_eq, sameFolder]
  cases firstRecord : first.record with
  | raw firstRaw =>
      cases secondRecord : second.record with
      | raw secondRaw =>
          rw [FiledObject.rawHourMs?, firstRecord, Option.some.injEq]
            at isFirst
          rw [FiledObject.rawHourMs?, secondRecord, Option.some.injEq]
            at isSecond
          subst isFirst isSecond
          exact folderKey_lt_of_lt _ _ _ _ (firstKnown _ firstRecord).2
            (secondKnown _ secondRecord).2 earlier _ _ _
      | _ => simp [FiledObject.rawHourMs?, secondRecord] at isSecond
  | _ => simp [FiledObject.rawHourMs?, firstRecord] at isFirst

/-- The hour of a raw object is read from its key. -/
theorem parseEventDateHourMs_key
    {object : FiledObject Payload}
    (known : object.Known)
    {hour : Int}
    (isHour : object.rawHourMs? = some hour)
    (hash : String → Nat) :
    parseEventDateHourMs (object.key hash) = some hour := by
  rw [FiledObject.key, L0Record.objectKey_eq]
  cases isRecord : object.record with
  | raw record =>
      rw [FiledObject.rawHourMs?, isRecord] at isHour
      rw [← isHour]
      exact parseEventDateHourMs_folderKey (known _ isRecord).1
        (known _ isRecord).2 _ _ _
  | _ => simp [FiledObject.rawHourMs?, isRecord] at isHour

/-- The objects of a raw folder have hours. -/
theorem exists_rawHourMs_of_folder
    {object : FiledObject Payload}
    {venue eventType : String}
    (isFolder : object.record.folder = .raw venue eventType) :
    ∃ hour, object.rawHourMs? = some hour := by
  cases isRecord : object.record with
  | raw record =>
      exact ⟨_, by rw [FiledObject.rawHourMs?, isRecord]⟩
  | _ => simp [isRecord, L0Record.folder] at isFolder

/-- Keys of objects end like the file of an object. -/
theorem FiledObject.key_endsWith
    (object : FiledObject Payload)
    (hash : String → Nat) :
    Text.endsWith (object.key hash) ".parquet" = true := by
  have split (leading : String) :
      leading ++ partFile object.runId object.partNumber =
        leading ++ ("run_id=" ++ (object.runId ++ ("-part-" ++
          Text.zeroPadded 6 object.partNumber))) ++ ".parquet" := by
    simp only [partFile, String.append_assoc]
  rw [FiledObject.key, L0Record.objectKey_eq, folderKey, split]
  exact Text.endsWith_append _ _

variable
  {hash : String → Nat}
  {objects : List (FiledObject Payload)}
  {listKeysPage : ListKeysPage Failure}
  (known : ∀ object ∈ objects, object.Known)
  (answers :
    ∀ keyPrefix maxKeys,
      listKeysPage keyPrefix maxKeys =
        .ok (firstKeys (filedKeys hash objects) keyPrefix maxKeys))

/-- The step of a folder whose keys are listed. -/
theorem olderHour_of_listed
    {venue eventType : String}
    {keys : List String}
    (listed :
      listKeysPage (rawEventPrefix venue eventType) l0BootstrapKeysPerPrefix =
        .ok keys)
    (oldest : Option Int) :
    olderHour listKeysPage venue oldest eventType =
      .ok (match (keys.find? fun key => Text.endsWith key ".parquet").bind
          parseEventDateHourMs with
        | none => oldest
        | some candidate =>
            some (oldest.elim candidate fun current =>
              min current candidate)) := by
  rw [olderHour, listed]
  rfl

include known answers in
/-- Listing one key of a folder accounts for all of its objects. -/
theorem olderHour_isOldest
    {venue eventType : String}
    (knownFolder : KnownRawFolder venue eventType)
    {seen : Set Int}
    {oldest : Option Int}
    (isOldest : IsOldest seen oldest) :
    ∃ next,
      olderHour listKeysPage venue oldest eventType = .ok next ∧
      IsOldest (seen ∪ folderHours objects venue eventType) next := by
  have listed {object : FiledObject Payload} (member : object ∈ objects) :
      object.key hash ∈ filedKeys hash objects :=
    List.mem_toFinset.mpr (List.mem_map_of_mem member)
  have below {object : FiledObject Payload} (member : object ∈ objects) :=
    key_startsWith_iff (known object member) knownFolder hash
  rw [olderHour_of_listed (answers _ _), l0BootstrapKeysPerPrefix]
  rcases firstKeys_one (filedKeys hash objects)
      (rawEventPrefix venue eventType) with
    ⟨page, absent⟩ | ⟨key, isKey, starts, page, first⟩
  · have empty : folderHours objects venue eventType = ∅ := by
      refine Set.eq_empty_iff_forall_notMem.mpr ?_
      rintro time ⟨object, member, isFolder, _⟩
      have found := (below member).mpr isFolder
      rw [absent _ (listed member)] at found
      cases found
    refine ⟨oldest, by rw [page]; rfl, ?_⟩
    rwa [empty, Set.union_empty]
  · obtain ⟨object, member, rfl⟩ :=
      List.mem_map.mp (List.mem_toFinset.mp isKey)
    have isFolder := (below member).mp starts
    obtain ⟨hour, isHour⟩ := exists_rawHourMs_of_folder isFolder
    have isLeast :
        IsLeast (folderHours objects venue eventType) hour := by
      refine ⟨⟨object, member, isFolder, isHour⟩, ?_⟩
      rintro otherHour ⟨other, isOther, otherFolder, isOtherHour⟩
      by_contra earlier
      have later :=
        first _ (listed isOther) ((below isOther).mpr otherFolder)
      exact absurd
        (key_lt_of_hour_lt (known other isOther) (known object member)
          (otherFolder.trans isFolder.symm) isOtherHour isHour
          (not_le.mp earlier) hash)
        (not_lt.mpr later)
    have found :
        [object.key hash].find? (fun key => Text.endsWith key ".parquet") =
          some (object.key hash) :=
      List.find?_cons_of_pos (object.key_endsWith hash)
    have parsed := parseEventDateHourMs_key (known object member) isHour hash
    refine ⟨_, ?_, isOldest.union isLeast⟩
    rw [page, found, Option.bind_some, parsed]

/-- The hours of known raw objects are those of the listed folders. -/
theorem mem_rawHours_iff
    (known : ∀ object ∈ objects, object.Known)
    (time : Int) :
    time ∈ objects.filterMap FiledObject.rawHourMs? ↔
      ∃ venue ∈ venues, ∃ eventType ∈ rawEventTypes,
        time ∈ folderHours objects venue eventType := by
  rw [List.mem_filterMap]
  constructor
  · rintro ⟨object, member, isHour⟩
    cases isRecord : object.record with
    | raw record =>
        obtain ⟨isKnown, _⟩ := known object member record isRecord
        exact ⟨record.venue, isKnown.venue, record.eventType,
          isKnown.eventType, object, member, by rw [isRecord]; rfl, isHour⟩
    | _ => simp [FiledObject.rawHourMs?, isRecord] at isHour
  · rintro ⟨_, _, _, _, object, member, _, isHour⟩
    exact ⟨object, member, isHour⟩

/-- Objects have no hours exactly if none of them is raw. -/
theorem rawHours_min?_eq_none_iff :
    (objects.filterMap FiledObject.rawHourMs?).min? = none ↔
      ∀ object ∈ objects, object.record.isRaw = false := by
  rw [List.min?_eq_none_iff, List.filterMap_eq_nil_iff]
  refine forall₂_congr fun object _ => ?_
  cases isRecord : object.record <;>
    simp [FiledObject.rawHourMs?, isRecord, L0Record.isRaw]

/--
The oldest hour is the minimum over the hours of all raw objects, and none if
there is no raw object.  The hour of a record is read from the key that it is
filed under.
-/
theorem resolveOldestL0ObjectMs_eq_min
    (hash : String → Nat)
    {objects : List (FiledObject Payload)}
    (known : ∀ object ∈ objects, object.Known)
    {listKeysPage : ListKeysPage Failure}
    (answers :
      ∀ keyPrefix maxKeys,
        listKeysPage keyPrefix maxKeys =
          .ok (firstKeys (filedKeys hash objects) keyPrefix maxKeys)) :
    resolveOldestL0ObjectMs (.ok listKeysPage) =
        .ok (objects.filterMap FiledObject.rawHourMs?).min? ∧
      ((objects.filterMap FiledObject.rawHourMs?).min? = none ↔
        ∀ object ∈ objects, object.record.isRaw = false) ∧
      ∀ (record : Storage.RawMarketEventRecord Payload) (shardCount : Nat)
        (runId : String) (partNumber : Nat),
        KnownRawFolder record.venue record.eventType →
        FourDigitTime record.exchangeTimestampMs →
        parseEventDateHourMs
            (rawObjectKey (rawPartitionFor hash record shardCount) runId
              partNumber) =
          some (floorHourMs record.exchangeTimestampMs) := by
  refine ⟨?_, rawHours_min?_eq_none_iff, ?_⟩
  · obtain ⟨oldest, ran, isOldest⟩ :=
      foldlM_isOldest
        (fun venue isVenue seen oldest isOldest =>
          foldlM_isOldest
            (fun eventType isType seen oldest isOldest =>
              olderHour_isOldest known answers ⟨isVenue, isType⟩ isOldest)
            isOldest)
        (show IsOldest ∅ none from rfl)
    have hours : IsOldest
        {time | time ∈ objects.filterMap FiledObject.rawHourMs?} oldest := by
      convert isOldest using 1
      ext time
      simp [mem_rawHours_iff known]
    rw [← hours.eq_min?]
    exact ran
  · intro record shardCount runId partNumber knownFolder fourDigits
    rw [rawObjectKey_eq]
    exact parseEventDateHourMs_folderKey knownFolder fourDigits _ _ _

/-- Objects of both sides of the end of a month. -/
def monthEndObjects : List (FiledObject Unit) :=
  [⟨.raw ⟨"evt_1", "l0", "binance", "depth_delta", "BTCUSDT",
      1706745600001, 1706745600002, ()⟩, 4, "l0", 2⟩,
    ⟨.raw ⟨"evt_2", "l0", "binance", "depth_delta", "BTCUSDT",
      1706745599999, 1706745600000, ()⟩, 4, "l0", 1⟩,
    ⟨.sourceHealth ⟨"health_3", "l0", "binance", 0, ()⟩, 4, "l0", 1⟩]

/-- The raw objects are known ones. -/
private theorem monthEndObjects_known :
    ∀ object ∈ monthEndObjects, object.Known := by
  have binanceDepth : KnownRawFolder "binance" "depth_delta" :=
    ⟨by decide, by decide⟩
  intro object member record isRecord
  simp only [monthEndObjects, List.mem_cons, List.not_mem_nil, or_false]
    at member
  rcases member with rfl | rfl | rfl
  · cases isRecord
    exact ⟨binanceDepth, by unfold FourDigitTime; decide⟩
  · cases isRecord
    exact ⟨binanceDepth, by unfold FourDigitTime; decide⟩
  · cases isRecord

/-- The last hour of the earlier month is found. -/
theorem monthEndObjects_oldest :
    resolveOldestL0ObjectMs (.ok fun keyPrefix maxKeys =>
        (.ok (firstKeys (filedKeys (fun _ => 0) monthEndObjects) keyPrefix
          maxKeys) : Except Unit (List String))) =
      .ok (some 1706742000000) :=
  (resolveOldestL0ObjectMs_eq_min (fun _ => 0) monthEndObjects_known
    (fun _ _ => rfl)).1.trans (by decide)

end Listing

end MarketIngest.Normalize
