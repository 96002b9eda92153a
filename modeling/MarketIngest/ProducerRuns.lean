import MarketIngest.WrittenObjects

namespace MarketIngest.Normalize

open Build Parquet Storage

/-!
# Records of several producer runs

Every producer run has a sink of its own, which numbers the appended drafts
from one.  The identifier of a raw event is made of its venue, its type, the
millisecond of its arrival and this number, but not of the run.  Records of one
run therefore have different identifiers, and records of different runs have
unless the numbers meet in one millisecond.
-/

/-- A step of a producer run. -/
inductive RunStep where
  | append
      (draft : L0Draft)
      (publish : L0StorageSink.PublishOutcome)
      (file : FileOutcome)
  | flushAll
      (files : L0StorageSink.FlushFiles)
      (liveFlushFails : Bool)

/-- The call to the sink that a step makes. -/
def RunStep.call : RunStep → SinkCall L0Draft
  | append draft publish file => draft.call publish file
  | flushAll files liveFlushFails => .flushAll files liveFlushFails

/-- The draft that a step appends. -/
def RunStep.draft? : RunStep → Option L0Draft
  | append draft _ _ => some draft
  | flushAll _ _ => none

/-- The drafts of steps with the numbers that they get. -/
def stampsFrom : Nat → List RunStep → List (Nat × L0Draft)
  | _, [] => []
  | next, step :: rest =>
      match step.draft? with
      | some draft => (next, draft) :: stampsFrom (next + 1) rest
      | none => stampsFrom next rest

/-- A producer run, from the creation of its sink. -/
structure ProducerRun where
  config : AcceptedConfig
  hash : String → Nat
  livePublisher : Bool
  steps : List RunStep

namespace ProducerRun

variable
  (run : ProducerRun)
  (sha256Hex : String → String)

/-- The identifier of a run. -/
def runId : String :=
  run.config.1.runId

/-- The drafts of a run with their numbers. -/
def stamps : List (Nat × L0Draft) :=
  stampsFrom 1 run.steps

/-- The records of a run. -/
def rows : List L0Row :=
  run.stamps.map (fun stamp =>
    L0Row.fromDraft sha256Hex stamp.2 run.runId stamp.1)

end ProducerRun

section Numbering

/-- The records that steps append, as the sink numbers them. -/
def appendedFrom
    (sink : L0StorageSink L0Draft) :
    List RunStep → List (L0Record L0Draft)
  | [] => []
  | step :: rest =>
      (step.call.record? sink).toList ++
        appendedFrom (step.call.perform sink).1 rest

/-- No call changes the configuration of its sink. -/
private theorem perform_config
    (sink : L0StorageSink L0Draft)
    (step : RunStep) :
    (step.call.perform sink).1.config = sink.config := by
  cases step with
  | append draft publish file =>
      cases draft with
      | raw content =>
          simp only [RunStep.call, L0Draft.call, SinkCall.perform,
            L0StorageSink.appendRawMarketEvent]
          split <;> rfl
      | sourceHealth content => rfl
      | symbolHealth content => rfl
      | gap content => rfl
  | flushAll files liveFlushFails =>
      exact @flushAll_preserves _
        (fun current => current.config = sink.config) sink files
        liveFlushFails rfl (fun _ same => same) (fun _ same => same)
        (fun _ same => same) (fun _ same => same)

/-- A sink numbers its records in the order of the steps. -/
theorem appendedFrom_eq
    (sha256Hex : String → String)
    (sink : L0StorageSink L0Draft)
    (steps : List RunStep) :
    appendedFrom sink steps =
      (stampsFrom sink.nextOrdinal steps).map (fun stamp =>
        (L0Row.fromDraft sha256Hex stamp.2 sink.config.1.runId
          stamp.1).record stamp.2) := by
  induction steps generalizing sink with
  | nil =>
      rfl
  | cons step rest inductionHypothesis =>
      have numbered := SinkCall.perform_nextOrdinal sink step.call
      rw [appendedFrom, inductionHypothesis, perform_config, numbered]
      cases step with
      | append draft publish file =>
          have appended :=
            record?_call sha256Hex sink publish file draft
          rw [RunStep.call, appended]
          rfl
      | flushAll files liveFlushFails =>
          rfl

/-- The records of a run are those that its sink is given. -/
theorem ProducerRun.appended_eq
    (run : ProducerRun)
    (sha256Hex : String → String) :
    appendedFrom (.new run.config run.hash run.livePublisher) run.steps =
      run.stamps.map (fun stamp =>
        (L0Row.fromDraft sha256Hex stamp.2 run.runId stamp.1).record
          stamp.2) :=
  appendedFrom_eq sha256Hex _ run.steps

/-- Numbers are given out in ascending order. -/
private theorem stampsFrom_ascending
    (next : Nat)
    (steps : List RunStep) :
    (∀ stamp ∈ stampsFrom next steps, next ≤ stamp.1) ∧
      (stampsFrom next steps).Pairwise (fun one other =>
        one.1 < other.1) := by
  induction steps generalizing next with
  | nil =>
      simp [stampsFrom]
  | cons step rest inductionHypothesis =>
      cases step with
      | append draft publish file =>
          obtain ⟨above, ascending⟩ := inductionHypothesis (next + 1)
          refine ⟨?_, List.pairwise_cons.mpr ⟨?_, ascending⟩⟩
          · rintro stamp (_ | ⟨_, member⟩)
            · exact Nat.le_refl next
            · exact Nat.le_of_succ_le (above stamp member)
          · intro stamp member
            exact above stamp member
      | flushAll files liveFlushFails =>
          exact inductionHypothesis next

end Numbering

section Identifiers

/-- The raw event of a numbered draft. -/
def rawStamp? (stamp : Nat × L0Draft) :
    Option (Nat × Parquet.RawMarketEventDraft) :=
  match stamp.2 with
  | .raw draft => some (stamp.1, draft)
  | _ => none

/-- A raw event keeps the number of its draft. -/
private theorem rawStamp?_number
    {stamp : Nat × L0Draft}
    {raw : Nat × Parquet.RawMarketEventDraft}
    (isRaw : rawStamp? stamp = some raw) :
    raw.1 = stamp.1 := by
  obtain ⟨number, draft⟩ := stamp
  cases draft with
  | raw content =>
      cases isRaw
      rfl
  | _ =>
      cases isRaw

/-- The raw events of a run with their numbers. -/
def ProducerRun.rawStamps
    (run : ProducerRun) : List (Nat × Parquet.RawMarketEventDraft) :=
  run.stamps.filterMap rawStamp?

/-- The records of the raw events of a run. -/
def ProducerRun.rawRecords
    (run : ProducerRun)
    (sha256Hex : String → String) : List Parquet.RawMarketEventRecord :=
  run.rawStamps.map (fun stamp =>
    .fromDraft sha256Hex stamp.2 run.runId stamp.1)

/--
Two raw events have the same place in their runs, arrived in the same
millisecond, and have the same text of venue and type.
-/
def Meet (first second : Nat × Parquet.RawMarketEventDraft) : Prop :=
  first.1 = second.1 ∧
    first.2.ingestTimestampMs = second.2.ingestTimestampMs ∧
    first.2.venue ++ "_" ++ first.2.eventType =
      second.2.venue ++ "_" ++ second.2.eventType

/-- No two runs have raw events that meet. -/
def NeverMeet (runs : List ProducerRun) : Prop :=
  runs.Pairwise (fun one other =>
    ∀ first ∈ one.rawStamps, ∀ second ∈ other.rawStamps,
      ¬ Meet first second)

/-- A text that ends with a number determines both of its parts. -/
private theorem numbered_inj
    {firstLead secondLead : String}
    {first second : Int} :
    firstLead ++ "_" ++ toString first =
        secondLead ++ "_" ++ toString second ↔
      firstLead = secondLead ∧ first = second := by
  constructor
  · intro same
    have free (number : Int) : '_' ∉ (toString number).toList :=
      @Text.not_mem_toString_int '_' (by decide) (by decide) number
    have chars :
        firstLead.toList ++ '_' :: (toString first).toList =
          secondLead.toList ++ '_' :: (toString second).toList := by
      simpa [String.toList_append] using congrArg String.toList same
    obtain ⟨leads, numerals⟩ :=
      Text.lastSegment_inj (free first) (free second) chars
    exact ⟨String.toList_inj.mp leads,
      Text.toString_int_injective (String.toList_inj.mp numerals)⟩
  · rintro ⟨rfl, rfl⟩
    rfl

variable
  {sha256Hex : String → String}
  {firstRun secondRun : String}
  {first second : Nat × Parquet.RawMarketEventDraft}

/-- Identifiers agree exactly if the events meet, whatever the runs are. -/
theorem eventId_eq_iff :
    (Parquet.RawMarketEventRecord.fromDraft sha256Hex first.2 firstRun
        first.1).eventId =
        (Parquet.RawMarketEventRecord.fromDraft sha256Hex second.2 secondRun
          second.1).eventId ↔
      Meet first second := by
  have numeral (number : Nat) : toString number = toString (number : Int) :=
    rfl
  simp only [Parquet.RawMarketEventRecord.fromDraft, numeral]
  rw [numbered_inj, numbered_inj]
  simp only [String.append_assoc, String.append_right_inj, Int.natCast_inj,
    Meet]
  tauto

/-- Inside a run all identifiers are different. -/
theorem ProducerRun.eventIds_nodup
    (run : ProducerRun)
    (sha256Hex : String → String) :
    ((run.rawRecords sha256Hex).map
      (fun record => record.eventId)).Nodup := by
  unfold ProducerRun.rawRecords ProducerRun.rawStamps
  rw [List.map_map, List.Nodup, List.pairwise_map, List.pairwise_filterMap]
  refine (stampsFrom_ascending 1 run.steps).2.imp ?_
  intro earlier later below first isFirst second isSecond same
  have sameNumber := (eventId_eq_iff.mp same).1
  rw [rawStamp?_number isFirst, rawStamp?_number isSecond] at sameNumber
  exact absurd sameNumber (Nat.ne_of_lt below)

/-- All identifiers of some runs are different exactly if no events meet. -/
theorem eventIds_nodup_iff
    (runs : List ProducerRun)
    (sha256Hex : String → String) :
    ((runs.flatMap (fun run => run.rawRecords sha256Hex)).map
        (fun record => record.eventId)).Nodup ↔
      NeverMeet runs := by
  rw [List.map_flatMap, List.nodup_flatMap]
  constructor
  · rintro ⟨_, separate⟩
    refine separate.imp ?_
    intro one other disjoint first inOne second inOther meet
    refine disjoint
      (List.mem_map_of_mem (List.mem_map_of_mem inOne)) ?_
    rw [eventId_eq_iff.mpr meet]
    exact List.mem_map_of_mem (List.mem_map_of_mem inOther)
  · intro never
    refine ⟨fun run _ => run.eventIds_nodup sha256Hex, never.imp ?_⟩
    intro one other apart eventId inOne inOther
    simp only [ProducerRun.rawRecords, List.map_map, List.mem_map,
      Function.comp_apply] at inOne inOther
    obtain ⟨first, inFirst, rfl⟩ := inOne
    obtain ⟨second, inSecond, same⟩ := inOther
    exact apart first inFirst second inSecond
      (eventId_eq_iff.mp same.symm)

end Identifiers

section Duplicates

variable
  {Number : Type}
  [NumberFormat Number]
  {codec : Codec Number}
  {args : NormalizeArgs}
  {inputRange scanRange : InputRange}

/-- A raw record of a run is among its raw records. -/
private theorem mem_rawRecords
    {run : ProducerRun}
    {sha256Hex : String → String}
    {record : Parquet.RawMarketEventRecord}
    (member : L0Row.raw record ∈ run.rows sha256Hex) :
    record ∈ run.rawRecords sha256Hex := by
  obtain ⟨⟨number, draft⟩, stamped, isRecord⟩ := List.mem_map.mp member
  cases draft with
  | raw content =>
      cases isRecord
      refine List.mem_map.mpr ⟨(number, content), ?_, rfl⟩
      exact List.mem_filterMap.mpr ⟨_, stamped, rfl⟩
  | _ =>
      cases isRecord

/-- The readable events are the fresh ones and the duplicates. -/
private theorem duplicates_add_fresh
    (metadata : BuildInputMetadata)
    (rows : List InputRow) :
    (statsAfter codec args inputRange scanRange metadata
          rows).duplicateEventCount +
        (freshEvents codec args scanRange rows).length =
      (readableEvents codec args scanRange rows).length := by
  have holds :
      BuildHolds codec args scanRange inputRange rows
        (ingestRows codec args
          (BuildAccumulator.new args inputRange scanRange metadata) rows) :=
    buildHolds_ingestRows metadata rows
  exact holds.duplicateEventCount

/-- What is counted as a duplicate has the identifier of an earlier event. -/
private theorem known_of_duplicate
    {metadata : BuildInputMetadata}
    {before : List InputRow}
    {row : InputRow}
    (counted :
      (statsAfter codec args inputRange scanRange metadata
          (before ++ [row])).duplicateEventCount ≠
        (statsAfter codec args inputRange scanRange metadata
          before).duplicateEventCount) :
    ∃ event known,
      row = .rawEvent event ∧
      .rawEvent known ∈ before ∧
      known.eventId = event.eventId := by
  have earlier :=
    @duplicates_add_fresh _ _ codec args inputRange scanRange metadata before
  have later :=
    @duplicates_add_fresh _ _ codec args inputRange scanRange metadata
      (before ++ [row])
  by_cases noEvent :
      isReadable codec args scanRange row = false ∨ row.rawEvent? = none
  · rw [readableEvents_of_no_event noEvent, freshEvents_of_no_event noEvent]
      at later
    omega
  · obtain ⟨readable, isEvent⟩ := not_or.mp noEvent
    cases row with
    | rawEvent event =>
        have readable' :
            isReadable codec args scanRange (.rawEvent event) = true := by
          simpa using readable
        have known :
            event.eventId ∈
              (freshEvents codec args scanRange before).map
                (fun event => event.eventId) := by
          by_contra unknown
          rw [readableEvents_rawEvent readable',
            freshEvents_rawEvent readable', keepFirst, if_neg unknown,
            List.length_append, List.length_append,
            List.length_singleton] at later
          omega
        rw [freshEvents, mem_map_firsts_iff] at known
        obtain ⟨other, isReadable, sameId⟩ := List.mem_map.mp known
        obtain ⟨source, inBefore, isOther⟩ :=
          List.mem_filterMap.mp (mem_of_mem_readableEvents isReadable)
        refine ⟨event, other, rfl, ?_, sameId⟩
        cases source with
        | rawEvent content =>
            cases isOther
            exact inBefore
        | _ =>
            cases isOther
    | _ =>
        exact absurd rfl isEvent

/-- All rows of some runs. -/
def rowsOf
    (runs : List ProducerRun)
    (sha256Hex : String → String) : List L0Row :=
  runs.flatMap (fun run => run.rows sha256Hex)

/--
In every build over records of the runs, whatever the order and the number of
times they are read, a record is counted as a duplicate only if it was read
before.
-/
def OnlyRereadsAreDuplicates
    (codec : Codec Number)
    (runs : List ProducerRun) : Prop :=
  ∀ (args : NormalizeArgs) (inputRange scanRange : InputRange)
    (metadata : BuildInputMetadata) (before : List L0Row) (row : L0Row),
    (∀ read ∈ before ++ [row], read ∈ rowsOf runs codec.sha256Hex) →
    (statsAfter codec args inputRange scanRange metadata
        ((before ++ [row]).map sharedRow)).duplicateEventCount ≠
      (statsAfter codec args inputRange scanRange metadata
        (before.map sharedRow)).duplicateEventCount →
    row ∈ before

/-- With different identifiers only repeated records are duplicates. -/
private theorem onlyRereads_of_nodup
    {runs : List ProducerRun}
    (distinct :
      ((runs.flatMap (fun run => run.rawRecords codec.sha256Hex)).map
        (fun record => record.eventId)).Nodup) :
    OnlyRereadsAreDuplicates codec runs := by
  intro args inputRange scanRange metadata before row fromRuns counted
  rw [List.map_append] at counted
  obtain ⟨event, known, isEvent, inBefore, sameId⟩ :=
    known_of_duplicate counted
  have recordOf (read : L0Row) (shared : RawInputEvent)
      (among : read ∈ before ++ [row])
      (isShared : sharedRow read = .rawEvent shared) :
      ∃ record,
        read = .raw record ∧ shared.eventId = record.eventId ∧
          record ∈
            runs.flatMap (fun run => run.rawRecords codec.sha256Hex) := by
    obtain ⟨run, inRuns, inRun⟩ := List.mem_flatMap.mp (fromRuns read among)
    cases read with
    | raw record =>
        cases isShared
        exact ⟨record, rfl, rfl,
          List.mem_flatMap.mpr ⟨run, inRuns, mem_rawRecords inRun⟩⟩
    | _ =>
        cases isShared
  obtain ⟨earlier, wasRead, isKnown⟩ := List.mem_map.mp inBefore
  obtain ⟨first, rfl, firstId, firstAmong⟩ :=
    recordOf earlier known (List.mem_append_left _ wasRead) isKnown
  obtain ⟨second, rfl, secondId, secondAmong⟩ :=
    recordOf row event (by simp) isEvent
  have same : first = second :=
    List.inj_on_of_nodup_map distinct firstAmong secondAmong
      (firstId.symm.trans (sameId.trans secondId))
  rw [← same]
  exact wasRead

/--
Raw records of different runs have different identifiers, and so only repeated
records are counted as duplicates, exactly if no two runs append raw events of
one venue and type as their records of the same number in the same millisecond.
-/
theorem eventIds_identify_iff
    (codec : Codec Number)
    (runs : List ProducerRun) :
    (((runs.flatMap (fun run => run.rawRecords codec.sha256Hex)).map
          (fun record => record.eventId)).Nodup ∧
        OnlyRereadsAreDuplicates codec runs) ↔
      NeverMeet runs := by
  rw [← eventIds_nodup_iff runs codec.sha256Hex]
  exact ⟨And.left, fun distinct =>
    ⟨distinct, onlyRereads_of_nodup distinct⟩⟩

end Duplicates

section Sample

/-- The configuration of a run of Binance. -/
def runConfig (runId : String) : L0StorageConfig where
  bucket := "l0"
  spoolRoot := "/spool"
  runId := runId
  flushRecords := 500
  shardCount := 16
  liveNats := none

/-- The configuration of a run is accepted. -/
theorem runConfig_accepted
    (runId : String) :
    validateConfig (runConfig runId) = .ok () := by
  unfold validateConfig
  rw [if_neg (by simp [runConfig]), if_neg (by simp [runConfig]),
    if_neg (by simp [runConfig])]
  rfl

/-- A trade of a symbol. -/
def tradeDraft (symbol : String) : Parquet.RawMarketEventDraft :=
  { btcTradeDraft with
    symbolNative := symbol ++ "USDT"
    symbolCanonical := symbol
    baseAsset := symbol }

/-- The trade as the first record of a run. -/
def firstTradeRecord (runId symbol : String) :
    Parquet.RawMarketEventRecord :=
  .fromDraft btcCodec.sha256Hex (tradeDraft symbol) runId 1

/-- A run whose first record is a trade of a symbol. -/
def tradeRun (runId symbol : String) : ProducerRun where
  config := ⟨runConfig runId, runConfig_accepted runId⟩
  hash := fun _ => 0
  livePublisher := false
  steps := [.append (.raw (tradeDraft symbol)) .published .uploaded]

/-- The realtime run of Binance and a backfill, both in their first record. -/
def firstRecordRuns : List ProducerRun :=
  [tradeRun "market-ingest-binance-1779471443" "BTC",
    tradeRun "market-backfill-binance-1779471443" "ETH"]

/-- A build reads the first trade of a run. -/
private theorem firstTrade_readable
    (runId symbol : String) :
    isReadable btcCodec .withDefaults ⟨0, 1000⟩
      (.rawEvent (sharedRawEvent (firstTradeRecord runId symbol))) =
      true := by
  have written :
      SinkWritten btcCodec
        (.rawEvent (sharedRawEvent (firstTradeRecord runId symbol))) :=
    ⟨.raw (tradeDraft symbol), runId, 1, rfl⟩
  rw [written.isReadable_eq]
  rfl

/-- Of two first trades the second one that is read is a duplicate. -/
private theorem firstTrades_duplicates
    (runId symbol otherRunId otherSymbol : String) :
    let first := [L0Row.raw (firstTradeRecord runId symbol)]
    let second := L0Row.raw (firstTradeRecord otherRunId otherSymbol)
    (statsAfter btcCodec .withDefaults ⟨0, 1000⟩ ⟨0, 1000⟩ oneObject
        (first.map sharedRow)).duplicateEventCount <
      (statsAfter btcCodec .withDefaults ⟨0, 1000⟩ ⟨0, 1000⟩ oneObject
        ((first ++ [second]).map sharedRow)).duplicateEventCount := by
  intro first second
  have once := @duplicates_add_fresh _ _ btcCodec .withDefaults ⟨0, 1000⟩
    ⟨0, 1000⟩ oneObject (first.map sharedRow)
  have twice := @duplicates_add_fresh _ _ btcCodec .withDefaults ⟨0, 1000⟩
    ⟨0, 1000⟩ oneObject (first.map sharedRow ++ [sharedRow second])
  have readFirst :
      readableEvents btcCodec .withDefaults ⟨0, 1000⟩
          (first.map sharedRow) =
        [sharedRawEvent (firstTradeRecord runId symbol)] :=
    @readableEvents_rawEvent _ _ _ _ [] _ (firstTrade_readable runId symbol)
  have freshFirst :
      freshEvents btcCodec .withDefaults ⟨0, 1000⟩ (first.map sharedRow) =
        [sharedRawEvent (firstTradeRecord runId symbol)] := by
    rw [freshEvents, readFirst]
    rfl
  have readable := firstTrade_readable otherRunId otherSymbol
  have sameId :
      (sharedRawEvent (firstTradeRecord otherRunId otherSymbol)).eventId ∈
        [sharedRawEvent (firstTradeRecord runId symbol)].map
          (fun event => event.eventId) :=
    List.mem_singleton.mpr rfl
  rw [readFirst, freshFirst] at once
  rw [sharedRow, readableEvents_rawEvent readable,
    freshEvents_rawEvent readable, readFirst, freshFirst, keepFirst,
    if_pos sameId] at twice
  simp only [List.length_append, List.length_singleton] at once twice
  rw [List.map_append]
  simp only [List.map_singleton, second, sharedRow]
  omega

/--
The trades of BTC and of ETH have one identifier, and the second one that a
build reads is dropped as a duplicate of the first.
-/
theorem firstRecordRuns_share_identifier :
    firstRecordRuns.Pairwise (fun one other => one.runId ≠ other.runId) ∧
      ¬ ((firstRecordRuns.flatMap (fun run =>
            run.rawRecords btcCodec.sha256Hex)).map
          (fun record => record.eventId)).Nodup ∧
      ¬ OnlyRereadsAreDuplicates btcCodec firstRecordRuns := by
  refine ⟨?_, ?_, ?_⟩
  · simp [firstRecordRuns, tradeRun, ProducerRun.runId, runConfig]
  · rw [eventIds_nodup_iff]
    intro never
    refine List.rel_of_pairwise_cons never (List.mem_singleton.mpr rfl)
      _ (List.mem_singleton.mpr rfl) _ (List.mem_singleton.mpr rfl) ?_
    exact ⟨rfl, rfl, rfl⟩
  · intro onlyRereads
    have counted := firstTrades_duplicates
      "market-ingest-binance-1779471443" "BTC"
      "market-backfill-binance-1779471443" "ETH"
    have wasRead :=
      onlyRereads .withDefaults ⟨0, 1000⟩ ⟨0, 1000⟩ oneObject
        [.raw (firstTradeRecord "market-ingest-binance-1779471443" "BTC")]
        (.raw (firstTradeRecord "market-backfill-binance-1779471443" "ETH"))
        (fun read among => among) counted.ne'
    simp [firstTradeRecord, Parquet.RawMarketEventRecord.fromDraft]
      at wasRead

end Sample

end MarketIngest.Normalize
