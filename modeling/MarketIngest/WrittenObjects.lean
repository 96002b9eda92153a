import MarketIngest.ColumnDecode

namespace MarketIngest.Normalize

open Build Columnar Parquet Storage

/-!
# The normalizer reads what the sink writes

An object of the sink holds records of one family.  It is written as a batch,
read back in batches of consecutive rows, and decoded by the family of its key.
The decoded rows have the schema and the hash that the build checks, so a build
that reads nothing else is not blocked.
-/

/-- The records of one object, with the partition that they belong to. -/
inductive L0Object where
  | raw
      (partition : RawPartitionKey)
      (records : List Parquet.RawMarketEventRecord)
  | sourceHealth
      (partition : HealthPartitionKey)
      (records : List Parquet.SourceHealthRecord)
  | symbolHealth
      (partition : SymbolHealthPartitionKey)
      (records : List Parquet.SymbolHealthRecord)
  | gap
      (partition : GapPartitionKey)
      (records : List Parquet.GapAlertRecord)

namespace L0Object

/-- The key of an object. -/
def key (runId : String) (partNumber : Nat) : L0Object → String
  | raw partition _ => rawObjectKey partition runId partNumber
  | sourceHealth partition _ => healthObjectKey partition runId partNumber
  | symbolHealth partition _ =>
      symbolHealthObjectKey partition runId partNumber
  | gap partition _ => gapObjectKey partition runId partNumber

/-- The batch that is written to the file of an object. -/
def write : L0Object → Except ArrowError RecordBatch
  | raw _ records => rawMarketEventBatch records
  | sourceHealth _ records => sourceHealthBatch records
  | symbolHealth _ records => symbolHealthBatch records
  | gap _ records => gapAlertBatch records

/-- The records of an object. -/
def rows : L0Object → List L0Row
  | raw _ records => records.map .raw
  | sourceHealth _ records => records.map .sourceHealth
  | symbolHealth _ records => records.map .symbolHealth
  | gap _ records => records.map .gap

/-- The family by which an object is decoded. -/
def family : L0Object → InputObjectFamily
  | raw _ _ => .rawMarketEvent
  | sourceHealth _ _ => .sourceHealth
  | symbolHealth _ _ => .symbolHealth
  | gap _ _ => .gapAlert

end L0Object

/-- The fields that a reader takes from a record. -/
def sharedRow : L0Row → InputRow
  | .raw record => .rawEvent (sharedRawEvent record)
  | .sourceHealth record => .sourceHealth (sharedSourceHealth record)
  | .symbolHealth record => .symbolHealth (sharedSymbolHealth record)
  | .gap record => .gapAlert (sharedGapAlert record)

section Reading

/-- The family of a key is that of its folder. -/
private theorem fromKey_folderKey
    (folder : L0Folder)
    (part : TimePart)
    (shard partNumber : Nat)
    (runId : String) :
    InputObjectFamily.fromKey
        (folderKey folder part shard runId partNumber) =
      match folder with
      | .raw _ _ => some .rawMarketEvent
      | .sourceHealth _ => some .sourceHealth
      | .symbolHealth _ => some .symbolHealth
      | .gap _ _ => some .gapAlert := by
  have shape :
      (folderKey folder part shard runId partNumber).toList =
        folder.family.toList ++
          '/' ::
            (Text.path
              (folder.fields ++ (hourSegments part ++ [shardSegment shard])) ++
              partFile runId partNumber).toList := by
    rw [folderKey, keySegments, L0Folder.segments, List.cons_append,
      Text.toList_path_cons]
  unfold InputObjectFamily.fromKey Text.startsWith
  rw [shape]
  cases folder <;> simp [L0Folder.family, List.isPrefixOf]

/-- An object is decoded by its own family. -/
theorem fromKey_key
    (object : L0Object)
    (runId : String)
    (partNumber : Nat) :
    InputObjectFamily.fromKey (object.key runId partNumber) =
      some object.family := by
  cases object with
  | raw partition records =>
      rw [L0Object.key, rawObjectKey_eq, fromKey_folderKey, L0Object.family]
  | sourceHealth partition records =>
      rw [L0Object.key, healthObjectKey_eq, fromKey_folderKey,
        L0Object.family]
  | symbolHealth partition records =>
      rw [L0Object.key, symbolHealthObjectKey_eq, fromKey_folderKey,
        L0Object.family]
  | gap partition records =>
      rw [L0Object.key, gapObjectKey_eq, fromKey_folderKey, L0Object.family]

/-- Steps that succeed one by one succeed together. -/
private theorem mapM_eq_ok
    {Item Value Failure : Type}
    {step : Item → Except Failure Value}
    {value : Item → Value}
    {items : List Item}
    (succeeds : ∀ item ∈ items, step item = .ok (value item)) :
    items.mapM step = .ok (items.map value) := by
  induction items with
  | nil =>
      rfl
  | cons item rest inductionHypothesis =>
      have first := succeeds item List.mem_cons_self
      have others :=
        inductionHypothesis
          (fun later member =>
            succeeds later (List.mem_cons_of_mem item member))
      rw [List.mapM_cons, first, others]
      rfl

/-- Going through the positions of a list goes through the list. -/
private theorem mapM_range_eq_ok
    {Item Value Failure : Type}
    {step : Nat → Except Failure Value}
    {value : Item → Value}
    {items : List Item}
    (succeeds :
      ∀ index item, items[index]? = some item →
        step index = .ok (value item)) :
    (List.range items.length).mapM step = .ok (items.map value) := by
  induction items using List.reverseRecOn with
  | nil =>
      rfl
  | append_singleton items last inductionHypothesis =>
      have earlier :=
        inductionHypothesis (fun index item atIndex => by
          have bound := (List.getElem?_eq_some_iff.mp atIndex).1
          exact succeeds index item
            (by rwa [List.getElem?_append_left bound]))
      have final := succeeds items.length last (by simp)
      rw [List.length_append, List.length_singleton, List.range_succ,
        List.mapM_append, earlier, List.mapM_cons, final, List.map_append]
      rfl

section Families

variable
  {Record : Type}
  {layout : Layout Record}
  {family : InputObjectFamily}
  {shared : Record → InputRow}

/-- A file that is written row by row is read row by row. -/
private theorem readBatches_split
    (decodes :
      ∀ (records : List Record) (row : Nat) (record : Record),
        records[row]? = some record →
        decodeRow family (layout.batch records) row = .ok (shared record))
    (records : List Record)
    {sizes : List Nat}
    (complete : records.length ≤ sizes.sum) :
    (((layout.batch records).split sizes).mapM
        (decodeBatch family)).map List.flatten =
      .ok (records.map shared) := by
  obtain ⟨parts, split, flat⟩ := layout.split_batch sizes records
  have each :
      ∀ part ∈ parts,
        decodeBatch family (layout.batch part) =
          .ok (part.map shared) := by
    intro part _
    exact mapM_range_eq_ok (decodes part)
  have all := mapM_eq_ok each
  rw [List.take_of_length_le complete] at flat
  rw [split, List.mapM_map, Function.comp_def, all, ← flat,
    List.map_flatten]
  rfl

end Families

/-- An object is written, and read back as the fields of its records. -/
theorem write_read
    (object : L0Object)
    (runId : String)
    (partNumber : Nat) :
    ∃ batch,
      object.write = .ok batch ∧
      batch.rowCount = object.rows.length ∧
      ∀ sizes : List Nat,
        batch.rowCount ≤ sizes.sum →
        appendBatches (object.key runId partNumber) (batch.split sizes) =
          .ok (object.rows.map sharedRow) := by
  unfold appendBatches
  rw [fromKey_key]
  cases object with
  | raw partition records =>
      refine ⟨_, rawMarketEventLayout.tryNew_eq records,
        (List.length_map _).symm, ?_⟩
      intro sizes complete
      rw [L0Object.rows, List.map_map]
      refine readBatches_split ?_ records complete
      intro records row record atRow
      rw [L0Object.family, decodeRow, rawEventFromBatch_batch atRow]
      rfl
  | sourceHealth partition records =>
      refine ⟨_, sourceHealthLayout.tryNew_eq records,
        (List.length_map _).symm, ?_⟩
      intro sizes complete
      rw [L0Object.rows, List.map_map]
      refine readBatches_split ?_ records complete
      intro records row record atRow
      rw [L0Object.family, decodeRow, sourceHealthFromBatch_batch atRow]
      rfl
  | symbolHealth partition records =>
      refine ⟨_, symbolHealthLayout.tryNew_eq records,
        (List.length_map _).symm, ?_⟩
      intro sizes complete
      rw [L0Object.rows, List.map_map]
      refine readBatches_split ?_ records complete
      intro records row record atRow
      rw [L0Object.family, decodeRow, symbolHealthFromBatch_batch atRow]
      rfl
  | gap partition records =>
      refine ⟨_, gapAlertLayout.tryNew_eq records,
        (List.length_map _).symm, ?_⟩
      intro sizes complete
      rw [L0Object.rows, List.map_map]
      refine readBatches_split ?_ records complete
      intro records row record atRow
      rw [L0Object.family, decodeRow, gapAlertFromBatch_batch atRow]
      rfl

end Reading

section WrittenRows

variable
  {Number : Type}
  {codec : Codec Number}
  {args : NormalizeArgs}
  {scanRange : InputRange}

/-- The row is what a reader takes from the record of a draft. -/
def SinkWritten (codec : Codec Number) (row : InputRow) : Prop :=
  ∃ draft runId ordinal,
    row = sharedRow (L0Row.fromDraft codec.sha256Hex draft runId ordinal)

/-- Records have the schema and the hash that the build checks. -/
theorem SinkWritten.checked
    {row : InputRow}
    (written : SinkWritten codec row) :
    row.schemaVersion = row.expectedSchema ∧
      codec.sha256Hex row.payload = row.payloadSha256 := by
  obtain ⟨draft, runId, ordinal, rfl⟩ := written
  cases draft <;> exact ⟨rfl, rfl⟩

/-- A written row has the hash that it declares. -/
theorem SinkWritten.hashMismatch_eq
    {row : InputRow}
    (written : SinkWritten codec row) :
    hashMismatch codec row = false := by
  simp [hashMismatch, written.checked.2]

/-- Only the time of an event can make a written row unreadable. -/
theorem SinkWritten.isReadable_eq
    {row : InputRow}
    (written : SinkWritten codec row) :
    isReadable codec args scanRange row =
      row.rawEvent?.all (timeValid args scanRange) := by
  simp [isReadable, written.checked.1, written.checked.2]

end WrittenRows

section Builds

variable
  {Number : Type}
  [NumberFormat Number]
  {codec : Codec Number}
  {args : NormalizeArgs}
  {inputRange scanRange : InputRange}

/-- The counters after the rows that were read. -/
def statsAfter
    (codec : Codec Number)
    (args : NormalizeArgs)
    (inputRange scanRange : InputRange)
    (metadata : BuildInputMetadata)
    (rows : List InputRow) : BuildStats :=
  (ingestRows codec args
    (BuildAccumulator.new args inputRange scanRange metadata) rows).stats

/-- The counters after the rows are those that the rows add up to. -/
private theorem statsAfter_counts
    (metadata : BuildInputMetadata)
    (rows : List InputRow) :
    (statsAfter codec args inputRange scanRange metadata
        rows).payloadHashMismatchCount =
        rows.countP (hashMismatch codec) ∧
      (statsAfter codec args inputRange scanRange metadata
          rows).invalidEventCount =
        rows.countP (fun row => !isReadable codec args scanRange row) +
          (freshEvents codec args scanRange rows).countP
            (isInvalidContent codec args inputRange) := by
  have holds :
      BuildHolds codec args scanRange inputRange rows
        (ingestRows codec args
          (BuildAccumulator.new args inputRange scanRange metadata) rows) :=
    buildHolds_ingestRows metadata rows
  exact ⟨holds.payloadHashMismatchCount, holds.invalidEventCount⟩

/-- A written row adds no hash mismatch to the rows before it. -/
theorem SinkWritten.mismatch_unchanged
    {row : InputRow}
    (written : SinkWritten codec row)
    (metadata : BuildInputMetadata)
    (before : List InputRow) :
    (statsAfter codec args inputRange scanRange metadata
        (before ++ [row])).payloadHashMismatchCount =
      (statsAfter codec args inputRange scanRange metadata
        before).payloadHashMismatchCount := by
  rw [(statsAfter_counts metadata (before ++ [row])).1,
    (statsAfter_counts metadata before).1, List.countP_append,
    List.countP_singleton, written.hashMismatch_eq,
    if_neg Bool.false_ne_true, Nat.add_zero]

/--
A written row is counted as invalid only for the time of its event or for the
content of its payload.
-/
theorem SinkWritten.invalid_only_event
    {row : InputRow}
    (written : SinkWritten codec row)
    {metadata : BuildInputMetadata}
    {before : List InputRow}
    (counted :
      (statsAfter codec args inputRange scanRange metadata
          (before ++ [row])).invalidEventCount ≠
        (statsAfter codec args inputRange scanRange metadata
          before).invalidEventCount) :
    ∃ event,
      row = .rawEvent event ∧
      (timeValid args scanRange event = false ∨
        isInvalidContent codec args inputRange event = true) := by
  rw [(statsAfter_counts metadata (before ++ [row])).2,
    (statsAfter_counts metadata before).2, List.countP_append,
    List.countP_singleton, written.isReadable_eq] at counted
  cases row with
  | rawEvent event =>
      refine ⟨event, rfl, ?_⟩
      by_contra valid
      obtain ⟨inTime, content⟩ := not_or.mp valid
      have readable :
          isReadable codec args scanRange (.rawEvent event) = true := by
        rw [written.isReadable_eq]
        simpa [InputRow.rawEvent?] using inTime
      have sameContent :
          (freshEvents codec args scanRange
              (before ++ [.rawEvent event])).countP
              (isInvalidContent codec args inputRange) =
            (freshEvents codec args scanRange before).countP
              (isInvalidContent codec args inputRange) := by
        rw [freshEvents_rawEvent readable, keepFirst]
        split_ifs with known
        · rfl
        · rw [List.countP_append, List.countP_singleton, if_neg content,
            Nat.add_zero]
      apply counted
      rw [sameContent]
      simpa [InputRow.rawEvent?] using inTime
  | symbolHealth health =>
      simp [InputRow.rawEvent?, freshEvents_of_no_event] at counted
  | sourceHealth health =>
      simp [InputRow.rawEvent?, freshEvents_of_no_event] at counted
  | gapAlert alert =>
      simp [InputRow.rawEvent?, freshEvents_of_no_event] at counted

/-- A build over written rows only is not blocked. -/
theorem notBlocked_of_written
    {rows : List InputRow}
    (written : ∀ row ∈ rows, SinkWritten codec row)
    (metadata : BuildInputMetadata) :
    (ingestRows codec args
      (BuildAccumulator.new args inputRange scanRange metadata)
      rows).finish.status ≠ .blocked := by
  have noMismatch : rows.countP (hashMismatch codec) = 0 := by
    rw [List.countP_eq_zero]
    intro row member
    simp [(written row member).hashMismatch_eq]
  have count := (@statsAfter_counts _ _ codec args inputRange scanRange
    metadata rows).1
  rw [noMismatch, statsAfter] at count
  unfold BuildAccumulator.finish finishStatus
  rw [count]
  simp only [Nat.lt_irrefl, if_false]
  split <;> simp

/--
What the sink writes the normalizer accepts.  An object comes back as the
fields of its records; a record has the schema of its family, never counts as a
hash mismatch, and counts as invalid only for the time or the content of an
event; and no build over such records is blocked.
-/
theorem sinkObjects_accepted
    (codec : Codec Number)
    (args : NormalizeArgs) :
    (∀ (object : L0Object) (runId : String) (partNumber : Nat),
      ∃ batch,
        object.write = .ok batch ∧
        batch.rowCount = object.rows.length ∧
        ∀ sizes : List Nat,
          batch.rowCount ≤ sizes.sum →
          appendBatches (object.key runId partNumber) (batch.split sizes) =
            .ok (object.rows.map sharedRow)) ∧
    (∀ (draft : L0Draft) (runId : String) (ordinal : Nat)
      (inputRange scanRange : InputRange) (metadata : BuildInputMetadata)
      (before : List InputRow),
      let row :=
        sharedRow (L0Row.fromDraft codec.sha256Hex draft runId ordinal)
      let earlier :=
        statsAfter codec args inputRange scanRange metadata before
      let later :=
        statsAfter codec args inputRange scanRange metadata (before ++ [row])
      row.schemaVersion = row.expectedSchema ∧
      later.payloadHashMismatchCount = earlier.payloadHashMismatchCount ∧
      (later.invalidEventCount ≠ earlier.invalidEventCount →
        ∃ event,
          row = .rawEvent event ∧
          (timeValid args scanRange event = false ∨
            isInvalidContent codec args inputRange event = true))) ∧
    (∀ (objects : List L0Object) (inputRange scanRange : InputRange)
      (metadata : BuildInputMetadata),
      (∀ object ∈ objects, ∀ row ∈ object.rows,
        ∃ draft runId ordinal,
          row = L0Row.fromDraft codec.sha256Hex draft runId ordinal) →
      let files := objects.map (fun object => object.rows.map sharedRow)
      (foldRange codec args inputRange scanRange metadata files).status ≠
          .blocked ∧
        (buildSlices codec args inputRange scanRange
          (NormalizeInputs.ofFiles files metadata)).status ≠ .blocked) := by
  refine ⟨write_read, ?_, ?_⟩
  · intro draft runId ordinal inputRange scanRange metadata before
    have written :
        SinkWritten codec
          (sharedRow (L0Row.fromDraft codec.sha256Hex draft runId ordinal)) :=
      ⟨draft, runId, ordinal, rfl⟩
    exact ⟨written.checked.1, written.mismatch_unchanged metadata before,
      written.invalid_only_event⟩
  · intro objects inputRange scanRange metadata fromDrafts files
    have written : ∀ row ∈ files.flatten, SinkWritten codec row := by
      intro row member
      obtain ⟨file, inFiles, inFile⟩ := List.mem_flatten.mp member
      obtain ⟨object, inObjects, rfl⟩ := List.mem_map.mp inFiles
      obtain ⟨record, inObject, rfl⟩ := List.mem_map.mp inFile
      obtain ⟨draft, runId, ordinal, rfl⟩ :=
        fromDrafts object inObjects record inObject
      exact ⟨draft, runId, ordinal, rfl⟩
    constructor
    · rw [foldRange_eq]
      exact notBlocked_of_written written metadata
    · rw [buildSlices_eq]
      refine notBlocked_of_written ?_ metadata
      intro row member
      exact written row
        ((rows_ofFiles_perm files metadata).mem_iff.mpr member)

end Builds

section Sample

/-- A trade of BTC as it is appended. -/
def btcTradeDraft : Parquet.RawMarketEventDraft where
  eventType := "trade"
  venue := "binance"
  sourceRole := "primary"
  marketType := "spot"
  symbolNative := "BTCUSDT"
  symbolCanonical := "BTC"
  baseAsset := "BTC"
  quoteAsset := "USDT"
  exchangeTimestampMs := 500
  ingestTimestampMs := 510
  sequenceId := "binance:trade:42"
  sequenceTag := ""
  exchangeSequence := some 42
  diffFirstUpdateId := none
  diffFinalUpdateId := none
  isSnapshot := false
  streamType := "REALTIME"
  streamPhase := "realtime"
  payloadJson := btcPayload

/-- An object with the trade. -/
def btcTradeObject : L0Object :=
  .raw ⟨"binance", "trade", "1970-01-01", 0, 0⟩
    [.fromDraft btcCodec.sha256Hex btcTradeDraft "run-1" 1]

/-- The trade is written, read back and built into a slice. -/
theorem btcTradeObject_accepted :
    ∃ batch,
      btcTradeObject.write = .ok batch ∧
      appendBatches (btcTradeObject.key "run-1" 1) (batch.split [1024]) =
        .ok (btcTradeObject.rows.map sharedRow) ∧
      (foldRange btcCodec .withDefaults ⟨0, 1000⟩ ⟨0, 1000⟩ oneObject
        [btcTradeObject.rows.map sharedRow]).status ≠ .blocked := by
  obtain ⟨returned, _, built⟩ :=
    sinkObjects_accepted btcCodec NormalizeArgs.withDefaults
  obtain ⟨batch, written, rowCount, read⟩ :=
    returned btcTradeObject "run-1" 1
  have small : batch.rowCount ≤ [1024].sum := by
    rw [rowCount]
    decide
  have fromDraft :
      ∀ object ∈ [btcTradeObject], ∀ row ∈ object.rows,
        ∃ draft runId ordinal,
          row = L0Row.fromDraft btcCodec.sha256Hex draft runId ordinal := by
    intro object inObjects row inObject
    rw [List.mem_singleton.mp inObjects] at inObject
    rw [List.mem_singleton.mp inObject]
    exact ⟨.raw btcTradeDraft, "run-1", 1, rfl⟩
  exact ⟨batch, written, read [1024] small,
    (built [btcTradeObject] ⟨0, 1000⟩ ⟨0, 1000⟩ oneObject fromDraft).1⟩

end Sample

end MarketIngest.Normalize
