import MarketIngest.SinkConservation
import MarketIngest.WatchStats

namespace MarketIngest.Binance

open Storage

/-!
# Gap alerts at the end of a run

The gap alerts of a run are kept in the statistics, and a worker that ends
appends them to its sink.  The statistics keep a bounded number of them, so of
a longer list only the latest ones reach the sink, while all are counted.
-/

/-- What the drafts of a worker have besides the columns of their keys. -/
inductive WatchPayload where
  | sourceHealth
      (connectionStatus : String)
      (heartbeatDelayMs streamLagMs : Int)
      (recentGapCount bookRebuildCount : Nat)
      (healthLevel : String)
  | symbolHealth
      (lastEventTimeMs latencyMs : Int)
      (isTradeable : Bool)
      (reasonCodes : List String)
  | gapAlert
      (expectedSequenceId observedSequenceId : Option Int)
      (healAction healStatus : String)
  deriving Repr, DecidableEq

/-- The draft of a gap alert. -/
def gapAlertDraft
    (alert : BinanceL0GapAlert) : GapAlertDraft WatchPayload where
  venue := "binance"
  symbolNative := alert.symbol
  gapType := alert.gapType
  detectedAtMs := alert.detectedAtMs
  payload :=
    .gapAlert alert.expectedSequenceId alert.observedSequenceId
      alert.healAction alert.healStatus

/-- How late the last message is. -/
def heartbeatDelayMsAt
    (stats : BinanceL0WatchStats)
    (observedAtMs : Int) : Int :=
  match stats.lastIngestTimestampMs with
  | some last => max (saturatingSub observedAtMs last) 0
  | none => 0

/-- The level of health of a worker. -/
def healthLevel (stats : BinanceL0WatchStats) : String :=
  if stats.sourceHealthStatus = "connected" ∧
      stats.malformedMessages = 0 ∧
      stats.gapAlertCount = 0 then
    "healthy"
  else if stats.receivedMessages = 0 then
    "critical"
  else
    "degraded"

/-- The draft of the health of the source. -/
def sourceHealthDraft
    (stats : BinanceL0WatchStats)
    (observedAtMs : Int) : SourceHealthDraft WatchPayload where
  venue := "binance"
  observedAtMs := observedAtMs
  payload :=
    .sourceHealth stats.sourceHealthStatus
      (heartbeatDelayMsAt stats observedAtMs) stats.latestStreamLagMs
      stats.gapAlertCount 0 (healthLevel stats)

/-- The draft of the health of one symbol. -/
def symbolHealthDraft
    (stats : BinanceL0WatchStats)
    (observedAtMs : Int)
    (symbol : String) : SymbolHealthDraft WatchPayload :=
  let lastEventTimeMs :=
    (stats.symbolLastEventTimeMs.get? symbol).getD observedAtMs
  let lastReceivedTimeMs :=
    (stats.symbolLastIngestTimeMs.get? symbol).getD observedAtMs
  let staleMs := max (saturatingSub observedAtMs lastReceivedTimeMs) 0
  let reasonCodes :=
    (if staleMs ≥ 60000 then ["source_stale"] else []) ++
      if stats.gapAlertCount > 0 then ["source_gap_detected"] else []
  { venue := "binance"
    symbolNative := symbol
    observedAtMs := observedAtMs
    payload :=
      .symbolHealth lastEventTimeMs
        (max (saturatingSub lastReceivedTimeMs lastEventTimeMs) 0)
        reasonCodes.isEmpty reasonCodes }

/-- The drafts of the health of all symbols that were seen. -/
def symbolHealthDrafts
    (stats : BinanceL0WatchStats)
    (observedAtMs : Int) : List (SymbolHealthDraft WatchPayload) :=
  stats.symbolCounts.keys.map (symbolHealthDraft stats observedAtMs)

/-- The clock readings, and what happens to files, when a worker ends. -/
structure FinalizeFiles where
  sourceObservedAtMs : Int
  symbolsObservedAtMs : Int
  source : FileOutcome
  symbol : String → FileOutcome
  gap : Nat → FileOutcome
  flush : L0StorageSink.FlushFiles
  liveFlushFails : Bool
  manifestFails : Bool

/-- The appends of some gap alerts. -/
def gapCalls
    (file : Nat → FileOutcome) :
    Nat → List BinanceL0GapAlert → List (SinkCall WatchPayload)
  | _, [] => []
  | index, alert :: rest =>
      .appendGapAlert (gapAlertDraft alert) (file index) ::
        gapCalls file (index + 1) rest

/-- The appends of the health of the source and of the symbols. -/
def healthCalls
    (stats : BinanceL0WatchStats)
    (files : FinalizeFiles) : List (SinkCall WatchPayload) :=
  .appendSourceHealth (sourceHealthDraft stats files.sourceObservedAtMs)
      files.source ::
    (symbolHealthDrafts stats files.symbolsObservedAtMs).map fun draft =>
      .appendSymbolHealth draft (files.symbol draft.symbolNative)

/-- The calls with which a worker ends, before it uploads its manifest. -/
def finalizeCalls
    (stats : BinanceL0WatchStats)
    (files : FinalizeFiles) : List (SinkCall WatchPayload) :=
  healthCalls stats files ++ gapCalls files.gap 0 stats.gapAlerts ++
    [.flushAll files.flush files.liveFlushFails]

/-- Make some calls, up to the first failure. -/
def performAll
    (sink : L0StorageSink WatchPayload) :
    List (SinkCall WatchPayload) →
    L0StorageSink WatchPayload × Except StorageError Unit
  | [] => (sink, .ok ())
  | call :: rest =>
      match call.perform sink with
      | (after, .ok ()) => performAll after rest
      | (after, .error failure) => (after, .error failure)

/-- Append what the statistics have to the sink, and flush it. -/
def finalizeStorage
    (sink : L0StorageSink WatchPayload)
    (stats : BinanceL0WatchStats)
    (files : FinalizeFiles) :
    L0StorageSink WatchPayload × Except StorageError Unit :=
  match performAll sink (finalizeCalls stats files) with
  | (after, .ok ()) =>
      (after, if files.manifestFails then .error .io else .ok ())
  | (after, .error failure) => (after, .error failure)

/-- The gap alert that a call appends. -/
def gapDraft? :
    SinkCall WatchPayload → Option (GapAlertDraft WatchPayload)
  | .appendGapAlert draft _ => some draft
  | _ => none

/-- The gap alerts that were appended before the first failure. -/
def appendedGapAlerts
    (sink : L0StorageSink WatchPayload) :
    List (SinkCall WatchPayload) → List (GapAlertDraft WatchPayload)
  | [] => []
  | call :: rest =>
      match call.perform sink with
      | (after, .ok ()) =>
          (gapDraft? call).toList ++ appendedGapAlerts after rest
      | (_, .error _) => []

/-- The alerts that some calls record. -/
def alertsFrom
    (stats : BinanceL0WatchStats) :
    List WatchCall → List BinanceL0GapAlert
  | [] => []
  | call :: rest =>
      (call.alert? stats).toList ++ alertsFrom (call.perform stats) rest

/-- The alerts that a run of a worker records. -/
def recordedAlerts (calls : List WatchCall) : List BinanceL0GapAlert :=
  alertsFrom .new calls

/-- Every recorded alert is appended, once and in order, and counted. -/
def GapsReachSink
    (calls : List WatchCall)
    (sink : L0StorageSink WatchPayload)
    (files : FinalizeFiles) : Prop :=
  appendedGapAlerts sink (finalizeCalls (statsAfter calls) files) =
      (recordedAlerts calls).map gapAlertDraft ∧
    (recordedAlerts calls).length = (statsAfter calls).gapAlertCount

/-- If the record fills its buffer, the file of the buffer is written. -/
def FileWritten
    (sink : L0StorageSink WatchPayload) :
    SinkCall WatchPayload → Prop
  | .appendSourceHealth draft file =>
      Fills sink.config.1 sink.health
          (healthPartitionFor sink.hash
            (.fromDraft draft sink.config.1.runId sink.nextOrdinal)
            sink.config.1.shardCount) →
        file.loses = false
  | .appendSymbolHealth draft file =>
      Fills sink.config.1 sink.symbolHealth
          (symbolHealthPartitionFor sink.hash
            (.fromDraft draft sink.config.1.runId sink.nextOrdinal)
            sink.config.1.shardCount) →
        file.loses = false
  | .appendGapAlert draft file =>
      Fills sink.config.1 sink.gap
          (gapPartitionFor sink.hash
            (.fromDraft draft sink.config.1.runId sink.nextOrdinal)
            sink.config.1.shardCount) →
        file.loses = false
  | call => (call.perform sink).2 = .ok ()

/-- Every call finds its file written. -/
def FilesWritten
    (sink : L0StorageSink WatchPayload) :
    List (SinkCall WatchPayload) → Prop
  | [] => True
  | call :: rest =>
      FileWritten sink call ∧ FilesWritten (call.perform sink).1 rest

section Alerts

variable {history : List BinanceL0GapAlert}

/-- One more call records its alert after those before it. -/
private theorem alertsFrom_concat
    (stats : BinanceL0WatchStats)
    (calls : List WatchCall)
    (call : WatchCall) :
    alertsFrom stats (calls ++ [call]) =
      alertsFrom stats calls ++
        (call.alert? (calls.foldl WatchCall.perform stats)).toList := by
  induction calls generalizing stats with
  | nil =>
      simp [alertsFrom]
  | cons first rest inductionHypothesis =>
      simp only [List.cons_append, alertsFrom, List.foldl_cons,
        inductionHypothesis, List.append_assoc]

/-- One more call of a run. -/
theorem recordedAlerts_concat
    (calls : List WatchCall)
    (call : WatchCall) :
    recordedAlerts (calls ++ [call]) =
      recordedAlerts calls ++ (call.alert? (statsAfter calls)).toList :=
  alertsFrom_concat .new calls call

/-- A pushed alert is the latest one. -/
theorem keepsLatest_pushBounded
    {kept : List BinanceL0GapAlert}
    {cap dropped : Nat}
    (keeps : KeepsLatest cap history kept dropped)
    (alert : BinanceL0GapAlert) :
    ∃ others,
      KeepsLatest cap (history ++ [alert]) (pushBounded kept alert cap)
        others := by
  unfold pushBounded
  simp only [List.length_append, List.length_singleton]
  split_ifs with full
  · exact ⟨_, keeps.shift alert full⟩
  · exact ⟨_, keeps.push alert (not_lt.mp full)⟩

/-- The statistics count all alerts of a run and keep the latest ones. -/
theorem statsAfter_keepsLatest
    (calls : List WatchCall) :
    (statsAfter calls).gapAlertCount = (recordedAlerts calls).length ∧
      ∃ dropped,
        KeepsLatest maxStoredGapAlerts (recordedAlerts calls)
          (statsAfter calls).gapAlerts dropped := by
  induction calls using List.reverseRecOn with
  | nil =>
      exact ⟨rfl, 0, keepsLatest_nil⟩
  | append_singleton calls call inductionHypothesis =>
      obtain ⟨counted, dropped, keeps⟩ := inductionHypothesis
      obtain ⟨count, alerts⟩ := call.perform_records (statsAfter calls)
      rw [statsAfter_concat, recordedAlerts_concat, count, alerts]
      cases call.alert? (statsAfter calls) with
      | none =>
          simp only [Option.toList_none, List.length_nil, Nat.add_zero,
            List.append_nil, Option.elim_none]
          exact ⟨counted, dropped, keeps⟩
      | some alert =>
          simp only [Option.toList_some, List.length_singleton,
            List.length_append, Option.elim_some]
          exact ⟨by rw [counted], keepsLatest_pushBounded keeps alert⟩

/-- The statistics have all alerts of a run just if they fit. -/
theorem gapAlerts_eq_recordedAlerts_iff
    (calls : List WatchCall) :
    (statsAfter calls).gapAlerts = recordedAlerts calls ↔
      (recordedAlerts calls).length ≤ maxStoredGapAlerts := by
  obtain ⟨-, dropped, keeps⟩ := statsAfter_keepsLatest calls
  constructor
  · intro same
    have length := keeps.length_eq
    rw [same] at length
    exact length.symm ▸ min_le_left _ _
  · intro fits
    rw [keeps.kept, List.rtake, Nat.sub_eq_zero_of_le fits, List.drop_zero]

end Alerts

section Sink

variable
  {sink : L0StorageSink WatchPayload}
  {call : SinkCall WatchPayload}

/-- A call succeeds just if its file is written. -/
theorem perform_ok_iff_fileWritten :
    (call.perform sink).2 = .ok () ↔ FileWritten sink call := by
  cases call with
  | appendRawMarketEvent draft publish file =>
      rfl
  | appendSourceHealth draft file =>
      exact appendRecord_ok_iff
  | appendSymbolHealth draft file =>
      exact appendRecord_ok_iff
  | appendGapAlert draft file =>
      exact appendRecord_ok_iff
  | flushAll files liveFlushFails =>
      rfl

/-- A call whose file is written is followed by the next one. -/
theorem appendedGapAlerts_cons_of_written
    (written : FileWritten sink call)
    (rest : List (SinkCall WatchPayload)) :
    appendedGapAlerts sink (call :: rest) =
      (gapDraft? call).toList ++
        appendedGapAlerts (call.perform sink).1 rest := by
  have done := perform_ok_iff_fileWritten.mpr written
  rcases performed : call.perform sink with ⟨after, result⟩
  rw [performed] at done
  cases done
  simp only [appendedGapAlerts, performed]

/-- A call whose file is not written is the last one. -/
theorem appendedGapAlerts_cons_of_not_written
    (missing : ¬ FileWritten sink call)
    (rest : List (SinkCall WatchPayload)) :
    appendedGapAlerts sink (call :: rest) = [] := by
  rw [← perform_ok_iff_fileWritten] at missing
  rcases performed : call.perform sink with ⟨after, result⟩
  rw [performed] at missing
  cases result with
  | ok done =>
      exact absurd rfl missing
  | error failure =>
      simp only [appendedGapAlerts, performed]

/-- Files are written for two lists of calls one after the other. -/
private theorem filesWritten_append
    (calls rest : List (SinkCall WatchPayload)) :
    FilesWritten sink (calls ++ rest) ↔
      FilesWritten sink calls ∧
        FilesWritten
          (calls.foldl (fun sink call => (call.perform sink).1) sink)
          rest := by
  induction calls generalizing sink with
  | nil =>
      simp [FilesWritten]
  | cons call others inductionHypothesis =>
      simp only [List.cons_append, FilesWritten, List.foldl_cons,
        inductionHypothesis, and_assoc]

/-- Calls without gap alerts only decide whether the others are made. -/
private theorem appendedGapAlerts_append
    {calls : List (SinkCall WatchPayload)}
    (silent : ∀ call ∈ calls, gapDraft? call = none)
    (rest : List (SinkCall WatchPayload)) :
    (FilesWritten sink calls →
        appendedGapAlerts sink (calls ++ rest) =
          appendedGapAlerts
            (calls.foldl (fun sink call => (call.perform sink).1) sink)
            rest) ∧
      (¬ FilesWritten sink calls →
        appendedGapAlerts sink (calls ++ rest) = []) := by
  induction calls generalizing sink with
  | nil =>
      exact ⟨fun _ => rfl, fun missing => absurd trivial missing⟩
  | cons call others inductionHypothesis =>
      have later :=
        @inductionHypothesis (call.perform sink).1
          (fun other member => silent other (List.mem_cons_of_mem _ member))
      by_cases written : FileWritten sink call
      · rw [List.cons_append, appendedGapAlerts_cons_of_written written,
          silent call (List.mem_cons_self ..)]
        exact
          ⟨fun both => later.1 both.2,
            fun missing => later.2 fun rest => missing ⟨written, rest⟩⟩
      · rw [List.cons_append, appendedGapAlerts_cons_of_not_written written]
        exact ⟨fun both => absurd both.1 written, fun _ => rfl⟩

/-- All gap alerts are appended just if their files are written. -/
private theorem appendedGapAlerts_gapCalls
    (file : Nat → FileOutcome)
    (index : Nat)
    (alerts : List BinanceL0GapAlert)
    (files : L0StorageSink.FlushFiles)
    (liveFlushFails : Bool) :
    (appendedGapAlerts sink
          (gapCalls file index alerts ++
            [.flushAll files liveFlushFails]) <+:
        alerts.map gapAlertDraft) ∧
      (appendedGapAlerts sink
            (gapCalls file index alerts ++
              [.flushAll files liveFlushFails]) =
          alerts.map gapAlertDraft ↔
        FilesWritten sink (gapCalls file index alerts)) := by
  induction alerts generalizing sink index with
  | nil =>
      have nothing :
          appendedGapAlerts sink
            [.flushAll files liveFlushFails] = [] := by
        by_cases written :
            FileWritten sink (.flushAll files liveFlushFails)
        · exact appendedGapAlerts_cons_of_written written []
        · exact appendedGapAlerts_cons_of_not_written written []
      simp [gapCalls, nothing, FilesWritten]
  | cons alert rest inductionHypothesis =>
      by_cases written :
          FileWritten sink
            (.appendGapAlert (gapAlertDraft alert) (file index))
      · have later :=
          @inductionHypothesis
            ((SinkCall.appendGapAlert (gapAlertDraft alert)
              (file index)).perform sink).1
            (index + 1)
        rw [gapCalls, List.cons_append,
          appendedGapAlerts_cons_of_written written, List.map_cons]
        refine ⟨?_, ?_⟩
        · exact (List.prefix_cons_inj _).mpr later.1
        · simp only [gapDraft?, Option.toList_some, List.singleton_append,
            List.cons.injEq, true_and, later.2, FilesWritten, written]
      · rw [gapCalls, List.cons_append,
          appendedGapAlerts_cons_of_not_written written]
        simp [FilesWritten, written]

/-- The health of the source and the symbols has no gap alert. -/
private theorem gapDraft?_healthCalls
    {stats : BinanceL0WatchStats}
    {files : FinalizeFiles} :
    ∀ call ∈ healthCalls stats files, gapDraft? call = none := by
  intro call member
  rw [healthCalls, List.mem_cons, List.mem_map] at member
  rcases member with rfl | ⟨draft, -, rfl⟩
  · rfl
  · rfl

/-- What reaches the sink of the alerts of the statistics. -/
theorem appendedGapAlerts_finalizeCalls
    (sink : L0StorageSink WatchPayload)
    (stats : BinanceL0WatchStats)
    (files : FinalizeFiles) :
    appendedGapAlerts sink (finalizeCalls stats files) <+:
        stats.gapAlerts.map gapAlertDraft ∧
      (appendedGapAlerts sink (finalizeCalls stats files) =
          stats.gapAlerts.map gapAlertDraft ↔
        stats.gapAlerts = [] ∨
          FilesWritten sink
            (healthCalls stats files ++
              gapCalls files.gap 0 stats.gapAlerts)) := by
  have ends :=
    @appendedGapAlerts_append sink (healthCalls stats files)
      gapDraft?_healthCalls
      (gapCalls files.gap 0 stats.gapAlerts ++
        [.flushAll files.flush files.liveFlushFails])
  rw [finalizeCalls, List.append_assoc, filesWritten_append]
  by_cases written : FilesWritten sink (healthCalls stats files)
  · rw [ends.1 written]
    have gaps :=
      @appendedGapAlerts_gapCalls
        ((healthCalls stats files).foldl
          (fun sink call => (call.perform sink).1) sink)
        files.gap 0 stats.gapAlerts files.flush files.liveFlushFails
    refine ⟨gaps.1, gaps.2.trans ?_⟩
    constructor
    · exact fun both => Or.inr ⟨written, both⟩
    · rintro (empty | both)
      · rw [empty]
        trivial
      · exact both.2
  · rw [ends.2 written]
    refine ⟨List.nil_prefix, ?_⟩
    simp [written, eq_comm]

end Sink

/--
The gap alerts that reach the sink are the recorded ones exactly when they fit
into the statistics and, if there are any, the file of every buffer that fills
on the way is written.
-/
theorem gapsReachSink_iff
    (calls : List WatchCall)
    (sink : L0StorageSink WatchPayload)
    (files : FinalizeFiles) :
    GapsReachSink calls sink files ↔
      (recordedAlerts calls).length ≤ maxStoredGapAlerts ∧
        (recordedAlerts calls = [] ∨
          FilesWritten sink
            (healthCalls (statsAfter calls) files ++
              gapCalls files.gap 0 (recordedAlerts calls))) := by
  obtain ⟨counted, dropped, keeps⟩ := statsAfter_keepsLatest calls
  obtain ⟨prefixOf, exactly⟩ :=
    appendedGapAlerts_finalizeCalls sink (statsAfter calls) files
  constructor
  · rintro ⟨reached, -⟩
    rw [reached] at prefixOf
    have length := prefixOf.length_le
    rw [List.length_map, List.length_map, keeps.length_eq] at length
    have fits : (recordedAlerts calls).length ≤ maxStoredGapAlerts :=
      length.trans (min_le_left _ _)
    have same := (gapAlerts_eq_recordedAlerts_iff calls).mpr fits
    rw [same] at exactly
    exact ⟨fits, exactly.mp reached⟩
  · rintro ⟨fits, written⟩
    have same := (gapAlerts_eq_recordedAlerts_iff calls).mpr fits
    rw [same] at exactly
    exact ⟨exactly.mpr written, counted.symm⟩

/-- A worker that cannot connect. -/
def lostConnections : List WatchCall :=
  List.replicate 1001 (.recordReconnect "connect_failed" 1779471443000)

/-- A reconnect is always recorded. -/
private theorem recordedAlerts_replicate
    (count : Nat)
    (reason : String)
    (nowMs : Int) :
    (recordedAlerts
      (List.replicate count (.recordReconnect reason nowMs))).length =
        count := by
  induction count with
  | zero =>
      rfl
  | succ count inductionHypothesis =>
      rw [List.replicate_succ', recordedAlerts_concat, List.length_append,
        inductionHypothesis]
      rfl

/-- A sink that flushes every second record of a partition. -/
def pairSink : L0StorageSink WatchPayload :=
  .new pairConfig (fun _ => 0) false

/-- All files are written and uploaded. -/
def uploadedFiles : FinalizeFiles where
  sourceObservedAtMs := 1779471444000
  symbolsObservedAtMs := 1779471444000
  source := .uploaded
  symbol := fun _ => .uploaded
  gap := fun _ => .uploaded
  flush :=
    { raw := fun _ => .uploaded
      health := fun _ => .uploaded
      symbolHealth := fun _ => .uploaded
      gap := fun _ => .uploaded }
  liveFlushFails := false
  manifestFails := false

/-- The first of its reconnects does not reach the sink. -/
theorem firstReconnect_lost :
    ¬ GapsReachSink lostConnections pairSink uploadedFiles := by
  rintro ⟨reached, -⟩
  obtain ⟨-, dropped, keeps⟩ := statsAfter_keepsLatest lostConnections
  have prefixOf :=
    (appendedGapAlerts_finalizeCalls pairSink (statsAfter lostConnections)
      uploadedFiles).1
  rw [reached] at prefixOf
  have length := prefixOf.length_le
  rw [List.length_map, List.length_map, keeps.length_eq, lostConnections,
    recordedAlerts_replicate] at length
  exact absurd length (by decide)

end MarketIngest.Binance
