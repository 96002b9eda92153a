import MarketIngest.SupervisorPhases

namespace MarketIngest.Supervisor

open S3 ProcessTable Runs

/-!
# The order in which the history is loaded

The scheduler looks for the oldest chunk that is not complete, each time in the
history as it is then.  While the clock does not go back and markers stay, it
goes forwards only: the chunks that it begins are never older than one before,
and nothing older than a chunk that was begun is left behind.
-/

/-- The history at a moment has representable bounds. -/
structure Representable (args : ParsedArgs) (momentMs : Int) : Prop where
  moment : momentMs ≤ i64Max
  start : i64Min ≤ args.bootstrapArgs.startBound momentMs

/-- No marker of a complete chunk is lost. -/
def Persists (before after : Bucket) : Prop :=
  ∀ chunk, hasComplete before chunk = true → hasComplete after chunk = true

/-- The clock does not go back, and others leave the markers. -/
def Orderly (state : State) : Event → Prop
  | .clockShows nowMs => state.nowMs ≤ nowMs ∧ nowMs ≤ i64Max
  | .bucketChanges bucket => Persists state.bucket bucket
  | _ => True

/-- At an earlier moment the chunk was the oldest that is not complete. -/
def Passed
    (args : ParsedArgs)
    (momentMs : Int)
    (bucket : Bucket)
    (chunk : BootstrapChunk) : Prop :=
  ∃ beforeMs,
    beforeMs ≤ momentMs ∧
      Representable args beforeMs ∧
      chunk ∈ chunksAt args beforeMs ∧
      ∀ older ∈ chunksAt args beforeMs,
        older.startMs < chunk.startMs → hasComplete bucket older = true

/-- A scan has the rest before it, and left complete chunks behind. -/
def ScansAhead
    (args : ParsedArgs)
    (state : State)
    (rest : List BootstrapChunk) : Prop :=
  ∃ momentMs seen,
    momentMs ≤ state.nowMs ∧
      Representable args momentMs ∧
      chunksAt args momentMs = seen ++ rest ∧
      (∀ chunk ∈ seen, hasComplete state.bucket chunk = true) ∧
      ∀ chunk ∈ state.begun, Passed args momentMs state.bucket chunk

/-- Where the scheduler is in the history. -/
structure Frontier (args : ParsedArgs) (state : State) : Prop where
  representable : Representable args state.nowMs
  scanning :
    ∀ rest, state.scheduler = .scanning rest → ScansAhead args state rest
  begun : ∀ chunk ∈ state.begun, Passed args state.nowMs state.bucket chunk
  ordered :
    state.begun.Pairwise fun first second => first.startMs ≤ second.startMs

section Chunks

variable
  {args : ParsedArgs}
  {beforeMs momentMs : Int}
  {bucket later : Bucket}
  {chunk older : BootstrapChunk}

/-- The history has the same chunks before one that it had already. -/
private theorem mem_chunksAt_of_older
    (accepted : validateCompletedArgs args.bootstrapArgs = .ok ())
    (before : Representable args beforeMs)
    (now : Representable args momentMs)
    (ordered : beforeMs ≤ momentMs)
    (member : chunk ∈ chunksAt args beforeMs)
    (olderMember : older ∈ chunksAt args momentMs)
    (isOlder : older.startMs < chunk.startMs) :
    older ∈ chunksAt args beforeMs := by
  have startsOrdered := (bounds_mono accepted ordered).2
  have bounded := bounded_of_accepted accepted before.moment before.start
  have boundedNow := bounded_of_accepted accepted now.moment now.start
  obtain ⟨-, ends, -, -⟩ :=
    (mem_chunks_iff bounded before.moment before.start).mp member
  obtain ⟨starts, -, aligned, length⟩ :=
    (mem_chunks_iff boundedNow now.moment now.start).mp olderMember
  exact (mem_chunks_iff bounded before.moment before.start).mpr
    ⟨startsOrdered.trans starts, isOlder.trans ends, aligned, length⟩

/-- The chunks that a scan has passed are all that are older than the next. -/
private theorem seen_of_older
    (accepted : validateCompletedArgs args.bootstrapArgs = .ok ())
    (now : Representable args momentMs)
    {seen rest : List BootstrapChunk}
    (parts : chunksAt args momentMs = seen ++ chunk :: rest)
    (member : older ∈ chunksAt args momentMs)
    (isOlder : older.startMs < chunk.startMs) :
    older ∈ seen := by
  have bounded := bounded_of_accepted accepted now.moment now.start
  have tiles := tiles_chunks bounded now.moment now.start
  change Tiling.Tiles _ _ ((chunksAt args momentMs).map _) at tiles
  have ordered := tiles.ordered
  rw [parts, List.map_append, List.pairwise_append, List.map_cons,
    List.pairwise_cons] at ordered
  have ahead (other : BootstrapChunk) (inRest : other ∈ rest) :
      chunk.endMs ≤ other.startMs :=
    ordered.2.1.1 other.cell (List.mem_map_of_mem inRest)
  have nonempty : chunk.startMs < chunk.endMs :=
    (tiles.bounds (List.mem_map_of_mem (by simp [parts]))).2.1
  rw [parts, List.mem_append, List.mem_cons] at member
  rcases member with inSeen | rfl | inRest
  · exact inSeen
  · exact absurd isOlder (lt_irrefl _)
  · have := ahead older inRest
    omega

/-- What was passed stays passed. -/
private theorem Passed.mono
    {laterMs : Int}
    (passed : Passed args momentMs bucket chunk)
    (ordered : momentMs ≤ laterMs)
    (persists : Persists bucket later) :
    Passed args laterMs later chunk := by
  obtain ⟨beforeMs, before, representable, member, complete⟩ := passed
  exact ⟨beforeMs, before.trans ordered, representable, member,
    fun older olderMember isOlder =>
      persists older (complete older olderMember isOlder)⟩

/-- Behind a chunk that was passed everything is complete. -/
private theorem Passed.complete
    (accepted : validateCompletedArgs args.bootstrapArgs = .ok ())
    (now : Representable args momentMs)
    (passed : Passed args momentMs bucket chunk)
    (olderMember : older ∈ chunksAt args momentMs)
    (isOlder : older.startMs < chunk.startMs) :
    hasComplete bucket older = true := by
  obtain ⟨beforeMs, ordered, before, member, complete⟩ := passed
  exact complete older
    (mem_chunksAt_of_older accepted before now ordered member olderMember
      isOlder)
    isOlder

/-- The history of a later moment is as representable. -/
private theorem Representable.mono
    (accepted : validateCompletedArgs args.bootstrapArgs = .ok ())
    (before : Representable args beforeMs)
    (ordered : beforeMs ≤ momentMs)
    (moment : momentMs ≤ i64Max) :
    Representable args momentMs :=
  ⟨moment, before.start.trans (bounds_mono accepted ordered).2⟩

/-- A PUT loses no marker. -/
private theorem persists_uploadJson
    (key : String)
    (document : JsonDocument)
    (outcome : PutOutcome) :
    Persists bucket (uploadJson bucket key document outcome).1 := by
  intro chunk complete
  unfold hasComplete at complete ⊢
  rw [uploadJson_get?]
  split_ifs
  · rfl
  · exact complete

end Chunks

section Steps

variable
  {args : ParsedArgs}
  {state after : State}
  {outcome : Outcome}

/-- What a step of the scheduler does to the chunks that were begun. -/
structure BeginMove (before after : State) : Prop where
  nowMs : after.nowMs = before.nowMs
  persists : Persists before.bucket after.bucket
  begun :
    after.begun = before.begun ∨
      ∃ chunk rest,
        before.scheduler = .scanning (chunk :: rest) ∧
          hasComplete before.bucket chunk = false ∧
          after.scheduler = .l0Lookup chunk ∧
          after.begun = before.begun ++ [chunk]

/-- A step that neither begins a chunk nor writes a marker. -/
private theorem begin_without_chunk
    (nowMs : after.nowMs = state.nowMs)
    (bucket : after.bucket = state.bucket)
    (begun : after.begun = state.begun) :
    BeginMove state after :=
  ⟨nowMs, fun _ complete => bucket ▸ complete, .inl begun⟩

private theorem begin_spawnFor
    {role : Role}
    {next : Nat → Scheduler} :
    BeginMove state (state.spawnFor outcome role next) := by
  unfold State.spawnFor
  split <;> exact begin_without_chunk rfl rfl rfl

private theorem begin_waitFor
    {child : Nat}
    {next : Scheduler} :
    BeginMove state (state.waitFor outcome child next) := by
  unfold State.waitFor
  split_ifs <;> exact begin_without_chunk rfl rfl rfl

private theorem begin_mark
    {key : String}
    {document : JsonDocument}
    {next : Scheduler} :
    BeginMove state (state.mark outcome key document next) :=
  ⟨rfl, persists_uploadJson key document outcome.put, .inl rfl⟩

/-- A step begins a chunk only where the scan finds it. -/
private theorem beginMove_schedulerStep :
    BeginMove state (schedulerStep args state outcome) := by
  cases scheduler : state.scheduler with
  | starting =>
      rw [schedulerStep, scheduler]
      dsimp only
      split_ifs <;> exact begin_without_chunk rfl rfl rfl
  | head =>
      rw [schedulerStep, scheduler]
      dsimp only
      split_ifs <;> exact begin_without_chunk rfl rfl rfl
  | scanning rest =>
      cases rest with
      | nil =>
          rw [schedulerStep, scheduler]
          dsimp only
          split_ifs <;> exact begin_without_chunk rfl rfl rfl
      | cons chunk rest =>
          rw [schedulerStep, scheduler]
          dsimp only
          split_ifs with fails complete
          · exact begin_without_chunk rfl rfl rfl
          · exact begin_without_chunk rfl rfl rfl
          · exact ⟨rfl, fun _ => id,
              .inr ⟨chunk, rest, scheduler, Bool.not_eq_true _ ▸ complete,
                rfl, rfl⟩⟩
  | l0Lookup chunk =>
      rw [schedulerStep, scheduler]
      dsimp only
      split_ifs
      · exact begin_without_chunk rfl rfl rfl
      · exact begin_without_chunk rfl rfl rfl
      · exact begin_spawnFor
  | backfilling chunk child =>
      rw [schedulerStep, scheduler]
      exact begin_waitFor
  | l0Marking chunk =>
      rw [schedulerStep, scheduler]
      exact begin_mark
  | subchunks chunk rest =>
      cases rest with
      | nil =>
          rw [schedulerStep, scheduler]
          exact begin_without_chunk rfl rfl rfl
      | cons subchunk rest =>
          rw [schedulerStep, scheduler]
          dsimp only
          split_ifs
          · exact begin_without_chunk rfl rfl rfl
          · exact begin_without_chunk rfl rfl rfl
          · exact begin_spawnFor
  | normalizing chunk rest child =>
      rw [schedulerStep, scheduler]
      exact begin_waitFor
  | completing chunk =>
      rw [schedulerStep, scheduler]
      exact begin_mark
  | sleeping =>
      rw [schedulerStep, scheduler]
      exact begin_without_chunk rfl rfl rfl
  | waiting =>
      rw [schedulerStep, scheduler]
      dsimp only
      split_ifs <;> exact begin_without_chunk rfl rfl rfl
  | finished result =>
      rw [schedulerStep, scheduler]
      exact begin_without_chunk rfl rfl rfl
  | aborted =>
      rw [schedulerStep, scheduler]
      exact begin_without_chunk rfl rfl rfl

/-- The event is a step of the supervisor or of its processes. -/
def Event.isAside : Event → Bool
  | .bucketChanges _ => false
  | .clockShows _ => false
  | .schedulerSteps _ => false
  | _ => true

/-- A change that begins no chunk and moves no scan. -/
structure Aside (before after : State) : Prop where
  nowMs : after.nowMs = before.nowMs
  bucket : after.bucket = before.bucket
  begun : after.begun = before.begun
  scheduler :
    after.scheduler = before.scheduler ∨ after.scheduler.isElsewhere = true

/-- The supervisor begins no chunk. -/
private theorem aside_perform
    {event : Event}
    (isAside : event.isAside = true) :
    Aside state (perform args state event) := by
  have same : Aside state state := ⟨rfl, rfl, rfl, .inl rfl⟩
  unfold perform
  cases event with
  | signal => exact ⟨rfl, rfl, rfl, .inl rfl⟩
  | signalTaskFinishes => exact ⟨rfl, rfl, rfl, .inl rfl⟩
  | exits id => exact ⟨rfl, rfl, rfl, .inl rfl⟩
  | bucketChanges bucket => cases isAside
  | clockShows nowMs => cases isAside
  | schedulerSteps outcome => cases isAside
  | schedulerPanics =>
      dsimp only
      split_ifs
      · exact same
      · exact ⟨rfl, rfl, rfl, .inr rfl⟩
  | schedulerDropped =>
      dsimp only
      split_ifs
      · exact ⟨rfl, rfl, rfl, .inr rfl⟩
      · exact same
  | realtimeReady fails =>
      unfold realtimeReady
      dsimp only
      split_ifs <;> exact ⟨rfl, rfl, rfl, .inl rfl⟩
  | normalizeReady fails =>
      unfold normalizeReady
      dsimp only
      split
      · split
        · exact same
        · split_ifs <;> exact ⟨rfl, rfl, rfl, .inl rfl⟩
      · exact same
  | normalizeRestarts spawnFails =>
      unfold normalizeRestarts
      dsimp only
      split_ifs <;> exact ⟨rfl, rfl, rfl, .inl rfl⟩
  | schedulerReady logFails spawnFails =>
      unfold schedulerReady
      dsimp only
      split
      · split
        · split
          · exact ⟨rfl, rfl, rfl, .inl rfl⟩
          · split
            · split
              · exact ⟨rfl, rfl, rfl, .inl rfl⟩
              · exact ⟨rfl, rfl, rfl, .inr rfl⟩
            · split <;> exact ⟨rfl, rfl, rfl, .inl rfl⟩
        · exact same
      · exact same
  | schedulerRestarts =>
      dsimp only
      split_ifs
      · exact ⟨rfl, rfl, rfl, .inr rfl⟩
      · exact same
  | shutdownReady logFails =>
      unfold shutdownReady
      dsimp only
      split_ifs <;> exact ⟨rfl, rfl, rfl, .inl rfl⟩

end Steps

section Frontiers

variable
  {args : ParsedArgs}
  {state after : State}

/-- A scan stays where it is. -/
private theorem ScansAhead.mono
    {rest : List BootstrapChunk}
    (ahead : ScansAhead args state rest)
    (ordered : state.nowMs ≤ after.nowMs)
    (persists : Persists state.bucket after.bucket)
    (begun : after.begun = state.begun) :
    ScansAhead args after rest := by
  obtain ⟨momentMs, seen, before, representable, parts, complete, passed⟩ :=
    ahead
  refine ⟨momentMs, seen, before.trans ordered, representable, parts,
    fun chunk member => persists chunk (complete chunk member), ?_⟩
  rw [begun]
  exact fun chunk member => (passed chunk member).mono le_rfl persists

/-- The clock and the bucket change, and no chunk is begun. -/
private theorem Frontier.change
    (accepted : validateCompletedArgs args.bootstrapArgs = .ok ())
    (frontier : Frontier args state)
    (ordered : state.nowMs ≤ after.nowMs)
    (moment : after.nowMs ≤ i64Max)
    (persists : Persists state.bucket after.bucket)
    (begun : after.begun = state.begun)
    (scanning :
      ∀ rest,
        after.scheduler = .scanning rest → ScansAhead args after rest) :
    Frontier args after where
  representable := frontier.representable.mono accepted ordered moment
  scanning := scanning
  begun := by
    rw [begun]
    exact fun chunk member =>
      (frontier.begun chunk member).mono ordered persists
  ordered := begun ▸ frontier.ordered

/-- The scan that was there stays, or there is none. -/
private theorem Frontier.keepsScan
    (frontier : Frontier args state)
    (ordered : state.nowMs ≤ after.nowMs)
    (persists : Persists state.bucket after.bucket)
    (begun : after.begun = state.begun)
    (scheduler :
      after.scheduler = state.scheduler ∨
        after.scheduler.isElsewhere = true)
    (rest : List BootstrapChunk)
    (scanning : after.scheduler = .scanning rest) :
    ScansAhead args after rest := by
  rcases scheduler with same | isElsewhere
  · exact (frontier.scanning rest (same ▸ scanning)).mono ordered persists
      begun
  · rw [scanning] at isElsewhere
    cases isElsewhere

/-- A step of the scheduler that begins no chunk moves its scan. -/
private theorem Frontier.movesScan
    (frontier : Frontier args state)
    (move : BeginMove state after)
    (begun : after.begun = state.begun)
    (scan : ScanMove args state after)
    (rest : List BootstrapChunk)
    (scanning : after.scheduler = .scanning rest) :
    ScansAhead args after rest := by
  have keeps :=
    frontier.keepsScan move.nowMs.ge move.persists begun
  cases scan with
  | keeps same =>
      exact keeps (.inl same) rest scanning
  | elsewhere isElsewhere =>
      exact keeps (.inr isElsewhere) rest scanning
  | opens opened =>
      rw [opened] at scanning
      cases scanning
      refine ⟨state.nowMs, [], move.nowMs.ge, frontier.representable, rfl,
        nofun, ?_⟩
      rw [begun]
      exact fun chunk member =>
        (frontier.begun chunk member).mono le_rfl move.persists
  | passes chunk rest before complete next =>
      rw [next] at scanning
      cases scanning
      obtain ⟨momentMs, seen, ordered, representable, parts, allComplete,
        passed⟩ :=
        (frontier.scanning _ before).mono move.nowMs.ge move.persists begun
      refine ⟨momentMs, seen ++ [chunk], ordered, representable,
        by simp [parts], ?_, passed⟩
      intro other member
      rcases List.mem_append.mp member with old | new
      · exact allComplete other old
      · rw [List.mem_singleton.mp new]
        exact move.persists chunk complete
  | ends before isDone =>
      rw [isDone] at scanning
      cases scanning
  | stops requested isDone =>
      rw [isDone] at scanning
      cases scanning

/-- The chunk that a scan finds is not older than one that was begun. -/
private theorem le_of_begun
    (accepted : validateCompletedArgs args.bootstrapArgs = .ok ())
    {momentMs : Int}
    {bucket : Bucket}
    {chunk other : BootstrapChunk}
    (representable : Representable args momentMs)
    (passed : Passed args momentMs bucket other)
    (member : chunk ∈ chunksAt args momentMs)
    (incomplete : hasComplete bucket chunk = false) :
    other.startMs ≤ chunk.startMs := by
  by_contra isOlder
  have complete :=
    passed.complete accepted representable member (lt_of_not_ge isOlder)
  rw [incomplete] at complete
  cases complete

/-- A step of the scheduler moves the frontier forwards only. -/
private theorem Frontier.schedulerStep
    (accepted : validateCompletedArgs args.bootstrapArgs = .ok ())
    (frontier : Frontier args state)
    (move : BeginMove state after)
    (scan : ScanMove args state after) :
    Frontier args after := by
  rcases move.begun with begun | ⟨chunk, rest, scanning, incomplete, next,
    begun⟩
  · exact frontier.change accepted move.nowMs.ge
      (move.nowMs ▸ frontier.representable.moment) move.persists begun
      (frontier.movesScan move begun scan)
  · obtain ⟨momentMs, seen, before, representable, parts, complete,
      passed⟩ := frontier.scanning _ scanning
    have member : chunk ∈ chunksAt args momentMs := by
      simp [parts]
    have isPassed : Passed args momentMs state.bucket chunk :=
      ⟨momentMs, le_rfl, representable, member,
        fun older olderMember isOlder =>
          complete older
            (seen_of_older accepted representable parts olderMember isOlder)⟩
    exact
      { representable := move.nowMs ▸ frontier.representable
        scanning := fun other isScanning => by
          rw [next] at isScanning
          cases isScanning
        begun := by
          rw [begun, move.nowMs]
          intro other inBegun
          rcases List.mem_append.mp inBegun with old | new
          · exact (frontier.begun other old).mono le_rfl move.persists
          · rw [List.mem_singleton.mp new]
            exact isPassed.mono before move.persists
        ordered := by
          rw [begun, List.pairwise_append]
          refine ⟨frontier.ordered, List.pairwise_singleton _ _, ?_⟩
          intro other old last isLast
          rw [List.mem_singleton.mp isLast]
          exact le_of_begun accepted representable (passed other old) member
            incomplete }

/-- An orderly event moves the frontier forwards only. -/
private theorem Frontier.perform
    (accepted : validateCompletedArgs args.bootstrapArgs = .ok ())
    {event : Event}
    (frontier : Frontier args state)
    (orderly : Orderly state event) :
    Frontier args (perform args state event) := by
  by_cases isAside : event.isAside = true
  · obtain ⟨nowMs, bucket, begun, scheduler⟩ :=
      @aside_perform args state event isAside
    have persists :
        Persists state.bucket (Supervisor.perform args state event).bucket :=
      fun _ complete => bucket ▸ complete
    exact frontier.change accepted nowMs.ge
      (nowMs ▸ frontier.representable.moment) persists begun
      (frontier.keepsScan nowMs.ge persists begun scheduler)
  · cases event with
    | bucketChanges bucket =>
        exact frontier.change accepted le_rfl frontier.representable.moment
          orderly rfl
          (frontier.keepsScan le_rfl orderly rfl (.inl rfl))
    | clockShows nowMs =>
        exact frontier.change accepted orderly.1 orderly.2 (fun _ => id) rfl
          (frontier.keepsScan orderly.1 (fun _ => id) rfl (.inl rfl))
    | schedulerSteps outcome =>
        exact frontier.schedulerStep accepted beginMove_schedulerStep
          scanMove_schedulerStep
    | _ => exact absurd rfl isAside

/-- At the start no chunk was begun. -/
private theorem frontier_initial
    {bucket : Bucket}
    {nowMs : Int}
    (representable : Representable args nowMs) :
    Frontier args (initial args bucket nowMs) :=
  ⟨representable, nofun, nofun, .nil⟩

/-- The chunk is complete and was not begun after the first ones. -/
structure Settled
    (chunk : BootstrapChunk)
    (count : Nat)
    (state : State) : Prop where
  complete : hasComplete state.bucket chunk = true
  within : count ≤ state.begun.length
  notBegun : chunk ∉ state.begun.drop count

/-- A complete chunk is not begun again. -/
private theorem Settled.perform
    {event : Event}
    {chunk : BootstrapChunk}
    {count : Nat}
    (settled : Settled chunk count state)
    (orderly : Orderly state event) :
    Settled chunk count (perform args state event) := by
  by_cases isAside : event.isAside = true
  · obtain ⟨-, bucket, begun, -⟩ :=
      @aside_perform args state event isAside
    exact ⟨bucket ▸ settled.complete, begun ▸ settled.within,
      begun ▸ settled.notBegun⟩
  · cases event with
    | bucketChanges bucket =>
        exact ⟨orderly chunk settled.complete, settled.within,
          settled.notBegun⟩
    | clockShows nowMs =>
        exact ⟨settled.complete, settled.within, settled.notBegun⟩
    | schedulerSteps outcome =>
        have move : BeginMove state (schedulerStep args state outcome) :=
          beginMove_schedulerStep
        refine ⟨move.persists chunk settled.complete, ?_, ?_⟩
        · rcases move.begun with begun | ⟨other, rest, -, -, -, begun⟩
          · exact begun ▸ settled.within
          · rw [Supervisor.perform, begun, List.length_append]
            exact settled.within.trans (Nat.le_add_right _ _)
        · rcases move.begun with begun | ⟨other, rest, -, incomplete, -,
            begun⟩
          · exact begun ▸ settled.notBegun
          · rw [Supervisor.perform, begun,
              List.drop_append_of_le_length settled.within, List.mem_append,
              List.mem_singleton]
            rintro (again | rfl)
            · exact settled.notBegun again
            · rw [settled.complete] at incomplete
              cases incomplete
    | _ => exact absurd rfl isAside

end Frontiers

/--
While the clock does not go back and markers stay, the chunks are begun from the
oldest to the newest, everything in the history that is older than a chunk that
was begun is complete, and a chunk that was complete once is not begun later.
-/
theorem history_loaded_forwards
    (environment : CommandLine.Environment)
    (words : List String)
    (args : ParsedArgs)
    (accepted : parseArgs environment words = .ok (some args))
    (bucket : Bucket)
    (nowMs : Int)
    (representable : Representable args nowMs)
    (events : List Event)
    (orderly :
      Along (perform args) Orderly (initial args bucket nowMs) events) :
    let state := stateAfter args bucket nowMs events
    state.begun.Pairwise
        (fun first second => first.startMs ≤ second.startMs) ∧
      (∀ chunk ∈ state.begun,
        ∀ older ∈ chunksAt args state.nowMs,
          older.startMs < chunk.startMs →
          hasComplete state.bucket older = true) ∧
      ∀ earlier later,
        events = earlier ++ later →
        ∀ chunk,
          hasComplete (stateAfter args bucket nowMs earlier).bucket chunk =
            true →
          chunk ∉
            state.begun.drop
              (stateAfter args bucket nowMs earlier).begun.length := by
  intro state
  have passed := (parseArgs_accepted accepted).1
  have frontier : Frontier args state :=
    (always_of_along (frontier_initial representable)
      (fun frontier orderly => frontier.perform passed orderly)
      orderly).final
  refine ⟨frontier.ordered, ?_, ?_⟩
  · intro chunk member older olderMember isOlder
    exact (frontier.begun chunk member).complete passed
      frontier.representable olderMember isOlder
  · intro earlier later parts chunk complete
    rw [parts, along_append] at orderly
    have settled :
        Settled chunk (stateAfter args bucket nowMs earlier).begun.length
          state := by
      unfold state stateAfter
      rw [parts, run_append]
      exact
        (always_of_along
          ⟨complete, le_rfl, by
            rw [List.drop_length]
            exact List.not_mem_nil⟩
          (fun settled orderly => settled.perform orderly)
          orderly.2).final
    exact settled.notBegun

/-- A step in which nothing fails. -/
def goesWell : Outcome where
  callFails := false
  spawnFails := false
  exitSuccess := true
  put := .stored

/-- The arguments of a command line that asks for one day, hour by hour. -/
def hourlyArgs : ParsedArgs :=
  { bucketArgs with
    bootstrapLookbackDays := ⟨1, CommandLine.oneUnit_fits⟩
    bootstrapChunkHours := ⟨1, CommandLine.oneUnit_fits⟩ }

/-- The command line that asks for one day, hour by hour. -/
def hourlyWords : List String :=
  ["--l0-s3-bucket", "market-l0", "--l1-s3-bucket", "market-l1",
    "--bootstrap-lookback-days", "1", "--bootstrap-chunk-hours", "1"]

/-- One day, hour by hour, is accepted. -/
theorem parseArgs_hourly :
    parseArgs (fun _ => none) hourlyWords = .ok (some hourlyArgs) :=
  parseArgs_of_reads rfl (by decide) rfl

/-- The scheduler starts a process and waits until it has exited. -/
def processRuns (id : Nat) : List Event :=
  [.schedulerSteps goesWell, .exits id, .schedulerSteps goesWell]

/-- The first hour is backfilled, normalized in quarters and marked. -/
def firstHourLoads : List Event :=
  List.replicate 3 (.schedulerSteps goesWell) ++
    (processRuns 2 ++ [.schedulerSteps goesWell]) ++
    (processRuns 3 ++ processRuns 4 ++ processRuns 5 ++ processRuns 6) ++
    List.replicate 2 (.schedulerSteps goesWell)

/-- A worker stores an object of the first hour. -/
def withWorkerObject (bucket : Bucket) : Bucket :=
  (uploadJson bucket "market-ingest-l1/features.json"
    [("status", .text "success")] .stored).1

/-- The bucket grows, the clock goes on, and the next hour is looked for. -/
def secondHourBegins : List Event :=
  [.bucketChanges
      (withWorkerObject
        (stateAfter hourlyArgs .empty 1779471443000 firstHourLoads).bucket),
    .clockShows 1779471743000] ++
    List.replicate 4 (.schedulerSteps goesWell)

/-- After the first hour was marked, the second one is begun. -/
theorem history_loaded_forwards_twoHours :
    let state :=
      stateAfter hourlyArgs .empty 1779471443000
        (firstHourLoads ++ secondHourBegins)
    let first : BootstrapChunk := ⟨1779379200000, 1779382800000⟩
    let second : BootstrapChunk := ⟨1779382800000, 1779386400000⟩
    (state.nowMs = 1779471743000 ∧ state.begun = [first, second]) ∧
      state.begun.Pairwise
        (fun one other => one.startMs ≤ other.startMs) ∧
      (∀ chunk ∈ state.begun,
        ∀ older ∈ chunksAt hourlyArgs state.nowMs,
          older.startMs < chunk.startMs →
          hasComplete state.bucket older = true) ∧
      first ∈ chunksAt hourlyArgs state.nowMs ∧
      first ∉ state.begun.drop 1 := by
  intro state first second
  have orderly :
      Along (perform hourlyArgs) Orderly
        (initial hourlyArgs .empty 1779471443000)
        (firstHourLoads ++ secondHourBegins) := by
    rw [along_append]
    refine ⟨?_, persists_uploadJson _ _ _, ⟨by decide, by decide⟩, ?_⟩
    · repeat' first
        | exact trivial
        | refine ⟨trivial, ?_⟩
    · exact ⟨trivial, trivial, trivial, trivial, trivial⟩
  have forwards :=
    history_loaded_forwards (fun _ => none) hourlyWords hourlyArgs
      parseArgs_hourly .empty 1779471443000 ⟨by decide, by decide⟩ _ orderly
  have complete :
      hasComplete
          (stateAfter hourlyArgs .empty 1779471443000 firstHourLoads).bucket
          first =
        true := by
    decide
  exact
    ⟨by decide, forwards.1, forwards.2.1, by decide,
      forwards.2.2 firstHourLoads secondHourBegins rfl first complete⟩

end MarketIngest.Supervisor
