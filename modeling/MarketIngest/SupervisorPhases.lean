import MarketIngest.RunHistory
import MarketIngest.SupervisorProcesses

namespace MarketIngest.Supervisor

open S3 ProcessTable Runs

/-!
# The two phases of the normalize worker

While the history is loaded, the supervisor runs a normalize worker that only
follows the live data, and afterwards one that normalizes everything.  The
change is made once, and only after every chunk of the history was seen complete
in one scan.
-/

/-- Every chunk of the history at some moment was later seen complete. -/
def HistoryComplete
    (args : ParsedArgs)
    (bucket : Bucket)
    (nowMs : Int)
    (events : List Event) : Prop :=
  ∃ start,
    start <+: events ∧
      ∀ chunk ∈ chunksAt args (stateAfter args bucket nowMs start).nowMs,
        Seen (perform args) (initial args bucket nowMs) start
          (fun state => hasComplete state.bucket chunk = true) events

/-- A scan has the rest before it, and has seen the other chunks complete. -/
def Scanned
    (args : ParsedArgs)
    (bucket : Bucket)
    (nowMs : Int)
    (events : List Event)
    (rest : List BootstrapChunk) : Prop :=
  ∃ start seen,
    start <+: events ∧
      chunksAt args (stateAfter args bucket nowMs start).nowMs =
        seen ++ rest ∧
      ∀ chunk ∈ seen,
        Seen (perform args) (initial args bucket nowMs) start
          (fun state => hasComplete state.bucket chunk = true) events

/-- What the place of the scheduler says about the events before. -/
structure ScanPhased
    (args : ParsedArgs)
    (bucket : Bucket)
    (nowMs : Int)
    (events : List Event)
    (state : State) : Prop where
  scanning :
    ∀ rest,
      state.scheduler = .scanning rest →
      Scanned args bucket nowMs events rest
  done :
    state.scheduler = .finished .done →
      state.shutdownRequested = true ∨
        HistoryComplete args bucket nowMs events

/-- What the phase of the supervisor says about the events before. -/
structure Phased
    (args : ParsedArgs)
    (bucket : Bucket)
    (nowMs : Int)
    (events : List Event)
    (state : State) : Prop where
  scan : ScanPhased args bucket nowMs events state
  active :
    state.bootstrapActive = false →
      args.bootstrapEnabled = false ∨
        HistoryComplete args bucket nowMs events
  full :
    ∀ id, state.table.HasRole id .normalize → state.bootstrapActive = false
  ordered :
    ∀ full live,
      state.table.HasRole full .normalize →
      state.table.HasRole live .livePriorityNormalize →
      live < full
  success :
    state.main = .returned true → state.shutdownRequested = true

section SchedulerSteps

variable
  {args : ParsedArgs}
  {state : State}
  {outcome : Outcome}

/-- The scheduler is not in a scan and has not ended well. -/
def Scheduler.isElsewhere : Scheduler → Bool
  | .scanning _ => false
  | .finished .done => false
  | _ => true

/-- What a step of the scheduler does to its scan. -/
inductive ScanMove (args : ParsedArgs) (before after : State) : Prop where
  | keeps (same : after.scheduler = before.scheduler)
  | elsewhere (isElsewhere : after.scheduler.isElsewhere = true)
  | opens
      (scanning : after.scheduler = .scanning (chunksAt args before.nowMs))
  | passes
      (chunk : BootstrapChunk)
      (rest : List BootstrapChunk)
      (scanning : before.scheduler = .scanning (chunk :: rest))
      (complete : hasComplete before.bucket chunk = true)
      (next : after.scheduler = .scanning rest)
  | ends
      (scanning : before.scheduler = .scanning [])
      (done : after.scheduler = .finished .done)
  | stops
      (shutdown : before.shutdownRequested = true)
      (done : after.scheduler = .finished .done)

private theorem elsewhere_spawnFor
    {role : Role}
    {next : Nat → Scheduler}
    (isElsewhere : ∀ id, (next id).isElsewhere = true) :
    ScanMove args state (state.spawnFor outcome role next) := by
  unfold State.spawnFor
  split
  · exact .elsewhere rfl
  · exact .elsewhere (isElsewhere _)

private theorem elsewhere_waitFor
    {child : Nat}
    {next : Scheduler}
    (isElsewhere : next.isElsewhere = true) :
    ScanMove args state (state.waitFor outcome child next) := by
  unfold State.waitFor
  split_ifs
  · exact .elsewhere rfl
  · exact .elsewhere rfl
  · exact .keeps rfl
  · exact .elsewhere isElsewhere
  · exact .elsewhere rfl

private theorem elsewhere_mark
    {key : String}
    {document : JsonDocument}
    {next : Scheduler}
    (isElsewhere : next.isElsewhere = true) :
    ScanMove args state (state.mark outcome key document next) := by
  refine .elsewhere ?_
  unfold State.mark
  dsimp only
  split
  · exact isElsewhere
  · rfl

/-- Every step of the scheduler is a move of its scan. -/
theorem scanMove_schedulerStep :
    ScanMove args state (schedulerStep args state outcome) := by
  cases scheduler : state.scheduler with
  | starting =>
      rw [schedulerStep, scheduler]
      dsimp only
      split_ifs <;> exact .elsewhere rfl
  | head =>
      rw [schedulerStep, scheduler]
      dsimp only
      split_ifs with shutdown
      · exact .stops shutdown rfl
      · exact .opens rfl
  | scanning rest =>
      cases rest with
      | nil =>
          rw [schedulerStep, scheduler]
          dsimp only
          split_ifs
          · exact .elsewhere rfl
          · exact .ends scheduler rfl
      | cons chunk rest =>
          rw [schedulerStep, scheduler]
          dsimp only
          split_ifs with fails complete
          · exact .elsewhere rfl
          · exact .passes chunk rest scheduler complete rfl
          · exact .elsewhere rfl
  | l0Lookup chunk =>
      rw [schedulerStep, scheduler]
      dsimp only
      split_ifs
      · exact .elsewhere rfl
      · exact .elsewhere rfl
      · exact elsewhere_spawnFor fun _ => rfl
  | backfilling chunk child =>
      rw [schedulerStep, scheduler]
      exact elsewhere_waitFor rfl
  | l0Marking chunk =>
      rw [schedulerStep, scheduler]
      exact elsewhere_mark rfl
  | subchunks chunk rest =>
      cases rest with
      | nil =>
          rw [schedulerStep, scheduler]
          exact .elsewhere rfl
      | cons subchunk rest =>
          rw [schedulerStep, scheduler]
          dsimp only
          split_ifs
          · exact .elsewhere rfl
          · exact .elsewhere rfl
          · exact elsewhere_spawnFor fun _ => rfl
  | normalizing chunk rest child =>
      rw [schedulerStep, scheduler]
      exact elsewhere_waitFor rfl
  | completing chunk =>
      rw [schedulerStep, scheduler]
      exact elsewhere_mark (by split_ifs <;> rfl)
  | sleeping =>
      rw [schedulerStep, scheduler]
      exact .elsewhere rfl
  | waiting =>
      rw [schedulerStep, scheduler]
      dsimp only
      split_ifs with shutdown
      · exact .stops shutdown rfl
      · exact .keeps rfl
  | finished result =>
      rw [schedulerStep, scheduler]
      exact .keeps rfl
  | aborted =>
      rw [schedulerStep, scheduler]
      exact .keeps rfl

/-- The scheduler starts no normalize worker of the supervisor itself. -/
theorem ChildMove.hasRole_of_isNormalize
    {before after : State}
    {id : Nat}
    {role : Role}
    (move : ChildMove before after)
    (isNormalize : role.isNormalize = true)
    (hasRole : after.table.HasRole id role) :
    before.table.HasRole id role := by
  cases move with
  | keeps table child =>
      rwa [table] at hasRole
  | leaves table child exited =>
      rwa [table] at hasRole
  | spawns newRole isSchedulers none table child =>
      rw [table, Table.hasRole_spawn] at hasRole
      rcases hasRole with ⟨-, rfl⟩ | old
      · cases newRole <;> cases isNormalize <;> cases isSchedulers
      · exact old
  | drops table child =>
      rwa [table, Table.hasRole_stopAll] at hasRole

end SchedulerSteps

section Phases

variable
  {args : ParsedArgs}
  {bucket : Bucket}
  {nowMs : Int}
  {events : List Event}
  {state after : State}

private theorem HistoryComplete.append
    (complete : HistoryComplete args bucket nowMs events)
    (later : List Event) :
    HistoryComplete args bucket nowMs (events ++ later) := by
  obtain ⟨start, before, seen⟩ := complete
  exact ⟨start, before.trans (List.prefix_append _ _),
    fun chunk member => (seen chunk member).append later⟩

private theorem Scanned.append
    {rest : List BootstrapChunk}
    (scanned : Scanned args bucket nowMs events rest)
    (later : List Event) :
    Scanned args bucket nowMs (events ++ later) rest := by
  obtain ⟨start, seen, before, parts, complete⟩ := scanned
  exact ⟨start, seen, before.trans (List.prefix_append _ _), parts,
    fun chunk member => (complete chunk member).append later⟩

/-- What the phase says stays true while time passes. -/
private theorem Phased.append
    (phased : Phased args bucket nowMs events state)
    (later : List Event) :
    Phased args bucket nowMs (events ++ later) state where
  scan :=
    { scanning := fun rest scanning =>
        (phased.scan.scanning rest scanning).append later
      done := fun done =>
        (phased.scan.done done).imp_right fun complete =>
          complete.append later }
  active inactive :=
    (phased.active inactive).imp_right fun complete => complete.append later
  full := phased.full
  ordered := phased.ordered
  success := phased.success

/-- A scan that has nothing before it has seen the whole history. -/
private theorem Scanned.complete
    (scanned : Scanned args bucket nowMs events []) :
    HistoryComplete args bucket nowMs events := by
  obtain ⟨start, seen, before, parts, complete⟩ := scanned
  rw [List.append_nil] at parts
  exact ⟨start, before, fun chunk member => complete chunk (parts ▸ member)⟩

/-- A scan starts with the whole history before it. -/
private theorem scanned_open :
    Scanned args bucket nowMs events
      (chunksAt args (stateAfter args bucket nowMs events).nowMs) :=
  ⟨events, [], List.prefix_rfl, rfl, fun _ member => nomatch member⟩

/-- A scan passes over a chunk that is complete. -/
private theorem Scanned.pass
    {chunk : BootstrapChunk}
    {rest : List BootstrapChunk}
    (scanned : Scanned args bucket nowMs events (chunk :: rest))
    (isComplete :
      hasComplete (stateAfter args bucket nowMs events).bucket chunk =
        true) :
    Scanned args bucket nowMs events rest := by
  obtain ⟨start, seen, before, parts, complete⟩ := scanned
  refine ⟨start, seen ++ [chunk], before, by simp [parts], ?_⟩
  intro other member
  rcases List.mem_append.mp member with old | new
  · exact complete other old
  · rw [List.mem_singleton.mp new]
    exact seen_now before isComplete

/-- The scheduler stays where it is, or it is neither scanning nor done. -/
private theorem ScanPhased.elsewhere
    (scan : ScanPhased args bucket nowMs events state)
    (scheduler :
      after.scheduler = state.scheduler ∨
        after.scheduler.isElsewhere = true)
    (shutdown :
      state.shutdownRequested = true → after.shutdownRequested = true) :
    ScanPhased args bucket nowMs events after where
  scanning rest scanning := by
    rcases scheduler with same | isElsewhere
    · exact scan.scanning rest (same ▸ scanning)
    · rw [scanning] at isElsewhere
      cases isElsewhere
  done done := by
    rcases scheduler with same | isElsewhere
    · exact (scan.done (same ▸ done)).imp_left shutdown
    · rw [done] at isElsewhere
      cases isElsewhere

/-- The scheduler moves its scan. -/
private theorem ScanPhased.move
    (isState : state = stateAfter args bucket nowMs events)
    (scan : ScanPhased args bucket nowMs events state)
    (move : ScanMove args state after)
    (shutdown : after.shutdownRequested = state.shutdownRequested) :
    ScanPhased args bucket nowMs events after := by
  cases move with
  | keeps same =>
      exact scan.elsewhere (.inl same) fun requested => shutdown ▸ requested
  | elsewhere isElsewhere =>
      exact scan.elsewhere (.inr isElsewhere)
        fun requested => shutdown ▸ requested
  | opens opened =>
      refine ⟨fun rest scanning => ?_, fun done => ?_⟩
      · rw [opened, isState] at scanning
        cases scanning
        exact scanned_open
      · rw [opened] at done
        cases done
  | passes chunk rest before complete next =>
      refine ⟨fun other scanning => ?_, fun done => ?_⟩
      · rw [next] at scanning
        cases scanning
        exact (scan.scanning _ before).pass (isState ▸ complete)
      · rw [next] at done
        cases done
  | ends before isDone =>
      refine ⟨fun rest scanning => ?_, fun _ => ?_⟩
      · rw [isDone] at scanning
        cases scanning
      · exact .inr (scan.scanning _ before).complete
  | stops requested isDone =>
      refine ⟨fun rest scanning => ?_, fun _ => ?_⟩
      · rw [isDone] at scanning
        cases scanning
      · exact .inl (shutdown ▸ requested)

/-- A change that starts no normalize worker and keeps the phase. -/
structure Quiet (before after : State) : Prop where
  bootstrapActive : after.bootstrapActive = before.bootstrapActive
  shutdownRequested :
    before.shutdownRequested = true → after.shutdownRequested = true
  roles :
    ∀ id role,
      role.isNormalize = true →
      after.table.HasRole id role →
      before.table.HasRole id role
  success :
    after.main = .returned true →
      before.main = .returned true ∨ after.shutdownRequested = true

/-- A quiet change keeps to the phase. -/
private theorem Phased.quiet
    (phased : Phased args bucket nowMs events state)
    (quiet : Quiet state after)
    (scan : ScanPhased args bucket nowMs events after) :
    Phased args bucket nowMs events after where
  scan := scan
  active inactive := phased.active (quiet.bootstrapActive ▸ inactive)
  full id hasRole := by
    rw [quiet.bootstrapActive]
    exact phased.full id (quiet.roles id _ rfl hasRole)
  ordered full live isFull isLive :=
    phased.ordered full live (quiet.roles full _ rfl isFull)
      (quiet.roles live _ rfl isLive)
  success returned := by
    rcases quiet.success returned with before | shutdown
    · exact quiet.shutdownRequested (phased.success before)
    · exact shutdown

/-- A move of the scheduler is quiet. -/
private theorem quiet_of_move
    (move : SchedulerMove state after) :
    Quiet state after where
  bootstrapActive := move.bootstrapActive
  shutdownRequested shutdown := move.shutdownRequested ▸ shutdown
  roles _ _ isNormalize hasRole :=
    move.child.hasRole_of_isNormalize isNormalize hasRole
  success returned := .inl (move.main ▸ returned)

/-- The supervisor returns, and it returns success only in a shutdown. -/
private theorem phased_returnWith
    (phased : Phased args bucket nowMs events state)
    (success : Bool)
    (shutdown : success = true → state.shutdownRequested = true) :
    Phased args bucket nowMs events (state.returnWith success) :=
  phased.quiet
    { bootstrapActive := rfl
      shutdownRequested := id
      roles := fun _ _ _ hasRole => Table.hasRole_stopAll.mp hasRole
      success := fun returned => by
        cases returned
        exact .inr (shutdown rfl) }
    (phased.scan.elsewhere (.inl rfl) id)

/-- A shutdown is requested. -/
private theorem phased_shutdown
    (phased : Phased args bucket nowMs events state)
    (abortRequested : Bool) :
    Phased args bucket nowMs events
      { state with
        shutdownRequested := true
        abortRequested := abortRequested } :=
  phased.quiet
    { bootstrapActive := rfl
      shutdownRequested := fun _ => rfl
      roles := fun _ _ _ hasRole => hasRole
      success := .inl }
    (phased.scan.elsewhere (.inl rfl) fun _ => rfl)

/-- A normalize worker of the phase is started. -/
private theorem phased_spawnNormalize
    (phased : Phased args bucket nowMs events state)
    (main : Main)
    (running : main ≠ .returned true) :
    Phased args bucket nowMs events
      { state.spawnNormalize (normalizeRole state.bootstrapActive) with
        main := main } where
  scan := phased.scan.elsewhere (.inl rfl) id
  active := phased.active
  full id hasRole := by
    rcases Table.hasRole_spawn.mp hasRole with ⟨-, isRole⟩ | old
    · cases active : state.bootstrapActive with
      | false => exact active
      | true =>
          rw [active] at isRole
          cases isRole
    · exact phased.full id old
  ordered full live isFull isLive := by
    rcases Table.hasRole_spawn.mp isLive with ⟨-, liveRole⟩ | liveOld
    · -- A worker for live data only is started only before all others.
      cases active : state.bootstrapActive with
      | false =>
          rw [active] at liveRole
          cases liveRole
      | true =>
          rcases Table.hasRole_spawn.mp isFull with ⟨-, fullRole⟩ | fullOld
          · rw [active] at fullRole
            cases fullRole
          · rw [phased.full full fullOld] at active
            cases active
    · rcases Table.hasRole_spawn.mp isFull with ⟨isLast, -⟩ | fullOld
      · exact isLast ▸ liveOld.lt_length
      · exact phased.ordered full live fullOld liveOld
  success returned := absurd returned running

/-- The supervisor leaves the phase of the history. -/
private theorem phased_leave
    (phased : Phased args bucket nowMs events state)
    (complete :
      args.bootstrapEnabled = false ∨
        HistoryComplete args bucket nowMs events) :
    Phased args bucket nowMs events
      { state with
        bootstrapActive := false
        table := state.table.stopAll state.normalize.toList } where
  scan := phased.scan.elsewhere (.inl rfl) id
  active _ := complete
  full _ _ := rfl
  ordered full live isFull isLive :=
    phased.ordered full live (Table.hasRole_stopAll.mp isFull)
      (Table.hasRole_stopAll.mp isLive)
  success := phased.success

private theorem phased_realtimeReady
    (phased : Phased args bucket nowMs events state)
    (fails : Bool) :
    Phased args bucket nowMs events (realtimeReady state fails) := by
  unfold realtimeReady
  split_ifs
  · exact phased_returnWith phased false nofun
  · exact phased
  · exact phased_returnWith (phased_shutdown phased true) false nofun

private theorem phased_normalizeReady
    (phased : Phased args bucket nowMs events state)
    (fails : Bool) :
    Phased args bucket nowMs events (normalizeReady state fails) := by
  unfold normalizeReady
  split
  · exact phased
  · split_ifs with failed runs shutdown
    · exact phased_returnWith phased false nofun
    · exact phased
    · refine phased_returnWith ?_ true fun _ => shutdown
      exact phased.quiet
        ⟨rfl, id, fun _ _ _ hasRole => hasRole, .inl⟩
        (phased.scan.elsewhere (.inl rfl) id)
    · exact phased.quiet
        ⟨rfl, id, fun _ _ _ hasRole => hasRole, nofun⟩
        (phased.scan.elsewhere (.inl rfl) id)

private theorem phased_schedulerReady
    (phased : Phased args bucket nowMs events state)
    (selecting : state.main = .selecting)
    (logFails spawnFails : Bool) :
    Phased args bucket nowMs events
      (schedulerReady state logFails spawnFails) := by
  unfold schedulerReady
  split
  · next result isFinished =>
      split
      · next shutdown =>
          exact phased_returnWith phased true fun _ => shutdown
      · next noShutdown =>
          split
          · -- Without a shutdown the scheduler ends well after a whole scan.
            have complete :=
              (phased.scan.done isFinished).resolve_left noShutdown
            have left := phased_leave phased (.inr complete)
            dsimp only
            split
            · exact phased_returnWith left false nofun
            · have started :=
                phased_spawnNormalize left .selecting nofun
              rw [← selecting] at started
              exact started.quiet
                ⟨rfl, id, fun _ _ _ hasRole => hasRole, .inl⟩
                (started.scan.elsewhere (.inr rfl) id)
          · split
            · exact phased_returnWith phased false nofun
            · exact phased.quiet
                ⟨rfl, id, fun _ _ _ hasRole => hasRole, nofun⟩
                (phased.scan.elsewhere (.inl rfl) id)
  · exact phased

private theorem phased_shutdownReady
    (phased : Phased args bucket nowMs events state)
    (logFails : Bool) :
    Phased args bucket nowMs events (shutdownReady state logFails) := by
  unfold shutdownReady
  split_ifs
  · exact phased_returnWith
      (phased_shutdown phased state.abortRequested) false nofun
  · exact phased_returnWith (phased_shutdown phased true) true fun _ => rfl

/-- Every event keeps to the phase. -/
private theorem phased_perform
    (isState : state = stateAfter args bucket nowMs events)
    (phased : Phased args bucket nowMs events state)
    (event : Event) :
    Phased args bucket nowMs events (perform args state event) := by
  unfold perform
  cases event with
  | signal =>
      exact phased_shutdown phased state.abortRequested
  | signalTaskFinishes =>
      exact phased.quiet
        ⟨rfl, id, fun _ _ _ hasRole => hasRole, .inl⟩
        (phased.scan.elsewhere (.inl rfl) id)
  | exits id =>
      exact phased.quiet
        ⟨rfl, fun shutdown => shutdown,
          fun _ _ _ hasRole => Table.hasRole_stop.mp hasRole, .inl⟩
        (phased.scan.elsewhere (.inl rfl) fun shutdown => shutdown)
  | bucketChanges bucket =>
      exact phased.quiet
        ⟨rfl, id, fun _ _ _ hasRole => hasRole, .inl⟩
        (phased.scan.elsewhere (.inl rfl) id)
  | clockShows nowMs =>
      exact phased.quiet
        ⟨rfl, id, fun _ _ _ hasRole => hasRole, .inl⟩
        (phased.scan.elsewhere (.inl rfl) id)
  | schedulerSteps outcome =>
      have move : SchedulerMove state (schedulerStep args state outcome) :=
        move_schedulerStep
      exact phased.quiet (quiet_of_move move)
        (phased.scan.move isState scanMove_schedulerStep
          move.shutdownRequested)
  | schedulerPanics =>
      dsimp only
      split_ifs
      · exact phased
      · exact phased.quiet (quiet_of_move (move_endScheduler rfl))
          (phased.scan.elsewhere (.inr rfl) id)
  | schedulerDropped =>
      dsimp only
      split_ifs
      · exact phased.quiet (quiet_of_move (move_endScheduler rfl))
          (phased.scan.elsewhere (.inr rfl) id)
      · exact phased
  | realtimeReady fails =>
      dsimp only
      split_ifs
      · exact phased_realtimeReady phased fails
      · exact phased
  | normalizeReady fails =>
      dsimp only
      split_ifs
      · exact phased_normalizeReady phased fails
      · exact phased
  | normalizeRestarts spawnFails =>
      dsimp only
      split_ifs
      · unfold normalizeRestarts
        split_ifs
        · exact phased_returnWith phased false nofun
        · exact phased_spawnNormalize phased .selecting nofun
      · exact phased
  | schedulerReady logFails spawnFails =>
      dsimp only
      split_ifs with selecting
      · exact phased_schedulerReady phased selecting logFails spawnFails
      · exact phased
  | schedulerRestarts =>
      dsimp only
      split_ifs
      · exact phased.quiet
          ⟨rfl, id, fun _ _ _ hasRole => hasRole, nofun⟩
          (phased.scan.elsewhere (.inr rfl) id)
      · exact phased
  | shutdownReady logFails =>
      dsimp only
      split_ifs
      · exact phased_shutdownReady phased logFails
      · exact phased

/-- Only realtime workers are started for the venues. -/
private theorem hasRole_spawnRealtimeChildren
    {table : Table Role}
    {venues : List String}
    {id : Nat}
    {role : Role}
    (hasRole : (spawnRealtimeChildren table venues).HasRole id role) :
    table.HasRole id role ∨ role.isNormalize = false := by
  induction venues generalizing table with
  | nil =>
      exact .inl hasRole
  | cons venue rest inductionHypothesis =>
      rcases inductionHypothesis hasRole with spawned | other
      · rcases Table.hasRole_spawn.mp spawned with ⟨-, rfl⟩ | old
        · exact .inr rfl
        · exact .inl old
      · exact .inr other

/-- The first normalize worker is the one of the phase. -/
private theorem hasRole_initial
    {id : Nat}
    {role : Role}
    (isNormalize : role.isNormalize = true)
    (hasRole : (initial args bucket nowMs).table.HasRole id role) :
    role = normalizeRole args.bootstrapEnabled := by
  rcases Table.hasRole_spawn.mp hasRole with ⟨-, same⟩ | realtime
  · exact same.symm
  · rcases hasRole_spawnRealtimeChildren realtime with none | other
    · cases none
    · rw [isNormalize] at other
      cases other

/-- At the start no chunk of the history was seen. -/
private theorem phased_initial :
    Phased args bucket nowMs [] (initial args bucket nowMs) where
  scan := ⟨nofun, nofun⟩
  active := .inl
  full id hasRole := by
    have isRole := hasRole_initial rfl hasRole
    change args.bootstrapEnabled = false
    cases enabled : args.bootstrapEnabled with
    | false => rfl
    | true =>
        rw [enabled] at isRole
        cases isRole
  ordered full live isFull isLive := by
    have fullRole := hasRole_initial rfl isFull
    have liveRole := hasRole_initial rfl isLive
    rw [← fullRole] at liveRole
    cases liveRole
  success := nofun

/-- In every state of every run the phase is kept to. -/
theorem phased_stateAfter
    (args : ParsedArgs)
    (bucket : Bucket)
    (nowMs : Int)
    (events : List Event) :
    Phased args bucket nowMs events (stateAfter args bucket nowMs events) :=
  history_induction events phased_initial fun phased =>
    (phased_perform rfl phased _).append _

end Phases

/--
In every state of every run, a normalize worker for everything was started only
if the bootstrap is disabled or the whole history was seen complete before,
every worker for live data only was started earlier, and the supervisor has
returned success only after a shutdown was requested.
-/
theorem full_normalize_after_history
    (args : ParsedArgs)
    (bucket : Bucket)
    (nowMs : Int)
    (events : List Event) :
    let state := stateAfter args bucket nowMs events
    (∀ full,
      state.table.HasRole full .normalize →
      args.bootstrapEnabled = false ∨
        HistoryComplete args bucket nowMs events) ∧
    (∀ full live,
      state.table.HasRole full .normalize →
      state.table.HasRole live .livePriorityNormalize →
      live < full) ∧
    (state.main = .returned true → state.shutdownRequested = true) := by
  intro state
  have phased : Phased args bucket nowMs events state :=
    phased_stateAfter args bucket nowMs events
  exact ⟨fun full hasRole => phased.active (phased.full full hasRole),
    phased.ordered, phased.success⟩

end MarketIngest.Supervisor
