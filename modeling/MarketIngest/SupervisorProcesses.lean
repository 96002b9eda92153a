import MarketIngest.SupervisorRun

namespace MarketIngest.Supervisor

open S3 ProcessTable

/-!
# Which processes run

Whatever the order of events, a process that runs is held by the supervisor or
awaited by its scheduler.  So at most one normalize worker and at most one
process of the scheduler run at a time, no realtime worker is started twice, and
when the supervisor returns only a process of the scheduler can still run.
-/

/-- A process of a normalize worker of the supervisor itself. -/
def Role.isNormalize : Role → Bool
  | .livePriorityNormalize => true
  | .normalize => true
  | _ => false

/-- A process that the scheduler starts. -/
def Role.isSchedulers : Role → Bool
  | .backfill _ => true
  | .normalizeBackfill _ => true
  | _ => false

/-- What a step of the scheduler does to its process. -/
inductive ChildMove (before after : State) : Prop where
  | keeps
      (table : after.table = before.table)
      (child : after.scheduler.child = before.scheduler.child)
  | leaves
      (table : after.table = before.table)
      (child : after.scheduler.child = none)
      (exited :
        ∀ id ∈ before.scheduler.child,
          before.table.isRunning id = false)
  | spawns
      (role : Role)
      (isSchedulers : role.isSchedulers = true)
      (none : before.scheduler.child = none)
      (table : after.table = before.table.spawn role)
      (child : after.scheduler.child = some before.table.length)
  | drops
      (table :
        after.table = before.table.stopAll before.scheduler.child.toList)
      (child : after.scheduler.child = none)

/-- A move of the scheduler: it leaves the rest to the supervisor. -/
structure SchedulerMove (before after : State) : Prop where
  realtime : after.realtime = before.realtime
  normalize : after.normalize = before.normalize
  bootstrapActive : after.bootstrapActive = before.bootstrapActive
  shutdownRequested : after.shutdownRequested = before.shutdownRequested
  main : after.main = before.main
  child : ChildMove before after

section SchedulerSteps

variable
  {args : ParsedArgs}
  {state : State}
  {outcome : Outcome}

/-- The scheduler goes on without a process. -/
private theorem move_without_child
    {after : State}
    (none : state.scheduler.child = .none)
    (same :
      after =
        { state with
          bucket := after.bucket
          begun := after.begun
          scheduler := after.scheduler })
    (noChild : after.scheduler.child = .none) :
    SchedulerMove state after := by
  rw [same]
  exact ⟨rfl, rfl, rfl, rfl, rfl, .keeps rfl (noChild.trans none.symm)⟩

/-- Leaving the scheduler drops its process. -/
theorem move_endScheduler
    {next : Scheduler}
    (noChild : next.child = none) :
    SchedulerMove state (state.endScheduler next) :=
  ⟨rfl, rfl, rfl, rfl, rfl, .drops rfl noChild⟩

private theorem move_spawnFor
    {role : Role}
    {next : Nat → Scheduler}
    (isSchedulers : role.isSchedulers = true)
    (none : state.scheduler.child = none)
    (child : ∀ id, (next id).child = some id) :
    SchedulerMove state (state.spawnFor outcome role next) := by
  unfold State.spawnFor
  split
  · exact move_endScheduler rfl
  · exact ⟨rfl, rfl, rfl, rfl, rfl,
      .spawns role isSchedulers none rfl (child _)⟩

private theorem move_waitFor
    {child : Nat}
    {next : Scheduler}
    (waits : state.scheduler.child = some child)
    (noChild : next.child = none) :
    SchedulerMove state (state.waitFor outcome child next) := by
  have exited
      (notRunning : ¬ state.table.isRunning child = true) :
      ∀ id ∈ state.scheduler.child, state.table.isRunning id = false := by
    intro id member
    rw [waits] at member
    cases member
    exact Bool.not_eq_true _ ▸ notRunning
  unfold State.waitFor
  split_ifs with shutdown fails runs success
  · exact move_endScheduler rfl
  · exact move_endScheduler rfl
  · exact ⟨rfl, rfl, rfl, rfl, rfl, .keeps rfl rfl⟩
  · exact ⟨rfl, rfl, rfl, rfl, rfl, .leaves rfl noChild (exited runs)⟩
  · exact ⟨rfl, rfl, rfl, rfl, rfl, .leaves rfl rfl (exited runs)⟩

private theorem move_mark
    {key : String}
    {document : JsonDocument}
    {next : Scheduler}
    (none : state.scheduler.child = .none)
    (noChild : next.child = .none) :
    SchedulerMove state (state.mark outcome key document next) := by
  refine move_without_child none rfl ?_
  unfold State.mark
  dsimp only
  split
  · exact noChild
  · rfl

/-- Every step of the scheduler is a move of it. -/
theorem move_schedulerStep :
    SchedulerMove state (schedulerStep args state outcome) := by
  cases scheduler : state.scheduler with
  | starting =>
      rw [schedulerStep, scheduler]
      dsimp only
      split_ifs <;> exact move_without_child (congrArg _ scheduler) rfl rfl
  | head =>
      rw [schedulerStep, scheduler]
      dsimp only
      split_ifs <;> exact move_without_child (congrArg _ scheduler) rfl rfl
  | scanning rest =>
      cases rest with
      | nil =>
          rw [schedulerStep, scheduler]
          dsimp only
          split_ifs <;> exact move_without_child (congrArg _ scheduler) rfl rfl
      | cons chunk rest =>
          rw [schedulerStep, scheduler]
          dsimp only
          split_ifs <;> exact move_without_child (congrArg _ scheduler) rfl rfl
  | l0Lookup chunk =>
      rw [schedulerStep, scheduler]
      dsimp only
      split_ifs
      · exact move_without_child (congrArg _ scheduler) rfl rfl
      · exact move_without_child (congrArg _ scheduler) rfl rfl
      · exact move_spawnFor rfl (congrArg _ scheduler) fun _ => rfl
  | backfilling chunk child =>
      rw [schedulerStep, scheduler]
      exact move_waitFor (congrArg _ scheduler) rfl
  | l0Marking chunk =>
      rw [schedulerStep, scheduler]
      exact move_mark (congrArg _ scheduler) rfl
  | subchunks chunk rest =>
      cases rest with
      | nil =>
          rw [schedulerStep, scheduler]
          exact move_without_child (congrArg _ scheduler) rfl rfl
      | cons subchunk rest =>
          rw [schedulerStep, scheduler]
          dsimp only
          split_ifs
          · exact move_without_child (congrArg _ scheduler) rfl rfl
          · exact move_without_child (congrArg _ scheduler) rfl rfl
          · exact move_spawnFor rfl (congrArg _ scheduler) fun _ => rfl
  | normalizing chunk rest child =>
      rw [schedulerStep, scheduler]
      exact move_waitFor (congrArg _ scheduler) rfl
  | completing chunk =>
      rw [schedulerStep, scheduler]
      exact move_mark (congrArg _ scheduler) (by split_ifs <;> rfl)
  | sleeping =>
      rw [schedulerStep, scheduler]
      exact move_without_child (congrArg _ scheduler) rfl rfl
  | waiting =>
      rw [schedulerStep, scheduler]
      dsimp only
      split_ifs
      · exact move_without_child (congrArg _ scheduler) rfl rfl
      · exact ⟨rfl, rfl, rfl, rfl, rfl, .keeps rfl rfl⟩
  | finished result =>
      rw [schedulerStep, scheduler]
      exact ⟨rfl, rfl, rfl, rfl, rfl, .keeps rfl rfl⟩
  | aborted =>
      rw [schedulerStep, scheduler]
      exact ⟨rfl, rfl, rfl, rfl, rfl, .keeps rfl rfl⟩

end SchedulerSteps

/-- Every process that runs is held or awaited, and has the role for it. -/
structure Owned (args : ParsedArgs) (state : State) : Prop where
  realtime :
    ∀ id ∈ state.realtime,
      ∃ venue,
        args.realtimeVenues[id]? = some venue ∧
          state.table.HasRole id (.realtime venue)
  normalize :
    ∀ id ∈ state.normalize,
      ∃ role, role.isNormalize = true ∧ state.table.HasRole id role
  scheduler :
    ∀ id ∈ state.scheduler.child,
      ∃ role, role.isSchedulers = true ∧ state.table.HasRole id role
  running :
    ∀ id role,
      state.table.Runs id role →
      id ∈ state.held ∨ id ∈ state.scheduler.child
  restartingNormalize :
    state.main = .restartingNormalize →
      ∀ id ∈ state.normalize, ∀ role, ¬ state.table.Runs id role
  restartingScheduler :
    state.main = .restartingScheduler → state.scheduler.isOver = true
  returned :
    ∀ success,
      state.main = .returned success →
      ∀ id ∈ state.held, ∀ role, ¬ state.table.Runs id role

section ChildMoves

variable
  {before after : State}
  {id : Nat}
  {role : Role}

/-- No process changes its role. -/
theorem ChildMove.hasRole
    (move : ChildMove before after)
    (hasRole : before.table.HasRole id role) :
    after.table.HasRole id role := by
  cases move with
  | keeps table child =>
      rwa [table]
  | leaves table child exited =>
      rwa [table]
  | spawns role isSchedulers none table child =>
      rw [table]
      exact Table.hasRole_spawn.mpr (.inr hasRole)
  | drops table child =>
      rw [table]
      exact Table.hasRole_stopAll.mpr hasRole

/-- What runs afterwards ran before, or the scheduler waits for it. -/
theorem ChildMove.runs
    (move : ChildMove before after)
    (runs : after.table.Runs id role) :
    (before.table.Runs id role ∧
        (id ∈ before.scheduler.child → id ∈ after.scheduler.child)) ∨
      id ∈ after.scheduler.child := by
  cases move with
  | keeps table child =>
      rw [table] at runs
      exact .inl ⟨runs, fun member => child ▸ member⟩
  | leaves table child exited =>
      rw [table] at runs
      refine .inl ⟨runs, fun member => ?_⟩
      have notRunning := exited id member
      rw [runs.isRunning] at notRunning
      cases notRunning
  | spawns newRole isSchedulers none table child =>
      rw [table, Table.runs_spawn] at runs
      rcases runs with ⟨isLast, -⟩ | runs
      · exact .inr (isLast ▸ child)
      · exact .inl ⟨runs, fun member => by rw [none] at member; cases member⟩
  | drops table child =>
      rw [table, Table.runs_stopAll, Option.mem_toList] at runs
      exact .inl ⟨runs.2, fun member => absurd member runs.1⟩

/-- The scheduler waits for a process of its own. -/
theorem ChildMove.scheduler
    (move : ChildMove before after)
    (own :
      ∀ id ∈ before.scheduler.child,
        ∃ role, role.isSchedulers = true ∧ before.table.HasRole id role)
    (member : id ∈ after.scheduler.child) :
    ∃ role, role.isSchedulers = true ∧ after.table.HasRole id role := by
  cases move with
  | keeps table child =>
      rw [table]
      exact own id (child ▸ member)
  | leaves table child exited =>
      rw [child] at member
      cases member
  | spawns newRole isSchedulers none table child =>
      rw [child] at member
      cases member
      refine ⟨newRole, isSchedulers, ?_⟩
      rw [table]
      exact Table.hasRole_spawn.mpr (.inl ⟨rfl, rfl⟩)
  | drops table child =>
      rw [child] at member
      cases member

end ChildMoves

section Ownership

variable
  {args : ParsedArgs}
  {state after : State}

/-- A process that the supervisor holds is not one of its scheduler. -/
private theorem not_schedulers_of_held
    (owned : Owned args state)
    {id : Nat}
    (held : id ∈ state.held) :
    id ∉ state.scheduler.child := by
  intro awaited
  obtain ⟨role, isSchedulers, hasRole⟩ := owned.scheduler id awaited
  rcases List.mem_append.mp held with inRealtime | isNormalize
  · obtain ⟨venue, -, other⟩ := owned.realtime id inRealtime
    rw [hasRole.unique other] at isSchedulers
    cases isSchedulers
  · obtain ⟨otherRole, isNormalizeRole, other⟩ :=
      owned.normalize id (Option.mem_toList.mp isNormalize)
    rw [hasRole.unique other] at isSchedulers
    cases otherRole <;> cases isSchedulers <;> cases isNormalizeRole

/-- A process that the supervisor holds is in the table. -/
private theorem lt_length_of_held
    (owned : Owned args state)
    {id : Nat}
    (held : id ∈ state.held) :
    id < state.table.length := by
  rcases List.mem_append.mp held with inRealtime | isNormalize
  · obtain ⟨venue, -, hasRole⟩ := owned.realtime id inRealtime
    exact hasRole.lt_length
  · obtain ⟨role, -, hasRole⟩ :=
      owned.normalize id (Option.mem_toList.mp isNormalize)
    exact hasRole.lt_length

/-- The scheduler does not wait for a process that the supervisor holds. -/
private theorem not_held_of_awaited
    (owned : Owned args state)
    (move : ChildMove state after)
    {id : Nat}
    (awaited : id ∈ after.scheduler.child) :
    id ∉ state.held := by
  intro held
  cases move with
  | keeps table child =>
      exact not_schedulers_of_held owned held (child ▸ awaited)
  | leaves table child exited =>
      rw [child] at awaited
      cases awaited
  | spawns role isSchedulers none table child =>
      rw [child] at awaited
      cases awaited
      exact lt_irrefl _ (lt_length_of_held owned held)
  | drops table child =>
      rw [child] at awaited
      cases awaited

/-- A move of the scheduler keeps all processes owned. -/
private theorem owned_of_move
    (owned : Owned args state)
    (move : SchedulerMove state after)
    (ended :
      state.main = .restartingScheduler → after.scheduler.isOver = true) :
    Owned args after := by
  obtain ⟨realtime, normalize, -, -, main, child⟩ := move
  have held : after.held = state.held := by
    unfold State.held
    rw [realtime, normalize]
  refine ⟨?_, ?_, ?_, ?_, ?_, ?_, ?_⟩
  · intro id member
    rw [realtime] at member
    obtain ⟨venue, isVenue, hasRole⟩ := owned.realtime id member
    exact ⟨venue, isVenue, child.hasRole hasRole⟩
  · intro id member
    rw [normalize] at member
    obtain ⟨role, isNormalize, hasRole⟩ := owned.normalize id member
    exact ⟨role, isNormalize, child.hasRole hasRole⟩
  · intro id member
    exact child.scheduler owned.scheduler member
  · intro id role runs
    rw [held]
    rcases child.runs runs with ⟨ran, stays⟩ | awaited
    · exact (owned.running id role ran).imp_right stays
    · exact .inr awaited
  · intro restarting id member role runs
    rw [main] at restarting
    rw [normalize] at member
    rcases child.runs runs with ⟨ran, -⟩ | awaited
    · exact owned.restartingNormalize restarting id member role ran
    · exact not_held_of_awaited owned child awaited
        (List.mem_append_right _ (Option.mem_toList.mpr member))
  · intro restarting
    rw [main] at restarting
    exact ended restarting
  · intro success returned id member role runs
    rw [main] at returned
    rw [held] at member
    rcases child.runs runs with ⟨ran, -⟩ | awaited
    · exact owned.returned success returned id member role ran
    · exact not_held_of_awaited owned child awaited member

/-- A process that exits leaves the others owned. -/
private theorem owned_exits
    (owned : Owned args state)
    (id : Nat) :
    Owned args { state with table := state.table.stop id } where
  realtime other member := by
    simpa using owned.realtime other member
  normalize other member := by
    simpa using owned.normalize other member
  scheduler other member := by
    simpa using owned.scheduler other member
  running other role runs :=
    owned.running other role (Table.runs_stop.mp runs).2
  restartingNormalize restarting other member role runs :=
    owned.restartingNormalize restarting other member role
      (Table.runs_stop.mp runs).2
  restartingScheduler := owned.restartingScheduler
  returned success returned other member role runs :=
    owned.returned success returned other member role
      (Table.runs_stop.mp runs).2

/-- A return kills what is held. -/
private theorem owned_returnWith
    (owned : Owned args state)
    (success : Bool) :
    Owned args (state.returnWith success) where
  realtime id member := by
    simpa [State.returnWith] using owned.realtime id member
  normalize id member := by
    simpa [State.returnWith] using owned.normalize id member
  scheduler id member := by
    simpa [State.returnWith] using owned.scheduler id member
  running id role runs :=
    owned.running id role (Table.runs_stopAll.mp runs).2
  restartingNormalize := by rintro ⟨⟩
  restartingScheduler := by rintro ⟨⟩
  returned _ _ id member role runs :=
    (Table.runs_stopAll.mp runs).1 member

/-- The flags that are set with a return do not own processes. -/
private theorem owned_flags
    (owned : Owned args state)
    (shutdownRequested abortRequested : Bool) :
    Owned args
      { state with
        shutdownRequested := shutdownRequested
        abortRequested := abortRequested } :=
  ⟨owned.realtime, owned.normalize, owned.scheduler, owned.running,
    owned.restartingNormalize, owned.restartingScheduler, owned.returned⟩

/-- A normalize worker is started when the one before does not run. -/
private theorem owned_spawnNormalize
    (owned : Owned args state)
    (stopped :
      ∀ id ∈ state.normalize, ∀ role, ¬ state.table.Runs id role)
    (role : Role)
    (isNormalize : role.isNormalize = true)
    (scheduler : Scheduler)
    (child : scheduler.child = state.scheduler.child) :
    Owned args
      { state.spawnNormalize role with
        main := .selecting
        scheduler := scheduler } where
  realtime id member := by
    obtain ⟨venue, isVenue, hasRole⟩ := owned.realtime id member
    exact ⟨venue, isVenue, Table.hasRole_spawn.mpr (.inr hasRole)⟩
  normalize id member := by
    cases member
    exact ⟨role, isNormalize, Table.hasRole_spawn.mpr (.inl ⟨rfl, rfl⟩)⟩
  scheduler id member := by
    obtain ⟨other, isSchedulers, hasRole⟩ :=
      owned.scheduler id (child ▸ member)
    exact ⟨other, isSchedulers, Table.hasRole_spawn.mpr (.inr hasRole)⟩
  running id other runs := by
    rcases Table.runs_spawn.mp runs with ⟨isLast, -⟩ | ran
    · refine .inl (List.mem_append_right _ (Option.mem_toList.mpr ?_))
      rw [isLast]
      rfl
    · rcases owned.running id other ran with held | awaited
      · rcases List.mem_append.mp held with inRealtime | isOld
        · exact .inl (List.mem_append_left _ inRealtime)
        · exact absurd ran (stopped id (Option.mem_toList.mp isOld) other)
      · exact .inr (child ▸ awaited)
  restartingNormalize := by rintro ⟨⟩
  restartingScheduler := by rintro ⟨⟩
  returned := by rintro _ ⟨⟩

/-- Killing the normalize worker leaves the others owned. -/
private theorem owned_killNormalize
    (owned : Owned args state)
    (bootstrapActive : Bool) :
    Owned args
      { state with
        bootstrapActive := bootstrapActive
        table := state.table.stopAll state.normalize.toList } where
  realtime id member := by
    simpa using owned.realtime id member
  normalize id member := by
    simpa using owned.normalize id member
  scheduler id member := by
    simpa using owned.scheduler id member
  running id role runs :=
    owned.running id role (Table.runs_stopAll.mp runs).2
  restartingNormalize restarting id member role runs :=
    owned.restartingNormalize restarting id member role
      (Table.runs_stopAll.mp runs).2
  restartingScheduler := owned.restartingScheduler
  returned success returned id member role runs :=
    owned.returned success returned id member role
      (Table.runs_stopAll.mp runs).2

/-- The role of a normalize worker in a phase is that of a normalize worker. -/
private theorem isNormalize_normalizeRole
    (bootstrapActive : Bool) :
    (normalizeRole bootstrapActive).isNormalize = true := by
  cases bootstrapActive <;> rfl

/-- A scheduler that is over makes no step. -/
theorem schedulerStep_of_isOver
    {outcome : Outcome}
    (ended : state.scheduler.isOver = true) :
    schedulerStep args state outcome = state := by
  cases scheduler : state.scheduler with
  | finished result =>
      rw [schedulerStep, scheduler]
  | aborted =>
      rw [schedulerStep, scheduler]
  | _ =>
      rw [scheduler] at ended
      cases ended

private theorem child_of_isOver
    {scheduler : Scheduler}
    (ended : scheduler.isOver = true) :
    scheduler.child = none := by
  cases scheduler with
  | finished result => rfl
  | aborted => rfl
  | _ => cases ended

private theorem owned_normalizeReady
    (owned : Owned args state)
    (fails : Bool) :
    Owned args (normalizeReady state fails) := by
  unfold normalizeReady
  split
  · exact owned
  · next child isChild =>
      split_ifs with failed runs shutdown
      · exact owned_returnWith owned false
      · exact owned
      · exact owned_returnWith
          (owned_flags owned state.shutdownRequested true) true
      · exact
          { realtime := owned.realtime
            normalize := owned.normalize
            scheduler := owned.scheduler
            running := owned.running
            restartingNormalize := fun _ id member role isRunning => by
              rw [Option.mem_def, isChild, Option.some.injEq] at member
              rw [member] at runs
              exact runs isRunning.isRunning
            restartingScheduler := by rintro ⟨⟩
            returned := by rintro _ ⟨⟩ }

private theorem owned_schedulerReady
    (owned : Owned args state)
    (selecting : state.main = .selecting)
    (logFails spawnFails : Bool) :
    Owned args (schedulerReady state logFails spawnFails) := by
  unfold schedulerReady
  split
  · next result isFinished =>
      split
      · exact owned_returnWith owned true
      · split
        · have killed := owned_killNormalize owned false
          dsimp only
          split
          · exact owned_returnWith killed false
          · have started :=
              owned_spawnNormalize killed
                (fun id member role runs =>
                  (Table.runs_stopAll.mp runs).1
                    (Option.mem_toList.mpr member))
                .normalize rfl .waiting (by rw [isFinished]; rfl)
            rw [← selecting] at started
            exact started
        · split
          · exact owned_returnWith owned false
          · exact
              { realtime := owned.realtime
                normalize := owned.normalize
                scheduler := owned.scheduler
                running := owned.running
                restartingNormalize := by rintro ⟨⟩
                restartingScheduler := fun _ => by rw [isFinished]; rfl
                returned := by rintro _ ⟨⟩ }
  · exact owned

/-- Every event leaves the processes that run owned. -/
theorem owned_perform
    (owned : Owned args state)
    (event : Event) :
    Owned args (perform args state event) := by
  unfold perform
  cases event with
  | signal =>
      exact owned_flags owned true state.abortRequested
  | signalTaskFinishes =>
      exact ⟨owned.realtime, owned.normalize, owned.scheduler,
        owned.running, owned.restartingNormalize,
        owned.restartingScheduler, owned.returned⟩
  | exits id =>
      exact owned_exits owned id
  | bucketChanges bucket =>
      exact ⟨owned.realtime, owned.normalize, owned.scheduler,
        owned.running, owned.restartingNormalize,
        owned.restartingScheduler, owned.returned⟩
  | clockShows nowMs =>
      exact ⟨owned.realtime, owned.normalize, owned.scheduler,
        owned.running, owned.restartingNormalize,
        owned.restartingScheduler, owned.returned⟩
  | schedulerSteps outcome =>
      refine owned_of_move owned move_schedulerStep fun restarting => ?_
      dsimp only
      have ended := owned.restartingScheduler restarting
      rwa [schedulerStep_of_isOver ended]
  | schedulerPanics =>
      dsimp only
      split_ifs
      · exact owned
      · exact owned_of_move owned (move_endScheduler rfl) fun _ => rfl
  | schedulerDropped =>
      dsimp only
      split_ifs
      · exact owned_of_move owned (move_endScheduler rfl) fun _ => rfl
      · exact owned
  | realtimeReady fails =>
      dsimp only
      split_ifs
      · unfold realtimeReady
        split_ifs
        · exact owned_returnWith owned false
        · exact owned
        · exact owned_returnWith (owned_flags owned true true) false
      · exact owned
  | normalizeReady fails =>
      dsimp only
      split_ifs
      · exact owned_normalizeReady owned fails
      · exact owned
  | normalizeRestarts spawnFails =>
      dsimp only
      split_ifs with restarting
      · unfold normalizeRestarts
        split_ifs
        · exact owned_returnWith owned false
        · exact owned_spawnNormalize owned
            (owned.restartingNormalize restarting) _
            (isNormalize_normalizeRole _) _ rfl
      · exact owned
  | schedulerReady logFails spawnFails =>
      dsimp only
      split_ifs with selecting
      · exact owned_schedulerReady owned selecting logFails spawnFails
      · exact owned
  | schedulerRestarts =>
      dsimp only
      split_ifs with restarting
      · have noChild :=
          child_of_isOver (owned.restartingScheduler restarting)
        exact
          { realtime := owned.realtime
            normalize := owned.normalize
            scheduler := by rintro _ ⟨⟩
            running := fun id role runs =>
              (owned.running id role runs).imp_right fun member => by
                rw [noChild] at member
                cases member
            restartingNormalize := by rintro ⟨⟩
            restartingScheduler := by rintro ⟨⟩
            returned := by rintro _ ⟨⟩ }
      · exact owned
  | shutdownReady logFails =>
      dsimp only
      split_ifs
      · unfold shutdownReady
        split_ifs
        · exact owned_returnWith
            (owned_flags owned true state.abortRequested) false
        · exact owned_returnWith (owned_flags owned true true) true
      · exact owned

/-- A realtime worker is started for each venue, in order. -/
private theorem spawnRealtimeChildren_eq
    (venues : List String)
    (table : Table Role) :
    spawnRealtimeChildren table venues =
      table ++ venues.map (fun venue => (.realtime venue, true)) := by
  induction venues generalizing table with
  | nil =>
      simp [spawnRealtimeChildren]
  | cons venue rest inductionHypothesis =>
      rw [spawnRealtimeChildren, inductionHypothesis, Table.spawn]
      simp

/-- At the start all processes are owned. -/
theorem owned_initial
    (bucket : Bucket)
    (nowMs : Int) :
    Owned args (initial args bucket nowMs) := by
  have table :
      (initial args bucket nowMs).table =
        args.realtimeVenues.map (fun venue => (Role.realtime venue, true)) ++
          [(normalizeRole args.bootstrapEnabled, true)] := by
    rw [initial, spawnRealtimeChildren_eq]
    rfl
  refine ⟨?_, ?_, ?_, ?_, ?_, ?_, ?_⟩
  · intro id member
    have inside : id < args.realtimeVenues.length := List.mem_range.mp member
    refine ⟨args.realtimeVenues[id], List.getElem?_eq_getElem inside, ?_⟩
    rw [Table.HasRole, table, List.getElem?_append_left (by simpa)]
    simp [inside]
  · intro id member
    cases member
    refine ⟨_, isNormalize_normalizeRole args.bootstrapEnabled, ?_⟩
    rw [Table.HasRole, table]
    simp
  · rintro _ ⟨⟩
  · intro id role runs
    refine .inl ?_
    have inside := runs.hasRole.lt_length
    rw [table, List.length_append, List.length_map,
      List.length_singleton] at inside
    rcases Nat.lt_succ_iff_lt_or_eq.mp inside with before | isLast
    · exact List.mem_append_left _ (List.mem_range.mpr before)
    · exact List.mem_append_right _ (by simp [initial, isLast])
  · rintro ⟨⟩
  · rintro ⟨⟩
  · rintro _ ⟨⟩

/-- In every state of every run all processes are owned. -/
theorem owned_stateAfter
    (bucket : Bucket)
    (nowMs : Int)
    (events : List Event) :
    Owned args (stateAfter args bucket nowMs events) :=
  Runs.run_induction events (owned_initial bucket nowMs)
    fun owned => owned_perform owned _

variable
  {id : Nat}
  {role : Role}

/-- A running process is in the place that its role has. -/
private theorem place_of_runs
    (owned : Owned args state)
    (runs : state.table.Runs id role) :
    (∃ venue,
      role = .realtime venue ∧ args.realtimeVenues[id]? = some venue) ∨
    (role.isNormalize = true ∧ state.normalize = some id) ∨
      (role.isSchedulers = true ∧ state.scheduler.child = some id) := by
  rcases owned.running id role runs with held | awaited
  · rcases List.mem_append.mp held with inRealtime | isNormalize
    · obtain ⟨venue, isVenue, hasRole⟩ := owned.realtime id inRealtime
      exact .inl ⟨venue, runs.hasRole.unique hasRole, isVenue⟩
    · have member := Option.mem_toList.mp isNormalize
      obtain ⟨other, isNormalizeRole, hasRole⟩ := owned.normalize id member
      rw [← runs.hasRole.unique hasRole] at isNormalizeRole
      exact .inr (.inl ⟨isNormalizeRole, member⟩)
  · obtain ⟨other, isSchedulers, hasRole⟩ := owned.scheduler id awaited
    rw [← runs.hasRole.unique hasRole] at isSchedulers
    exact .inr (.inr ⟨isSchedulers, awaited⟩)

private theorem isNormalize_place
    (owned : Owned args state)
    (runs : state.table.Runs id role)
    (isNormalize : role.isNormalize = true) :
    state.normalize = some id := by
  rcases place_of_runs owned runs with ⟨venue, rfl, -⟩ | ⟨-, place⟩ | other
  · cases isNormalize
  · exact place
  · cases role <;> cases isNormalize <;> cases other.1

private theorem isSchedulers_place
    (owned : Owned args state)
    (runs : state.table.Runs id role)
    (isSchedulers : role.isSchedulers = true) :
    state.scheduler.child = some id := by
  rcases place_of_runs owned runs with ⟨venue, rfl, -⟩ | other | ⟨-, place⟩
  · cases isSchedulers
  · cases role <;> cases isSchedulers <;> cases other.1
  · exact place

end Ownership

/--
In every state of every run, no realtime worker runs that was not started first,
at most one normalize worker and at most one process of the scheduler run, and
after the supervisor has returned at most a process of the scheduler runs.
-/
theorem workers_exclusive
    (args : ParsedArgs)
    (bucket : Bucket)
    (nowMs : Int)
    (events : List Event) :
    let state := stateAfter args bucket nowMs events
    (∀ id venue,
      state.table.Runs id (.realtime venue) →
      args.realtimeVenues[id]? = some venue) ∧
    (∀ first second firstRole secondRole,
      state.table.Runs first firstRole →
      state.table.Runs second secondRole →
      firstRole.isNormalize = true →
      secondRole.isNormalize = true →
      first = second) ∧
    (∀ first second firstRole secondRole,
      state.table.Runs first firstRole →
      state.table.Runs second secondRole →
      firstRole.isSchedulers = true →
      secondRole.isSchedulers = true →
      first = second) ∧
    ∀ success id role,
      state.main = .returned success →
      state.table.Runs id role →
      role.isSchedulers = true := by
  intro state
  have owned : Owned args state := owned_stateAfter bucket nowMs events
  refine ⟨?_, ?_, ?_, ?_⟩
  · intro id venue runs
    rcases place_of_runs owned runs with ⟨other, same, place⟩ | other | other
    · cases same
      exact place
    · cases other.1
    · cases other.1
  · intro first second firstRole secondRole firstRuns secondRuns
      isNormalize isNormalizeToo
    have place := isNormalize_place owned firstRuns isNormalize
    rw [isNormalize_place owned secondRuns isNormalizeToo] at place
    exact (Option.some.inj place).symm
  · intro first second firstRole secondRole firstRuns secondRuns
      isSchedulers isSchedulersToo
    have place := isSchedulers_place owned firstRuns isSchedulers
    rw [isSchedulers_place owned secondRuns isSchedulersToo] at place
    exact (Option.some.inj place).symm
  · intro success id role returned runs
    rcases owned.running id role runs with held | awaited
    · exact absurd runs (owned.returned success returned id held role)
    · obtain ⟨other, isSchedulers, hasRole⟩ := owned.scheduler id awaited
      rwa [runs.hasRole.unique hasRole]

end MarketIngest.Supervisor
