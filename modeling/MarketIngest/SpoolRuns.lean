import MarketIngest.SpoolSafety

namespace MarketIngest.Storage

/-!
# Runs over a spool

Sinks take their steps in their order, and passes of eviction and of the cleanup
come at any time between them.  The objects of sinks with run ids of their own
are different files, if names are parts of a path.  A venue with a separator can
make two objects one file, and then a marker stands beside what was not
uploaded.
-/

variable {Payload : Type}

section Runs

/-- The files of a spool, and how far each sink is. -/
structure SpoolState (Payload : Type) where
  tree : SpoolTree Payload
  position : Nat → Nat

/-- What happens to a spool. -/
inductive SpoolAction where
  | sink (index : Nat)
  | evict
      (config : EvictionConfig)
      (nowMs : Int)
      (answers : EvictionAnswers)
  | cleanup
      (config : UnsealedOrphanConfig)
      (nowMs : Int)
      (answers : CleanupAnswers)

/-- The action is about this spool. -/
def SpoolAction.On (root : SpoolRoot) : SpoolAction → Prop
  | .sink _ => True
  | .evict config _ _ => config.spoolRoot = root
  | .cleanup config _ _ => config.spoolRoot = root

/-- The next step of a sink, or a whole pass. -/
def stepSpool
    (plan : Nat → List (SinkStep Payload))
    (state : SpoolState Payload) :
    SpoolAction → SpoolState Payload
  | .sink index =>
      match (plan index)[state.position index]? with
      | none => state
      | some step =>
          { tree := step.perform state.tree
            position :=
              Function.update state.position index
                (state.position index + 1) }
  | .evict config nowMs answers =>
      { state with tree := (evictOnce config nowMs answers state.tree).tree }
  | .cleanup config nowMs answers =>
      { state with
        tree :=
          (cleanupInvalidUnsealedOnce config nowMs answers state.tree).tree }

/-- The steps that a sink has made. -/
def SpoolState.done
    (plan : Nat → List (SinkStep Payload))
    (state : SpoolState Payload)
    (index : Nat) : List (SinkStep Payload) :=
  (plan index).take (state.position index)

/-- An empty spool. -/
def SpoolState.initial : SpoolState Payload where
  tree := .empty
  position := fun _ => 0

variable
  {root : SpoolRoot}
  {plan : Nat → List (SinkStep Payload)}
  {state : SpoolState Payload}

/-- Steps are made in their order. -/
private theorem done_prefix
    (index : Nat) :
    state.done plan index <+: plan index :=
  List.take_prefix _ _

/-- Every action keeps what was not uploaded. -/
private theorem stepSpool_keeps
    (apart : FilesApart root plan)
    {action : SpoolAction}
    (onSpool : action.On root)
    (holds : SpoolInv root (state.done plan) state.tree) :
    SpoolInv root ((stepSpool plan state action).done plan)
      (stepSpool plan state action).tree := by
  cases action with
  | evict config nowMs answers =>
      exact holds.evict apart done_prefix onSpool nowMs answers
  | cleanup config nowMs answers =>
      exact (holds.cleanup apart done_prefix onSpool nowMs answers).1
  | sink index =>
      cases next : (plan index)[state.position index]? with
      | none =>
          have stays : stepSpool plan state (.sink index) = state := by
            rw [stepSpool, next]
          rw [stays]
          exact holds
      | some step =>
          have moves :
              stepSpool plan state (.sink index) =
                { tree := step.perform state.tree
                  position :=
                    Function.update state.position index
                      (state.position index + 1) } := by
            rw [stepSpool, next]
          rw [moves]
          obtain ⟨inPlan, isStep⟩ := List.getElem?_eq_some_iff.mp next
          have split :
              plan index =
                state.done plan index ++
                  step :: (plan index).drop (state.position index + 1) := by
            rw [SpoolState.done, ← isStep, List.getElem_cons_drop,
              List.take_append_drop]
          have after :
              ∀ other,
                SpoolState.done plan
                    { tree := step.perform state.tree
                      position :=
                        Function.update state.position index
                          (state.position index + 1) } other =
                  if other = index then state.done plan index ++ [step]
                  else state.done plan other := by
            intro other
            unfold SpoolState.done
            dsimp only
            split_ifs with same
            · subst same
              rw [Function.update_self, List.take_add_one, next]
              rfl
            · rw [Function.update_of_ne same]
          have more :
              OneMore (state.done plan) index step
                (SpoolState.done plan
                  { tree := step.perform state.tree
                    position :=
                      Function.update state.position index
                        (state.position index + 1) }) :=
            { later := by
                intro other earlier member
                rw [after]
                split_ifs with same
                · subst same
                  exact List.mem_append_left _ member
                · exact member
              now := by
                rw [after, if_pos rfl]
                exact
                  List.mem_append_right _ (List.mem_singleton.mpr rfl)
              only := by
                intro other earlier member
                rw [after] at member
                split_ifs at member with same
                · subst same
                  exact (List.mem_append.mp member).imp_right
                    (fun isStep => ⟨rfl, List.mem_singleton.mp isStep⟩)
                · exact .inl member }
          cases step with
          | write object file =>
              exact holds.write apart done_prefix split more
          | finish object file =>
              exact holds.finish apart done_prefix more

/-- In an empty spool nothing is missing. -/
private theorem spoolInv_initial :
    SpoolInv root
      (SpoolState.done plan (.initial : SpoolState Payload))
      (.initial : SpoolState Payload).tree := by
  exact
    { objects := fun path file object found => nomatch found
      markers := fun path file found => nomatch found
      single := fun path file other otherFile object found => nomatch found
      kept := fun index object written member =>
        absurd member List.not_mem_nil }

/-- The invariant holds after all actions. -/
private theorem spoolInv_run
    (apart : FilesApart root plan)
    {actions : List SpoolAction}
    (onSpool : ∀ action ∈ actions, action.On root) :
    let state := Runs.run (stepSpool plan) .initial actions
    SpoolInv root (state.done plan) state.tree := by
  induction actions using List.reverseRecOn with
  | nil =>
      exact spoolInv_initial
  | append_singleton actions action inductionHypothesis =>
      rw [Runs.run_append]
      apply stepSpool_keeps apart
      · exact onSpool action
          (List.mem_append_right _ (List.mem_singleton.mpr rfl))
      · exact inductionHypothesis
          (fun earlier member =>
            onSpool earlier (List.mem_append_left _ member))

end Runs

section Sinks

variable
  {root : SpoolRoot}
  {runs : List (SinkRun Payload)}

/-- The steps of some runs by their number. -/
def spoolPlan
    (runs : List (SinkRun Payload))
    (index : Nat) : List (SinkStep Payload) :=
  match runs[index]? with
  | some run => run.steps
  | none => []

/-- The text is the name of one file or directory. -/
def IsFileName (text : String) : Prop :=
  '/' ∉ text.toList ∧ text ∉ ["", ".", ".."]

/-- Runs of sinks over one spool, with names that are parts of a path. -/
structure SeparateRuns
    (root : SpoolRoot)
    (runs : List (SinkRun Payload)) : Prop where
  oneSpool : ∀ run ∈ runs, run.config.1.spoolRoot = root.path
  runIdsDiffer : (runs.map (fun run => run.config.1.runId)).Nodup
  runIdsPlain : ∀ run ∈ runs, IsFileName run.config.1.runId
  textsPlain :
    ∀ run ∈ runs,
      ∀ folder ∈ writtenFolders run.calls, Text.SlashFree folder.texts

/-- The object of a flush. -/
def spooledObject
    (config : L0StorageConfig)
    (flush : L0Flush Payload) : SpooledObject Payload :=
  ⟨localPath config flush.key, flush⟩

/-- The object that a step writes. -/
def SinkStep.written? :
    SinkStep Payload → Option (SpooledObject Payload)
  | .write object _ => some object
  | .finish _ _ => none

/-- A flush writes its object at most once. -/
private theorem written_flushSteps
    (config : L0StorageConfig)
    (flush : L0Flush Payload)
    (file : FlushFile) :
    ((flushSteps config flush file).filterMap SinkStep.written?).Sublist
      [spooledObject config flush] := by
  unfold flushSteps
  cases flush.outcome with
  | directoryFailed =>
      exact List.nil_sublist _
  | parquetFailed =>
      dsimp only
      split_ifs
      · exact List.Sublist.refl _
      · exact List.nil_sublist _
  | uploadFailed error =>
      exact List.Sublist.refl _
  | uploaded =>
      exact List.Sublist.refl _

/-- What a run writes, in its order. -/
private theorem written_steps
    (config : L0StorageConfig)
    (files : Nat → FlushFile)
    (flushes : List (L0Flush Payload))
    (first : Nat) :
    (((flushes.zipIdx first).flatMap fun flush =>
        flushSteps config flush.1 (files flush.2)).filterMap
          SinkStep.written?).Sublist
      (flushes.map (spooledObject config)) := by
  induction flushes generalizing first with
  | nil =>
      exact List.nil_sublist _
  | cons flush rest inductionHypothesis =>
      rw [List.zipIdx_cons, List.flatMap_cons, List.filterMap_append,
        List.map_cons]
      exact
        (written_flushSteps config flush (files first)).append
          (inductionHypothesis (first + 1))

/-- A written object is that of a flush. -/
private theorem SinkRun.flush_of_write
    {run : SinkRun Payload}
    {object : SpooledObject Payload}
    {file : FlushFile}
    (member : .write object file ∈ run.steps) :
    object.flush ∈ run.flushes ∧
      object = spooledObject run.config.1 object.flush := by
  have written :
      object ∈ run.steps.filterMap SinkStep.written? :=
    List.mem_filterMap.mpr ⟨_, member, rfl⟩
  obtain ⟨flush, isFlush, isObject⟩ :=
    List.mem_map.mp
      ((written_steps run.config.1 run.files run.flushes 0).mem written)
  subst isObject
  exact ⟨isFlush, rfl⟩

/-- What is finished is also written. -/
private theorem SinkRun.write_of_finish
    {run : SinkRun Payload}
    {object : SpooledObject Payload}
    {file : FlushFile}
    (member : .finish object file ∈ run.steps) :
    .write object file ∈ run.steps := by
  obtain ⟨flush, isFlush, isStep⟩ := List.mem_flatMap.mp member
  refine List.mem_flatMap.mpr ⟨flush, isFlush, ?_⟩
  unfold flushSteps at isStep ⊢
  cases outcome : flush.1.outcome with
  | directoryFailed =>
      rw [outcome] at isStep
      cases isStep
  | parquetFailed =>
      rw [outcome] at isStep
      dsimp only at isStep
      split_ifs at isStep
      all_goals simp at isStep
  | uploadFailed error =>
      rw [outcome] at isStep
      simpa using isStep
  | uploaded =>
      rw [outcome] at isStep
      simpa using isStep

/-- Where a run writes an object. -/
private theorem SinkRun.localPath_eq
    {run : SinkRun Payload}
    (oneSpool : run.config.1.spoolRoot = root.path)
    (key : String) :
    localPath run.config.1 key =
      root.path ++ ("/" ++ (run.config.1.runId ++ ("/" ++ key))) := by
  rw [localPath, oneSpool]
  simp only [String.append_assoc]

/-- Objects of folders other than those of raw events are protected. -/
private theorem raw_of_unprotected
    {folder : L0Folder}
    {runId file : String}
    (unprotected :
      isProtectedPath
          (root.path ++
            ("/" ++ (runId ++ ("/" ++ (Text.path folder.segments ++ file)))))
          root =
        false) :
    ∃ venue eventType, folder = .raw venue eventType := by
  rw [isProtectedPath, stripPrefix_eq_some_iff.mpr rfl] at unprotected
  have absent
      {marker : String}
      (isMarker : marker ∈ protectedMarkers) :
      ¬ marker.toList <:+:
        (normalizeSeparators
          (runId ++ ("/" ++ (Text.path folder.segments ++ file)))).toList := by
    intro inside
    exact
      List.any_eq_false.mp unprotected marker isMarker
        (Text.contains_of_infix inside)
  have present
      (family : String)
      {rest : List String}
      (segments : folder.segments = family :: rest)
      (plain :
        (family ++ "/").toList.map
            (fun char => if char.toNat = 92 then '/' else char) =
          (family ++ "/").toList) :
      (family ++ "/").toList <:+:
        (normalizeSeparators
          (runId ++ ("/" ++ (Text.path folder.segments ++ file)))).toList := by
    rw [normalizeSeparators, String.toList_ofList, ← plain]
    apply List.IsInfix.map
    refine
      ⟨(runId ++ "/").toList, (Text.path rest ++ file).toList, ?_⟩
    rw [segments, Text.path]
    simp only [String.toList_append, List.append_assoc]
  cases folder with
  | raw venue eventType =>
      exact ⟨venue, eventType, rfl⟩
  | sourceHealth venue =>
      exact absurd (present "source_health" rfl (by decide))
        (absent (List.mem_cons_of_mem _ List.mem_cons_self))
  | symbolHealth venue =>
      exact absurd (present "symbol_health" rfl (by decide))
        (absent List.mem_cons_self)
  | gap venue gapType =>
      exact absurd (present "gap_alert" rfl (by decide))
        (absent
          (List.mem_cons_of_mem _
            (List.mem_cons_of_mem _ List.mem_cons_self)))

/-- The files of objects are parquet files. -/
private theorem parquet_of_folderKey
    (config : L0StorageConfig)
    (folder : L0Folder)
    (part : Normalize.TimePart)
    (shard : Nat)
    (runId : String)
    (partNumber : Nat) :
    hasParquetExtension
        (localPath config (folderKey folder part shard runId partNumber)) =
      true := by
  have shape :
      localPath config (folderKey folder part shard runId partNumber) =
        config.spoolRoot ++ "/" ++ config.runId ++ "/" ++
            Text.path (keySegments folder part shard) ++ "run_id=" ++
            runId ++ "-part-" ++ Text.zeroPadded 6 partNumber ++
          ".parquet" := by
    simp only [localPath, folderKey, partFile, String.append_assoc]
  rw [shape, hasParquetExtension, Bool.and_eq_true]
  refine ⟨Text.endsWith_append _ _, ?_⟩
  rw [Bool.not_eq_true', Bool.eq_false_iff]
  intro ends
  obtain ⟨start, whole⟩ := List.isSuffixOf_iff_suffix.mp ends
  have dotted : "/.parquet".toList = ['/'] ++ ".parquet".toList := by
    decide
  rw [String.toList_append, dotted, ← List.append_assoc] at whole
  have stem := List.append_cancel_right whole
  have number : (Text.zeroPadded 6 partNumber).toList ≠ [] := by
    intro none
    have length := congrArg List.length none
    simp only [Text.zeroPadded, String.toList_ofList, List.length_leftpad,
      List.length_nil] at length
    omega
  have last := congrArg List.getLast? stem
  rw [String.toList_append, List.getLast?_append_of_ne_nil _ number,
    List.getLast?_append_of_ne_nil _ (by decide)] at last
  exact
    Text.not_mem_zeroPadded (by decide) 6 partNumber
      (List.mem_of_getLast? last.symm)

/-- The key of a flush of a run. -/
private theorem SinkRun.key_of_flush
    {run : SinkRun Payload}
    {flush : L0Flush Payload}
    (member : flush ∈ run.flushes) :
    flush.key =
      folderKey flush.partition.folder flush.partition.part
        flush.partition.shard run.config.1.runId flush.partNumber :=
  ((flushHistory_filed run.calls
    (fun _ inFolders => inFolders)).1.filed.filed flush member).key

/-- A run of the plan. -/
private theorem run_of_mem_spoolPlan
    {index : Nat}
    {step : SinkStep Payload}
    (member : step ∈ spoolPlan runs index) :
    ∃ run,
      runs[index]? = some run ∧ run ∈ runs ∧
        spoolPlan runs index = run.steps := by
  cases found : runs[index]? with
  | none =>
      rw [spoolPlan, found] at member
      cases member
  | some run =>
      exact ⟨run, rfl, List.mem_of_getElem? found, by rw [spoolPlan, found]⟩

/-- The keys of a run with plain names are different. -/
private theorem SeparateRuns.keys_nodup
    (separate : SeparateRuns root runs)
    {run : SinkRun Payload}
    (member : run ∈ runs) :
    (run.flushes.map (fun flush => flush.key)).Nodup := by
  apply flushHistory_keys_nodup
  intro one oneMember other otherMember sameText
  exact
    L0Folder.segments_injective
      (Text.path_inj
        (L0Folder.slashFree_segments
          (separate.textsPlain run member one oneMember))
        (L0Folder.slashFree_segments
          (separate.textsPlain run member other otherMember)) sameText)

/-- Objects of one path are one object of one run. -/
private theorem SeparateRuns.sameObject
    (separate : SeparateRuns root runs)
    {index other : Nat}
    {object otherObject : SpooledObject Payload}
    {file otherFile : FlushFile}
    (isWritten : .write object file ∈ spoolPlan runs index)
    (otherWritten : .write otherObject otherFile ∈ spoolPlan runs other)
    (samePath : object.localPath = otherObject.localPath) :
    index = other ∧ object = otherObject := by
  obtain ⟨run, found, member, isPlan⟩ := run_of_mem_spoolPlan isWritten
  obtain ⟨otherRun, otherFound, otherMember, otherPlan⟩ :=
    run_of_mem_spoolPlan otherWritten
  rw [isPlan] at isWritten
  rw [otherPlan] at otherWritten
  obtain ⟨isFlush, isObject⟩ := SinkRun.flush_of_write isWritten
  obtain ⟨otherFlush, isOther⟩ := SinkRun.flush_of_write otherWritten
  rw [isObject, isOther] at samePath
  simp only [spooledObject] at samePath
  rw [SinkRun.localPath_eq (separate.oneSpool run member),
    SinkRun.localPath_eq (separate.oneSpool otherRun otherMember),
    String.append_right_inj, String.append_right_inj] at samePath
  have cut :
      run.config.1.runId.toList ++ '/' :: object.flush.key.toList =
        otherRun.config.1.runId.toList ++
          '/' :: otherObject.flush.key.toList := by
    simpa [String.toList_append] using congrArg String.toList samePath
  obtain ⟨sameId, sameKey⟩ :=
    Text.segment_inj (separate.runIdsPlain run member).1
      (separate.runIdsPlain otherRun otherMember).1 cut
  have sameIndex : index = other := by
    obtain ⟨inRuns, _⟩ := List.getElem?_eq_some_iff.mp found
    apply
      (List.getElem?_inj (by rw [List.length_map]; exact inRuns)
        separate.runIdsDiffer).mp
    rw [List.getElem?_map, List.getElem?_map, found, otherFound,
      Option.map_some, Option.map_some, String.toList_inj.mp sameId]
  subst sameIndex
  obtain rfl := Option.some.inj (found.symm.trans otherFound)
  have sameFlush :=
    List.inj_on_of_nodup_map (separate.keys_nodup member) isFlush otherFlush
      (String.toList_inj.mp sameKey)
  exact ⟨rfl, by rw [isObject, isOther, sameFlush]⟩

/-- Runs with plain names write files of their own. -/
private theorem SeparateRuns.filesApart
    (separate : SeparateRuns root runs) :
    FilesApart root (spoolPlan runs) where
  inSpool := by
    intro index object file isWritten
    obtain ⟨run, _, member, isPlan⟩ := run_of_mem_spoolPlan isWritten
    rw [isPlan] at isWritten
    obtain ⟨_, isObject⟩ := SinkRun.flush_of_write isWritten
    rw [isObject]
    exact ⟨_, SinkRun.localPath_eq (separate.oneSpool run member) _⟩
  parquet := by
    intro index object file isWritten
    obtain ⟨run, _, member, isPlan⟩ := run_of_mem_spoolPlan isWritten
    rw [isPlan] at isWritten
    obtain ⟨isFlush, isObject⟩ := SinkRun.flush_of_write isWritten
    rw [isObject]
    simp only [spooledObject]
    rw [SinkRun.key_of_flush isFlush]
    exact parquet_of_folderKey _ _ _ _ _ _
  written := by
    intro index object file finished
    obtain ⟨run, _, _, isPlan⟩ := run_of_mem_spoolPlan finished
    rw [isPlan] at finished ⊢
    exact SinkRun.write_of_finish finished
  sameObject := by
    intro index object file other otherObject otherFile isWritten
      otherWritten samePath
    exact separate.sameObject isWritten otherWritten samePath
  once := by
    intro index before object file after isPlan otherFile earlier
    have isWritten : .write object file ∈ spoolPlan runs index := by
      rw [isPlan]
      exact List.mem_append_right _ List.mem_cons_self
    obtain ⟨run, _, member, steps⟩ := run_of_mem_spoolPlan isWritten
    have once : (run.steps.filterMap SinkStep.written?).Nodup := by
      apply (written_steps run.config.1 run.files run.flushes 0).nodup
      exact
        List.Nodup.map_on
          (fun one _ other _ same => congrArg SpooledObject.flush same)
          (List.Nodup.of_map _ (separate.keys_nodup member))
    rw [← steps, isPlan, List.filterMap_append, List.nodup_append] at once
    exact
      once.2.2 object (List.mem_filterMap.mpr ⟨_, earlier, rfl⟩) object
        (List.mem_filterMap.mpr ⟨_, List.mem_cons_self, rfl⟩) rfl
  isProtected := by
    intro index object file isWritten unprotected
    obtain ⟨run, _, member, isPlan⟩ := run_of_mem_spoolPlan isWritten
    rw [isPlan] at isWritten
    obtain ⟨isFlush, isObject⟩ := SinkRun.flush_of_write isWritten
    rw [isObject] at unprotected
    simp only [spooledObject] at unprotected
    rw [SinkRun.localPath_eq (separate.oneSpool run member),
      SinkRun.key_of_flush isFlush, folderKey, keySegments,
      Text.path_append, String.append_assoc] at unprotected
    exact raw_of_unprotected unprotected

/-- Passes on a spool are safe, and what was not uploaded is there. -/
structure SpoolSafe
    (root : SpoolRoot)
    (plan : Nat → List (SinkStep Payload))
    (state : SpoolState Payload) : Prop where
  /-- A written file whose upload has not succeeded is at its place, or out of
  the spool where its path leads to. -/
  kept :
    ∀ index object written,
      .write object written ∈ state.done plan index →
      (object.isUploaded = true →
        ∀ finished, .finish object finished ∉ state.done plan index) →
        ∃ path file,
          state.tree.get? path = some file ∧
            file.contents = some object ∧ Located root object path
  /-- A pass of eviction deletes only what it may, in order, and stops. -/
  evicts :
    ∀ (config : EvictionConfig) (nowMs : Int) (answers : EvictionAnswers),
      config.spoolRoot = root →
        EvictionSound config nowMs answers state.tree
          (evictOnce config nowMs answers state.tree)
  /-- What it deletes are uploaded objects of raw market events. -/
  evictsUploaded :
    ∀ (config : EvictionConfig) (nowMs : Int) (answers : EvictionAnswers),
      config.spoolRoot = root →
        ∀ candidate ∈ (evictOnce config nowMs answers state.tree).removed,
          ∃ index object finished file venue eventType,
            .finish object finished ∈ state.done plan index ∧
              object.isUploaded = true ∧
              object.localPath = candidate.parquetPath ∧
              state.tree.get? candidate.parquetPath = some file ∧
              file.contents = some object ∧
              object.flush.partition.folder = .raw venue eventType
  /-- A pass of the cleanup moves only what it may, to names that are not taken,
  and its counts add up. -/
  cleans :
    ∀ (config : UnsealedOrphanConfig) (nowMs : Int)
      (answers : CleanupAnswers),
      config.spoolRoot = root →
        CleanupSound
          (fun before source destination =>
            MayQuarantine config (orphanCutoffMs config nowMs) answers before
                source destination ∧
              before.get? destination = none)
          state.tree
          (cleanupInvalidUnsealedOnce config nowMs answers state.tree)

/--
In every interleaving of the steps of sinks that write below one spool with
passes of eviction and of the cleanup, nothing that was not uploaded is deleted.
-/
theorem spool_safe
    (separate : SeparateRuns root runs)
    {actions : List SpoolAction}
    (onSpool : ∀ action ∈ actions, action.On root) :
    SpoolSafe root (spoolPlan runs)
      (Runs.run (stepSpool (spoolPlan runs)) .initial actions) := by
  have apart := separate.filesApart
  have holds := spoolInv_run apart onSpool
  exact
    { kept := by
        intro index object written isWritten notUploaded
        obtain ⟨path, file, present, isObject⟩ :=
          holds.kept index object written isWritten notUploaded
        exact
          ⟨path, file, present, isObject,
            (holds.objects path file object present isObject).1⟩
      evicts := by
        intro config nowMs answers sameRoot
        exact evictOnce_sound config nowMs answers _
      evictsUploaded := by
        intro config nowMs answers sameRoot candidate removed
        exact
          holds.object_of_mayEvict apart done_prefix sameRoot
            ((evictOnce_sound config nowMs answers _).may candidate removed)
      cleans := by
        intro config nowMs answers sameRoot
        exact
          (holds.cleanup apart done_prefix sameRoot nowMs answers).2 }

end Sinks

section Sample

/-- The directory of the spool of the sample configuration. -/
def sampleRoot : SpoolRoot :=
  ⟨"", "spool", by decide, by decide⟩

/-- A sink of that spool that flushes every record at once. -/
def spoolConfig : AcceptedConfig :=
  ⟨{ singleConfig.1 with spoolRoot := "/spool" }, rfl⟩

/-- A file system that writes all files, each in one millisecond. -/
def promptFile : FlushFile where
  created := true
  mtimeMs := 0
  length := 1
  footerValid := true
  sealedMs := some 0

/-- A run whose two objects have one key, the second of them not uploaded. -/
def slashRun : SinkRun Unit where
  config := spoolConfig
  hash := fun _ => 0
  livePublisher := false
  calls :=
    [.appendRawMarketEvent
        { tradeDraft with venue := "a", eventType := "b/event_type=c" }
        .noMarkPrice .uploaded,
      .appendRawMarketEvent
        { tradeDraft with venue := "a/event_type=b", eventType := "c" }
        .noMarkPrice (.uploadFailed "timeout")]
  files := fun _ => promptFile

/-- A pass on a full disk that lists some objects. -/
def evictListed (paths : List String) : SpoolAction :=
  .evict ⟨sampleRoot, 70, 90, 7200⟩ 7200000
    { probe := fun _ => .ok 100
      listed := .ok paths
      removeFails := fun _ => false }

/-- A pass that lists the path of the two objects of that run. -/
def evictAll : SpoolAction :=
  evictListed
    [localPath spoolConfig.1
      (rawObjectKey ⟨"a", "b/event_type=c", "1970-01-01", 0, 0⟩ "run-1" 1)]

/-- The files after both flushes and a pass of eviction. -/
def slashState : SpoolState Unit :=
  Runs.run (stepSpool (spoolPlan [slashRun])) .initial
    [.sink 0, .sink 0, .sink 0, .sink 0, evictAll]

/-- The second file replaces the first one below its marker, and is deleted. -/
theorem slashState_not_safe :
    ¬ SpoolSafe sampleRoot (spoolPlan [slashRun]) slashState := by
  intro safe
  obtain ⟨object, isWritten, notUploaded⟩ :
      ∃ object,
        .write object promptFile ∈
            slashState.done (spoolPlan [slashRun]) 0 ∧
          object.isUploaded = false :=
    ⟨_, List.mem_of_getElem? (i := 2) rfl, rfl⟩
  obtain ⟨path, file, present, _⟩ :=
    safe.kept 0 object promptFile isWritten
      (fun uploaded => by rw [notUploaded] at uploaded; cases uploaded)
  have empty : slashState.tree.keys = [] := by
    decide +kernel
  have member := OrderedMap.mem_keys_iff.mpr ⟨file, present⟩
  rw [empty] at member
  cases member

/-- A run of two trades, the second of them not uploaded. -/
def tradesRun : SinkRun Unit where
  config := spoolConfig
  hash := fun _ => 0
  livePublisher := false
  calls :=
    [.appendRawMarketEvent tradeDraft .noMarkPrice .uploaded,
      .appendRawMarketEvent tradeDraft .noMarkPrice
        (.uploadFailed "timeout")]
  files := fun _ => promptFile

/-- A second run over the spool, whose only trade is not uploaded. -/
def failedTradeRun : SinkRun Unit :=
  { tradesRun with
    config := ⟨{ spoolConfig.1 with runId := "run-2" }, rfl⟩
    calls :=
      [.appendRawMarketEvent tradeDraft .noMarkPrice
        (.uploadFailed "timeout")] }

/-- Where a run writes one of its objects. -/
def tradePath (run : SinkRun Unit) (partNumber : Nat) : String :=
  localPath run.config.1
    (rawObjectKey ⟨"binance", "trade", "1970-01-01", 0, 0⟩
      run.config.1.runId partNumber)

/-- The runs take turns, and a pass of eviction lists what is written so far. -/
def turns : List SpoolAction :=
  [.sink 0, .sink 1, .sink 0, .sink 0,
    evictListed
      [tradePath tradesRun 1, tradePath tradesRun 2,
        tradePath failedTradeRun 1],
    .sink 1, .sink 0]

/-- The files of two runs with plain names are safe; the object that was uploaded
is evicted, and those that were not are left. -/
theorem tradesRuns_safe :
    let plan := spoolPlan [tradesRun, failedTradeRun]
    let state := Runs.run (stepSpool plan) .initial turns
    SpoolSafe sampleRoot plan state ∧
      state.tree.keys =
        [tradePath tradesRun 2, tradePath failedTradeRun 1] := by
  intro plan state
  refine ⟨?_, by decide +kernel⟩
  apply spool_safe
  · exact
      { oneSpool := by
          intro run member
          rcases List.mem_pair.mp member with rfl | rfl <;> rfl
        runIdsDiffer := by decide
        runIdsPlain := by
          intro run member
          rcases List.mem_pair.mp member with rfl | rfl <;>
            exact ⟨by decide, by decide⟩
        textsPlain := by
          intro run member folder isFolder
          have isTrade : folder = .raw "binance" "trade" := by
            rcases List.mem_pair.mp member with rfl | rfl <;>
              simpa [writtenFolders, tradesRun, failedTradeRun,
                SinkCall.folder?, tradeDraft] using isFolder
          rw [isTrade]
          intro text isText
          rcases List.mem_pair.mp isText with rfl | rfl
          · decide
          · decide }
  · simp only [turns, List.forall_mem_cons]
    exact
      ⟨trivial, trivial, trivial, trivial, rfl, trivial, trivial,
        fun _ none => absurd none List.not_mem_nil⟩

end Sample

end MarketIngest.Storage
