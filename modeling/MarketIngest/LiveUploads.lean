import MarketIngest.LiveRuns
import MarketIngest.SinkRuns

namespace MarketIngest.Live

open Parquet (L0Draft)
open Runs
open Storage (SinkCall SinkHistory StorageError offeredBy stepCall)

/-!
# What live workers store

Every input of a worker offers drafts: a message those of its parsed texts, and
the rest the drafts themselves.  A worker offers them to its sink in order, and
leaves out the rest of an input after a failed append.  So a sink that keeps
every draft it is called with was offered the drafts of all inputs.
-/

variable {Stats Envelope : Type}

/-- The drafts of parsed messages. -/
def envelopeOffers
    (venue : Venue Stats Envelope)
    (nowMs : Int)
    (envelopes : List Envelope) : List L0Draft :=
  envelopes.flatMap fun envelope => (venue.drafts envelope nowMs).map .raw

/-- The drafts of a text. -/
def textOffers
    (venue : Venue Stats Envelope)
    (nowMs : Int)
    (content : String) : List L0Draft :=
  match venue.parse content with
  | some envelopes => envelopeOffers venue nowMs envelopes
  | none => []

/-- The drafts of an input. -/
def Input.offers (venue : Venue Stats Envelope) : Input → List L0Draft
  | .message taken nowMs =>
      match taken.text? with
      | some content => textOffers venue nowMs content
      | none => []
  | .drafts own => own

/-- The drafts of some inputs. -/
def offersOf
    (venue : Venue Stats Envelope)
    (inputs : List Input) : Multiset L0Draft :=
  ↑(inputs.flatMap (Input.offers venue))

section Sinks

variable (initial : SinkHistory L0Draft)

/-- The sink of the worker is the one that its calls lead to. -/
def HasSink (worker : Worker Stats Envelope) : Prop :=
  worker.storage = some (run stepCall initial worker.called).sink

/-- Every call keeps its draft. -/
def KeepsAll (calls : List (SinkCall L0Draft)) : Prop :=
  Along stepCall (fun history call => call.Keeps history.sink) initial calls

/-- Every call returns without an error. -/
def ReturnsAll (calls : List (SinkCall L0Draft)) : Prop :=
  Along stepCall
    (fun history call => (call.perform history.sink).2 = .ok ())
    initial calls

/-- Between the two states, the sink was offered drafts in order. -/
structure Stores
    (before after : Worker Stats Envelope)
    (drafts : Multiset L0Draft) : Prop where
  calls : before.called <+: after.called
  sink : HasSink initial before → HasSink initial after
  offered : offeredBy after.called ≤ offeredBy before.called + drafts
  complete :
    HasSink initial before →
    KeepsAll initial after.called →
    offeredBy after.called = offeredBy before.called + drafts

end Sinks

section Relations

variable
  {initial : SinkHistory L0Draft}
  {first second third : Worker Stats Envelope}
  {drafts later : Multiset L0Draft}

/-- Calls that return without an error keep their drafts. -/
theorem ReturnsAll.keepsAll
    {calls : List (SinkCall L0Draft)}
    (returned : ReturnsAll initial calls) :
    KeepsAll initial calls :=
  returned.imp SinkCall.keeps_of_ok

/-- The first part of a run of calls that keep their drafts does so. -/
theorem KeepsAll.of_prefix
    {calls earlier : List (SinkCall L0Draft)}
    (keeps : KeepsAll initial calls)
    (before : earlier <+: calls) :
    KeepsAll initial earlier := by
  obtain ⟨rest, rfl⟩ := before
  exact (along_append.mp keeps).1

/-- Whatever leaves the sink alone stores nothing. -/
theorem Stores.of_eq
    (storage : second.storage = first.storage)
    (called : second.called = first.called) :
    Stores initial first second 0 where
  calls := called ▸ List.prefix_rfl
  sink := by
    unfold HasSink
    rw [storage, called]
    exact id
  offered := by rw [called, add_zero]
  complete := by
    intros
    rw [called, add_zero]

theorem Stores.trans
    (earlier : Stores initial first second drafts)
    (rest : Stores initial second third later) :
    Stores initial first third (drafts + later) where
  calls := earlier.calls.trans rest.calls
  sink := fun sink => rest.sink (earlier.sink sink)
  offered :=
    calc
      offeredBy third.called
          ≤ offeredBy second.called + later := rest.offered
      _ ≤ offeredBy first.called + drafts + later :=
        add_le_add_left earlier.offered _
      _ = offeredBy first.called + (drafts + later) := add_assoc _ _ _
  complete := by
    intro sink keeps
    rw [rest.complete (earlier.sink sink) keeps,
      earlier.complete sink (keeps.of_prefix rest.calls), add_assoc]

/-- A change that leaves the sink alone may come first. -/
theorem Stores.from_eq
    (stores : Stores initial second third drafts)
    (storage : second.storage = first.storage)
    (called : second.called = first.called) :
    Stores initial first third drafts := by
  have both := (Stores.of_eq storage called).trans stores
  rw [zero_add] at both
  exact both

/-- After a failure, the drafts that were left out do not matter. -/
theorem Stores.of_failure
    (stores : Stores initial first second drafts)
    (failed : HasSink initial first → ¬ KeepsAll initial second.called) :
    Stores initial first second (drafts + later) where
  calls := stores.calls
  sink := stores.sink
  offered :=
    stores.offered.trans
      (add_le_add_right (Multiset.le_add_right _ _) _)
  complete := fun sink keeps => absurd keeps (failed sink)

end Relations

section Calls

variable
  {initial : SinkHistory L0Draft}
  {venue : Venue Stats Envelope}
  {world : SinkWorld}
  {worker : Worker Stats Envelope}

/-- A call goes to the sink that the worker has. -/
theorem call_of_hasSink
    (sink : HasSink initial worker)
    (sinkCall : SinkCall L0Draft) :
    HasSink initial (worker.call sinkCall).1 ∧
      (worker.call sinkCall).1.called = worker.called ++ [sinkCall] ∧
      (worker.call sinkCall).2 =
        (sinkCall.perform
          (run stepCall initial worker.called).sink).2 := by
  unfold HasSink at sink ⊢
  unfold Worker.call
  rw [sink]
  refine ⟨?_, rfl, rfl⟩
  dsimp only
  rw [run_append]
  rfl

/-- A call offers its own draft to the sink. -/
private theorem stores_call
    (sinkCall : SinkCall L0Draft) :
    Stores initial worker (worker.call sinkCall).1 sinkCall.offered := by
  cases found : worker.storage with
  | none =>
      have same : worker.call sinkCall = (worker, .ok ()) := by
        unfold Worker.call
        rw [found]
      rw [same]
      refine ⟨List.prefix_rfl, id, Multiset.le_add_right _ _, ?_⟩
      intro sink
      unfold HasSink at sink
      rw [found] at sink
      cases sink
  | some sink =>
      have called :
          (worker.call sinkCall).1.called = worker.called ++ [sinkCall] := by
        unfold Worker.call
        rw [found]
      have offered :
          offeredBy (worker.call sinkCall).1.called =
            offeredBy worker.called + sinkCall.offered := by
        rw [called]
        simp [offeredBy]
      exact
        { calls := by
            rw [called]
            exact List.prefix_append _ _
          sink := fun sink => (call_of_hasSink sink sinkCall).1
          offered := offered.le
          complete := fun _ _ => offered }

/-- A call that has a draft and keeps it returns without an error. -/
private theorem call_ok_of_keeps
    {sinkCall : SinkCall L0Draft}
    (offers : sinkCall.offered ≠ 0)
    (sink : HasSink initial worker)
    (keeps : KeepsAll initial (worker.call sinkCall).1.called) :
    (worker.call sinkCall).2 = .ok () := by
  obtain ⟨-, called, result⟩ := call_of_hasSink sink sinkCall
  rw [called] at keeps
  rw [result]
  exact (along_append.mp keeps).2.1.2 offers

/-- A call that returns without an error is one more of its kind. -/
private theorem returnsAll_call
    {sinkCall : SinkCall L0Draft}
    (sink : HasSink initial worker)
    (returned : ReturnsAll initial worker.called)
    (ok : (worker.call sinkCall).2 = .ok ()) :
    ReturnsAll initial (worker.call sinkCall).1.called := by
  obtain ⟨-, called, result⟩ := call_of_hasSink sink sinkCall
  rw [called]
  exact along_append.mpr ⟨returned, result.symm.trans ok, trivial⟩

/-- The call of a draft offers it. -/
private theorem offered_call
    (publish : Storage.L0StorageSink.PublishOutcome)
    (file : Storage.FileOutcome)
    (draft : L0Draft) :
    (draft.call publish file).offered = {draft} := by
  cases draft <;> rfl

/-- Drafts are offered in order, and all of them unless one is not kept. -/
theorem stores_appendAll
    (drafts : List L0Draft) :
    Stores initial worker (worker.appendAll world drafts).1 ↑drafts ∧
      (HasSink initial worker →
        KeepsAll initial (worker.appendAll world drafts).1.called →
        (worker.appendAll world drafts).2 = .ok ()) := by
  induction drafts generalizing worker with
  | nil =>
      exact ⟨.of_eq rfl rfl, fun _ _ => rfl⟩
  | cons draft rest inductionHypothesis =>
      have one := @stores_call _ _ initial worker
        (draft.call (world.publish worker.called.length)
          (world.file worker.called.length))
      have kept := @call_ok_of_keeps _ _ initial worker
        (draft.call (world.publish worker.called.length)
          (world.file worker.called.length))
      rw [offered_call] at one kept
      specialize kept (Multiset.singleton_ne_zero draft)
      have shape : (↑(draft :: rest) : Multiset L0Draft) = {draft} + ↑rest :=
        rfl
      unfold Worker.appendAll Worker.append
      revert one kept
      rcases
        worker.call
          (draft.call (world.publish worker.called.length)
            (world.file worker.called.length)) with
        ⟨after, failure | done⟩
      · intro one kept
        rw [shape]
        refine ⟨one.of_failure fun sink keeps => ?_, ?_⟩
        · cases kept sink keeps
        · exact kept
      · intro one kept
        obtain ⟨stores, returned⟩ := @inductionHypothesis after
        rw [shape]
        exact ⟨one.trans stores, fun sink => returned (one.sink sink)⟩

/-- Drafts that are all appended are calls that return without an error. -/
theorem returnsAll_appendAll
    (drafts : List L0Draft)
    (sink : HasSink initial worker)
    (returned : ReturnsAll initial worker.called)
    (ok : (worker.appendAll world drafts).2 = .ok ()) :
    ReturnsAll initial (worker.appendAll world drafts).1.called := by
  induction drafts generalizing worker with
  | nil =>
      exact returned
  | cons draft rest inductionHypothesis =>
      have one := @returnsAll_call _ _ initial worker
        (draft.call (world.publish worker.called.length)
          (world.file worker.called.length)) sink returned
      have stores := (@stores_call _ _ initial worker
        (draft.call (world.publish worker.called.length)
          (world.file worker.called.length))).sink sink
      unfold Worker.appendAll Worker.append at ok ⊢
      revert one stores ok
      rcases
        worker.call
          (draft.call (world.publish worker.called.length)
            (world.file worker.called.length)) with
        ⟨after, failure | done⟩
      · intro _ _ ok
        cases ok
      · intro one stores ok
        exact inductionHypothesis stores (one rfl) ok

/-- A flush offers nothing. -/
theorem stores_flushAll :
    Stores initial worker (worker.flushAll world).1 0 :=
  stores_call _

/-- A flush that returns without an error is one more such call. -/
theorem returnsAll_flushAll
    (sink : HasSink initial worker)
    (returned : ReturnsAll initial worker.called)
    (ok : (worker.flushAll world).2 = .ok ()) :
    ReturnsAll initial (worker.flushAll world).1.called :=
  returnsAll_call sink returned ok

/-- Counting stores nothing. -/
theorem stores_note
    (call : StatsCall Envelope) :
    Stores initial worker (worker.note venue call) 0 :=
  .of_eq rfl rfl

end Calls

section Inputs

variable
  {initial : SinkHistory L0Draft}
  {venue : Venue Stats Envelope}
  {world : SinkWorld}

/-- The parsed messages of a text are stored in order. -/
private theorem stores_recordEnvelopes
    (nowMs : Int)
    (envelopes : List Envelope)
    (worker : Worker Stats Envelope) :
    let recorded := recordEnvelopes venue world nowMs envelopes worker
    Stores initial worker recorded.1
        ↑(envelopeOffers venue nowMs envelopes) ∧
      (recorded.2 = .ok () →
        HasSink initial worker →
        ReturnsAll initial worker.called →
        ReturnsAll initial recorded.1.called) := by
  dsimp only
  induction envelopes generalizing worker with
  | nil =>
      exact ⟨.of_eq rfl rfl, fun _ _ returned => returned⟩
  | cons envelope rest inductionHypothesis =>
      have shape :
          (↑(envelopeOffers venue nowMs (envelope :: rest)) :
              Multiset L0Draft) =
            ↑((venue.drafts envelope nowMs).map L0Draft.raw) +
              ↑(envelopeOffers venue nowMs rest) := by
        rw [envelopeOffers, List.flatMap_cons, ← Multiset.coe_add]
        rfl
      rw [shape]
      obtain ⟨stores, complete⟩ := @stores_appendAll _ _ initial world worker
        ((venue.drafts envelope nowMs).map .raw)
      have returns := @returnsAll_appendAll _ _ initial world worker
        ((venue.drafts envelope nowMs).map .raw)
      unfold recordEnvelopes
      revert stores complete returns
      rcases
        worker.appendAll world
          ((venue.drafts envelope nowMs).map .raw) with
        ⟨after, failure | done⟩
      · intro stores complete _
        refine ⟨stores.of_failure fun sink keeps => ?_, ?_⟩
        · cases complete sink keeps
        · intro ok
          cases ok
      · intro stores _ returns
        obtain ⟨others, returned⟩ :=
          inductionHypothesis (after.note venue (.event envelope nowMs))
        refine ⟨?_, ?_⟩
        · exact stores.trans (others.from_eq rfl rfl)
        · intro ok sink before
          exact returned ok (stores.sink sink) (returns sink before rfl)

/-- A text is stored as the messages that it is parsed to. -/
private theorem stores_recordTextPayload
    (content : String)
    (nowMs : Int)
    (worker : Worker Stats Envelope) :
    let recorded := recordTextPayload venue world content nowMs worker
    Stores initial worker recorded.1 ↑(textOffers venue nowMs content) ∧
      (recorded.2 = .ok () →
        HasSink initial worker →
        ReturnsAll initial worker.called →
        ReturnsAll initial recorded.1.called) := by
  unfold recordTextPayload textOffers
  dsimp only
  cases venue.parse content with
  | none =>
      exact ⟨.of_eq rfl rfl, fun _ _ returned => returned⟩
  | some envelopes =>
      obtain ⟨stores, returned⟩ :=
        @stores_recordEnvelopes _ _ initial venue world nowMs envelopes
          (worker.note venue .received)
      dsimp only
      exact ⟨stores.from_eq rfl rfl, returned⟩

/-- A message is stored as the drafts that it offers. -/
theorem stores_handleMessage
    (message : Message)
    (nowMs : Int)
    (worker : Worker Stats Envelope) :
    let handled := handleMessage venue world message nowMs worker
    Stores initial worker handled.1
        ↑((Input.message message nowMs).offers venue) ∧
      (handled.2 = .ok () →
        HasSink initial worker →
        ReturnsAll initial worker.called →
        ReturnsAll initial handled.1.called) := by
  have text (content : String) :=
    @stores_recordTextPayload _ _ initial venue world content nowMs
      (worker.take (.message message nowMs))
  unfold handleMessage Input.offers Message.text?
  dsimp only at text ⊢
  cases message with
  | text content =>
      obtain ⟨stores, returned⟩ := text content
      exact ⟨stores.from_eq rfl rfl, returned⟩
  | binary bytes =>
      dsimp only
      cases String.fromUTF8? bytes with
      | some content =>
          obtain ⟨stores, returned⟩ := text content
          exact ⟨stores.from_eq rfl rfl, returned⟩
      | none =>
          exact ⟨.of_eq rfl rfl, nofun⟩
  | _ => exact ⟨.of_eq rfl rfl, fun _ _ returned => returned⟩

/-- Snapshots are stored as the drafts that were fetched. -/
theorem stores_appendAndFlushSnapshots
    (batch : SnapshotBatch)
    (worker : Worker Stats Envelope) :
    let after := appendAndFlushSnapshots world batch worker
    (after = worker ∧ worker.storage = none) ∨
      (Stores initial worker after ↑(batch.drafts.map L0Draft.raw) ∧
        after.taken = worker.taken ++ [.drafts (batch.drafts.map .raw)]) := by
  unfold appendAndFlushSnapshots Worker.appendDrafts
  dsimp only
  cases found : worker.storage with
  | none => exact .inl ⟨rfl, rfl⟩
  | some sink =>
      obtain ⟨stores, complete⟩ :=
        @stores_appendAll _ _ initial world
          (worker.take (.drafts (batch.drafts.map .raw)))
          (batch.drafts.map .raw)
      have taken :=
        (Worker.appendAll_frame world (batch.drafts.map .raw)
          (worker.take (.drafts (batch.drafts.map .raw)))).1
      refine .inr ?_
      dsimp only
      revert stores complete taken
      rcases
        (worker.take (.drafts (batch.drafts.map .raw))).appendAll world
          (batch.drafts.map .raw) with
        ⟨after, failure | done⟩
      · intro stores _ taken
        exact ⟨stores.from_eq rfl rfl, taken⟩
      · intro stores _ taken
        dsimp only
        split
        · have flushed := stores.trans (@stores_flushAll _ _ initial world after)
          rw [add_zero] at flushed
          exact ⟨flushed.from_eq rfl rfl,
            (Worker.flushAll_frame _ _).1.trans taken⟩
        · exact ⟨stores.from_eq rfl rfl, taken⟩

end Inputs

section Runs

variable
  {initial : SinkHistory L0Draft}
  {venue : Venue Stats Envelope}
  {world : SinkWorld}

/-- Between the two states, the sink was offered the drafts of the inputs. -/
def Advances
    (initial : SinkHistory L0Draft)
    (venue : Venue Stats Envelope)
    (before after : Worker Stats Envelope) : Prop :=
  ∃ inputs,
    after.taken = before.taken ++ inputs ∧
      Stores initial before after (offersOf venue inputs)

theorem Advances.trans
    {first second third : Worker Stats Envelope}
    (earlier : Advances initial venue first second)
    (later : Advances initial venue second third) :
    Advances initial venue first third := by
  obtain ⟨inputs, taken, stores⟩ := earlier
  obtain ⟨others, takenLater, storesLater⟩ := later
  refine ⟨inputs ++ others, ?_, ?_⟩
  · rw [takenLater, taken, List.append_assoc]
  · have together := stores.trans storesLater
    unfold offersOf at together ⊢
    rw [List.flatMap_append, ← Multiset.coe_add]
    exact together

/-- What takes no input and leaves the sink alone. -/
theorem Advances.of_eq
    {before after : Worker Stats Envelope}
    (taken : after.taken = before.taken)
    (stores : Stores initial before after 0) :
    Advances initial venue before after :=
  ⟨[], taken.trans (List.append_nil _).symm, stores⟩

/-- What takes one input and stores its drafts. -/
theorem Advances.of_input
    {before after : Worker Stats Envelope}
    {input : Input}
    (taken : after.taken = before.taken ++ [input])
    (stores : Stores initial before after ↑(input.offers venue)) :
    Advances initial venue before after := by
  refine ⟨[input], taken, ?_⟩
  unfold offersOf
  rw [List.flatMap_singleton]
  exact stores

/-- A worker stores what it takes, in every session and every run. -/
theorem kept_advances (snapshots : Prop) :
    Kept venue world snapshots (Advances initial venue) where
  refl worker := .of_eq rfl (.of_eq rfl rfl)
  trans := Advances.trans
  note worker call := .of_eq rfl (stores_note call)
  message message nowMs worker := by
    obtain ⟨stores, -⟩ :=
      @stores_handleMessage _ _ initial venue world message nowMs worker
    have taken := handleMessage_taken venue world message nowMs worker
    unfold afterMessage
    revert stores taken
    rcases handleMessage venue world message nowMs worker with
      ⟨after, failure | done⟩
    · intro stores taken
      dsimp only
      split
      · exact (Advances.of_input taken stores).trans
          (.of_eq rfl (stores_note _))
      · exact .of_input taken stores
    · intro stores taken
      exact .of_input taken stores
  snapshot _ batch worker := by
    obtain ⟨same, -⟩ | ⟨stores, taken⟩ :=
      @stores_appendAndFlushSnapshots _ _ initial world batch worker
    · rw [same]
      exact .of_eq rfl (.of_eq rfl rfl)
    · exact .of_input taken stores

/-- The sink was offered the drafts of what the worker took. -/
structure Stored
    (initial : SinkHistory L0Draft)
    (venue : Venue Stats Envelope)
    (worker : Worker Stats Envelope) : Prop where
  sink : HasSink initial worker
  offered : offeredBy worker.called ≤ offersOf venue worker.taken
  complete :
    KeepsAll initial worker.called →
    offeredBy worker.called = offersOf venue worker.taken

/-- A worker that starts with an empty sink stores what it takes. -/
theorem Advances.stored
    {stats : Stats}
    {worker : Worker Stats Envelope}
    (advances :
      Advances initial venue (.start stats (some initial.sink)) worker) :
    Stored initial venue worker := by
  obtain ⟨inputs, taken, stores⟩ := advances
  have taken : worker.taken = inputs := taken.trans (List.nil_append _)
  have nothing :
      offeredBy
        (Worker.start stats (some initial.sink) :
          Worker Stats Envelope).called = 0 :=
    rfl
  have offered := stores.offered
  have complete := stores.complete rfl
  rw [nothing, zero_add, ← taken] at offered complete
  exact
    { sink := stores.sink rfl
      offered := offered
      complete := complete }

/-- Between the two states, either an error was counted or there was none. -/
structure Clean
    (initial : SinkHistory L0Draft)
    (before after : Worker Stats Envelope) : Prop where
  counted : before.counted <+: after.counted
  sink : HasSink initial before → HasSink initial after
  returned :
    HasSink initial before →
    ReturnsAll initial before.called →
    .malformed ∉ after.counted →
    ReturnsAll initial after.called

theorem Clean.trans
    {first second third : Worker Stats Envelope}
    (earlier : Clean initial first second)
    (later : Clean initial second third) :
    Clean initial first third where
  counted := earlier.counted.trans later.counted
  sink := fun sink => later.sink (earlier.sink sink)
  returned := by
    intro sink returned none
    refine later.returned (earlier.sink sink)
      (earlier.returned sink returned ?_) none
    exact fun malformed => none (later.counted.subset malformed)

/-- What leaves the sink alone is clean. -/
theorem Clean.of_eq
    {before after : Worker Stats Envelope}
    (counted : before.counted <+: after.counted)
    (storage : after.storage = before.storage)
    (called : after.called = before.called) :
    Clean initial before after where
  counted := counted
  sink := (Stores.of_eq storage called).sink
  returned := by
    intro _ returned _
    rw [called]
    exact returned

/-- A run without snapshots counts every error that its sink returns. -/
theorem kept_clean
    (counts : venue.countsMessageErrors = true) :
    Kept venue world False (Clean initial) where
  refl worker := .of_eq List.prefix_rfl rfl rfl
  trans := Clean.trans
  note worker call := .of_eq (List.prefix_append _ _) rfl rfl
  snapshot := nofun
  message message nowMs worker := by
    obtain ⟨stores, returned⟩ :=
      @stores_handleMessage _ _ initial venue world message nowMs worker
    have logged :=
      (@logged_handleMessage _ _ venue world message nowMs
        worker).keeps_counted
    unfold afterMessage
    revert stores returned logged
    rcases handleMessage venue world message nowMs worker with
      ⟨after, failure | done⟩
    · intro stores _ logged
      dsimp only
      rw [if_pos counts]
      exact
        { counted := logged.trans (List.prefix_append _ _)
          sink := stores.sink
          returned := by
            intro _ _ none
            exact absurd (List.mem_append_right _ (List.mem_singleton.mpr rfl))
              none }
    · intro stores returned logged
      exact
        { counted := logged
          sink := stores.sink
          returned := fun sink before _ => returned rfl sink before }

end Runs

end MarketIngest.Live
