import MarketIngest.LiveRuns

namespace MarketIngest.Live

open Binance (ReconnectPolicy SessionEnd)

/-!
# Accounts of live workers

Every message that a worker takes is accounted for in its statistics.  A text is
received once, and it is either malformed or parsed; the parsed messages of a
text are counted in order, all of them unless the text ends its session.  What
is counted as malformed besides is a broken websocket and, with one venue, a
message that could not be stored or whose bytes are not UTF-8.
-/

variable {Stats Envelope : Type}

section Logs

/-- The input is a message with a text. -/
def Input.isText : Input → Bool
  | .message taken _ => taken.text?.isSome
  | .drafts _ => false

/-- The input is a ping. -/
def Input.isPing : Input → Bool
  | .message .ping _ => true
  | _ => false

/-- The input is a pong. -/
def Input.isPong : Input → Bool
  | .message .pong _ => true
  | _ => false

/-- The input is a close. -/
def Input.isClose : Input → Bool
  | .message .close _ => true
  | _ => false

/-- The parsed messages of a text, if it is understood. -/
def Input.parsed
    (venue : Venue Stats Envelope) : Input → Option (List Envelope)
  | .message taken _ => taken.text?.bind venue.parse
  | .drafts _ => none

/-- The input is a text that is not understood. -/
def Input.isMalformed
    (venue : Venue Stats Envelope)
    (input : Input) : Bool :=
  input.isText && (input.parsed venue).isNone

/-- The parsed messages of an input with their time. -/
def Input.envelopes
    (venue : Venue Stats Envelope) : Input → List (Envelope × Int)
  | .message taken nowMs =>
      ((taken.text?.bind venue.parse).getD []).map fun envelope =>
        (envelope, nowMs)
  | .drafts _ => []

namespace StatsCall

/-- The call counts a received text. -/
def isReceived : StatsCall Envelope → Bool
  | .received => true
  | _ => false

/-- The call counts a malformed message. -/
def isMalformed : StatsCall Envelope → Bool
  | .malformed => true
  | _ => false

/-- The call counts a ping. -/
def isPing : StatsCall Envelope → Bool
  | .ping => true
  | _ => false

/-- The call counts a pong. -/
def isPong : StatsCall Envelope → Bool
  | .pong => true
  | _ => false

/-- The call counts a close. -/
def isClose : StatsCall Envelope → Bool
  | .close => true
  | _ => false

/-- The call reports a connection that was lost for the reason. -/
def isReconnect (reason : String) : StatsCall Envelope → Bool
  | .reconnect lost _ => lost = reason
  | _ => false

/-- The call reports a connection that was lost or that never opened. -/
def isLost : StatsCall Envelope → Bool
  | .reconnect _ _ => true
  | _ => false

/-- The parsed message that the call counts, with its time. -/
def event? : StatsCall Envelope → Option (Envelope × Int)
  | .event envelope detectedAtMs => some (envelope, detectedAtMs)
  | _ => none

end StatsCall

/-- The parsed messages that were counted. -/
def eventsOf (calls : List (StatsCall Envelope)) : List (Envelope × Int) :=
  calls.filterMap StatsCall.event?

/-- The parsed messages of all inputs. -/
def envelopesOf
    (venue : Venue Stats Envelope)
    (inputs : List Input) : List (Envelope × Int) :=
  inputs.flatMap (Input.envelopes venue)

/-- How many malformed messages of a session that ended are not yet reported. -/
def debt (venue : Venue Stats Envelope) : Option SessionEnd → Nat
  | some (.disconnected reason) =>
      if reason = "websocket_error" then
        1
      else if reason = "message_error" ∧ venue.countsMessageErrors then
        1
      else
        0
  | _ => 0

/-- A session that goes on owes nothing. -/
@[simp] theorem debt_none (venue : Venue Stats Envelope) :
    debt venue none = 0 :=
  rfl

/-- The calls account for the inputs; the last session may just have ended. -/
structure Tallies
    (venue : Venue Stats Envelope)
    (inputs : List Input)
    (calls : List (StatsCall Envelope))
    (ended : Option SessionEnd) : Prop where
  received : calls.countP StatsCall.isReceived = inputs.countP Input.isText
  pings : calls.countP StatsCall.isPing = inputs.countP Input.isPing
  pongs : calls.countP StatsCall.isPong = inputs.countP Input.isPong
  closes : calls.countP StatsCall.isClose = inputs.countP Input.isClose
  malformed :
    calls.countP StatsCall.isMalformed =
      inputs.countP (Input.isMalformed venue) +
        calls.countP (StatsCall.isReconnect "websocket_error") +
        (if venue.countsMessageErrors then
          calls.countP (StatsCall.isReconnect "message_error")
        else
          0) +
        debt venue ended
  recorded : (eventsOf calls).Sublist (envelopesOf venue inputs)
  complete :
    calls.countP (StatsCall.isReconnect "message_error") = 0 →
    ended ≠ some (.disconnected "message_error") →
    eventsOf calls = envelopesOf venue inputs

end Logs

section Tallies

variable
  {venue : Venue Stats Envelope}
  {inputs later : List Input}
  {calls others : List (StatsCall Envelope)}
  {ended : Option SessionEnd}
  {reason : String}

/-- Nothing accounts for nothing. -/
theorem tallies_nil :
    Tallies venue [] [] none where
  received := rfl
  pings := rfl
  pongs := rfl
  closes := rfl
  malformed := by
    simp [debt]
  recorded := List.Sublist.slnil
  complete := fun _ _ => rfl

/-- What accounts for two parts accounts for both together. -/
theorem Tallies.append
    (first : Tallies venue inputs calls none)
    (second : Tallies venue later others ended) :
    Tallies venue (inputs ++ later) (calls ++ others) ended where
  received := by
    rw [List.countP_append, List.countP_append, first.received,
      second.received]
  pings := by
    rw [List.countP_append, List.countP_append, first.pings, second.pings]
  pongs := by
    rw [List.countP_append, List.countP_append, first.pongs, second.pongs]
  closes := by
    rw [List.countP_append, List.countP_append, first.closes, second.closes]
  malformed := by
    have one := first.malformed
    have two := second.malformed
    simp only [List.countP_append]
    split at one <;> split at two <;> simp_all <;> omega
  recorded := by
    unfold eventsOf envelopesOf
    rw [List.filterMap_append, List.flatMap_append]
    exact first.recorded.append second.recorded
  complete := by
    intro noErrors going
    rw [List.countP_append] at noErrors
    unfold eventsOf envelopesOf
    rw [List.filterMap_append, List.flatMap_append]
    have one := first.complete (by omega) nofun
    have two := second.complete (by omega) going
    unfold eventsOf envelopesOf at one two
    rw [one, two]

/-- Reporting a lost connection settles what is not yet reported. -/
theorem Tallies.reconnect
    (tallies : Tallies venue inputs calls (some (.disconnected reason)))
    (nowMs : Int) :
    Tallies venue inputs (calls ++ [.reconnect reason nowMs]) none where
  received := by
    rw [List.countP_append, tallies.received]
    rfl
  pings := by
    rw [List.countP_append, tallies.pings]
    rfl
  pongs := by
    rw [List.countP_append, tallies.pongs]
    rfl
  closes := by
    rw [List.countP_append, tallies.closes]
    rfl
  malformed := by
    have before := tallies.malformed
    unfold debt at before
    dsimp only at before
    rw [List.countP_append, List.countP_append, List.countP_append]
    by_cases broken : reason = "websocket_error"
    · subst broken
      rw [if_pos rfl] at before
      simp only [StatsCall.isMalformed, StatsCall.isReconnect, debt, before,
        List.countP_singleton]
      simp
      omega
    · rw [if_neg broken] at before
      by_cases unstored : reason = "message_error"
      · subst unstored
        cases counts : venue.countsMessageErrors <;>
          simpa [StatsCall.isMalformed, StatsCall.isReconnect, debt, counts,
            Nat.add_assoc] using before
      · simpa [StatsCall.isMalformed, StatsCall.isReconnect, debt, broken,
          unstored] using before
  recorded := by
    unfold eventsOf
    rw [List.filterMap_append]
    exact (List.append_nil _).symm ▸ tallies.recorded
  complete := by
    intro noErrors _
    rw [List.countP_append] at noErrors
    have stored : reason ≠ "message_error" := by
      rintro rfl
      simp [StatsCall.isReconnect] at noErrors
    have complete :=
      tallies.complete (by omega) fun ended =>
        stored (by simpa using ended)
    unfold eventsOf at complete ⊢
    rw [List.filterMap_append, complete]
    exact List.append_nil _

/-- Without such a debt the end of a session changes no account. -/
theorem Tallies.settle
    (tallies : Tallies venue inputs calls ended)
    (settled : debt venue ended = 0)
    (stored : ended ≠ some (.disconnected "message_error")) :
    Tallies venue inputs calls none :=
  { tallies with
    malformed := tallies.malformed.trans (congrArg _ settled)
    complete := fun noErrors _ => tallies.complete noErrors stored }

end Tallies

section Steps

variable
  {venue : Venue Stats Envelope}
  {world : SinkWorld}
  {first second third worker : Worker Stats Envelope}
  {ended : Option SessionEnd}
  {nowMs : Int}

/-- What was taken and counted between two points of a run, with its account. -/
def Tallied
    (venue : Venue Stats Envelope)
    (before after : Worker Stats Envelope)
    (ended : Option SessionEnd) : Prop :=
  ∃ inputs calls,
    after.taken = before.taken ++ inputs ∧
      after.counted = before.counted ++ calls ∧
      Tallies venue inputs calls ended

theorem Tallied.refl : Tallied venue worker worker none :=
  ⟨[], [], (List.append_nil _).symm, (List.append_nil _).symm, tallies_nil⟩

theorem Tallied.trans
    (earlier : Tallied venue first second none)
    (later : Tallied venue second third ended) :
    Tallied venue first third ended := by
  obtain ⟨inputs, calls, taken, counted, tallies⟩ := earlier
  obtain ⟨others, more, takenLater, countedLater, talliesLater⟩ := later
  refine ⟨inputs ++ others, calls ++ more, ?_, ?_,
    tallies.append talliesLater⟩
  · rw [takenLater, taken, List.append_assoc]
  · rw [countedLater, counted, List.append_assoc]

/-- A call that counts no message leaves the account as it is. -/
private theorem tallies_neutral
    (call : StatsCall Envelope)
    (neutral : call = .updateHealth ∨ ∃ status, call = .finished status) :
    Tallies venue [] [call] none := by
  obtain rfl | ⟨status, rfl⟩ := neutral <;>
    exact
      { received := rfl
        pings := rfl
        pongs := rfl
        closes := rfl
        malformed := by
          simp [StatsCall.isMalformed, StatsCall.isReconnect, debt]
        recorded := List.Sublist.slnil
        complete := fun _ _ => rfl }

private theorem Tallied.neutral
    (call : StatsCall Envelope)
    (neutral : call = .updateHealth ∨ ∃ status, call = .finished status) :
    Tallied venue worker (worker.note venue call) none :=
  ⟨[], [call], (List.append_nil _).symm, rfl, tallies_neutral call neutral⟩

/-- Reporting a lost connection settles the account of its session. -/
private theorem Tallied.reconnect
    {reason : String}
    (tallied : Tallied venue first second (some (.disconnected reason))) :
    Tallied venue first (second.note venue (.reconnect reason nowMs))
      none := by
  obtain ⟨inputs, calls, taken, counted, tallies⟩ := tallied
  refine ⟨inputs, calls ++ [.reconnect reason nowMs], taken, ?_,
    tallies.reconnect nowMs⟩
  rw [← List.append_assoc, ← counted]
  rfl

private theorem Tallied.settle
    (tallied : Tallied venue first second ended)
    (settled : debt venue ended = 0)
    (stored : ended ≠ some (.disconnected "message_error")) :
    Tallied venue first second none := by
  obtain ⟨inputs, calls, taken, counted, tallies⟩ := tallied
  exact ⟨inputs, calls, taken, counted, tallies.settle settled stored⟩

/-- Snapshots are accounted for without a message. -/
private theorem tallied_snapshots
    (batch : SnapshotBatch) :
    Tallied venue worker (appendAndFlushSnapshots world batch worker)
      none := by
  have drafts (later : Worker Stats Envelope)
      (taken :
        later.taken = worker.taken ++ [.drafts (batch.drafts.map .raw)])
      (counted : later.counted = worker.counted) :
      Tallied venue worker later none :=
    ⟨_, [], taken, counted.trans (List.append_nil _).symm,
      { received := rfl
        pings := rfl
        pongs := rfl
        closes := rfl
        malformed := by
          simp [Input.isMalformed, Input.isText, debt]
        recorded := List.nil_sublist _
        complete := fun _ _ => rfl }⟩
  have frame :=
    Worker.appendAll_frame world (batch.drafts.map .raw)
      (worker.take (.drafts (batch.drafts.map .raw)))
  unfold appendAndFlushSnapshots
  split
  · exact Tallied.refl
  · unfold Worker.appendDrafts
    revert frame
    rcases
      (worker.take (.drafts (batch.drafts.map .raw))).appendAll world
        (batch.drafts.map .raw) with
      ⟨after, failure | done⟩
    · rintro ⟨taken, counted, -⟩
      exact drafts after taken counted
    · rintro ⟨taken, counted, -⟩
      dsimp only
      split
      · have flushed := Worker.flushAll_frame world after
        exact drafts _ (flushed.1.trans taken) (flushed.2.1.trans counted)
      · exact drafts after taken counted

end Steps

section Messages

variable
  (venue : Venue Stats Envelope)
  (world : SinkWorld)
  (nowMs : Int)

/-- The parsed messages are counted in order, all of them unless one fails. -/
private theorem recordEnvelopes_counted
    (envelopes : List Envelope)
    (worker : Worker Stats Envelope) :
    ∃ done,
      (recordEnvelopes venue world nowMs envelopes worker).1.counted =
          worker.counted ++
            (done : List Envelope).map (StatsCall.event · nowMs) ∧
        done <+: envelopes ∧
        ((recordEnvelopes venue world nowMs envelopes worker).2 = .ok () →
          done = envelopes) := by
  induction envelopes generalizing worker with
  | nil =>
      exact ⟨[], (List.append_nil _).symm, List.nil_prefix, fun _ => rfl⟩
  | cons envelope rest inductionHypothesis =>
      have counted :=
        (Worker.appendAll_frame world
          ((venue.drafts envelope nowMs).map .raw) worker).2.1
      unfold recordEnvelopes
      revert counted
      rcases
        worker.appendAll world
          ((venue.drafts envelope nowMs).map .raw) with
        ⟨after, failure | stored⟩
      · intro counted
        refine ⟨[], counted.trans (List.append_nil _).symm, List.nil_prefix,
          ?_⟩
        intro stored
        cases stored
      · intro counted
        obtain ⟨done, later, begun, complete⟩ :=
          inductionHypothesis (after.note venue (.event envelope nowMs))
        refine ⟨envelope :: done, ?_, List.cons_prefix_cons.mpr
          ⟨rfl, begun⟩, fun ok => congrArg _ (complete ok)⟩
        rw [later, List.map_cons]
        change
          (after.counted ++ [StatsCall.event envelope nowMs]) ++ _ = _
        rw [counted, List.append_assoc]
        rfl

variable
  {venue world nowMs}
  {message : Message}
  {content : String}
  {envelopes done : List Envelope}

/-- How a session goes on after a message. -/
private def messageEnd : Except MessageError Unit → Option SessionEnd
  | .ok () => none
  | .error _ => some (.disconnected "message_error")

/-- What is counted after a message that could not be handled. -/
private def messageCalls
    (venue : Venue Stats Envelope) :
    Except MessageError Unit → List (StatsCall Envelope)
  | .ok () => []
  | .error _ => if venue.countsMessageErrors then [.malformed] else []

/-- The events of one text, as they were counted. -/
private theorem eventsOf_text
    (handled : Except MessageError Unit) :
    eventsOf
        (.received ::
          (done.map (StatsCall.event · nowMs) ++
            messageCalls venue handled)) =
      done.map fun envelope => (envelope, nowMs) := by
  have others :
      (messageCalls venue handled).filterMap StatsCall.event? = [] := by
    unfold messageCalls
    split
    · rfl
    · split <;> rfl
  unfold eventsOf
  rw [List.filterMap_cons, List.filterMap_append, List.filterMap_map, others,
    List.append_nil]
  induction done with
  | nil =>
      rfl
  | cons envelope rest inductionHypothesis =>
      exact congrArg _ inductionHypothesis

/-- The parsed messages of one text. -/
private theorem envelopesOf_text
    (text : message.text? = some content)
    (parsed : venue.parse content = some envelopes) :
    envelopesOf venue [.message message nowMs] =
      envelopes.map fun envelope => (envelope, nowMs) := by
  simp [envelopesOf, Input.envelopes, text, parsed]

/-- What counts no event counts a text by what surrounds its events. -/
private theorem countP_text
    (counts : StatsCall Envelope → Bool)
    (others : ∀ envelope, counts (.event envelope nowMs) = false)
    (handled : Except MessageError Unit) :
    (.received ::
        (done.map (StatsCall.event · nowMs) ++
          messageCalls venue handled)).countP counts =
      (messageCalls venue handled).countP counts +
        if counts .received then 1 else 0 := by
  have events : (done.map (StatsCall.event · nowMs)).countP counts = 0 := by
    rw [List.countP_eq_zero]
    intro call counted
    obtain ⟨envelope, -, rfl⟩ := List.mem_map.mp counted
    simp [others]
  rw [List.countP_cons, List.countP_append, events, Nat.zero_add]

/-- What does not count malformed messages counts no failure. -/
private theorem countP_messageCalls
    (counts : StatsCall Envelope → Bool)
    (others : counts .malformed = false)
    (handled : Except MessageError Unit) :
    (messageCalls venue handled).countP counts = 0 := by
  unfold messageCalls
  split
  · rfl
  · split
    · simp [others]
    · rfl

/-- What is neither an event nor a failure is counted once, or never. -/
private theorem countP_others
    (counts : StatsCall Envelope → Bool)
    (events : ∀ envelope, counts (.event envelope nowMs) = false)
    (malformed : counts .malformed = false)
    (handled : Except MessageError Unit) :
    (.received ::
        (done.map (StatsCall.event · nowMs) ++
          messageCalls venue handled)).countP counts =
      if counts .received then 1 else 0 := by
  rw [countP_text counts events, countP_messageCalls counts malformed,
    Nat.zero_add]

/-- A message with a text is no other message. -/
private theorem text_message
    (text : message.text? = some content) :
    Input.isPing (.message message nowMs) = false ∧
      Input.isPong (.message message nowMs) = false ∧
      Input.isClose (.message message nowMs) = false := by
  cases message with
  | ping => cases text
  | pong => cases text
  | close => cases text
  | _ => exact ⟨rfl, rfl, rfl⟩

/-- The account of a text that is understood. -/
private theorem tallies_text
    (text : message.text? = some content)
    (parsed : venue.parse content = some envelopes)
    (begun : done <+: envelopes)
    (handled : Except MessageError Unit)
    (complete : handled = .ok () → done = envelopes) :
    Tallies venue [.message message nowMs]
      (.received ::
        (done.map (StatsCall.event · nowMs) ++ messageCalls venue handled))
      (messageEnd handled) where
  received := by
    rw [countP_others _ (fun _ => rfl) rfl]
    simp [Input.isText, text, StatsCall.isReceived]
  pings := by
    rw [countP_others _ (fun _ => rfl) rfl, List.countP_singleton,
      (text_message text).1]
    rfl
  pongs := by
    rw [countP_others _ (fun _ => rfl) rfl, List.countP_singleton,
      (text_message text).2.1]
    rfl
  closes := by
    rw [countP_others _ (fun _ => rfl) rfl, List.countP_singleton,
      (text_message text).2.2]
    rfl
  malformed := by
    rw [countP_text _ (fun _ => rfl), countP_others _ (fun _ => rfl) rfl,
      countP_others _ (fun _ => rfl) rfl, List.countP_singleton]
    have understood :
        Input.isMalformed venue (.message message nowMs) = false := by
      simp [Input.isMalformed, Input.parsed, text, parsed]
    rw [understood]
    rcases handled with failure | done
    · cases counts : venue.countsMessageErrors <;>
        simp [messageCalls, messageEnd, debt, counts, StatsCall.isMalformed,
          StatsCall.isReconnect]
    · simp [messageCalls, messageEnd, debt, StatsCall.isMalformed,
        StatsCall.isReconnect]
  recorded := by
    rw [eventsOf_text, envelopesOf_text text parsed]
    exact (begun.map _).sublist
  complete := by
    intro _ going
    rw [eventsOf_text, envelopesOf_text text parsed]
    rcases handled with failure | stored
    · exact absurd rfl going
    · rw [complete rfl]

/-- The account of a text that is not understood. -/
private theorem tallies_malformed
    (text : message.text? = some content)
    (parsed : venue.parse content = none) :
    Tallies venue [.message message nowMs] [.received, .malformed] none where
  received := by
    rw [List.countP_singleton, Input.isText, text]
    rfl
  pings := by
    rw [List.countP_singleton, (text_message text).1]
    rfl
  pongs := by
    rw [List.countP_singleton, (text_message text).2.1]
    rfl
  closes := by
    rw [List.countP_singleton, (text_message text).2.2]
    rfl
  malformed := by
    simp [Input.isMalformed, Input.isText, Input.parsed, text, parsed,
      StatsCall.isMalformed, StatsCall.isReconnect, debt]
  recorded := List.nil_sublist _
  complete := by
    intro _ _
    simp [eventsOf, envelopesOf, Input.envelopes, text, parsed,
      StatsCall.event?]

/-- What a message that could not be handled adds to a worker. -/
private theorem afterMessage_frame
    (handled : Worker Stats Envelope × Except MessageError Unit) :
    (afterMessage venue handled).taken = handled.1.taken ∧
      (afterMessage venue handled).counted =
        handled.1.counted ++ messageCalls venue handled.2 := by
  rcases handled with ⟨after, failure | done⟩
  · unfold afterMessage messageCalls
    dsimp only
    split
    · exact ⟨rfl, rfl⟩
    · exact ⟨rfl, (List.append_nil _).symm⟩
  · exact ⟨rfl, (List.append_nil _).symm⟩

/-- A text is accounted for, whatever becomes of it. -/
private theorem tallied_text
    (text : message.text? = some content)
    (worker : Worker Stats Envelope) :
    let handled :=
      recordTextPayload venue world content nowMs
        (worker.take (.message message nowMs))
    Tallied venue worker (afterMessage venue handled)
      (messageEnd handled.2) := by
  intro handled
  have taken : handled.1.taken = worker.taken ++ [.message message nowMs] :=
    recordTextPayload_taken venue world content nowMs
      (worker.take (.message message nowMs))
  obtain ⟨takenAfter, countedAfter⟩ := @afterMessage_frame _ _ venue handled
  cases parsed : venue.parse content with
  | none =>
      have unhandled :
          handled =
            (((worker.take (.message message nowMs)).note venue
                .received).note venue .malformed, .ok ()) := by
        simp only [handled, recordTextPayload, parsed]
      rw [unhandled] at takenAfter countedAfter ⊢
      refine ⟨[.message message nowMs], [.received, .malformed], takenAfter,
        ?_, tallies_malformed text parsed⟩
      exact List.append_assoc _ _ _
  | some envelopes =>
      obtain ⟨done, counted, begun, complete⟩ :=
        recordEnvelopes_counted venue world nowMs envelopes
          ((worker.take (.message message nowMs)).note venue .received)
      have recorded :
          handled =
            recordEnvelopes venue world nowMs envelopes
              ((worker.take (.message message nowMs)).note venue
                .received) := by
        simp only [handled, recordTextPayload, parsed]
      rw [← recorded] at counted complete
      refine ⟨_, _, takenAfter.trans taken, ?_,
        tallies_text text parsed begun handled.2 complete⟩
      rw [countedAfter, counted]
      simp [Worker.note, Worker.take]

/-- Every message is accounted for, whatever becomes of it. -/
theorem tallied_message
    (message : Message)
    (nowMs : Int)
    (worker : Worker Stats Envelope) :
    Tallied venue worker
      (afterMessage venue (handleMessage venue world message nowMs worker))
      (messageEnd (handleMessage venue world message nowMs worker).2) := by
  have other
      (call : StatsCall Envelope)
      (tallies : Tallies venue [.message message nowMs] [call] none) :
      Tallied venue worker
        ((worker.take (.message message nowMs)).note venue call) none :=
    ⟨_, _, rfl, rfl, tallies⟩
  cases message with
  | text content =>
      exact tallied_text rfl worker
  | binary bytes =>
      unfold handleMessage
      dsimp only
      cases text : String.fromUTF8? bytes with
      | some content =>
          exact @tallied_text _ _ venue world nowMs (.binary bytes) content
            text worker
      | none =>
          obtain ⟨taken, counted⟩ :=
            @afterMessage_frame _ _ venue
              (worker.take (.message (.binary bytes) nowMs), .error .utf8)
          refine ⟨_, _, taken, counted, ?_⟩
          exact
            { received := by
                rw [countP_messageCalls _ rfl, List.countP_singleton,
                  Input.isText, Message.text?, text]
                rfl
              pings := countP_messageCalls _ rfl _
              pongs := countP_messageCalls _ rfl _
              closes := countP_messageCalls _ rfl _
              malformed := by
                rw [countP_messageCalls (StatsCall.isReconnect _) rfl,
                  countP_messageCalls (StatsCall.isReconnect _) rfl,
                  List.countP_singleton, Input.isMalformed, Input.isText,
                  Message.text?, text]
                cases counts : venue.countsMessageErrors <;>
                  simp [messageCalls, messageEnd, debt, counts,
                    StatsCall.isMalformed]
              recorded := by
                unfold messageCalls
                dsimp only
                split <;> exact List.nil_sublist _
              complete := fun _ going => absurd rfl going }
  | ping =>
      exact other .ping
        { received := rfl
          pings := rfl
          pongs := rfl
          closes := rfl
          malformed := by
            simp [Input.isMalformed, Input.isText, Message.text?,
              StatsCall.isMalformed, StatsCall.isReconnect, debt]
          recorded := List.nil_sublist _
          complete := fun _ _ => rfl }
  | pong =>
      exact other .pong
        { received := rfl
          pings := rfl
          pongs := rfl
          closes := rfl
          malformed := by
            simp [Input.isMalformed, Input.isText, Message.text?,
              StatsCall.isMalformed, StatsCall.isReconnect, debt]
          recorded := List.nil_sublist _
          complete := fun _ _ => rfl }
  | close =>
      exact other .close
        { received := rfl
          pings := rfl
          pongs := rfl
          closes := rfl
          malformed := by
            simp [Input.isMalformed, Input.isText, Message.text?,
              StatsCall.isMalformed, StatsCall.isReconnect, debt]
          recorded := List.nil_sublist _
          complete := fun _ _ => rfl }
  | frame =>
      have frame :
          Tallies venue [.message .frame nowMs]
            ([] : List (StatsCall Envelope)) none :=
        { received := rfl
          pings := rfl
          pongs := rfl
          closes := rfl
          malformed := by
            simp [Input.isMalformed, Input.isText, Message.text?, debt]
          recorded := List.nil_sublist _
          complete := fun _ _ => rfl }
      exact ⟨_, [], rfl, (List.append_nil _).symm, frame⟩

end Messages

section Sessions

variable
  {venue : Venue Stats Envelope}
  {world : SinkWorld}
  {timers : SessionTimers}
  {worker : Worker Stats Envelope}

/-- A session that ends without a debt has nothing to account for. -/
private theorem Tallied.ended
    {ended : Option SessionEnd}
    (settled : debt venue ended = 0) :
    Tallied venue worker worker ended :=
  ⟨[], [], (List.append_nil _).symm, (List.append_nil _).symm,
    { tallies_nil with
      malformed := by
        simp [settled]
      complete := fun _ _ => rfl }⟩

/-- A broken connection counts as a malformed message. -/
private theorem tallied_broken :
    Tallied venue worker (worker.note venue .malformed)
      (some (.disconnected "websocket_error")) :=
  ⟨[], [.malformed], (List.append_nil _).symm, rfl,
    { received := rfl
      pings := rfl
      pongs := rfl
      closes := rfl
      malformed := by
        simp [StatsCall.isMalformed, StatsCall.isReconnect, debt]
      recorded := List.nil_sublist _
      complete := fun _ _ => rfl }⟩

private theorem tallied_runLog
    (iteration : Iteration)
    (timers : SessionTimers)
    (worker : Worker Stats Envelope) :
    Tallied venue worker (runLog venue iteration timers worker).2 none := by
  unfold runLog
  split
  · exact Tallied.neutral .updateHealth (.inl rfl)
  · exact Tallied.refl

private theorem tallied_runSnapshots
    (iteration : Iteration)
    (timers : SessionTimers)
    (worker : Worker Stats Envelope) :
    Tallied venue worker (runSnapshots world iteration timers worker).2
      none := by
  unfold runSnapshots
  split
  · exact Tallied.refl
  · split
    · exact tallied_snapshots iteration.batch
    · exact Tallied.refl

/-- Housekeeping accounts for what it does; it may end the session. -/
private theorem tallied_runHousekeeping
    (iteration : Iteration)
    (timers : SessionTimers)
    (worker : Worker Stats Envelope) :
    Tallied venue worker
      (runHousekeeping venue world iteration timers worker).1.2
      (runHousekeeping venue world iteration timers worker).2 := by
  unfold runHousekeeping
  split
  · exact Tallied.ended rfl
  · split
    · exact Tallied.ended rfl
    · exact (tallied_runLog iteration _ worker).trans
        (tallied_runSnapshots iteration _ _)

/-- A session accounts for everything that it takes. -/
theorem tallied_runIterations
    {deadline : Nat}
    (iterations : List Iteration) :
    Tallied venue worker
      (runIterations venue world deadline iterations timers worker).1
      (runIterations venue world deadline iterations timers worker).2 := by
  induction iterations generalizing timers worker with
  | nil =>
      exact Tallied.refl
  | cons iteration rest inductionHypothesis =>
      have continued
          (timers : SessionTimers)
          (worker : Worker Stats Envelope) :
          let result :=
            goOn venue world deadline rest
              (runHousekeeping venue world iteration timers worker)
          Tallied venue worker result.1 result.2 := by
        have checked :=
          @tallied_runHousekeeping _ _ venue world iteration timers worker
        revert checked
        rcases runHousekeeping venue world iteration timers worker with
          ⟨⟨later, after⟩, ended | ended⟩
        · intro checked
          exact checked.trans inductionHypothesis
        · intro checked
          exact checked
      unfold runIterations
      split
      · exact Tallied.ended rfl
      · split
        · exact Tallied.ended rfl
        · cases iteration.arrival with
          | error =>
              exact tallied_broken
          | ended =>
              exact Tallied.ended rfl
          | elapsed =>
              exact continued timers worker
          | message message arrivedAt nowMs =>
              have handled :=
                @tallied_message _ _ venue world message nowMs worker
              dsimp only [pollSession]
              revert handled
              rcases handleMessage venue world message nowMs worker with
                ⟨after, failure | done⟩
              · intro handled
                exact handled
              · intro handled
                exact handled.trans
                  (continued { timers with lastMessageAt := arrivedAt } after)

end Sessions

section Rounds

variable
  {venue : Venue Stats Envelope}
  {world : SinkWorld}
  {policy : ReconnectPolicy}
  {config : SessionConfig}

private theorem Tallied.finish
    (watch : Watch Stats Envelope)
    (status : String) :
    Tallied venue watch.worker (watch.finish venue status).worker none :=
  (Tallied.neutral (.finished status) (.inr ⟨status, rfl⟩)).trans
    (Tallied.neutral .updateHealth (.inl rfl))

/-- A connection that never opened leaves nothing to account for. -/
private theorem tallied_failed
    (watch : Watch Stats Envelope)
    (reason : String)
    (settled : debt venue (some (.disconnected reason)) = 0)
    (nowMs : Int) :
    Tallied venue watch.worker
      (watch.reconnect venue policy reason nowMs).worker none :=
  Tallied.reconnect (Tallied.ended settled)

/-- A run accounts for everything that it takes. -/
theorem tallied_watchRounds
    (rounds : List Round)
    (watch : Watch Stats Envelope) :
    Tallied venue watch.worker
      (watchRounds venue world policy config rounds watch).1.worker none := by
  induction rounds generalizing watch with
  | nil =>
      exact Tallied.refl
  | cons round rest inductionHypothesis =>
      unfold watchRounds
      split
      · exact Tallied.finish watch _
      · split
        · exact Tallied.finish watch _
        · cases round.connection with
          | connectFailed =>
              exact (tallied_failed watch _ rfl _).trans
                (inductionHypothesis _)
          | subscribeFailed =>
              exact (tallied_failed watch _ rfl _).trans
                (inductionHypothesis _)
          | opened startedAt iterations =>
              have session :
                  Tallied venue watch.worker
                    (runSession venue world config startedAt iterations
                      watch.worker).1
                    (runSession venue world config startedAt iterations
                      watch.worker).2 :=
                tallied_runIterations iterations
              dsimp only
              revert session
              rcases
                runSession venue world config startedAt iterations
                  watch.worker with
                ⟨after, ended | ended⟩
              · intro session
                exact session
              · intro session
                cases ended with
                | shutdownRequested =>
                    exact (session.settle rfl fun lost => by cases lost).trans
                      (Tallied.finish { watch with worker := after } _)
                | deadlineReached =>
                    exact (session.settle rfl fun lost => by cases lost).trans
                      (Tallied.finish { watch with worker := after } _)
                | disconnected reason =>
                    exact session.reconnect.trans (inductionHypothesis _)

end Rounds

end MarketIngest.Live
