import MarketIngest.ObjectKeys
import MarketIngest.Runs
import MarketIngest.TaggedCell
import MarketIngest.TextSearch
import Mathlib.Logic.Function.Basic

namespace MarketIngest.PointerUpload

open Normalize TaggedCell

/-!
# Guarded uploads of a pointer

A call asks for the tag of the pointer and then puts its own content, on the
condition that the tag has not changed, or that there is still no pointer.  A
failed request is sent again with the tag that was read at first.  A request can
reach the store late, more than once, or after its call has returned, and a
success can be lost on the way back.
-/

variable {Content : Type}

/-- How often a request is sent. -/
def maxPutObjectAttempts : Nat :=
  4

/-- Codes for objects that are not there. -/
def isNotFoundCode (code : String) : Bool :=
  code = "404" || code = "NoSuchKey" || code = "NotFound"

/-- Texts for objects that are not there. -/
def isNotFoundMessage (message : String) : Bool :=
  Text.contains message "NoSuchKey" || Text.contains message "NotFound" ||
    Text.contains message "404"

/-- The error says that the object is not there. -/
def isNotFoundHeadError (code : Option String) (message : String) : Bool :=
  code.any isNotFoundCode || isNotFoundMessage message

/-- Codes of failures after which a request is sent again. -/
def isRetryablePutObjectCode (code : String) : Bool :=
  ["unknown", "InternalError", "RequestTimeout", "ServiceUnavailable",
      "SlowDown", "Throttling", "ThrottlingException",
      "TooManyRequestsException"].contains code ||
    Text.startsWith code "5"

/-- The code of a failure. -/
def failureCode (code : Option String) : String :=
  (code.filter fun text => text ≠ "").getD "unknown"

/-- The answer to the question for a tag. -/
inductive HeadAnswer where
  /-- The store answers, with a tag or that there is nothing. -/
  | answered
  /-- The store answers without a tag. -/
  | withoutEtag
  | failed (code : Option String) (message : String)
  deriving Repr, DecidableEq

/-- The tag of the pointer, if there is one. -/
def headEtag
    (etag : Content → String)
    (current : Option Content) :
    HeadAnswer → Except Unit (Option String)
  | .answered => .ok (current.map etag)
  | .withoutEtag => .ok none
  | .failed code message =>
      if isNotFoundHeadError code message then .ok none else .error ()

/-- What a request asks of the store. -/
def putGuard
    (expectedEtag : Option String)
    (contentType key : String) : Guard String :=
  match expectedEtag with
  | some etag => .holds etag
  | none =>
      if contentType = "application/json" &&
          Text.startsWith key "l1_index/" then
        .absent
      else
        .always

/-- A request to store a content. -/
structure PutRequest (Content : Type) where
  call : Nat
  attempt : Nat
  guard : Guard String
  content : Content

/-- The write of a request. -/
def PutRequest.write
    (request : PutRequest Content) : GuardedWrite Content String :=
  ⟨request.guard, request.content⟩

/-- How far a call is. -/
inductive CallPhase where
  | idle
  | putting (expectedEtag : Option String) (attempt : Nat) (sent : Bool)
  | returned (ok : Bool)
  deriving Repr, DecidableEq

/-- What a call has read, and after how many writes. -/
structure HeadRecord where
  position : Nat
  observed : Option String
  answered : Bool
  deriving Repr, DecidableEq

/-- The accepted requests, the requests on the way, and the calls. -/
structure PointerState (Content : Type) where
  writes : List (PutRequest Content)
  sent : List (PutRequest Content)
  phase : Nat → CallPhase
  heads : Nat → Option HeadRecord

/-- The answer to a request, as the call gets it. -/
inductive PutResponse where
  | ok
  | failed (code : Option String)
  deriving Repr, DecidableEq

/-- What can happen. -/
inductive PointerAction where
  /-- A guarded call reads the tag. -/
  | head (call : Nat) (answer : HeadAnswer)
  /-- A call of the upload without a tag begins. -/
  | uploadJson (call : Nat)
  | send (call : Nat)
  /-- A request reaches the store. -/
  | deliver (index : Nat)
  | respond (call : Nat) (response : PutResponse)
  deriving Repr, DecidableEq

/-- The versions of the pointer are those of the accepted requests. -/
def PointerState.cell
    (state : PointerState Content) : List (GuardedWrite Content String) :=
  state.writes.map PutRequest.write

/-- Nothing has happened. -/
def PointerState.initial : PointerState Content where
  writes := []
  sent := []
  phase := fun _ => .idle
  heads := fun _ => none

variable
  (etag : Content → String)
  (contents : Nat → Content)
  (key : String)
  (initial : Option Content)

/-- One thing happens. -/
def stepPointer
    (state : PointerState Content) :
    PointerAction → PointerState Content
  | .head call answer =>
      match state.phase call with
      | .idle =>
          match headEtag etag (newest initial state.cell) answer with
          | .error () =>
              { state with
                phase := Function.update state.phase call (.returned false) }
          | .ok observed =>
              { state with
                phase :=
                  Function.update state.phase call
                    (.putting observed 1 false)
                heads :=
                  Function.update state.heads call
                    (some
                      ⟨state.writes.length, observed,
                        answer = .answered⟩) }
      | _ => state
  | .uploadJson call =>
      match state.phase call with
      | .idle =>
          { state with
            phase :=
              Function.update state.phase call (.putting none 1 false) }
      | _ => state
  | .send call =>
      match state.phase call with
      | .putting expectedEtag attempt false =>
          { state with
            sent :=
              state.sent ++
                [{ call := call
                   attempt := attempt
                   guard := putGuard expectedEtag "application/json" key
                   content := contents call }]
            phase :=
              Function.update state.phase call
                (.putting expectedEtag attempt true) }
      | _ => state
  | .deliver index =>
      match state.sent[index]? with
      | some request =>
          if request.guard.admits etag (newest initial state.cell) then
            { state with writes := state.writes ++ [request] }
          else
            state
      | none => state
  | .respond call response =>
      match state.phase call with
      | .putting expectedEtag attempt true =>
          match response with
          | .ok =>
              if state.writes.any (fun request =>
                  request.call = call ∧ request.attempt = attempt) then
                { state with
                  phase :=
                    Function.update state.phase call (.returned true) }
              else
                state
          | .failed code =>
              if maxPutObjectAttempts ≤ attempt ||
                  !isRetryablePutObjectCode (failureCode code) then
                { state with
                  phase :=
                    Function.update state.phase call (.returned false) }
              else
                { state with
                  phase :=
                    Function.update state.phase call
                      (.putting expectedEtag (attempt + 1) false) }
      | _ => state

section Invariant

variable
  {etag : Content → String}
  {contents : Nat → Content}
  {key : String}
  {initial : Option Content}
  {state : PointerState Content}

/-- The tag that the requests of a call ask for. -/
def expectedOf (heads : Nat → Option HeadRecord) (call : Nat) :
    Option String :=
  (heads call).bind HeadRecord.observed

/-- Requests ask for what their calls have read. -/
structure PointerInv
    (etag : Content → String)
    (contents : Nat → Content)
    (key : String)
    (initial : Option Content)
    (state : PointerState Content) : Prop where
  admitted : Admitted etag initial state.cell
  idle :
    ∀ call,
      state.phase call = .idle →
        state.heads call = none ∧
          ∀ request ∈ state.sent, request.call ≠ call
  putting :
    ∀ call expectedEtag attempt sent,
      state.phase call = .putting expectedEtag attempt sent →
        expectedEtag = expectedOf state.heads call
  requests :
    ∀ request ∈ state.sent,
      request.guard =
          putGuard (expectedOf state.heads request.call) "application/json"
            key ∧
        request.content = contents request.call
  written : ∀ request ∈ state.writes, request ∈ state.sent
  heads :
    ∀ call record,
      state.heads call = some record →
        record.position ≤ state.writes.length ∧
          (record.answered = true →
            record.observed =
              (versionAt initial state.cell record.position).map etag)
  ordered :
    ∀ index request record,
      state.writes[index]? = some request →
      state.heads request.call = some record →
        record.position ≤ index
  returned :
    ∀ call,
      state.phase call = .returned true →
        ∃ request ∈ state.writes, request.call = call

/-- Calls that only change their phase keep the invariant. -/
private theorem PointerInv.setPhase
    (holds : PointerInv etag contents key initial state)
    {call : Nat}
    {phase : CallPhase}
    (notIdle : phase ≠ .idle)
    (putting :
      ∀ expectedEtag attempt sent,
        phase = .putting expectedEtag attempt sent →
          expectedEtag = expectedOf state.heads call)
    (returned :
      phase = .returned true →
        ∃ request ∈ state.writes, request.call = call) :
    PointerInv etag contents key initial
      { state with phase := Function.update state.phase call phase } where
  admitted := holds.admitted
  idle := by
    intro other isIdle
    dsimp only at isIdle ⊢
    by_cases same : other = call
    · subst same
      rw [Function.update_self] at isIdle
      exact absurd isIdle notIdle
    · rw [Function.update_of_ne same] at isIdle
      exact holds.idle other isIdle
  putting := by
    intro other expectedEtag attempt sent isPutting
    dsimp only at isPutting ⊢
    by_cases same : other = call
    · subst same
      rw [Function.update_self] at isPutting
      exact putting expectedEtag attempt sent isPutting
    · rw [Function.update_of_ne same] at isPutting
      exact holds.putting other expectedEtag attempt sent isPutting
  requests := holds.requests
  written := holds.written
  heads := holds.heads
  ordered := holds.ordered
  returned := by
    intro other isReturned
    dsimp only at isReturned ⊢
    by_cases same : other = call
    · subst same
      rw [Function.update_self] at isReturned
      exact returned isReturned
    · rw [Function.update_of_ne same] at isReturned
      exact holds.returned other isReturned

/-- A read tag is that of the newest version. -/
private theorem PointerInv.setHead
    (holds : PointerInv etag contents key initial state)
    {call : Nat}
    (isIdle : state.phase call = .idle)
    {answer : HeadAnswer}
    {observed : Option String}
    (read :
      headEtag etag (newest initial state.cell) answer = .ok observed) :
    PointerInv etag contents key initial
      { state with
        phase :=
          Function.update state.phase call (.putting observed 1 false)
        heads :=
          Function.update state.heads call
            (some
              ⟨state.writes.length, observed, answer = .answered⟩) } := by
  obtain ⟨_, unsent⟩ := holds.idle call isIdle
  have other
      {request : PutRequest Content}
      (isSent : request ∈ state.sent) :
      Function.update state.heads call
          (some ⟨state.writes.length, observed, answer = .answered⟩)
          request.call =
        state.heads request.call :=
    Function.update_of_ne (unsent request isSent) _ _
  exact
    { admitted := holds.admitted
      idle := by
        intro later laterIdle
        dsimp only at laterIdle ⊢
        by_cases same : later = call
        · subst same
          rw [Function.update_self] at laterIdle
          cases laterIdle
        · rw [Function.update_of_ne same] at laterIdle
          rw [Function.update_of_ne same]
          exact holds.idle later laterIdle
      putting := by
        intro later expectedEtag attempt sent isPutting
        dsimp only at isPutting ⊢
        unfold expectedOf
        by_cases same : later = call
        · subst same
          rw [Function.update_self] at isPutting ⊢
          obtain ⟨rfl, _, _⟩ := CallPhase.putting.inj isPutting
          rfl
        · rw [Function.update_of_ne same] at isPutting ⊢
          exact holds.putting later expectedEtag attempt sent isPutting
      requests := by
        intro request isSent
        dsimp only at isSent ⊢
        unfold expectedOf
        rw [other isSent]
        exact holds.requests request isSent
      written := holds.written
      heads := by
        intro later record found
        dsimp only at found ⊢
        by_cases same : later = call
        · subst same
          rw [Function.update_self] at found
          obtain rfl := Option.some.inj found
          refine ⟨le_rfl, ?_⟩
          intro isAnswered
          obtain rfl := of_decide_eq_true isAnswered
          obtain rfl := Except.ok.inj read
          rw [newest, PointerState.cell, List.length_map]
          rfl
        · rw [Function.update_of_ne same] at found
          exact holds.heads later record found
      ordered := by
        intro index request record found isHead
        dsimp only at found isHead ⊢
        rw [other (holds.written request (List.mem_of_getElem? found))]
          at isHead
        exact holds.ordered index request record found isHead
      returned := by
        intro later isReturned
        dsimp only at isReturned ⊢
        by_cases same : later = call
        · subst same
          rw [Function.update_self] at isReturned
          cases isReturned
        · rw [Function.update_of_ne same] at isReturned
          exact holds.returned later isReturned }

/-- A request asks for what its call has read. -/
private theorem PointerInv.addSent
    (holds : PointerInv etag contents key initial state)
    {call attempt : Nat}
    {expectedEtag : Option String}
    (isPutting : state.phase call = .putting expectedEtag attempt false) :
    PointerInv etag contents key initial
      { state with
        sent :=
          state.sent ++
            [{ call := call
               attempt := attempt
               guard := putGuard expectedEtag "application/json" key
               content := contents call }] } where
  admitted := holds.admitted
  idle := by
    intro other isIdle
    dsimp only at isIdle ⊢
    obtain ⟨noHead, unsent⟩ := holds.idle other isIdle
    refine ⟨noHead, ?_⟩
    intro request member
    rcases List.mem_append.mp member with earlier | isNew
    · exact unsent request earlier
    · obtain rfl := List.mem_singleton.mp isNew
      rintro rfl
      rw [isPutting] at isIdle
      cases isIdle
  putting := holds.putting
  requests := by
    intro request member
    dsimp only at member ⊢
    rcases List.mem_append.mp member with earlier | isNew
    · exact holds.requests request earlier
    · obtain rfl := List.mem_singleton.mp isNew
      rw [holds.putting call expectedEtag attempt false isPutting]
      exact ⟨rfl, rfl⟩
  written := fun request member =>
    List.mem_append_left _ (holds.written request member)
  heads := holds.heads
  ordered := holds.ordered
  returned := holds.returned

/-- The store admits a request that has been sent. -/
private theorem PointerInv.addWrite
    (holds : PointerInv etag contents key initial state)
    {request : PutRequest Content}
    (isSent : request ∈ state.sent)
    (admits :
      request.guard.admits etag (newest initial state.cell) = true) :
    PointerInv etag contents key initial
      { state with writes := state.writes ++ [request] } where
  admitted := by
    unfold PointerState.cell
    rw [List.map_append]
    exact holds.admitted.snoc admits
  idle := holds.idle
  putting := holds.putting
  requests := holds.requests
  written := by
    intro other member
    rcases List.mem_append.mp member with earlier | isNew
    · exact holds.written other earlier
    · rw [List.mem_singleton.mp isNew]
      exact isSent
  heads := by
    intro call record found
    obtain ⟨bounded, observed⟩ := holds.heads call record found
    dsimp only
    rw [List.length_append]
    refine ⟨bounded.trans (Nat.le_add_right _ _), ?_⟩
    intro isAnswered
    rw [observed isAnswered, PointerState.cell, PointerState.cell,
      List.map_append, versionAt_append]
    rw [List.length_map]
    exact bounded
  ordered := by
    intro index other record found isHead
    dsimp only at found isHead
    rcases Nat.lt_or_ge index state.writes.length with before | after
    · rw [List.getElem?_append_left before] at found
      exact holds.ordered index other record found isHead
    · exact (holds.heads other.call record isHead).1.trans after
  returned := by
    intro call isReturned
    obtain ⟨own, member, isCall⟩ := holds.returned call isReturned
    exact ⟨own, List.mem_append_left _ member, isCall⟩

/-- Everything that happens keeps the invariant. -/
private theorem stepPointer_keeps
    (holds : PointerInv etag contents key initial state)
    (action : PointerAction) :
    PointerInv etag contents key initial
      (stepPointer etag contents key initial state action) := by
  have returnsFalse (call : Nat) :
      PointerInv etag contents key initial
        { state with
          phase := Function.update state.phase call (.returned false) } :=
    holds.setPhase CallPhase.noConfusion (fun _ _ _ isPutting =>
      CallPhase.noConfusion isPutting) (fun returned => by cases returned)
  have putsOn
      (call attempt : Nat)
      (sent : Bool)
      {expectedEtag : Option String}
      (reads : expectedEtag = expectedOf state.heads call) :
      PointerInv etag contents key initial
        { state with
          phase :=
            Function.update state.phase call
              (.putting expectedEtag attempt sent) } := by
    refine holds.setPhase CallPhase.noConfusion ?_
      (fun returned => by cases returned)
    intro laterEtag laterAttempt laterSent isPutting
    rw [← (CallPhase.putting.inj isPutting).1]
    exact reads
  cases action with
  | head call answer =>
      cases phase : state.phase call with
      | idle =>
          cases read : headEtag etag (newest initial state.cell) answer with
          | error failed =>
              simp only [stepPointer, phase, read]
              exact returnsFalse call
          | ok observed =>
              simp only [stepPointer, phase, read]
              exact holds.setHead phase read
      | putting expectedEtag attempt sent =>
          simp only [stepPointer, phase]
          exact holds
      | returned ok =>
          simp only [stepPointer, phase]
          exact holds
  | uploadJson call =>
      cases phase : state.phase call with
      | idle =>
          simp only [stepPointer, phase]
          apply putsOn
          rw [expectedOf, (holds.idle call phase).1]
          rfl
      | putting expectedEtag attempt sent =>
          simp only [stepPointer, phase]
          exact holds
      | returned ok =>
          simp only [stepPointer, phase]
          exact holds
  | send call =>
      cases phase : state.phase call with
      | idle =>
          simp only [stepPointer, phase]
          exact holds
      | putting expectedEtag attempt sent =>
          cases sent with
          | true =>
              simp only [stepPointer, phase]
              exact holds
          | false =>
              simp only [stepPointer, phase]
              refine
                (holds.addSent phase).setPhase CallPhase.noConfusion ?_
                  (fun returned => by cases returned)
              intro laterEtag laterAttempt sent isPutting
              rw [← (CallPhase.putting.inj isPutting).1]
              exact holds.putting call _ _ _ phase
      | returned ok =>
          simp only [stepPointer, phase]
          exact holds
  | deliver index =>
      cases found : state.sent[index]? with
      | none =>
          simp only [stepPointer, found]
          exact holds
      | some request =>
          simp only [stepPointer, found]
          split_ifs with admits
          · exact holds.addWrite (List.mem_of_getElem? found) admits
          · exact holds
  | respond call response =>
      cases phase : state.phase call with
      | idle =>
          simp only [stepPointer, phase]
          exact holds
      | returned ok =>
          simp only [stepPointer, phase]
          exact holds
      | putting expectedEtag attempt sent =>
          cases sent with
          | false =>
              simp only [stepPointer, phase]
              exact holds
          | true =>
              cases response with
              | ok =>
                  simp only [stepPointer, phase]
                  split_ifs with accepted
                  · refine holds.setPhase CallPhase.noConfusion
                      (fun _ _ _ isPutting =>
                        CallPhase.noConfusion isPutting) ?_
                    intro _
                    obtain ⟨request, member, own⟩ :=
                      List.any_eq_true.mp accepted
                    exact ⟨request, member, (of_decide_eq_true own).1⟩
                  · exact holds
              | failed code =>
                  simp only [stepPointer, phase]
                  split_ifs
                  · exact returnsFalse call
                  · exact
                      putsOn call _ _
                        (holds.putting call _ _ _ phase)

/-- The invariant holds whatever happens. -/
private theorem pointerInv_run
    (actions : List PointerAction) :
    PointerInv etag contents key initial
      (Runs.run (stepPointer etag contents key initial) .initial
        actions) := by
  refine Runs.run_induction actions ?_ ?_
  · exact
      { admitted := fun index write found => nomatch found
        idle := fun call _ =>
          ⟨rfl, fun request member => absurd member List.not_mem_nil⟩
        putting := fun call expectedEtag attempt sent isPutting =>
          nomatch isPutting
        requests := fun request member => absurd member List.not_mem_nil
        written := fun request member => absurd member List.not_mem_nil
        heads := fun call record found => nomatch found
        ordered := fun index request record found => nomatch found
        returned := fun call isReturned => nomatch isReturned }
  · intro state action holds
    exact stepPointer_keeps holds action

end Invariant

section Results

variable
  {etag : Content → String}
  {contents : Nat → Content}
  {initial : Option Content}

/-- Pointer writes compare and swap, up to versions with one tag. -/
structure ComparesAndSwaps
    (etag : Content → String)
    (contents : Nat → Content)
    (initial : Option Content)
    (state : PointerState Content) : Prop where
  /-- An accepted request replaces a version with the tag, or the absence, that
  its call has read. -/
  replaces :
    ∀ index request record,
      state.writes[index]? = some request →
      state.heads request.call = some record →
        (versionAt initial state.cell index).map etag = record.observed
  /-- It is the very version that was read, unless its tag was stored again in
  between. -/
  sameVersion :
    ∀ index request record,
      state.writes[index]? = some request →
      state.heads request.call = some record →
        record.position = index ∨
          ∃ between again,
            record.position ≤ between ∧ between < index ∧
              state.writes[between]? = some again ∧
              some (etag again.content) = record.observed
  /-- What was read was the version of that time. -/
  truthful :
    ∀ call record,
      state.heads call = some record →
      record.answered = true →
        record.observed =
          (versionAt initial state.cell record.position).map etag
  /-- Of requests whose calls have read the same only one is accepted, unless
  what they have read is stored again in between. -/
  onlyOne :
    ∀ (earlier later : Nat) (first second : PutRequest Content)
      (firstRecord secondRecord : HeadRecord),
      earlier < later →
      state.writes[earlier]? = some first →
      state.writes[later]? = some second →
      state.heads first.call = some firstRecord →
      state.heads second.call = some secondRecord →
      firstRecord.observed = secondRecord.observed →
        ∃ (between : Nat) (again : PutRequest Content),
          earlier ≤ between ∧ between < later ∧
            state.writes[between]? = some again ∧
            some (etag again.content) = secondRecord.observed
  /-- A call that returns without an error has stored its content. -/
  returns :
    ∀ call,
      state.phase call = .returned true →
        ∃ request ∈ state.writes,
          request.call = call ∧ request.content = contents call

/-- A request for a pointer asks for a tag or for its absence. -/
private theorem putGuard_pointer
    (windowMs windowStartMs : Int)
    (expectedEtag : Option String) :
    putGuard expectedEtag "application/json"
        (indexPointerKey windowMs windowStartMs) =
      match expectedEtag with
      | some etag => .holds etag
      | none => .absent := by
  cases expectedEtag with
  | some etag => rfl
  | none =>
      have below :
          Text.startsWith (indexPointerKey windowMs windowStartMs)
            "l1_index/" = true := by
        unfold indexPointerKey
        exact Text.startsWith_append (by decide) _
      simp [putGuard, below]

/--
Whatever happens to calls that upload one pointer, their accepted requests
compare and swap by tag.
-/
theorem pointerPuts_compareAndSwap
    (windowMs windowStartMs : Int)
    (etag : Content → String)
    (contents : Nat → Content)
    (initial : Option Content)
    (actions : List PointerAction) :
    ComparesAndSwaps etag contents initial
      (Runs.run
        (stepPointer etag contents (indexPointerKey windowMs windowStartMs)
          initial)
        .initial actions) := by
  have holds :=
    @pointerInv_run _ etag contents (indexPointerKey windowMs windowStartMs)
      initial actions
  generalize Runs.run _ PointerState.initial actions = state at holds ⊢
  have asks
      {index : Nat}
      {request : PutRequest Content}
      {record : HeadRecord}
      (found : state.writes[index]? = some request)
      (isHead : state.heads request.call = some record) :
      request.guard =
        match record.observed with
        | some tag => .holds tag
        | none => .absent := by
    have isSent := holds.written request (List.mem_of_getElem? found)
    rw [(holds.requests request isSent).1, putGuard_pointer, expectedOf,
      isHead, Option.bind_some]
  have inCell
      {index : Nat}
      {request : PutRequest Content}
      (found : state.writes[index]? = some request) :
      state.cell[index]? = some request.write := by
    rw [PointerState.cell, List.getElem?_map, found, Option.map_some]
  have replaces
      {index : Nat}
      {request : PutRequest Content}
      {record : HeadRecord}
      (found : state.writes[index]? = some request)
      (isHead : state.heads request.call = some record) :
      (versionAt initial state.cell index).map etag = record.observed := by
    have guard := asks found isHead
    cases observed : record.observed with
    | some tag =>
        rw [observed] at guard
        exact holds.admitted.tag_eq (inCell found) guard
    | none =>
        rw [observed] at guard
        obtain ⟨first, empty⟩ := holds.admitted.absent (inCell found) guard
        rw [first, versionAt, empty, Option.map_none]
  have storedAgain
      {index position : Nat}
      {request : PutRequest Content}
      {record : HeadRecord}
      (found : state.writes[index]? = some request)
      (isHead : state.heads request.call = some record)
      (seen : position ≤ index) :
      position = index ∨
        ∃ (between : Nat) (again : PutRequest Content),
          position ≤ between ∧ between < index ∧
            state.writes[between]? = some again ∧
            some (etag again.content) = record.observed := by
    have guard := asks found isHead
    cases observed : record.observed with
    | some tag =>
        rw [observed] at guard
        rcases holds.admitted.same_version (inCell found) guard seen with
          same | ⟨between, again, after, before, isWrite, sameTag⟩
        · exact .inl same
        · rw [PointerState.cell, List.getElem?_map,
            Option.map_eq_some_iff] at isWrite
          obtain ⟨other, isOther, rfl⟩ := isWrite
          exact
            .inr ⟨between, other, after, before, isOther,
              congrArg some sameTag⟩
    | none =>
        rw [observed] at guard
        obtain ⟨first, _⟩ := holds.admitted.absent (inCell found) guard
        exact .inl (by omega)
  exact
    { replaces := fun index request record found isHead =>
        replaces found isHead
      sameVersion := fun index request record found isHead =>
        storedAgain found isHead
          (holds.ordered index request record found isHead)
      truthful := fun call record found =>
        (holds.heads call record found).2
      onlyOne := by
        intro earlier later first second firstRecord secondRecord before
          _ isSecond _ secondHead _
        exact
          (storedAgain isSecond secondHead before.le).resolve_left before.ne
      returns := by
        intro call isReturned
        obtain ⟨request, member, isCall⟩ := holds.returned call isReturned
        refine ⟨request, member, isCall, ?_⟩
        rw [(holds.requests request (holds.written request member)).2,
          isCall] }

end Results

section Sample

/-- No two accepted requests replace one version that their calls have read. -/
def AcceptsOneObserver (state : PointerState String) : Prop :=
  ∀ first ∈ state.writes, ∀ second ∈ state.writes,
    first.content ≠ second.content →
      ∀ firstRecord secondRecord : HeadRecord,
        state.heads first.call = some firstRecord →
        state.heads second.call = some secondRecord →
          firstRecord.position ≠ secondRecord.position

/-- Two calls read one version; between their writes a third call stores its
content again. -/
def restoredPointer : PointerState String :=
  Runs.run
    (stepPointer (fun content => content)
      (fun call => ["B", "C", "A"].getD call "") (indexPointerKey 1000 0)
      (some "A"))
    .initial
    [.head 0 .answered, .head 1 .answered, .send 0, .deliver 0,
      .respond 0 .ok, .head 2 .answered, .send 2, .deliver 1,
      .respond 2 .ok, .send 1, .deliver 2, .respond 1 .ok]

/-- Both calls that have read one version are accepted. -/
theorem restoredPointer_accepts_both :
    ¬ AcceptsOneObserver restoredPointer := by
  intro acceptsOne
  have first :
      ∃ request ∈ restoredPointer.writes,
        request.content = "B" ∧ request.call = 0 :=
    ⟨_, List.mem_of_getElem? (i := 0) rfl, rfl, rfl⟩
  have second :
      ∃ request ∈ restoredPointer.writes,
        request.content = "C" ∧ request.call = 1 :=
    ⟨_, List.mem_of_getElem? (i := 2) rfl, rfl, rfl⟩
  obtain ⟨one, isOne, isB, isFirst⟩ := first
  obtain ⟨other, isOther, isC, isSecond⟩ := second
  exact
    acceptsOne one isOne other isOther (by rw [isB, isC]; decide)
      ⟨0, some "A", true⟩ ⟨0, some "A", true⟩ (by rw [isFirst]; rfl)
      (by rw [isSecond]; rfl) rfl

end Sample

end MarketIngest.PointerUpload
