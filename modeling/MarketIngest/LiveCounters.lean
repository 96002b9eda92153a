import MarketIngest.FoldCounts
import MarketIngest.LiveAccounts

namespace MarketIngest.Live

open Binance (ReconnectPolicy)

/-!
# Counters of live workers

The counters of both venues are sums over what their websockets delivered.  The
venues differ in whether a close is a control message, and in the parsed
messages that count as malformed because they are of no known kind.
-/

variable {Stats Envelope State : Type}

/-- What the statistics of both venues count. -/
structure Counters where
  received : Nat
  parsed : Nat
  malformed : Nat
  controls : Nat
  pings : Nat
  pongs : Nat
  closes : Nat
  reconnects : Nat
  kinds : OrderedMap String Nat
  symbols : OrderedMap String Nat

/-- How a venue counts. -/
structure Counting (Envelope : Type) where
  kind : Envelope → String
  symbol : Envelope → Option String
  unknown : Envelope → Bool
  closesControl : Bool

namespace Counters

/-- Before anything was counted. -/
def zero : Counters where
  received := 0
  parsed := 0
  malformed := 0
  controls := 0
  pings := 0
  pongs := 0
  closes := 0
  reconnects := 0
  kinds := .empty
  symbols := .empty

/-- Count what a worker does to its statistics. -/
def count
    (counting : Counting Envelope)
    (counters : Counters) : StatsCall Envelope → Counters
  | .received => { counters with received := counters.received + 1 }
  | .malformed => { counters with malformed := counters.malformed + 1 }
  | .ping =>
      { counters with
        controls := counters.controls + 1
        pings := counters.pings + 1 }
  | .pong =>
      { counters with
        controls := counters.controls + 1
        pongs := counters.pongs + 1 }
  | .close =>
      { counters with
        controls :=
          counters.controls + if counting.closesControl then 1 else 0
        closes := counters.closes + 1 }
  | .event envelope _ =>
      { counters with
        parsed := counters.parsed + 1
        malformed :=
          counters.malformed + if counting.unknown envelope then 1 else 0
        kinds := countOne counters.kinds (counting.kind envelope)
        symbols :=
          match counting.symbol envelope with
          | some symbol => countOne counters.symbols symbol
          | none => counters.symbols }
  | .reconnect _ _ => { counters with reconnects := counters.reconnects + 1 }
  | .updateHealth => counters
  | .finished _ => counters

end Counters

section Events

/-- The call counts a parsed message of the kind in question. -/
def countsEvent
    (asked : Envelope → Bool)
    (call : StatsCall Envelope) : Bool :=
  call.event?.any fun entry => asked entry.1

/-- How many parsed messages of a kind were counted. -/
def eventCount
    (asked : Envelope → Bool)
    (calls : List (StatsCall Envelope)) : Nat :=
  (eventsOf calls).countP fun entry => asked entry.1

variable
  (asked : Envelope → Bool)
  (calls : List (StatsCall Envelope))

/-- The calls that count a message of a kind are its messages. -/
theorem countP_countsEvent :
    calls.countP (countsEvent asked) = eventCount asked calls := by
  rw [eventCount, eventsOf, List.countP_filterMap]
  congr 1
  funext call
  unfold countsEvent
  cases call.event? <;> rfl

/-- What messages of one kind raise by one counts them. -/
theorem foldl_eventCount
    {step : State → StatsCall Envelope → State}
    (measure : State → Nat)
    (one : ∀ state call,
      measure (step state call) =
        measure state + if countsEvent asked call then 1 else 0)
    (initial : State) :
    measure (calls.foldl step initial) =
      measure initial + eventCount asked calls := by
  rw [foldl_counts measure (countsEvent asked) one, countP_countsEvent]

end Events

section Steps

variable
  (counting : Counting Envelope)
  (counters : Counters)
  (call : StatsCall Envelope)

private theorem count_received :
    (counters.count counting call).received =
      counters.received + if call.isReceived then 1 else 0 := by
  cases call <;> rfl

private theorem count_parsed :
    (counters.count counting call).parsed =
      counters.parsed + if countsEvent (fun _ => true) call then 1 else 0 := by
  cases call <;> rfl

private theorem count_pings :
    (counters.count counting call).pings =
      counters.pings + if call.isPing then 1 else 0 := by
  cases call <;> rfl

private theorem count_pongs :
    (counters.count counting call).pongs =
      counters.pongs + if call.isPong then 1 else 0 := by
  cases call <;> rfl

private theorem count_closes :
    (counters.count counting call).closes =
      counters.closes + if call.isClose then 1 else 0 := by
  cases call <;> rfl

private theorem count_reconnects :
    (counters.count counting call).reconnects =
      counters.reconnects + if call.isLost then 1 else 0 := by
  cases call <;> rfl

private theorem count_malformed :
    (counters.count counting call).malformed =
      counters.malformed + (if call.isMalformed then 1 else 0) +
        if countsEvent counting.unknown call then 1 else 0 := by
  cases call <;> rfl

/-- The control messages are the pings and the pongs, perhaps the closes. -/
private theorem count_controls
    (exact :
      counters.controls =
        counters.pings + counters.pongs +
          if counting.closesControl then counters.closes else 0) :
    (counters.count counting call).controls =
      (counters.count counting call).pings +
        (counters.count counting call).pongs +
        if counting.closesControl then
          (counters.count counting call).closes
        else
          0 := by
  cases call with
  | ping | pong | close =>
      simp only [Counters.count, exact]
      split <;> omega
  | _ => exact exact

private theorem foldl_controls
    (calls : List (StatsCall Envelope)) :
    let counted := calls.foldl (Counters.count counting) .zero
    counted.controls =
      counted.pings + counted.pongs +
        if counting.closesControl then counted.closes else 0 := by
  induction calls using List.reverseRecOn with
  | nil =>
      change 0 = 0 + 0 + if counting.closesControl then 0 else 0
      rw [ite_self]
  | append_singleton earlier call inductionHypothesis =>
      rw [List.foldl_concat]
      exact count_controls counting _ call inductionHypothesis

/-- The messages of one kind are those of its name. -/
private theorem count_kinds
    (kind : String) :
    ((counters.count counting call).kinds.get? kind).getD 0 =
      (counters.kinds.get? kind).getD 0 +
        if countsEvent (fun envelope => counting.kind envelope = kind)
            call then
          1
        else
          0 := by
  cases call with
  | event envelope detectedAtMs =>
      refine (get?_countOne counters.kinds _ kind).trans ?_
      simp [countsEvent, StatsCall.event?, eq_comm]
  | _ => rfl

/-- The messages of one market are those with its symbol. -/
private theorem count_symbols
    (symbol : String) :
    ((counters.count counting call).symbols.get? symbol).getD 0 =
      (counters.symbols.get? symbol).getD 0 +
        if countsEvent
            (fun envelope => counting.symbol envelope = some symbol)
            call then
          1
        else
          0 := by
  cases call with
  | event envelope detectedAtMs =>
      unfold Counters.count
      dsimp only
      cases found : counting.symbol envelope with
      | none =>
          simp [countsEvent, StatsCall.event?, found]
      | some seen =>
          refine (get?_countOne counters.symbols seen symbol).trans ?_
          simp [countsEvent, StatsCall.event?, found, eq_comm]
  | _ => rfl

end Steps

section Accounts

variable
  {venue : Venue Stats Envelope}
  {world : SinkWorld}
  {policy : ReconnectPolicy}
  {config : SessionConfig}
  {counting : Counting Envelope}
  {counters : Stats → Counters}
  {worker : Worker Stats Envelope}

/-- The statistics of a venue change as its way of counting tells. -/
def CountsBy
    (venue : Venue Stats Envelope)
    (counting : Counting Envelope)
    (counters : Stats → Counters) : Prop :=
  ∀ stats call,
    counters (venue.perform stats call) =
      (counters stats).count counting call

/-- The statistics of a worker account for all that it took. -/
structure Accounts
    (venue : Venue Stats Envelope)
    (counting : Counting Envelope)
    (counters : Counters)
    (taken : List Input)
    (counted : List (StatsCall Envelope)) : Prop where
  received : counters.received = taken.countP Input.isText
  pings : counters.pings = taken.countP Input.isPing
  pongs : counters.pongs = taken.countP Input.isPong
  closes : counters.closes = taken.countP Input.isClose
  controls :
    counters.controls =
      counters.pings + counters.pongs +
        if counting.closesControl then counters.closes else 0
  recorded : (eventsOf counted).Sublist (envelopesOf venue taken)
  complete :
    counted.countP (StatsCall.isReconnect "message_error") = 0 →
      eventsOf counted = envelopesOf venue taken
  parsed : counters.parsed = (eventsOf counted).length
  kinds : ∀ kind,
    (counters.kinds.get? kind).getD 0 =
      eventCount (fun envelope => counting.kind envelope = kind) counted
  symbols : ∀ symbol,
    (counters.symbols.get? symbol).getD 0 =
      eventCount (fun envelope => counting.symbol envelope = some symbol)
        counted
  malformed :
    counters.malformed =
      taken.countP (Input.isMalformed venue) +
        eventCount counting.unknown counted +
        counted.countP (StatsCall.isReconnect "websocket_error") +
        if venue.countsMessageErrors then
          counted.countP (StatsCall.isReconnect "message_error")
        else
          0
  reconnects : counters.reconnects = counted.countP StatsCall.isLost

/-- Counters that change by accounted calls only are accounts. -/
private theorem accounts_of_tallies
    {taken : List Input}
    {counted : List (StatsCall Envelope)}
    (tallies : Tallies venue taken counted none) :
    Accounts venue counting
      (counted.foldl (Counters.count counting) .zero) taken counted := by
  have called
      (measure : Counters → Nat)
      (counts : StatsCall Envelope → Bool)
      (nothing : measure .zero = 0)
      (one : ∀ counters call,
        measure (Counters.count counting counters call) =
          measure counters + if counts call then 1 else 0) :
      measure (counted.foldl (Counters.count counting) .zero) =
        counted.countP counts := by
    rw [foldl_counts measure counts one, nothing, Nat.zero_add]
  have seen
      (asked : Envelope → Bool)
      (measure : Counters → Nat)
      (nothing : measure .zero = 0)
      (one : ∀ counters call,
        measure (Counters.count counting counters call) =
          measure counters + if countsEvent asked call then 1 else 0) :
      measure (counted.foldl (Counters.count counting) .zero) =
        eventCount asked counted := by
    rw [foldl_eventCount asked counted measure one, nothing, Nat.zero_add]
  exact
    { received :=
        (called Counters.received _ rfl (count_received _)).trans
          tallies.received
      pings :=
        (called Counters.pings _ rfl (count_pings _)).trans tallies.pings
      pongs :=
        (called Counters.pongs _ rfl (count_pongs _)).trans tallies.pongs
      closes :=
        (called Counters.closes _ rfl (count_closes _)).trans tallies.closes
      controls := foldl_controls counting counted
      recorded := tallies.recorded
      complete := fun stored => tallies.complete stored nofun
      parsed :=
        (seen (fun _ => true) Counters.parsed rfl (count_parsed _)).trans
          (congrFun List.countP_true _)
      kinds := fun kind =>
        seen _ (fun counters => (counters.kinds.get? kind).getD 0) rfl
          (count_kinds counting · · kind)
      symbols := fun symbol =>
        seen _ (fun counters => (counters.symbols.get? symbol).getD 0) rfl
          (count_symbols counting · · symbol)
      malformed := by
        have malformed :=
          foldl_countsBoth Counters.malformed _ _ (count_malformed counting)
            counted .zero
        rw [countP_countsEvent, tallies.malformed, debt_none] at malformed
        refine malformed.trans ?_
        change 0 + _ + _ = _
        omega
      reconnects :=
        called Counters.reconnects _ rfl (count_reconnects _) }

/-- Drafts of a worker itself are no messages. -/
private theorem messages_of_drafts
    {taken : List Input}
    (drafts : ∀ input ∈ taken, ∃ appended, input = .drafts appended)
    (counts : Input → Bool)
    (messages : ∀ appended, counts (.drafts appended) = false) :
    taken.countP counts = 0 := by
  rw [List.countP_eq_zero]
  intro input member counted
  obtain ⟨appended, rfl⟩ := drafts input member
  rw [messages] at counted
  cases counted

/-- Before a run there is nothing to account for but drafts of its own. -/
private theorem tallies_drafts
    {taken : List Input}
    (drafts : ∀ input ∈ taken, ∃ appended, input = .drafts appended) :
    Tallies venue taken [] none where
  received := (messages_of_drafts drafts _ fun _ => rfl).symm
  pings := (messages_of_drafts drafts _ fun _ => rfl).symm
  pongs := (messages_of_drafts drafts _ fun _ => rfl).symm
  closes := (messages_of_drafts drafts _ fun _ => rfl).symm
  malformed := by
    rw [messages_of_drafts drafts (Input.isMalformed venue) fun _ => rfl]
    simp
  recorded := List.nil_sublist _
  complete := by
    intro _ _
    unfold envelopesOf
    rw [List.flatMap_eq_nil_iff.mpr]
    · rfl
    · intro input member
      obtain ⟨appended, rfl⟩ := drafts input member
      rfl

/--
In every run the statistics of a worker account for all that it took, from the
drafts that it stored before the run on.
-/
theorem accounts_watchRounds
    (counts : CountsBy venue counting counters)
    (rounds : List Round)
    (watch : Watch Stats Envelope)
    (fresh : watch.worker.counted = [])
    (zero : counters watch.worker.stats = .zero)
    (drafts :
      ∀ input ∈ watch.worker.taken, ∃ appended, input = .drafts appended) :
    let worker :=
      (watchRounds venue world policy config rounds watch).1.worker
    Accounts venue counting (counters worker.stats) worker.taken
      worker.counted := by
  intro worker
  obtain ⟨inputs, calls, taken, counted, tallies⟩ :
      Tallied venue watch.worker worker none :=
    tallied_watchRounds rounds watch
  obtain ⟨others, countedAgain, stats⟩ :
      Logged venue watch.worker worker :=
    (kept_logged True).watchRounds (fun _ => trivial) rounds watch
  rw [fresh, List.nil_append] at counted countedAgain
  rw [← countedAgain] at stats
  have sums :
      counters worker.stats =
        worker.counted.foldl (Counters.count counting) .zero := by
    rw [stats, ← zero]
    exact (List.foldl_hom counters
      (fun stats call => (counts stats call).symm)).symm
  rw [sums]
  refine accounts_of_tallies ?_
  rw [taken, counted]
  exact (tallies_drafts drafts).append tallies

end Accounts

end MarketIngest.Live
