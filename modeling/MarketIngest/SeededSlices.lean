import MarketIngest.EventContribution

namespace MarketIngest.Build

open Normalize

/-!
# Slices of one range

Events are applied to the slices of the input range and to the slices of the
range of the projections in the same way.  The first event of a symbol seeds its
slices, and every event goes to the slice of its window.  What is stored for a
window after any events is the seeded slice with the contributions of the events
of that window.
-/

variable {Number : Type}

/-- Symbols, slices and counters of one range. -/
structure RangeState (Number : Type) where
  identities : OrderedMap IdentityKey Identity
  rows : SliceRows Number
  stats : BuildStats

/-- The window of an event. -/
def eventWindowStart (args : NormalizeArgs) (event : RawInputEvent) : Int :=
  event.exchangeTimestampMs / args.windowMs * args.windowMs

/-- The identity of a symbol is that of its first event. -/
def firstIdentity
    (events : List RawInputEvent)
    (venue symbolCanonical : String) : Option Identity :=
  (events.find? (fun event =>
    identityKey event = toLex (venue, symbolCanonical))).map
    Identity.fromEvent

/-- The first identity after one more event. -/
theorem firstIdentity_concat
    (events : List RawInputEvent)
    (event : RawInputEvent)
    (venue symbolCanonical : String) :
    firstIdentity (events ++ [event]) venue symbolCanonical =
      (firstIdentity events venue symbolCanonical).or
        (if identityKey event = toLex (venue, symbolCanonical) then
          some (Identity.fromEvent event)
        else
          none) := by
  rw [firstIdentity, firstIdentity, List.find?_append, Option.map_or]
  by_cases same : identityKey event = toLex (venue, symbolCanonical)
  · rw [List.find?_cons_of_pos (by simpa using same), if_pos same,
      Option.map_some]
  · rw [List.find?_cons_of_neg (by simpa using same), if_neg same,
      List.find?_nil, Option.map_none]

/-- After an event its symbol has an identity. -/
theorem firstIdentity_isSome_of_last
    (events : List RawInputEvent)
    (event : RawInputEvent) :
    (firstIdentity (events ++ [event]) event.venue
      event.symbolCanonical).isSome := by
  have own :
      identityKey event =
        toLex (event.venue, event.symbolCanonical) := rfl
  rw [firstIdentity_concat, if_pos own, Option.isSome_or]
  simp

/-- The identity of a symbol names the symbol. -/
theorem names_of_firstIdentity
    {events : List RawInputEvent}
    {venue symbolCanonical : String}
    {identity : Identity}
    (isIdentity :
      firstIdentity events venue symbolCanonical = some identity) :
    identity.venue = venue ∧
      identity.symbolCanonical = symbolCanonical := by
  obtain ⟨event, found, rfl⟩ := Option.map_eq_some_iff.mp isIdentity
  have own := List.find?_some found
  rw [decide_eq_true_eq] at own
  exact Prod.mk.inj (toLex.injective own)

/-- A symbol without an identity has no events. -/
theorem identityKey_ne_of_firstIdentity_none
    {events : List RawInputEvent}
    {venue symbolCanonical : String}
    (unknown : firstIdentity events venue symbolCanonical = none)
    {event : RawInputEvent}
    (member : event ∈ events) :
    identityKey event ≠ toLex (venue, symbolCanonical) := by
  rw [firstIdentity, Option.map_eq_none_iff] at unknown
  simpa using List.find?_eq_none.mp unknown event member

/-- The slice key of an event carries its identity key. -/
theorem eventSliceKey_eq_iff
    {args : NormalizeArgs}
    {event : RawInputEvent}
    {venue symbolCanonical : String}
    {windowStartMs : Int} :
    eventSliceKey args event =
        sliceKey venue symbolCanonical windowStartMs ↔
      identityKey event = toLex (venue, symbolCanonical) ∧
        eventWindowStart args event = windowStartMs := by
  simp only [eventSliceKey, sliceKey, identityKey, eventWindowStart,
    EmbeddingLike.apply_eq_iff_eq, Prod.mk.injEq, and_assoc]

/-- Slice keys with one venue and symbol differ in the window only. -/
theorem sliceKey_inj
    {venue otherVenue symbolCanonical otherSymbol : String}
    {windowStartMs otherWindow : Int} :
    sliceKey venue symbolCanonical windowStartMs =
        sliceKey otherVenue otherSymbol otherWindow ↔
      venue = otherVenue ∧ symbolCanonical = otherSymbol ∧
        windowStartMs = otherWindow := by
  simp only [sliceKey, EmbeddingLike.apply_eq_iff_eq, Prod.mk.injEq]

/-- The values that seeding gives a window. -/
private theorem seed_window
    (windows : List Int)
    (windowStartMs : Int)
    (seed : SliceRow Number)
    (known : Option (SliceRow Number)) :
    (windows.filter (fun window => window = windowStartMs)).foldl
        (fun known _ => some (known.getD seed)) known =
      if windowStartMs ∈ windows then some (known.getD seed) else known := by
  induction windows generalizing known with
  | nil =>
      rfl
  | cons window rest inductionHypothesis =>
      by_cases same : window = windowStartMs
      · subst same
        rw [List.filter_cons_of_pos (by simp), List.foldl_cons,
          inductionHypothesis]
        simp
      · rw [List.filter_cons_of_neg (by simpa using same),
          inductionHypothesis]
        simp [Ne.symm same]

section Steps

variable
  [NumberFormat Number]
  (codec : Codec Number)
  (args : NormalizeArgs)
  (range : InputRange)

/-- Apply an event to the slices of a range. -/
def ingestRange
    (state : RangeState Number)
    (event : RawInputEvent) : RangeState Number :=
  if ¬ inRange range event then
    state
  else
    let (identities, seeded) :=
      ensureIdentity codec args range event state.identities state.rows
    let (rows, stats) :=
      applyEvent codec args range event seeded state.stats
    { identities := identities, rows := rows, stats := stats }

/-- The state of the input range of a build. -/
def BuildAccumulator.inputState
    (accumulator : BuildAccumulator Number) : RangeState Number where
  identities := accumulator.inputIdentities
  rows := accumulator.rows
  stats := accumulator.stats

/-- The state of the range of the projections of a build. -/
def BuildAccumulator.projectionState
    (accumulator : BuildAccumulator Number) : RangeState Number where
  identities := accumulator.projectionIdentities
  rows := accumulator.projectionRows
  stats := accumulator.projectionStats

/-- An event of the input range changes the state of that range only. -/
theorem ingestInputEvent_eq
    (accumulator : BuildAccumulator Number)
    (event : RawInputEvent) :
    ingestInputEvent codec args accumulator event =
      { accumulator with
        inputIdentities :=
          (ingestRange codec args accumulator.inputRange
            accumulator.inputState event).identities
        rows :=
          (ingestRange codec args accumulator.inputRange
            accumulator.inputState event).rows
        stats :=
          (ingestRange codec args accumulator.inputRange
            accumulator.inputState event).stats } := by
  unfold ingestInputEvent ingestRange
  split_ifs <;> rfl

/-- An event of the projections changes the state of their range only. -/
theorem ingestProjectionEvent_eq
    (accumulator : BuildAccumulator Number)
    (event : RawInputEvent) :
    ingestProjectionEvent codec args accumulator event =
      { accumulator with
        projectionIdentities :=
          (ingestRange codec args accumulator.projectionRange
            accumulator.projectionState event).identities
        projectionRows :=
          (ingestRange codec args accumulator.projectionRange
            accumulator.projectionState event).rows
        projectionStats :=
          (ingestRange codec args accumulator.projectionRange
            accumulator.projectionState event).stats } := by
  unfold ingestProjectionEvent ingestRange
  split_ifs <;> rfl

/-- The window is one that symbols are seeded for. -/
def isSeeded (windowStartMs : Int) : Bool :=
  windowStartMs ∈ seedWindowStarts range args.windowMs

/-- The slice of a window: its seed with contributions added. -/
def sliceAfter
    (identity : Option Identity)
    (venue symbolCanonical : String)
    (windowStartMs : Int)
    (events : List RawInputEvent) : Option (SliceRow Number) :=
  if isSeeded args range windowStartMs then
    identity.map (fun known =>
      summarize codec args (emptySlice codec args known windowStartMs)
        (events.filter (fun event =>
          eventSliceKey args event =
            sliceKey venue symbolCanonical windowStartMs)))
  else
    none

variable {codec args range} in
/-- A slice that is stored is a seed with contributions. -/
theorem identity_of_sliceAfter
    {identity : Option Identity}
    {venue symbolCanonical : String}
    {windowStartMs : Int}
    {events : List RawInputEvent}
    {row : SliceRow Number}
    (stored :
      sliceAfter codec args range identity venue symbolCanonical
        windowStartMs events = some row) :
    ∃ known,
      identity = some known ∧
        isSeeded args range windowStartMs = true ∧
        summarize codec args (emptySlice codec args known windowStartMs)
          (events.filter (fun event =>
            eventSliceKey args event =
              sliceKey venue symbolCanonical windowStartMs)) = row := by
  unfold sliceAfter at stored
  split_ifs at stored with seeded
  obtain ⟨known, isKnown, isRow⟩ := Option.map_eq_some_iff.mp stored
  exact ⟨known, isKnown, seeded, isRow⟩

/-- The state is what the events of the range make of it. -/
structure RangeHolds
    (events : List RawInputEvent)
    (state : RangeState Number) : Prop where
  identities :
    ∀ venue symbolCanonical,
      state.identities.get? (toLex (venue, symbolCanonical)) =
        firstIdentity events venue symbolCanonical
  rows :
    ∀ venue symbolCanonical windowStartMs,
      state.rows.get? (sliceKey venue symbolCanonical windowStartMs) =
        sliceAfter codec args range
          (firstIdentity events venue symbolCanonical)
          venue symbolCanonical windowStartMs events

/-- The empty state holds no events. -/
theorem rangeHolds_nil
    (stats : BuildStats) :
    RangeHolds codec args range []
      { identities := .empty, rows := .empty, stats := stats } where
  identities := fun _ _ => rfl
  rows := by
    intro venue symbolCanonical windowStartMs
    unfold sliceAfter
    split_ifs <;> rfl

/-- Seeding gives a slice to the windows of the symbol that have none. -/
theorem get?_seedIdentitySlices
    (identity : Identity)
    (rows : SliceRows Number)
    (venue symbolCanonical : String)
    (windowStartMs : Int) :
    (seedIdentitySlices codec args range identity rows).get?
        (sliceKey venue symbolCanonical windowStartMs) =
      if isSeeded args range windowStartMs ∧
          identity.venue = venue ∧
          identity.symbolCanonical = symbolCanonical then
        some
          ((rows.get? (sliceKey venue symbolCanonical windowStartMs)).getD
            (emptySlice codec args identity windowStartMs))
      else
        rows.get? (sliceKey venue symbolCanonical windowStartMs) := by
  rw [seedIdentitySlices,
    OrderedMap.get?_foldl_upsert
      (fun window known =>
        known.getD (emptySlice codec args identity window))]
  by_cases same :
      identity.venue = venue ∧ identity.symbolCanonical = symbolCanonical
  · obtain ⟨sameVenue, sameSymbol⟩ := same
    have own :
        ∀ windows : List Int,
          (windows.filter (fun window =>
            sliceKey identity.venue identity.symbolCanonical window =
              sliceKey venue symbolCanonical windowStartMs)) =
            windows.filter (fun window => window = windowStartMs) := by
      intro windows
      simp only [sliceKey_inj, sameVenue, sameSymbol, true_and]
    have seeds :
        ∀ (windows : List Int) (known : Option (SliceRow Number)),
          (windows.filter (fun window => window = windowStartMs)).foldl
              (fun known window =>
                some (known.getD (emptySlice codec args identity window)))
              known =
            (windows.filter (fun window => window = windowStartMs)).foldl
              (fun known _ =>
                some
                  (known.getD
                    (emptySlice codec args identity windowStartMs)))
              known := by
      intro windows known
      apply List.foldl_ext
      intro current window member
      have own := (List.mem_filter.mp member).2
      rw [decide_eq_true_eq] at own
      rw [own]
    rw [own, seeds, seed_window]
    simp only [isSeeded, decide_eq_true_eq, sameVenue, sameSymbol, and_self,
      and_true]
  · have other :
        ∀ windows : List Int,
          (windows.filter (fun window =>
            sliceKey identity.venue identity.symbolCanonical window =
              sliceKey venue symbolCanonical windowStartMs)) = [] := by
      intro windows
      rw [List.filter_eq_nil_iff]
      intro window _
      rw [decide_eq_true_eq, sliceKey_inj]
      exact fun all => same ⟨all.1, all.2.1⟩
    rw [other, List.foldl_nil, if_neg (fun all => same all.2)]

variable {codec args range}

/-- After the identity of an event is ensured, its slices are seeded. -/
theorem ensureIdentity_spec
    {events : List RawInputEvent}
    {state : RangeState Number}
    (holds : RangeHolds codec args range events state)
    (event : RawInputEvent) :
    (∀ venue symbolCanonical,
      (ensureIdentity codec args range event state.identities
        state.rows).1.get? (toLex (venue, symbolCanonical)) =
        firstIdentity (events ++ [event]) venue symbolCanonical) ∧
    (∀ venue symbolCanonical windowStartMs,
      (ensureIdentity codec args range event state.identities
        state.rows).2.get?
          (sliceKey venue symbolCanonical windowStartMs) =
        sliceAfter codec args range
          (firstIdentity (events ++ [event]) venue symbolCanonical)
          venue symbolCanonical windowStartMs events) := by
  have own :
      state.identities.get? (identityKey event) =
        firstIdentity events event.venue event.symbolCanonical :=
    holds.identities _ _
  unfold ensureIdentity
  cases known : firstIdentity events event.venue event.symbolCanonical with
  | some identity =>
      have same :
          ∀ venue symbolCanonical,
            firstIdentity (events ++ [event]) venue symbolCanonical =
              firstIdentity events venue symbolCanonical := by
        intro venue symbolCanonical
        rw [firstIdentity_concat]
        split_ifs with isOwn
        · obtain ⟨rfl, rfl⟩ := Prod.mk.inj (toLex.injective isOwn)
          rw [known, Option.some_or]
        · rw [Option.or_none]
      rw [own, known]
      constructor
      · intro venue symbolCanonical
        rw [same]
        exact holds.identities venue symbolCanonical
      · intro venue symbolCanonical windowStartMs
        rw [same]
        exact holds.rows venue symbolCanonical windowStartMs
  | none =>
      rw [own, known]
      constructor
      · intro venue symbolCanonical
        rw [firstIdentity_concat, OrderedMap.get?_insert, holds.identities]
        split_ifs with isOwn isOwn' isOwn'
        · obtain ⟨rfl, rfl⟩ := Prod.mk.inj (toLex.injective isOwn.symm)
          rw [known, Option.none_or]
        · exact absurd isOwn.symm isOwn'
        · exact absurd isOwn'.symm isOwn
        · rw [Option.or_none]
      · intro venue symbolCanonical windowStartMs
        rw [get?_seedIdentitySlices, holds.rows, firstIdentity_concat]
        split_ifs with seeded isOwn isOwn
        · obtain ⟨rfl, rfl⟩ := Prod.mk.inj (toLex.injective isOwn)
          -- A new symbol has no earlier events to contribute.
          have none' :
              events.filter (fun earlier =>
                eventSliceKey args earlier =
                  sliceKey event.venue event.symbolCanonical
                    windowStartMs) = [] := by
            rw [List.filter_eq_nil_iff]
            intro earlier member
            rw [decide_eq_true_eq, eventSliceKey_eq_iff]
            exact fun all =>
              identityKey_ne_of_firstIdentity_none known member all.1
          simp [sliceAfter, seeded.1, known, none']
        · exact absurd
            (congrArg toLex (Prod.ext seeded.2.1 seeded.2.2)) isOwn
        · obtain ⟨rfl, rfl⟩ := Prod.mk.inj (toLex.injective isOwn)
          have unseeded : isSeeded args range windowStartMs = false := by
            simpa [Identity.fromEvent] using seeded
          simp [sliceAfter, unseeded]
        · rw [Option.or_none]

/-- Applying an event adds its contributions to its seeded slice. -/
theorem applyEvent_spec
    {events : List RawInputEvent}
    {identities : String → String → Option Identity}
    {rows : SliceRows Number}
    (holds :
      ∀ venue symbolCanonical windowStartMs,
        rows.get? (sliceKey venue symbolCanonical windowStartMs) =
          sliceAfter codec args range (identities venue symbolCanonical)
            venue symbolCanonical windowStartMs events)
    {event : RawInputEvent}
    (within : inRange range event = true)
    (known :
      (identities event.venue event.symbolCanonical).isSome)
    (stats : BuildStats) :
    (∀ venue symbolCanonical windowStartMs,
      (applyEvent codec args range event rows stats).1.get?
          (sliceKey venue symbolCanonical windowStartMs) =
        sliceAfter codec args range (identities venue symbolCanonical)
          venue symbolCanonical windowStartMs (events ++ [event])) ∧
    (applyEvent codec args range event rows stats).2 =
      if isSeeded args range (eventWindowStart args event) then
        countApplied codec stats event
      else
        stats := by
  obtain ⟨identity, isIdentity⟩ := Option.isSome_iff_exists.mp known
  have own :
      rows.get? (eventSliceKey args event) =
        sliceAfter codec args range (some identity) event.venue
          event.symbolCanonical (eventWindowStart args event) events := by
    rw [← isIdentity]
    exact holds _ _ _
  unfold applyEvent
  rw [if_neg (by simp [within]), own]
  cases seeded : isSeeded args range (eventWindowStart args event) with
  | false =>
      refine ⟨?_, by simp [sliceAfter, seeded]⟩
      intro venue symbolCanonical windowStartMs
      simp only [sliceAfter, seeded, Bool.false_eq_true, if_false, holds]
      split_ifs with window
      · have other :
            eventSliceKey args event ≠
              sliceKey venue symbolCanonical windowStartMs := by
          intro isOwn
          rw [(eventSliceKey_eq_iff.mp isOwn).2, window] at seeded
          cases seeded
        rw [List.filter_append, List.filter_cons_of_neg (by simpa using other),
          List.filter_nil, List.append_nil]
      · rfl
  | true =>
      have stored :
          sliceAfter codec args range (some identity) event.venue
              event.symbolCanonical (eventWindowStart args event) events =
            some
              (summarize codec args
                (emptySlice codec args identity
                  (eventWindowStart args event))
                (events.filter (fun earlier =>
                  eventSliceKey args earlier =
                    eventSliceKey args event))) := by
        simp only [sliceAfter, seeded, if_true, Option.map_some]
        rfl
      simp only [stored, applyToRow_eq_summarize, if_true, and_true]
      intro venue symbolCanonical windowStartMs
      rw [OrderedMap.get?_insert, holds, sliceAfter, sliceAfter]
      by_cases isOwn :
          sliceKey venue symbolCanonical windowStartMs =
            eventSliceKey args event
      · obtain ⟨sameSymbol, rfl⟩ := eventSliceKey_eq_iff.mp isOwn.symm
        obtain ⟨rfl, rfl⟩ := Prod.mk.inj (toLex.injective sameSymbol)
        rw [if_pos isOwn, if_pos seeded, isIdentity, Option.map_some,
          ← summarize_append, List.filter_append, ← isOwn]
        simp [isOwn]
      · rw [if_neg isOwn, List.filter_append,
          List.filter_cons_of_neg (by simpa using Ne.symm isOwn),
          List.filter_nil, List.append_nil]

/-- An event outside the range changes nothing. -/
theorem ingestRange_of_not_inRange
    {event : RawInputEvent}
    (outside : inRange range event = false)
    (state : RangeState Number) :
    ingestRange codec args range state event = state := by
  rw [ingestRange, if_pos (by simp [outside])]

/-- An event of the range is added to what the state holds. -/
theorem ingestRange_holds
    {events : List RawInputEvent}
    {state : RangeState Number}
    (holds : RangeHolds codec args range events state)
    {event : RawInputEvent}
    (within : inRange range event = true) :
    RangeHolds codec args range (events ++ [event])
        (ingestRange codec args range state event) ∧
      (ingestRange codec args range state event).stats =
        if isSeeded args range (eventWindowStart args event) then
          countApplied codec state.stats event
        else
          state.stats := by
  obtain ⟨identities, seeded⟩ := ensureIdentity_spec holds event
  have known := firstIdentity_isSome_of_last events event
  obtain ⟨applied, counted⟩ :=
    applyEvent_spec seeded within known state.stats
  rw [ingestRange, if_neg (by simp [within])]
  exact ⟨⟨identities, applied⟩, counted⟩

/-- A stored slice is the seed of its key with the events of the key. -/
theorem RangeHolds.seed_of_entry
    {events : List RawInputEvent}
    {state : RangeState Number}
    (holds : RangeHolds codec args range events state)
    {key : SliceKey}
    {row : SliceRow Number}
    (entry : (key, row) ∈ state.rows.entries) :
    ∃ identity windowStartMs,
      firstIdentity events identity.venue identity.symbolCanonical =
          some identity ∧
        isSeeded args range windowStartMs = true ∧
        key =
          sliceKey identity.venue identity.symbolCanonical windowStartMs ∧
        row =
          summarize codec args (emptySlice codec args identity windowStartMs)
            (events.filter (fun event => eventSliceKey args event = key)) := by
  obtain ⟨venue, symbolCanonical, windowStartMs, rfl⟩ :
      ∃ venue symbolCanonical windowStartMs,
        key = sliceKey venue symbolCanonical windowStartMs :=
    ⟨(ofLex key).1, (ofLex (ofLex key).2).1, (ofLex (ofLex key).2).2, rfl⟩
  have held := holds.rows venue symbolCanonical windowStartMs
  have found := OrderedMap.get?_eq_some_iff.mpr entry
  obtain ⟨identity, isIdentity, seeded, isRow⟩ :=
    identity_of_sliceAfter (held.symm.trans found)
  obtain ⟨rfl, rfl⟩ := names_of_firstIdentity isIdentity
  exact ⟨identity, windowStartMs, isIdentity, seeded, rfl, isRow.symm⟩

/-- A slice is stored under its own key. -/
theorem RangeHolds.key_of_entry
    {events : List RawInputEvent}
    {state : RangeState Number}
    (holds : RangeHolds codec args range events state)
    {key : SliceKey}
    {row : SliceRow Number}
    (entry : (key, row) ∈ state.rows.entries) :
    row.key = key := by
  obtain ⟨identity, windowStartMs, -, -, isKey, isRow⟩ :=
    holds.seed_of_entry entry
  rw [isRow, isKey]
  rfl

end Steps

end MarketIngest.Build
