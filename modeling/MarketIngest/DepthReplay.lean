import MarketIngest.DepthBook
import Mathlib.Logic.Function.Basic

namespace MarketIngest.MarketData

/-!
# What a synced book shows

A book stands for two maps from the numbers of its prices to the numbers of its
quantities.  A synced book shows the levels of a snapshot, changed by updates
that continue it one after the other.  The steps of a replay keep this, as long
as the prices are compared as numbers.
-/

/-- Quantities by price, as numbers. -/
abbrev Quotes := ℚ → Option ℚ

/-- Set a quantity, or remove it if it is not positive. -/
def Quotes.update (quotes : Quotes) (level : ℚ × ℚ) : Quotes :=
  Function.update quotes level.1
    (if 0 < level.2 then some level.2 else none)

/-- Set a quantity if it is positive. -/
def Quotes.add (quotes : Quotes) (level : ℚ × ℚ) : Quotes :=
  if 0 < level.2 then
    Function.update quotes level.1 (some level.2)
  else
    quotes

/-- The numbers of a level. -/
def numericLevel (level : FixedDecimal × FixedDecimal) : ℚ × ℚ :=
  (level.1.toRat, level.2.toRat)

/-- The numbers of some levels. -/
def numericLevels (levels : List LevelText) : List (ℚ × ℚ) :=
  (parsedLevels levels).map numericLevel

/-- What one side of a book shows. -/
def sideQuotes (side : BookSide) : Quotes := fun price =>
  (ComparedMap.lookup FixedDecimal.toRat side price).map
    FixedDecimal.toRat

/-- The levels of a snapshot, changed by some updates in order. -/
def replayed
    (start : List LevelText)
    (updates : List (List LevelText)) : Quotes :=
  updates.foldl
    (fun quotes levels => (numericLevels levels).foldl Quotes.update quotes)
    ((numericLevels start).foldl Quotes.add fun _ => none)

/-- Every update continues the one before it. -/
def Continues : Nat → List BinanceDiffDepthMessage → Prop
  | _, [] => True
  | previous, event :: rest =>
      event.firstUpdateId ≤ previous + 1 ∧
        previous < event.finalUpdateId ∧
        Continues event.finalUpdateId rest

/-- The last change of some updates. -/
def lastId
    (previous : Nat)
    (applied : List BinanceDiffDepthMessage) : Nat :=
  applied.foldl (fun _ event => event.finalUpdateId) previous

/-- A book is the replay of some updates on a snapshot. -/
structure IsReplay
    (snapshot : BinanceOrderBookSnapshot)
    (applied : List BinanceDiffDepthMessage)
    (book : BinanceLocalOrderBook) : Prop where
  parses : ∀ event ∈ applied, event.Parses
  continues : Continues snapshot.lastUpdateId applied
  last : book.lastUpdateId = some (lastId snapshot.lastUpdateId applied)
  bids :
    sideQuotes book.bids = replayed snapshot.bids (applied.map (·.bids))
  asks :
    sideQuotes book.asks = replayed snapshot.asks (applied.map (·.asks))
  positive : ∀ level ∈ book.bids ++ book.asks, 0 < level.2.toRat

/-- One more update continues the others. -/
private theorem continues_concat
    {previous : Nat}
    {applied : List BinanceDiffDepthMessage}
    {event : BinanceDiffDepthMessage}
    (continued : Continues previous applied)
    (next : continuation (lastId previous applied) event = .next) :
    Continues previous (applied ++ [event]) := by
  induction applied generalizing previous with
  | nil =>
      obtain ⟨begins, newer⟩ := continuation_eq_next_iff.mp next
      exact ⟨begins, newer, trivial⟩
  | cons first rest inductionHypothesis =>
      exact
        ⟨continued.1, continued.2.1,
          inductionHypothesis continued.2.2 next⟩

/-- The last change after one more update. -/
private theorem lastId_concat
    (previous : Nat)
    (applied : List BinanceDiffDepthMessage)
    (event : BinanceDiffDepthMessage) :
    lastId previous (applied ++ [event]) = event.finalUpdateId :=
  List.foldl_concat ..

section Sides

/-! The prices of a run, all of which are compared as numbers. -/

variable
  {IsPrice : FixedDecimal → Prop}
  {side : BookSide}
  {quotes : Quotes}

/-- All prices of a kind are compared as numbers. -/
def PricesAligned (IsPrice : FixedDecimal → Prop) : Prop :=
  ∀ first second, IsPrice first → IsPrice second → first.Aligned second

/-- One side of a book shows some quotes. -/
structure SideShows
    (IsPrice : FixedDecimal → Prop)
    (side : BookSide)
    (quotes : Quotes) : Prop where
  ascending : ComparedMap.Ascending FixedDecimal.toRat side
  known : ∀ level ∈ side, IsPrice level.1
  positive : ∀ level ∈ side, level.2.isPositive = true
  shows : sideQuotes side = quotes

/-- A side without levels shows nothing. -/
theorem sideShows_nil :
    SideShows IsPrice [] fun _ => none where
  ascending := List.Pairwise.nil
  known := by simp
  positive := by simp
  shows := rfl

/-- A price of the run compares with a side as its number does. -/
private theorem SideShows.agrees
    (aligned : PricesAligned IsPrice)
    (shown : SideShows IsPrice side quotes)
    {price : FixedDecimal}
    (known : IsPrice price) :
    ComparedMap.Agrees FixedDecimal.cmp FixedDecimal.toRat price side :=
  fun level member =>
    FixedDecimal.cmp_eq_of_aligned
      (aligned price level.1 known (shown.known level member))

/-- A positive quantity is set. -/
private theorem SideShows.insert
    (aligned : PricesAligned IsPrice)
    (shown : SideShows IsPrice side quotes)
    {price quantity : FixedDecimal}
    (known : IsPrice price)
    (positive : quantity.isPositive = true) :
    SideShows IsPrice
      (ComparedMap.insert FixedDecimal.cmp price quantity side)
      (Function.update quotes price.toRat (some quantity.toRat)) := by
  have agrees := shown.agrees aligned known
  constructor
  · exact shown.ascending.insert agrees quantity
  · intro level member
    rcases ComparedMap.mem_insert member with ⟨-, isNew | older⟩ | older
    · exact isNew ▸ known
    · obtain ⟨before, inSide, same⟩ := List.mem_map.mp older
      exact same ▸ shown.known before inSide
    · exact shown.known level older
  · intro level member
    rcases ComparedMap.mem_insert member with ⟨isNew, -⟩ | older
    · exact isNew ▸ positive
    · exact shown.positive level older
  · funext sought
    rw [sideQuotes, ComparedMap.lookup_insert shown.ascending agrees,
      Function.update_apply, ← shown.shows]
    by_cases same : sought = price.toRat
    · rw [if_pos same, if_pos same]
      rfl
    · rw [if_neg same, if_neg same]
      rfl

/-- A quantity is removed. -/
private theorem SideShows.remove
    (aligned : PricesAligned IsPrice)
    (shown : SideShows IsPrice side quotes)
    {price : FixedDecimal}
    (known : IsPrice price) :
    SideShows IsPrice (ComparedMap.remove FixedDecimal.cmp price side)
      (Function.update quotes price.toRat none) := by
  have agrees := shown.agrees aligned known
  have remains := ComparedMap.remove_sublist FixedDecimal.cmp price side
  constructor
  · exact shown.ascending.remove FixedDecimal.cmp price
  · exact fun level member => shown.known level (remains.subset member)
  · exact fun level member => shown.positive level (remains.subset member)
  · funext sought
    rw [sideQuotes, ComparedMap.lookup_remove shown.ascending agrees,
      Function.update_apply, ← shown.shows]
    by_cases same : sought = price.toRat
    · rw [if_pos same, if_pos same]
      rfl
    · rw [if_neg same, if_neg same]
      rfl

/-- One level of an update. -/
private theorem SideShows.applyLevel
    (aligned : PricesAligned IsPrice)
    (shown : SideShows IsPrice side quotes)
    {level : FixedDecimal × FixedDecimal}
    (known : IsPrice level.1) :
    SideShows IsPrice (MarketData.applyLevel side level)
      (quotes.update (numericLevel level)) := by
  unfold MarketData.applyLevel Quotes.update numericLevel
  by_cases positive : level.2.isPositive = true
  · rw [if_pos positive, if_pos (level.2.isPositive_iff.mp positive)]
    exact shown.insert aligned known positive
  · rw [if_neg positive, if_neg (level.2.isPositive_iff.not.mp positive)]
    exact shown.remove aligned known

/-- One level of a snapshot. -/
private theorem SideShows.addLevel
    (aligned : PricesAligned IsPrice)
    (shown : SideShows IsPrice side quotes)
    {level : FixedDecimal × FixedDecimal}
    (known : IsPrice level.1) :
    SideShows IsPrice (MarketData.addLevel side level)
      (quotes.add (numericLevel level)) := by
  unfold MarketData.addLevel Quotes.add numericLevel
  by_cases positive : level.2.isPositive = true
  · rw [if_pos positive, if_pos (level.2.isPositive_iff.mp positive)]
    exact shown.insert aligned known positive
  · rw [if_neg positive, if_neg (level.2.isPositive_iff.not.mp positive)]
    exact shown

/-- Steps that each show their level show all levels. -/
private theorem sideShows_foldl
    {step : BookSide → FixedDecimal × FixedDecimal → BookSide}
    {quoteStep : Quotes → ℚ × ℚ → Quotes}
    (stepShows :
      ∀ {side : BookSide} {quotes : Quotes}
        {level : FixedDecimal × FixedDecimal},
        SideShows IsPrice side quotes →
        IsPrice level.1 →
        SideShows IsPrice (step side level)
          (quoteStep quotes (numericLevel level)))
    {levels : BookSide}
    (known : ∀ level ∈ levels, IsPrice level.1)
    (shown : SideShows IsPrice side quotes) :
    SideShows IsPrice (levels.foldl step side)
      ((levels.map numericLevel).foldl quoteStep quotes) := by
  induction levels generalizing side quotes with
  | nil =>
      exact shown
  | cons level rest inductionHypothesis =>
      rw [List.forall_mem_cons] at known
      exact inductionHypothesis known.2 (stepShows shown known.1)

/-- The levels of an update. -/
private theorem SideShows.applyParsedLevelUpdates
    (aligned : PricesAligned IsPrice)
    (shown : SideShows IsPrice side quotes)
    {levels : List LevelText}
    (known : ∀ level ∈ parsedLevels levels, IsPrice level.1) :
    SideShows IsPrice
      (MarketData.applyParsedLevelUpdates side (parsedLevels levels))
      ((numericLevels levels).foldl Quotes.update quotes) :=
  sideShows_foldl (fun shown known => shown.applyLevel aligned known) known
    shown

/-- The levels of a snapshot. -/
private theorem sideShows_snapshot
    (aligned : PricesAligned IsPrice)
    {levels : List LevelText}
    (known : ∀ level ∈ parsedLevels levels, IsPrice level.1) :
    SideShows IsPrice ((parsedLevels levels).foldl MarketData.addLevel [])
      (replayed levels []) :=
  sideShows_foldl (fun shown known => shown.addLevel aligned known) known
    sideShows_nil

end Sides

section Books

variable
  {IsPrice : FixedDecimal → Prop}
  {snapshot : BinanceOrderBookSnapshot}
  {applied : List BinanceDiffDepthMessage}
  {book : BinanceLocalOrderBook}

/-- The prices of an update are prices of the run. -/
def BinanceDiffDepthMessage.HasPrices
    (event : BinanceDiffDepthMessage)
    (IsPrice : FixedDecimal → Prop) : Prop :=
  ∀ level ∈ parsedLevels (event.bids ++ event.asks), IsPrice level.1

/-- The prices of a snapshot are prices of the run. -/
def BinanceOrderBookSnapshot.HasPrices
    (snapshot : BinanceOrderBookSnapshot)
    (IsPrice : FixedDecimal → Prop) : Prop :=
  ∀ level ∈ parsedLevels (snapshot.bids ++ snapshot.asks), IsPrice level.1

/-- A synced book with what is known about its sides. -/
structure Follows
    (IsPrice : FixedDecimal → Prop)
    (snapshot : BinanceOrderBookSnapshot)
    (applied : List BinanceDiffDepthMessage)
    (book : BinanceLocalOrderBook) : Prop where
  parses : ∀ event ∈ applied, event.Parses
  continues : Continues snapshot.lastUpdateId applied
  last : book.lastUpdateId = some (lastId snapshot.lastUpdateId applied)
  bids :
    SideShows IsPrice book.bids
      (replayed snapshot.bids (applied.map (·.bids)))
  asks :
    SideShows IsPrice book.asks
      (replayed snapshot.asks (applied.map (·.asks)))

/-- A book that follows a snapshot is its replay. -/
theorem Follows.isReplay
    (follows : Follows IsPrice snapshot applied book) :
    IsReplay snapshot applied book where
  parses := follows.parses
  continues := follows.continues
  last := follows.last
  bids := follows.bids.shows
  asks := follows.asks.shows
  positive := by
    intro level member
    rw [← FixedDecimal.isPositive_iff]
    rcases List.mem_append.mp member with inBids | inAsks
    · exact follows.bids.positive level inBids
    · exact follows.asks.positive level inAsks

/-- What waits does not matter. -/
private theorem Follows.withBuffered
    (follows : Follows IsPrice snapshot applied book)
    (waiting : List BinanceDiffDepthMessage) :
    Follows IsPrice snapshot applied
      { book with bufferedEvents := waiting } where
  parses := follows.parses
  continues := follows.continues
  last := follows.last
  bids := follows.bids
  asks := follows.asks

/-- The next update is applied. -/
theorem Follows.applyDepthDelta
    (aligned : PricesAligned IsPrice)
    (follows : Follows IsPrice snapshot applied book)
    {event : BinanceDiffDepthMessage}
    (known : event.HasPrices IsPrice)
    (next :
      continuation (lastId snapshot.lastUpdateId applied) event = .next)
    {after : BinanceLocalOrderBook}
    (result : MarketData.applyDepthDelta book event = .ok after) :
    Follows IsPrice snapshot (applied ++ [event]) after ∧
      after.bufferedEvents = book.bufferedEvents := by
  rcases applyDepthDelta_cases book event with
    ⟨parses, applies⟩ | ⟨-, alert, fails⟩
  · rw [applies] at result
    cases result
    unfold BinanceDiffDepthMessage.HasPrices parsedLevels at known
    rw [List.filterMap_append, List.forall_mem_append] at known
    refine ⟨?_, rfl⟩
    constructor
    · rw [List.forall_mem_append]
      exact ⟨follows.parses, List.forall_mem_singleton.mpr parses⟩
    · exact continues_concat follows.continues next
    · rw [lastId_concat]
    · have shown := follows.bids.applyParsedLevelUpdates aligned known.1
      rw [replayed, List.map_append, List.map_singleton, List.foldl_concat]
      exact shown
    · have shown := follows.asks.applyParsedLevelUpdates aligned known.2
      rw [replayed, List.map_append, List.map_singleton, List.foldl_concat]
      exact shown
  · rw [fails] at result
    cases result

/-- A replay follows the snapshot further, or the book is reset. -/
theorem replayBuffered_follows
    (aligned : PricesAligned IsPrice)
    (follows : Follows IsPrice snapshot applied book)
    {pending : List BinanceDiffDepthMessage}
    (known : ∀ event ∈ pending, event.HasPrices IsPrice)
    (empty : book.bufferedEvents = []) :
    (replayBuffered book pending).1 = .empty ∨
      (replayBuffered book pending).1.bufferedEvents.Sublist pending ∧
        ∃ more : List BinanceDiffDepthMessage,
          more.Sublist pending ∧
            Follows IsPrice snapshot (applied ++ more)
              (replayBuffered book pending).1 := by
  induction pending generalizing book applied with
  | nil =>
      refine Or.inr ⟨?_, [], List.Sublist.refl _, ?_⟩
      · rw [replayBuffered, empty]
      · rw [List.append_nil]
        exact follows
  | cons event rest inductionHypothesis =>
      rw [List.forall_mem_cons] at known
      unfold replayBuffered
      cases standing :
          book.lastUpdateId.elim .next (continuation · event) with
      | old =>
          rcases inductionHypothesis follows known.2 empty with
            isReset | ⟨waiting, more, part, further⟩
          · exact Or.inl isReset
          · exact Or.inr ⟨waiting.cons _, more, part.cons _, further⟩
      | gap =>
          refine Or.inr ⟨?_, [], List.nil_sublist _, ?_⟩
          · rw [empty]
            exact List.singleton_sublist.mpr (List.mem_cons_self ..)
          · rw [List.append_nil]
            exact follows.withBuffered _
      | next =>
          rw [follows.last, Option.elim_some] at standing
          cases result : MarketData.applyDepthDelta book event with
          | error alert =>
              exact Or.inl rfl
          | ok after =>
              obtain ⟨further, waiting⟩ :=
                follows.applyDepthDelta aligned known.1 standing result
              rcases inductionHypothesis further known.2
                  (waiting.trans empty) with
                isReset | ⟨stillWaiting, more, part, followed⟩
              · exact Or.inl isReset
              · refine Or.inr
                  ⟨stillWaiting.cons _, event :: more, part.cons_cons _, ?_⟩
                rw [List.append_cons]
                exact followed

/-- A book that was synced from a snapshot follows it, or is reset. -/
theorem syncDepthBookFromSnapshot_follows
    (aligned : PricesAligned IsPrice)
    (parses : snapshot.Parses)
    (snapshotKnown : snapshot.HasPrices IsPrice)
    (known : ∀ event ∈ book.bufferedEvents, event.HasPrices IsPrice) :
    (syncDepthBookFromSnapshot book snapshot).1 = .empty ∨
      (syncDepthBookFromSnapshot book snapshot).1.bufferedEvents.Sublist
          book.bufferedEvents ∧
        ∃ applied : List BinanceDiffDepthMessage,
          applied.Sublist book.bufferedEvents ∧
            Follows IsPrice snapshot applied
              (syncDepthBookFromSnapshot book snapshot).1 := by
  unfold BinanceOrderBookSnapshot.Parses at parses
  unfold BinanceOrderBookSnapshot.HasPrices parsedLevels at snapshotKnown
  rw [List.forall_mem_append] at parses
  rw [List.filterMap_append, List.forall_mem_append] at snapshotKnown
  have newer :
      (book.bufferedEvents.filter fun event =>
          decide (event.finalUpdateId > snapshot.lastUpdateId)).Sublist
        book.bufferedEvents :=
    List.filter_sublist
  unfold syncDepthBookFromSnapshot parseSnapshotLevels
  dsimp only
  rw [parseSnapshotLevelsFrom_of_parses [] parses.1]
  dsimp only
  rw [parseSnapshotLevelsFrom_of_parses [] parses.2]
  dsimp only
  have started (waiting : List BinanceDiffDepthMessage) :
      Follows IsPrice snapshot []
        { lastUpdateId := some snapshot.lastUpdateId
          bids := (parsedLevels snapshot.bids).foldl addLevel []
          asks := (parsedLevels snapshot.asks).foldl addLevel []
          bufferedEvents := waiting } :=
    { parses := by simp
      continues := trivial
      last := rfl
      bids := sideShows_snapshot aligned snapshotKnown.1
      asks := sideShows_snapshot aligned snapshotKnown.2 }
  generalize
    (book.bufferedEvents.filter fun event =>
      decide (event.finalUpdateId > snapshot.lastUpdateId)) = retained
    at newer
  cases retained with
  | nil =>
      exact Or.inr
        ⟨List.nil_sublist _, [], List.nil_sublist _, started []⟩
  | cons firstEvent others =>
      by_cases misaligned :
          firstEvent.firstUpdateId > snapshot.lastUpdateId + 1
      · simp only [if_pos misaligned]
        exact Or.inr ⟨newer, [], List.nil_sublist _, started _⟩
      · simp only [if_neg misaligned]
        have knownNewer :
            ∀ event ∈ firstEvent :: others, event.HasPrices IsPrice :=
          fun event member => known event (newer.subset member)
        rcases replayBuffered_follows aligned (started []) knownNewer rfl
          with isReset | ⟨waiting, more, part, followed⟩
        · exact Or.inl isReset
        · exact Or.inr
            ⟨waiting.trans newer, more, part.trans newer, followed⟩

end Books

end MarketIngest.MarketData
