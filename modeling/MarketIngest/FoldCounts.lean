import MarketIngest.CappedLog
import MarketIngest.OrderedMap
import Mathlib.Data.List.Induction

namespace MarketIngest

/-!
# What a fold counts, tracks and records

A state that changes input by input may count the inputs of one kind, track the
last value of some kind, and keep the latest entries that the inputs give rise
to.  One step determines all three over a whole run.
-/

variable {State Input Value Entry Key : Type}

section Counts

/-- What every input of one kind raises by one counts those inputs. -/
theorem foldl_counts
    {step : State → Input → State}
    (measure : State → Nat)
    (counts : Input → Bool)
    (one : ∀ state input,
      measure (step state input) =
        measure state + if counts input then 1 else 0)
    (inputs : List Input)
    (state : State) :
    measure (inputs.foldl step state) =
      measure state + inputs.countP counts := by
  induction inputs generalizing state with
  | nil =>
      rfl
  | cons input rest inductionHypothesis =>
      rw [List.foldl_cons, inductionHypothesis, one, List.countP_cons]
      omega

/-- What inputs of two kinds raise by one counts them together. -/
theorem foldl_countsBoth
    {step : State → Input → State}
    (measure : State → Nat)
    (counts others : Input → Bool)
    (one : ∀ state input,
      measure (step state input) =
        measure state + (if counts input then 1 else 0) +
          if others input then 1 else 0)
    (inputs : List Input)
    (state : State) :
    measure (inputs.foldl step state) =
      measure state + inputs.countP counts + inputs.countP others := by
  induction inputs generalizing state with
  | nil =>
      rfl
  | cons input rest inductionHypothesis =>
      rw [List.foldl_cons, inductionHypothesis, one, List.countP_cons,
        List.countP_cons]
      omega

/-- What every input may set tracks the last input that did. -/
theorem foldl_tracks
    {step : State → Input → State}
    (tracked : State → Option Value)
    (valueOf : Input → Option Value)
    (one : ∀ state input,
      tracked (step state input) = (valueOf input).or (tracked state))
    (inputs : List Input)
    (state : State) :
    tracked (inputs.foldl step state) =
      (inputs.filterMap valueOf).getLast?.or (tracked state) := by
  induction inputs using List.reverseRecOn with
  | nil =>
      rfl
  | append_singleton earlier input inductionHypothesis =>
      rw [List.foldl_concat, one, inductionHypothesis, List.filterMap_append,
        List.getLast?_append, ← Option.or_assoc]
      cases found : valueOf input with
      | none =>
          rw [List.filterMap_cons_none found]
          rfl
      | some value =>
          rw [List.filterMap_cons_some found]
          rfl

end Counts

section Records

/-- The entries that some inputs give rise to, each after those before it. -/
def entriesFrom
    (entryOf : List Input → Input → Option Entry)
    (earlier : List Input) : List Input → List Entry
  | [] => []
  | input :: rest =>
      (entryOf earlier input).toList ++
        entriesFrom entryOf (earlier ++ [input]) rest

/-- One more input adds its entry. -/
theorem entriesFrom_concat
    (entryOf : List Input → Input → Option Entry)
    (earlier inputs : List Input)
    (input : Input) :
    entriesFrom entryOf earlier (inputs ++ [input]) =
      entriesFrom entryOf earlier inputs ++
        (entryOf (earlier ++ inputs) input).toList := by
  induction inputs generalizing earlier with
  | nil =>
      simp [entriesFrom]
  | cons first rest inductionHypothesis =>
      rw [List.cons_append, entriesFrom, inductionHypothesis, entriesFrom,
        List.append_assoc, List.append_assoc, List.singleton_append]

/-- Add an entry at the end of a log of bounded length. -/
def pushCapped
    (cap : Nat)
    (kept : List Entry)
    (entry : Entry) : List Entry :=
  if (kept ++ [entry]).length > cap then
    (kept ++ [entry]).tail
  else
    kept ++ [entry]

/-- An added entry is the latest one. -/
theorem KeepsLatest.pushCapped
    {cap dropped : Nat}
    {history kept : List Entry}
    (keeps : KeepsLatest cap history kept dropped)
    (entry : Entry) :
    ∃ others,
      KeepsLatest cap (history ++ [entry]) (pushCapped cap kept entry)
        others := by
  unfold MarketIngest.pushCapped
  rw [List.length_append, List.length_singleton]
  split
  · next full =>
      exact ⟨_, keeps.shift entry full⟩
  · next room =>
      exact ⟨_, keeps.push entry (not_lt.mp room)⟩

/-- What every step adds to a log of bounded length is kept if it is late. -/
theorem foldl_keepsLatest
    {step : State → Input → State}
    {cap : Nat}
    (kept : State → List Entry)
    (entryOf : List Input → Input → Option Entry)
    (initial : State)
    (nothing : kept initial = [])
    (one : ∀ earlier input,
      kept (step (earlier.foldl step initial) input) =
        (entryOf earlier input).elim (kept (earlier.foldl step initial))
          (pushCapped cap (kept (earlier.foldl step initial))))
    (inputs : List Input) :
    ∃ dropped,
      KeepsLatest cap (entriesFrom entryOf [] inputs)
        (kept (inputs.foldl step initial)) dropped := by
  induction inputs using List.reverseRecOn with
  | nil =>
      rw [List.foldl_nil, nothing]
      exact ⟨0, keepsLatest_nil⟩
  | append_singleton earlier input inductionHypothesis =>
      obtain ⟨dropped, keeps⟩ := inductionHypothesis
      rw [entriesFrom_concat, List.nil_append, List.foldl_concat, one]
      cases entryOf earlier input with
      | none =>
          rw [Option.toList_none, List.append_nil]
          exact ⟨dropped, keeps⟩
      | some entry =>
          exact keeps.pushCapped entry

/-- What every step raises by the entry of its input counts all entries. -/
theorem foldl_countsEntries
    {step : State → Input → State}
    (measure : State → Nat)
    (entryOf : List Input → Input → Option Entry)
    (initial : State)
    (one : ∀ earlier input,
      measure (step (earlier.foldl step initial) input) =
        measure (earlier.foldl step initial) +
          (entryOf earlier input).toList.length)
    (inputs : List Input) :
    measure (inputs.foldl step initial) =
      measure initial + (entriesFrom entryOf [] inputs).length := by
  induction inputs using List.reverseRecOn with
  | nil =>
      rfl
  | append_singleton earlier input inductionHypothesis =>
      rw [entriesFrom_concat, List.nil_append, List.foldl_concat, one,
        inductionHypothesis, List.length_append, Nat.add_assoc]

end Records

section Maps

variable [LinearOrder Key]

/-- Count one more of a key. -/
def countOne (counts : OrderedMap Key Nat) (key : Key) :
    OrderedMap Key Nat :=
  counts.insert key ((counts.get? key).getD 0 + 1)

/-- Counting one more of a key changes no other count. -/
theorem get?_countOne
    (counts : OrderedMap Key Nat)
    (key other : Key) :
    ((countOne counts key).get? other).getD 0 =
      (counts.get? other).getD 0 + if other = key then 1 else 0 := by
  rw [countOne, counts.get?_insert]
  by_cases same : other = key
  · subst same
    simp
  · simp [same]

end Maps

end MarketIngest
