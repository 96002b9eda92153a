import Mathlib.Data.List.Induction

namespace MarketIngest.KeyedHistory

/-!
# Comparing the items of a history key by key

The items of a history may have keys, and an item is compared with the last
one before it that has its key.  What the comparisons find for one key depends
on the items of this key only, not on how they are mixed with others: it is
found in their consecutive pairs.
-/

section Pairs

variable {Item : Type}

/-- The consecutive pairs of a list. -/
def pairs (items : List Item) : List (Item × Item) :=
  items.zip items.tail

/-- One more item makes a pair with the last one. -/
theorem pairs_concat
    (items : List Item)
    (item : Item) :
    pairs (items ++ [item]) =
      pairs items ++ (items.getLast?.map (·, item)).toList := by
  induction items with
  | nil =>
      rfl
  | cons first rest inductionHypothesis =>
      cases rest with
      | nil =>
          rfl
      | cons second others =>
          have later :
              pairs (first :: second :: (others ++ [item])) =
                (first, second) :: pairs (second :: others ++ [item]) :=
            rfl
          rw [List.cons_append, List.cons_append, later,
            inductionHypothesis, List.getLast?_cons_cons]
          rfl

end Pairs

variable
  {Item Key Found : Type}
  [DecidableEq Key]
  (keyOf : Item → Option Key)
  (compare : Item → Item → Option Found)

/-- The items of a key, in their order. -/
def itemsOf (items : List Item) (key : Key) : List Item :=
  items.filter (fun item => keyOf item = some key)

/-- What an item shows beside the last item before it with its key. -/
def foundAt (before : List Item) (item : Item) : Option (Key × Found) :=
  (keyOf item).bind (fun key =>
    (itemsOf keyOf before key).getLast?.bind (fun previous =>
      (compare previous item).map (key, ·)))

/-- What the items of a list show after some items before them. -/
def foundFrom : List Item → List Item → List (Key × Found)
  | _, [] => []
  | before, item :: rest =>
      (foundAt keyOf compare before item).toList ++
        foundFrom (before ++ [item]) rest

/-- What the items of a history show. -/
def found (items : List Item) : List (Key × Found) :=
  foundFrom keyOf compare [] items

/-- What was found for a key. -/
def foundFor (all : List (Key × Found)) (key : Key) : List Found :=
  (all.filter (fun entry => entry.1 = key)).map Prod.snd

variable {keyOf compare}

/-- One more item shows its own after what was found before. -/
theorem foundFrom_concat
    (before items : List Item)
    (item : Item) :
    foundFrom keyOf compare before (items ++ [item]) =
      foundFrom keyOf compare before items ++
        (foundAt keyOf compare (before ++ items) item).toList := by
  induction items generalizing before with
  | nil =>
      simp [foundFrom]
  | cons first rest inductionHypothesis =>
      rw [List.cons_append, foundFrom, foundFrom, inductionHypothesis,
        List.append_assoc, List.append_assoc, List.singleton_append]

/-- One more item of a history. -/
theorem found_concat
    (items : List Item)
    (item : Item) :
    found keyOf compare (items ++ [item]) =
      found keyOf compare items ++
        (foundAt keyOf compare items item).toList :=
  foundFrom_concat [] items item

/-- The last value that the items of a key have is that of its last item. -/
theorem getLast?_filterMap_eq
    {Value : Type}
    {valueOf : Item → Option Value}
    {key : Key}
    (hasValue : ∀ item, (valueOf item).isSome ↔ keyOf item = some key)
    (items : List Item) :
    (items.filterMap valueOf).getLast? =
      (itemsOf keyOf items key).getLast?.bind valueOf := by
  induction items using List.reverseRecOn with
  | nil =>
      rfl
  | append_singleton items item inductionHypothesis =>
      rw [List.filterMap_append, itemsOf, List.filter_append]
      by_cases own : keyOf item = some key
      · obtain ⟨value, isValue⟩ :=
          Option.isSome_iff_exists.mp ((hasValue item).mpr own)
        simp [own, isValue]
      · have noValue : valueOf item = none := by
          rw [← Option.not_isSome_iff_eq_none, hasValue]
          exact own
        simpa [own, noValue, itemsOf] using inductionHypothesis

/-- For every key the consecutive pairs of its items show what is found. -/
theorem foundFor_found
    (items : List Item)
    (key : Key) :
    foundFor (found keyOf compare items) key =
      (pairs (itemsOf keyOf items key)).filterMap
        (fun pair => compare pair.1 pair.2) := by
  induction items using List.reverseRecOn with
  | nil =>
      rfl
  | append_singleton items item inductionHypothesis =>
      have before : foundFor
          (found keyOf compare items ++
            (foundAt keyOf compare items item).toList) key =
          foundFor (found keyOf compare items) key ++
            foundFor (foundAt keyOf compare items item).toList key := by
        rw [foundFor, List.filter_append, List.map_append]
        rfl
      rw [found_concat, before, inductionHypothesis]
      by_cases own : keyOf item = some key
      · have one : itemsOf keyOf (items ++ [item]) key =
            itemsOf keyOf items key ++ [item] := by
          simp [itemsOf, own]
        rw [one, pairs_concat, List.filterMap_append]
        congr 1
        rw [foundAt, own, Option.bind_some]
        cases (itemsOf keyOf items key).getLast? with
        | none =>
            rfl
        | some previous =>
            cases shown : compare previous item with
            | none =>
                simp [foundFor, shown]
            | some entry =>
                simp [foundFor, shown]
      · have same : itemsOf keyOf (items ++ [item]) key =
            itemsOf keyOf items key := by
          simp [itemsOf, own]
        have nothing :
            foundFor (foundAt keyOf compare items item).toList key = [] := by
          cases isFound : foundAt keyOf compare items item with
          | none =>
              rfl
          | some entry =>
              obtain ⟨other, isKey, rest⟩ := Option.bind_eq_some_iff.mp isFound
              obtain ⟨previous, _, mapped⟩ := Option.bind_eq_some_iff.mp rest
              obtain ⟨shown, _, rfl⟩ := Option.map_eq_some_iff.mp mapped
              have different : other ≠ key := by
                rintro rfl
                exact own isKey
              simp [foundFor, different]
        rw [same, nothing, List.append_nil]

/-- What is found for a key does not depend on the items of other keys. -/
theorem foundFor_found_congr
    {one other : List Item}
    {key : Key}
    (same : itemsOf keyOf one key = itemsOf keyOf other key) :
    foundFor (found keyOf compare one) key =
      foundFor (found keyOf compare other) key := by
  rw [foundFor_found, foundFor_found, same]

end MarketIngest.KeyedHistory
