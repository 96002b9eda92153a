import MarketIngest.Canonical
import MarketIngest.OrderedMap
import Mathlib.Data.List.Perm.Basic

namespace MarketIngest

/-!
# Items grouped by key and sorted by time

Items are grouped by a key and each group is sorted by time.  What is looked up
at or before a time depends only on the items up to that time, and what is
computed from all groups of the items up to a time is what is computed from the
groups of all items, cut off at that time.
-/

section Sorting

variable
  {Item Key : Type}
  [LinearOrder Key]

/-- Inserting into the selected items is selecting after an insertion. -/
private theorem filter_orderedInsert
    {before : Item → Item → Prop}
    [DecidableRel before]
    (transitive :
      ∀ first second third,
        before first second → before second third → before first third)
    (selects : Item → Bool)
    (item : Item)
    {items : List Item}
    (ascending : items.Pairwise before) :
    (items.orderedInsert before item).filter selects =
      if selects item then
        (items.filter selects).orderedInsert before item
      else
        items.filter selects := by
  induction items with
  | nil =>
      by_cases selected : selects item
      · simp [selected]
      · simp [selected]
  | cons head rest inductionHypothesis =>
      obtain ⟨below, restAscending⟩ := List.pairwise_cons.mp ascending
      have insertedRest := inductionHypothesis restAscending
      by_cases isBefore : before item head
      · rw [List.orderedInsert_cons_of_le _ _ isBefore]
        by_cases selected : selects item
        · -- Everything that is selected comes after the item.
          have first :
              ∀ other ∈ (head :: rest).filter selects,
                before item other := by
            intro other member
            rcases List.mem_cons.mp (List.mem_filter.mp member).1 with
              rfl | later
            · exact isBefore
            · exact transitive _ _ _ isBefore (below other later)
          rw [if_pos selected, List.filter_cons_of_pos selected]
          cases kept : (head :: rest).filter selects with
          | nil => rfl
          | cons other others =>
              rw [List.orderedInsert_cons_of_le]
              apply first
              rw [kept]
              exact List.mem_cons_self
        · rw [if_neg selected, List.filter_cons_of_neg selected]
      · rw [List.orderedInsert_of_not_le _ _ isBefore]
        by_cases headSelected : selects head
        · rw [List.filter_cons_of_pos headSelected, insertedRest,
            List.filter_cons_of_pos headSelected,
            List.orderedInsert_of_not_le _ _ isBefore]
          split_ifs
          · rfl
          · rfl
        · rw [List.filter_cons_of_neg headSelected, insertedRest,
            List.filter_cons_of_neg headSelected]

/-- Selecting from sorted items is sorting the selected ones. -/
theorem filter_sortBy
    (key : Item → Key)
    (selects : Item → Bool)
    (items : List Item) :
    (sortBy key items).filter selects =
      sortBy key (items.filter selects) := by
  induction items with
  | nil =>
      rfl
  | cons item rest inductionHypothesis =>
      have inserted :=
        filter_orderedInsert
          (fun _ _ _ firstBelow secondBelow => firstBelow.trans secondBelow)
          selects item (sortBy_ascending key rest)
      rw [inductionHypothesis] at inserted
      by_cases selected : selects item
      · rw [if_pos selected] at inserted
        rw [List.filter_cons_of_pos selected]
        exact inserted
      · rw [if_neg selected] at inserted
        rw [List.filter_cons_of_neg selected]
        exact inserted

end Sorting

section Maps

variable
  {Key Value Result : Type}
  [LinearOrder Key]

/-- Change or drop every value of a map. -/
def OrderedMap.filterMapValues
    (change : Value → Option Result)
    (map : OrderedMap Key Value) : OrderedMap Key Result where
  entries :=
    map.entries.filterMap fun entry =>
      (change entry.2).map fun result => (entry.1, result)
  ascending := by
    refine map.ascending.filterMap _ ?_
    intro first second below firstResult firstKept secondResult secondKept
    obtain ⟨_, _, rfl⟩ := Option.map_eq_some_iff.mp firstKept
    obtain ⟨_, _, rfl⟩ := Option.map_eq_some_iff.mp secondKept
    exact below

/-- Lookup after values were changed or dropped. -/
theorem OrderedMap.get?_filterMapValues
    (change : Value → Option Result)
    (map : OrderedMap Key Value)
    (key : Key) :
    (map.filterMapValues change).get? key =
      (map.get? key).bind change := by
  apply Option.ext
  intro result
  rw [OrderedMap.get?_eq_some_iff, Option.bind_eq_some_iff,
    OrderedMap.filterMapValues, List.mem_filterMap]
  constructor
  · rintro ⟨entry, member, kept⟩
    obtain ⟨_, changed, same⟩ := Option.map_eq_some_iff.mp kept
    obtain ⟨rfl, rfl⟩ := Prod.mk.inj same
    exact ⟨entry.2, OrderedMap.get?_eq_some_iff.mpr member, changed⟩
  · rintro ⟨value, found, changed⟩
    exact
      ⟨(key, value), OrderedMap.get?_eq_some_iff.mp found, by
        simp [changed]⟩

/-- Keep the entries of some keys. -/
def OrderedMap.restrict
    (selects : Key → Bool)
    (map : OrderedMap Key Value) : OrderedMap Key Value where
  entries := map.entries.filter fun entry => selects entry.1
  ascending := map.ascending.filter _

/-- Lookup among some keys. -/
theorem OrderedMap.get?_restrict
    (selects : Key → Bool)
    (map : OrderedMap Key Value)
    (key : Key) :
    (map.restrict selects).get? key =
      if selects key then map.get? key else none := by
  apply Option.ext
  intro value
  rw [OrderedMap.get?_eq_some_iff, OrderedMap.restrict, List.mem_filter]
  split_ifs with selected
  · rw [OrderedMap.get?_eq_some_iff]
    exact and_iff_left selected
  · simp [selected]

end Maps

section Groups

variable
  {Key Item : Type}
  [LinearOrder Key]

/-- Group items by a key and sort every group by time. -/
def groupByTime
    (keyOf : Item → Key)
    (timeOf : Item → Int)
    (items : List Item) : OrderedMap Key (List Item) :=
  let grouped : OrderedMap Key (List Item) :=
    items.foldl
      (fun grouped item =>
        grouped.upsert (keyOf item) (fun known => known.getD [] ++ [item]))
      .empty
  grouped.mapValues (sortBy timeOf)

/-- The list, if it has items. -/
def nonEmpty (items : List Item) : Option (List Item) :=
  if items.isEmpty then none else some items

/-- Pushing items one after the other gives the list of them. -/
private theorem pushAll_eq
    (items : List Item) :
    items.foldl
        (fun (known : Option (List Item)) item =>
          some (known.getD [] ++ [item]))
        none =
      nonEmpty items := by
  induction items using List.reverseRecOn with
  | nil =>
      rfl
  | append_singleton earlier item inductionHypothesis =>
      rw [List.foldl_append, inductionHypothesis, nonEmpty]
      cases earlier with
      | nil => rfl
      | cons head rest => rfl

/-- The group of a key has the items of the key, sorted by time. -/
theorem get?_groupByTime
    (keyOf : Item → Key)
    (timeOf : Item → Int)
    (items : List Item)
    (key : Key) :
    (groupByTime keyOf timeOf items).get? key =
      (nonEmpty (items.filter fun item => keyOf item = key)).map
        (sortBy timeOf) := by
  have looked :=
    @OrderedMap.get?_foldl_upsert Key (List Item) _ Item keyOf
      (fun item known => known.getD [] ++ [item]) items .empty key
  rw [groupByTime, OrderedMap.get?_mapValues, looked,
    OrderedMap.get?_empty, pushAll_eq]

/-- Sorting adds and drops nothing. -/
private theorem nonEmpty_sortBy
    (timeOf : Item → Int)
    (items : List Item) :
    nonEmpty (sortBy timeOf items) =
      (nonEmpty items).map (sortBy timeOf) := by
  have sameLength := (sortBy_perm timeOf items).length_eq
  cases items with
  | nil =>
      rfl
  | cons head rest =>
      cases sorted : sortBy timeOf (head :: rest) with
      | nil =>
          rw [sorted] at sameLength
          cases sameLength
      | cons first others =>
          simp [nonEmpty, sorted]

/-- The groups of the items up to a time are the groups cut off there. -/
theorem groupByTime_upTo
    (keyOf : Item → Key)
    (timeOf : Item → Int)
    (items : List Item)
    (window : Int) :
    groupByTime keyOf timeOf
        (items.filter fun item => decide (timeOf item ≤ window)) =
      (groupByTime keyOf timeOf items).filterMapValues
        (fun group =>
          nonEmpty (group.filter fun item =>
            decide (timeOf item ≤ window))) := by
  apply OrderedMap.ext_get?
  intro key
  rw [get?_groupByTime, OrderedMap.get?_filterMapValues, get?_groupByTime,
    List.filter_comm]
  cases items.filter fun item => decide (keyOf item = key) with
  | nil =>
      rfl
  | cons head rest =>
      change _ = nonEmpty ((sortBy timeOf (head :: rest)).filter _)
      rw [filter_sortBy, nonEmpty_sortBy]

/-- What the groups give up to a time is what the groups cut off there give. -/
theorem flatMap_groupByTime_upTo
    {Result : Type}
    (keyOf : Item → Key)
    (timeOf : Item → Int)
    (items : List Item)
    (window : Int)
    {resultsOf : List Item → List Result}
    (nothing : resultsOf [] = []) :
    (groupByTime keyOf timeOf
        (items.filter fun item =>
          decide (timeOf item ≤ window))).values.flatMap resultsOf =
      (groupByTime keyOf timeOf items).values.flatMap fun group =>
        resultsOf (group.filter fun item =>
          decide (timeOf item ≤ window)) := by
  rw [groupByTime_upTo]
  simp only [OrderedMap.values, OrderedMap.filterMapValues]
  induction (groupByTime keyOf timeOf items).entries with
  | nil =>
      rfl
  | cons entry rest inductionHypothesis =>
      rw [List.filterMap_cons, List.map_cons, List.flatMap_cons,
        ← inductionHypothesis, nonEmpty]
      cases kept :
          entry.2.filter fun item => decide (timeOf item ≤ window) with
      | nil =>
          rw [nothing]
          rfl
      | cons head others =>
          rfl

end Groups

section Lookback

variable
  {Item : Type}
  {timeOf : Item → Int}

/-- The last item at or before a time is among the items up to a later one. -/
theorem find?_reverse_upTo
    (items : List Item)
    {target window : Int}
    (earlier : target ≤ window) :
    ((items.filter fun item =>
        decide (timeOf item ≤ window)).reverse.find? fun item =>
          decide (timeOf item ≤ target)) =
      items.reverse.find? fun item => decide (timeOf item ≤ target) := by
  rw [← List.getLast?_filter, ← List.getLast?_filter, List.filter_filter]
  congr 1
  apply List.filter_congr
  intro item _
  by_cases before : timeOf item ≤ target
  · simp [before, before.trans earlier]
  · simp [before]

/-- The number of leading items with a property. -/
def partitionPoint
    (selects : Item → Bool)
    (items : List Item) : Nat :=
  (items.takeWhile selects).length

/-- The item before the partition point is the last one at or before the time. -/
theorem getElem?_partitionPoint
    {items : List Item}
    (ascending :
      items.Pairwise (fun first second => timeOf first ≤ timeOf second))
    (target : Int) :
    (if partitionPoint (fun item => decide (timeOf item ≤ target)) items = 0
      then none
      else items[partitionPoint
        (fun item => decide (timeOf item ≤ target)) items - 1]?) =
      items.reverse.find? fun item => decide (timeOf item ≤ target) := by
  have taken :
      items.takeWhile (fun item => decide (timeOf item ≤ target)) =
        items.filter fun item => decide (timeOf item ≤ target) := by
    induction items with
    | nil =>
        rfl
    | cons head rest inductionHypothesis =>
        obtain ⟨below, restAscending⟩ := List.pairwise_cons.mp ascending
        by_cases before : timeOf head ≤ target
        · rw [List.takeWhile_cons_of_pos (by simpa using before),
            List.filter_cons_of_pos (by simpa using before),
            inductionHypothesis restAscending]
        · have none :
              rest.filter (fun item => decide (timeOf item ≤ target)) =
                [] := by
            rw [List.filter_eq_nil_iff]
            intro item member
            have above := below item member
            simp only [decide_eq_true_eq]
            omega
          rw [List.takeWhile_cons_of_neg (by simpa using before),
            List.filter_cons_of_neg (by simpa using before), none]
  rw [← List.getLast?_filter, ← taken, partitionPoint]
  obtain ⟨after, split⟩ :
      items.takeWhile (fun item => decide (timeOf item ≤ target)) <+:
        items :=
    List.takeWhile_prefix _
  generalize items.takeWhile _ = leading at split
  rw [← split]
  cases leading with
  | nil =>
      rfl
  | cons head rest =>
      rw [if_neg (by simp), List.getLast?_eq_getElem?,
        List.getElem?_append_left (by simp)]

/-- The last item at or before a time is the latest of them. -/
theorem timeOf_le_of_find?_reverse
    {items : List Item}
    (ascending :
      items.Pairwise (fun first second => timeOf first ≤ timeOf second))
    {target : Int}
    {found : Item}
    (last :
      (items.reverse.find? fun item => decide (timeOf item ≤ target)) =
        some found)
    {item : Item}
    (member : item ∈ items)
    (before : timeOf item ≤ target) :
    timeOf item ≤ timeOf found := by
  rw [← List.getLast?_filter] at last
  obtain ⟨earlier, selected⟩ := List.getLast?_eq_some_iff.mp last
  have sorted := ascending.filter fun item => decide (timeOf item ≤ target)
  rw [selected, List.pairwise_append] at sorted
  have among :
      item ∈ items.filter fun item => decide (timeOf item ≤ target) :=
    List.mem_filter.mpr ⟨member, by simpa using before⟩
  rw [selected, List.mem_append, List.mem_singleton] at among
  rcases among with inEarlier | rfl
  · exact sorted.2.2 item inEarlier found (List.mem_singleton.mpr rfl)
  · exact le_refl _

end Lookback

section Causal

variable
  {Key Item Result : Type}
  [LinearOrder Key]

/-- Every result is of the time of its item, and that of a valid item depends
only on the items of the group up to that time. -/
structure LooksBack
    (valid : Item → Prop)
    (timeOf : Item → Int)
    (resultTime : Result → Int)
    (resultsOf : List Item → Item → List Result) : Prop where
  own :
    ∀ group item,
      ∀ result ∈ resultsOf group item, resultTime result = timeOf item
  causal :
    ∀ (group : List Item) item window,
      group.Pairwise (fun first second => timeOf first ≤ timeOf second) →
      valid item → timeOf item ≤ window →
      resultsOf (group.filter fun other => decide (timeOf other ≤ window))
          item =
        resultsOf group item

/-- Every group is sorted by time. -/
theorem groupByTime_ascending
    {keyOf : Item → Key}
    {timeOf : Item → Int}
    {items group : List Item}
    (member : group ∈ (groupByTime keyOf timeOf items).values) :
    group.Pairwise (fun first second => timeOf first ≤ timeOf second) := by
  obtain ⟨key, found⟩ := OrderedMap.mem_values_iff.mp member
  rw [get?_groupByTime] at found
  obtain ⟨listed, _, rfl⟩ := Option.map_eq_some_iff.mp found
  exact sortBy_ascending timeOf listed

/-- A group has the items of its key. -/
theorem exists_key_of_mem_groupByTime
    {keyOf : Item → Key}
    {timeOf : Item → Int}
    {items group : List Item}
    (isGroup : group ∈ (groupByTime keyOf timeOf items).values) :
    ∃ key, ∀ item, item ∈ group ↔ item ∈ items ∧ keyOf item = key := by
  obtain ⟨key, found⟩ := OrderedMap.mem_values_iff.mp isGroup
  rw [get?_groupByTime, nonEmpty] at found
  obtain ⟨listed, isListed, rfl⟩ := Option.map_eq_some_iff.mp found
  split_ifs at isListed
  refine ⟨key, fun item => ?_⟩
  rw [← Option.some.inj isListed, (sortBy_perm timeOf _).mem_iff,
    List.mem_filter, decide_eq_true_eq]

/-- The items of a group are among the items. -/
theorem mem_of_mem_groupByTime
    {keyOf : Item → Key}
    {timeOf : Item → Int}
    {items group : List Item}
    (isGroup : group ∈ (groupByTime keyOf timeOf items).values)
    {item : Item}
    (member : item ∈ group) :
    item ∈ items := by
  obtain ⟨_, ofKey⟩ := exists_key_of_mem_groupByTime isGroup
  exact ((ofKey item).mp member).1

/-- The groups together have all items, each of them once. -/
theorem flatten_groupByTime_perm
    (keyOf : Item → Key)
    (timeOf : Item → Int)
    (items : List Item) :
    (groupByTime keyOf timeOf items).values.flatten.Perm items := by
  have own :
      ∀ entry ∈ (groupByTime keyOf timeOf items).entries,
        entry.2.Perm (items.filter fun item => keyOf item = entry.1) := by
    rintro ⟨key, group⟩ entry
    have found := OrderedMap.get?_eq_some_iff.mpr entry
    rw [get?_groupByTime, nonEmpty] at found
    obtain ⟨listed, isListed, rfl⟩ := Option.map_eq_some_iff.mp found
    split_ifs at isListed
    rw [← Option.some.inj isListed]
    exact sortBy_perm timeOf _
  have byKey :
      (groupByTime keyOf timeOf items).values.flatten.Perm
        ((groupByTime keyOf timeOf items).keys.flatMap fun key =>
          items.filter fun item => keyOf item = key) := by
    rw [OrderedMap.values, OrderedMap.keys, List.flatMap_map,
      ← List.flatMap_def]
    exact List.Perm.flatMap_left _ own
  refine byKey.trans
    ((OrderedMap.flatMap_filter_perm keyOf items
      (OrderedMap.keys_nodup _)).trans (.of_eq ?_))
  rw [List.filter_eq_self]
  intro item member
  rw [decide_eq_true_eq, OrderedMap.mem_keys_iff]
  have listed :
      item ∈ items.filter fun other => keyOf other = keyOf item :=
    List.mem_filter.mpr ⟨member, decide_eq_true rfl⟩
  rw [get?_groupByTime, nonEmpty,
    if_neg (by simpa using List.ne_nil_of_mem listed)]
  exact ⟨_, rfl⟩

/-- What is made of the kept items of all groups, one by one, is what is made of
the kept items. -/
theorem flatMap_groups_perm
    {keyOf : Item → Key}
    {timeOf : Item → Int}
    {items : List Item}
    {Made : Type}
    (keep : Item → Bool)
    {madeOf : List Item → Item → List Made}
    {make : Item → List Made}
    (own : ∀ group item, madeOf group item = make item) :
    ((groupByTime keyOf timeOf items).values.flatMap fun group =>
        (group.filter keep).flatMap (madeOf group)).Perm
      ((items.filter keep).flatMap make) := by
  have all :
      ((groupByTime keyOf timeOf items).values.flatMap fun group =>
          (group.filter keep).flatMap (madeOf group)) =
        ((groupByTime keyOf timeOf items).values.flatten.filter
          keep).flatMap make := by
    rw [List.filter_flatten, List.flatten_eq_flatMap, List.flatMap_assoc,
      List.flatMap_map]
    simp only [id_eq, funext (own _)]
  rw [all]
  have kept := (flatten_groupByTime_perm keyOf timeOf items).filter keep
  exact kept.flatMap_right make

/-- The results of a group up to a time are those of the group cut off there. -/
private theorem LooksBack.filter_group
    {valid : Item → Prop}
    {timeOf : Item → Int}
    {resultTime : Result → Int}
    {resultsOf : List Item → Item → List Result}
    (looksBack : LooksBack valid timeOf resultTime resultsOf)
    {group : List Item}
    (ascending :
      group.Pairwise (fun first second => timeOf first ≤ timeOf second))
    (allValid : ∀ item ∈ group, valid item)
    (selects : Item → Bool)
    (window : Int) :
    ((group.filter selects).flatMap (resultsOf group)).filter
        (fun result => decide (resultTime result ≤ window)) =
      ((group.filter fun item =>
        decide (timeOf item ≤ window)).filter selects).flatMap
          (resultsOf
            (group.filter fun item => decide (timeOf item ≤ window))) := by
  rw [List.filter_flatMap, List.filter_comm]
  have selectedValid : ∀ item ∈ group.filter selects, valid item :=
    fun item member => allValid item (List.mem_filter.mp member).1
  generalize group.filter selects = selected at selectedValid
  induction selected with
  | nil =>
      rfl
  | cons item rest inductionHypothesis =>
      obtain ⟨itemValid, restValid⟩ :=
        List.forall_mem_cons.mp selectedValid
      rw [List.flatMap_cons, inductionHypothesis restValid]
      by_cases within : timeOf item ≤ window
      · have kept :
            (resultsOf group item).filter
                (fun result => decide (resultTime result ≤ window)) =
              resultsOf group item := by
          rw [List.filter_eq_self]
          intro result member
          simpa [looksBack.own group item result member] using within
        rw [List.filter_cons_of_pos (by simpa using within),
          List.flatMap_cons, kept,
          looksBack.causal group item window ascending itemValid within]
      · have dropped :
            (resultsOf group item).filter
                (fun result => decide (resultTime result ≤ window)) =
              [] := by
          rw [List.filter_eq_nil_iff]
          intro result member
          simpa [looksBack.own group item result member] using within
        rw [List.filter_cons_of_neg (by simpa using within), dropped]
        rfl

/-- The results up to a time are the results of the items up to that time. -/
theorem LooksBack.filter_groups
    {valid : Item → Prop}
    {timeOf : Item → Int}
    {resultTime : Result → Int}
    {resultsOf : List Item → Item → List Result}
    (looksBack : LooksBack valid timeOf resultTime resultsOf)
    (keyOf : Item → Key)
    (selects : Item → Bool)
    {items : List Item}
    (allValid : ∀ item ∈ items, valid item)
    (window : Int) :
    ((groupByTime keyOf timeOf items).values.flatMap fun group =>
        (group.filter selects).flatMap (resultsOf group)).filter
        (fun result => decide (resultTime result ≤ window)) =
      (groupByTime keyOf timeOf
        (items.filter fun item =>
          decide (timeOf item ≤ window))).values.flatMap fun group =>
            (group.filter selects).flatMap (resultsOf group) := by
  rw [flatMap_groupByTime_upTo keyOf timeOf items window rfl,
    List.filter_flatMap]
  refine List.flatMap_congr ?_
  intro group member
  exact
    looksBack.filter_group (groupByTime_ascending member)
      (fun item inGroup => allValid item (mem_of_mem_groupByTime member inGroup))
      selects window

end Causal

end MarketIngest
