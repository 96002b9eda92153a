import Mathlib.Data.List.Sort
import Mathlib.Order.Defs.LinearOrder

namespace MarketIngest

/-!
# Finite maps in ascending key order

A finite map is an association list whose keys are strictly ascending, so one
map has one representation and traversal visits keys in order.  The bound is a
field: operations re-establish it once and clients never see an unsorted map.

Besides lookup after `insert` and `erase`, the module gives the permutation
laws that account for every entry of a map across an update.
-/

/-- A finite map stored as a strictly ascending association list. -/
structure OrderedMap (Key Value : Type) [LinearOrder Key] where
  entries : List (Key × Value)
  ascending : entries.Pairwise (fun first second => first.1 < second.1)

namespace OrderedMap

variable {Key Value : Type} [LinearOrder Key]

/-- The map without entries. -/
def empty : OrderedMap Key Value where
  entries := []
  ascending := .nil

/-- Place one entry into an ascending association list. -/
def insertEntry
    (key : Key)
    (value : Value) :
    List (Key × Value) → List (Key × Value)
  | [] => [(key, value)]
  | entry :: rest =>
      if key < entry.1 then
        (key, value) :: entry :: rest
      else if key = entry.1 then
        (key, value) :: rest
      else
        entry :: insertEntry key value rest

/-- Only the inserted key can be new in the resulting association list. -/
theorem mem_insertEntry_key
    {key : Key}
    {value : Value}
    {entries : List (Key × Value)}
    {entry : Key × Value}
    (member : entry ∈ insertEntry key value entries) :
    entry = (key, value) ∨ entry ∈ entries := by
  induction entries with
  | nil =>
      simpa [insertEntry] using member
  | cons head rest inductionHypothesis =>
      unfold insertEntry at member
      split at member
      · simpa using member
      · split at member
        · rcases List.mem_cons.mp member with isNew | inRest
          · exact Or.inl isNew
          · exact Or.inr (List.mem_cons_of_mem _ inRest)
        · rcases List.mem_cons.mp member with isHead | inRest
          · exact Or.inr (by simp [isHead])
          · rcases inductionHypothesis inRest with isNew | older
            · exact Or.inl isNew
            · exact Or.inr (List.mem_cons_of_mem _ older)

/-- Inserting keeps the association list strictly ascending. -/
theorem insertEntry_ascending
    (key : Key)
    (value : Value)
    {entries : List (Key × Value)}
    (ascending :
      entries.Pairwise (fun first second => first.1 < second.1)) :
    (insertEntry key value entries).Pairwise
      (fun first second => first.1 < second.1) := by
  induction entries with
  | nil =>
      simp [insertEntry]
  | cons head rest inductionHypothesis =>
      obtain ⟨headBelow, restAscending⟩ :=
        List.pairwise_cons.mp ascending
      unfold insertEntry
      split
      · rename_i below
        refine List.pairwise_cons.mpr ⟨?_, ascending⟩
        intro entry member
        rcases List.mem_cons.mp member with isHead | inRest
        · simpa [isHead] using below
        · exact lt_trans below (headBelow entry inRest)
      · split
        · rename_i same
          refine List.pairwise_cons.mpr ⟨?_, restAscending⟩
          intro entry member
          simpa [same] using headBelow entry member
        · rename_i notBelow notSame
          have above : head.1 < key :=
            lt_of_le_of_ne (not_lt.mp notBelow) (Ne.symm notSame)
          refine List.pairwise_cons.mpr
            ⟨?_, inductionHypothesis restAscending⟩
          intro entry member
          rcases mem_insertEntry_key member with isNew | inRest
          · simpa [isNew] using above
          · exact headBelow entry inRest

/-- Bind a key, replacing the value it had. -/
def insert
    (map : OrderedMap Key Value)
    (key : Key)
    (value : Value) : OrderedMap Key Value where
  entries := insertEntry key value map.entries
  ascending := insertEntry_ascending key value map.ascending

/-- Drop the binding of a key. -/
def erase
    (map : OrderedMap Key Value)
    (key : Key) : OrderedMap Key Value where
  entries := map.entries.filter (fun entry => entry.1 ≠ key)
  ascending := map.ascending.filter _

/-- The value bound to a key. -/
def get?
    (map : OrderedMap Key Value)
    (key : Key) : Option Value :=
  (map.entries.find? (fun entry => entry.1 = key)).map Prod.snd

/-- The keys in ascending order. -/
def keys (map : OrderedMap Key Value) : List Key :=
  map.entries.map Prod.fst

/-- The values in ascending key order. -/
def values (map : OrderedMap Key Value) : List Value :=
  map.entries.map Prod.snd

@[simp] theorem entries_empty :
    (empty : OrderedMap Key Value).entries = [] :=
  rfl

@[simp] theorem get?_empty
    (key : Key) :
    (empty : OrderedMap Key Value).get? key = none :=
  rfl

/-- Two entries of one map with the same key are the same entry. -/
theorem eq_of_mem_of_key_eq
    (map : OrderedMap Key Value)
    {first second : Key × Value}
    (firstMember : first ∈ map.entries)
    (secondMember : second ∈ map.entries)
    (sameKey : first.1 = second.1) :
    first = second := by
  have distinct : (map.entries.map Prod.fst).Nodup :=
    List.pairwise_map.mpr
      (map.ascending.imp (fun below => ne_of_lt below))
  exact List.inj_on_of_nodup_map distinct
    firstMember secondMember sameKey

/-- Lookup finds exactly the stored entries. -/
theorem get?_eq_some_iff
    {map : OrderedMap Key Value}
    {key : Key}
    {value : Value} :
    map.get? key = some value ↔ (key, value) ∈ map.entries := by
  constructor
  · intro found
    obtain ⟨entry, located, valueShape⟩ :=
      Option.map_eq_some_iff.mp found
    have keyShape : entry.1 = key := by
      simpa using List.find?_some located
    have member := List.mem_of_find?_eq_some located
    rw [← keyShape, ← valueShape]
    exact member
  · intro member
    cases located :
        map.entries.find? (fun entry => entry.1 = key) with
    | none =>
        have absent :=
          List.find?_eq_none.mp located (key, value) member
        simp at absent
    | some entry =>
        have keyShape : entry.1 = key := by
          simpa using List.find?_some located
        have same :=
          map.eq_of_mem_of_key_eq
            (List.mem_of_find?_eq_some located) member keyShape
        simp [get?, located, same]

/-- A key is listed exactly when it is bound. -/
theorem mem_keys_iff
    {map : OrderedMap Key Value}
    {key : Key} :
    key ∈ map.keys ↔ ∃ value, map.get? key = some value := by
  constructor
  · intro member
    obtain ⟨entry, entryMember, keyShape⟩ := List.mem_map.mp member
    refine ⟨entry.2, get?_eq_some_iff.mpr ?_⟩
    rw [← keyShape]
    exact entryMember
  · rintro ⟨value, found⟩
    exact List.mem_map.mpr
      ⟨(key, value), get?_eq_some_iff.mp found, rfl⟩

/-- The keys of a map are strictly ascending. -/
theorem keys_ascending
    (map : OrderedMap Key Value) :
    map.keys.Pairwise (· < ·) :=
  List.pairwise_map.mpr map.ascending

/-- The keys are distinct. -/
theorem keys_nodup
    (map : OrderedMap Key Value) :
    map.keys.Nodup :=
  map.keys_ascending.imp (fun below => below.ne)

/-- Entries with other keys survive in the erased map, in order. -/
theorem mem_erase_entries
    {map : OrderedMap Key Value}
    {key : Key}
    {entry : Key × Value} :
    entry ∈ (map.erase key).entries ↔
      entry ∈ map.entries ∧ entry.1 ≠ key := by
  simp [erase]

@[simp] theorem get?_erase_same
    (map : OrderedMap Key Value)
    (key : Key) :
    (map.erase key).get? key = none := by
  cases found : (map.erase key).get? key with
  | none =>
      rfl
  | some value =>
      exact absurd rfl
        (mem_erase_entries.mp (get?_eq_some_iff.mp found)).2

theorem get?_erase_other
    (map : OrderedMap Key Value)
    {key other : Key}
    (different : other ≠ key) :
    (map.erase key).get? other = map.get? other := by
  apply Option.ext
  intro value
  simp only [get?_eq_some_iff, mem_erase_entries]
  exact ⟨fun kept => kept.1, fun member => ⟨member, different⟩⟩

/-- An association list without the inserted key only gains the new entry. -/
theorem insertEntry_perm
    (key : Key)
    (value : Value)
    {entries : List (Key × Value)}
    (ascending :
      entries.Pairwise (fun first second => first.1 < second.1)) :
    (insertEntry key value entries).Perm
      ((key, value) :: entries.filter (fun entry => entry.1 ≠ key)) := by
  induction entries with
  | nil =>
      simp [insertEntry]
  | cons head rest inductionHypothesis =>
      obtain ⟨headBelow, restAscending⟩ :=
        List.pairwise_cons.mp ascending
      have restKept
          (notAbove : key ≤ head.1) :
          rest.filter (fun entry => entry.1 ≠ key) = rest := by
        apply List.filter_eq_self.mpr
        intro entry member
        have above : key < entry.1 :=
          lt_of_le_of_lt notAbove (headBelow entry member)
        simpa using ne_of_gt above
      unfold insertEntry
      split
      · rename_i below
        have headKept : head.1 ≠ key := ne_of_gt below
        rw [List.filter_cons_of_pos (by simpa using headKept),
          restKept (le_of_lt below)]
      · split
        · rename_i same
          rw [List.filter_cons_of_neg (by simp [same]),
            restKept (le_of_eq same)]
        · rename_i notBelow notSame
          rw [List.filter_cons_of_pos (by simpa using Ne.symm notSame)]
          exact ((inductionHypothesis restAscending).cons head).trans
            (List.Perm.swap _ _ _)

/-- Inserting accounts for the new entry and every entry with another key. -/
theorem entries_insert_perm
    (map : OrderedMap Key Value)
    (key : Key)
    (value : Value) :
    (map.insert key value).entries.Perm
      ((key, value) :: (map.erase key).entries) :=
  insertEntry_perm key value map.ascending

/-- A bound key accounts for exactly one entry of the map. -/
theorem entries_perm_of_get?
    {map : OrderedMap Key Value}
    {key : Key}
    {value : Value}
    (found : map.get? key = some value) :
    map.entries.Perm ((key, value) :: (map.erase key).entries) := by
  have member := get?_eq_some_iff.mp found
  have distinct : map.entries.Nodup :=
    map.ascending.imp (fun below same => by
      simp [same] at below)
  refine (List.perm_ext_iff_of_nodup distinct ?_).mpr ?_
  · refine List.nodup_cons.mpr ⟨?_, distinct.filter _⟩
    intro kept
    exact (mem_erase_entries.mp kept).2 rfl
  · intro entry
    rw [List.mem_cons, mem_erase_entries]
    constructor
    · intro entryMember
      by_cases sameKey : entry.1 = key
      · exact Or.inl
          (map.eq_of_mem_of_key_eq entryMember member sameKey)
      · exact Or.inr ⟨entryMember, sameKey⟩
    · rintro (isBound | ⟨entryMember, _⟩)
      · rw [isBound]
        exact member
      · exact entryMember

/-- Erasing an unbound key changes nothing. -/
theorem erase_entries_of_get?_none
    {map : OrderedMap Key Value}
    {key : Key}
    (absent : map.get? key = none) :
    (map.erase key).entries = map.entries := by
  apply List.filter_eq_self.mpr
  intro entry member
  have different : entry.1 ≠ key := by
    intro sameKey
    have found : map.get? key = some entry.2 :=
      get?_eq_some_iff.mpr (by rw [← sameKey]; exact member)
    rw [absent] at found
    cases found
  simpa using different

/-- Erasing an unbound key gives the same map. -/
theorem erase_of_get?_none
    {map : OrderedMap Key Value}
    {key : Key}
    (absent : map.get? key = none) :
    map.erase key = map := by
  have sameEntries := erase_entries_of_get?_none absent
  cases map
  cases erased : erase _ key
  simp only [erased, mk.injEq] at sameEntries ⊢
  exact sameEntries

@[simp] theorem get?_insert_same
    (map : OrderedMap Key Value)
    (key : Key)
    (value : Value) :
    (map.insert key value).get? key = some value :=
  get?_eq_some_iff.mpr
    ((map.entries_insert_perm key value).mem_iff.mpr
      (List.mem_cons_self ..))

theorem get?_insert_other
    (map : OrderedMap Key Value)
    {key other : Key}
    (different : other ≠ key)
    (value : Value) :
    (map.insert key value).get? other = map.get? other := by
  rw [← map.get?_erase_other different]
  apply Option.ext
  intro found
  rw [get?_eq_some_iff, get?_eq_some_iff,
    (map.entries_insert_perm key value).mem_iff, List.mem_cons]
  constructor
  · rintro (isNew | kept)
    · exact absurd (congrArg Prod.fst isNew) different
    · exact kept
  · exact Or.inr

/-- Lookup after one insertion. -/
theorem get?_insert
    (map : OrderedMap Key Value)
    (key other : Key)
    (value : Value) :
    (map.insert key value).get? other =
      if other = key then some value else map.get? other := by
  by_cases same : other = key
  · simp [same]
  · simp [same, map.get?_insert_other same]

/-- Maps with the same lookups are the same map. -/
theorem ext_get?
    {first second : OrderedMap Key Value}
    (same : ∀ key, first.get? key = second.get? key) :
    first = second := by
  have perm : first.entries.Perm second.entries := by
    have nodup (map : OrderedMap Key Value) : map.entries.Nodup :=
      map.ascending.imp (fun below equal => by simp [equal] at below)
    refine (List.perm_ext_iff_of_nodup (nodup first) (nodup second)).mpr ?_
    intro entry
    have lookup := same entry.1
    constructor
    · intro member
      exact get?_eq_some_iff.mp
        (lookup ▸ get?_eq_some_iff.mpr member)
    · intro member
      exact get?_eq_some_iff.mp
        (lookup.symm ▸ get?_eq_some_iff.mpr member)
  have sameEntries : first.entries = second.entries :=
    perm.eq_of_pairwise
      (fun left right _ _ below above =>
        absurd (lt_trans below above) (lt_irrefl _))
      first.ascending second.ascending
  cases first
  cases second
  congr

section Upserts

/-- Rebind a key by the value it had, if any. -/
def upsert
    (map : OrderedMap Key Value)
    (key : Key)
    (update : Option Value → Value) : OrderedMap Key Value :=
  map.insert key (update (map.get? key))

theorem get?_upsert
    (map : OrderedMap Key Value)
    (key other : Key)
    (update : Option Value → Value) :
    (map.upsert key update).get? other =
      if other = key then some (update (map.get? key))
      else map.get? other :=
  map.get?_insert key other _

variable {Item : Type} {keyOf : Item → Key}

/-- What is true of every value under its key stays true under upserts. -/
theorem upserts_induction
    {property : Key → Value → Prop}
    {update : Item → Option Value → Value}
    (items : List Item)
    {map : OrderedMap Key Value}
    (initially :
      ∀ key value, map.get? key = some value → property key value)
    (updated :
      ∀ item ∈ items,
        ∀ known,
          (∀ value, known = some value → property (keyOf item) value) →
          property (keyOf item) (update item known)) :
    ∀ key value,
      (items.foldl
        (fun current item => current.upsert (keyOf item) (update item))
        map).get? key = some value →
      property key value := by
  induction items generalizing map with
  | nil =>
      exact initially
  | cons item rest inductionHypothesis =>
      rw [List.forall_mem_cons] at updated
      refine inductionHypothesis ?_ updated.2
      intro key value found
      rw [get?_upsert] at found
      split_ifs at found with same
      · rw [← Option.some.inj found, same]
        exact updated.1 _ (fun known bound => initially _ known bound)
      · exact initially key value found

/-- Upserting items with distinct keys updates every key at most once. -/
theorem get?_upserts
    {update : Item → Option Value → Value}
    {items : List Item}
    (distinct : (items.map keyOf).Nodup)
    (map : OrderedMap Key Value)
    (key : Key) :
    (items.foldl
      (fun current item => current.upsert (keyOf item) (update item))
      map).get? key =
      match items.find? (fun item => keyOf item = key) with
      | some item => some (update item (map.get? key))
      | none => map.get? key := by
  induction items generalizing map with
  | nil =>
      rfl
  | cons item rest inductionHypothesis =>
      obtain ⟨fresh, restDistinct⟩ := List.nodup_cons.mp distinct
      rw [List.foldl_cons, inductionHypothesis restDistinct, get?_upsert]
      by_cases same : keyOf item = key
      · have absent :
            rest.find? (fun other => keyOf other = key) = none := by
          rw [List.find?_eq_none]
          intro other member sameKey
          refine fresh (List.mem_map.mpr ⟨other, member, ?_⟩)
          simpa [same] using sameKey
        simp [absent, same]
      · simp [same, Ne.symm same]

/-- Upserts fold the items of a key into its value, in their order. -/
theorem get?_foldl_upsert
    (update : Item → Option Value → Value)
    (items : List Item)
    (map : OrderedMap Key Value)
    (key : Key) :
    (items.foldl
      (fun current item => current.upsert (keyOf item) (update item))
      map).get? key =
      (items.filter (fun item => keyOf item = key)).foldl
        (fun known item => some (update item known)) (map.get? key) := by
  induction items generalizing map with
  | nil =>
      rfl
  | cons item rest inductionHypothesis =>
      rw [List.foldl_cons, inductionHypothesis, get?_upsert]
      by_cases same : keyOf item = key
      · simp [same]
      · simp [same, Ne.symm same]

/-- Upserts bind the keys of their items. -/
theorem mem_keys_foldl_upsert
    (update : Item → Option Value → Value)
    (items : List Item)
    (map : OrderedMap Key Value)
    (key : Key) :
    key ∈
        (items.foldl
          (fun current item => current.upsert (keyOf item) (update item))
          map).keys ↔
      key ∈ map.keys ∨ ∃ item ∈ items, keyOf item = key := by
  induction items generalizing map with
  | nil =>
      simp
  | cons item rest inductionHypothesis =>
      rw [List.foldl_cons, inductionHypothesis, mem_keys_iff,
        mem_keys_iff, get?_upsert]
      by_cases same : key = keyOf item
      · simp [same]
      · simp [same, Ne.symm same]

/-- Appending items under their keys groups them in their order. -/
theorem get?_groups
    (valueOf : Item → Value)
    (items : List Item)
    (map : OrderedMap Key (List Value))
    (key : Key) :
    ((items.foldl
      (fun current item =>
        current.upsert (keyOf item)
          (fun known => known.getD [] ++ [valueOf item]))
      map).get? key).getD [] =
      (map.get? key).getD [] ++
        (items.filter (fun item => keyOf item = key)).map valueOf := by
  have grouped
      (group : List Item)
      (known : Option (List Value)) :
      (group.foldl
        (fun known item => some (known.getD [] ++ [valueOf item]))
        known).getD [] =
        known.getD [] ++ group.map valueOf := by
    induction group generalizing known with
    | nil =>
        simp
    | cons item rest inductionHypothesis =>
        rw [List.foldl_cons, inductionHypothesis]
        simp
  rw [get?_foldl_upsert
    (fun item known => known.getD [] ++ [valueOf item]), grouped]

end Upserts

/-- Change every value of a map. -/
def mapValues
    {Result : Type}
    (change : Value → Result)
    (map : OrderedMap Key Value) : OrderedMap Key Result where
  entries := map.entries.map (fun entry => (entry.1, change entry.2))
  ascending := List.pairwise_map.mpr map.ascending

/-- Lookup after a change of every value. -/
theorem get?_mapValues
    {Result : Type}
    (change : Value → Result)
    (map : OrderedMap Key Value)
    (key : Key) :
    (map.mapValues change).get? key = (map.get? key).map change := by
  rw [get?, get?, mapValues, List.find?_map, Option.map_map,
    Option.map_map]
  rfl

/-- A change of every value keeps the keys. -/
theorem keys_mapValues
    {Result : Type}
    (change : Value → Result)
    (map : OrderedMap Key Value) :
    (map.mapValues change).keys = map.keys := by
  simp only [keys, mapValues, List.map_map, Function.comp_def]

/-- Values that have their keys as names are listed once, by name. -/
theorem values_map_eq_keys
    {nameOf : Value → Key}
    {map : OrderedMap Key Value}
    (named : ∀ key value, map.get? key = some value → nameOf value = key) :
    map.values.map nameOf = map.keys := by
  simp only [values, keys, List.map_map]
  apply List.map_congr_left
  intro entry member
  exact named entry.1 entry.2 (get?_eq_some_iff.mpr member)

/-- The values are those that are bound to a key. -/
theorem mem_values_iff
    {map : OrderedMap Key Value}
    {value : Value} :
    value ∈ map.values ↔ ∃ key, map.get? key = some value := by
  simp only [values, List.mem_map, get?_eq_some_iff]
  constructor
  · rintro ⟨entry, member, rfl⟩
    exact ⟨entry.1, member⟩
  · rintro ⟨key, member⟩
    exact ⟨(key, value), member, rfl⟩

/-- Maps whose values agree after a change have the same changed values in
the same order. -/
theorem values_map_eq_of_get?
    {Result : Type}
    {firstChange secondChange : Value → Result}
    {first second : OrderedMap Key Value}
    (same :
      ∀ key,
        (first.get? key).map firstChange =
          (second.get? key).map secondChange) :
    first.values.map firstChange = second.values.map secondChange := by
  have changed :
      first.mapValues firstChange = second.mapValues secondChange := by
    apply ext_get?
    intro key
    rw [get?_mapValues, get?_mapValues, same]
  have values :
      ∀ (change : Value → Result) (map : OrderedMap Key Value),
        map.values.map change = (map.mapValues change).values := by
    intro change map
    simp only [OrderedMap.values, mapValues, List.map_map,
      Function.comp_def]
  rw [values, values, changed]

/-- In a list with distinct keys, lookup by key finds exactly the members. -/
theorem find?_eq_some_iff_of_nodup
    {Item : Type}
    {keyOf : Item → Key}
    {items : List Item}
    (distinct : (items.map keyOf).Nodup)
    {key : Key}
    {item : Item} :
    items.find? (fun other => keyOf other = key) = some item ↔
      item ∈ items ∧ keyOf item = key := by
  constructor
  · intro found
    exact ⟨List.mem_of_find?_eq_some found,
      by simpa using List.find?_some found⟩
  · rintro ⟨member, sameKey⟩
    cases found : items.find? (fun other => keyOf other = key) with
    | none =>
        exact absurd sameKey
          (by simpa using List.find?_eq_none.mp found item member)
    | some other =>
        have otherKey : keyOf other = key := by
          simpa using List.find?_some found
        rw [List.inj_on_of_nodup_map distinct
          (List.mem_of_find?_eq_some found) member
          (otherKey.trans sameKey.symm)]

/-- Distinct keys divide the items that have one of them. -/
theorem flatMap_filter_perm
    {Item : Type}
    (keyOf : Item → Key)
    (items : List Item)
    {keys : List Key}
    (distinct : keys.Nodup) :
    (keys.flatMap
        (fun key => items.filter (fun item => keyOf item = key))).Perm
      (items.filter (fun item => keyOf item ∈ keys)) := by
  induction keys with
  | nil =>
      simp
  | cons key rest inductionHypothesis =>
      obtain ⟨new, restDistinct⟩ := List.nodup_cons.mp distinct
      let covered := items.filter (fun item => keyOf item ∈ key :: rest)
      have ofKey :
          covered.filter (fun item => keyOf item = key) =
            items.filter (fun item => keyOf item = key) := by
        rw [List.filter_filter]
        apply List.filter_congr
        intro item _
        by_cases same : keyOf item = key <;> simp [same]
      have ofRest :
          covered.filter (fun item => !decide (keyOf item = key)) =
            items.filter (fun item => keyOf item ∈ rest) := by
        rw [List.filter_filter]
        apply List.filter_congr
        intro item _
        by_cases same : keyOf item = key <;> simp [same, new]
      have split :=
        List.filter_append_perm (fun item => decide (keyOf item = key))
          covered
      rw [ofKey, ofRest] at split
      rw [List.flatMap_cons]
      exact ((inductionHypothesis restDistinct).append_left _).trans split

end OrderedMap

end MarketIngest
