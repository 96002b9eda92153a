import Mathlib.Data.List.Destutter
import Mathlib.Data.List.Sort

namespace MarketIngest

/-!
# Results that do not depend on the order of a list

Rows arrive in any order.  Sorting by a key, sorting without repetitions and
taking an item with the largest key each have a law that says when the result is
the same for every order of the same items.
-/

section Sorting

variable
  {Item Key : Type}
  [LinearOrder Key]

/-- The items in ascending order of their keys; equal keys keep their order. -/
def sortBy (key : Item → Key) (items : List Item) : List Item :=
  items.insertionSort (fun first second => key first ≤ key second)

/-- Sorting moves items only. -/
theorem sortBy_perm
    (key : Item → Key)
    (items : List Item) :
    (sortBy key items).Perm items :=
  List.perm_insertionSort _ items

/-- The sorted items ascend. -/
theorem sortBy_ascending
    (key : Item → Key)
    (items : List Item) :
    (sortBy key items).Pairwise
      (fun first second => key first ≤ key second) := by
  let _ : Std.Total
      (fun first second : Item => key first ≤ key second) :=
    ⟨fun first second => le_total (key first) (key second)⟩
  let _ : IsTrans Item
      (fun first second : Item => key first ≤ key second) :=
    ⟨fun _ _ _ before after => le_trans before after⟩
  exact List.pairwise_insertionSort _ items

/-- Items with different keys have one sorted order. -/
theorem sortBy_eq_of_perm
    {key : Item → Key}
    {first second : List Item}
    (permuted : first.Perm second)
    (distinct :
      ∀ one ∈ first, ∀ other ∈ first, key one = key other → one = other) :
    sortBy key first = sortBy key second := by
  have same : (sortBy key first).Perm (sortBy key second) :=
    ((sortBy_perm key first).trans permuted).trans
      (sortBy_perm key second).symm
  apply same.eq_of_pairwise _
    (sortBy_ascending key first) (sortBy_ascending key second)
  intro one other oneMember otherMember below above
  apply distinct one ((sortBy_perm key first).mem_iff.mp oneMember) other
  · exact permuted.mem_iff.mpr
      ((sortBy_perm key second).mem_iff.mp otherMember)
  · exact le_antisymm below above

/-- Items with different keys ascend strictly. -/
theorem sortBy_strict
    {key : Item → Key}
    {items : List Item}
    (distinct : (items.map key).Nodup) :
    (sortBy key items).Pairwise
      (fun first second => key first < key second) := by
  have different :
      (sortBy key items).Pairwise
        (fun first second => key first ≠ key second) :=
    List.pairwise_map.mp
      (((sortBy_perm key items).map key).nodup_iff.mpr distinct)
  exact ((sortBy_ascending key items).and different).imp
    (fun both => lt_of_le_of_ne both.1 both.2)

/-- The item is the only one with the largest key. -/
structure IsLatest
    (key : Item → Key)
    (items : List Item)
    (latest : Item) : Prop where
  member : latest ∈ items
  after : ∀ other ∈ items, other ≠ latest → key other < key latest

/-- The latest item does not depend on the order. -/
theorem IsLatest.of_perm
    {key : Item → Key}
    {first second : List Item}
    {latest : Item}
    (isLatest : IsLatest key first latest)
    (permuted : first.Perm second) :
    IsLatest key second latest where
  member := permuted.mem_iff.mp isLatest.member
  after := fun other among =>
    isLatest.after other (permuted.mem_iff.mpr among)

/-- There is one latest item. -/
theorem IsLatest.unique
    {key : Item → Key}
    {items : List Item}
    {one other : Item}
    (oneLatest : IsLatest key items one)
    (otherLatest : IsLatest key items other) :
    one = other := by
  by_contra different
  have before := otherLatest.after one oneLatest.member different
  have after :=
    oneLatest.after other otherLatest.member (Ne.symm different)
  exact lt_asymm before after

/-- The last of the sorted items is the latest. -/
theorem isLatest_of_getLast?_sortBy
    {key : Item → Key}
    {items : List Item}
    (distinct : (items.map key).Nodup)
    {last : Item}
    (found : (sortBy key items).getLast? = some last) :
    IsLatest key items last := by
  obtain ⟨front, split⟩ := List.getLast?_eq_some_iff.mp found
  have strict := sortBy_strict distinct
  have permuted := sortBy_perm key items
  rw [split] at strict permuted
  refine ⟨permuted.mem_iff.mp (by simp), ?_⟩
  intro other among different
  rcases List.mem_append.mp (permuted.mem_iff.mpr among) with earlier | newest
  · exact (List.pairwise_append.mp strict).2.2 other earlier last (by simp)
  · exact absurd (List.mem_singleton.mp newest) different

end Sorting

section Sets

variable
  {Item : Type}
  [LinearOrder Item]

/-- The items in ascending order, each once. -/
def sortDedup (items : List Item) : List Item :=
  (items.insertionSort (fun first second => first ≤ second)).destutter
    (fun first second => first ≠ second)

/-- Dropping repetitions after an item loses no other item. -/
private theorem mem_destutter_ne_from
    {start item : Item}
    {items : List Item} :
    item ∈ items.destutter' (fun first second => first ≠ second) start ↔
      item = start ∨ item ∈ items := by
  induction items generalizing start with
  | nil =>
      simp
  | cons head rest inductionHypothesis =>
      by_cases repeated : start = head
      · subst repeated
        rw [List.destutter'_cons_neg _ (by simp), inductionHypothesis]
        simp
      · rw [List.destutter'_cons_pos _ repeated, List.mem_cons,
          inductionHypothesis, List.mem_cons]

/-- Dropping repetitions loses no item. -/
private theorem mem_destutter_ne
    {item : Item}
    {items : List Item} :
    item ∈ items.destutter (fun first second => first ≠ second) ↔
      item ∈ items := by
  cases items with
  | nil =>
      simp
  | cons head rest =>
      rw [List.destutter_cons', mem_destutter_ne_from, List.mem_cons]

/-- Sorting without repetitions keeps the set of items. -/
@[simp] theorem mem_sortDedup
    {item : Item}
    {items : List Item} :
    item ∈ sortDedup items ↔ item ∈ items := by
  rw [sortDedup, mem_destutter_ne, List.mem_insertionSort]

/-- The result ascends strictly. -/
theorem sortDedup_ascending
    (items : List Item) :
    (sortDedup items).Pairwise (fun first second => first < second) := by
  have ascending :
      (sortDedup items).Pairwise (fun first second => first ≤ second) :=
    (List.pairwise_insertionSort _ items).sublist
      (List.destutter_sublist _ _)
  have different :
      (sortDedup items).IsChain (fun first second => first ≠ second) :=
    List.isChain_destutter _ _
  rw [← List.isChain_iff_pairwise, List.isChain_iff_getElem]
  intro position bound
  apply lt_of_le_of_ne
  · exact List.isChain_iff_getElem.mp ascending.isChain position bound
  · exact List.isChain_iff_getElem.mp different position bound

/-- An ascending list is the sorted set of its items. -/
theorem eq_sortDedup_of_mem_iff
    {first second : List Item}
    (ascending : first.Pairwise (fun one other => one < other))
    (same : ∀ item, item ∈ first ↔ item ∈ second) :
    first = sortDedup second := by
  have permuted : first.Perm (sortDedup second) := by
    rw [List.perm_ext_iff_of_nodup (ascending.imp ne_of_lt)
      ((sortDedup_ascending second).imp ne_of_lt)]
    intro item
    rw [mem_sortDedup, same]
  apply permuted.eq_of_pairwise _ ascending (sortDedup_ascending second)
  intro one other _ _ below above
  exact absurd (below.trans above) (lt_irrefl one)

/-- Ascending lists of the same items are equal. -/
theorem eq_of_ascending_of_mem_iff
    {first second : List Item}
    (firstAscending : first.Pairwise (fun one other => one < other))
    (secondAscending : second.Pairwise (fun one other => one < other))
    (same : ∀ item, item ∈ first ↔ item ∈ second) :
    first = second := by
  rw [eq_sortDedup_of_mem_iff firstAscending same]
  exact (eq_sortDedup_of_mem_iff secondAscending fun _ => Iff.rfl).symm

/-- The result depends on the set of items only. -/
theorem sortDedup_eq_of_mem_iff
    {first second : List Item}
    (same : ∀ item, item ∈ first ↔ item ∈ second) :
    sortDedup first = sortDedup second := by
  apply eq_sortDedup_of_mem_iff (sortDedup_ascending first)
  intro item
  rw [mem_sortDedup, same]

end Sets

section Largest

variable
  {Item Key : Type}
  [LinearOrder Key]

/-- The later of two items with equal keys wins. -/
def laterMax (key : Item → Key) (best : Option Item) (item : Item) : Item :=
  match best with
  | none => item
  | some known => if key known ≤ key item then item else known

/-- The last of the items with the largest key. -/
def maxByKey (key : Item → Key) (items : List Item) : Option Item :=
  items.foldl (fun best item => some (laterMax key best item)) none

/-- The largest item after one more item. -/
theorem maxByKey_concat
    (key : Item → Key)
    (items : List Item)
    (item : Item) :
    maxByKey key (items ++ [item]) =
      some (laterMax key (maxByKey key items) item) := by
  rw [maxByKey, List.foldl_append]
  rfl

/-- The largest item is one of the items and no key exceeds its key. -/
theorem maxByKey_spec
    {key : Item → Key}
    {items : List Item}
    {largest : Item}
    (found : maxByKey key items = some largest) :
    largest ∈ items ∧ ∀ item ∈ items, key item ≤ key largest := by
  induction items using List.reverseRecOn generalizing largest with
  | nil =>
      cases found
  | append_singleton items last inductionHypothesis =>
      rw [maxByKey_concat, Option.some.injEq] at found
      subst found
      cases known : maxByKey key items with
      | none =>
          have nothing : items = [] := by
            cases items using List.reverseRecOn with
            | nil => rfl
            | append_singleton before other =>
                rw [maxByKey_concat] at known
                cases known
          simp [nothing, laterMax]
      | some best =>
          obtain ⟨member, bound⟩ := inductionHypothesis known
          by_cases below : key best ≤ key last
          · refine ⟨by simp [laterMax, below], ?_⟩
            intro item among
            rw [laterMax, if_pos below]
            rcases List.mem_append.mp among with earlier | newest
            · exact (bound item earlier).trans below
            · rw [List.mem_singleton.mp newest]
          · refine ⟨by simp [laterMax, below, member], ?_⟩
            intro item among
            rw [laterMax, if_neg below]
            rcases List.mem_append.mp among with earlier | newest
            · exact bound item earlier
            · rw [List.mem_singleton.mp newest]
              exact (not_le.mp below).le

/-- Only without items there is no largest one. -/
theorem maxByKey_eq_none_iff
    {key : Item → Key}
    {items : List Item} :
    maxByKey key items = none ↔ items = [] := by
  cases items using List.reverseRecOn with
  | nil =>
      exact iff_of_true rfl rfl
  | append_singleton before last =>
      simp [maxByKey_concat]

/-- An item at the end that no key exceeds is the largest. -/
theorem maxByKey_concat_of_le
    {key : Item → Key}
    {items : List Item}
    {item : Item}
    (bound : ∀ other ∈ items, key other ≤ key item) :
    maxByKey key (items ++ [item]) = some item := by
  rw [maxByKey_concat]
  cases known : maxByKey key items with
  | none =>
      rfl
  | some best =>
      rw [laterMax, if_pos (bound best (maxByKey_spec known).1)]

/-- The earlier of two items with equal keys wins. -/
def earlierMax (key : Item → Key) (best : Option Item) (item : Item) : Item :=
  match best with
  | none => item
  | some known => if key known < key item then item else known

/-- The first of the items with the largest key. -/
def firstMaxByKey (key : Item → Key) (items : List Item) : Option Item :=
  items.foldl (fun best item => some (earlierMax key best item)) none

/-- The first largest item after one more item. -/
theorem firstMaxByKey_concat
    (key : Item → Key)
    (items : List Item)
    (item : Item) :
    firstMaxByKey key (items ++ [item]) =
      some (earlierMax key (firstMaxByKey key items) item) := by
  rw [firstMaxByKey, List.foldl_append]
  rfl

/-- Only without items there is no first largest one. -/
theorem firstMaxByKey_eq_none_iff
    {key : Item → Key}
    {items : List Item} :
    firstMaxByKey key items = none ↔ items = [] := by
  cases items using List.reverseRecOn with
  | nil =>
      exact iff_of_true rfl rfl
  | append_singleton before last =>
      simp [firstMaxByKey_concat]

/-- Among items with different keys the first largest is the latest. -/
theorem isLatest_of_firstMaxByKey
    {key : Item → Key}
    {items : List Item}
    (distinct : (items.map key).Nodup)
    {largest : Item}
    (found : firstMaxByKey key items = some largest) :
    IsLatest key items largest := by
  induction items using List.reverseRecOn generalizing largest with
  | nil =>
      cases found
  | append_singleton items last inductionHypothesis =>
      rw [firstMaxByKey_concat, Option.some.injEq] at found
      subst found
      rw [List.map_append, List.nodup_append] at distinct
      obtain ⟨earlierDistinct, _, apart⟩ := distinct
      cases known : firstMaxByKey key items with
      | none =>
          rw [firstMaxByKey_eq_none_iff.mp known]
          exact ⟨by simp [earlierMax], by simp [earlierMax]⟩
      | some best =>
          obtain ⟨member, after⟩ :=
            inductionHypothesis earlierDistinct known
          have different : key best ≠ key last :=
            apart _ (List.mem_map_of_mem member) _ (by simp)
          by_cases newer : key best < key last
          · rw [earlierMax, if_pos newer]
            refine ⟨by simp, fun other among notLast => ?_⟩
            rcases List.mem_append.mp among with earlier | newest
            · by_cases isBest : other = best
              · exact isBest ▸ newer
              · exact (after other earlier isBest).trans newer
            · exact absurd (List.mem_singleton.mp newest) notLast
          · rw [earlierMax, if_neg newer]
            refine ⟨List.mem_append_left _ member,
              fun other among notBest => ?_⟩
            rcases List.mem_append.mp among with earlier | newest
            · exact after other earlier notBest
            · rw [List.mem_singleton.mp newest]
              exact lt_of_le_of_ne (not_lt.mp newer) (Ne.symm different)

/-- What items with one key have in common does not depend on their order. -/
theorem map_maxByKey_eq_of_perm
    {Result : Type}
    {key : Item → Key}
    {result : Item → Result}
    {first second : List Item}
    (permuted : first.Perm second)
    (agree :
      ∀ one ∈ first, ∀ other ∈ first,
        key one = key other → result one = result other) :
    (maxByKey key first).map result = (maxByKey key second).map result := by
  cases firstFound : maxByKey key first with
  | none =>
      have nothing := maxByKey_eq_none_iff.mp firstFound
      subst nothing
      rw [permuted.nil_eq.symm, maxByKey_eq_none_iff.mpr rfl]
  | some one =>
      obtain ⟨oneMember, oneBound⟩ := maxByKey_spec firstFound
      cases secondFound : maxByKey key second with
      | none =>
          rw [maxByKey_eq_none_iff.mp secondFound] at permuted
          rw [permuted.eq_nil] at oneMember
          cases oneMember
      | some other =>
          obtain ⟨otherMember, otherBound⟩ := maxByKey_spec secondFound
          have among : other ∈ first := permuted.mem_iff.mpr otherMember
          rw [Option.map_some, Option.map_some, agree one oneMember other among]
          exact le_antisymm
            (otherBound one (permuted.mem_iff.mp oneMember))
            (oneBound other among)

end Largest

section Latest

variable
  {Item Group Key Result : Type}
  [DecidableEq Group]
  [LinearOrder Key]

/-- The result of the latest item of a group up to a bound. -/
def latestWithin
    (group : Item → Group)
    (key : Item → Key)
    (result : Item → Result)
    (wanted : Group)
    (bound : Key)
    (items : List Item) : Option Result :=
  (maxByKey key
    (items.filter (fun item =>
      group item = wanted && key item ≤ bound))).map result

/-- Items of one group with one key give one result. -/
def TiesAgree
    (group : Item → Group)
    (key : Item → Key)
    (result : Item → Result)
    (items : List Item) : Prop :=
  ∀ one ∈ items, ∀ other ∈ items,
    group one = group other → key one = key other →
    result one = result other

/-- If ties agree, the latest item does not depend on the order. -/
theorem latestWithin_eq_of_perm
    {group : Item → Group}
    {key : Item → Key}
    {result : Item → Result}
    {first second : List Item}
    (agree : TiesAgree group key result first)
    (permuted : first.Perm second)
    (wanted : Group)
    (bound : Key) :
    latestWithin group key result wanted bound first =
      latestWithin group key result wanted bound second := by
  apply map_maxByKey_eq_of_perm (permuted.filter _)
  intro one oneMember other otherMember sameKey
  simp only [List.mem_filter, Bool.and_eq_true, decide_eq_true_eq]
    at oneMember otherMember
  apply agree one oneMember.1 other otherMember.1
  · rw [oneMember.2.1, otherMember.2.1]
  · exact sameKey

/-- With an item of the list moved to its end, its result is the latest. -/
private theorem latestWithin_moved
    [DecidableEq Item]
    (group : Item → Group)
    (key : Item → Key)
    (result : Item → Result)
    (items : List Item)
    (item : Item) :
    latestWithin group key result (group item) (key item)
        (items.erase item ++ [item]) =
      some (result item) := by
  rw [latestWithin, List.filter_append,
    List.filter_cons_of_pos (by simp), List.filter_nil,
    maxByKey_concat_of_le, Option.map_some]
  intro other member
  have within := (List.mem_filter.mp member).2
  simp only [Bool.and_eq_true, decide_eq_true_eq] at within
  exact within.2

/-- Ties agree exactly if no latest item depends on the order. -/
theorem tiesAgree_iff_order_independent
    [DecidableEq Item]
    {group : Item → Group}
    {key : Item → Key}
    {result : Item → Result}
    {items : List Item} :
    TiesAgree group key result items ↔
      ∀ reordered : List Item, items.Perm reordered →
        ∀ (wanted : Group) (bound : Key),
          latestWithin group key result wanted bound items =
            latestWithin group key result wanted bound reordered := by
  constructor
  · intro agree reordered permuted wanted bound
    exact latestWithin_eq_of_perm agree permuted wanted bound
  · intro independent one oneMember other otherMember sameGroup sameKey
    have moved :
        ∀ item ∈ items, items.Perm (items.erase item ++ [item]) :=
      fun item member =>
        (List.perm_cons_erase member).trans
          (List.perm_append_singleton item _).symm
    have oneLatest :=
      independent _ (moved one oneMember) (group one) (key one)
    have otherLatest :=
      independent _ (moved other otherMember) (group other) (key other)
    rw [latestWithin_moved] at oneLatest otherLatest
    rw [sameGroup, sameKey, otherLatest] at oneLatest
    exact (Option.some.inj oneLatest).symm

end Latest

section Firsts

variable
  {Item Key : Type}
  [DecidableEq Key]
  (keyOf : Item → Key)

/-- Keep an item unless an item with its key is kept already. -/
def keepFirst (kept : List Item) (item : Item) : List Item :=
  if keyOf item ∈ kept.map keyOf then kept else kept ++ [item]

/-- The first item of every key, in order. -/
def firsts (items : List Item) : List Item :=
  items.foldl (keepFirst keyOf) []

/-- The first items after one more item. -/
theorem firsts_concat
    (items : List Item)
    (item : Item) :
    firsts keyOf (items ++ [item]) =
      keepFirst keyOf (firsts keyOf items) item := by
  rw [firsts, List.foldl_append]
  rfl

variable {keyOf}

/-- The first items have different keys. -/
theorem firsts_nodup
    (items : List Item) :
    ((firsts keyOf items).map keyOf).Nodup := by
  induction items using List.reverseRecOn with
  | nil =>
      exact .nil
  | append_singleton items item inductionHypothesis =>
      rw [firsts_concat, keepFirst]
      split_ifs with known
      · exact inductionHypothesis
      · rw [List.map_append, List.map_singleton, ← List.concat_eq_append]
        exact List.Nodup.concat known inductionHypothesis

/-- First items are items. -/
theorem mem_of_mem_firsts
    {items : List Item}
    {item : Item}
    (member : item ∈ firsts keyOf items) :
    item ∈ items := by
  induction items using List.reverseRecOn with
  | nil =>
      exact member
  | append_singleton items last inductionHypothesis =>
      rw [firsts_concat, keepFirst] at member
      split_ifs at member
      · exact List.mem_append_left _ (inductionHypothesis member)
      · rcases List.mem_append.mp member with earlier | newest
        · exact List.mem_append_left _ (inductionHypothesis earlier)
        · exact List.mem_append_right _ newest

/-- An item is kept if no item before it has its key. -/
theorem mem_firsts_of_new
    {before after : List Item}
    {item : Item}
    (new : keyOf item ∉ before.map keyOf) :
    item ∈ firsts keyOf (before ++ item :: after) := by
  induction after using List.reverseRecOn with
  | nil =>
      rw [firsts_concat, keepFirst, if_neg]
      · exact List.mem_append_right _ List.mem_cons_self
      · intro known
        obtain ⟨other, member, sameKey⟩ := List.mem_map.mp known
        exact new
          (List.mem_map.mpr ⟨other, mem_of_mem_firsts member, sameKey⟩)
  | append_singleton after last inductionHypothesis =>
      rw [← List.cons_append, ← List.append_assoc, firsts_concat, keepFirst]
      split_ifs
      · exact inductionHypothesis
      · exact List.mem_append_left _ inductionHypothesis

/-- Every key has its first item. -/
theorem mem_map_firsts_iff
    {items : List Item}
    {key : Key} :
    key ∈ (firsts keyOf items).map keyOf ↔ key ∈ items.map keyOf := by
  constructor
  · intro member
    obtain ⟨item, among, sameKey⟩ := List.mem_map.mp member
    exact List.mem_map.mpr ⟨item, mem_of_mem_firsts among, sameKey⟩
  · intro member
    induction items using List.reverseRecOn with
    | nil =>
        exact member
    | append_singleton items last inductionHypothesis =>
        rw [firsts_concat, keepFirst]
        rw [List.map_append, List.mem_append, List.map_singleton,
          List.mem_singleton] at member
        split_ifs with known
        · rcases member with earlier | newest
          · exact inductionHypothesis earlier
          · rw [newest]
            exact known
        · rw [List.map_append, List.mem_append, List.map_singleton,
            List.mem_singleton]
          exact member.imp_left inductionHypothesis

/-- Whether the first items are kept may be decided before or after. -/
theorem filter_firsts
    {keep : Item → Bool}
    {items : List Item}
    (byKey :
      ∀ one ∈ items, ∀ other ∈ items,
        keyOf one = keyOf other → keep one = keep other) :
    (firsts keyOf items).filter keep = firsts keyOf (items.filter keep) := by
  induction items using List.reverseRecOn with
  | nil =>
      rfl
  | append_singleton items last inductionHypothesis =>
      have earlier :=
        inductionHypothesis fun one oneMember other otherMember =>
          byKey one (List.mem_append_left _ oneMember) other
            (List.mem_append_left _ otherMember)
      rw [firsts_concat, keepFirst, List.filter_append]
      cases kept : keep last with
      | false =>
          rw [List.filter_cons_of_neg (by simp [kept]), List.filter_nil,
            List.append_nil, ← earlier]
          split_ifs with known
          · rfl
          · rw [List.filter_append, List.filter_cons_of_neg (by simp [kept]),
              List.filter_nil, List.append_nil]
      | true =>
          have sameKnown :
              keyOf last ∈ (firsts keyOf (items.filter keep)).map keyOf ↔
                keyOf last ∈ (firsts keyOf items).map keyOf := by
            rw [mem_map_firsts_iff, mem_map_firsts_iff]
            constructor
            · intro member
              obtain ⟨other, among, sameKey⟩ := List.mem_map.mp member
              exact List.mem_map.mpr
                ⟨other, (List.mem_filter.mp among).1, sameKey⟩
            · intro member
              obtain ⟨other, among, sameKey⟩ := List.mem_map.mp member
              have otherKept : keep other = true := by
                rw [← kept]
                exact byKey other (List.mem_append_left _ among) last
                  (by simp) sameKey
              exact List.mem_map.mpr
                ⟨other, List.mem_filter.mpr ⟨among, otherKept⟩, sameKey⟩
          rw [List.filter_cons_of_pos kept, List.filter_nil, firsts_concat,
            keepFirst]
          by_cases known : keyOf last ∈ (firsts keyOf items).map keyOf
          · rw [if_pos known, if_pos (sameKnown.mpr known), earlier]
          · rw [if_neg known, if_neg (fun among => known (sameKnown.mp among)),
              List.filter_append, earlier, List.filter_cons_of_pos kept,
              List.filter_nil]

/-- If keys determine items, first items do not depend on the order. -/
theorem firsts_perm
    {first second : List Item}
    (permuted : first.Perm second)
    (determined :
      ∀ one ∈ first, ∀ other ∈ first, keyOf one = keyOf other → one = other) :
    (firsts keyOf first).Perm (firsts keyOf second) := by
  have among :
      ∀ items : List Item, (∀ item, item ∈ items ↔ item ∈ first) →
        ∀ item, item ∈ firsts keyOf items ↔ item ∈ first := by
    intro items same item
    refine ⟨fun member => (same item).mp (mem_of_mem_firsts member), ?_⟩
    intro member
    have key : keyOf item ∈ (firsts keyOf items).map keyOf :=
      mem_map_firsts_iff.mpr
        (List.mem_map_of_mem ((same item).mpr member))
    obtain ⟨found, foundMember, sameKey⟩ := List.mem_map.mp key
    have foundAmong := (same found).mp (mem_of_mem_firsts foundMember)
    rw [← determined found foundAmong item member sameKey]
    exact foundMember
  rw [List.perm_ext_iff_of_nodup (List.Nodup.of_map _ (firsts_nodup first))
    (List.Nodup.of_map _ (firsts_nodup second))]
  intro item
  rw [among first (fun _ => Iff.rfl), among second]
  exact fun other => permuted.symm.mem_iff

end Firsts

end MarketIngest
