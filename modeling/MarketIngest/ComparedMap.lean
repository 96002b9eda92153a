import Mathlib.Data.List.Sort
import Mathlib.Order.Compare

namespace MarketIngest.ComparedMap

/-!
# Maps ordered by a comparison of their keys

A map is kept as a list of entries in the order of a comparison function that
need not be a linear order: keys that compare as equal may differ, and a
replaced entry keeps its old key.  Where the comparison agrees with a rank of
the keys, such a list is a finite map from ranks to values.
-/

variable {Key Value Rank : Type}

/-- Put a value at a key; an entry that compares as equal keeps its key. -/
def insert
    (cmp : Key → Key → Ordering)
    (key : Key)
    (value : Value) :
    List (Key × Value) → List (Key × Value)
  | [] => [(key, value)]
  | entry :: rest =>
      match cmp key entry.1 with
      | .lt => (key, value) :: entry :: rest
      | .eq => (entry.1, value) :: rest
      | .gt => entry :: insert cmp key value rest

/-- Remove the entry that compares as equal. -/
def remove
    (cmp : Key → Key → Ordering)
    (key : Key) :
    List (Key × Value) → List (Key × Value)
  | [] => []
  | entry :: rest =>
      match cmp key entry.1 with
      | .lt => entry :: rest
      | .eq => rest
      | .gt => entry :: remove cmp key rest

/-- An entry after an insertion is the new value or an older entry. -/
theorem mem_insert
    {cmp : Key → Key → Ordering}
    {key : Key}
    {value : Value}
    {entries : List (Key × Value)}
    {entry : Key × Value}
    (member : entry ∈ insert cmp key value entries) :
    (entry.2 = value ∧ (entry.1 = key ∨ entry.1 ∈ entries.map Prod.fst)) ∨
      entry ∈ entries := by
  induction entries with
  | nil =>
      rw [insert, List.mem_singleton] at member
      exact Or.inl ⟨by rw [member], Or.inl (by rw [member])⟩
  | cons head rest inductionHypothesis =>
      unfold insert at member
      cases compared : cmp key head.1 with
      | lt =>
          rw [compared] at member
          rcases List.mem_cons.mp member with rfl | older
          · exact Or.inl ⟨rfl, Or.inl rfl⟩
          · exact Or.inr older
      | eq =>
          rw [compared] at member
          rcases List.mem_cons.mp member with rfl | older
          · exact Or.inl ⟨rfl, Or.inr (List.mem_cons_self ..)⟩
          · exact Or.inr (List.mem_cons_of_mem _ older)
      | gt =>
          rw [compared] at member
          rcases List.mem_cons.mp member with rfl | later
          · exact Or.inr (List.mem_cons_self ..)
          · rcases inductionHypothesis later with ⟨same, known⟩ | older
            · exact Or.inl
                ⟨same, known.imp id (List.mem_cons_of_mem _)⟩
            · exact Or.inr (List.mem_cons_of_mem _ older)

/-- Removing leaves a part of the list. -/
theorem remove_sublist
    (cmp : Key → Key → Ordering)
    (key : Key)
    (entries : List (Key × Value)) :
    (remove cmp key entries).Sublist entries := by
  induction entries with
  | nil =>
      exact List.Sublist.refl _
  | cons head rest inductionHypothesis =>
      unfold remove
      cases cmp key head.1 with
      | lt =>
          exact List.Sublist.refl _
      | eq =>
          exact List.sublist_cons_self ..
      | gt =>
          exact inductionHypothesis.cons_cons head

section Ranks

variable
  [LinearOrder Rank]
  {cmp : Key → Key → Ordering}
  {rank : Key → Rank}
  {key : Key}
  {value : Value}
  {entries : List (Key × Value)}

/-- The entries are in strictly ascending order of their ranks. -/
def Ascending
    (rank : Key → Rank)
    (entries : List (Key × Value)) : Prop :=
  entries.Pairwise fun first second => rank first.1 < rank second.1

/-- The value at a rank. -/
def lookup
    (rank : Key → Rank)
    (entries : List (Key × Value))
    (sought : Rank) : Option Value :=
  (entries.find? fun entry => decide (rank entry.1 = sought)).map Prod.snd

/-- A key compares with all entries as its rank does. -/
def Agrees
    (cmp : Key → Key → Ordering)
    (rank : Key → Rank)
    (key : Key)
    (entries : List (Key × Value)) : Prop :=
  ∀ entry ∈ entries,
    cmp key entry.1 = compare (rank key) (rank entry.1)

@[simp] theorem lookup_nil
    (sought : Rank) :
    lookup rank ([] : List (Key × Value)) sought = none := rfl

theorem lookup_cons
    (entry : Key × Value)
    (sought : Rank) :
    lookup rank (entry :: entries) sought =
      if rank entry.1 = sought then
        some entry.2
      else
        lookup rank entries sought := by
  unfold lookup
  by_cases same : rank entry.1 = sought
  · simp [same]
  · simp [same]

/-- Nothing is found below the first rank. -/
theorem lookup_eq_none_of_lt
    {sought : Rank}
    (above : ∀ entry ∈ entries, sought < rank entry.1) :
    lookup rank entries sought = none := by
  unfold lookup
  rw [Option.map_eq_none_iff, List.find?_eq_none]
  intro entry member same
  exact (above entry member).ne' (of_decide_eq_true same)

/-- A bound below all entries and the key is one after an insertion. -/
private theorem below_insert
    {bound : Rank}
    (agrees : Agrees cmp rank key entries)
    (belowKey : bound < rank key)
    (below : ∀ entry ∈ entries, bound < rank entry.1) :
    ∀ entry ∈ insert cmp key value entries, bound < rank entry.1 := by
  intro entry member
  rcases mem_insert member with ⟨-, rfl | known⟩ | older
  · exact belowKey
  · obtain ⟨before, inEntries, same⟩ := List.mem_map.mp known
    exact same ▸ below before inEntries
  · exact below entry older

/-- An insertion keeps the order. -/
theorem Ascending.insert
    (ascending : Ascending rank entries)
    (agrees : Agrees cmp rank key entries)
    (value : Value) :
    Ascending rank (ComparedMap.insert cmp key value entries) := by
  induction entries with
  | nil =>
      exact List.pairwise_singleton ..
  | cons head rest inductionHypothesis =>
      obtain ⟨above, later⟩ := List.pairwise_cons.mp ascending
      have atHead := agrees head (List.mem_cons_self ..)
      have inRest : Agrees cmp rank key rest := fun entry member =>
        agrees entry (List.mem_cons_of_mem _ member)
      unfold ComparedMap.insert
      cases compared : cmp key head.1 with
      | lt =>
          have less := compare_lt_iff_lt.mp (atHead.symm.trans compared)
          refine List.pairwise_cons.mpr ⟨?_, ascending⟩
          intro entry member
          rcases List.mem_cons.mp member with rfl | further
          · exact less
          · exact less.trans (above entry further)
      | eq =>
          exact List.pairwise_cons.mpr ⟨above, later⟩
      | gt =>
          have greater := compare_gt_iff_gt.mp (atHead.symm.trans compared)
          exact List.pairwise_cons.mpr
            ⟨below_insert inRest greater above,
              inductionHypothesis later inRest⟩

/-- A removal keeps the order. -/
theorem Ascending.remove
    (ascending : Ascending rank entries)
    (cmp : Key → Key → Ordering)
    (key : Key) :
    Ascending rank (ComparedMap.remove cmp key entries) :=
  ascending.sublist (remove_sublist cmp key entries)

/-- What is found after an insertion. -/
theorem lookup_insert
    (ascending : Ascending rank entries)
    (agrees : Agrees cmp rank key entries)
    (value : Value)
    (sought : Rank) :
    lookup rank (insert cmp key value entries) sought =
      if sought = rank key then
        some value
      else
        lookup rank entries sought := by
  induction entries with
  | nil =>
      rw [insert, lookup_cons, lookup_nil]
      exact if_congr eq_comm rfl rfl
  | cons head rest inductionHypothesis =>
      obtain ⟨above, later⟩ := List.pairwise_cons.mp ascending
      have atHead := agrees head (List.mem_cons_self ..)
      have inRest : Agrees cmp rank key rest := fun entry member =>
        agrees entry (List.mem_cons_of_mem _ member)
      unfold insert
      cases compared : cmp key head.1 with
      | lt =>
          rw [lookup_cons]
          exact if_congr eq_comm rfl rfl
      | eq =>
          have same := compare_eq_iff_eq.mp (atHead.symm.trans compared)
          rw [lookup_cons, lookup_cons, same]
          by_cases found : rank head.1 = sought
          · rw [if_pos found, if_pos found.symm]
          · rw [if_neg found, if_neg (Ne.symm found), if_neg found]
      | gt =>
          have greater := compare_gt_iff_gt.mp (atHead.symm.trans compared)
          rw [lookup_cons, lookup_cons, inductionHypothesis later inRest]
          by_cases found : rank head.1 = sought
          · have other : sought ≠ rank key := found ▸ greater.ne
            rw [if_pos found, if_neg other, if_pos found]
          · rw [if_neg found, if_neg found]

/-- What is found after a removal. -/
theorem lookup_remove
    (ascending : Ascending rank entries)
    (agrees : Agrees cmp rank key entries)
    (sought : Rank) :
    lookup rank (remove cmp key entries) sought =
      if sought = rank key then
        none
      else
        lookup rank entries sought := by
  induction entries with
  | nil =>
      rw [remove, lookup_nil, ite_self]
  | cons head rest inductionHypothesis =>
      obtain ⟨above, later⟩ := List.pairwise_cons.mp ascending
      have atHead := agrees head (List.mem_cons_self ..)
      have inRest : Agrees cmp rank key rest := fun entry member =>
        agrees entry (List.mem_cons_of_mem _ member)
      unfold remove
      cases compared : cmp key head.1 with
      | lt =>
          have less := compare_lt_iff_lt.mp (atHead.symm.trans compared)
          by_cases found : sought = rank key
          · rw [if_pos found]
            refine lookup_eq_none_of_lt fun entry member => ?_
            rw [found]
            rcases List.mem_cons.mp member with rfl | further
            · exact less
            · exact less.trans (above entry further)
          · rw [if_neg found]
      | eq =>
          have same := compare_eq_iff_eq.mp (atHead.symm.trans compared)
          rw [lookup_cons, same]
          by_cases found : rank head.1 = sought
          · rw [if_pos found.symm]
            exact lookup_eq_none_of_lt fun entry member =>
              found ▸ above entry member
          · rw [if_neg (Ne.symm found), if_neg found]
      | gt =>
          have greater := compare_gt_iff_gt.mp (atHead.symm.trans compared)
          rw [lookup_cons, lookup_cons, inductionHypothesis later inRest]
          by_cases found : rank head.1 = sought
          · have other : sought ≠ rank key := found ▸ greater.ne
            rw [if_pos found, if_neg other, if_pos found]
          · rw [if_neg found, if_neg found]

end Ranks

end MarketIngest.ComparedMap
