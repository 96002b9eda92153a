import Mathlib.Data.List.Sort

namespace MarketIngest.OrderedScan

/-!
# First match in an ordered list

A search that stops at the first match of an ordered list returns the match
that no other match precedes.  A page of an ascending list has exactly the
elements that fewer than the page size of elements precede.
-/

variable {α β : Type}

/-- The first match of a list is the match that no other match precedes. -/
theorem findSome?_eq_some_iff_first
    {before : α → α → Prop}
    (asymmetric :
      ∀ {first second}, before first second → ¬ before second first)
    {elements : List α}
    (ordered : elements.Pairwise before)
    {search : α → Option β}
    {result : β} :
    elements.findSome? search = some result ↔
      ∃ element ∈ elements,
        search element = some result ∧
          ∀ other ∈ elements,
            before other element → search other = none := by
  constructor
  · intro found
    obtain ⟨earlier, element, later, rfl, hit, misses⟩ :=
      List.findSome?_eq_some_iff.mp found
    refine ⟨element, by simp, hit, ?_⟩
    intro other member precedes
    rw [List.pairwise_append, List.pairwise_cons] at ordered
    rw [List.mem_append, List.mem_cons] at member
    rcases member with inEarlier | same | inLater
    · exact misses other inEarlier
    · subst same
      exact absurd precedes (asymmetric precedes)
    · exact absurd precedes
        (asymmetric (ordered.2.1.1 other inLater))
  · rintro ⟨element, member, hit, first⟩
    induction elements with
    | nil =>
        cases member
    | cons head rest inductionHypothesis =>
        rw [List.pairwise_cons] at ordered
        rcases List.mem_cons.mp member with same | inRest
        · subst same
          simp [List.findSome?, hit]
        · have miss : search head = none :=
            first head (by simp) (ordered.1 element inRest)
          simp only [List.findSome?, miss]
          exact inductionHypothesis ordered.2 inRest
            (fun other otherMember =>
              first other (List.mem_cons_of_mem _ otherMember))

variable [LinearOrder α]

/-- A page has the elements that fewer than the page size precede. -/
theorem mem_take_iff
    {elements : List α}
    (ascending : elements.Pairwise (· < ·))
    {size : Nat}
    {element : α} :
    element ∈ elements.take size ↔
      element ∈ elements ∧
        (elements.filter (fun other => other < element)).length < size := by
  induction elements generalizing size with
  | nil =>
      simp
  | cons head rest inductionHypothesis =>
      rw [List.pairwise_cons] at ascending
      cases size with
      | zero =>
          simp
      | succ size =>
          rw [List.take_succ_cons, List.mem_cons, List.mem_cons,
            inductionHypothesis ascending.2]
          by_cases same : element = head
          · subst same
            have none :
                rest.filter (fun other => other < element) = [] := by
              apply List.filter_eq_nil_iff.mpr
              intro other member
              simpa using le_of_lt (ascending.1 other member)
            simp [none]
          · constructor
            · rintro (isHead | ⟨member, count⟩)
              · exact absurd isHead same
              · refine ⟨Or.inr member, ?_⟩
                simpa [List.filter_cons, ascending.1 element member]
                  using count
            · rintro ⟨isHead | member, count⟩
              · exact absurd isHead same
              · refine Or.inr ⟨member, ?_⟩
                simpa [List.filter_cons, ascending.1 element member]
                  using count

/-- Sorting an ascending list in descending order reverses it. -/
theorem mergeSort_descending
    {elements : List α}
    (ascending : elements.Pairwise (· < ·)) :
    elements.mergeSort (fun left right => decide (right ≤ left)) =
      elements.reverse := by
  have sorted :
      (elements.mergeSort
        (fun left right => decide (right ≤ left))).Pairwise
          (fun left right => right ≤ left) := by
    have sortedBool :
        (elements.mergeSort
          (fun left right => decide (right ≤ left))).Pairwise
            (fun left right => decide (right ≤ left) = true) :=
      List.pairwise_mergeSort
        (fun first second third below above => by
          simp only [decide_eq_true_eq] at *
          exact le_trans above below)
        (fun first second => by
          simpa using le_total second first)
        elements
    simpa using sortedBool
  have reversed :
      elements.reverse.Pairwise (fun left right => right ≤ left) := by
    rw [List.pairwise_reverse]
    exact ascending.imp le_of_lt
  have perm :
      (elements.mergeSort
        (fun left right => decide (right ≤ left))).Perm
          elements.reverse :=
    (List.mergeSort_perm elements _).trans
      (List.reverse_perm elements).symm
  exact perm.eq_of_pairwise
    (fun first second _ _ above below => le_antisymm below above)
    sorted reversed

end MarketIngest.OrderedScan
