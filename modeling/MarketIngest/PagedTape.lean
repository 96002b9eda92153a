import Mathlib.Data.List.Pairwise
import Mathlib.Data.List.TakeWhile

namespace MarketIngest.Paging

/-!
# Reading a tape page by page

A tape lists items with ascending numbers and times that do not go back.  A
reader asks for the items of a time range, or for those from a number on, and
gets the first ones of them, up to the size of a page.  What it takes of a page
are the items up to the end of the range that are not before its start.
-/

variable {Item : Type}

/-- The numbers ascend, and the times do not go back. -/
structure IsTape (numberOf timeOf : Item → Int) (items : List Item) :
    Prop where
  numbers :
    items.Pairwise (fun one other => numberOf one < numberOf other)
  times : items.Pairwise (fun one other => timeOf one ≤ timeOf other)

section Times

variable
  (timeOf : Item → Int)
  (startMs endMs : Int)

/-- The items of a range, both of its ends included. -/
def between (items : List Item) : List Item :=
  items.filter (fun item => startMs ≤ timeOf item ∧ timeOf item ≤ endMs)

/-- What is taken of a page. -/
def taken (page : List Item) : List Item :=
  (page.takeWhile (fun item => timeOf item ≤ endMs)).filter
    (fun item => startMs ≤ timeOf item)

/-- The page goes beyond the range. -/
def passes (page : List Item) : Bool :=
  page.any (fun item => endMs < timeOf item)

variable {timeOf startMs endMs}

/-- In the order of time nothing of the range is missed. -/
theorem taken_eq_between
    {items : List Item}
    (ordered :
      items.Pairwise (fun one other => timeOf one ≤ timeOf other)) :
    taken timeOf startMs endMs items =
      between timeOf startMs endMs items := by
  induction items with
  | nil =>
      rfl
  | cons item rest inductionHypothesis =>
      obtain ⟨first, restOrdered⟩ := List.pairwise_cons.mp ordered
      have tail := inductionHypothesis restOrdered
      unfold taken between at tail ⊢
      by_cases inTime : timeOf item ≤ endMs
      · rw [List.takeWhile_cons_of_pos (by simpa using inTime),
          List.filter_cons, List.filter_cons, tail]
        simp only [inTime, and_true]
      · have nothing :
            (item :: rest).filter
                (fun item => startMs ≤ timeOf item ∧ timeOf item ≤ endMs) =
              [] := by
          rw [List.filter_eq_nil_iff]
          rintro other (_ | ⟨_, later⟩)
          · simp [inTime]
          · have := first other later
            simp only [decide_eq_true_eq]
            omega
        rw [List.takeWhile_cons_of_neg (by simpa using inTime), nothing,
          List.filter_nil]

/-- A page inside the range is taken as far as it is not before it. -/
theorem taken_append_of_not_passes
    {page : List Item}
    (inside : passes timeOf endMs page = false)
    (rest : List Item) :
    taken timeOf startMs endMs (page ++ rest) =
      taken timeOf startMs endMs page ++
        taken timeOf startMs endMs rest := by
  have all :
      ∀ item ∈ page, decide (timeOf item ≤ endMs) = true := by
    intro item member
    have := List.any_eq_false.mp inside item member
    simp only [decide_eq_true_eq] at this ⊢
    omega
  unfold taken
  rw [List.takeWhile_append_of_pos all, List.filter_append,
    List.takeWhile_eq_self_iff.mpr all]

/-- What follows a page that goes beyond the range is not taken. -/
theorem taken_append_of_passes
    {page : List Item}
    (beyond : passes timeOf endMs page = true)
    (rest : List Item) :
    taken timeOf startMs endMs (page ++ rest) =
      taken timeOf startMs endMs page := by
  unfold taken
  congr 1
  induction page with
  | nil =>
      cases beyond
  | cons item page inductionHypothesis =>
      by_cases inTime : timeOf item ≤ endMs
      · have later : passes timeOf endMs page = true := by
          have := beyond
          simp only [passes, List.any_cons, Bool.or_eq_true,
            decide_eq_true_eq] at this ⊢
          exact this.resolve_left (by omega)
        rw [List.cons_append,
          List.takeWhile_cons_of_pos (by simpa using inTime),
          List.takeWhile_cons_of_pos (by simpa using inTime),
          inductionHypothesis later]
      · rw [List.cons_append,
          List.takeWhile_cons_of_neg (by simpa using inTime),
          List.takeWhile_cons_of_neg (by simpa using inTime)]

/-- A part of the range is inside of it. -/
theorem passes_between
    (items : List Item) :
    passes timeOf endMs (between timeOf startMs endMs items) = false := by
  rw [passes, List.any_eq_false]
  intro item member
  have := (List.mem_filter.mp member).2
  simp only [decide_eq_true_eq] at this ⊢
  omega

/-- The first items of a range are all taken. -/
theorem taken_take_between
    (items : List Item)
    (count : Nat) :
    taken timeOf startMs endMs
        ((between timeOf startMs endMs items).take count) =
      (between timeOf startMs endMs items).take count := by
  have within :
      ∀ item ∈ (between timeOf startMs endMs items).take count,
        startMs ≤ timeOf item ∧ timeOf item ≤ endMs := by
    intro item member
    have := (List.mem_filter.mp (List.mem_of_mem_take member)).2
    simpa using this
  unfold taken
  rw [List.takeWhile_eq_self_iff.mpr
      (fun item member => by simpa using (within item member).2),
    List.filter_eq_self.mpr
      (fun item member => by simpa using (within item member).1)]

/-- The first items of a range do not go beyond it. -/
theorem passes_take_between
    (items : List Item)
    (count : Nat) :
    passes timeOf endMs ((between timeOf startMs endMs items).take count) =
      false := by
  rw [passes, List.any_eq_false]
  intro item member
  exact List.any_eq_false.mp (passes_between items) item
    (List.mem_of_mem_take member)

end Times

section Numbers

variable
  (numberOf : Item → Int)

/-- The items from a number on. -/
def fromNumber (number : Int) (items : List Item) : List Item :=
  items.filter (fun item => number ≤ numberOf item)

/-- The number after the last item of a page. -/
def nextNumber (number : Int) (page : List Item) : Int :=
  (page.getLast?.map (fun item => numberOf item + 1)).getD number

/-- The answers to requests that go on after the last item of each page. -/
def answers (limit : Nat) (items : List Item) :
    Nat → Int → List (List Item)
  | 0, _ => []
  | rounds + 1, number =>
      let page := (fromNumber numberOf number items).take limit
      page :: answers limit items rounds (nextNumber numberOf number page)

variable {numberOf}

/-- The number after a page is that after its last item. -/
private theorem nextNumber_concat
    (number : Int)
    (front : List Item)
    (last : Item) :
    nextNumber numberOf number (front ++ [last]) = numberOf last + 1 := by
  simp [nextNumber]

/-- The items after the last one of a page are those behind the page. -/
private theorem fromNumber_behind
    {front rest : List Item}
    {last : Item}
    (ascending :
      (front ++ last :: rest).Pairwise
        (fun one other => numberOf one < numberOf other)) :
    fromNumber numberOf (numberOf last + 1) (front ++ last :: rest) =
      rest := by
  rw [List.pairwise_append, List.pairwise_cons] at ascending
  obtain ⟨_, ⟨after, _⟩, before⟩ := ascending
  have earlier :
      front.filter (fun item => numberOf last + 1 ≤ numberOf item) = [] := by
    rw [List.filter_eq_nil_iff]
    intro item member
    have := before item member last List.mem_cons_self
    simp only [decide_eq_true_eq]
    omega
  have later :
      rest.filter (fun item => numberOf last + 1 ≤ numberOf item) = rest := by
    rw [List.filter_eq_self]
    intro item member
    have := after item member
    simp only [decide_eq_true_eq]
    omega
  rw [fromNumber, List.filter_append, List.filter_cons_of_neg ?_,
    earlier, later, List.nil_append]
  simp only [decide_eq_true_eq]
  omega

/-- A page that is not empty has a last item. -/
private theorem exists_concat
    {page : List Item}
    (nonempty : page ≠ []) :
    ∃ front last, page = front ++ [last] :=
  ⟨page.dropLast, page.getLast nonempty,
    (List.dropLast_concat_getLast nonempty).symm⟩

/-- Going on after a page leaves what the page has not shown. -/
theorem fromNumber_next
    {number : Int}
    {items page rest : List Item}
    (ascending :
      items.Pairwise (fun one other => numberOf one < numberOf other))
    (split : fromNumber numberOf number items = page ++ rest)
    (nonempty : page ≠ []) :
    number < nextNumber numberOf number page ∧
      fromNumber numberOf (nextNumber numberOf number page) items =
        rest := by
  obtain ⟨front, last, rfl⟩ := exists_concat nonempty
  rw [List.append_assoc, List.singleton_append] at split
  have lower : number ≤ numberOf last := by
    have member : last ∈ fromNumber numberOf number items := by
      rw [split]
      simp
    simpa [fromNumber] using (List.mem_filter.mp member).2
  have narrowed :
      fromNumber numberOf (numberOf last + 1) items =
        fromNumber numberOf (numberOf last + 1)
          (fromNumber numberOf number items) := by
    rw [fromNumber, fromNumber, fromNumber, List.filter_filter]
    apply List.filter_congr
    intro item _
    by_cases later : numberOf last + 1 ≤ numberOf item
    · have : number ≤ numberOf item := by omega
      simp [later, this]
    · simp [later]
  rw [nextNumber_concat, narrowed, split]
  refine ⟨by omega, fromNumber_behind ?_⟩
  rw [← split]
  exact ascending.filter _

variable
  {timeOf : Item → Int}
  {startMs endMs : Int}
  {items : List Item}

/-- The first page of a range is followed by the rest of the range. -/
theorem between_fromNumber_next
    (tape : IsTape numberOf timeOf items)
    {page rest : List Item}
    (split : between timeOf startMs endMs items = page ++ rest)
    (nonempty : page ≠ []) :
    between timeOf startMs endMs
        (fromNumber numberOf (nextNumber numberOf 0 page) items) =
      rest := by
  obtain ⟨front, last, rfl⟩ := exists_concat nonempty
  rw [List.append_assoc, List.singleton_append] at split
  have swapped :
      between timeOf startMs endMs
          (fromNumber numberOf (numberOf last + 1) items) =
        fromNumber numberOf (numberOf last + 1)
          (between timeOf startMs endMs items) := by
    rw [between, fromNumber, between, fromNumber, List.filter_filter,
      List.filter_filter]
    apply List.filter_congr
    intro item _
    exact Bool.and_comm _ _
  rw [nextNumber_concat, swapped, split]
  apply fromNumber_behind
  rw [← split]
  exact tape.numbers.filter _

end Numbers

end MarketIngest.Paging
