import MarketIngest.PagedTape
import Mathlib.Algebra.Order.Group.Unbundled.Int
import Mathlib.Tactic.Linarith

namespace MarketIngest.Paging

/-!
# Where the pages of a tape end

A reader of a tape reads page after page until one goes beyond its range or is
not full.  Whether it comes to the last item of the tape depends on how many
items lie inside the range and how many behind it.
-/

variable {Item : Type}

section Order

variable
  {numberOf timeOf : Item → Int}
  {items : List Item}
  {one other : Item}

/-- Where all pairs of a list are related, two items are related either way. -/
private theorem related_or
    {Related : Item → Item → Prop}
    (pairwise : items.Pairwise Related)
    (first : one ∈ items)
    (second : other ∈ items) :
    one = other ∨ Related one other ∨ Related other one := by
  induction items with
  | nil =>
      cases first
  | cons item rest inductionHypothesis =>
      obtain ⟨head, tail⟩ := List.pairwise_cons.mp pairwise
      rcases List.mem_cons.mp first with rfl | firstLater
      · rcases List.mem_cons.mp second with rfl | secondLater
        · exact .inl rfl
        · exact .inr (.inl (head other secondLater))
      · rcases List.mem_cons.mp second with rfl | secondLater
        · exact .inr (.inr (head one firstLater))
        · exact inductionHypothesis tail firstLater secondLater

/-- An item of a tape with a smaller number is not later. -/
theorem IsTape.time_le_of_number_lt
    (tape : IsTape numberOf timeOf items)
    (first : one ∈ items)
    (second : other ∈ items)
    (smaller : numberOf one < numberOf other) :
    timeOf one ≤ timeOf other := by
  have both :
      items.Pairwise (fun one other =>
        numberOf one < numberOf other ∧ timeOf one ≤ timeOf other) :=
    tape.numbers.and tape.times
  rcases related_or both first second with rfl | ⟨_, ordered⟩ | ⟨larger, _⟩
  · exact le_refl _
  · exact ordered
  · omega

/-- An item of a tape that is earlier has a smaller number. -/
theorem IsTape.number_lt_of_time_lt
    (tape : IsTape numberOf timeOf items)
    (first : one ∈ items)
    (second : other ∈ items)
    (earlier : timeOf one < timeOf other) :
    numberOf one < numberOf other := by
  have both :
      items.Pairwise (fun one other =>
        numberOf one < numberOf other ∧ timeOf one ≤ timeOf other) :=
    tape.numbers.and tape.times
  rcases related_or both first second with rfl | ⟨smaller, _⟩ | ⟨_, later⟩
  · omega
  · exact smaller
  · omega

/-- Numbers ascend up to the last one. -/
theorem number_le_last
    {last : Item}
    (ascending :
      items.Pairwise (fun one other => numberOf one < numberOf other))
    (isLast : items.getLast? = some last)
    (member : one ∈ items) :
    numberOf one ≤ numberOf last := by
  obtain ⟨front, rfl⟩ := List.getLast?_eq_some_iff.mp isLast
  rcases List.mem_append.mp member with before | itself
  · exact ((List.pairwise_append.mp ascending).2.2 one before last
      (List.mem_singleton_self last)).le
  · rw [List.mem_singleton.mp itself]

/-- The items from a number on end as the tape does, if there are any. -/
theorem getLast?_fromNumber
    (ascending :
      items.Pairwise (fun one other => numberOf one < numberOf other))
    {number : Int}
    (some : fromNumber numberOf number items ≠ []) :
    (fromNumber numberOf number items).getLast? = items.getLast? := by
  cases isLast : items.getLast? with
  | none =>
      rw [List.getLast?_eq_none_iff] at isLast
      subst isLast
      exact absurd rfl some
  | some last =>
      obtain ⟨item, member⟩ := List.exists_mem_of_ne_nil _ some
      obtain ⟨inItems, fromOn⟩ := List.mem_filter.mp member
      have upper := number_le_last ascending isLast inItems
      obtain ⟨front, rfl⟩ := List.getLast?_eq_some_iff.mp isLast
      have kept : decide (number ≤ numberOf last) = true := by
        simp only [decide_eq_true_eq] at fromOn ⊢
        omega
      rw [fromNumber, List.filter_append,
        List.filter_cons_of_pos (by simpa using kept)]
      exact List.getLast?_concat

end Order

section Ends

variable
  (timeOf : Item → Int)
  (endMs : Int)
  (limit : Nat)

/-- The items up to the end of the range. -/
def inside (items : List Item) : List Item :=
  items.filter (fun item => timeOf item ≤ endMs)

/-- The items behind the end of the range. -/
def beyond (items : List Item) : List Item :=
  items.filter (fun item => endMs < timeOf item)

/-- The page on which the range ends has all that is behind it. -/
def EndsTape (items : List Item) : Prop :=
  (beyond timeOf endMs items).length ≤
    limit - (inside timeOf endMs items).length % limit

/-- An item is inside the range or beyond it. -/
theorem length_inside_add_beyond
    (items : List Item) :
    (inside timeOf endMs items).length +
      (beyond timeOf endMs items).length = items.length := by
  rw [inside, beyond, ← List.countP_eq_length_filter,
    ← List.countP_eq_length_filter,
    List.length_eq_countP_add_countP (fun item => timeOf item ≤ endMs)]
  congr 1
  apply List.countP_congr
  intro item _
  simp only [decide_eq_true_eq, not_le]

/-- The first items and the others of a list are inside or beyond. -/
theorem inside_beyond_split
    (items : List Item)
    (count : Nat) :
    inside timeOf endMs items =
        inside timeOf endMs (items.take count) ++
          inside timeOf endMs (items.drop count) ∧
      beyond timeOf endMs items =
        beyond timeOf endMs (items.take count) ++
          beyond timeOf endMs (items.drop count) := by
  unfold inside beyond
  rw [← List.filter_append, ← List.filter_append, List.take_append_drop]
  exact ⟨rfl, rfl⟩

variable {timeOf endMs limit}

/-- A single page has all that is behind the range. -/
theorem endsTape_of_length_le
    {items : List Item}
    (fits : items.length ≤ limit) :
    EndsTape timeOf endMs limit items := by
  have sum := length_inside_add_beyond timeOf endMs items
  unfold EndsTape
  rcases Nat.lt_or_ge (inside timeOf endMs items).length limit with
    fewer | full
  · rw [Nat.mod_eq_of_lt fewer]
    omega
  · have all : (inside timeOf endMs items).length = limit := by omega
    rw [all, Nat.mod_self]
    omega

/-- A page that goes beyond the range and is not the last one leaves items
behind. -/
theorem not_endsTape_of_passes
    {items : List Item}
    (ordered :
      items.Pairwise (fun one other => timeOf one ≤ timeOf other))
    (more : limit < items.length)
    (passing : passes timeOf endMs (items.take limit) = true) :
    ¬ EndsTape timeOf endMs limit items := by
  obtain ⟨item, member, late⟩ := List.any_eq_true.mp passing
  simp only [decide_eq_true_eq] at late
  have behind : ∀ other ∈ items.drop limit, endMs < timeOf other := by
    intro other isBehind
    have split := List.take_append_drop limit items
    rw [← split] at ordered
    have := (List.pairwise_append.mp ordered).2.2 item member other isBehind
    omega
  have nothing : inside timeOf endMs (items.drop limit) = [] := by
    rw [inside, List.filter_eq_nil_iff]
    intro other isBehind
    have := behind other isBehind
    simp only [decide_eq_true_eq]
    omega
  have split :
      inside timeOf endMs items = inside timeOf endMs (items.take limit) := by
    rw [(inside_beyond_split timeOf endMs items limit).1, nothing,
      List.append_nil]
  have pageSum := length_inside_add_beyond timeOf endMs (items.take limit)
  have sum := length_inside_add_beyond timeOf endMs items
  have isBeyond : item ∈ beyond timeOf endMs (items.take limit) :=
    List.mem_filter.mpr ⟨member, by simpa using late⟩
  have some := List.length_pos_of_mem isBeyond
  rw [List.length_take, Nat.min_eq_left more.le, ← split] at pageSum
  unfold EndsTape
  rw [Nat.mod_eq_of_lt (by omega)]
  omega

/-- A page inside the range changes nothing. -/
theorem endsTape_drop_iff
    {items : List Item}
    (more : limit < items.length)
    (within : passes timeOf endMs (items.take limit) = false) :
    EndsTape timeOf endMs limit (items.drop limit) ↔
      EndsTape timeOf endMs limit items := by
  have early : ∀ item ∈ items.take limit, timeOf item ≤ endMs := by
    intro item member
    have := List.any_eq_false.mp within item member
    simp only [decide_eq_true_eq] at this
    omega
  have pageInside :
      inside timeOf endMs (items.take limit) = items.take limit := by
    rw [inside, List.filter_eq_self]
    intro item member
    simpa using early item member
  have nothingBeyond : beyond timeOf endMs (items.take limit) = [] := by
    rw [beyond, List.filter_eq_nil_iff]
    intro item member
    have := early item member
    simp only [decide_eq_true_eq]
    omega
  obtain ⟨splitInside, splitBeyond⟩ :=
    inside_beyond_split timeOf endMs items limit
  unfold EndsTape
  rw [splitInside, splitBeyond, pageInside, nothingBeyond, List.nil_append,
    List.length_append, List.length_take, Nat.min_eq_left more.le,
    Nat.add_mod_left]

end Ends

end MarketIngest.Paging
