import Mathlib.Algebra.Order.Group.Unbundled.Int
import Mathlib.Data.List.Basic
import Mathlib.Data.List.Pairwise
import Mathlib.Order.MinMax

namespace MarketIngest.Tiling

/-!
# Tilings of a range

Half-open cells tile a range if the first one starts with it, each next one
starts where the one before ends, and the last one ends with it.  Every point of
the range is then in exactly one cell.  A walk in equal steps that is cut at the
end of the range makes such a tiling.
-/

section Cells

variable {Point : Type}

/-- Cells that follow each other from a start to a finish. -/
inductive Tiles [LT Point] :
    Point → Point → List (Point × Point) → Prop where
  | nil (point : Point) :
      Tiles point point []
  | cons
      {start middle finish : Point}
      {rest : List (Point × Point)}
      (nonempty : start < middle)
      (tiles : Tiles middle finish rest) :
      Tiles start finish ((start, middle) :: rest)

/-- The point lies in the half-open cell. -/
def Within
    [LE Point]
    [LT Point]
    (cell : Point × Point)
    (point : Point) : Prop :=
  cell.1 ≤ point ∧ point < cell.2

variable
  [LinearOrder Point]
  {start finish : Point}
  {cells : List (Point × Point)}

/-- A tiled range does not end before it starts. -/
theorem Tiles.le
    (tiles : Tiles start finish cells) :
    start ≤ finish := by
  induction tiles with
  | nil point =>
      exact le_refl point
  | cons nonempty rest inductionHypothesis =>
      exact nonempty.le.trans inductionHypothesis

/-- Cells are not empty and lie inside the range. -/
theorem Tiles.bounds
    (tiles : Tiles start finish cells)
    {cell : Point × Point}
    (member : cell ∈ cells) :
    start ≤ cell.1 ∧ cell.1 < cell.2 ∧ cell.2 ≤ finish := by
  induction tiles with
  | nil point =>
      cases member
  | cons nonempty rest inductionHypothesis =>
      rcases List.mem_cons.mp member with rfl | later
      · exact ⟨le_refl _, nonempty, rest.le⟩
      · obtain ⟨lower, inside, upper⟩ := inductionHypothesis later
        exact ⟨nonempty.le.trans lower, inside, upper⟩

/-- Each cell ends before every later one starts. -/
theorem Tiles.ordered
    (tiles : Tiles start finish cells) :
    cells.Pairwise (fun first second => first.2 ≤ second.1) := by
  induction tiles with
  | nil point =>
      exact .nil
  | cons nonempty rest inductionHypothesis =>
      refine .cons ?_ inductionHypothesis
      intro later member
      exact (rest.bounds member).1

/-- Every point of the range lies in a cell. -/
theorem Tiles.exists_within
    (tiles : Tiles start finish cells)
    {point : Point}
    (lower : start ≤ point)
    (upper : point < finish) :
    ∃ cell ∈ cells, Within cell point := by
  induction tiles with
  | nil other =>
      exact absurd (lower.trans_lt upper) (lt_irrefl _)
  | @cons start middle finish others nonempty rest inductionHypothesis =>
      rcases lt_or_ge point middle with inFirst | beyond
      · exact ⟨(start, middle), List.mem_cons_self, lower, inFirst⟩
      · obtain ⟨cell, member, within⟩ := inductionHypothesis beyond upper
        exact ⟨cell, List.mem_cons_of_mem _ member, within⟩

/-- A tiled range that is not empty has a cell at its start. -/
theorem Tiles.exists_first
    (tiles : Tiles start finish cells)
    (nonempty : start < finish) :
    ∃ middle, (start, middle) ∈ cells := by
  cases tiles with
  | nil point =>
      exact absurd nonempty (lt_irrefl _)
  | cons inside rest =>
      exact ⟨_, List.mem_cons_self⟩

/-- A tiled range that is not empty has a cell at its end. -/
theorem Tiles.exists_last
    (tiles : Tiles start finish cells)
    (nonempty : start < finish) :
    ∃ middle, (middle, finish) ∈ cells := by
  induction tiles with
  | nil point =>
      exact absurd nonempty (lt_irrefl _)
  | @cons start middle finish others inside rest inductionHypothesis =>
      rcases rest.le.lt_or_eq with more | ended
      · obtain ⟨last, member⟩ := inductionHypothesis more
        exact ⟨last, List.mem_cons_of_mem _ member⟩
      · exact ⟨start, ended ▸ List.mem_cons_self⟩

end Cells

section Steps

/-- The cells of a walk in steps that is cut at the end of the range. -/
def cutGrid (step finish : Int) : Nat → Int → List (Int × Int)
  | 0, _ => []
  | rounds + 1, cursor =>
      if cursor < finish then
        (cursor, min (cursor + step) finish) ::
          cutGrid step finish rounds (min (cursor + step) finish)
      else
        []

variable
  {step finish cursor : Int}
  {rounds : Nat}

/-- With enough rounds the cells tile the range. -/
theorem tiles_cutGrid
    (positive : 0 < step)
    (ordered : cursor ≤ finish)
    (enough : finish - cursor ≤ rounds * step) :
    Tiles cursor finish (cutGrid step finish rounds cursor) := by
  induction rounds generalizing cursor with
  | zero =>
      have same : cursor = finish := by
        omega
      subst same
      exact .nil cursor
  | succ rounds inductionHypothesis =>
      rw [cutGrid]
      split_ifs with before
      · refine .cons (by omega) (inductionHypothesis (by omega) ?_)
        have more :
            ((rounds + 1 : Nat) : Int) * step = rounds * step + step := by
          rw [Int.natCast_succ, Int.add_mul, Int.one_mul]
        rcases le_total (cursor + step) finish with inside | beyond
        · rw [min_eq_left inside]
          omega
        · rw [min_eq_right beyond, Int.sub_self]
          exact Int.mul_nonneg (Int.natCast_nonneg rounds) positive.le
      · have same : cursor = finish := by
          omega
        subst same
        exact .nil cursor

/-- Cells start a number of steps from the cursor and are cut at the end. -/
theorem shape_of_mem_cutGrid
    {cell : Int × Int}
    (member : cell ∈ cutGrid step finish rounds cursor) :
    step ∣ cell.1 - cursor ∧ cell.1 < finish ∧
      cell.2 = min (cell.1 + step) finish := by
  induction rounds generalizing cursor with
  | zero =>
      cases member
  | succ rounds inductionHypothesis =>
      rw [cutGrid] at member
      split_ifs at member with before
      · rcases List.mem_cons.mp member with rfl | later
        · exact ⟨by simp, before, rfl⟩
        · obtain ⟨aligned, inside, isEnd⟩ := inductionHypothesis later
          refine ⟨?_, inside, isEnd⟩
          rcases le_total (cursor + step) finish with full | beyond
          · rw [min_eq_left full, ← Int.sub_sub] at aligned
            have sum := Int.dvd_add aligned (Int.dvd_refl step)
            rwa [Int.sub_add_cancel] at sum
          · -- After a cut cell there is no other one.
            rw [min_eq_right beyond] at later
            cases rounds with
            | zero =>
                cases later
            | succ rounds =>
                rw [cutGrid, if_neg (lt_irrefl finish)] at later
                cases later
      · cases member

/-- A cell of a tiling by steps is determined by its start. -/
theorem mem_cutGrid_iff
    (positive : 0 < step)
    (ordered : cursor ≤ finish)
    (enough : finish - cursor ≤ rounds * step)
    {cell : Int × Int} :
    cell ∈ cutGrid step finish rounds cursor ↔
      cursor ≤ cell.1 ∧ cell.1 < finish ∧ step ∣ cell.1 - cursor ∧
        cell.2 = min (cell.1 + step) finish := by
  have tiles := tiles_cutGrid positive ordered enough
  constructor
  · intro member
    obtain ⟨aligned, inside, isEnd⟩ := shape_of_mem_cutGrid member
    exact ⟨(tiles.bounds member).1, inside, aligned, isEnd⟩
  · rintro ⟨lower, inside, aligned, isEnd⟩
    obtain ⟨found, member, notAfter, before⟩ :=
      tiles.exists_within lower inside
    obtain ⟨foundAligned, -, foundEnd⟩ := shape_of_mem_cutGrid member
    have apart : step ∣ cell.1 - found.1 := by
      have whole := Int.dvd_sub aligned foundAligned
      rwa [sub_sub_sub_cancel_right] at whole
    have close : cell.1 - found.1 < step := by
      omega
    have sameStart : cell.1 = found.1 := by
      have zero := Int.eq_zero_of_dvd_of_nonneg_of_lt
        (by omega) close apart
      omega
    have same : cell = found := by
      rw [Prod.ext_iff, isEnd, foundEnd, sameStart]
      exact ⟨rfl, rfl⟩
    rw [same]
    exact member

/-- In a range of whole steps no cell is cut. -/
theorem length_of_mem_cutGrid
    (whole : step ∣ finish - cursor)
    {cell : Int × Int}
    (member : cell ∈ cutGrid step finish rounds cursor) :
    cell.2 = cell.1 + step := by
  obtain ⟨aligned, inside, isEnd⟩ := shape_of_mem_cutGrid member
  have apart : step ∣ finish - cell.1 := by
    have difference := Int.dvd_sub whole aligned
    rwa [sub_sub_sub_cancel_right] at difference
  have far := Int.le_of_dvd (by omega) apart
  rw [isEnd, min_eq_left (by omega)]

end Steps

end MarketIngest.Tiling
