import Mathlib.Data.List.Basic

namespace MarketIngest.TaggedCell

/-!
# Guarded writes to a cell

A cell holds a value or nothing, and a value has a tag.  A write can ask for a
tag, or for an empty cell, and is admitted only if the cell is so at that time.
Admitted writes make up the versions of the cell.  Two values can have one tag,
so a guard does not tell a version from a later one with the same tag.
-/

variable {Value Tag : Type}

/-- What a write asks of the cell. -/
inductive Guard (Tag : Type) where
  | always
  | absent
  | holds (tag : Tag)
  deriving DecidableEq

/-- The cell is as the guard asks. -/
def Guard.admits
    [DecidableEq Tag]
    (tagOf : Value → Tag)
    (current : Option Value) :
    Guard Tag → Bool
  | .always => true
  | .absent => current.isNone
  | .holds tag => current.map tagOf = some tag

/-- A write with its guard. -/
structure GuardedWrite (Value Tag : Type) where
  guard : Guard Tag
  value : Value

/-- The version that a number of writes leaves. -/
def versionAt
    (initial : Option Value)
    (writes : List (GuardedWrite Value Tag)) :
    Nat → Option Value
  | 0 => initial
  | before + 1 => writes[before]?.map GuardedWrite.value

/-- The newest version. -/
def newest
    (initial : Option Value)
    (writes : List (GuardedWrite Value Tag)) : Option Value :=
  versionAt initial writes writes.length

/-- Every write was admitted by the version before it. -/
def Admitted
    [DecidableEq Tag]
    (tagOf : Value → Tag)
    (initial : Option Value)
    (writes : List (GuardedWrite Value Tag)) : Prop :=
  ∀ (index : Nat) (write : GuardedWrite Value Tag),
    writes[index]? = some write →
      write.guard.admits tagOf (versionAt initial writes index) = true

variable
  {tagOf : Value → Tag}
  {initial : Option Value}
  {writes : List (GuardedWrite Value Tag)}

/-- Later writes leave the versions before them. -/
theorem versionAt_append
    {index : Nat}
    (bounded : index ≤ writes.length)
    (later : List (GuardedWrite Value Tag)) :
    versionAt initial (writes ++ later) index =
      versionAt initial writes index := by
  cases index with
  | zero => rfl
  | succ before =>
      rw [versionAt, versionAt, List.getElem?_append_left bounded]

variable [DecidableEq Tag]

/-- One more admitted write. -/
theorem Admitted.snoc
    (admitted : Admitted tagOf initial writes)
    {write : GuardedWrite Value Tag}
    (admits :
      write.guard.admits tagOf (newest initial writes) = true) :
    Admitted tagOf initial (writes ++ [write]) := by
  intro index later found
  rcases Nat.lt_trichotomy index writes.length with before | same | after
  · rw [List.getElem?_append_left before] at found
    rw [versionAt_append (Nat.le_of_lt before)]
    exact admitted index later found
  · subst same
    rw [List.getElem?_concat_length] at found
    obtain rfl := Option.some.inj found
    rw [versionAt_append (Nat.le_refl _)]
    exact admits
  · rw [List.getElem?_eq_none (by simp; omega)] at found
    cases found

/-- A write that asks for a tag replaces a version with this tag. -/
theorem Admitted.tag_eq
    (admitted : Admitted tagOf initial writes)
    {index : Nat}
    {write : GuardedWrite Value Tag}
    (found : writes[index]? = some write)
    {tag : Tag}
    (asks : write.guard = .holds tag) :
    (versionAt initial writes index).map tagOf = some tag := by
  have admits := admitted index write found
  rw [asks] at admits
  simpa [Guard.admits] using admits

/-- A write that asks for an empty cell is the first one. -/
theorem Admitted.absent
    (admitted : Admitted tagOf initial writes)
    {index : Nat}
    {write : GuardedWrite Value Tag}
    (found : writes[index]? = some write)
    (asks : write.guard = .absent) :
    index = 0 ∧ initial = none := by
  have admits := admitted index write found
  rw [asks] at admits
  cases index with
  | zero =>
      exact ⟨rfl, by simpa [Guard.admits, versionAt] using admits⟩
  | succ before =>
      have bounded : before < writes.length := by
        obtain ⟨inside, _⟩ := List.getElem?_eq_some_iff.mp found
        omega
      rw [versionAt, List.getElem?_eq_getElem bounded] at admits
      cases admits

/-- A write that asks for the tag of an earlier version replaces that version,
or a write after it has stored the tag again. -/
theorem Admitted.same_version
    (admitted : Admitted tagOf initial writes)
    {index position : Nat}
    {write : GuardedWrite Value Tag}
    (found : writes[index]? = some write)
    {tag : Tag}
    (asks : write.guard = .holds tag)
    (seen : position ≤ index) :
    position = index ∨
      ∃ between again,
        position ≤ between ∧ between < index ∧
          writes[between]? = some again ∧ tagOf again.value = tag := by
  cases index with
  | zero =>
      exact .inl (Nat.le_zero.mp seen)
  | succ before =>
      rcases Nat.lt_or_eq_of_le seen with earlier | same
      · have replaced := admitted.tag_eq found asks
        rw [versionAt, Option.map_map, Option.map_eq_some_iff] at replaced
        obtain ⟨again, isWrite, sameTag⟩ := replaced
        exact
          .inr
            ⟨before, again, Nat.le_of_lt_succ earlier,
              Nat.lt_succ_self before, isWrite, sameTag⟩
      · exact .inl same

end MarketIngest.TaggedCell
