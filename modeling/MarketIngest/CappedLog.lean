import Mathlib.Data.List.DropRight

namespace MarketIngest

/-!
# Logs of bounded length

A log of bounded length keeps the latest entries of a history and counts those
that it has dropped.  An entry is added at its end, and if the log is then too
long, its first entry goes.
-/

variable
  {Value : Type}
  {cap : Nat}
  {history kept : List Value}
  {dropped : Nat}

/-- The log has the latest entries, and counts the others. -/
structure KeepsLatest
    (cap : Nat)
    (history kept : List Value)
    (dropped : Nat) : Prop where
  kept : kept = history.rtake cap
  dropped : dropped = history.length - cap

/-- How many entries a log has. -/
theorem KeepsLatest.length_eq
    (keeps : KeepsLatest cap history kept dropped) :
    kept.length = min cap history.length := by
  rw [keeps.kept, List.rtake, List.length_drop]
  omega

/-- The log is the end of the history. -/
theorem KeepsLatest.suffix
    (keeps : KeepsLatest cap history kept dropped) :
    kept <:+ history := by
  rw [keeps.kept]
  exact List.drop_suffix _ _

/-- Before anything happened the log is empty. -/
theorem keepsLatest_nil :
    KeepsLatest cap ([] : List Value) [] 0 where
  kept := (List.rtake_nil cap).symm
  dropped := (Nat.zero_sub cap).symm

/-- An entry is added while there is room. -/
theorem KeepsLatest.push
    (keeps : KeepsLatest cap history kept dropped)
    (value : Value)
    (room : kept.length + 1 ≤ cap) :
    KeepsLatest cap (history ++ [value]) (kept ++ [value]) dropped := by
  have length := keeps.length_eq
  have whole : kept = history := by
    rw [keeps.kept, List.rtake]
    have nothing : history.length - cap = 0 := by omega
    rw [nothing, List.drop_zero]
  have isDropped := keeps.dropped
  subst whole
  have nothing : (kept ++ [value]).length - cap = 0 := by
    rw [List.length_append, List.length_singleton]
    omega
  constructor
  · rw [List.rtake, nothing, List.drop_zero]
  · omega

/-- An entry is added to a full log, and the first one goes. -/
theorem KeepsLatest.shift
    (keeps : KeepsLatest cap history kept dropped)
    (value : Value)
    (full : cap < kept.length + 1) :
    KeepsLatest cap (history ++ [value]) (kept ++ [value]).tail
      (dropped + 1) := by
  have length := keeps.length_eq
  have isDropped := keeps.dropped
  constructor
  · cases cap with
    | zero =>
        have nothing : kept = [] := by
          rw [keeps.kept, List.rtake_zero]
        rw [nothing, List.rtake_zero]
        rfl
    | succ room =>
        cases kept with
        | nil =>
            simp at full
        | cons oldest rest =>
            have whole := keeps.kept
            rw [List.rtake_concat_succ, List.cons_append, List.tail_cons]
            congr 1
            have split :
                history.rtake room = (history.rtake (room + 1)).tail := by
              rw [List.rtake, List.rtake, List.tail_drop]
              congr 1
              omega
            rw [split, ← whole, List.tail_cons]
  · rw [List.length_append, List.length_singleton]
    omega

end MarketIngest
