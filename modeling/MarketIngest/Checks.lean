import Mathlib.Data.List.Basic

namespace MarketIngest

/-!
# Checks in sequence

A validator goes through its checks in order and returns the error of the first
one that refuses.  It accepts exactly if none of them refuses.
-/

variable {Failure : Type}

/-- Go through checks in order; the flag of a check says that it refuses. -/
def firstRefusal : List (Bool × Failure) → Except Failure Unit
  | [] => .ok ()
  | (refused, failure) :: rest =>
      if refused then
        .error failure
      else
        firstRefusal rest

/-- Checks accept exactly if none of them refuses. -/
theorem firstRefusal_eq_ok_iff
    {checks : List (Bool × Failure)} :
    firstRefusal checks = .ok () ↔
      ∀ check ∈ checks, check.1 = false := by
  induction checks with
  | nil =>
      simp [firstRefusal]
  | cons check rest inductionHypothesis =>
      obtain ⟨refused, failure⟩ := check
      cases refused with
      | false =>
          simp [firstRefusal, inductionHypothesis]
      | true =>
          simp [firstRefusal]

end MarketIngest
