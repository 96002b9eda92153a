import MarketIngest.Runs
import Mathlib.Data.List.Infix
import Mathlib.Data.List.Induction

namespace MarketIngest.Runs

/-!
# Runs with their history

A property of a state may also speak of the actions that led to it.  A fact is
seen in a history if it held in the state after some first part of it, and what
was seen stays seen while the history grows.
-/

variable {State Action : Type}

/-- The fact held at some point of the history, not before a first part. -/
def Seen
    (step : State → Action → State)
    (initial : State)
    (since : List Action)
    (fact : State → Prop)
    (history : List Action) : Prop :=
  ∃ earlier,
    since <+: earlier ∧ earlier <+: history ∧ fact (run step initial earlier)

section

variable
  {step : State → Action → State}
  {initial : State}
  {since history : List Action}
  {fact : State → Prop}

/-- A fact of the last state is seen. -/
theorem seen_now
    (after : since <+: history)
    (holds : fact (run step initial history)) :
    Seen step initial since fact history :=
  ⟨history, after, List.prefix_rfl, holds⟩

/-- What was seen stays seen. -/
theorem Seen.append
    (seen : Seen step initial since fact history)
    (later : List Action) :
    Seen step initial since fact (history ++ later) := by
  obtain ⟨earlier, after, before, holds⟩ := seen
  exact ⟨earlier, after, before.trans (List.prefix_append _ _), holds⟩

/-- A run followed by one action. -/
theorem run_concat
    (history : List Action)
    (action : Action) :
    run step initial (history ++ [action]) =
      step (run step initial history) action := by
  rw [run_append]
  rfl

/--
A property of histories and states that every action preserves, from the state
that the history leads to, holds of every history.
-/
theorem history_induction
    {property : List Action → State → Prop}
    (actions : List Action)
    (initially : property [] initial)
    (preserved :
      ∀ {history action},
        property history (run step initial history) →
        property (history ++ [action])
          (step (run step initial history) action)) :
    property actions (run step initial actions) := by
  induction actions using List.reverseRecOn with
  | nil =>
      exact initially
  | append_singleton history action inductionHypothesis =>
      rw [run_concat]
      exact preserved inductionHypothesis

end

end MarketIngest.Runs
