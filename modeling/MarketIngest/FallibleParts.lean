import MarketIngest.Fallible

namespace MarketIngest.Fallible

/-!
# Programs on a part of a state

A program on the first part of a state can be run on the whole.  It leaves the
second part as it is.  A sequence of programs has the outcome of its second part
once the first one has returned.
-/

variable {Part Rest Failure Value : Type}

/-- Run a program on the first part of a state. -/
def onFirst
    (program : Fallible Part Failure Value) :
    Fallible (Part × Rest) Failure Value :=
  ExceptT.mk fun state =>
    let (after, result) := program.outcome state.1
    pure (result, (after, state.2))

variable {program : Fallible Part Failure Value}

/-- What a program on a part does to the whole. -/
theorem outcome_onFirst
    (part : Part)
    (rest : Rest) :
    (onFirst program).outcome (part, rest) =
      (((program.outcome part).1, rest), (program.outcome part).2) :=
  rfl

/-- How a program on a part returns. -/
theorem returns_onFirst
    {before after : Part × Rest}
    {value : Value} :
    (onFirst program).Returns before value after ↔
      program.Returns before.1 value after.1 ∧ after.2 = before.2 := by
  obtain ⟨part, rest⟩ := before
  obtain ⟨partAfter, restAfter⟩ := after
  rw [Returns, outcome_onFirst, Returns]
  constructor
  · intro same
    obtain ⟨⟨rfl, rfl⟩, result⟩ := by
      simpa only [Prod.mk.injEq] using same
    exact ⟨Prod.ext rfl result, rfl⟩
  · rintro ⟨returned, rfl⟩
    rw [returned]

/-- A program on a part returns if it returns from the part. -/
theorem Returns.onFirst
    {before after : Part}
    {value : Value}
    (returned : program.Returns before value after)
    (rest : Rest) :
    (Fallible.onFirst program).Returns (before, rest) value (after, rest) :=
  returns_onFirst.mpr ⟨returned, rfl⟩

/-- A sequence goes on from where its first part has returned. -/
theorem outcome_bind_of_returns
    {Result : Type}
    {next : Value → Fallible Part Failure Result}
    {before between : Part}
    {value : Value}
    (returned : program.Returns before value between) :
    (program >>= next).outcome before = (next value).outcome between := by
  have first : program.outcome before = (between, .ok value) := returned
  rw [outcome_bind, first]

end MarketIngest.Fallible
