import Mathlib.Order.Defs.LinearOrder

namespace MarketIngest

/-!
# Programs with a state that survives a failure

A program reads and changes a state and either returns a value or fails.  The
state that it has reached remains also after a failure.  `Returns` says how a
program returns, and `Keeps` is the rule of pre- and postconditions for a
property of the state that matters only as long as nothing fails.  `Ensures` is
the rule for programs whose state matters also after a failure, and `Preserves`
is its case of one property throughout.
-/

variable {State Failure Value Result : Type}

/-- A program with a state that survives a failure. -/
abbrev Fallible (State Failure : Type) :=
  ExceptT Failure (StateM State)

namespace Fallible

/-- The state and the outcome of a program. -/
def outcome
    (program : Fallible State Failure Value)
    (state : State) : State × Except Failure Value :=
  let (result, after) := StateT.run (ExceptT.run program) state
  (after, result)

/-- The program returns a value in a state. -/
def Returns
    (program : Fallible State Failure Value)
    (before : State)
    (value : Value)
    (after : State) : Prop :=
  program.outcome before = (after, .ok value)

/-- The property survives unless the program fails. -/
def Keeps
    (property : State → Prop)
    (program : Fallible State Failure Value) : Prop :=
  ∀ before value after,
    property before →
    program.Returns before value after →
    property after

/-- How a pure program returns. -/
theorem returns_pure
    {before after : State}
    {value result : Value} :
    (pure value : Fallible State Failure Value).Returns before result
        after ↔
      value = result ∧ before = after := by
  change
    (before, (Except.ok value : Except Failure Value)) =
        (after, .ok result) ↔ _
  rw [Prod.mk.injEq, Except.ok.injEq]
  exact and_comm

/-- A failing program does not return. -/
theorem not_returns_throw
    {before after : State}
    {failure : Failure}
    {value : Value} :
    ¬ (throw failure : Fallible State Failure Value).Returns before
      value after := by
  intro returned
  cases returned

/-- A sequence continues with the state that its first part has reached. -/
theorem outcome_bind
    (program : Fallible State Failure Value)
    (next : Value → Fallible State Failure Result)
    (before : State) :
    (program >>= next).outcome before =
      match program.outcome before with
      | (between, .ok value) => (next value).outcome between
      | (between, .error failure) => (between, .error failure) := by
  simp only [outcome, bind, ExceptT.bind, ExceptT.run, ExceptT.mk,
    StateT.run, StateT.bind, ExceptT.bindCont]
  rcases program before with ⟨first, between⟩
  cases first with
  | ok value => rfl
  | error failure => rfl

/-- How a sequence of two programs returns. -/
theorem returns_bind
    {program : Fallible State Failure Value}
    {next : Value → Fallible State Failure Result}
    {before after : State}
    {result : Result} :
    (program >>= next).Returns before result after ↔
      ∃ value between,
        program.Returns before value between ∧
        (next value).Returns between result after := by
  simp only [Returns, outcome_bind]
  rcases program.outcome before with ⟨between, first⟩
  cases first with
  | ok value =>
      constructor
      · intro rest
        exact ⟨value, between, rfl, rest⟩
      · rintro ⟨_, _, same, rest⟩
        cases same
        exact rest
  | error failure =>
      constructor
      · intro rest
        cases rest
      · rintro ⟨_, _, failed, _⟩
        cases failed

section Keeps

variable {property : State → Prop}

/-- A pure program keeps every property. -/
theorem keeps_pure
    (value : Value) :
    (pure value : Fallible State Failure Value).Keeps property := by
  intro before result after holds returned
  rw [(returns_pure.mp returned).2] at holds
  exact holds

/-- A failing program keeps every property. -/
theorem keeps_throw
    (failure : Failure) :
    (throw failure : Fallible State Failure Value).Keeps property := by
  intro before value after _ returned
  exact absurd returned not_returns_throw

/-- A sequence keeps what both of its parts keep. -/
theorem keeps_bind
    {program : Fallible State Failure Value}
    {next : Value → Fallible State Failure Result}
    (first : program.Keeps property)
    (second : ∀ value, (next value).Keeps property) :
    (program >>= next).Keeps property := by
  intro before result after holds returned
  obtain ⟨value, between, firstReturned, secondReturned⟩ :=
    returns_bind.mp returned
  exact second value between result after
    (first before value between holds firstReturned) secondReturned

end Keeps

/-- The program returns from every state. -/
def Total (program : Fallible State Failure Value) : Prop :=
  ∀ before, ∃ value after, program.Returns before value after

/-- A pure program returns. -/
theorem total_pure
    (value : Value) :
    (pure value : Fallible State Failure Value).Total :=
  fun before => ⟨value, before, returns_pure.mpr ⟨rfl, rfl⟩⟩

/-- A sequence of programs that return returns. -/
theorem total_bind
    {program : Fallible State Failure Value}
    {next : Value → Fallible State Failure Result}
    (first : program.Total)
    (second : ∀ value, (next value).Total) :
    (program >>= next).Total := by
  intro before
  obtain ⟨value, between, firstReturned⟩ := first before
  obtain ⟨result, after, secondReturned⟩ := second value between
  exact ⟨result, after,
    returns_bind.mpr ⟨value, between, firstReturned, secondReturned⟩⟩

/-- Started with one property, the program returns with a second one or fails
with a third one. -/
def Ensures
    (started : State → Prop)
    (program : Fallible State Failure Value)
    (returned : Value → State → Prop)
    (failed : State → Prop) : Prop :=
  ∀ before,
    started before →
    match program.outcome before with
    | (after, .ok value) => returned value after
    | (after, .error _) => failed after

section Ensures

variable
  {started : State → Prop}
  {returned : Value → State → Prop}
  {failed : State → Prop}

/-- A pure program ensures what holds already. -/
theorem ensures_pure
    {value : Value}
    (holds : ∀ state, started state → returned value state) :
    Ensures started (pure value : Fallible State Failure Value) returned
      failed :=
  holds

/-- A failing program ensures what holds already. -/
theorem ensures_throw
    {failure : Failure}
    (holds : ∀ state, started state → failed state) :
    Ensures started (throw failure : Fallible State Failure Value) returned
      failed :=
  holds

/-- A sequence continues from what its first part ensures. -/
theorem ensures_bind
    {program : Fallible State Failure Value}
    {next : Value → Fallible State Failure Result}
    {between : Value → State → Prop}
    {ended : Result → State → Prop}
    (first : Ensures started program between failed)
    (second : ∀ value, Ensures (between value) (next value) ended failed) :
    Ensures started (program >>= next) ended failed := by
  intro before holds
  have reached := first before holds
  rw [outcome_bind]
  revert reached
  rcases program.outcome before with ⟨after, result⟩
  cases result with
  | ok value =>
      exact second value after
  | error failure =>
      exact id

/-- A fact that does not depend on the state can be used for the program. -/
theorem ensures_assuming
    {program : Fallible State Failure Value}
    {fact : Prop}
    (ensures : fact → Ensures started program returned failed) :
    Ensures (fun state => fact ∧ started state) program returned failed :=
  fun before holds => ensures holds.1 before holds.2

/-- What is ensured separately is ensured together. -/
theorem Ensures.and
    {program : Fallible State Failure Value}
    {otherStarted otherFailed : State → Prop}
    {otherReturned : Value → State → Prop}
    (first : Ensures started program returned failed)
    (second : Ensures otherStarted program otherReturned otherFailed) :
    Ensures (fun state => started state ∧ otherStarted state) program
      (fun value state => returned value state ∧ otherReturned value state)
      (fun state => failed state ∧ otherFailed state) := by
  intro before holds
  have ofFirst := first before holds.1
  have ofSecond := second before holds.2
  revert ofFirst ofSecond
  rcases program.outcome before with ⟨after, result⟩
  cases result with
  | ok value =>
      exact fun ofFirst ofSecond => ⟨ofFirst, ofSecond⟩
  | error failure =>
      exact fun ofFirst ofSecond => ⟨ofFirst, ofSecond⟩

/-- Less may be ensured from more. -/
theorem Ensures.imp
    {program : Fallible State Failure Value}
    {moreStarted lessFailed : State → Prop}
    {lessReturned : Value → State → Prop}
    (ensures : Ensures started program returned failed)
    (ofStarted : ∀ state, moreStarted state → started state)
    (ofReturned :
      ∀ value state, returned value state → lessReturned value state)
    (ofFailed : ∀ state, failed state → lessFailed state) :
    Ensures moreStarted program lessReturned lessFailed := by
  intro before holds
  have reached := ensures before (ofStarted before holds)
  revert reached
  rcases program.outcome before with ⟨after, result⟩
  cases result with
  | ok value =>
      exact ofReturned value after
  | error failure =>
      exact ofFailed after

end Ensures

/-- The property survives also a failure of the program. -/
def Preserves
    (property : State → Prop)
    (program : Fallible State Failure Value) : Prop :=
  Ensures property program (fun _ => property) property

section Preserves

variable {property : State → Prop}

/-- A pure program preserves every property. -/
theorem preserves_pure
    (value : Value) :
    Preserves property (pure value : Fallible State Failure Value) :=
  ensures_pure (fun _ holds => holds)

/-- A sequence preserves what both of its parts preserve. -/
theorem preserves_bind
    {program : Fallible State Failure Value}
    {next : Value → Fallible State Failure Result}
    (first : Preserves property program)
    (second : ∀ value, Preserves property (next value)) :
    Preserves property (program >>= next) :=
  ensures_bind first second

end Preserves

end Fallible

end MarketIngest
