import Mathlib.Order.Defs.LinearOrder

namespace MarketIngest.Runs

/-!
# Finite runs of a step function

A run applies a step function to a list of actions.  `Along` says that every
action met a condition in the state it was taken from, and `Always` says that a
property holds in every state of the run.  The rules below move between the
two: an invariant carries a property along a run whose actions meet the
condition, and an exact step characterises the runs that keep the property.
-/

variable {State Action : Type}

/-- The state reached after a list of actions. -/
def run
    (step : State → Action → State)
    (initial : State)
    (actions : List Action) : State :=
  actions.foldl step initial

/-- Every action meets the condition in the state it is taken from. -/
def Along
    (step : State → Action → State)
    (condition : State → Action → Prop) :
    State → List Action → Prop
  | _, [] => True
  | state, action :: rest =>
      condition state action ∧
        Along step condition (step state action) rest

/-- The property holds in every state of the run, both ends included. -/
def Always
    (step : State → Action → State)
    (property : State → Prop) :
    State → List Action → Prop
  | state, [] => property state
  | state, action :: rest =>
      property state ∧
        Always step property (step state action) rest

section

variable
  {step : State → Action → State}
  {condition : State → Action → Prop}
  {property invariant : State → Prop}

@[simp] theorem run_nil
    (state : State) :
    run step state [] = state :=
  rfl

@[simp] theorem run_cons
    (state : State)
    (action : Action)
    (rest : List Action) :
    run step state (action :: rest) =
      run step (step state action) rest :=
  rfl

/-- Running a concatenation runs its parts one after the other. -/
theorem run_append
    (state : State)
    (first second : List Action) :
    run step state (first ++ second) =
      run step (run step state first) second :=
  List.foldl_append

/-- A property of a whole run holds in its first state. -/
theorem Always.initial
    {state : State}
    {actions : List Action}
    (always : Always step property state actions) :
    property state := by
  cases actions with
  | nil =>
      exact always
  | cons action rest =>
      exact always.1

/-- A property of a whole run holds in its last state. -/
theorem Always.final
    {state : State}
    {actions : List Action}
    (always : Always step property state actions) :
    property (run step state actions) := by
  induction actions generalizing state with
  | nil =>
      exact always
  | cons action rest inductionHypothesis =>
      exact inductionHypothesis always.2

/-- A weaker property holds wherever a stronger one does. -/
theorem Always.imp
    {weaker : State → Prop}
    (weaken : ∀ {state}, property state → weaker state)
    {state : State}
    {actions : List Action}
    (always : Always step property state actions) :
    Always step weaker state actions := by
  induction actions generalizing state with
  | nil =>
      exact weaken always
  | cons action rest inductionHypothesis =>
      exact ⟨weaken always.1, inductionHypothesis always.2⟩

/-- A weaker condition is met wherever a stronger one is. -/
theorem Along.imp
    {weaker : State → Action → Prop}
    (weaken :
      ∀ {state action}, condition state action → weaker state action)
    {state : State}
    {actions : List Action}
    (along : Along step condition state actions) :
    Along step weaker state actions := by
  induction actions generalizing state with
  | nil =>
      trivial
  | cons action rest inductionHypothesis =>
      exact ⟨weaken along.1, inductionHypothesis along.2⟩

/-- What holds of every action is met along the run. -/
theorem Along.and_forall
    {fact : Action → Prop}
    {state : State}
    {actions : List Action}
    (along : Along step condition state actions)
    (facts : ∀ action ∈ actions, fact action) :
    Along step
      (fun current action => condition current action ∧ fact action)
      state actions := by
  induction actions generalizing state with
  | nil =>
      trivial
  | cons action rest inductionHypothesis =>
      rw [List.forall_mem_cons] at facts
      exact ⟨⟨along.1, facts.1⟩, inductionHypothesis along.2 facts.2⟩

/-- A condition met along a concatenation is met along both parts. -/
theorem along_append
    {state : State}
    {first second : List Action} :
    Along step condition state (first ++ second) ↔
      Along step condition state first ∧
        Along step condition (run step state first) second := by
  induction first generalizing state with
  | nil =>
      simp [Along]
  | cons action rest inductionHypothesis =>
      simp only [List.cons_append, Along, inductionHypothesis,
        run_cons, and_assoc]

/--
The invariant rule: a property preserved by every action that meets the
condition holds in every state of a run whose actions all meet it.
-/
theorem always_of_along
    {state : State}
    {actions : List Action}
    (initially : property state)
    (preserved :
      ∀ {state action},
        property state →
        condition state action →
        property (step state action))
    (along : Along step condition state actions) :
    Always step property state actions := by
  induction actions generalizing state with
  | nil =>
      exact initially
  | cons action rest inductionHypothesis =>
      exact ⟨initially,
        inductionHypothesis (preserved initially along.1) along.2⟩

/-- A property preserved by every action holds in the last state. -/
theorem run_induction
    {state : State}
    (actions : List Action)
    (initially : property state)
    (preserved :
      ∀ {state action},
        property state → property (step state action)) :
    property (run step state actions) := by
  induction actions generalizing state with
  | nil =>
      exact initially
  | cons action rest inductionHypothesis =>
      exact inductionHypothesis (preserved initially)

/--
The exactness rule: when, in every state that satisfies the invariant and the
property, the next state keeps the property exactly if the action meets the
condition, then the runs that always have the property are exactly the runs
whose actions all meet the condition.
-/
theorem always_iff_along
    {state : State}
    {actions : List Action}
    (invariantInitially : invariant state)
    (initially : property state)
    (invariantKept :
      ∀ {state} (action : Action),
        invariant state → invariant (step state action))
    (exactStep :
      ∀ {state} (action : Action),
        invariant state →
        property state →
        (property (step state action) ↔ condition state action)) :
    Always step property state actions ↔
      Along step condition state actions := by
  induction actions generalizing state with
  | nil =>
      simp [Always, Along, initially]
  | cons action rest inductionHypothesis =>
      have stepExact := exactStep action invariantInitially initially
      constructor
      · rintro ⟨_, later⟩
        have next : property (step state action) := later.initial
        exact ⟨stepExact.mp next,
          (inductionHypothesis
            (invariantKept action invariantInitially) next).mp later⟩
      · rintro ⟨met, later⟩
        have next := stepExact.mpr met
        exact ⟨initially,
          (inductionHypothesis
            (invariantKept action invariantInitially) next).mpr later⟩

/--
The stability rule: facts stay true from the state in which they first hold, in
every run segment, exactly if no action of the run makes a true fact false.
-/
theorem stays_iff_along
    {Fact : Type}
    (holds : Fact → State → Prop)
    {state : State}
    {actions : List Action} :
    (∀ before middle after,
      actions = before ++ (middle ++ after) →
      ∀ fact,
        holds fact (run step state before) →
        holds fact (run step state (before ++ middle))) ↔
      Along step
        (fun current action =>
          ∀ fact,
            holds fact current → holds fact (step current action))
        state actions := by
  constructor
  · intro stays
    induction actions generalizing state with
    | nil =>
        trivial
    | cons action rest inductionHypothesis =>
        refine ⟨stays [] [action] rest rfl, ?_⟩
        apply inductionHypothesis
        intro before middle after shape fact
        exact stays (action :: before) middle after (by simp [shape]) fact
  · intro along before middle after shape fact
    subst shape
    rw [along_append, along_append] at along
    rw [run_append]
    intro initially
    have always :
        Always step (holds fact) (run step state before) middle :=
      always_of_along initially
        (fun held kept => kept fact held) along.2.1
    exact always.final

end

end MarketIngest.Runs
