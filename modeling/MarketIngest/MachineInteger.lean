import Mathlib.Algebra.Order.Ring.Int
import Mathlib.Tactic.Common
import Mathlib.Tactic.Linarith
import Mathlib.Tactic.Ring

namespace MarketIngest.MachineInteger

/-!
# Computing with signed machine integers

The integers of a machine have a width.  An operation whose result does not fit
into it fails if it is a checked one.  An unchecked operation panics or keeps
only the low bits, as the program was built, and an unchecked division by zero
or with a quotient that does not fit panics in any case.
-/

section Width

variable (bits : Nat)

/-- The integer fits into so many bits. -/
def Fits (value : Int) : Prop :=
  -2 ^ (bits - 1) ≤ value ∧ value < 2 ^ (bits - 1)

instance (value : Int) : Decidable (Fits bits value) :=
  inferInstanceAs (Decidable (_ ∧ _))

/-- The low bits of an integer. -/
def wrap (value : Int) : Int :=
  value.bmod (2 ^ bits)

variable {bits}

/-- The low bits fit. -/
theorem fits_wrap
    (positive : 0 < bits)
    (value : Int) :
    Fits bits (wrap bits value) := by
  obtain ⟨half, rfl⟩ := Nat.exists_eq_succ_of_ne_zero positive.ne'
  have lower := Int.le_bmod (x := value) (Nat.two_pow_pos (half + 1))
  have upper := Int.bmod_lt (x := value) (Nat.two_pow_pos (half + 1))
  rw [pow_succ] at lower upper
  unfold Fits wrap
  rw [Nat.succ_eq_add_one, Nat.add_sub_cancel, pow_succ]
  have power : ((2 ^ half : Nat) : Int) = 2 ^ half := by push_cast; rfl
  generalize 2 ^ half = natural at *
  omega

/-- Only what fits is left as it is. -/
theorem wrap_eq_self_iff
    (positive : 0 < bits)
    (value : Int) :
    wrap bits value = value ↔ Fits bits value := by
  constructor
  · intro same
    rw [← same]
    exact fits_wrap positive value
  · rintro ⟨lower, upper⟩
    obtain ⟨half, rfl⟩ := Nat.exists_eq_succ_of_ne_zero positive.ne'
    rw [Nat.succ_eq_add_one, Nat.add_sub_cancel] at lower upper
    unfold wrap
    apply Int.bmod_eq_of_le_mul_two
    · push_cast
      rw [pow_succ]
      linarith
    · push_cast
      rw [pow_succ]
      linarith

/-- A truncated quotient fits, but for the least integer divided by -1. -/
theorem fits_tdiv_iff
    {numerator denominator : Int}
    (fits : Fits bits numerator)
    (nonzero : denominator ≠ 0) :
    Fits bits (numerator.tdiv denominator) ↔
      ¬ (numerator = -2 ^ (bits - 1) ∧ denominator = -1) := by
  have power : (0 : Int) < 2 ^ (bits - 1) := pow_pos (by decide) _
  unfold Fits at *
  generalize (2 : Int) ^ (bits - 1) = bound at *
  by_cases negates : denominator = -1
  · rw [negates, Int.tdiv_neg, Int.tdiv_one]
    omega
  · simp only [negates, and_false, not_false_eq_true, iff_true]
    by_cases keeps : denominator = 1
    · rw [keeps, Int.tdiv_one]
      exact fits
    · have halves :
          (numerator.tdiv denominator).natAbs ≤ numerator.natAbs / 2 := by
        rw [Int.natAbs_tdiv]
        exact Nat.div_le_div_left (by omega) (by decide)
      omega

end Width

/-- How a computation ends without a value. -/
inductive Failure (Error : Type) where
  | returned (error : Error)
  | panicked
  deriving Repr, DecidableEq

/-- A computation with an error to return, which may panic. -/
abbrev Computed (Error : Type) : Type → Type :=
  Except (Failure Error)

variable {Error Value Result : Type}

/-- The computation returns an error, or a value with a property. -/
inductive Meets
    (spec : Value → Prop) :
    Computed Error Value → Prop where
  | ok {value : Value} (has : spec value) : Meets spec (.ok value)
  | returned (error : Error) : Meets spec (.error (.returned error))

section Rules

variable
  {spec : Value → Prop}
  {computed : Computed Error Value}

/-- A value meets what it has. -/
@[simp] theorem meets_ok_iff
    {value : Value} :
    Meets spec (.ok value : Computed Error Value) ↔ spec value := by
  constructor
  · rintro ⟨has⟩
    exact has
  · exact .ok

/-- A panic meets nothing. -/
@[simp] theorem not_meets_panicked :
    ¬ Meets spec (.error .panicked : Computed Error Value) := by
  rintro ⟨⟩

/-- A weaker property is met too. -/
theorem Meets.imp
    {weaker : Value → Prop}
    (meets : Meets spec computed)
    (implies : ∀ value, spec value → weaker value) :
    Meets weaker computed := by
  cases meets with
  | ok has =>
      exact .ok (implies _ has)
  | returned error =>
      exact .returned error

/-- Steps are taken one after the other. -/
theorem Meets.bind
    {next : Value → Computed Error Result}
    {after : Result → Prop}
    (meets : Meets spec computed)
    (continues : ∀ value, spec value → Meets after (next value)) :
    Meets after (computed >>= next) := by
  cases meets with
  | ok has =>
      exact continues _ has
  | returned error =>
      exact .returned error

/-- A value that is only made into another one. -/
theorem meets_map_iff
    {make : Value → Result}
    {after : Result → Prop} :
    Meets after (computed >>= fun value => pure (make value)) ↔
      Meets (fun value => after (make value)) computed := by
  cases computed with
  | ok value =>
      rw [meets_ok_iff]
      exact meets_ok_iff
  | error failure =>
      constructor
      · rintro ⟨⟩
        exact .returned _
      · rintro ⟨⟩
        exact .returned _

/-- The value of a computation that has one. -/
theorem Meets.of_ok
    {value : Value}
    (meets : Meets spec computed)
    (computes : computed = .ok value) :
    spec value := by
  rw [computes] at meets
  exact meets_ok_iff.mp meets

/-- A computation with a value has one at every step. -/
theorem bind_eq_ok
    {next : Value → Computed Error Result}
    {result : Result} :
    (computed >>= next) = .ok result ↔
      ∃ value, computed = .ok value ∧ next value = .ok result := by
  cases computed with
  | ok value =>
      constructor
      · exact fun computes => ⟨value, rfl, computes⟩
      · rintro ⟨same, isSame, computes⟩
        cases isSame
        exact computes
  | error failure =>
      constructor
      · exact fun computes => nomatch computes
      · rintro ⟨_, impossible, _⟩
        cases impossible

end Rules

section Operations

variable {Error : Type}

/-- A checked result returns the error if it does not fit. -/
def checked
    (bits : Nat)
    (error : Error)
    (value : Int) : Computed Error Int :=
  if Fits bits value then .ok value else .error (.returned error)

/-- An unchecked result panics or wraps if it does not fit. -/
def unchecked
    (bits : Nat)
    (overflowChecks : Bool)
    (value : Int) : Computed Error Int :=
  if Fits bits value then
    .ok value
  else if overflowChecks then
    .error .panicked
  else
    .ok (wrap bits value)

/-- An unchecked division. -/
def divide
    (bits : Nat)
    (numerator denominator : Int) : Computed Error Int :=
  if denominator ≠ 0 ∧ Fits bits (numerator.tdiv denominator) then
    .ok (numerator.tdiv denominator)
  else
    .error .panicked

variable
  {bits : Nat}
  {error : Error}
  {overflowChecks : Bool}
  {value result : Int}

/-- A checked result is exact. -/
theorem checked_eq_ok :
    checked bits error value = .ok result ↔
      Fits bits value ∧ value = result := by
  unfold checked
  split_ifs with fits
  · simp [fits]
  · simp [fits]

/-- A checked result that fits is returned. -/
theorem checked_of_fits
    (fits : Fits bits value) :
    checked bits error value = .ok value :=
  if_pos fits

/-- A checked result is exact, or an error. -/
theorem meets_checked :
    Meets (fun result => result = value ∧ Fits bits value)
      (checked bits error value) := by
  unfold checked
  split_ifs with fits
  · exact .ok ⟨rfl, fits⟩
  · exact .returned error

/-- An unchecked result that fits is exact. -/
theorem unchecked_of_fits
    (fits : Fits bits value) :
    (unchecked bits overflowChecks value : Computed Error Int) =
      .ok value :=
  if_pos fits

/-- An unchecked result is exact only if it fits. -/
theorem meets_unchecked_iff
    (positive : 0 < bits) :
    Meets (fun result => result = value)
        (unchecked bits overflowChecks value : Computed Error Int) ↔
      Fits bits value := by
  unfold unchecked
  split_ifs with fits checks
  · simp [fits]
  · simp [fits]
  · simpa [fits] using (wrap_eq_self_iff positive value).not.mpr fits

/-- A division is exact unless it panics. -/
theorem divide_eq_ok
    {numerator denominator : Int} :
    (divide bits numerator denominator : Computed Error Int) =
        .ok result ↔
      denominator ≠ 0 ∧ Fits bits (numerator.tdiv denominator) ∧
        numerator.tdiv denominator = result := by
  unfold divide
  split_ifs with divides
  · simp [divides]
  · rw [not_and] at divides
    simp only [false_iff, not_and]
    exact fun nonzero fits => absurd fits (divides nonzero)

/-- A quotient that fits is returned. -/
theorem divide_of_fits
    {numerator denominator : Int}
    (nonzero : denominator ≠ 0)
    (fits : Fits bits (numerator.tdiv denominator)) :
    (divide bits numerator denominator : Computed Error Int) =
      .ok (numerator.tdiv denominator) :=
  if_pos ⟨nonzero, fits⟩

/-- A division by a positive number is exact. -/
theorem divide_of_pos
    {numerator denominator : Int}
    (fits : Fits bits numerator)
    (positive : 0 < denominator) :
    (divide bits numerator denominator : Computed Error Int) =
      .ok (numerator.tdiv denominator) := by
  apply divide_of_fits positive.ne'
  apply (fits_tdiv_iff fits positive.ne').mpr
  rintro ⟨-, negative⟩
  omega

/-- An unchecked result is off by whole turns. -/
theorem exists_turns_of_unchecked
    (computes :
      (unchecked bits overflowChecks value : Computed Error Int) =
        .ok result) :
    ∃ turns : Int, result = value + 2 ^ bits * turns := by
  unfold unchecked at computes
  split_ifs at computes with fits checks
  · cases computes
    exact ⟨0, by ring⟩
  · cases computes
    obtain ⟨turns, isMultiple⟩ :=
      Int.dvd_bmod_sub_self (x := value) (m := 2 ^ bits)
    push_cast at isMultiple
    exact ⟨turns, by rw [wrap, ← isMultiple]; ring⟩

end Operations

end MarketIngest.MachineInteger
