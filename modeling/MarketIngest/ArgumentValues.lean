import MarketIngest.CommandLine
import MarketIngest.NormalizeArgs
import MarketIngest.Numerals
import MarketIngest.TextLists

namespace MarketIngest.CommandLine

open MarketData (IntErrorKind)

/-!
# Values of arguments

Most values are positive integers of a machine width.  They are written in
decimal digits and read back, whatever a program says about a value that it
refuses.  Some defaults come from the environment, which a child process
inherits.
-/

/-- The greatest unsigned 64-bit integer. -/
def u64Max : Nat :=
  18446744073709551615

/-- The greatest unsigned 16-bit integer. -/
def u16Max : Nat :=
  65535

/-- The greatest unsigned 8-bit integer. -/
def u8Max : Nat :=
  255

/-- A positive unsigned integer up to a bound. -/
abbrev PositiveUpTo (greatest : Nat) :=
  { value : Nat // 0 < value ∧ value ≤ greatest }

abbrev PositiveU64 := PositiveUpTo u64Max

/-- Counts have the width of an address, which is 64 bits. -/
abbrev PositiveUsize := PositiveUpTo u64Max

abbrev PositiveU16 := PositiveUpTo u16Max

/-- A part of a hundred. -/
abbrev Percentage := PositiveUpTo 100

variable {Failure : Type}

/-- Read a signed integer of 64 bits. -/
def readI64
    (unreadable : IntErrorKind → Failure)
    (text : String) : Except Failure Int :=
  (Text.parseInteger i64Min i64Max text).mapError unreadable

/-- Read a positive integer of 64 bits. -/
def readPositiveI64
    (unreadable : IntErrorKind → Failure)
    (notPositive : Failure)
    (text : String) : Except Failure Normalize.PositiveI64 :=
  match Text.parseInteger i64Min i64Max text with
  | .error kind => .error (unreadable kind)
  | .ok value =>
      if fits : 0 < value ∧ value ≤ i64Max then
        .ok ⟨value, fits⟩
      else
        .error notPositive

/-- Read a positive unsigned integer of a type, up to a bound. -/
def readPositive
    (typeMax greatest : Nat)
    (unreadable : IntErrorKind → Failure)
    (outside : Failure)
    (text : String) : Except Failure (PositiveUpTo greatest) :=
  match Text.parseInteger 0 typeMax text with
  | .error kind => .error (unreadable kind)
  | .ok value =>
      if fits : 0 < value.toNat ∧ value.toNat ≤ greatest then
        .ok ⟨value.toNat, fits⟩
      else
        .error outside

/-- Variables of the environment; one that is not a text counts as unset. -/
abbrev Environment := String → Option String

/-- The value of a variable, unless it is blank. -/
def envString (environment : Environment) (name : String) : Option String :=
  ((environment name).map Text.trimmed).filter (fun value => value ≠ "")

/-- The variable is set to one of the words for yes. -/
def envBool (environment : Environment) (name : String) : Bool :=
  match environment name with
  | some value =>
      ["1", "true", "yes"].contains
        (Text.toAsciiLowercase (Text.trimmed value))
  | none => false

section RoundTrip

variable
  {unreadable : IntErrorKind → Failure}
  {outside : Failure}

/-- An integer of 64 bits is read back. -/
theorem readI64_toString
    {value : Int}
    (fits : i64Min ≤ value ∧ value ≤ i64Max) :
    readI64 unreadable (toString value) = .ok value := by
  rw [readI64, Text.parseInteger_toString (by decide) fits]
  rfl

/-- A positive integer of 64 bits is read back. -/
theorem readPositiveI64_toString
    (value : Normalize.PositiveI64) :
    readPositiveI64 unreadable outside (toString value.1) = .ok value := by
  have fits : i64Min ≤ value.1 ∧ value.1 ≤ i64Max :=
    ⟨le_trans (by decide) value.2.1.le, value.2.2⟩
  rw [readPositiveI64, Text.parseInteger_toString (by decide) fits]
  exact dif_pos value.2

/-- An integer of 64 bits is read as a positive one exactly if it is. -/
theorem readPositiveI64_toString_eq
    {value : Int}
    (fits : i64Min ≤ value ∧ value ≤ i64Max) :
    readPositiveI64 unreadable outside (toString value) =
      if positive : 0 < value then .ok ⟨value, positive, fits.2⟩
      else .error outside := by
  rw [readPositiveI64, Text.parseInteger_toString (by decide) fits]
  by_cases positive : 0 < value
  · rw [dif_pos positive]
    exact dif_pos ⟨positive, fits.2⟩
  · rw [dif_neg positive]
    exact dif_neg fun both => positive both.1

/-- A positive unsigned integer of a type is read back. -/
theorem readPositive_toString
    {typeMax greatest : Nat}
    (value : PositiveUpTo greatest)
    (le : greatest ≤ typeMax) :
    readPositive typeMax greatest unreadable outside (toString value.1) =
      .ok value := by
  have text : toString value.1 = toString (value.1 : Int) := rfl
  have fits : (0 : Int) ≤ value.1 ∧ (value.1 : Int) ≤ typeMax := by
    have upper := value.2.2
    omega
  rw [readPositive, text,
    Text.parseInteger_toString ⟨le_refl 0, by omega⟩ fits]
  exact dif_pos value.2

end RoundTrip

/-!
## Bounds of common defaults

The programs have several defaults in common.  All of them are within the
bounds of their types.
-/

theorem oneShard_fits : 0 < 1 ∧ 1 ≤ u16Max := by
  decide

theorem one_fits : 0 < 1 ∧ 1 ≤ u64Max := by
  decide

theorem fifteen_fits : 0 < 15 ∧ 15 ≤ u64Max := by
  decide

theorem fifty_fits : 0 < 50 ∧ 50 ≤ u64Max := by
  decide

theorem twoDaysOfWindows_fit : 0 < 192 ∧ 192 ≤ u64Max := by
  decide

theorem thousand_fits : 0 < 1000 ∧ 1000 ≤ u64Max := by
  decide

theorem sixHours_fit : 0 < 21600 ∧ 21600 ≤ u64Max := by
  decide

theorem oneUnit_fits : (0 : Int) < 1 ∧ 1 ≤ i64Max := by
  decide

theorem hoursOfDay_fit : (0 : Int) < 24 ∧ 24 ≤ i64Max := by
  decide

theorem l0RetentionDays_fit : (0 : Int) < 45 ∧ 45 ≤ i64Max := by
  decide

theorem lookbackDays_fit : (0 : Int) < 210 ∧ 210 ≤ i64Max := by
  decide

theorem l1RetentionDays_fit : (0 : Int) < 240 ∧ 240 ≤ i64Max := by
  decide

theorem sixMinutes_fit : (0 : Int) < 360000 ∧ 360000 ≤ i64Max := by
  decide

theorem quarterHour_fits : (0 : Int) < 900000 ∧ 900000 ≤ i64Max := by
  decide

end MarketIngest.CommandLine
