import MarketIngest.DecimalText

namespace MarketIngest.Text

open MarketData (IntErrorKind signed)

/-!
# Numerals between two bounds

A machine integer is read digit by digit and fails at the first digit that
leaves its bounds.  A type without negative numbers does not know the minus
sign.  The text that an integer is written as is read back.
-/

/-- More digits do not make a number smaller. -/
theorem ofDigitChars_ge
    (digits : List Char)
    (number : Nat) :
    number ≤ Nat.ofDigitChars 10 digits number := by
  rw [Nat.ofDigitChars_eq_ofDigitChars_zero]
  have grows : number ≤ 10 ^ digits.length * number :=
    Nat.le_mul_of_pos_left number (by positivity)
  omega

section Reading

variable (least greatest : Int)

/-- Add the digits of a number, or subtract them if it is negative. -/
def readDigits (negative : Bool) :
    Int → List Char → Except IntErrorKind Int
  | value, [] => .ok value
  | value, char :: rest =>
      if char.isDigit then
        let digit : Int := (char.toNat - 48 : Nat)
        let next := if negative then value * 10 - digit else value * 10 + digit
        if (least ≤ value * 10 ∧ value * 10 ≤ greatest) ∧
            least ≤ next ∧ next ≤ greatest then
          readDigits negative next rest
        else
          .error (if negative then .negOverflow else .posOverflow)
      else
        .error .invalidDigit

/-- Read an integer between the bounds. -/
def parseInteger (text : String) : Except IntErrorKind Int :=
  match text.toList with
  | [] => .error .empty
  | first :: rest =>
      if (first = '+' ∨ first = '-') ∧ rest = [] then
        .error .invalidDigit
      else if first = '+' then
        readDigits least greatest false 0 rest
      else if first = '-' ∧ least < 0 then
        readDigits least greatest true 0 rest
      else
        readDigits least greatest false 0 (first :: rest)

end Reading

section Bounds

variable {least greatest : Int}

/-- What is nearer to zero than a number within the bounds is within them. -/
private theorem signed_mem_of_le
    {negative : Bool}
    {smaller larger : Nat}
    (zero : least ≤ 0 ∧ 0 ≤ greatest)
    (le : smaller ≤ larger)
    (within :
      least ≤ signed negative larger ∧ signed negative larger ≤ greatest) :
    least ≤ signed negative smaller ∧
      signed negative smaller ≤ greatest := by
  unfold signed at *
  cases negative with
  | false =>
      simp only [Bool.false_eq_true, if_false] at *
      omega
  | true =>
      simp only [if_true] at *
      omega

/-- Digits whose number is within the bounds are read. -/
private theorem readDigits_eq
    (zero : least ≤ 0 ∧ 0 ≤ greatest)
    (negative : Bool)
    {digits : List Char}
    {number : Nat}
    (areDigits : ∀ char ∈ digits, char.isDigit = true)
    (within :
      least ≤ signed negative (Nat.ofDigitChars 10 digits number) ∧
        signed negative (Nat.ofDigitChars 10 digits number) ≤ greatest) :
    readDigits least greatest negative (signed negative number) digits =
      .ok (signed negative (Nat.ofDigitChars 10 digits number)) := by
  induction digits generalizing number with
  | nil =>
      rw [readDigits, Nat.ofDigitChars_nil]
  | cons char rest inductionHypothesis =>
      rw [Nat.ofDigitChars_cons] at within ⊢
      have nextWithin :=
        signed_mem_of_le zero (ofDigitChars_ge rest _) within
      have times :
          signed negative (10 * number) = signed negative number * 10 := by
        cases negative <;> simp [signed, mul_comm]
      have timesWithin :=
        signed_mem_of_le zero (Nat.le_add_right (10 * number) _) nextWithin
      have next :
          (if negative then
              signed negative number * 10 - (char.toNat - 48 : Nat)
            else signed negative number * 10 + (char.toNat - 48 : Nat)) =
            signed negative (10 * number + (char.toNat - 48)) := by
        cases negative with
        | false =>
            simp only [signed, Bool.false_eq_true, if_false]
            push_cast
            ring
        | true =>
            simp only [signed, if_true]
            push_cast
            ring
      rw [times] at timesWithin
      rw [readDigits, if_pos (areDigits char List.mem_cons_self)]
      simp only [next]
      rw [if_pos ⟨timesWithin, nextWithin⟩]
      exact inductionHypothesis
        (fun other member => areDigits other (List.mem_cons_of_mem _ member))
        within

/-- The digits of a number are read. -/
private theorem readDigits_toDigits
    (zero : least ≤ 0 ∧ 0 ≤ greatest)
    (negative : Bool)
    {number : Nat}
    (within :
      least ≤ signed negative number ∧ signed negative number ≤ greatest) :
    readDigits least greatest negative 0 (Nat.toDigits 10 number) =
      .ok (signed negative number) := by
  have none : signed negative 0 = 0 := by
    cases negative <;> rfl
  have digits : ∀ char ∈ Nat.toDigits 10 number, char.isDigit = true :=
    fun char => Nat.isDigit_of_mem_toDigits (by decide) (by decide)
  have same : Nat.ofDigitChars 10 (Nat.toDigits 10 number) 0 = number :=
    Nat.ofDigitChars_ten_toDigits
  have reads := readDigits_eq zero negative digits (by rwa [same])
  rwa [none, same] at reads

private theorem toList_repr
    (number : Nat) :
    (Nat.repr number).toList = Nat.toDigits 10 number := by
  rw [Nat.repr_eq_ofList_toDigits, String.toList_ofList]

/-- The text of an integer within the bounds is read back. -/
theorem parseInteger_toString
    {value : Int}
    (zero : least ≤ 0 ∧ 0 ≤ greatest)
    (within : least ≤ value ∧ value ≤ greatest) :
    parseInteger least greatest (toString value) = .ok value := by
  cases value with
  | ofNat number =>
      have reads := readDigits_toDigits zero false within
      change parseInteger least greatest (Nat.repr number) = _
      unfold parseInteger
      rw [toList_repr]
      split
      case h_1 empty =>
        exact absurd empty Nat.toDigits_ne_nil
      case h_2 first rest shape =>
        have isDigit : first.isDigit = true := by
          have member : first ∈ Nat.toDigits 10 number := by
            rw [shape]
            exact List.mem_cons_self
          exact Nat.isDigit_of_mem_toDigits (by decide) (by decide) member
        have notPlus : first ≠ '+' := by
          rintro rfl
          cases isDigit
        have notMinus : first ≠ '-' := by
          rintro rfl
          cases isDigit
        rw [if_neg (by simp [notPlus, notMinus]), if_neg notPlus,
          if_neg (by simp [notMinus]), ← shape]
        exact reads
  | negSucc number =>
      have shape :
          (toString (Int.negSucc number)).toList =
            '-' :: Nat.toDigits 10 (number + 1) := by
        change ("-" ++ Nat.repr (number + 1)).toList = _
        rw [String.toList_append, toList_repr]
        rfl
      have negative : least < 0 := by
        have below := within.1
        omega
      rw [parseInteger, shape]
      dsimp only
      rw [if_neg (by simp [Nat.toDigits_ne_nil]), if_neg (by decide),
        if_pos ⟨rfl, negative⟩]
      exact readDigits_toDigits zero true within

end Bounds

end MarketIngest.Text
