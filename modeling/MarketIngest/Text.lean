import Mathlib.Data.List.Sort
import Mathlib.Data.String.Basic

namespace MarketIngest.Text

/-!
# Separated text and decimal numerals

White space is that of Unicode.  Object keys are texts made of segments between
separators.  This module has what reasoning about such keys needs: a text is cut
at its first or last separator in only one way, decimal numerals contain no
separator, and numerals determine their numbers.
-/

/-- White space in the sense of the Unicode property. -/
def isWhiteSpace (char : Char) : Bool :=
  let code := char.toNat
  (9 ≤ code && code ≤ 13) || code = 32 || code = 133 || code = 160 ||
    code = 5760 || (8192 ≤ code && code ≤ 8202) || code = 8232 ||
    code = 8233 || code = 8239 || code = 8287 || code = 12288

section Segments

variable {α : Type}

/-- Cutting at the first separator is unambiguous, also below a prefix. -/
theorem segment_prefix_iff
    {separator : α}
    {first second rest tail : List α}
    (firstFree : separator ∉ first)
    (secondFree : separator ∉ second) :
    first ++ separator :: rest <+: second ++ separator :: tail ↔
      first = second ∧ rest <+: tail := by
  induction first generalizing second with
  | nil =>
      cases second with
      | nil =>
          simp
      | cons head others =>
          have headDiffers : separator ≠ head := by
            intro same
            exact secondFree (by simp [same])
          simp [List.cons_prefix_cons, headDiffers]
  | cons head others inductionHypothesis =>
      have othersFree : separator ∉ others := fun member =>
        firstFree (List.mem_cons_of_mem _ member)
      cases second with
      | nil =>
          have headDiffers : head ≠ separator := by
            intro same
            exact firstFree (by simp [same])
          simp [List.cons_prefix_cons, headDiffers]
      | cons secondHead secondOthers =>
          have secondOthersFree : separator ∉ secondOthers := fun member =>
            secondFree (List.mem_cons_of_mem _ member)
          simp only [List.cons_append, List.cons_prefix_cons,
            inductionHypothesis othersFree secondOthersFree,
            List.cons.injEq, and_assoc]

/-- Cutting a text at its first separator is unambiguous. -/
theorem segment_inj
    {separator : α}
    {first second rest tail : List α}
    (firstFree : separator ∉ first)
    (secondFree : separator ∉ second)
    (same : first ++ separator :: rest = second ++ separator :: tail) :
    first = second ∧ rest = tail := by
  have cut :=
    (segment_prefix_iff firstFree secondFree).mp
      (same ▸ List.prefix_refl _ :
        first ++ separator :: rest <+: second ++ separator :: tail)
  refine ⟨cut.1, ?_⟩
  rw [cut.1] at same
  simpa using List.append_cancel_left same

/-- Cutting a text at its last separator is unambiguous. -/
theorem lastSegment_inj
    {separator : α}
    {first second rest tail : List α}
    (restFree : separator ∉ rest)
    (tailFree : separator ∉ tail)
    (same : first ++ separator :: rest = second ++ separator :: tail) :
    first = second ∧ rest = tail := by
  have reversed :
      rest.reverse ++ separator :: first.reverse =
        tail.reverse ++ separator :: second.reverse := by
    simpa using congrArg List.reverse same
  have cut :=
    segment_inj (by simpa using restFree) (by simpa using tailFree)
      reversed
  exact ⟨List.reverse_injective cut.2, List.reverse_injective cut.1⟩

end Segments

/-- `text` starts with `leading`. -/
def startsWith (text leading : String) : Bool :=
  leading.toList.isPrefixOf text.toList

/-- `text` ends with `trailing`. -/
def endsWith (text trailing : String) : Bool :=
  trailing.toList.isSuffixOf text.toList

theorem startsWith_iff
    {text leading : String} :
    startsWith text leading = true ↔ leading.toList <+: text.toList :=
  List.isPrefixOf_iff_prefix

theorem endsWith_append
    (leading trailing : String) :
    endsWith (leading ++ trailing) trailing = true := by
  rw [endsWith, List.isSuffixOf_iff_suffix, String.toList_append]
  exact List.suffix_append _ _

/-- The decimal numeral of a natural number, zero-padded to a least width. -/
def zeroPadded (width number : Nat) : String :=
  String.ofList ((Nat.toDigits 10 number).leftpad width '0')

/-- Padding does not change the number a numeral stands for. -/
theorem ofDigitChars_zeroPadded
    (width number : Nat) :
    Nat.ofDigitChars 10 (zeroPadded width number).toList 0 = number := by
  simp [zeroPadded, List.leftpad, Nat.ofDigitChars_append,
    Nat.ofDigitChars_replicate_zero, Nat.ofDigitChars_ten_toDigits]

/-- Padded numerals determine their numbers. -/
theorem zeroPadded_injective
    (width : Nat) :
    Function.Injective (zeroPadded width) := by
  intro first second same
  rw [← ofDigitChars_zeroPadded width first, same,
    ofDigitChars_zeroPadded]

/-- A padded numeral consists of digits. -/
theorem isDigit_of_mem_zeroPadded
    {width number : Nat}
    {char : Char}
    (member : char ∈ (zeroPadded width number).toList) :
    char.isDigit = true := by
  simp only [zeroPadded, String.toList_ofList, List.leftpad,
    List.mem_append, List.mem_replicate] at member
  rcases member with ⟨_, isZero⟩ | inDigits
  · simp [isZero]
  · exact Nat.isDigit_of_mem_toDigits (by decide) (by decide) inDigits

/-- A number below `10 ^ width` fills exactly the padded width. -/
theorem length_zeroPadded
    {width number : Nat}
    (positive : 0 < width)
    (small : number < 10 ^ width) :
    (zeroPadded width number).toList.length = width := by
  have short : (Nat.toDigits 10 number).length ≤ width :=
    (Nat.length_toDigits_le_iff (by decide) positive).mpr small
  simp [zeroPadded, List.leftpad]
  omega

/-- Characters of an integer numeral are digits or the sign. -/
theorem mem_toString_int
    {number : Int}
    {char : Char}
    (member : char ∈ (toString number).toList) :
    char = '-' ∨ char.isDigit = true := by
  have digits
      {natural : Nat}
      (inDigits : char ∈ (Nat.repr natural).toList) :
      char.isDigit = true := by
    rw [Nat.repr_eq_ofList_toDigits, String.toList_ofList] at inDigits
    exact Nat.isDigit_of_mem_toDigits (by decide) (by decide) inDigits
  change char ∈ (Int.repr number).toList at member
  cases number with
  | ofNat natural =>
      exact Or.inr (digits member)
  | negSucc natural =>
      rw [show Int.repr (.negSucc natural) =
        "-" ++ Nat.repr natural.succ from rfl,
        String.toList_append, List.mem_append] at member
      rcases member with isSign | inDigits
      · exact Or.inl (by simpa using isSign)
      · exact Or.inr (digits inDigits)

/-- Integer numerals determine their integers. -/
theorem toString_int_injective :
    Function.Injective (fun number : Int => toString number) := by
  have natural
      {first second : Nat}
      (same : Nat.repr first = Nat.repr second) :
      first = second := by
    rw [Nat.repr_eq_ofList_toDigits, Nat.repr_eq_ofList_toDigits] at same
    have digits := congrArg String.toList same
    simp only [String.toList_ofList] at digits
    rw [← Nat.ofDigitChars_ten_toDigits (n := first), digits,
      Nat.ofDigitChars_ten_toDigits]
  have signed
      {first second : Nat}
      (same : Nat.repr first = "-" ++ Nat.repr second) :
      False := by
    have sign : '-' ∈ (Nat.repr first).toList := by
      simp [same]
    rw [Nat.repr_eq_ofList_toDigits, String.toList_ofList] at sign
    have digit : ('-' : Char).isDigit = true :=
      Nat.isDigit_of_mem_toDigits (by decide) (by decide) sign
    cases digit
  intro first second same
  change Int.repr first = Int.repr second at same
  cases first with
  | ofNat firstNatural =>
      cases second with
      | ofNat secondNatural =>
          exact congrArg Int.ofNat (natural same)
      | negSucc secondNatural =>
          exact (signed same).elim
  | negSucc firstNatural =>
      cases second with
      | ofNat secondNatural =>
          exact (signed same.symm).elim
      | negSucc secondNatural =>
          have chars := congrArg String.toList same
          rw [show Int.repr (.negSucc firstNatural) =
              "-" ++ Nat.repr firstNatural.succ from rfl,
            show Int.repr (.negSucc secondNatural) =
              "-" ++ Nat.repr secondNatural.succ from rfl,
            String.toList_append, String.toList_append] at chars
          have sameNumeral :=
            natural (String.toList_inj.mp (List.append_cancel_left chars))
          exact congrArg Int.negSucc (Nat.succ.inj sameNumeral)

section NumeralOrder

/-- A digit is worth less than ten. -/
private theorem digit_value_lt
    {char : Char}
    (isDigit : char.isDigit = true) :
    char.toNat - '0'.toNat < 10 := by
  simp only [Char.isDigit, Bool.and_eq_true, decide_eq_true_eq,
    UInt32.le_iff_toNat_le] at isDigit
  have upper : char.toNat ≤ 57 := isDigit.2
  have zero : ('0' : Char).toNat = 48 := rfl
  omega

/-- A greater digit is worth more. -/
private theorem digit_value_lt_of_lt
    {first second : Char}
    (isDigit : first.isDigit = true)
    (below : first < second) :
    first.toNat - '0'.toNat < second.toNat - '0'.toNat := by
  simp only [Char.isDigit, Bool.and_eq_true, decide_eq_true_eq,
    UInt32.le_iff_toNat_le] at isDigit
  have lower : 48 ≤ first.toNat := isDigit.1
  have ordered : first.toNat < second.toNat := below
  have zero : ('0' : Char).toNat = 48 := rfl
  omega

/-- A smaller leading part outweighs all digits that follow. -/
private theorem ofDigitChars_lt_of_init_lt
    {first second : List Char}
    (digits : ∀ char ∈ first, char.isDigit = true)
    (sameLength : first.length = second.length)
    {smaller greater : Nat}
    (below : smaller < greater) :
    Nat.ofDigitChars 10 first smaller <
      Nat.ofDigitChars 10 second greater := by
  induction first generalizing second smaller greater with
  | nil =>
      have empty : second = [] :=
        List.eq_nil_of_length_eq_zero sameLength.symm
      simpa [empty] using below
  | cons head rest inductionHypothesis =>
      cases second with
      | nil =>
          cases sameLength
      | cons secondHead secondRest =>
          rw [Nat.ofDigitChars_cons, Nat.ofDigitChars_cons]
          have headSmall := digit_value_lt (digits head (by simp))
          exact inductionHypothesis
            (fun char member =>
              digits char (List.mem_cons_of_mem _ member))
            (Nat.succ.inj sameLength) (by omega)

/-- Digit texts of one length are ordered as their values. -/
private theorem ofDigitChars_lt_of_lt
    {first second : List Char}
    (digits : ∀ char ∈ first, char.isDigit = true)
    (sameLength : first.length = second.length)
    (below : first < second)
    (init : Nat) :
    Nat.ofDigitChars 10 first init <
      Nat.ofDigitChars 10 second init := by
  induction first generalizing second init with
  | nil =>
      have empty : second = [] :=
        List.eq_nil_of_length_eq_zero sameLength.symm
      rw [empty] at below
      cases below
  | cons head rest inductionHypothesis =>
      cases second with
      | nil =>
          cases sameLength
      | cons secondHead secondRest =>
          have restDigits : ∀ char ∈ rest, char.isDigit = true :=
            fun char member =>
              digits char (List.mem_cons_of_mem _ member)
          rw [Nat.ofDigitChars_cons, Nat.ofDigitChars_cons]
          rcases List.cons_lt_cons_iff.mp below with
              headBelow | ⟨rfl, restBelow⟩
          · have headValue :=
              digit_value_lt_of_lt (digits head (by simp)) headBelow
            exact ofDigitChars_lt_of_init_lt restDigits
              (Nat.succ.inj sameLength) (by omega)
          · exact inductionHypothesis restDigits
              (Nat.succ.inj sameLength) restBelow _

/-- Numerals with equally many digits are ordered as their numbers. -/
theorem toDigits_lt_of_lt
    {first second : Nat}
    (sameLength :
      (Nat.toDigits 10 first).length = (Nat.toDigits 10 second).length)
    (below : first < second) :
    Nat.toDigits 10 first < Nat.toDigits 10 second := by
  by_contra notBelow
  have digits (number : Nat) (char : Char)
      (member : char ∈ Nat.toDigits 10 number) :
      char.isDigit = true :=
    Nat.isDigit_of_mem_toDigits (by decide) (by decide) member
  rcases lt_or_eq_of_le (not_lt.mp notBelow) with above | same
  · have values :=
      ofDigitChars_lt_of_lt (digits second) sameLength.symm above 0
    simp only [Nat.ofDigitChars_ten_toDigits] at values
    omega
  · have values := congrArg (Nat.ofDigitChars 10 · 0) same
    simp only [Nat.ofDigitChars_ten_toDigits] at values
    omega

/-- Numerals padded to one length are ordered as their numbers. -/
theorem zeroPadded_lt_of_lt
    {width first second : Nat}
    (positive : 0 < width)
    (small : second < 10 ^ width)
    (below : first < second) :
    (zeroPadded width first).toList < (zeroPadded width second).toList := by
  by_contra notBelow
  have sameLength :
      (zeroPadded width second).toList.length =
        (zeroPadded width first).toList.length := by
    rw [length_zeroPadded positive small,
      length_zeroPadded positive (below.trans small)]
  rcases lt_or_eq_of_le (not_lt.mp notBelow) with above | same
  · have values :=
      ofDigitChars_lt_of_lt (fun _ => isDigit_of_mem_zeroPadded)
        sameLength above 0
    rw [ofDigitChars_zeroPadded, ofDigitChars_zeroPadded] at values
    omega
  · have values := congrArg (Nat.ofDigitChars 10 · 0) same
    simp only [ofDigitChars_zeroPadded] at values
    omega

/-- A text that is smaller at equal length stays smaller when extended. -/
theorem append_lt_append_of_length
    {first second : List Char}
    (sameLength : first.length = second.length)
    (below : first < second)
    (firstTail secondTail : List Char) :
    first ++ firstTail < second ++ secondTail := by
  induction first generalizing second with
  | nil =>
      have empty : second = [] :=
        List.eq_nil_of_length_eq_zero sameLength.symm
      rw [empty] at below
      cases below
  | cons head rest inductionHypothesis =>
      cases second with
      | nil =>
          cases sameLength
      | cons secondHead secondRest =>
          rw [List.cons_append, List.cons_append, List.cons_lt_cons_iff]
          rcases List.cons_lt_cons_iff.mp below with
              headBelow | ⟨same, restBelow⟩
          · exact Or.inl headBelow
          · exact Or.inr
              ⟨same, inductionHypothesis (Nat.succ.inj sameLength)
                restBelow⟩

end NumeralOrder

/-- A separator that is neither sign nor digit is not in a numeral. -/
theorem not_mem_toString_int
    {separator : Char}
    (notSign : separator ≠ '-')
    (notDigit : separator.isDigit = false)
    (number : Int) :
    separator ∉ (toString number).toList := by
  intro member
  rcases mem_toString_int member with isSign | isDigit
  · exact notSign isSign
  · rw [notDigit] at isDigit
    cases isDigit

/-- A separator that is not a digit is not in a padded numeral. -/
theorem not_mem_zeroPadded
    {separator : Char}
    (notDigit : separator.isDigit = false)
    (width number : Nat) :
    separator ∉ (zeroPadded width number).toList := by
  intro member
  have isDigit := isDigit_of_mem_zeroPadded member
  rw [notDigit] at isDigit
  cases isDigit

/-- Texts between the same two texts are determined by the whole. -/
theorem eq_of_enclosed_eq
    {before first second behind : String}
    (same : before ++ (first ++ behind) = before ++ (second ++ behind)) :
    first = second := by
  have characters := congrArg String.toList same
  simp only [String.toList_append] at characters
  exact String.toList_inj.mp
    (List.append_cancel_right (List.append_cancel_left characters))

/-- A longer text starts as its beginning does. -/
theorem startsWith_append
    {text leading : String}
    (starts : startsWith text leading = true)
    (rest : String) :
    startsWith (text ++ rest) leading = true := by
  rw [startsWith_iff, String.toList_append]
  exact (startsWith_iff.mp starts).trans (List.prefix_append _ _)

/-- Of two beginnings of one text, one starts with the other. -/
theorem startsWith_or_startsWith
    {text first second : String}
    (startsFirst : startsWith text first = true)
    (startsSecond : startsWith text second = true) :
    startsWith first second = true ∨ startsWith second first = true := by
  rw [startsWith_iff] at startsFirst startsSecond
  rw [startsWith_iff, startsWith_iff]
  exact List.prefix_or_prefix_of_prefix startsSecond startsFirst

/-- ASCII letters become upper case. -/
def toAsciiUppercase (text : String) : String :=
  text.map Char.toUpper

end MarketIngest.Text
