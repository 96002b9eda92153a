import MarketIngest.DecimalArithmetic

namespace MarketIngest.MarketData

open MachineInteger

/-!
# Texts of decimals

A decimal is read from a text with white space around it, and written to the
wire as the text of its value beside its scale.  What is read is specified by
the numerals: their characters, and the numbers that they stand for.
-/

section Integers

/-- Why a text is not a 128-bit integer. -/
inductive IntErrorKind where
  | empty
  | invalidDigit
  | posOverflow
  | negOverflow
  deriving Repr, DecidableEq

/-- The text of an error. -/
def IntErrorKind.display : IntErrorKind → String
  | .empty => "cannot parse integer from empty string"
  | .invalidDigit => "invalid digit found in string"
  | .posOverflow => "number too large to fit in target type"
  | .negOverflow => "number too small to fit in target type"

/-- Add the digits of a number, or subtract them if it is negative. -/
def readDigits (negative : Bool) :
    Int → List Char → Except IntErrorKind Int
  | value, [] => .ok value
  | value, char :: rest =>
      if char.isDigit then
        let digit : Int := (char.toNat - 48 : Nat)
        let next := if negative then value * 10 - digit else value * 10 + digit
        if Fits 128 (value * 10) ∧ Fits 128 next then
          readDigits negative next rest
        else
          .error (if negative then .negOverflow else .posOverflow)
      else
        .error .invalidDigit

/-- Read a 128-bit integer. -/
def parseI128 (text : String) : Except IntErrorKind Int :=
  match text.toList with
  | [] => .error .empty
  | first :: rest =>
      if (first = '+' ∨ first = '-') ∧ rest = [] then
        .error .invalidDigit
      else if first = '+' then
        readDigits false 0 rest
      else if first = '-' then
        readDigits true 0 rest
      else
        readDigits false 0 (first :: rest)

/-- A number with its sign. -/
def signed (negative : Bool) (number : Nat) : Int :=
  if negative then -number else number

/-- What is nearer to zero than a number that fits, fits. -/
private theorem fits_signed_of_le
    {negative : Bool}
    {smaller larger : Nat}
    (le : smaller ≤ larger)
    (fits : Fits 128 (signed negative larger)) :
    Fits 128 (signed negative smaller) := by
  unfold Fits signed at *
  cases negative with
  | false =>
      simp only [Bool.false_eq_true, if_false] at *
      omega
  | true =>
      simp only [if_true] at *
      omega

/-- More digits do not make a number smaller. -/
private theorem le_ofDigitChars
    (digits : List Char)
    (number : Nat) :
    number ≤ Nat.ofDigitChars 10 digits number := by
  rw [Nat.ofDigitChars_eq_ofDigitChars_zero]
  have grows : number ≤ 10 ^ digits.length * number :=
    Nat.le_mul_of_pos_left number (by positivity)
  omega

/-- Digits whose number fits are read. -/
theorem readDigits_eq
    (negative : Bool)
    {digits : List Char}
    {number : Nat}
    (areDigits : ∀ char ∈ digits, char.isDigit = true)
    (fits :
      Fits 128 (signed negative (Nat.ofDigitChars 10 digits number))) :
    readDigits negative (signed negative number) digits =
      .ok (signed negative (Nat.ofDigitChars 10 digits number)) := by
  induction digits generalizing number with
  | nil =>
      rw [readDigits, Nat.ofDigitChars_nil]
  | cons char rest inductionHypothesis =>
      rw [Nat.ofDigitChars_cons] at fits ⊢
      have nextFits := fits_signed_of_le (le_ofDigitChars rest _) fits
      have timesFits :
          Fits 128 (signed negative number * 10) := by
        have times :
            signed negative (10 * number) = signed negative number * 10 := by
          cases negative <;> simp [signed, mul_comm]
        rw [← times]
        exact fits_signed_of_le (Nat.le_add_right _ _) nextFits
      have next :
          (if negative then
              signed negative number * 10 - (char.toNat - 48 : Nat)
            else signed negative number * 10 + (char.toNat - 48 : Nat)) =
            signed negative (10 * number + (char.toNat - 48)) := by
        cases negative with
        | false =>
            simp only [signed, Bool.false_eq_true, if_false]
            push_cast
            ring
        | true =>
            simp only [signed, if_true]
            push_cast
            ring
      rw [readDigits, if_pos (areDigits char List.mem_cons_self)]
      simp only [next]
      rw [if_pos ⟨timesFits, nextFits⟩]
      exact inductionHypothesis
        (fun other member => areDigits other (List.mem_cons_of_mem _ member))
        fits

/-- The digits of a number that fits are read. -/
private theorem readDigits_toDigits
    (negative : Bool)
    {number : Nat}
    (fits : Fits 128 (signed negative number)) :
    readDigits negative 0 (Nat.toDigits 10 number) =
      .ok (signed negative number) := by
  have zero : signed negative 0 = 0 := by
    cases negative <;> rfl
  have digits : ∀ char ∈ Nat.toDigits 10 number, char.isDigit = true :=
    fun char => Nat.isDigit_of_mem_toDigits (by decide) (by decide)
  have same : Nat.ofDigitChars 10 (Nat.toDigits 10 number) 0 = number :=
    Nat.ofDigitChars_ten_toDigits
  have reads := readDigits_eq negative digits (by rwa [same])
  rwa [zero, same] at reads

/-- A text that begins with a digit has no sign. -/
private theorem parseI128_of_digits
    {text : String}
    (nonempty : text.toList ≠ [])
    (digits : ∀ char ∈ text.toList, char.isDigit = true) :
    parseI128 text = readDigits false 0 text.toList := by
  unfold parseI128
  split
  case h_1 empty =>
    exact absurd empty nonempty
  case h_2 first rest shape =>
    have isDigit : first.isDigit = true := by
      apply digits
      rw [shape]
      exact List.mem_cons_self
    have notPlus : first ≠ '+' := by
      rintro rfl
      cases isDigit
    have notMinus : first ≠ '-' := by
      rintro rfl
      cases isDigit
    rw [if_neg (by simp [notPlus, notMinus]), if_neg notPlus,
      if_neg notMinus, shape]

/-- A text that begins with a minus sign has one. -/
private theorem parseI128_of_minus
    {text : String}
    {digits : List Char}
    (nonempty : digits ≠ [])
    (shape : text.toList = '-' :: digits) :
    parseI128 text = readDigits true 0 digits := by
  rw [parseI128, shape]
  dsimp only
  rw [if_neg (by simp [nonempty]), if_neg (by decide), if_pos rfl]

/-- The text of an integer that fits is read back. -/
theorem parseI128_toString
    {value : Int}
    (fits : Fits 128 value) :
    parseI128 (toString value) = .ok value := by
  have text (number : Nat) :
      (Nat.repr number).toList = Nat.toDigits 10 number := by
    rw [Nat.repr_eq_ofList_toDigits, String.toList_ofList]
  have nonempty (number : Nat) : Nat.toDigits 10 number ≠ [] :=
    Nat.toDigits_ne_nil
  cases value with
  | ofNat number =>
      change parseI128 (Nat.repr number) = _
      rw [parseI128_of_digits, text]
      · exact readDigits_toDigits false fits
      · rw [text]
        exact nonempty number
      · rw [text]
        exact fun char =>
          Nat.isDigit_of_mem_toDigits (by decide) (by decide)
  | negSucc number =>
      have shape :
          (toString (Int.negSucc number)).toList =
            '-' :: Nat.toDigits 10 (number + 1) := by
        change ("-" ++ Nat.repr (number + 1)).toList = _
        rw [String.toList_append, text]
        rfl
      rw [parseI128_of_minus (nonempty _) shape]
      exact readDigits_toDigits true fits

end Integers

/-- A decimal as it is written. -/
structure Numeral where
  negative : Bool
  whole : List Char
  fraction : Option (List Char)
  wholeNonempty : whole ≠ []
  wholeDigits : ∀ char ∈ whole, char.isDigit = true
  fractionDigits :
    ∀ digits ∈ fraction, ∀ char ∈ digits, char.isDigit = true

namespace Numeral

/-- The characters of a numeral. -/
def characters (numeral : Numeral) : List Char :=
  (if numeral.negative then ['-'] else []) ++ numeral.whole ++
    numeral.fraction.elim [] (fun digits => '.' :: digits)

/-- The digits after the point. -/
def places (numeral : Numeral) : List Char :=
  numeral.fraction.getD []

/-- All digits, as those of an integer. -/
def digitsNumber (numeral : Numeral) : Nat :=
  Nat.ofDigitChars 10 (numeral.whole ++ numeral.places) 0

/-- The number that is written. -/
def number (numeral : Numeral) : ℚ :=
  (if numeral.negative then -1 else 1) *
    (Nat.ofDigitChars 10 numeral.whole 0 +
      Nat.ofDigitChars 10 numeral.places 0 / 10 ^ numeral.places.length)

/-- The digits fit a signed 128-bit integer. -/
def FitsI128 (numeral : Numeral) : Prop :=
  (numeral.digitsNumber : Int) ≤ i128Max

/-- A text is the numeral with white space around it. -/
def SpelledBy (numeral : Numeral) (text : String) : Prop :=
  ∃ left right : List Char,
    (∀ char ∈ left, Text.isWhiteSpace char = true) ∧
      (∀ char ∈ right, Text.isWhiteSpace char = true) ∧
      text.toList = left ++ numeral.characters ++ right

/-- The decimal of a numeral. -/
def decimal (numeral : Numeral) : FixedDecimal where
  value := signed numeral.negative numeral.digitsNumber
  scale := numeral.places.length

end Numeral

namespace FixedDecimal

section Trimming

/-- Only the white space before other characters is dropped. -/
private theorem dropWhite_append
    {white core : List Char}
    (isWhite : ∀ char ∈ white, Text.isWhiteSpace char = true)
    (nonempty : core ≠ [])
    (coreNot : ∀ char ∈ core, Text.isWhiteSpace char = false)
    (after : List Char) :
    (white ++ (core ++ after)).dropWhile Text.isWhiteSpace =
      core ++ after := by
  obtain ⟨first, rest, rfl⟩ := List.exists_cons_of_ne_nil nonempty
  have firstNot := coreNot first List.mem_cons_self
  rw [List.dropWhile_append_of_pos isWhite]
  exact List.dropWhile_cons_of_neg (by simp [firstNot])

/-- White space around other characters is trimmed. -/
theorem trim_append
    {left core right : List Char}
    (leftWhite : ∀ char ∈ left, Text.isWhiteSpace char = true)
    (rightWhite : ∀ char ∈ right, Text.isWhiteSpace char = true)
    (nonempty : core ≠ [])
    (coreNot : ∀ char ∈ core, Text.isWhiteSpace char = false) :
    trim (left ++ core ++ right) = core := by
  have fromRight :=
    dropWhite_append
      (fun char member => rightWhite char (List.mem_reverse.mp member))
      (List.reverse_ne_nil_iff.mpr nonempty)
      (fun char member => coreNot char (List.mem_reverse.mp member)) []
  rw [List.append_nil] at fromRight
  rw [trim, List.append_assoc,
    dropWhite_append leftWhite nonempty coreNot right, List.reverse_append,
    fromRight, List.reverse_reverse]

/-- Trimming leaves white space out at both ends. -/
theorem exists_trim
    (characters : List Char) :
    ∃ left right : List Char,
      (∀ char ∈ left, Text.isWhiteSpace char = true) ∧
        (∀ char ∈ right, Text.isWhiteSpace char = true) ∧
        characters = left ++ trim characters ++ right := by
  have white
      {taken : List Char} :
      ∀ char ∈ taken.takeWhile Text.isWhiteSpace,
        Text.isWhiteSpace char = true :=
    List.all_eq_true.mp List.all_takeWhile
  set dropped := characters.dropWhile Text.isWhiteSpace with isDropped
  refine ⟨characters.takeWhile Text.isWhiteSpace,
    (dropped.reverse.takeWhile Text.isWhiteSpace).reverse, white,
    fun char member => white char (List.mem_reverse.mp member), ?_⟩
  have trims :
      trim characters ++
          (dropped.reverse.takeWhile Text.isWhiteSpace).reverse =
        dropped := by
    rw [trim, ← isDropped, ← List.reverse_append,
      List.takeWhile_append_dropWhile, List.reverse_reverse]
  rw [List.append_assoc, trims, isDropped,
    List.takeWhile_append_dropWhile]

end Trimming

section Reading

variable {numeral : Numeral}

/-- A digit is no white space. -/
private theorem isWhiteSpace_of_isDigit
    {char : Char}
    (isDigit : char.isDigit = true) :
    Text.isWhiteSpace char = false := by
  obtain ⟨lower, upper⟩ := Char.isDigit_iff_toNat.mp isDigit
  change 48 ≤ char.toNat at lower
  change char.toNat ≤ 57 at upper
  simp only [Text.isWhiteSpace, Bool.or_eq_false_iff,
    Bool.and_eq_false_iff, decide_eq_false_iff_not]
  omega

/-- The digits after the point are digits. -/
private theorem isDigit_of_mem_places
    {char : Char}
    (member : char ∈ numeral.places) :
    char.isDigit = true := by
  obtain ⟨negative, whole, fraction, wholeNonempty, wholeDigits,
    fractionDigits⟩ := numeral
  cases fraction with
  | none =>
      cases member
  | some digits =>
      exact fractionDigits digits rfl char member

/-- A numeral has no white space. -/
private theorem isWhiteSpace_of_mem_characters
    {char : Char}
    (member : char ∈ numeral.characters) :
    Text.isWhiteSpace char = false := by
  obtain ⟨negative, whole, fraction, wholeNonempty, wholeDigits,
    fractionDigits⟩ := numeral
  rw [Numeral.characters, List.mem_append, List.mem_append] at member
  rcases member with (inSign | inWhole) | inFraction
  · cases negative with
    | false =>
        cases inSign
    | true =>
        obtain rfl := List.mem_singleton.mp inSign
        decide
  · exact isWhiteSpace_of_isDigit (wholeDigits char inWhole)
  · cases fraction with
    | none =>
        cases inFraction
    | some digits =>
        rcases List.mem_cons.mp inFraction with rfl | inDigits
        · decide
        · exact isWhiteSpace_of_isDigit
            (fractionDigits digits rfl char inDigits)

/-- Digits are not split. -/
private theorem point_not_mem
    {digits : List Char}
    (areDigits : ∀ char ∈ digits, char.isDigit = true) :
    '.' ∉ digits := by
  intro member
  cases areDigits '.' member

/-- The digits of a numeral are split at the point. -/
private theorem splitOn_digits
    (numeral : Numeral) :
    (numeral.whole ++
        numeral.fraction.elim [] (fun digits => '.' :: digits)).splitOn '.' =
      numeral.whole :: numeral.fraction.elim [] (fun digits => [digits]) := by
  obtain ⟨negative, whole, fraction, wholeNonempty, wholeDigits,
    fractionDigits⟩ := numeral
  have wholeFree := point_not_mem wholeDigits
  cases fraction with
  | none =>
      dsimp only [Option.elim]
      rw [List.append_nil, List.splitOn_eq_singleton wholeFree]
  | some digits =>
      have digitsFree := point_not_mem (fractionDigits digits rfl)
      dsimp only [Option.elim]
      rw [List.splitOn_append_cons_self_of_not_mem wholeFree,
        List.splitOn_eq_singleton digitsFree]

/-- The number of digits is that of an integer. -/
theorem digitsValue_eq
    (digits : List Char) :
    digitsValue digits = Nat.ofDigitChars 10 digits 0 := by
  rw [digitsValue, Nat.ofDigitChars_eq_foldl]
  simp only [mul_comm 10]
  rfl

/-- The parts of a numeral make its decimal, if they fit. -/
private theorem fromParts_eq
    (input : String)
    (numeral : Numeral) :
    fromParts input numeral.negative numeral.whole numeral.places =
      if numeral.places.length > u32Max then
        .error .scaleOverflow
      else if i128Max < (numeral.digitsNumber : Int) then
        .error (.invalidDecimal input)
      else
        .ok numeral.decimal := by
  have wholeDigits : numeral.whole.all Char.isDigit = true :=
    List.all_eq_true.mpr numeral.wholeDigits
  have placesDigits : numeral.places.all Char.isDigit = true :=
    List.all_eq_true.mpr fun _ => isDigit_of_mem_places
  rw [fromParts, if_neg (by
    simp [numeral.wholeNonempty, wholeDigits, placesDigits]),
    digitsValue_eq]
  rfl

/-- The parts of what is read are digits. -/
private theorem digits_of_fromParts
    {input : String}
    {negative : Bool}
    {whole fraction : List Char}
    {decimal : FixedDecimal}
    (reads : fromParts input negative whole fraction = .ok decimal) :
    whole ≠ [] ∧
      (∀ char ∈ whole, char.isDigit = true) ∧
      ∀ char ∈ fraction, char.isDigit = true := by
  unfold fromParts at reads
  split at reads
  case isTrue =>
    cases reads
  case isFalse shaped =>
    rw [not_or, not_not, List.all_eq_true, List.all_eq_true] at shaped
    exact shaped

/-- What is read from the text of a numeral. -/
theorem fromStr_of_spelledBy
    {text : String}
    (spelled : numeral.SpelledBy text) :
    fromStr text =
      if numeral.places.length > u32Max then
        .error .scaleOverflow
      else if i128Max < (numeral.digitsNumber : Int) then
        .error (.invalidDecimal text)
      else
        .ok numeral.decimal := by
  obtain ⟨left, right, leftWhite, rightWhite, shape⟩ := spelled
  have nonempty : numeral.characters ≠ [] := by
    simp [Numeral.characters, numeral.wholeNonempty]
  have trimmed : trim text.toList = numeral.characters := by
    rw [shape]
    exact trim_append leftWhite rightWhite nonempty
      fun _ => isWhiteSpace_of_mem_characters
  set digits :=
    numeral.whole ++
      numeral.fraction.elim [] (fun digits => '.' :: digits) with isDigits
  have isNegative :
      decide (numeral.characters.head? = some '-') = numeral.negative := by
    rw [Numeral.characters]
    cases numeral.negative with
    | true =>
        rfl
    | false =>
        obtain ⟨first, rest, wholeShape⟩ :=
          List.exists_cons_of_ne_nil numeral.wholeNonempty
        have isDigit := numeral.wholeDigits first (by simp [wholeShape])
        rw [wholeShape, decide_eq_false_iff_not]
        rintro isMinus
        cases isMinus
        cases isDigit
  have withoutSign :
      (if numeral.negative then numeral.characters.tail
        else numeral.characters) = digits := by
    rw [isDigits, Numeral.characters, List.append_assoc]
    cases numeral.negative <;> rfl
  have digitsNonempty : digits ≠ [] := by
    simp [isDigits, numeral.wholeNonempty]
  unfold fromStr
  simp only [trimmed, if_neg nonempty, isNegative, withoutSign,
    if_neg digitsNonempty]
  rw [isDigits, splitOn_digits, ← fromParts_eq, Numeral.places]
  cases numeral.fraction <;> rfl

/-- What is read is the text of a numeral. -/
theorem exists_spelledBy_of_fromStr
    {text : String}
    {decimal : FixedDecimal}
    (reads : fromStr text = .ok decimal) :
    ∃ numeral : Numeral, numeral.SpelledBy text := by
  obtain ⟨left, right, leftWhite, rightWhite, shape⟩ :=
    exists_trim text.toList
  unfold fromStr at reads
  dsimp only at reads
  set trimmed := trim text.toList
  set negative := decide (trimmed.head? = some '-') with isNegative
  set digits := if negative then trimmed.tail else trimmed with isDigits
  have withSign :
      trimmed = (if negative then ['-'] else []) ++ digits := by
    by_cases minus : trimmed.head? = some '-'
    · rw [isDigits, isNegative, decide_eq_true minus]
      exact (List.cons_head?_tail minus).symm
    · rw [isDigits, isNegative, decide_eq_false minus]
      rfl
  have joined : ['.'].intercalate (digits.splitOn '.') = digits :=
    List.intercalate_splitOn '.'
  split at reads
  case isTrue =>
    cases reads
  split at reads
  case isTrue =>
    cases reads
  split at reads
  case h_1 whole parts =>
    obtain ⟨nonempty, wholeDigits, -⟩ := digits_of_fromParts reads
    refine ⟨⟨negative, whole, none, nonempty, wholeDigits, nofun⟩, left,
      right, leftWhite, rightWhite, ?_⟩
    rw [parts] at joined
    rw [shape, withSign, ← joined]
    simp [Numeral.characters]
  case h_2 whole fraction parts =>
    obtain ⟨nonempty, wholeDigits, fractionDigits⟩ :=
      digits_of_fromParts reads
    refine ⟨⟨negative, whole, some fraction, nonempty, wholeDigits, ?_⟩,
      left, right, leftWhite, rightWhite, ?_⟩
    · intro places isFraction
      obtain rfl := Option.mem_some_iff.mp isFraction
      exact fractionDigits
    · rw [parts] at joined
      rw [shape, withSign, ← joined]
      simp [Numeral.characters]
  case h_3 =>
    cases reads

/-- The decimal of a numeral is the number that is written. -/
theorem toRat_decimal
    (numeral : Numeral) :
    numeral.decimal.toRat = numeral.number := by
  have concatenated :
      numeral.digitsNumber =
        10 ^ numeral.places.length * Nat.ofDigitChars 10 numeral.whole 0 +
          Nat.ofDigitChars 10 numeral.places 0 := by
    rw [Numeral.digitsNumber, Nat.ofDigitChars_append,
      Nat.ofDigitChars_eq_ofDigitChars_zero]
  rw [toRat, Numeral.number, Numeral.decimal, concatenated, signed]
  cases numeral.negative with
  | false =>
      simp only [Bool.false_eq_true, if_false]
      push_cast
      field_simp
  | true =>
      simp only [if_true]
      push_cast
      field_simp

/-- An unsigned decimal is a decimal that is not negative. -/
theorem parseUnsigned_eq_ok_iff
    {text : String}
    {decimal : FixedDecimal} :
    parseUnsigned text = .ok decimal ↔
      fromStr text = .ok decimal ∧ 0 ≤ decimal.toRat := by
  rw [← value_nonneg_iff, parseUnsigned]
  cases fromStr text with
  | error error =>
      simp
  | ok parsed =>
      dsimp only
      split_ifs with negative
      · simp only [Except.ok.injEq, false_iff, not_and, not_le]
        rintro rfl
        exact negative
      · simp only [Except.ok.injEq, iff_self_and]
        rintro rfl
        exact not_lt.mp negative

end Reading

section Wire

/-- A decimal on the wire. -/
structure FixedDecimalWire where
  value : String
  scale : Nat
  deriving Repr, DecidableEq

/-- Write a decimal to the wire. -/
def serialize (decimal : FixedDecimal) : FixedDecimalWire where
  value := toString decimal.value
  scale := decimal.scale

/-- Read a decimal from the wire. -/
def deserialize
    (wire : FixedDecimalWire) : Except IntErrorKind FixedDecimal := do
  let value ← parseI128 wire.value
  pure { value := value, scale := wire.scale }

/-- What is written to the wire is read back. -/
theorem deserialize_serialize
    {decimal : FixedDecimal}
    (representable : decimal.Representable) :
    deserialize (serialize decimal) = .ok decimal := by
  rw [deserialize, serialize, parseI128_toString representable.value]
  rfl

end Wire

section Exactness

/-- A text is read just if it is a numeral, as the number that is written. -/
structure ReadsNumerals (text : String) : Prop where
  accepts :
    (∃ decimal, fromStr text = .ok decimal) ↔
      ∃ numeral : Numeral,
        numeral.SpelledBy text ∧ numeral.FitsI128 ∧
          numeral.places.length ≤ u32Max
  exactly :
    ∀ (decimal : FixedDecimal) (numeral : Numeral),
      fromStr text = .ok decimal → numeral.SpelledBy text →
        decimal.scale = numeral.places.length ∧
          decimal.toRat = numeral.number
  tooLong :
    ∀ numeral : Numeral,
      numeral.SpelledBy text → u32Max < numeral.places.length →
        fromStr text = .error .scaleOverflow
  unsigned :
    ∀ decimal,
      parseUnsigned text = .ok decimal ↔
        fromStr text = .ok decimal ∧ 0 ≤ decimal.toRat

/-- What is read from the text of a numeral is its decimal. -/
theorem fromStr_eq_ok_iff
    {text : String}
    {numeral : Numeral}
    (spelled : numeral.SpelledBy text)
    {decimal : FixedDecimal} :
    fromStr text = .ok decimal ↔
      numeral.FitsI128 ∧ numeral.places.length ≤ u32Max ∧
        numeral.decimal = decimal := by
  rw [fromStr_of_spelledBy spelled, Numeral.FitsI128]
  split_ifs with long large
  · simp only [false_iff, not_and]
    exact fun _ short => absurd short (not_le.mpr long)
  · simp only [false_iff, not_and]
    exact fun small => absurd small (not_le.mpr large)
  · simp [not_lt.mp long, not_lt.mp large]

/-- Texts are read as the numerals that they are. -/
theorem readsNumerals
    (text : String) :
    ReadsNumerals text := by
  constructor
  case accepts =>
    constructor
    · rintro ⟨decimal, reads⟩
      obtain ⟨numeral, spelled⟩ := exists_spelledBy_of_fromStr reads
      obtain ⟨fits, short, -⟩ := (fromStr_eq_ok_iff spelled).mp reads
      exact ⟨numeral, spelled, fits, short⟩
    · rintro ⟨numeral, spelled, fits, short⟩
      exact ⟨numeral.decimal,
        (fromStr_eq_ok_iff spelled).mpr ⟨fits, short, rfl⟩⟩
  case exactly =>
    intro decimal numeral reads spelled
    obtain ⟨-, -, rfl⟩ := (fromStr_eq_ok_iff spelled).mp reads
    exact ⟨rfl, toRat_decimal numeral⟩
  case tooLong =>
    intro numeral spelled long
    rw [fromStr_of_spelledBy spelled, if_pos long]
  case unsigned =>
    exact fun decimal => parseUnsigned_eq_ok_iff

/-- Decimals are read exactly from texts, and read back from the wire. -/
theorem decimals_readExactly
    (text : String)
    {decimal : FixedDecimal}
    (representable : decimal.Representable) :
    ReadsNumerals text ∧
      deserialize (serialize decimal) = .ok decimal :=
  ⟨readsNumerals text, deserialize_serialize representable⟩

/-- A negative decimal is read from a text and read back from the wire. -/
theorem decimals_readExactly_negative :
    ReadsNumerals " -12.50" ∧
      deserialize (serialize { value := -1250, scale := 2 }) =
        .ok { value := -1250, scale := 2 } :=
  decimals_readExactly " -12.50" ⟨by decide, by decide⟩

/-- So many zeros after the point. -/
def zeros (count : Nat) : Numeral where
  negative := false
  whole := ['0']
  fraction := some (List.replicate count '0')
  wholeNonempty := by decide
  wholeDigits := List.forall_mem_singleton.mpr rfl
  fractionDigits := by
    intro digits isFraction char member
    obtain rfl := Option.mem_some_iff.mp isFraction
    rw [List.eq_of_mem_replicate member]
    decide

/-- A zero with one digit more than the scale can count is not read. -/
theorem zeros_notRead :
    let numeral := zeros (u32Max + 1)
    let text := String.ofList numeral.characters
    numeral.SpelledBy text ∧
      numeral.FitsI128 ∧
      fromStr text = .error .scaleOverflow ∧
      ¬ ((∃ decimal, fromStr text = .ok decimal) ↔
        ∃ numeral : Numeral,
          numeral.SpelledBy text ∧ numeral.FitsI128) := by
  intro numeral text
  have spelled : numeral.SpelledBy text :=
    ⟨[], [], nofun, nofun, by simp [text]⟩
  have zero : numeral.digitsNumber = 0 := by
    rw [Numeral.digitsNumber, Nat.ofDigitChars_append]
    exact Nat.ofDigitChars_replicate_zero
  have fits : numeral.FitsI128 := by
    rw [Numeral.FitsI128, zero]
    decide
  have long : u32Max < numeral.places.length := by
    change u32Max < (List.replicate (u32Max + 1) '0').length
    rw [List.length_replicate]
    exact Nat.lt_succ_self u32Max
  have overflows := (readsNumerals text).tooLong numeral spelled long
  refine ⟨spelled, fits, overflows, fun accepts => ?_⟩
  obtain ⟨decimal, reads⟩ := accepts.mpr ⟨numeral, spelled, fits⟩
  rw [overflows] at reads
  cases reads

end Exactness

end FixedDecimal

end MarketIngest.MarketData
