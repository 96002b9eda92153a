import MarketIngest.Text
import Mathlib.Tactic.Linarith

namespace MarketIngest.Calendar

/-!
# Proleptic Gregorian dates

Days are counted from 1970-01-01.  A date is computed in eras of 400 years that
start on the first of March, so that a leap day is the last day of its year.
The inverse computation shows that different days have different dates, and
that the ISO rendering of a date determines the day.
-/

/-- A date of the proleptic Gregorian calendar. -/
structure CivilDate where
  year : Int
  month : Int
  day : Int
  deriving Repr, DecidableEq

/-- The date of a day counted from 1970-01-01. -/
def civilFromDays (days : Int) : CivilDate :=
  let shifted := days + 719468
  let era := shifted / 146097
  let dayOfEra := shifted % 146097
  let century := min 3 (dayOfEra / 36524)
  let dayOfCentury := dayOfEra - 36524 * century
  let cycle := dayOfCentury / 1461
  let dayOfCycle := dayOfCentury - 1461 * cycle
  let yearOfCycle := min 3 (dayOfCycle / 365)
  let dayOfYear := dayOfCycle - 365 * yearOfCycle
  let monthIndex := (5 * dayOfYear + 2) / 153
  let month := if monthIndex < 10 then monthIndex + 3 else monthIndex - 9
  { year :=
      400 * era + 100 * century + 4 * cycle + yearOfCycle +
        (if month ≤ 2 then 1 else 0)
    month := month
    day := dayOfYear - (153 * monthIndex + 2) / 5 + 1 }

/-- The day, counted from 1970-01-01, of a date. -/
def daysFromCivil (date : CivilDate) : Int :=
  let year := date.year - (if date.month ≤ 2 then 1 else 0)
  let yearOfEra := year % 400
  let monthIndex :=
    if 2 < date.month then date.month - 3 else date.month + 9
  let dayOfYear := (153 * monthIndex + 2) / 5 + date.day - 1
  146097 * (year / 400) +
    (365 * yearOfEra + yearOfEra / 4 - yearOfEra / 100 + dayOfYear) - 719468

/-- Splitting a day of an era into century, cycle, year and day. -/
private theorem dayOfEra_parts
    {dayOfEra century cycle yearOfCycle dayOfYear : Int}
    (lower : 0 ≤ dayOfEra)
    (upper : dayOfEra < 146097)
    (centuryShape : century = min 3 (dayOfEra / 36524))
    (cycleShape : cycle = (dayOfEra - 36524 * century) / 1461)
    (yearShape :
      yearOfCycle =
        min 3 ((dayOfEra - 36524 * century - 1461 * cycle) / 365))
    (dayShape :
      dayOfYear =
        dayOfEra - 36524 * century - 1461 * cycle - 365 * yearOfCycle) :
    0 ≤ century ∧ century ≤ 3 ∧ 0 ≤ cycle ∧ cycle ≤ 24 ∧
      0 ≤ yearOfCycle ∧ yearOfCycle ≤ 3 ∧
      0 ≤ dayOfYear ∧ dayOfYear ≤ 365 := by
  have centuryBounds : 0 ≤ century ∧ century ≤ 3 := by omega
  have dayOfCenturyBounds :
      0 ≤ dayOfEra - 36524 * century ∧
        dayOfEra - 36524 * century ≤ 36524 := by
    omega
  have cycleBounds : 0 ≤ cycle ∧ cycle ≤ 24 := by omega
  have dayOfCycleBounds :
      0 ≤ dayOfEra - 36524 * century - 1461 * cycle ∧
        dayOfEra - 36524 * century - 1461 * cycle < 1461 := by
    omega
  have yearBounds : 0 ≤ yearOfCycle ∧ yearOfCycle ≤ 3 := by omega
  exact ⟨centuryBounds.1, centuryBounds.2, cycleBounds.1, cycleBounds.2,
    yearBounds.1, yearBounds.2, by omega, by omega⟩

/-- A day of the year lies in one of twelve months of at most 31 days. -/
private theorem month_bounds
    {dayOfYear monthIndex : Int}
    (lower : 0 ≤ dayOfYear)
    (upper : dayOfYear ≤ 365)
    (monthShape : monthIndex = (5 * dayOfYear + 2) / 153) :
    0 ≤ monthIndex ∧ monthIndex ≤ 11 ∧
      0 ≤ dayOfYear - (153 * monthIndex + 2) / 5 ∧
      dayOfYear - (153 * monthIndex + 2) / 5 ≤ 30 := by
  omega

/-- Recombining year, month and day gives back the day of the era. -/
private theorem recombine
    {era century cycle yearOfCycle dayOfYear monthIndex month year : Int}
    (parts :
      0 ≤ century ∧ century ≤ 3 ∧ 0 ≤ cycle ∧ cycle ≤ 24 ∧
        0 ≤ yearOfCycle ∧ yearOfCycle ≤ 3)
    (monthIndexLower : 0 ≤ monthIndex)
    (monthIndexUpper : monthIndex ≤ 11)
    (monthShape :
      month = if monthIndex < 10 then monthIndex + 3 else monthIndex - 9)
    (yearShape :
      year =
        400 * era + 100 * century + 4 * cycle + yearOfCycle +
          (if month ≤ 2 then 1 else 0)) :
    daysFromCivil
        { year := year
          month := month
          day := dayOfYear - (153 * monthIndex + 2) / 5 + 1 } =
      146097 * era + 36524 * century + 1461 * cycle +
        365 * yearOfCycle + dayOfYear - 719468 := by
  have marchYear :
      year - (if month ≤ 2 then 1 else 0) =
        400 * era + 100 * century + 4 * cycle + yearOfCycle := by
    rw [yearShape]
    omega
  have monthBack :
      (if 2 < month then month - 3 else month + 9) = monthIndex := by
    split_ifs at monthShape ⊢ <;> omega
  simp only [daysFromCivil, marchYear, monthBack]
  omega

/-- Computing the date of a day and the day of that date is the identity. -/
theorem daysFromCivil_civilFromDays
    (days : Int) :
    daysFromCivil (civilFromDays days) = days := by
  have lower := Int.emod_nonneg (days + 719468) (b := 146097) (by decide)
  have upper :=
    Int.emod_lt_of_pos (days + 719468) (b := 146097) (by decide)
  have parts := dayOfEra_parts lower upper rfl rfl rfl rfl
  obtain ⟨centuryLower, centuryUpper, cycleLower, cycleUpper,
    yearLower, yearUpper, dayLower, dayUpper⟩ := parts
  have months := month_bounds dayLower dayUpper rfl
  unfold civilFromDays
  rw [recombine
    ⟨centuryLower, centuryUpper, cycleLower, cycleUpper,
      yearLower, yearUpper⟩ months.1 months.2.1 rfl rfl]
  omega

/-- Different days have different dates. -/
theorem civilFromDays_injective :
    Function.Injective civilFromDays :=
  Function.LeftInverse.injective daysFromCivil_civilFromDays

/-- Months run from 1 to 12 and days from 1 to 31. -/
theorem civilFromDays_bounds
    (days : Int) :
    1 ≤ (civilFromDays days).month ∧ (civilFromDays days).month ≤ 12 ∧
      1 ≤ (civilFromDays days).day ∧ (civilFromDays days).day ≤ 31 := by
  have lower := Int.emod_nonneg (days + 719468) (b := 146097) (by decide)
  have upper :=
    Int.emod_lt_of_pos (days + 719468) (b := 146097) (by decide)
  obtain ⟨_, _, _, _, _, _, dayLower, dayUpper⟩ :=
    dayOfEra_parts lower upper rfl rfl rfl rfl
  have months := month_bounds dayLower dayUpper rfl
  simp only [civilFromDays]
  refine ⟨?_, ?_, ?_, ?_⟩
  · split_ifs <;> omega
  · split_ifs <;> omega
  · omega
  · omega

/-- The year of a day lies in the era of the day. -/
theorem civilFromDays_year_bounds
    (days : Int) :
    400 * ((days + 719468) / 146097) ≤ (civilFromDays days).year ∧
      (civilFromDays days).year ≤
        400 * ((days + 719468) / 146097) + 400 := by
  have lower := Int.emod_nonneg (days + 719468) (b := 146097) (by decide)
  have upper :=
    Int.emod_lt_of_pos (days + 719468) (b := 146097) (by decide)
  obtain ⟨centuryLower, centuryUpper, cycleLower, cycleUpper,
    yearLower, yearUpper, _, _⟩ :=
    dayOfEra_parts lower upper rfl rfl rfl rfl
  simp only [civilFromDays]
  constructor
  · split_ifs <;> omega
  · split_ifs <;> omega

/-- Later days of an era have no earlier year of the era. -/
private theorem yearOfEra_mono
    {dayOfEra century cycle yearOfCycle : Int}
    {dayOfEra' century' cycle' yearOfCycle' : Int}
    (lower : 0 ≤ dayOfEra)
    (inOrder : dayOfEra ≤ dayOfEra')
    (upper : dayOfEra' < 146097)
    (centuryShape : century = min 3 (dayOfEra / 36524))
    (centuryShape' : century' = min 3 (dayOfEra' / 36524))
    (cycleShape : cycle = (dayOfEra - 36524 * century) / 1461)
    (cycleShape' : cycle' = (dayOfEra' - 36524 * century') / 1461)
    (yearShape :
      yearOfCycle =
        min 3 ((dayOfEra - 36524 * century - 1461 * cycle) / 365))
    (yearShape' :
      yearOfCycle' =
        min 3 ((dayOfEra' - 36524 * century' - 1461 * cycle') / 365)) :
    100 * century + 4 * cycle + yearOfCycle <
        100 * century' + 4 * cycle' + yearOfCycle' ∨
      (century = century' ∧ cycle = cycle' ∧ yearOfCycle = yearOfCycle') := by
  obtain ⟨_, _, _, cycleUpper, _, yearUpper, _, _⟩ :=
    dayOfEra_parts lower (by omega) centuryShape cycleShape yearShape rfl
  obtain ⟨_, _, cycleLower', _, yearLower', _, _, _⟩ :=
    dayOfEra_parts (by omega) upper centuryShape' cycleShape' yearShape' rfl
  have centuries : century ≤ century' := by omega
  rcases centuries.lt_or_eq with earlier | rfl
  · exact Or.inl (by omega)
  · have cycles : cycle ≤ cycle' := by omega
    rcases cycles.lt_or_eq with earlier | rfl
    · exact Or.inl (by omega)
    · have years : yearOfCycle ≤ yearOfCycle' := by omega
      rcases years.lt_or_eq with earlier | rfl
      · exact Or.inl (by omega)
      · exact Or.inr ⟨rfl, rfl, rfl⟩

/-- A date comes before another one. -/
def CivilDate.Before (first second : CivilDate) : Prop :=
  first.year < second.year ∨
    first.year = second.year ∧
      (first.month < second.month ∨
        first.month = second.month ∧ first.day < second.day)

/-- The date of a day of a year that starts on the first of March. -/
private def fromMarchYear (year dayOfYear : Int) : CivilDate :=
  let monthIndex := (5 * dayOfYear + 2) / 153
  let month := if monthIndex < 10 then monthIndex + 3 else monthIndex - 9
  { year := year + (if month ≤ 2 then 1 else 0)
    month := month
    day := dayOfYear - (153 * monthIndex + 2) / 5 + 1 }

/-- Later days of years that start in March have later dates. -/
private theorem fromMarchYear_before
    {year dayOfYear year' dayOfYear' : Int}
    (lower : 0 ≤ dayOfYear)
    (upper : dayOfYear ≤ 365)
    (lower' : 0 ≤ dayOfYear')
    (upper' : dayOfYear' ≤ 365)
    (later : year < year' ∨ year = year' ∧ dayOfYear < dayOfYear') :
    (fromMarchYear year dayOfYear).Before
      (fromMarchYear year' dayOfYear') := by
  simp only [CivilDate.Before, fromMarchYear]
  split_ifs <;> omega

/-- Later days have later dates. -/
theorem civilFromDays_before
    {first second : Int}
    (earlier : first < second) :
    (civilFromDays first).Before (civilFromDays second) := by
  have firstLower :=
    Int.emod_nonneg (first + 719468) (b := 146097) (by decide)
  have firstUpper :=
    Int.emod_lt_of_pos (first + 719468) (b := 146097) (by decide)
  have secondLower :=
    Int.emod_nonneg (second + 719468) (b := 146097) (by decide)
  have secondUpper :=
    Int.emod_lt_of_pos (second + 719468) (b := 146097) (by decide)
  obtain ⟨_, centuryUpper, _, cycleUpper, _, yearUpper, lower, upper⟩ :=
    dayOfEra_parts firstLower firstUpper rfl rfl rfl rfl
  obtain ⟨centuryLower, _, cycleLower, _, yearLower, _, lower', upper'⟩ :=
    dayOfEra_parts secondLower secondUpper rfl rfl rfl rfl
  apply fromMarchYear_before lower upper lower' upper'
  have eras :
      (first + 719468) / 146097 ≤ (second + 719468) / 146097 := by
    omega
  rcases eras.lt_or_eq with earlierEra | sameEra
  · exact Or.inl (by omega)
  · have days :
        (first + 719468) % 146097 < (second + 719468) % 146097 := by
      omega
    rcases yearOfEra_mono firstLower days.le secondUpper rfl rfl rfl rfl
        rfl rfl with earlierYear | ⟨sameCentury, sameCycle, sameYear⟩
    · exact Or.inl (by omega)
    · refine Or.inr ⟨?_, ?_⟩
      · rw [sameEra, sameYear, sameCycle, sameCentury]
      · rw [← sameYear, ← sameCycle, ← sameCentury]
        omega

/-- Later days lie in no earlier year. -/
theorem civilFromDays_year_mono
    {first second : Int}
    (inOrder : first ≤ second) :
    (civilFromDays first).year ≤ (civilFromDays second).year := by
  rcases inOrder.lt_or_eq with earlier | rfl
  · rcases civilFromDays_before earlier with year | ⟨year, _⟩
    · exact year.le
    · exact year.le
  · exact le_rfl

/-- A year rendered with four digits, and a sign outside 0 to 9999. -/
def renderYear (year : Int) : String :=
  if year < 0 then
    "-" ++ Text.zeroPadded 4 year.natAbs
  else if year ≤ 9999 then
    Text.zeroPadded 4 year.natAbs
  else
    "+" ++ Text.zeroPadded 4 year.natAbs

/-- A date rendered as `%Y-%m-%d`. -/
def renderDate (date : CivilDate) : String :=
  renderYear date.year ++ ("-" ++ Text.zeroPadded 2 date.month.natAbs ++
    ("-" ++ Text.zeroPadded 2 date.day.natAbs))

/-- A rendered year determines the year. -/
theorem renderYear_injective :
    Function.Injective renderYear := by
  have signed
      (sign : Char)
      (notDigit : sign.isDigit = false)
      {first second : Nat}
      (same :
        Text.zeroPadded 4 first =
          String.singleton sign ++ Text.zeroPadded 4 second) :
      False := by
    apply Text.not_mem_zeroPadded notDigit 4 first
    rw [same]
    simp
  have cancel
      {sign : String}
      {first second : Nat}
      (same :
        sign ++ Text.zeroPadded 4 first =
          sign ++ Text.zeroPadded 4 second) :
      first = second := by
    have chars := congrArg String.toList same
    rw [String.toList_append, String.toList_append] at chars
    exact Text.zeroPadded_injective 4
      (String.toList_inj.mp (List.append_cancel_left chars))
  have signsDiffer
      {first second : Nat}
      (same :
        "-" ++ Text.zeroPadded 4 first =
          "+" ++ Text.zeroPadded 4 second) :
      False := by
    have chars := congrArg String.toList same
    simp at chars
  intro first second same
  unfold renderYear at same
  split_ifs at same with
      firstNegative secondNegative secondSmall
      firstSmall secondNegative secondSmall
      secondNegative secondSmall
  · have := cancel same
    omega
  · exact (signed '-' (by decide) same.symm).elim
  · exact (signsDiffer same).elim
  · exact (signed '-' (by decide) same).elim
  · have := Text.zeroPadded_injective 4 same
    omega
  · exact (signed '+' (by decide) same).elim
  · exact (signsDiffer same.symm).elim
  · exact (signed '+' (by decide) same.symm).elim
  · have := cancel same
    omega

/-- Rendered dates of days determine the day. -/
theorem renderDate_civilFromDays_injective :
    Function.Injective (fun days => renderDate (civilFromDays days)) := by
  intro first second same
  have firstBounds := civilFromDays_bounds first
  have secondBounds := civilFromDays_bounds second
  have twoDigits
      {number : Int}
      (lower : 1 ≤ number)
      (upper : number ≤ 31) :
      (Text.zeroPadded 2 number.natAbs).toList.length = 2 :=
    Text.length_zeroPadded (by decide) (by omega)
  have chars := congrArg String.toList same
  simp only [renderDate, String.toList_append] at chars
  obtain ⟨sameYear, sameRest⟩ :=
    List.append_inj' chars (by
      simp only [List.length_append]
      rw [twoDigits firstBounds.1 (by omega),
        twoDigits secondBounds.1 (by omega),
        twoDigits firstBounds.2.2.1 firstBounds.2.2.2,
        twoDigits secondBounds.2.2.1 secondBounds.2.2.2])
  obtain ⟨sameMonthPart, sameDayPart⟩ :=
    List.append_inj' sameRest (by
      simp only [List.length_append]
      rw [twoDigits firstBounds.2.2.1 firstBounds.2.2.2,
        twoDigits secondBounds.2.2.1 secondBounds.2.2.2])
  have sameMonth :=
    Text.zeroPadded_injective 2
      (String.toList_inj.mp (List.append_cancel_left sameMonthPart))
  have sameDay :=
    Text.zeroPadded_injective 2
      (String.toList_inj.mp (List.append_cancel_left sameDayPart))
  apply civilFromDays_injective
  have yearEqual := renderYear_injective (String.toList_inj.mp sameYear)
  have monthEqual :
      (civilFromDays first).month = (civilFromDays second).month := by
    omega
  have dayEqual :
      (civilFromDays first).day = (civilFromDays second).day := by
    omega
  cases firstDate : civilFromDays first
  cases secondDate : civilFromDays second
  simp_all

section FourDigits

/-- The year of a date is written with four digits and no sign. -/
def CivilDate.FourDigitYear (date : CivilDate) : Prop :=
  0 ≤ date.year ∧ date.year ≤ 9999

/-- Whether a year has four digits is decided by its bounds. -/
instance (date : CivilDate) : Decidable date.FourDigitYear :=
  inferInstanceAs (Decidable (0 ≤ date.year ∧ date.year ≤ 9999))

/-- A rendered date with a year of four digits, cut at its dashes. -/
theorem toList_renderDate
    {date : CivilDate}
    (fourDigits : date.FourDigitYear) :
    (renderDate date).toList =
      (Text.zeroPadded 4 date.year.natAbs).toList ++ '-' ::
        ((Text.zeroPadded 2 date.month.natAbs).toList ++ '-' ::
          (Text.zeroPadded 2 date.day.natAbs).toList) := by
  have year :
      renderYear date.year = Text.zeroPadded 4 date.year.natAbs := by
    rw [renderYear, if_neg (by have := fourDigits.1; omega),
      if_pos fourDigits.2]
  simp [renderDate, year]

variable
  {first second : Int}
  (firstYear : (civilFromDays first).FourDigitYear)
  (secondYear : (civilFromDays second).FourDigitYear)

include firstYear in
/-- The parts of a rendered date with a year of four digits are short. -/
private theorem dateParts_small :
    (civilFromDays first).year.natAbs < 10 ^ 4 ∧
      (civilFromDays first).month.natAbs < 10 ^ 2 ∧
      (civilFromDays first).day.natAbs < 10 ^ 2 := by
  obtain ⟨_, month, _, day⟩ := civilFromDays_bounds first
  obtain ⟨_, _⟩ := firstYear
  omega

include firstYear in
/-- Rendered dates with years of four digits have equally many characters. -/
theorem length_renderDate :
    (renderDate (civilFromDays first)).toList.length = 10 := by
  obtain ⟨year, month, day⟩ := dateParts_small firstYear
  simp only [toList_renderDate firstYear, List.length_append,
    List.length_cons, Text.length_zeroPadded (by decide : 0 < 4) year,
    Text.length_zeroPadded (by decide : 0 < 2) month,
    Text.length_zeroPadded (by decide : 0 < 2) day]

include firstYear secondYear in
/-- Later days have greater rendered dates while years have four digits. -/
theorem renderDate_lt_of_lt
    (earlier : first < second) :
    (renderDate (civilFromDays first)).toList <
      (renderDate (civilFromDays second)).toList := by
  obtain ⟨_, _, _, _⟩ := civilFromDays_bounds first
  obtain ⟨_, _, _, _⟩ := civilFromDays_bounds second
  obtain ⟨year, month, _⟩ := dateParts_small firstYear
  obtain ⟨year', month', day'⟩ := dateParts_small secondYear
  have yearLength :=
    (Text.length_zeroPadded (by decide : 0 < 4) year).trans
      (Text.length_zeroPadded (by decide : 0 < 4) year').symm
  have monthLength :=
    (Text.length_zeroPadded (by decide : 0 < 2) month).trans
      (Text.length_zeroPadded (by decide : 0 < 2) month').symm
  have before := civilFromDays_before earlier
  have nonnegative := firstYear.1
  rw [toList_renderDate firstYear, toList_renderDate secondYear]
  rcases before with earlierYear | ⟨sameYear, earlierMonth |
    ⟨sameMonth, earlierDay⟩⟩
  · exact Text.append_lt_append_of_length yearLength
      (Text.zeroPadded_lt_of_lt (by decide) year' (by omega)) _ _
  · rw [sameYear]
    refine List.append_left_lt (List.cons_lt_cons_self.mpr ?_)
    exact Text.append_lt_append_of_length monthLength
      (Text.zeroPadded_lt_of_lt (by decide) month' (by omega)) _ _
  · rw [sameYear, sameMonth]
    refine List.append_left_lt (List.cons_lt_cons_self.mpr
      (List.append_left_lt (List.cons_lt_cons_self.mpr ?_)))
    exact Text.zeroPadded_lt_of_lt (by decide) day' (by omega)

end FourDigits

/-- A rendered date consists of digits and signs. -/
theorem not_mem_renderDate
    {separator : Char}
    (notDigit : separator.isDigit = false)
    (notMinus : separator ≠ '-')
    (notPlus : separator ≠ '+')
    (date : CivilDate) :
    separator ∉ (renderDate date).toList := by
  have padded (width number : Nat) :=
    Text.not_mem_zeroPadded notDigit width number
  have year : separator ∉ (renderYear date.year).toList := by
    unfold renderYear
    split_ifs <;>
      simp [String.toList_append, padded, notMinus, notPlus]
  simp [renderDate, String.toList_append, year, padded, notMinus]

/-- A rendered date has no segment separator. -/
theorem slash_not_mem_renderDate
    (date : CivilDate) :
    '/' ∉ (renderDate date).toList :=
  not_mem_renderDate (by decide) (by decide) (by decide) date

end MarketIngest.Calendar
