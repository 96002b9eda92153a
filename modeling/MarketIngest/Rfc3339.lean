import MarketIngest.Calendar
import MarketIngest.TextSearch

namespace MarketIngest.Calendar

/-!
# Instants as text

An instant of UTC in whole seconds is written as a date and a time of day with
fixed widths.  Reading the text of an hour of a day gives the hour back.
-/

/-- Read a number of exactly so many digits. -/
def scanNumber
    (width : Nat)
    (text : List Char) : Option (Nat × List Char) :=
  if (text.take width).length = width then
    (Text.parseDigits? (text.take width)).map fun number =>
      (number, text.drop width)
  else
    none

/-- Read one given character. -/
def scanChar (expected : Char) : List Char → Option (List Char)
  | [] => none
  | char :: rest => if char = expected then some rest else none

/-- The date exists: it is the date of its own day. -/
def CivilDate.Exists (date : CivilDate) : Prop :=
  civilFromDays (daysFromCivil date) = date

/-- Whether a date exists is decided by its day. -/
instance (date : CivilDate) : Decidable date.Exists :=
  inferInstanceAs (Decidable (civilFromDays (daysFromCivil date) = date))

/-- A time of day in whole seconds, with room for a leap second. -/
structure TimeOfDay where
  hour : Nat
  minute : Nat
  second : Nat
  deriving Repr, DecidableEq

/-- The instant, counted in milliseconds, of a date and a time of day. -/
def instantMs (date : CivilDate) (time : TimeOfDay) : Option Int :=
  if date.Exists ∧ time.hour ≤ 23 ∧ time.minute ≤ 59 ∧ time.second ≤ 60 then
    some (daysFromCivil date * 86400000 +
      (time.hour * 3600000 + time.minute * 60000 + time.second * 1000))
  else
    none

/-- Read a date of fixed width. -/
def scanDate (text : List Char) : Option (CivilDate × List Char) := do
  let (year, text) ← scanNumber 4 text
  let text ← scanChar '-' text
  let (month, text) ← scanNumber 2 text
  let text ← scanChar '-' text
  let (day, text) ← scanNumber 2 text
  return ({ year := year, month := month, day := day }, text)

/-- Read a time of day of fixed width. -/
def scanTime (text : List Char) : Option (TimeOfDay × List Char) := do
  let (hour, text) ← scanNumber 2 text
  let text ← scanChar ':' text
  let (minute, text) ← scanNumber 2 text
  let text ← scanChar ':' text
  let (second, text) ← scanNumber 2 text
  return ({ hour := hour, minute := minute, second := second }, text)

/-- The milliseconds of an RFC 3339 text of UTC in whole seconds. -/
def parseFromRfc3339 (text : List Char) : Option Int := do
  let (date, text) ← scanDate text
  let text ← scanChar 'T' text
  let (time, text) ← scanTime text
  let text ← scanChar 'Z' text
  if text = [] then instantMs date time else none

/-- A padded numeral is read up to its width. -/
theorem scanNumber_zeroPadded
    {width number : Nat}
    (positive : 0 < width)
    (small : number < 10 ^ width)
    (rest : List Char) :
    scanNumber width ((Text.zeroPadded width number).toList ++ rest) =
      some (number, rest) := by
  have length := Text.length_zeroPadded positive small
  rw [scanNumber, List.take_left' length, List.drop_left' length,
    if_pos length, Text.parseDigits?_zeroPadded]
  rfl

/-- The expected character is read. -/
theorem scanChar_cons
    (char : Char)
    (rest : List Char) :
    scanChar char (char :: rest) = some rest :=
  if_pos rfl

/-- The date of a day exists. -/
theorem exists_civilFromDays
    (days : Int) :
    (civilFromDays days).Exists := by
  rw [CivilDate.Exists, daysFromCivil_civilFromDays]

/-- A rendered date with a year of four digits is read. -/
theorem scanDate_renderDate
    {days : Int}
    (fourDigits : (civilFromDays days).FourDigitYear)
    (rest : List Char) :
    scanDate ((renderDate (civilFromDays days)).toList ++ rest) =
      some (civilFromDays days, rest) := by
  obtain ⟨_, _, _, _⟩ := civilFromDays_bounds days
  have shape := toList_renderDate fourDigits
  obtain ⟨_, _⟩ := fourDigits
  have year : (civilFromDays days).year.natAbs < 10 ^ 4 := by omega
  have month : (civilFromDays days).month.natAbs < 10 ^ 2 := by omega
  have day : (civilFromDays days).day.natAbs < 10 ^ 2 := by omega
  have date :
      CivilDate.mk (civilFromDays days).year.natAbs
          (civilFromDays days).month.natAbs
          (civilFromDays days).day.natAbs =
        civilFromDays days := by
    rw [Int.natAbs_of_nonneg (by omega), Int.natAbs_of_nonneg (by omega),
      Int.natAbs_of_nonneg (by omega)]
  rw [shape]
  simp only [List.append_assoc, List.cons_append, scanDate,
    scanNumber_zeroPadded (by decide : 0 < 4) year,
    scanNumber_zeroPadded (by decide : 0 < 2) month,
    scanNumber_zeroPadded (by decide : 0 < 2) day, scanChar_cons,
    Option.bind_eq_bind, Option.bind_some, Option.pure_def, date]

/-- A time of day of fixed width is read. -/
theorem scanTime_render
    {time : TimeOfDay}
    (hour : time.hour ≤ 23)
    (minute : time.minute ≤ 59)
    (second : time.second ≤ 60)
    (rest : List Char) :
    scanTime
        ((Text.zeroPadded 2 time.hour).toList ++ ':' ::
          ((Text.zeroPadded 2 time.minute).toList ++ ':' ::
            ((Text.zeroPadded 2 time.second).toList ++ rest))) =
      some (time, rest) := by
  have short {number : Nat} (small : number ≤ 60) : number < 10 ^ 2 := by
    omega
  simp only [scanTime, scanChar_cons,
    scanNumber_zeroPadded (by decide : 0 < 2) (short (hour.trans (by decide))),
    scanNumber_zeroPadded (by decide : 0 < 2)
      (short (minute.trans (by decide))),
    scanNumber_zeroPadded (by decide : 0 < 2) (short second),
    Option.bind_eq_bind, Option.bind_some, Option.pure_def]

/-- Reading the text of the start of an hour gives the start of the hour. -/
theorem parseFromRfc3339_hour
    {days : Int}
    {hour : Nat}
    (fourDigits : (civilFromDays days).FourDigitYear)
    (inDay : hour ≤ 23) :
    parseFromRfc3339
        ((renderDate (civilFromDays days)).toList ++ 'T' ::
          ((Text.zeroPadded 2 hour).toList ++ ":00:00Z".toList)) =
      some (days * 86400000 + hour * 3600000) := by
  have fullHour :
      ":00:00Z".toList =
        ':' :: ((Text.zeroPadded 2 0).toList ++ ':' ::
          ((Text.zeroPadded 2 0).toList ++ ['Z'])) := by
    simp [Text.zeroPadded, List.leftpad]
  have time :
      scanTime
          ((Text.zeroPadded 2 hour).toList ++ ":00:00Z".toList) =
        some ({ hour := hour, minute := 0, second := 0 }, ['Z']) := by
    rw [fullHour]
    exact @scanTime_render { hour := hour, minute := 0, second := 0 } inDay
      (Nat.zero_le 59) (Nat.zero_le 60) ['Z']
  rw [parseFromRfc3339, scanDate_renderDate fourDigits, Option.bind_eq_bind,
    Option.bind_some]
  simp only [scanChar_cons, time, Option.bind_eq_bind, Option.bind_some,
    if_true]
  rw [instantMs,
    if_pos ⟨exists_civilFromDays days, inDay, Nat.zero_le 59,
      Nat.zero_le 60⟩,
    daysFromCivil_civilFromDays]
  simp

example :
    parseFromRfc3339 "2024-02-29T05:00:00Z".toList =
      some 1709182800000 := by
  decide

example : parseFromRfc3339 "2023-02-29T05:00:00Z".toList = none := by
  decide

end MarketIngest.Calendar
