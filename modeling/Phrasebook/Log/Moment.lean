import Phrasebook.Text.Basic

/-!
# Moments

A moment in time and its place in the calendar: the day of the year, the day of the week, and
the weeks of the year. Weeks are counted in three ways. Two of them begin week one at the
first Sunday or at the first Monday of the year; in the third a week begins on a Monday and
belongs to the year that holds its Thursday.
-/

namespace Phrasebook.Log

/-- A moment in time. Months and days are counted from one. -/
structure Moment where
  year : Nat
  month : Nat
  day : Nat
  hour : Nat
  minute : Nat
  second : Nat
  millisecond : Nat
deriving DecidableEq

namespace Moment

/-- The moment from which time is counted. -/
def epoch : Moment := ⟨1970, 1, 1, 0, 0, 0, 0⟩

/-- Whether a year has a day more than others. -/
def isLeapYear (year : Nat) : Bool :=
  year % 4 == 0 && (year % 100 != 0 || year % 400 == 0)

/-- The lengths of the months of a year. -/
def monthLengths (year : Nat) : List Nat :=
  [31, if isLeapYear year then 29 else 28, 31, 30, 31, 30, 31, 31, 30, 31, 30, 31]

/-- The length of a year. -/
def yearLength (year : Nat) : Nat :=
  if isLeapYear year then 366 else 365

/-- The number of days from the beginning of the year 1 to that of another year. -/
def daysBeforeYear (year : Nat) : Nat :=
  let past := year - 1
  365 * past + past / 4 - past / 100 + past / 400

/-- The number of days of a year before a month. -/
def daysBeforeMonth (year month : Nat) : Nat :=
  ((monthLengths year).take (month - 1)).foldl (· + ·) 0

/-- The day of the year, counted from zero. -/
def dayOfYear (m : Moment) : Nat :=
  daysBeforeMonth m.year m.month + (m.day - 1)

/-- The day of the week, counted from zero and from Sunday. The first day of the year 1 was a
Monday. -/
def weekday (m : Moment) : Nat :=
  (daysBeforeYear m.year + m.dayOfYear + 1) % 7

/-- The day of the week, counted from zero and from Monday. -/
def weekdayFromMonday (m : Moment) : Nat :=
  (m.weekday + 6) % 7

/-- The week of the year, where the first Sunday begins week one. -/
def sundayWeek (m : Moment) : Nat :=
  (m.dayOfYear + 7 - m.weekday) / 7

/-- The week of the year, where the first Monday begins week one. -/
def mondayWeek (m : Moment) : Nat :=
  (m.dayOfYear + 7 - m.weekdayFromMonday) / 7

/-- The year that holds the Thursday of the week, and the number of the week in that year. -/
def thursdayWeek (m : Moment) : Nat × Nat :=
  let ahead := m.dayOfYear + 3
  if ahead < m.weekdayFromMonday then
    let thursday := yearLength (m.year - 1) + ahead - m.weekdayFromMonday
    (m.year - 1, thursday / 7 + 1)
  else
    let thursday := ahead - m.weekdayFromMonday
    if thursday < yearLength m.year then (m.year, thursday / 7 + 1) else (m.year + 1, 1)

/-- The number of seconds from the epoch. -/
def seconds (m : Moment) : Int :=
  let days : Int := (daysBeforeYear m.year + m.dayOfYear : Nat) - (daysBeforeYear 1970 : Nat)
  ((days * 24 + m.hour) * 60 + m.minute) * 60 + m.second

/-- The hour of one half of the day, from one to twelve. -/
def hourOfHalf (m : Moment) : Nat :=
  if m.hour % 12 = 0 then 12 else m.hour % 12

/-- The names of the days of the week, from Sunday. -/
def weekdayNames : List Text := [
  "Sunday".toList, "Monday".toList, "Tuesday".toList, "Wednesday".toList, "Thursday".toList,
  "Friday".toList, "Saturday".toList]

/-- The names of the months. -/
def monthNames : List Text := [
  "January".toList, "February".toList, "March".toList, "April".toList, "May".toList,
  "June".toList, "July".toList, "August".toList, "September".toList, "October".toList,
  "November".toList, "December".toList]

/-- The name of the day of the week. -/
def weekdayName (m : Moment) : Text :=
  weekdayNames.getD m.weekday []

/-- The name of the month. -/
def monthName (m : Moment) : Text :=
  monthNames.getD (m.month - 1) []

end Moment

end Phrasebook.Log
