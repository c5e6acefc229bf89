/-!
# Days of the calendar

Dates of the Gregorian calendar, extended to all years, and the number of days that they are away
from the first of January 1970.

* `Date.IsValid` — the month exists, and so does the day in it.
* `Date.dayNumber` — days since the first of January 1970.
* `Date.ofDayNumber` — the date of such a number.
-/

namespace MapQuery

/-- A year, a month and a day. -/
structure Date where
  year : Int
  month : Nat
  day : Nat
  deriving DecidableEq, Repr, Inhabited

namespace Date

/-- Every fourth year is a leap year, except full centuries that no 400 divides. -/
def isLeap (year : Int) : Bool :=
  year % 4 == 0 && (year % 100 != 0 || year % 400 == 0)

/-- The number of days of a month. -/
def daysIn (year : Int) (month : Nat) : Nat :=
  if month = 2 then (if isLeap year then 29 else 28)
  else if month = 4 ∨ month = 6 ∨ month = 9 ∨ month = 11 then 30
  else 31

/-- The month exists, and so does the day in it. -/
def IsValid (d : Date) : Prop :=
  1 ≤ d.month ∧ d.month ≤ 12 ∧ 1 ≤ d.day ∧ d.day ≤ daysIn d.year d.month

instance (d : Date) : Decidable d.IsValid :=
  inferInstanceAs (Decidable (_ ∧ _))

/-- The days since the first of January 1970. Years are counted from the first of March, so that the
leap day is the last of its year. -/
def dayNumber (d : Date) : Int :=
  let y := if d.month ≤ 2 then d.year - 1 else d.year
  let m : Int := if d.month ≤ 2 then d.month + 9 else d.month - 3
  365 * y + y / 4 - y / 100 + y / 400 + (153 * m + 2) / 5 + d.day - 719469

/-- The date of a number of days. -/
def ofDayNumber (n : Int) : Date :=
  let z := n + 719468
  let era := z / 146097
  let dayOfEra := z % 146097
  let yearOfEra := (dayOfEra - dayOfEra / 1460 + dayOfEra / 36524 - dayOfEra / 146096) / 365
  let dayOfYear := dayOfEra - (365 * yearOfEra + yearOfEra / 4 - yearOfEra / 100)
  let m := (5 * dayOfYear + 2) / 153
  let year := yearOfEra + 400 * era
  ⟨if m < 10 then year else year + 1, (if m < 10 then m + 3 else m - 9).toNat,
    (dayOfYear - (153 * m + 2) / 5 + 1).toNat⟩

end Date

end MapQuery
