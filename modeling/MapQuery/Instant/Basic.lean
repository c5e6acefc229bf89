import MapQuery.Instant.Civil

/-!
# Instants

A point in time in universal time. The sixtieth second of a minute, a leap second, is kept as the last
second before it with a billion nanoseconds or more.

* `Instant.millis` — milliseconds since the start of 1970, rounded down.
* `Instant.shown` — date and time, with as many of 0, 3, 6 or 9 digits of a second as are needed.
* `Instant.earliest` — the first instant that can be represented.
-/

namespace MapQuery

/-- Seconds since the start of 1970, and nanoseconds. -/
structure Instant where
  seconds : Int
  nanos : Nat
  deriving DecidableEq, Repr, Inhabited

namespace Instant

/-- The years that can be represented. -/
def firstYear : Int := -262143

/-- The last of the years that can be represented. -/
def lastYear : Int := 262142

/-- The instant at which a day begins. -/
def ofDate (d : Date) : Instant :=
  ⟨d.dayNumber * 86400, 0⟩

/-- The first instant of the first year. -/
def earliest : Instant :=
  ofDate ⟨firstYear, 1, 1⟩

/-- Milliseconds since the start of 1970. -/
def millis (i : Instant) : Int :=
  i.seconds * 1000 + i.nanos / 1000000

/-- Decimal digits, with zeros in front up to a width. -/
def padded (width n : Nat) : String :=
  let ds := Nat.toDigits 10 n
  String.ofList (List.replicate (width - ds.length) '0' ++ ds)

/-- A year of four digits, with a sign when it is not one from 0 to 9999. -/
def shownYear (year : Int) : String :=
  if 0 ≤ year ∧ year ≤ 9999 then padded 4 year.toNat
  else (if year < 0 then "-" else "+") ++ padded 4 year.natAbs

/-- The digits of a second, in groups of three as far as needed. -/
def shownFraction (nanos : Nat) : String :=
  if nanos = 0 then ""
  else if nanos % 1000000 = 0 then "." ++ padded 3 (nanos / 1000000)
  else if nanos % 1000 = 0 then "." ++ padded 6 (nanos / 1000)
  else "." ++ padded 9 nanos

/-- Date and time, ending in the letter of universal time. -/
def shown (i : Instant) : String :=
  let d := Date.ofDayNumber (i.seconds / 86400)
  let s := (i.seconds % 86400).toNat
  let leap := i.nanos / 1000000000
  shownYear d.year ++ "-" ++ padded 2 d.month ++ "-" ++ padded 2 d.day ++ "T" ++
    padded 2 (s / 3600) ++ ":" ++ padded 2 (s / 60 % 60) ++ ":" ++ padded 2 (s % 60 + leap) ++
    shownFraction (i.nanos % 1000000000) ++ "Z"

end Instant

end MapQuery
