/-!
# Lengths of time

* `elapsedText` — a length of time in the greatest unit that it fills.
-/

namespace MapQuery.Console

/-- The units of time with their numbers of nanoseconds, the greatest first. -/
def timeUnits : List (Nat × String) :=
  [(1000000000, "s"), (1000000, "ms"), (1000, "µs")]

/-- Decimal digits without the zeros at their end. -/
def significant (ds : List Char) : List Char :=
  (ds.reverse.dropWhile (· = '0')).reverse

/-- A part of a unit in decimal digits, behind a point, unless it is nothing. -/
def fractionText (part whole : Nat) : String :=
  let places := (toString whole).length - 1
  let ds := (toString part).toList
  let ds := significant (List.replicate (places - ds.length) '0' ++ ds)
  if ds.isEmpty then "" else String.ofList ('.' :: ds)

/-- A length of time in the greatest unit that it fills. -/
def elapsedText (nanos : Nat) : String :=
  match timeUnits.find? fun (size, _) => size ≤ nanos with
  | some (size, name) => toString (nanos / size) ++ fractionText (nanos % size) size ++ name
  | none => toString nanos ++ "ns"

end MapQuery.Console
