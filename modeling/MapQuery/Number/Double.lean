import MapQuery.Number.Decimal
import MapQuery.Text.Blank

/-!
# Doubles

Numbers are compared by the order of their doubles, which puts the negative zero before the positive
one.

* `Double.key` — the place of a double in the order.
* `Double.number?` — the finite double that a text means, blanks around it apart.
* `Double.compareTexts` — the order of two texts, as numbers where both are numbers.
-/

namespace MapQuery.Double

/-- The bits of a double other than its sign. -/
def magnitude (f : Float) : Nat :=
  f.toBits.toNat % 9223372036854775808

/-- The sign bit. -/
def isNegative (f : Float) : Bool :=
  9223372036854775808 ≤ f.toBits.toNat

/-- The place of a double in the order: negative doubles run backwards, and the negative zero comes
just before the positive one. -/
def key (f : Float) : Int :=
  if isNegative f then -(magnitude f : Int) - 1 else magnitude f

/-- Neither infinite nor undefined. -/
def isFinite (f : Float) : Bool :=
  magnitude f < 0x7ff0000000000000

/-- The finite number that a text means. -/
def ofChars? (cs : List Char) : Option Float :=
  ((Decimal.read? (Text.trim cs)).map Decimal.toFloat).filter isFinite

/-- The finite number that a text means. -/
def number? (s : String) : Option Float :=
  ofChars? s.toList

/-- Compares a text with a reference whose number, if it is one, is given: as numbers where both are
numbers, and character by character otherwise. -/
def compareTexts (value reference : String) (number : Option Float) : Ordering :=
  match number? value, number with
  | some v, some r => compare (key v) (key r)
  | _, _ => compare value.toList reference.toList

/-- The nearest whole number of 64 bits, cut towards zero; what is not a number counts as zero. -/
def toWhole (f : Float) : Int :=
  f.toInt64.toInt

end MapQuery.Double
