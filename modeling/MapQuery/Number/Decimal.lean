import MapQuery.Text.Ascii

/-!
# Decimal numbers

A number as people write it, and the double nearest to it.

* `Decimal` — a sign, a whole number and a power of ten.
* `Decimal.read?` — sign, digits with a point among or around them, and an exponent.
* `Decimal.toFloat` — the nearest double.
-/

namespace MapQuery

/-- The number `± digits · 10 ^ exponent`. -/
structure Decimal where
  negative : Bool
  digits : Nat
  exponent : Int
  deriving DecidableEq, Repr, Inhabited

namespace Decimal

/-- The number of decimal digits, one for zero. -/
def length (n : Nat) : Nat :=
  (Nat.toDigits 10 n).length

/-- The sign in front, and what follows it. -/
def splitSign : List Char → Bool × List Char
  | '-' :: cs => (true, cs)
  | '+' :: cs => (false, cs)
  | cs => (false, cs)

/-- An exponent: nothing, or the letter `e`, an optional sign and digits. -/
def readExponent? : List Char → Option Int
  | [] => some 0
  | c :: cs =>
    if c == 'e' || c == 'E' then
      let (negative, ds) := splitSign cs
      if !ds.isEmpty && ds.all Ascii.isDigit then
        let n : Int := Ascii.digitsValue ds
        some (if negative then -n else n)
      else none
    else none

/-- Digits with at most one point among or around them, at least one digit, then an exponent. -/
def readUnsigned? (negative : Bool) (cs : List Char) : Option Decimal :=
  let whole := cs.takeWhile Ascii.isDigit
  let rest := cs.dropWhile Ascii.isDigit
  let (fraction, rest) :=
    match rest with
    | '.' :: r => (r.takeWhile Ascii.isDigit, r.dropWhile Ascii.isDigit)
    | r => ([], r)
  if whole.isEmpty && fraction.isEmpty then none
  else
    (readExponent? rest).map fun e =>
      ⟨negative, Ascii.digitsValue (whole ++ fraction), e - fraction.length⟩

/-- A number with an optional sign. -/
def read? (cs : List Char) : Option Decimal :=
  readUnsigned? (splitSign cs).1 (splitSign cs).2

/-- The double nearest to the number, the even one of two that are equally near. The greatest finite
double is below `10 ^ 309` and the least positive one above `10 ^ -324`. -/
def toFloat (d : Decimal) : Float :=
  let size := (length d.digits : Int) + d.exponent
  let magnitude : Float :=
    if d.digits = 0 ∨ size < -330 then 0
    else if size > 310 then 1 / 0
    else Float.ofScientific d.digits (d.exponent < 0) d.exponent.natAbs
  if d.negative then -magnitude else magnitude

end Decimal

end MapQuery
