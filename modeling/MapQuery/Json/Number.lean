import MapQuery.Json.Basic
import MapQuery.Text.Ascii

/-!
# Numbers of a document

Whole numbers that fit in 64 bits are exact. Any other number is a double, found from the first digits
that fit in 64 bits and a power of ten: the digits are rounded to a double, which is multiplied or
divided by the power. Digits that do not fit only count for the power, or not at all after the point.

* `Numeral` — a number as it is written.
* `Numeral.doc` — its value.
* `readNumeral` — the number at the start of a text.
-/

namespace MapQuery.Json

/-- A number as it is written. -/
structure Numeral where
  negative : Bool
  whole : List Char
  /-- The digits after the point, if there is one. -/
  fraction : Option (List Char)
  /-- The sign and the digits of the exponent, if there is one. -/
  exponent : Option (Bool × List Char)

namespace Numeral

/-- The greatest number of 64 bits. -/
def greatest : Nat := 18446744073709551615

/-- Digits added to a number as long as it fits in 64 bits, and the digits that are left. -/
def fitting : Nat → List Char → Nat × List Char
  | n, [] => (n, [])
  | n, c :: cs =>
    let m := 10 * n + Ascii.digitValue c
    if m ≤ greatest then fitting m cs else (n, c :: cs)

/-- The power of ten as a double. -/
def power (k : Nat) : Float :=
  Float.ofScientific 1 false k

/-- A significand times a power of ten; `none` if it is too great. Small powers are taken in several
steps; `steps` bounds their number. -/
def scaled : (steps : Nat) → Float → Int → Option Float
  | 0, f, _ => some f
  | steps + 1, f, e =>
    if e.natAbs ≤ 308 then
      if 0 ≤ e then
        let g := f * power e.natAbs
        if g.isInf then none else some g
      else some (f / power e.natAbs)
    else if f == 0.0 then some f
    else if 0 ≤ e then none
    else scaled steps (f / power 308) (e + 308)

/-- The greatest exponent that is read; a greater one counts like this. -/
def exponentLimit : Nat := 2147483647

/-- The significand and the power of ten of a number, its written exponent apart. -/
def parts (n : Numeral) : Nat × Int :=
  let (m, extra) := fitting 0 n.whole
  let (m', rest) := fitting m (n.fraction.getD [])
  (m', extra.length - ((n.fraction.getD []).length - rest.length : Nat))

/-- The double of a number, its sign apart. -/
def magnitude? (n : Numeral) : Option Float :=
  let (m, e) := n.parts
  let significand := m.toUInt64.toFloat
  match n.exponent with
  | none => scaled 16 significand e
  | some (negative, digits) =>
    let k := Ascii.digitsValue digits
    if k ≤ exponentLimit then
      scaled 16 significand (if negative then max (e - k) (-2147483648) else min (e + k) exponentLimit)
    else if m ≠ 0 && !negative then none
    else some 0.0

/-- The value of a number. -/
def doc (n : Numeral) : Doc :=
  let m := Ascii.digitsValue n.whole
  let integral := n.fraction.isNone && n.exponent.isNone
  if integral && !n.negative && m ≤ greatest then .whole m
  else if integral && n.negative && 0 < m && m ≤ 9223372036854775808 then .whole (-m)
  else
    match n.magnitude? with
    | some f => .float (if n.negative then -f else f)
    | none => .flawed .malformed none

end Numeral

/-- A text begins with a decimal digit. -/
def startsWithDigit : List Char → Bool
  | c :: _ => Ascii.isDigit c
  | [] => false

/-- The fault of a text that should go on with a digit. -/
def digitFault (cs : List Char) : Fault :=
  if cs.isEmpty then .cutShort else .malformed

/-- The digits after a point, which a text may begin with. -/
def readFraction : List Char → Result (Option (List Char) × List Char)
  | '.' :: cs =>
    if startsWithDigit cs then .ok (some (cs.takeWhile Ascii.isDigit), cs.dropWhile Ascii.isDigit)
    else .error (digitFault cs)
  | cs => .ok (none, cs)

/-- A sign, which a text may begin with; true for minus. -/
def readSign : List Char → Bool × List Char
  | '+' :: cs => (false, cs)
  | '-' :: cs => (true, cs)
  | cs => (false, cs)

/-- An exponent, which a text may begin with. -/
def readExponent : List Char → Result (Option (Bool × List Char) × List Char)
  | c :: cs =>
    if c == 'e' || c == 'E' then
      let (negative, cs) := readSign cs
      if startsWithDigit cs then
        .ok (some (negative, cs.takeWhile Ascii.isDigit), cs.dropWhile Ascii.isDigit)
      else .error (digitFault cs)
    else .ok (none, c :: cs)
  | [] => .ok (none, [])

/-- The digits before the point: a single zero, or digits that begin with no zero. -/
def readWhole : List Char → Result (List Char × List Char)
  | '0' :: cs => if startsWithDigit cs then .error .malformed else .ok (['0'], cs)
  | cs =>
    if startsWithDigit cs then .ok (cs.takeWhile Ascii.isDigit, cs.dropWhile Ascii.isDigit)
    else .error (digitFault cs)

/-- The number at the start of a text, and the rest of the text. -/
def readNumeral (cs : List Char) : Result (Numeral × List Char) := do
  let (negative, cs) := match cs with
    | '-' :: rest => (true, rest)
    | _ => (false, cs)
  let (whole, cs) ← readWhole cs
  let (fraction, cs) ← readFraction cs
  let (exponent, cs) ← readExponent cs
  return (⟨negative, whole, fraction, exponent⟩, cs)

end MapQuery.Json
