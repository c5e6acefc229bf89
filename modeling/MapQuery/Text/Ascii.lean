/-!
# ASCII letters and digits

Keywords, operator words and kind names are compared without regard to the case of the letters `A` to
`Z`; no other character is folded.

* `lower` — the lower-case form of one ASCII letter.
* `sameWord` — equality up to ASCII case.
* `isDigit` — `0` to `9`.
-/

namespace MapQuery.Ascii

/-- The lower-case form of an ASCII letter; other characters stay. -/
def lower (c : Char) : Char :=
  c.toLower

/-- Two texts are equal up to the case of ASCII letters. -/
def sameWord (a b : List Char) : Bool :=
  a.map lower == b.map lower

/-- Two strings are equal up to the case of ASCII letters. -/
def same (a b : String) : Bool :=
  sameWord a.toList b.toList

/-- A decimal digit of ASCII. -/
def isDigit (c : Char) : Bool :=
  c.isDigit

/-- The value of a decimal digit. -/
def digitValue (c : Char) : Nat :=
  c.toNat - 48

/-- The number written by a run of decimal digits, the first the most significant. -/
def digitsValue (cs : List Char) : Nat :=
  cs.foldl (fun n c => 10 * n + digitValue c) 0

end MapQuery.Ascii
