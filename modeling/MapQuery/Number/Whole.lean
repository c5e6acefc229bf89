import MapQuery.Text.Ascii

/-!
# Whole numbers of 64 bits

Identifiers, counts and the numbers written in a query are whole numbers between `least` and
`greatest`, the signed range of 64 bits.

* `Fits` — the numbers of the range; `checked` is the number if it is one of them.
* `read?` — an optional sign and decimal digits, refused outside the range.
-/

namespace MapQuery.Whole

/-- The least number of 64 bits. -/
def least : Int :=
  -9223372036854775808

/-- The greatest number of 64 bits. -/
def greatest : Int :=
  9223372036854775807

/-- Numbers that fit into 64 bits. -/
def Fits (n : Int) : Prop :=
  least ≤ n ∧ n ≤ greatest

instance (n : Int) : Decidable (Fits n) :=
  inferInstanceAs (Decidable (_ ∧ _))

/-- The number, if it fits. -/
def checked (n : Int) : Option Int :=
  if Fits n then some n else none

/-- Digits only, and at least one. -/
def readDigits? (cs : List Char) : Option Nat :=
  if !cs.isEmpty && cs.all Ascii.isDigit then some (Ascii.digitsValue cs) else none

/-- A number as it is written in a query: an optional sign, then digits, in range. -/
def read? : List Char → Option Int
  | '-' :: ds => (readDigits? ds).bind fun n => checked (-n)
  | '+' :: ds => (readDigits? ds).bind fun n => checked n
  | ds => (readDigits? ds).bind fun n => checked n

theorem fits_of_checked {n m : Int} (h : checked n = some m) : Fits m := by
  unfold checked at h
  split at h
  · cases h; assumption
  · cases h

/-- A number that was read fits. -/
theorem fits_of_read? {cs : List Char} {n : Int} (h : read? cs = some n) : Fits n := by
  unfold read? at h
  split at h <;>
    · obtain ⟨m, _, h⟩ := Option.bind_eq_some_iff.1 h
      exact fits_of_checked h

/-- The absolute value, kept in range. -/
def saturatingAbs (n : Int) : Int :=
  min (n.natAbs : Int) greatest

end MapQuery.Whole
