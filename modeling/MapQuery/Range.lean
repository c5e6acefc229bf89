import MapQuery.Number.Whole

/-!
# Ranges of whole numbers

An inclusive interval. Its ends are in order by construction, whichever was given first.

* `Range.between` — the interval between two numbers.
* `Range.contains` — membership.
* `Range.shown` — the written form `start-stop`.
-/

namespace MapQuery

/-- An inclusive interval of whole numbers. -/
structure Range where
  start : Int
  stop : Int
  start_le_stop : start ≤ stop
  deriving DecidableEq

namespace Range

/-- The interval between two numbers, in either order. -/
def between (a b : Int) : Range where
  start := min a b
  stop := max a b
  start_le_stop := by omega

/-- Whether the interval holds a number, its ends included. -/
def contains (r : Range) (n : Int) : Bool :=
  r.start ≤ n && n ≤ r.stop

theorem between_comm (a b : Int) : between a b = between b a := by
  simp [between, Int.min_comm, Int.max_comm]

theorem contains_iff {r : Range} {n : Int} : r.contains n = true ↔ r.start ≤ n ∧ n ≤ r.stop := by
  simp [contains]

/-- Both ends with a dash between them. -/
def shown (r : Range) : String :=
  toString r.start ++ "-" ++ toString r.stop

instance : Inhabited Range :=
  ⟨between 0 0⟩

end Range

end MapQuery
