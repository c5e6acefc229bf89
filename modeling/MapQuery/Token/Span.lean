/-!
# Places in a query

A span is a stretch of the query, given by the byte offsets of its two ends in UTF-8.

* `width` — how many bytes a piece of text takes.
* `Span` — start and end.
-/

namespace MapQuery

namespace Text

/-- The number of bytes that a text takes in UTF-8. -/
def width : List Char → Nat
  | [] => 0
  | c :: cs => c.utf8Size + width cs

@[simp] theorem width_nil : width [] = 0 := rfl

@[simp] theorem width_cons (c : Char) (cs : List Char) : width (c :: cs) = c.utf8Size + width cs := rfl

@[simp] theorem width_append (a b : List Char) : width (a ++ b) = width a + width b := by
  induction a with
  | nil => simp
  | cons c a ih => simp [ih, Nat.add_assoc]

end Text

/-- A stretch of the query, from the byte at `start` up to the byte before `stop`. -/
structure Span where
  start : Nat
  stop : Nat
  deriving DecidableEq, Repr, Inhabited

end MapQuery
