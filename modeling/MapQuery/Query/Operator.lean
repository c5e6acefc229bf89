/-!
# Operators between queries

* `Operator` — the three operators, which have equal precedence.
* `Operator.apply` — what they do to truth values.
-/

namespace MapQuery

/-- The operators that join two queries. -/
inductive Operator where
  | and
  | or
  | xor
  deriving DecidableEq, Repr, Inhabited

namespace Operator

/-- The sign of an operator in the short form of a query. -/
def symbol : Operator → String
  | and => "&&"
  | or => "||"
  | xor => "^"

/-- The name of an operator in the long form of a query. -/
def name : Operator → String
  | and => "And"
  | or => "Or"
  | xor => "Xor"

/-- The value of an operator on truth values. -/
def apply : Operator → Bool → Bool → Bool
  | and, a, b => a && b
  | or, a, b => a || b
  | xor, a, b => a ^^ b

/-- Every operator is associative. -/
theorem apply_assoc (o : Operator) (a b c : Bool) :
    o.apply (o.apply a b) c = o.apply a (o.apply b c) := by
  cases o <;> cases a <;> cases b <;> cases c <;> rfl

end Operator

end MapQuery
