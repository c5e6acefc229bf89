import MapQuery.Query.Evaluate

/-!
# How deep a query is

A query is walked along its right operands in a loop, and everything else inside of it takes a call. The
rank of a query bounds how deep these calls go, however long its chains of right operands are.

* `Query.rank` — the rank.
* `Query.walkWithin` — evaluation with a limit on the depth of calls.
* `Query.walkWithin_eq` — up to its rank as a limit, a query is evaluated as without one.
-/

namespace MapQuery

namespace Query

/-- The depth of calls when a query is walked. A right operand takes no call. -/
def rank : Query → Nat
  | not q => q.rank + 1
  | join _ left right => max (left.rank + 1) right.rank
  | parent q => q.rank + 1
  | child q => q.rank + 1
  | _ => 0

variable {P : Type} [Primitive P]

/-- Whether a primitive matches, or does not match if `flip` is set, with at most `depth` calls inside each
other. A negation and a right operand go on in the same call. Nothing comes out where a call would be too
deep. -/
def walkWithin : Query → (depth : Nat) → (flip : Bool) → P → Option Bool
  | not q, depth, flip, p => q.walkWithin depth (!flip) p
  | join _ _ _, 0, _, _ => none
  | join o left right, depth + 1, flip, p => do
    let isLeft ← left.walkWithin depth false p
    match o with
    | .and => if isLeft then right.walkWithin (depth + 1) flip p else return flip
    | .or => if isLeft then return !flip else right.walkWithin (depth + 1) flip p
    | .xor => right.walkWithin (depth + 1) (flip ^^ isLeft) p
  | parent _, 0, _, _ => none
  | parent q, depth + 1, flip, p => do
    return flip ^^ (← (Primitive.children p).anyM (q.walkWithin depth false))
  | child _, 0, _, _ => none
  | child q, depth + 1, flip, p => do
    return flip ^^ (← (Primitive.referrers p).anyM (q.walkWithin depth false))
  | q, _, flip, p => some (flip ^^ q.leafHolds p)

/-- Asking a list with answers that are all there. -/
theorem anyM_some {A : Type} (l : List A) (f : A → Bool) :
    l.anyM (m := Option) (fun a => some (f a)) = some (l.any f) := by
  induction l with
  | nil => rfl
  | cons a l ih =>
    rw [List.anyM_cons, ih, List.any_cons]
    show (if f a = true then some true else some (l.any f)) = _
    cases f a <;> rfl

/-- Where the limit is not below its rank, a query is evaluated as without a limit. The induction is on the
query, for every limit: a right operand has the rank of the whole at most, and what takes a call has less. -/
theorem walkWithin_eq (q : Query) {depth : Nat} (h : q.rank ≤ depth) (flip : Bool) (p : P) :
    q.walkWithin depth flip p = some (q.walk flip p) := by
  induction q generalizing depth flip p with
  | not q ih => exact ih (Nat.le_of_succ_le h) (!flip) p
  | join o left right ihleft ihright =>
    obtain ⟨hleft, hright⟩ := Nat.max_le.1 h
    cases depth with
    | zero => exact absurd hleft (Nat.not_succ_le_zero _)
    | succ depth =>
      rw [walkWithin, ihleft (Nat.le_of_succ_le_succ hleft)]
      cases o with
      | and =>
        show (if left.walk false p then right.walkWithin (depth + 1) flip p else some flip) =
          some (if left.walk false p then right.walk flip p else flip)
        rw [ihright hright]
        split <;> rfl
      | or =>
        show (if left.walk false p then some (!flip) else right.walkWithin (depth + 1) flip p) =
          some (if left.walk false p then !flip else right.walk flip p)
        rw [ihright hright]
        split <;> rfl
      | xor => exact ihright hright _ p
  | parent q ih =>
    cases depth with
    | zero => exact absurd h (Nat.not_succ_le_zero _)
    | succ depth =>
      have hq : q.walkWithin (P := P) depth false = fun c => some (q.walk false c) :=
        funext fun c => ih (Nat.le_of_succ_le_succ h) false c
      rw [walkWithin, hq, anyM_some]
      rfl
  | child q ih =>
    cases depth with
    | zero => exact absurd h (Nat.not_succ_le_zero _)
    | succ depth =>
      have hq : q.walkWithin (P := P) depth false = fun c => some (q.walk false c) :=
        funext fun c => ih (Nat.le_of_succ_le_succ h) false c
      rw [walkWithin, hq, anyM_some]
      rfl
  | _ => rfl

end Query

end MapQuery
