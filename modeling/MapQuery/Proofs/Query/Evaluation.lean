import MapQuery.Query.Evaluate

/-!
# Evaluation is the meaning of a query

A query is evaluated along its right operands, with the negations that have been met carried along, and
the left operands decide how far. What comes out is the meaning of the query, operand by operand.

* `Query.walk_eq` — what is carried along.
* `Query.holds_eq_satisfied` — whether a primitive matches.
-/

namespace MapQuery

namespace Query

variable {P : Type} [Primitive P]

/-- Evaluating along the right operands turns the meaning of a query over where `flip` is set. The
induction is on the query, for every `flip` and every primitive: a left operand starts again without
negations, and so do the queries about the primitives around. -/
theorem walk_eq (q : Query) (flip : Bool) (p : P) : q.walk flip p = (flip ^^ q.satisfied p) := by
  induction q generalizing flip p with
  | not q ih =>
    show q.walk (!flip) p = (flip ^^ !q.satisfied p)
    rw [ih, Bool.not_xor, Bool.xor_not]
  | join o left right ihleft ihright =>
    have hleft : left.walk false p = left.satisfied p := by rw [ihleft, Bool.false_xor]
    cases o with
    | and =>
      show (if left.walk false p then right.walk flip p else flip) =
        (flip ^^ (left.satisfied p && right.satisfied p))
      rw [hleft, ihright]
      cases left.satisfied p with
      | true => rfl
      | false => exact (Bool.xor_false flip).symm
    | or =>
      show (if left.walk false p then !flip else right.walk flip p) =
        (flip ^^ (left.satisfied p || right.satisfied p))
      rw [hleft, ihright]
      cases left.satisfied p with
      | true => exact (Bool.xor_true flip).symm
      | false => rfl
    | xor =>
      show right.walk (flip ^^ left.walk false p) p =
        (flip ^^ (left.satisfied p ^^ right.satisfied p))
      rw [hleft, ihright, Bool.xor_assoc]
  | parent q ih =>
    have hq : q.walk false = q.satisfied (P := P) := funext fun c => by rw [ih, Bool.false_xor]
    show (flip ^^ (Primitive.children p).any (q.walk false)) = _
    rw [hq]
    rfl
  | child q ih =>
    have hq : q.walk false = q.satisfied (P := P) := funext fun c => by rw [ih, Bool.false_xor]
    show (flip ^^ (Primitive.referrers p).any (q.walk false)) = _
    rw [hq]
    rfl
  | _ => rfl

theorem holds_eq_satisfied (q : Query) (p : P) : q.holds p = q.satisfied p := by
  rw [holds, walk_eq, Bool.false_xor]

theorem holds_eq (q : Query) : q.holds (P := P) = q.satisfied :=
  funext q.holds_eq_satisfied

/-- Some direct child has a property. Nodes have no children. -/
theorem any_children (f : P → Bool) (p : P) :
    (Primitive.children p).any f =
      match Primitive.kind p with
      | .node => false
      | .way => (Primitive.wayNodes p).any f
      | .relation => (Primitive.members p).any fun m => f m.2 := by
  unfold Primitive.children
  cases Primitive.kind p with
  | node => rfl
  | way => rfl
  | relation => exact List.any_map

/-- Evaluating a query gives its meaning, which is put together from the answers of its parts. A negation
is the opposite of its operand, and an operator works on the answers of both operands. A query about
children asks for a node of a way or a member of a relation, and has no children to ask at a node; one
about parents asks for a way or relation that lists the primitive. Anything else has a rule of its own. -/
theorem holds_by_parts (q : Query) (p : P) :
    q.holds p = q.satisfied p ∧
      q.holds p =
        match q with
        | not q => !q.holds p
        | join .and left right => left.holds p && right.holds p
        | join .or left right => left.holds p || right.holds p
        | join .xor left right => left.holds p ^^ right.holds p
        | parent q =>
          match Primitive.kind p with
          | .node => false
          | .way => (Primitive.wayNodes p).any q.holds
          | .relation => (Primitive.members p).any fun m => q.holds m.2
        | child q => (Primitive.referrers p).any q.holds
        | leaf => leaf.leafHolds p := by
  refine ⟨holds_eq_satisfied q p, ?_⟩
  simp only [holds_eq]
  cases q with
  | join o left right => cases o <;> rfl
  | parent q => exact any_children q.satisfied p
  | _ => rfl

end Query

end MapQuery
