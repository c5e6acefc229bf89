import MapQuery.Query.Copy
import MapQuery.Query.Inspected

/-!
# Forms that are made along the right operands

The short form, the long form and the copy of a query are made from left to right along its right operands.
What has to be closed or joined at the end is carried along, and nothing of it comes to stand in another
place: each of them is put together from those of the operands.

* `Query.along_eq`, `Query.spell_eq`, `Query.copyAlong_eq` — what is carried along.
* `Query.differs_iff` — the operands that stand in parentheses.
* `Query.forms_by_operands` — the forms and the copy, operand by operand.
-/

namespace MapQuery

/-- The last parenthesis that is opened is the first one that is closed. -/
theorem closing_succ (n : Nat) : closing (n + 1) = ")" ++ closing n := by
  unfold closing
  rw [List.replicate_succ, String.ofList_cons]
  rfl

/-- A text on its own, with nothing before it and nothing left open. -/
theorem closing_alone (s : String) : "" ++ s ++ closing 0 = s := by
  have hzero : closing 0 = "" := rfl
  rw [hzero, String.empty_append, String.append_empty]

namespace Query

/-! ### The short form -/

/-- Writing along the right operands closes whatever is open behind the query. The induction is on the query,
for every text before it: a left operand starts again with nothing open. -/
theorem along_eq (q : Query) (before : String) (unclosed : Nat) :
    q.along before unclosed = before ++ q.written ++ closing unclosed := by
  induction q generalizing before unclosed with
  | join o left right ihleft ihright =>
    rw [along, ihleft, closing_alone, written]
    cases hdiffers : right.differs o with
    | true =>
      rw [if_pos rfl, ihright, closing_succ]
      simp only [parenthesized, if_true, String.append_assoc]
    | false =>
      rw [if_neg Bool.false_ne_true, ihright]
      simp only [parenthesized, Bool.false_eq_true, if_false, String.append_assoc]
  | not q ih => rw [along, ih, closing_alone, written]
  | parent q ih => rw [along, ih, closing_alone, written]
  | child q ih => rw [along, ih, closing_alone, written]
  | _ => rfl

theorem shown_eq_written (q : Query) : q.shown = q.written := by
  rw [shown, along_eq, closing_alone]

/-! ### The long form -/

theorem spell_eq (q : Query) (before : String) (unclosed : Nat) :
    q.spell before unclosed = before ++ q.spelled ++ closing unclosed := by
  induction q generalizing before unclosed with
  | join o left right ihleft ihright =>
    rw [spell, ihleft, closing_alone, ihright, spelled, closing_succ]
    simp only [String.append_assoc]
  | not q ih => rw [spell, ih, closing_alone, spelled]
  | parent q ih => rw [spell, ih, closing_alone, spelled]
  | child q ih => rw [spell, ih, closing_alone, spelled]
  | _ => rfl

theorem inspected_eq_spelled (q : Query) : q.inspected = q.spelled := by
  rw [inspected, spell_eq, closing_alone]

/-! ### The copy -/

/-- What is copied is joined to the operators that wait as it would be itself. -/
theorem copyAlong_eq (q : Query) (waiting : List (Operator × Query)) :
    q.copyAlong waiting = rejoined waiting q := by
  induction q generalizing waiting with
  | join o left right ihleft ihright =>
    rw [copyAlong, ihleft, ihright]
    rfl
  | not q ih =>
    rw [copyAlong, ih]
    rfl
  | parent q ih =>
    rw [copyAlong, ih]
    rfl
  | child q ih =>
    rw [copyAlong, ih]
    rfl
  | _ => rfl

theorem copy_eq (q : Query) : q.copy = q :=
  copyAlong_eq q []

/-! ### Operand by operand -/

/-- An operand stands in parentheses exactly when it is joined by another operator. -/
theorem differs_iff {o : Operator} {q : Query} :
    q.differs o = true ↔ ∃ o' left right, o' ≠ o ∧ q = join o' left right := by
  constructor
  · intro h
    cases q with
    | join o' left right => exact ⟨o', left, right, of_decide_eq_true h, rfl⟩
    | _ => cases h
  · rintro ⟨o', left, right, ho, rfl⟩
    exact decide_eq_true ho

/-- The short form of operands with their operator between them has parentheses around an operand that is
joined by another operator, and around no other one. The long form has the operator in front of the operands.
The copy of a query is the query. All of this holds at every place inside a query too, since the forms are
those that are written operand by operand. -/
theorem forms_by_operands :
    (∀ q : Query, q.shown = q.written ∧ q.inspected = q.spelled ∧ q.copy = q) ∧
      (∀ (o : Operator) (left right : Query),
        (join o left right).shown =
            parenthesized (left.differs o) left.shown ++ " " ++ o.symbol ++ " " ++
              parenthesized (right.differs o) right.shown ∧
          (join o left right).inspected =
            o.name ++ "(" ++ left.inspected ++ ", " ++ right.inspected ++ ")" ∧
          (join o left right).copy = join o left.copy right.copy) ∧
      ∀ (o : Operator) (q : Query),
        q.differs o = true ↔ ∃ o' left right, o' ≠ o ∧ q = join o' left right := by
  refine ⟨fun q => ⟨shown_eq_written q, inspected_eq_spelled q, copy_eq q⟩, ?_, fun _ _ => differs_iff⟩
  intro o left right
  refine ⟨?_, ?_, ?_⟩
  · rw [shown_eq_written, shown_eq_written, shown_eq_written]
    rfl
  · rw [inspected_eq_spelled, inspected_eq_spelled, inspected_eq_spelled]
    rfl
  · rw [copy_eq, copy_eq, copy_eq]

example :
    (join .or (state .new) (join .and (join .or never (state .closed)) (join .or always (not never)))).shown =
      "new || ((never || closed) && (always || !never))" := by
  decide

end Query

end MapQuery
