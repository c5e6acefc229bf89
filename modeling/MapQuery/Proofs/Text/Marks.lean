import Mathlib.Data.List.Chain
import MapQuery.Text.Composed

/-!
# The order of combining marks

Marks are put in the order of their classes one after the other, from the last one to the first. A starter stays
where it is, and no mark goes past it, so that the order of a text is found piece by piece.

* `Ordered` — no mark stands behind one of a higher class.
* `placeMark_comm` — two marks of different classes may be put in place in either order.
* `orderMarks_move` — a mark may stand before or behind marks of lower classes.
* `orderMarks_append_congr` — what stands before a text does not matter for its order.
* `ordered_orderMarks`, `orderMarks_of_ordered` — what has been put in order is ordered, and stays as it is.
-/

namespace MapQuery.Text

variable {n m : Nat} {ns marks : List Nat}

/-- A character that other characters may be composed to, and that marks do not go past. -/
def IsStarter (n : Nat) : Prop :=
  combiningClass n = 0

/-- The second character may stand behind the first one. -/
def MayFollow (m n : Nat) : Prop :=
  IsStarter n ∨ combiningClass m ≤ combiningClass n

/-- No mark stands behind one of a higher class. -/
def Ordered (ns : List Nat) : Prop :=
  ns.IsChain MayFollow

/-- All of ASCII are starters. -/
theorem isStarter_of_lt (h : n < 0x300) : IsStarter n :=
  if_pos h

/-! ### One mark -/

theorem placeMark_of_isStarter (h : IsStarter n) (ns : List Nat) : placeMark n ns = n :: ns := by
  cases ns with
  | nil => rfl
  | cons m ms => exact if_neg fun hpast => hpast.1 h

/-- A mark stops before a character that it may not go past. -/
theorem placeMark_cons_of_not (h : ¬ (combiningClass m ≠ 0 ∧ combiningClass m < combiningClass n))
    (ns : List Nat) : placeMark n (m :: ns) = n :: m :: ns :=
  if_neg fun hpast => h hpast.2

/-- A mark goes past a mark of a lower class. -/
theorem placeMark_cons_of_lt (hmark : combiningClass m ≠ 0) (h : combiningClass m < combiningClass n)
    (ns : List Nat) : placeMark n (m :: ns) = m :: placeMark n ns := by
  have hpast : combiningClass n ≠ 0 := by omega
  exact if_pos ⟨hpast, hmark, h⟩

/-- Two marks of different classes are put in place in either order. -/
theorem placeMark_comm (hmark : combiningClass m ≠ 0) (h : combiningClass m < combiningClass n)
    (ns : List Nat) : placeMark m (placeMark n ns) = placeMark n (placeMark m ns) := by
  have hstops : ∀ ms, placeMark m (n :: ms) = m :: n :: ms := fun ms => placeMark_cons_of_not (by omega) ms
  induction ns with
  | nil =>
    show placeMark m [n] = placeMark n [m]
    rw [hstops, placeMark_cons_of_lt hmark h]
    rfl
  | cons k ks ih =>
    by_cases hk : combiningClass k ≠ 0 ∧ combiningClass k < combiningClass m
    · -- Both go past the first character.
      have hkn : combiningClass k < combiningClass n := by omega
      rw [placeMark_cons_of_lt hk.1 hkn, placeMark_cons_of_lt hk.1 hk.2, placeMark_cons_of_lt hk.1 hk.2,
        placeMark_cons_of_lt hk.1 hkn, ih]
    · -- The lower mark stops before the first character, and the higher one comes behind it in any case.
      rw [placeMark_cons_of_not hk, placeMark_cons_of_lt hmark h]
      by_cases hkn : combiningClass k ≠ 0 ∧ combiningClass k < combiningClass n
      · rw [placeMark_cons_of_lt hkn.1 hkn.2, placeMark_cons_of_not hk]
      · rw [placeMark_cons_of_not hkn, hstops]

/-- No mark goes past a starter at the end of a text. -/
theorem placeMark_concat (h : IsStarter n) (m : Nat) (ns : List Nat) :
    placeMark m (ns ++ [n]) = placeMark m ns ++ [n] := by
  induction ns with
  | nil =>
    have hstops : ¬ (combiningClass n ≠ 0 ∧ combiningClass n < combiningClass m) := fun hpast => hpast.1 h
    exact placeMark_cons_of_not hstops []
  | cons k ks ih =>
    rw [List.cons_append]
    by_cases hk : combiningClass k ≠ 0 ∧ combiningClass k < combiningClass m
    · rw [placeMark_cons_of_lt hk.1 hk.2, placeMark_cons_of_lt hk.1 hk.2, ih, List.cons_append]
    · rw [placeMark_cons_of_not hk, placeMark_cons_of_not hk, List.cons_append, List.cons_append]

theorem perm_placeMark (n : Nat) (ns : List Nat) : (placeMark n ns).Perm (n :: ns) := by
  induction ns with
  | nil => exact .refl _
  | cons m ms ih =>
    unfold placeMark
    split
    · exact (ih.cons m).trans (.swap n m ms)
    · exact .refl _

/-- A mark that is put into an ordered text leaves it ordered. -/
theorem Ordered.placeMark (h : Ordered ns) (n : Nat) : Ordered (placeMark n ns) := by
  induction ns with
  | nil => exact .singleton n
  | cons m ms ih =>
    unfold Text.placeMark
    split
    · next hpast =>
      have htail : Ordered (Text.placeMark n ms) := ih h.tail
      cases ms with
      | nil => exact .cons_cons (.inr (Nat.le_of_lt hpast.2.2)) htail
      | cons k ks =>
        have hmk : MayFollow m k := h.rel
        unfold Text.placeMark at htail ⊢
        split
        · next hk =>
          rw [if_pos hk] at htail
          exact .cons_cons hmk htail
        · next hk =>
          rw [if_neg hk] at htail
          exact .cons_cons (.inr (Nat.le_of_lt hpast.2.2)) htail
    · next hpast =>
      refine .cons_cons ?_ h
      by_cases hm : IsStarter m
      · exact .inl hm
      · have hle : combiningClass n ≤ combiningClass m := by
          by_contra hlt
          exact hpast ⟨by omega, hm, by omega⟩
        exact .inr hle

/-! ### All marks -/

theorem orderMarks_cons (n : Nat) (ns : List Nat) : orderMarks (n :: ns) = placeMark n (orderMarks ns) := rfl

theorem orderMarks_append (ms ns : List Nat) : orderMarks (ms ++ ns) = ms.foldr placeMark (orderMarks ns) :=
  List.foldr_append

/-- What stands before a text does not matter for its order. -/
theorem orderMarks_append_congr {ns ns' : List Nat} (ms : List Nat) (h : orderMarks ns = orderMarks ns') :
    orderMarks (ms ++ ns) = orderMarks (ms ++ ns') := by
  rw [orderMarks_append, orderMarks_append, h]

/-- A mark may stand before or behind marks of lower classes. -/
theorem orderMarks_move (h : ∀ m ∈ marks, combiningClass m ≠ 0 ∧ combiningClass m < combiningClass n)
    (ns : List Nat) : orderMarks (n :: (marks ++ ns)) = orderMarks (marks ++ n :: ns) := by
  induction marks with
  | nil => rfl
  | cons m ms ih =>
    obtain ⟨hm, hms⟩ := List.forall_mem_cons.mp h
    have hmove := ih hms
    rw [orderMarks_cons] at hmove
    rw [List.cons_append, orderMarks_cons, orderMarks_cons, List.cons_append, orderMarks_cons, ← hmove,
      placeMark_comm hm.1 hm.2]

/-- A starter at the end of a text stays there. -/
theorem orderMarks_concat (h : IsStarter n) (ns : List Nat) : orderMarks (ns ++ [n]) = orderMarks ns ++ [n] := by
  induction ns with
  | nil => rfl
  | cons m ms ih => rw [List.cons_append, orderMarks_cons, orderMarks_cons, ih, placeMark_concat h]

theorem perm_orderMarks (ns : List Nat) : (orderMarks ns).Perm ns := by
  induction ns with
  | nil => exact .nil
  | cons n ns ih => exact (perm_placeMark n _).trans (ih.cons n)

/-- What has been put in order is ordered. -/
theorem ordered_orderMarks (ns : List Nat) : Ordered (orderMarks ns) := by
  induction ns with
  | nil => exact .nil
  | cons n ns ih => exact ih.placeMark n

/-- What is ordered stays as it is. -/
theorem orderMarks_of_ordered (h : Ordered ns) : orderMarks ns = ns := by
  induction ns with
  | nil => rfl
  | cons n ns ih =>
    rw [orderMarks_cons, ih h.tail]
    cases ns with
    | nil => rfl
    | cons m ms =>
      have hfollows : MayFollow n m := h.rel
      refine placeMark_cons_of_not (fun hpast => ?_) ms
      rcases hfollows with hm | hle
      · exact hpast.1 hm
      · omega

end MapQuery.Text
