import MapQuery.Proofs.Query.Evaluation
import MapQuery.Query.Shown

/-!
# Runs of one operator

Where one operator follows itself, it makes no difference which of its operands are joined first: neither to
the meaning of a query nor to its short form.

* `Query.Regrouped` — two queries that differ in the grouping of runs of one operator at most.
* `Regrouped.satisfied_eq`, `Regrouped.written_eq` — what such queries have in common.
* `Query.grouped` — a query with all its runs grouped to the right.
* `Query.OfStates` — the queries about states, whatever joins them; `Query.GroupedRight` — those of them whose
  runs are grouped to the right.
* `OfStates.groupedRight_grouped`, `regrouped_grouped` — every query about states is one of these, regrouped.
-/

namespace MapQuery

namespace Query

/-! ### Queries that differ in their grouping -/

/-- The queries differ in the grouping of runs of one operator at most. -/
inductive Regrouped : Query → Query → Prop where
  /-- The operands of a run may be joined from the left or from the right. -/
  | assoc (o : Operator) (a b c : Query) : Regrouped (join o (join o a b) c) (join o a (join o b c))
  | refl (q : Query) : Regrouped q q
  | symm {q q' : Query} (h : Regrouped q q') : Regrouped q' q
  | trans {q q' q'' : Query} (h : Regrouped q q') (h' : Regrouped q' q'') : Regrouped q q''
  | not {q q' : Query} (h : Regrouped q q') : Regrouped (not q) (not q')
  | parent {q q' : Query} (h : Regrouped q q') : Regrouped (parent q) (parent q')
  | child {q q' : Query} (h : Regrouped q q') : Regrouped (child q) (child q')
  | join (o : Operator) {left left' right right' : Query} (hl : Regrouped left left')
    (hr : Regrouped right right') : Regrouped (join o left right) (join o left' right')

namespace Regrouped

variable {q q' : Query}

/-- The grouping of runs makes no difference to the meaning, since every operator is associative. -/
theorem satisfied_eq {P : Type} [Primitive P] (h : Regrouped q q') :
    q.satisfied (P := P) = q'.satisfied := by
  induction h with
  | assoc o a b c =>
    funext p
    exact o.apply_assoc (a.satisfied p) (b.satisfied p) (c.satisfied p)
  | refl q => rfl
  | symm _ ih => exact ih.symm
  | trans _ _ ih ih' => exact ih.trans ih'
  | not _ ih =>
    funext p
    rw [satisfied, satisfied, ih]
  | parent _ ih =>
    funext p
    rw [satisfied, satisfied, ih]
  | child _ ih =>
    funext p
    rw [satisfied, satisfied, ih]
  | join o _ _ ihl ihr =>
    funext p
    rw [satisfied, satisfied, ihl, ihr]

/-- The operator at the root stays. -/
theorem operator?_eq (h : Regrouped q q') : q.operator? = q'.operator? := by
  induction h with
  | symm _ ih => exact ih.symm
  | trans _ _ ih ih' => exact ih.trans ih'
  | _ => rfl

theorem differs_eq (h : Regrouped q q') (o : Operator) : q.differs o = q'.differs o := by
  rw [differs, differs, h.operator?_eq]

theorem isJoined_eq (h : Regrouped q q') : q.isJoined = q'.isJoined := by
  rw [isJoined, isJoined, h.operator?_eq]

/-- The grouping of runs is not written. -/
theorem written_eq (h : Regrouped q q') : q.written = q'.written := by
  induction h with
  | assoc o a b c =>
    have hsame : ∀ left right : Query, (Query.join o left right).differs o = false := fun _ _ =>
      decide_eq_false (not_not_intro rfl)
    simp only [written, hsame, parenthesized, Bool.false_eq_true, if_false, String.append_assoc]
  | refl q => rfl
  | symm _ ih => exact ih.symm
  | trans _ _ ih ih' => exact ih.trans ih'
  | not h ih => rw [written, written, ih, h.isJoined_eq]
  | parent _ ih => rw [written, written, ih]
  | child _ ih => rw [written, written, ih]
  | join o hl hr ihl ihr => rw [written, written, ihl, ihr, hl.differs_eq, hr.differs_eq]

end Regrouped

/-! ### Grouping to the right -/

/-- Joins two queries; the operands of a run on the left are joined to the one on the right one by one. -/
def attached (o : Operator) : Query → Query → Query
  | join o' a b, q => if o' = o then join o a (attached o b q) else join o (join o' a b) q
  | left, q => join o left q

/-- A query with every run of one operator grouped to the right. -/
def grouped : Query → Query
  | join o left right => attached o left.grouped right.grouped
  | not q => not q.grouped
  | parent q => parent q.grouped
  | child q => child q.grouped
  | q => q

theorem regrouped_attached (o : Operator) (left right : Query) :
    Regrouped (join o left right) (attached o left right) := by
  induction left with
  | join o' a b _ ihb =>
    rw [attached]
    split
    · next ho =>
      subst ho
      exact (Regrouped.assoc o' a b right).trans (.join o' (.refl a) ihb)
    · exact .refl _
  | _ => exact .refl _

theorem regrouped_grouped (q : Query) : Regrouped q q.grouped := by
  induction q with
  | join o left right ihl ihr => exact (Regrouped.join o ihl ihr).trans (regrouped_attached o _ _)
  | not q ih => exact ih.not
  | parent q ih => exact ih.parent
  | child q ih => exact ih.child
  | _ => exact .refl _

/-! ### Queries about states -/

/-- The queries that are built from states, and from what always or never holds. -/
inductive OfStates : Query → Prop where
  | always : OfStates always
  | never : OfStates never
  | state (s : State) : OfStates (state s)
  | not {q : Query} (h : OfStates q) : OfStates (not q)
  | parent {q : Query} (h : OfStates q) : OfStates (parent q)
  | child {q : Query} (h : OfStates q) : OfStates (child q)
  | join (o : Operator) {left right : Query} (hl : OfStates left) (hr : OfStates right) :
    OfStates (join o left right)

/-- The queries about states in which no left operand goes on with the operator that joins it. -/
inductive GroupedRight : Query → Prop where
  | always : GroupedRight always
  | never : GroupedRight never
  | state (s : State) : GroupedRight (state s)
  | not {q : Query} (h : GroupedRight q) : GroupedRight (not q)
  | parent {q : Query} (h : GroupedRight q) : GroupedRight (parent q)
  | child {q : Query} (h : GroupedRight q) : GroupedRight (child q)
  | join (o : Operator) {left right : Query} (hl : GroupedRight left) (hr : GroupedRight right)
    (hne : left.operator? ≠ some o) : GroupedRight (join o left right)

theorem GroupedRight.attached {left right : Query} (o : Operator) (hl : GroupedRight left)
    (hr : GroupedRight right) : GroupedRight (attached o left right) := by
  induction hl with
  | join o' ha hb hne _ ihb =>
    rw [Query.attached]
    split
    · next ho => exact .join o ha ihb (ho ▸ hne)
    · next ho => exact .join o (.join o' ha hb hne) hr fun h => ho (Option.some.inj h)
  | always => exact .join o .always hr nofun
  | never => exact .join o .never hr nofun
  | state s => exact .join o (.state s) hr nofun
  | not h _ => exact .join o h.not hr nofun
  | parent h _ => exact .join o h.parent hr nofun
  | child h _ => exact .join o h.child hr nofun

theorem OfStates.groupedRight_grouped {q : Query} (h : OfStates q) : GroupedRight q.grouped := by
  induction h with
  | always => exact .always
  | never => exact .never
  | state s => exact .state s
  | not _ ih => exact ih.not
  | parent _ ih => exact ih.parent
  | child _ ih => exact ih.child
  | join o _ _ ihl ihr => exact ihl.attached o ihr

end Query

end MapQuery
