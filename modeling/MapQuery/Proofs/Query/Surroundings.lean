import MapQuery.Proofs.Query.Similar

/-!
# What can be seen from a primitive

Two primitives from which the same can be seen, after any steps, have the same surroundings, and no query tells
them apart, whatever its conditions of the host look at. The surroundings of a primitive are such a likeness of
it: every query has the same answer on them as on the primitive itself.

* `Primitive.IsLikeness` — a correspondence that keeps the order of the referrers, too.
* `IsLikeness.of_eq` — the same can be seen from corresponding primitives.
* `IsLikeness.holds_eq` — no query tells them apart.
* `Surroundings.isLikeness_of`, `Surroundings.holds_of` — a primitive and its surroundings.
* `Surroundings.holds_custom_query` — a condition of the host that evaluates a query.
-/

namespace MapQuery

open List (Forall₂)

/-- The elements at one place of two corresponding lists correspond, or there are none. -/
theorem rel_getElem?_of_forall₂ {A B : Type} {R : A → B → Prop} {l : List A} {l' : List B} (h : Forall₂ R l l')
    (place : Nat) : Option.Rel R l[place]? l'[place]? := by
  induction h generalizing place with
  | nil => exact .none
  | cons hab _ ih =>
    cases place with
    | zero => exact .some hab
    | succ place => exact ih place

section

variable {P P' : Type} [Primitive P] [Primitive P']

open Primitive

/-- After a step, what is seen is what is seen from the primitive that it leads to. -/
theorem Surroundings.after_of_cons (p : P) (step : Step) (steps : List Step) :
    (of p).after (step :: steps) = ((follow p step).map fun next => (of next).after steps).getD default := by
  show (((step :: steps).foldlM follow p).map aspect).getD default = _
  rw [List.foldlM_cons]
  cases follow p step <;> rfl

/-! ### Primitives that look the same -/

/-- What lists corresponding primitives corresponds in the order in which it is kept. -/
structure Primitive.IsLikeness (R : P → P' → Prop) : Prop extends IsSimilarity R where
  inOrder : ∀ {p : P} {p' : P'}, R p p' → Forall₂ R (Primitive.referrers p) (Primitive.referrers p')

namespace Primitive.IsLikeness

variable {R : P → P' → Prop} {p : P} {p' : P'}

theorem aspect_eq (hR : IsLikeness R) (h : R p p') : Surroundings.aspect p = Surroundings.aspect p' := by
  have hroles := map_eq_of_forall₂ (hR.members h) (f := Prod.fst) (g := Prod.fst) fun _ _ hm => hm.1
  simp only [Surroundings.aspect, hR.profile h, hR.isTagged h, hR.isClosed h, (hR.wayNodes h).length_eq,
    hroles, (hR.inOrder h).length_eq, hR.area h, hR.length h, hR.population h]

/-- A step leads to corresponding primitives, or nowhere. -/
theorem rel_follow (hR : IsLikeness R) (h : R p p') (step : Surroundings.Step) :
    Option.Rel R (Surroundings.follow p step) (Surroundings.follow p' step) := by
  cases step with
  | wayNode place => exact rel_getElem?_of_forall₂ (hR.wayNodes h) place
  | member place => exact rel_map_of_rel (rel_getElem?_of_forall₂ (hR.members h) place) fun _ _ hm => hm.2
  | referrer place => exact rel_getElem?_of_forall₂ (hR.inOrder h) place

/-- The same is seen after any steps. The induction is on the steps. -/
theorem after_of_eq (hR : IsLikeness R) (h : R p p') (steps : List Surroundings.Step) :
    (Surroundings.of p).after steps = (Surroundings.of p').after steps := by
  induction steps generalizing p p' with
  | nil => exact hR.aspect_eq h
  | cons step steps ih =>
    rw [Surroundings.after_of_cons, Surroundings.after_of_cons,
      map_eq_of_rel (hR.rel_follow h step) fun _ _ hnext => ih hnext]

/-- The same can be seen from corresponding primitives. -/
theorem of_eq (hR : IsLikeness R) (h : R p p') : Surroundings.of p = Surroundings.of p' :=
  congrArg Surroundings.mk (funext (hR.after_of_eq h))

/-- No query tells corresponding primitives apart. -/
theorem holds_eq (hR : IsLikeness R) (q : Query) (h : R p p') : q.holds p = q.holds p' := by
  rw [Query.holds_eq_satisfied, Query.holds_eq_satisfied]
  exact hR.satisfied_eq (fun h => hR.isInArea_eq h) (fun c _ _ _ h => congrArg c.holds (hR.of_eq h)) h

end Primitive.IsLikeness

end

/-! ### A primitive and its surroundings -/

namespace Surroundings

open Primitive

variable {P : Type} [Primitive P]

/-- From the next primitive on, what can be seen is what can be seen from there. -/
theorem next_of {p next : P} {step : Step} (h : follow p step = some next) : (of p).next step = of next := by
  refine congrArg Surroundings.mk (funext fun steps => ?_)
  rw [after_of_cons, h]
  rfl

/-- The primitives that steps lead to from each place of a list are those of the list. -/
theorem map_range_next_of {p : P} {l : List P} {step : Nat → Step}
    (h : ∀ place, follow p (step place) = l[place]?) :
    (List.range l.length).map (fun place => (of p).next (step place)) = l.map of := by
  refine List.ext_getElem (by simp) fun place hplace _ => ?_
  have hlt : place < l.length := by simpa using hplace
  rw [List.getElem_map, List.getElem_map, List.getElem_range]
  exact next_of ((h place).trans (List.getElem?_eq_getElem hlt))

theorem wayNodes_of (p : P) : wayNodes (of p) = (wayNodes p).map of :=
  map_range_next_of fun _ => rfl

theorem referrers_of (p : P) : referrers (of p) = (referrers p).map of :=
  map_range_next_of fun _ => rfl

theorem members_of (p : P) : members (of p) = (members p).map fun m => (m.1, of m.2) := by
  show ((members p).map Prod.fst).mapIdx (fun place role => (role, (of p).next (.member place))) = _
  refine List.ext_getElem (by simp) fun place hplace _ => ?_
  have hlt : place < (members p).length := by simpa using hplace
  have hnext : follow p (.member place) = some (members p)[place].2 := by
    rw [follow, List.getElem?_eq_getElem hlt, Option.map_some]
  rw [List.getElem_mapIdx, List.getElem_map, List.getElem_map, next_of hnext]

/-- The surroundings of a primitive look like the primitive. -/
theorem isLikeness_of : IsLikeness fun (s : Surroundings) (p : P) => s = of p := by
  have hlist (l : List P) : Forall₂ (fun (s : Surroundings) p => s = of p) (l.map of) l :=
    List.forall₂_map_left_iff.mpr (List.forall₂_same.mpr fun _ _ => rfl)
  have hreferrers (p : P) :
      Forall₂ (fun (s : Surroundings) p => s = of p) (Primitive.referrers (of p)) (Primitive.referrers p) := by
    rw [referrers_of]
    exact hlist _
  exact
    { profile := by rintro _ p rfl; rfl
      isTagged := by rintro _ p rfl; rfl
      isClosed := by rintro _ p rfl; rfl
      area := by rintro _ p rfl; rfl
      length := by rintro _ p rfl; rfl
      population := by rintro _ p rfl; rfl
      wayNodes := by
        rintro _ p rfl
        rw [wayNodes_of]
        exact hlist _
      members := by
        rintro _ p rfl
        rw [members_of]
        exact List.forall₂_map_left_iff.mpr (List.forall₂_same.mpr fun _ _ => ⟨rfl, rfl⟩)
      referrers := by
        rintro _ p rfl
        exact ⟨_, .refl _, hreferrers p⟩
      inOrder := by
        rintro _ p rfl
        exact hreferrers p }

/-- Every query has the same answer on a primitive and on what can be seen from it. -/
theorem holds_of (q : Query) (p : P) : q.holds (of p) = q.holds p :=
  isLikeness_of.holds_eq q rfl

/-- A condition of the host may be that a query holds. -/
theorem holds_custom_query (shown inspected : String) (q : Query) (p : P) :
    (Query.custom ⟨shown, inspected, q.holds⟩).holds p = q.holds p := by
  rw [Query.holds_eq_satisfied]
  exact holds_of q p

end Surroundings

end MapQuery
