import Mathlib.Data.List.Forall2
import MapQuery.Proofs.Query.Evaluation
import MapQuery.Proofs.Query.Inside

/-!
# Primitives that no query tells apart

Two primitives may belong to different data, or to data of different types. Where all that can be asked of
them is the same, and where what stands around the one corresponds to what stands around the other, every
query has the same answer on both. The order in which referrers are kept cannot be asked for but by conditions
of the host.

* `Query.conditions`, `Query.IsLocal` — the conditions of the host in a query, and queries where these look at
  nothing but the facts about the primitive itself.
* `Primitive.IsCorrespondence` — such a correspondence between primitives.
* `IsCorrespondence.forall₂_children`, `IsCorrespondence.any_referrers` — what corresponds around them.
* `IsCorrespondence.isInside_eq` — the search for what is inside a rectangle, with any fuel.
* `IsCorrespondence.satisfied_eq`, `IsCorrespondence.holds_eq` — every query, if the search has fuel enough.
* `Primitive.IsSimilarity` — a correspondence between equally many primitives, where the fuel is the same.
-/

namespace MapQuery

open List (Forall₂)

/-! ### Corresponding lists and options -/

section

variable {A B C D : Type} {R : A → B → Prop} {l : List A} {l' : List B} {o : Option A} {o' : Option B}

theorem bind_eq_of_rel (h : Option.Rel R o o') {f : A → Option C} {g : B → Option C}
    (hfg : ∀ a b, R a b → f a = g b) : o.bind f = o'.bind g := by
  cases h with
  | some hab => exact hfg _ _ hab
  | none => rfl

theorem map_eq_of_rel (h : Option.Rel R o o') {f : A → C} {g : B → C} (hfg : ∀ a b, R a b → f a = g b) :
    o.map f = o'.map g := by
  cases h with
  | some hab => exact congrArg some (hfg _ _ hab)
  | none => rfl

theorem rel_map_of_rel {S : C → D → Prop} (h : Option.Rel R o o') {f : A → C} {g : B → D}
    (hfg : ∀ a b, R a b → S (f a) (g b)) : Option.Rel S (o.map f) (o'.map g) := by
  cases h with
  | some hab => exact .some (hfg _ _ hab)
  | none => exact .none

theorem map_eq_of_forall₂ (h : Forall₂ R l l') {f : A → C} {g : B → C} (hfg : ∀ a b, R a b → f a = g b) :
    l.map f = l'.map g := by
  rw [← List.forall₂_eq_eq_eq, List.forall₂_map_left_iff, List.forall₂_map_right_iff]
  exact h.imp hfg

theorem any_eq_of_forall₂ (h : Forall₂ R l l') {f : A → Bool} {g : B → Bool}
    (hfg : ∀ a b, R a b → f a = g b) : l.any f = l'.any g := by
  have hmap := congrArg (fun answers => answers.any id) (map_eq_of_forall₂ h hfg)
  rwa [List.any_map, List.any_map] at hmap

theorem countP_eq_of_forall₂ (h : Forall₂ R l l') {f : A → Bool} {g : B → Bool}
    (hfg : ∀ a b, R a b → f a = g b) : l.countP f = l'.countP g := by
  have hmap := congrArg (fun answers => answers.countP id) (map_eq_of_forall₂ h hfg)
  rwa [List.countP_map, List.countP_map] at hmap

theorem mapM_eq_of_forall_mem {f g : A → Option C} (h : ∀ a ∈ l, f a = g a) : l.mapM f = l.mapM g := by
  induction l with
  | nil => rfl
  | cons a l ih =>
    have hrest := ih fun b hb => h b (List.mem_cons_of_mem a hb)
    rw [List.mapM_cons, List.mapM_cons, h a List.mem_cons_self, hrest]

/-- Elements that are asked one after the other give the same answer and leave the same state. -/
theorem run_quantified_eq {T : Type} (all : Bool) {f : A → StateT T Option Bool}
    {g : B → StateT T Option Bool} (h : Forall₂ R l l') (hfg : ∀ a b, R a b → ∀ s, (f a).run s = (g b).run s)
    (s : T) : (quantified all l f).run s = (quantified all l' g).run s := by
  induction h generalizing s with
  | nil => rw [run_quantified_nil, run_quantified_nil]
  | cons hab _ ih =>
    rw [run_quantified_cons, run_quantified_cons, hfg _ _ hab]
    simp only [ih]

end

/-! ### Conditions of the host -/

/-- A condition that looks at nothing but the facts about the primitive itself. -/
def Condition.IsLocal (c : Condition) : Prop :=
  ∀ s s' : Surroundings, Primitive.profile s = Primitive.profile s' → c.holds s = c.holds s'

namespace Query

/-- The conditions of the host in a query. -/
def conditions : Query → List Condition
  | not q | parent q | child q => q.conditions
  | join _ left right => left.conditions ++ right.conditions
  | custom c => [c]
  | _ => []

/-- No condition of the host looks at what is around the primitive. Above all, there may be none. -/
def IsLocal (q : Query) : Prop :=
  ∀ c ∈ q.conditions, c.IsLocal

theorem isLocal_of_conditions_eq_nil {q : Query} (h : q.conditions = []) : q.IsLocal := by
  intro c hc
  rw [h] at hc
  cases hc

end Query

/-! ### Correspondence -/

section

variable {P P' : Type} [Primitive P] [Primitive P']

open Primitive

/-- Corresponding primitives have the same facts and the same measures, and list what corresponds, in the
same order. What lists them corresponds too, in some order. -/
structure Primitive.IsCorrespondence (R : P → P' → Prop) : Prop where
  profile : ∀ {p : P} {p' : P'}, R p p' → profile p = profile p'
  isTagged : ∀ {p : P} {p' : P'}, R p p' → isTagged p = isTagged p'
  isClosed : ∀ {p : P} {p' : P'}, R p p' → isClosed p = isClosed p'
  area : ∀ {p : P} {p' : P'}, R p p' → area p = area p'
  length : ∀ {p : P} {p' : P'}, R p p' → length p = length p'
  wayNodes : ∀ {p : P} {p' : P'}, R p p' → Forall₂ R (wayNodes p) (wayNodes p')
  members : ∀ {p : P} {p' : P'}, R p p' →
    Forall₂ (fun m m' => m.1 = m'.1 ∧ R m.2 m'.2) (members p) (members p')
  referrers : ∀ {p : P} {p' : P'}, R p p' →
    ∃ l, (referrers p).Perm l ∧ Forall₂ R l (referrers p')

/-- Corresponding primitives are of equally many. -/
structure Primitive.IsSimilarity (R : P → P' → Prop) : Prop extends IsCorrespondence R where
  population : ∀ {p : P} {p' : P'}, R p p' → population p = population p'

namespace Primitive.IsCorrespondence

variable {R : P → P' → Prop} {p : P} {p' : P'}

theorem kind_eq (hR : IsCorrespondence R) (h : R p p') : kind p = kind p' :=
  congrArg Profile.kind (hR.profile h)

theorem id_eq (hR : IsCorrespondence R) (h : R p p') : Primitive.id p = Primitive.id p' :=
  congrArg Profile.id (hR.profile h)

theorem forall₂_children (hR : IsCorrespondence R) (h : R p p') : Forall₂ R (children p) (children p') := by
  unfold children
  rw [hR.kind_eq h]
  cases kind p' with
  | node => exact .nil
  | way => exact hR.wayNodes h
  | relation =>
    rw [List.forall₂_map_left_iff, List.forall₂_map_right_iff]
    exact (hR.members h).imp fun _ _ hm => hm.2

theorem any_referrers (hR : IsCorrespondence R) (h : R p p') {f : P → Bool} {g : P' → Bool}
    (hfg : ∀ r r', R r r' → f r = g r') : (Primitive.referrers p).any f = (Primitive.referrers p').any g := by
  obtain ⟨l, hperm, hl⟩ := hR.referrers h
  rw [hperm.any_eq]
  exact any_eq_of_forall₂ hl hfg

theorem countP_referrers (hR : IsCorrespondence R) (h : R p p') {f : P → Bool} {g : P' → Bool}
    (hfg : ∀ r r', R r r' → f r = g r') :
    (Primitive.referrers p).countP f = (Primitive.referrers p').countP g := by
  obtain ⟨l, hperm, hl⟩ := hR.referrers h
  rw [hperm.countP_eq]
  exact countP_eq_of_forall₂ hl hfg

/-! ### Conditions -/

theorem hasRoleIn_eq (hR : IsCorrespondence R) (h : R p p') (role : String) :
    hasRoleIn role p = hasRoleIn role p' := by
  refine hR.any_referrers h fun r r' hr => ?_
  have hmembers := any_eq_of_forall₂ (hR.members hr)
    (f := fun m => Primitive.id m.2 = Primitive.id p && m.1 = role)
    (g := fun m => Primitive.id m.2 = Primitive.id p' && m.1 = role) fun m m' hm => by
      rw [hR.id_eq hm.2, hR.id_eq h, hm.1]
  rw [hR.kind_eq hr, hR.profile hr, hmembers]

theorem countMembers_eq (hR : IsCorrespondence R) (h : R p p') (k : Kind) :
    countMembers k p = countMembers k p' := by
  unfold countMembers
  rw [countP_eq_of_forall₂ (hR.members h) fun m m' hm => by rw [hR.kind_eq hm.2]]

theorem countNodes_eq (hR : IsCorrespondence R) (h : R p p') : countNodes p = countNodes p' := by
  unfold countNodes
  rw [(hR.wayNodes h).length_eq, hR.isClosed h]

theorem measure_eq (hR : IsCorrespondence R) (h : R p p') (property : Property) :
    measure property p = measure property p' := by
  have hkind := hR.kind_eq h
  have hprofile := hR.profile h
  cases property with
  | id => simp only [measure, hprofile, hR.id_eq h]
  | nodes => simp only [measure, hkind, hR.countNodes_eq h, hR.countMembers_eq h]
  | ways =>
    have hcount := hR.countP_referrers h (f := fun r => kind r = .way) (g := fun r => kind r = .way)
      fun r r' hr => by rw [hR.kind_eq hr]
    simp only [measure, hkind, hcount, hR.countMembers_eq h]
  | members => simp only [measure, hkind, (hR.members h).length_eq]
  | areaSize => simp only [measure, hR.area h]
  | wayLength => simp only [measure, hkind, hR.length h]
  | _ => simp only [measure, hprofile]

theorem isNth_eq (hR : IsCorrespondence R) (h : R p p') (position : Int) (modulo : Bool) :
    isNth position modulo p = isNth position modulo p' := by
  refine hR.any_referrers h fun r r' hr => ?_
  rw [map_eq_of_forall₂ (hR.forall₂_children hr) fun _ _ hc => hR.id_eq hc, hR.id_eq h]

theorem hasIncompleteMembers_eq (hR : IsCorrespondence R) (h : R p p') :
    hasIncompleteMembers p = hasIncompleteMembers p' :=
  any_eq_of_forall₂ (hR.members h) fun _ _ hm => by rw [hR.profile hm.2]

theorem state_holds_eq (hR : IsCorrespondence R) (h : R p p') (s : State) : s.holds p = s.holds p' := by
  cases s <;> simp only [State.holds, hR.profile h, hR.kind_eq h, hR.hasIncompleteMembers_eq h,
    hR.isTagged h, hR.isClosed h]

/-- The search for what is inside a rectangle does the same on corresponding primitives, from any path and
with any fuel. The induction is on the fuel. -/
theorem isInside_eq (hR : IsCorrespondence R) (rectangle : Option Bounds) (all : Bool) (fuel : Nat)
    (h : R p p') (path : List Id) :
    (isInside rectangle all fuel p).run path = (isInside rectangle all fuel p').run path := by
  induction fuel generalizing p p' path with
  | zero => rfl
  | succ fuel ih =>
    have hnodes := run_quantified_eq all (hR.wayNodes h) (fun _ _ hn => ih hn) path
    have hmembers := run_quantified_eq all (hR.members h) (fun _ _ hm => ih hm.2)
      (Primitive.id p' :: path)
    rw [run_isInside_succ, run_isInside_succ, hR.profile h, hR.kind_eq h, hR.id_eq h, hnodes, hmembers]

/-! ### Queries -/

theorem leafHolds_eq (hR : IsCorrespondence R) (h : R p p')
    (hinside : ∀ area all areas, isInArea area all areas p = isInArea area all areas p') {q : Query}
    (hq : ∀ c ∈ q.conditions, c.holds (.of p) = c.holds (.of p')) : q.leafHolds p = q.leafHolds p' := by
  cases q with
  | role role => exact hR.hasRoleIn_eq h role
  | hasRole role =>
    have hmembers := any_eq_of_forall₂ (hR.members h) (f := fun m => m.1 = role)
      (g := fun m => m.1 = role) fun m m' hm => by rw [hm.1]
    simp only [Query.leafHolds, hR.kind_eq h, hmembers]
  | range property range => simp only [Query.leafHolds, hR.measure_eq h]
  | nth position modulo => exact hR.isNth_eq h position modulo
  | state s => exact hR.state_holds_eq h s
  | inArea area all areas => exact hinside area all areas
  | kind k => simp only [Query.leafHolds, hR.kind_eq h]
  | custom c => exact hq c List.mem_cons_self
  | _ => simp only [Query.leafHolds, hR.profile h]

/-- The induction is on the query, for every two primitives that correspond: those around them do too. -/
theorem satisfied_eq (hR : IsCorrespondence R)
    (hinside : ∀ {p : P} {p' : P'}, R p p' → ∀ area all areas,
      isInArea area all areas p = isInArea area all areas p') {q : Query}
    (hq : ∀ c ∈ q.conditions, ∀ {p : P} {p' : P'}, R p p' → c.holds (.of p) = c.holds (.of p'))
    (h : R p p') : q.satisfied p = q.satisfied p' := by
  induction q generalizing p p' with
  | not q ih => simp only [Query.satisfied, ih hq h]
  | join o left right ihleft ihright =>
    have hleft := ihleft (fun c hc => hq c (List.mem_append_left _ hc)) h
    have hright := ihright (fun c hc => hq c (List.mem_append_right _ hc)) h
    simp only [Query.satisfied, hleft, hright]
  | parent q ih => exact any_eq_of_forall₂ (hR.forall₂_children h) fun _ _ hc => ih hq hc
  | child q ih => exact hR.any_referrers h fun _ _ hr => ih hq hr
  | _ => exact hR.leafHolds_eq h (hinside h) fun c hc => hq c hc h

/-- Conditions of the host that look at nothing but the facts do not tell corresponding primitives apart. -/
theorem condition_holds_eq (hR : IsCorrespondence R) {c : Condition} (hc : c.IsLocal) (h : R p p') :
    c.holds (.of p) = c.holds (.of p') :=
  hc _ _ (hR.profile h)

theorem holds_eq (hR : IsCorrespondence R)
    (hinside : ∀ {p : P} {p' : P'}, R p p' → ∀ area all areas,
      isInArea area all areas p = isInArea area all areas p') {q : Query} (hq : q.IsLocal) (h : R p p') :
    q.holds p = q.holds p' := by
  rw [Query.holds_eq_satisfied, Query.holds_eq_satisfied,
    hR.satisfied_eq hinside (fun c hc => hR.condition_holds_eq (hq c hc)) h]

end Primitive.IsCorrespondence

namespace Primitive.IsSimilarity

variable {R : P → P' → Prop} {p : P} {p' : P'}

theorem isInArea_eq (hR : IsSimilarity R) (h : R p p') (area : Area) (all : Bool) (areas : Areas) :
    isInArea area all areas p = isInArea area all areas p' := by
  unfold isInArea
  rw [hR.population h, hR.isInside_eq _ all _ h]

theorem holds_eq (hR : IsSimilarity R) {q : Query} (hq : q.IsLocal) (h : R p p') : q.holds p = q.holds p' :=
  hR.toIsCorrespondence.holds_eq (fun h => hR.isInArea_eq h) hq h

end Primitive.IsSimilarity

end

end MapQuery
