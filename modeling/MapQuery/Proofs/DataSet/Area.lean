import Mathlib.Data.Fintype.EquivFin
import MapQuery.Proofs.DataSet.Inside

/-!
# Queries for a rectangle

What a query for a rectangle finds in a data set, as an equation and as a matter of chains.

* `isSolution_inside`, `Handle.IsSolution.of_inside` — what is inside solves the equation, and is its
  least solution.
* `Consistent.inside_some_iff` — something of it is inside if a chain leads there.
* `Consistent.inside_every_iff` — all of it is inside if nothing outside and no circle can be reached.
* `Consistent.holds_inArea_iff` — a query for a rectangle finds what is inside.
-/

namespace MapQuery

namespace DataSet

open Relation (ReflTransGen TransGen)
open Handle (Inside IsSolution)

variable {d : DataSet} {rectangle : Option Bounds} {all : Bool} {x y : Handle d}

/-! ### The least solution -/

/-- A node lists nothing. -/
theorem Consistent.kind_ne_node (hd : d.Consistent) (hxy : x.Lists y) : x.id.kind ≠ .node := by
  rcases hd.lists_cases hxy with ⟨hway, _⟩ | hrelation
  · rw [hway]
    decide
  · rw [hrelation]
    decide

/-- What is inside solves the equation. -/
theorem isSolution_inside (rectangle : Option Bounds) (all : Bool) :
    IsSolution rectangle all (Inside rectangle all [] (d := d)) := by
  intro x
  cases hkind : x.id.kind with
  | node => exact Handle.inside_node hkind
  | way => exact Handle.inside_way hkind
  | relation =>
    have hne : x.id.kind ≠ .node := by rw [hkind]; decide
    constructor
    · intro h
      exact ⟨h.usable, h.amongListed hne⟩
    · rintro ⟨usable, h⟩
      exact Handle.inside_of_amongListed usable hne (fun _ => List.not_mem_nil) h

theorem Handle.IsSolution.amongListed {S : Handle d → Prop} (hS : IsSolution rectangle all S)
    (usable : x.profile.isUsable) (hkind : x.id.kind ≠ .node) (h : x.AmongListed all S) : S x := by
  rw [hS x]
  refine ⟨usable, ?_⟩
  cases hk : x.id.kind with
  | node => exact absurd hk hkind
  | way => exact h
  | relation => exact h

/-- What is inside is so in every solution. -/
theorem Handle.IsSolution.of_inside {S : Handle d → Prop} (hS : IsSolution rectangle all S)
    (h : Inside rectangle all [] x) : S x := by
  induction h with
  | point usable hkind h =>
    rw [hS, hkind]
    exact ⟨usable, h⟩
  | @some x y hall usable hkind _ hxy _ ih =>
    subst hall
    exact hS.amongListed usable hkind ⟨y, hxy, ih⟩
  | every hall usable hkind _ _ ih =>
    subst hall
    exact hS.amongListed usable hkind ih

/-! ### Chains and circles -/

/-- A usable primitive lists another one. -/
def Handle.Leads (x y : Handle d) : Prop :=
  x.profile.isUsable ∧ x.Lists y

/-- A usable node in the rectangle. -/
def Handle.IsNodeIn (rectangle : Option Bounds) (x : Handle d) : Prop :=
  x.profile.isUsable ∧ x.id.kind = .node ∧ x.IsPointIn rectangle

/-- Something is inside if a chain of usable primitives leads to it. -/
theorem Consistent.inside_some_iff (hd : d.Consistent) :
    Inside rectangle false [] x ↔ ∃ y, ReflTransGen Handle.Leads x y ∧ y.IsNodeIn rectangle := by
  constructor
  · intro h
    induction h with
    | @point x usable hkind h => exact ⟨x, .refl, usable, hkind, h⟩
    | some _ usable _ _ hxy _ ih =>
      obtain ⟨z, hyz, hz⟩ := ih
      exact ⟨z, .head ⟨usable, hxy⟩ hyz, hz⟩
    | every hall => cases hall
  · rintro ⟨y, hxy, usable, hkind, hy⟩
    induction hxy using ReflTransGen.head_induction_on with
    | refl => exact .point usable hkind hy
    | head hstep _ ih =>
      exact .some rfl hstep.1 (hd.kind_ne_node hstep.2) (fun _ => List.not_mem_nil) hstep.2 ih

/-- What can be reached from where everything is inside is inside. -/
theorem Handle.Inside.of_reaches (h : Inside rectangle true [] x) (hxy : x.Reaches y) :
    Inside rectangle true [] y := by
  induction hxy with
  | refl => exact h
  | tail _ hyz ih =>
    cases ih with
    | point _ _ hpoint => exact absurd hyz hpoint.not_lists
    | some hall => cases hall
    | every _ _ _ _ hlisted => exact hlisted _ hyz

/-- Only relations are in a circle. -/
theorem Consistent.kind_of_isInCircle (hd : d.Consistent) (h : x.IsInCircle) :
    x.id.kind = .relation := by
  obtain ⟨y, hxy, hyx⟩ := TransGen.head'_iff.mp h
  rcases hd.lists_cases hxy with ⟨hway, hnode⟩ | hrelation
  · rcases ReflTransGen.cases_head_iff.mp hyx with rfl | ⟨z, hyz, _⟩
    · rw [hway] at hnode
      cases hnode
    · exact absurd hnode (hd.kind_ne_node hyz)
  · exact hrelation

instance : Finite (Handle d) := by
  have hmem : ∀ x : Handle d, x.id ∈ d.ids.toFinset := fun x =>
    List.mem_toFinset.mpr (mem_ids.mpr x.contains_id)
  refine Finite.of_injective (fun x : Handle d => (⟨x.id, hmem x⟩ : d.ids.toFinset)) fun x y h => ?_
  exact Handle.eq_of_id_eq (congrArg Subtype.val h)

/-- Where no circle can be reached, what can be reached is reached in a bounded number of steps. -/
theorem wellFounded_reached (x : Handle d)
    (hcircle : ∀ y, x.Reaches y → ¬ y.IsInCircle) :
    WellFounded fun z y : { y // x.Reaches y } => TransGen Handle.Lists y.1 z.1 := by
  have htrans : IsTrans { y // x.Reaches y } fun z y => TransGen Handle.Lists y.1 z.1 :=
    ⟨fun _ _ _ hba hcb => hcb.trans hba⟩
  have hirrefl : Std.Irrefl fun z y : { y // x.Reaches y } => TransGen Handle.Lists y.1 z.1 :=
    ⟨fun y => hcircle y.1 y.2⟩
  exact Finite.wellFounded_of_trans_of_irrefl _

/-- Everything is inside if whatever can be reached is usable, the nodes of it are in the rectangle, and no
circle of relations can be reached. -/
theorem Consistent.inside_every_iff (hd : d.Consistent) :
    Inside rectangle true [] x ↔
      (∀ y, x.Reaches y → y.id.kind = .relation → ¬ y.IsInCircle) ∧
        (∀ y, x.Reaches y → y.profile.isUsable) ∧
        ∀ y, x.Reaches y → y.id.kind = .node → y.IsPointIn rectangle := by
  constructor
  · intro h
    refine ⟨fun y hxy _ => ?_, fun y hxy => (h.of_reaches hxy).usable, fun y hxy hkind => ?_⟩
    · exact (h.of_reaches hxy).not_isInCircle
    · exact ((Handle.inside_node hkind).mp (h.of_reaches hxy)).2
  · rintro ⟨hcircle, husable, hpoint⟩
    have hwf := wellFounded_reached x fun y hxy h => hcircle y hxy (hd.kind_of_isInCircle h) h
    have hinside : ∀ y : { y // x.Reaches y }, Inside rectangle true [] y.1 := by
      intro y
      induction y using hwf.induction with
      | _ y ih =>
        by_cases hkind : y.1.id.kind = .node
        · exact .point (husable y.1 y.2) hkind (hpoint y.1 y.2 hkind)
        · refine .every rfl (husable y.1 y.2) hkind (fun _ => List.not_mem_nil) fun z hyz => ?_
          exact ih ⟨z, y.2.tail hyz⟩ (.single hyz)
    exact hinside ⟨x, .refl⟩

/-! ### The search -/

/-- A query for a rectangle finds what is inside. -/
theorem Consistent.holds_inArea_iff (hd : d.Consistent) (area : Area) (all : Bool) (areas : Areas)
    (x : Handle d) :
    (Query.inArea area all areas).holds x ↔ Inside (areas.get? area) all [] x := by
  have hfuel : d.absent [] + 2 ≤ d.size + 3 := by
    have := d.absent_le_size []
    omega
  obtain ⟨b, hrun, hb⟩ := hd.run_isInside (areas.get? area) all (d.size + 3) [] x hfuel
  have hholds : (Query.inArea area all areas).holds x = b := by
    show (false ^^ ((isInside (areas.get? area) all (d.size + 3) x).run []).any Prod.fst) = b
    rw [hrun]
    exact Bool.false_xor b
  rw [hholds]
  exact hb

/-- With fuel enough the search on the empty path gives the answer of the query. -/
theorem Consistent.run_isInside_nil (hd : d.Consistent) (area : Area) (all : Bool) (areas : Areas)
    (x : Handle d) {fuel : Nat} (hfuel : d.absent [] + 2 ≤ fuel) :
    (isInside (areas.get? area) all fuel x).run [] =
      some ((Query.inArea area all areas).holds x, []) := by
  obtain ⟨b, hrun, hb⟩ := hd.run_isInside (areas.get? area) all fuel [] x hfuel
  have hholds : b = (Query.inArea area all areas).holds x := by
    rw [Bool.eq_iff_iff, hb, hd.holds_inArea_iff]
  rw [hrun, hholds]

/-- On every path the search for what is in a rectangle comes to an end, and always leaves the path as it
found it. On the empty path its answer is that of the query. The answers solve the equation for what is
inside, and hold of nothing that is outside in another solution. So some of it is inside if a chain of
usable primitives leads to a node in the rectangle; and all of it is, if no circle of relations can be
reached, everything that can be reached is usable, and every node of it is in the rectangle. -/
theorem Reachable.inArea_least (h : d.Reachable) (area : Area) (areas : Areas) :
    (∀ all fuel (x : Handle d) path, d.size + 3 ≤ fuel →
      ∃ b, (isInside (areas.get? area) all fuel x).run path = some (b, path)) ∧
    (∀ all fuel (x : Handle d) path b path',
      (isInside (areas.get? area) all fuel x).run path = some (b, path') → path' = path) ∧
    (∀ all fuel (x : Handle d), d.size + 3 ≤ fuel →
      (isInside (areas.get? area) all fuel x).run [] =
        some ((Query.inArea area all areas).holds x, [])) ∧
    (∀ all, IsSolution (areas.get? area) all fun x : Handle d =>
      (Query.inArea area all areas).holds x = true) ∧
    (∀ all S, IsSolution (areas.get? area) all S →
      ∀ x : Handle d, (Query.inArea area all areas).holds x → S x) ∧
    (∀ x : Handle d, (Query.inArea area false areas).holds x ↔
      ∃ y, ReflTransGen Handle.Leads x y ∧ y.IsNodeIn (areas.get? area)) ∧
    ∀ x : Handle d, (Query.inArea area true areas).holds x ↔
      (∀ y, x.Reaches y → y.id.kind = .relation → ¬ y.IsInCircle) ∧
        (∀ y, x.Reaches y → y.profile.isUsable) ∧
        ∀ y, x.Reaches y → y.id.kind = .node → y.IsPointIn (areas.get? area) := by
  have hd := h.consistent
  have hfuel : ∀ path fuel, d.size + 3 ≤ fuel → d.absent path + 2 ≤ fuel := fun path fuel hle => by
    have := d.absent_le_size path
    omega
  refine ⟨?ends, ?restores, ?answers, ?solves, ?least, ?some, ?every⟩
  case ends =>
    intro all fuel x path hle
    obtain ⟨b, hrun, _⟩ := hd.run_isInside (areas.get? area) all fuel path x (hfuel path fuel hle)
    exact ⟨b, hrun⟩
  case restores =>
    intro all fuel x path b path' hrun
    exact restores_isInside _ all fuel x path b path' hrun
  case answers =>
    intro all fuel x hle
    exact hd.run_isInside_nil area all areas x (hfuel [] fuel hle)
  case solves =>
    intro all
    have hinside := funext fun x : Handle d => propext (hd.holds_inArea_iff area all areas x)
    rw [hinside]
    exact isSolution_inside (areas.get? area) all
  case least =>
    intro all S hS x hx
    exact hS.of_inside ((hd.holds_inArea_iff area all areas x).mp hx)
  case some =>
    intro x
    rw [hd.holds_inArea_iff]
    exact hd.inside_some_iff
  case every =>
    intro x
    rw [hd.holds_inArea_iff]
    exact hd.inside_every_iff

/-- Of two relations that list each other the search comes to an end, and finds that they are not inside. -/
theorem inArea_least_circle :
    let d := (empty.addRelation 1 [⟨⟨.relation, 2⟩, ""⟩]).addRelation 2 [⟨⟨.relation, 1⟩, ""⟩]
    d.Reachable ∧ d.size + 3 ≤ 5 ∧
      ∀ x : Handle d, x.id = ⟨.relation, 1⟩ → (isInside none true 5 x).run [] = some (false, []) := by
  intro d
  have hd : d.Reachable := (Reachable.empty.addRelation 1 _).addRelation 2 _
  have hsize : d.size + 3 ≤ 5 := by decide +kernel
  refine ⟨hd, hsize, fun x hx => ?_⟩
  obtain ⟨y, _, hy⟩ := handle?_of_contains (d := d) (x := ⟨.relation, 2⟩) (by decide +kernel)
  have hxy : x.Lists y := by
    unfold Handle.Lists
    rw [← x.entryOf_id, hx, hy]
    decide +kernel
  have hyx : y.Lists x := by
    unfold Handle.Lists
    rw [← y.entryOf_id, hx, hy]
    decide +kernel
  have hleast := hd.inArea_least .view .unknown
  have hfalse : (Query.inArea .view true .unknown).holds x = false := by
    rw [Bool.eq_false_iff]
    intro htrue
    have hcircle := ((hleast.2.2.2.2.2.2 x).mp htrue).1 x .refl (by rw [hx])
    exact hcircle (.head hxy (.single hyx))
  rw [← hfalse]
  exact hleast.2.2.1 true 5 x hsize

end DataSet

end MapQuery
