import Mathlib.Data.Set.Card
import MapQuery.Proofs.DataSet.Inside
import MapQuery.Proofs.Query.Evaluation

/-!
# Referrers as a scan finds them

With each primitive the ways and relations are kept that list it. Whatever a query asks of them could be
found out without these lists, by a look at every primitive of the data set and at what it lists.

* `Handle.ListsFirstAt` — the first place of a primitive in what another one lists.
* `Consistent.mem_referrers`, `Consistent.nodup_referrers` — the referrers are the primitives that list one,
  each of them once.
* `Consistent.any_referrers`, `Consistent.countP_referrers` — some referrer has a property, and how many have.
* `Consistent.exists_parent_iff` — a pair of a primitive and one that it lists is found from both ends.
* `Reachable.referrers_as_scanned` — the queries that ask for referrers.
-/

namespace MapQuery

namespace DataSet

variable {d : DataSet}

/-- A primitive stands at an index in what another one lists, counted from zero, and at none before it. -/
def Handle.ListsFirstAt (y x : Handle d) (index : Nat) : Prop :=
  y.entry.geometry.children[index]? = some x.id ∧ x.id ∉ y.entry.geometry.children.take index

theorem Handle.ListsFirstAt.lists {y x : Handle d} {index : Nat} (h : y.ListsFirstAt x index) :
    y.Lists x :=
  List.mem_of_getElem? h.1

/-- A search from the left finds the first place. -/
theorem idxOf?_eq_some_iff_take {l : List Id} {x : Id} {index : Nat} :
    l.idxOf? x = some index ↔ l[index]? = some x ∧ x ∉ l.take index := by
  rw [List.idxOf?_eq_some_iff, List.getElem?_eq_some_iff]
  constructor
  · rintro ⟨hlt, hat, hbefore⟩
    refine ⟨⟨hlt, hat⟩, fun hmem => ?_⟩
    obtain ⟨j, hj, heq⟩ := List.mem_take_iff_getElem.mp hmem
    exact hbefore j (Nat.lt_min.mp hj).1 heq
  · rintro ⟨⟨hlt, hat⟩, hbefore⟩
    refine ⟨hlt, hat, fun j hj heq => hbefore ?_⟩
    exact List.mem_take_iff_getElem.mpr ⟨j, Nat.lt_min.mpr ⟨hj, Nat.lt_trans hj hlt⟩, heq⟩

/-- The first place is where a search from the left finds the primitive. -/
theorem Handle.listsFirstAt_iff (y x : Handle d) (index : Nat) :
    y.ListsFirstAt x index ↔ y.entry.geometry.children.idxOf? x.id = some index :=
  idxOf?_eq_some_iff_take.symm

/-- Every primitive is among all of them. -/
theorem mem_handles (x : Handle d) : x ∈ d.handles :=
  List.mem_filterMap.mpr ⟨x.id, mem_ids.mpr x.contains_id, handle?_eq_some.mpr rfl⟩

namespace Consistent

/-! ### The referrers of a primitive -/

/-- The referrers of a primitive are the primitives that list it. -/
theorem mem_referrers (hd : d.Consistent) (x y : Handle d) :
    y ∈ Primitive.referrers x ↔ y.Lists x := by
  have hid : y ∈ Primitive.referrers x ↔ y.id ∈ (Primitive.referrers x).map Handle.id := by
    rw [List.mem_map]
    constructor
    · intro hy
      exact ⟨y, hy, rfl⟩
    · rintro ⟨z, hz, hzy⟩
      rwa [Handle.eq_of_id_eq hzy] at hz
  have hmap : (Primitive.referrers x).map Handle.id = d.referrersOf x.id := hd.map_id_referrers x
  rw [hid, hmap, hd.mem_referrersOf, childrenOf, y.entryOf_id]
  rfl

/-- No referrer is kept twice. -/
theorem nodup_referrers (hd : d.Consistent) (x : Handle d) : (Primitive.referrers x).Nodup := by
  have hmap : (Primitive.referrers x).map Handle.id = d.referrersOf x.id := hd.map_id_referrers x
  exact List.Nodup.of_map Handle.id (hmap ▸ hd.nodup x.id)

theorem any_referrers (hd : d.Consistent) (x : Handle d) (f : Handle d → Bool) :
    (Primitive.referrers x).any f = true ↔ ∃ y ∈ d.handles, y.Lists x ∧ f y = true := by
  rw [List.any_eq_true]
  constructor
  · rintro ⟨y, hy, hf⟩
    exact ⟨y, mem_handles y, (hd.mem_referrers x y).mp hy, hf⟩
  · rintro ⟨y, _, hlists, hf⟩
    exact ⟨y, (hd.mem_referrers x y).mpr hlists, hf⟩

/-- As many referrers have a property as there are primitives that list the one and have it. -/
theorem countP_referrers (hd : d.Consistent) (x : Handle d) (f : Handle d → Bool) :
    (Primitive.referrers x).countP f = {y : Handle d | f y = true ∧ y.Lists x}.ncard := by
  classical
  have hset : {y : Handle d | f y = true ∧ y.Lists x} =
      ((Primitive.referrers x).filter f).toFinset := by
    ext y
    rw [Set.mem_ofPred_eq, Finset.mem_coe, List.mem_toFinset, List.mem_filter, hd.mem_referrers,
      and_comm]
  rw [hset, Set.ncard_coe_finset, List.toFinset_card_of_nodup ((hd.nodup_referrers x).filter f),
    List.countP_eq_length_filter]

/-! ### What is asked of a referrer -/

/-- Some member is a primitive in a role, exactly if the relation has been given such a member. -/
theorem any_members_iff (hd : d.Consistent) (y x : Handle d) (role : String) :
    (Primitive.members y).any (fun m => Primitive.id m.2 = Primitive.id x && m.1 = role) = true ↔
      ∃ members, y.entry.geometry = .group members ∧ ⟨x.id, role⟩ ∈ members := by
  have hmember : ∀ m : String × Handle d,
      (Primitive.id m.2 = Primitive.id x && m.1 = role : Bool) = true ↔ memberOf m = ⟨x.id, role⟩ := by
    intro m
    rw [Bool.and_eq_true, decide_eq_true_eq, decide_eq_true_eq, memberOf, Member.mk.injEq]
    rfl
  rw [List.any_eq_true]
  constructor
  · rintro ⟨m, hm, hrole⟩
    cases hgeometry : y.entry.geometry with
    | group members =>
      refine ⟨members, rfl, ?_⟩
      rw [← hd.map_memberOf_members y hgeometry, ← (hmember m).mp hrole]
      exact List.mem_map_of_mem hm
    | point c =>
      change m ∈ y.members at hm
      rw [Handle.members, hgeometry] at hm
      cases hm
    | line nodes =>
      change m ∈ y.members at hm
      rw [Handle.members, hgeometry] at hm
      cases hm
  · rintro ⟨members, hgeometry, hmem⟩
    rw [← hd.map_memberOf_members y hgeometry] at hmem
    obtain ⟨m, hm, hrole⟩ := List.mem_map.mp hmem
    exact ⟨m, hm, (hmember m).mpr hrole⟩

/-- A role is looked for in the relations that list the primitive, and any other relation does not have
it. -/
theorem hasRoleIn_iff (hd : d.Consistent) (role : String) (x : Handle d) :
    hasRoleIn role x = true ↔
      ∃ y ∈ d.handles, y.id.kind = .relation ∧ y.profile.isUsable ∧
        ∃ members, y.entry.geometry = .group members ∧ ⟨x.id, role⟩ ∈ members := by
  unfold hasRoleIn
  rw [hd.any_referrers]
  refine exists_congr fun y => and_congr_right fun _ => ?_
  rw [Bool.and_eq_true, hd.any_members_iff, Bool.and_eq_true, Bool.and_eq_true, decide_eq_true_eq]
  constructor
  · rintro ⟨_, ⟨⟨hkind, hcomplete⟩, hdeleted⟩, hrole⟩
    exact ⟨hkind, Bool.and_eq_true_iff.mpr ⟨hdeleted, hcomplete⟩, hrole⟩
  · rintro ⟨hkind, husable, members, hgeometry, hmem⟩
    obtain ⟨hdeleted, hcomplete⟩ := Bool.and_eq_true_iff.mp husable
    have hlists : y.Lists x := by
      rw [Handle.Lists, hgeometry]
      exact List.mem_map_of_mem hmem
    exact ⟨hlists, ⟨⟨hkind, hcomplete⟩, hdeleted⟩, members, hgeometry, hmem⟩

/-- A position is looked for in what lists the primitive, at its first place there. -/
theorem isNth_iff (hd : d.Consistent) (position : Int) (modulo : Bool) (x : Handle d) :
    isNth position modulo x = true ↔
      ∃ y ∈ d.handles, ∃ index, y.ListsFirstAt x index ∧
        isAt position modulo index y.entry.geometry.children.length = true := by
  unfold isNth
  rw [hd.any_referrers]
  refine exists_congr fun y => and_congr_right fun _ => ?_
  have hids : (Primitive.children y).map Primitive.id = y.entry.geometry.children := hd.map_id_children y
  have hid : Primitive.id x = x.id := rfl
  rw [hids, hid]
  dsimp only
  constructor
  · rintro ⟨_, hat⟩
    split at hat
    · next index hindex => exact ⟨index, (y.listsFirstAt_iff x index).mpr hindex, hat⟩
    · cases hat
  · rintro ⟨index, hfirst, hat⟩
    refine ⟨hfirst.lists, ?_⟩
    rw [(y.listsFirstAt_iff x index).mp hfirst]
    exact hat

/-! ### Queries -/

theorem child_holds_iff (hd : d.Consistent) (q : Query) (x : Handle d) :
    (Query.child q).holds x = true ↔ ∃ y ∈ d.handles, y.Lists x ∧ q.holds y = true := by
  rw [Query.holds_eq, Query.holds_eq, Query.satisfied]
  exact hd.any_referrers x q.satisfied

theorem parent_holds_iff (hd : d.Consistent) (q : Query) (x : Handle d) :
    (Query.parent q).holds x = true ↔ ∃ y : Handle d, x.Lists y ∧ q.holds y = true := by
  rw [Query.holds_eq, Query.holds_eq, Query.satisfied, List.any_eq_true]
  refine exists_congr fun y => and_congr_left fun _ => ?_
  exact hd.mem_children x y

/-- Where a primitive lists another one, the pair is found from both ends. -/
theorem exists_parent_iff (hd : d.Consistent) (p q : Query) :
    (∃ x : Handle d, (Query.join .and p (.parent q)).holds x = true) ↔
      ∃ x : Handle d, (Query.join .and q (.child p)).holds x = true := by
  have hjoin : ∀ (q q' : Query) (x : Handle d),
      (Query.join .and q q').holds x = true ↔ q.holds x = true ∧ q'.holds x = true := by
    intro q q' x
    rw [(Query.holds_by_parts _ x).2]
    exact Bool.and_eq_true_iff
  simp only [hjoin, hd.parent_holds_iff, hd.child_holds_iff]
  constructor
  · rintro ⟨x, hp, y, hlists, hq⟩
    exact ⟨y, hq, x, mem_handles x, hlists, hp⟩
  · rintro ⟨y, hq, x, _, hlists, hp⟩
    exact ⟨x, hp, y, hlists, hq⟩

end Consistent

/-- In every data set that comes of the changes, what is asked of the referrers of a primitive is what a look
at all primitives finds. Some referrer matches a query if some primitive that lists the one does. There is a
role if some relation, neither deleted nor incomplete, has the primitive as a member in it. The number of
ways of a node is the number of ways that list it. A position holds if it does at the first place of the
primitive in what some other one lists. So a primitive that matches one query and lists a primitive that
matches another is found exactly if the latter is found by asking for the former. -/
theorem Reachable.referrers_as_scanned (h : d.Reachable) :
    (∀ (q : Query) (x : Handle d), (Query.child q).holds x = true ↔
      ∃ y ∈ d.handles, y.Lists x ∧ q.holds y = true) ∧
    (∀ (role : String) (x : Handle d), (Query.role role).holds x = true ↔
      ∃ y ∈ d.handles, y.id.kind = .relation ∧ y.profile.isUsable ∧
        ∃ members, y.entry.geometry = .group members ∧ ⟨x.id, role⟩ ∈ members) ∧
    (∀ x : Handle d, x.id.kind = .node →
      measure .ways x = some ({y : Handle d | y.id.kind = .way ∧ y.Lists x}.ncard : Int)) ∧
    (∀ (position : Int) (modulo : Bool) (x : Handle d), (Query.nth position modulo).holds x = true ↔
      ∃ y ∈ d.handles, ∃ index, y.ListsFirstAt x index ∧
        isAt position modulo index y.entry.geometry.children.length = true) ∧
    ∀ p q : Query, (∃ x : Handle d, (Query.join .and p (.parent q)).holds x = true) ↔
      ∃ x : Handle d, (Query.join .and q (.child p)).holds x = true := by
  have hd := h.consistent
  refine ⟨hd.child_holds_iff, ?role, ?ways, ?nth, hd.exists_parent_iff⟩
  case role =>
    intro role x
    rw [Query.holds_eq]
    exact hd.hasRoleIn_iff role x
  case ways =>
    intro x hkind
    have hkind' : Primitive.kind x = .node := hkind
    have hcount := hd.countP_referrers x fun y => Primitive.kind y = .way
    simp only [decide_eq_true_eq] at hcount
    simp only [measure, hkind', hcount]
    rfl
  case nth =>
    intro position modulo x
    rw [Query.holds_eq]
    exact hd.isNth_iff position modulo x

/-- A way has been given other nodes, and lists one of them twice. One way lists that node, as a look at all
primitives finds too. -/
theorem referrers_as_scanned_replaced :
    let d := (empty.addWay 1 [2, 3]).addWay 1 [3, 4, 3]
    d.Reachable ∧ (d.handle? ⟨.node, 3⟩).map (measure .ways) = some (some 1) ∧
      ∀ x : Handle d, d.handle? ⟨.node, 3⟩ = some x →
        {y : Handle d | y.id.kind = .way ∧ y.Lists x}.ncard = 1 := by
  intro d
  have hd : d.Reachable := (Reachable.empty.addWay 1 _).addWay 1 _
  have hmeasure : (d.handle? ⟨.node, 3⟩).map (measure .ways) = some (some 1) := by decide +kernel
  refine ⟨hd, hmeasure, fun x hx => ?_⟩
  have hkind : x.id.kind = .node := by rw [handle?_eq_some.mp hx]
  rw [hx, Option.map_some, hd.referrers_as_scanned.2.2.1 x hkind] at hmeasure
  exact Int.ofNat.inj (Option.some.inj (Option.some.inj hmeasure))

end DataSet

end MapQuery
