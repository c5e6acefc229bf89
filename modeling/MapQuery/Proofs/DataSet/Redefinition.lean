import Mathlib.Data.List.Induction
import MapQuery.Proofs.DataSet.Area
import MapQuery.Proofs.DataSet.Order
import MapQuery.Proofs.DataSet.Scanned

/-!
# Primitives that are added again

A node, way or relation that is added again takes the place of the one before. What the old one listed is no
longer kept as listed by it, but stays in the data set: nothing is ever taken out of one. What has not been
added itself, and is listed no more, stays there without tags, and incomplete.

* `latest` — the additions that no later one replaces.
* `entryFrom` — the entry of an id, from the additions that are left.
* `entryOf_addAll` — an entry is known from the latest additions.
* `AgreesOn.holds_eq` — no query tells primitives apart on which consistent data sets agree.
* `addAll_latest` — a data set and the one of its latest additions.
-/

namespace MapQuery

theorem Entry.eq_of_content {e e' : Entry} (h : e.content = e'.content) (hr : e.referrers = e'.referrers) :
    e = e' := by
  obtain ⟨tags, metadata, geometry, referrers⟩ := e
  obtain ⟨tags', metadata', geometry', referrers'⟩ := e'
  cases h
  cases hr
  rfl

namespace DataSet

/-! ### Latest additions -/

namespace Addition

/-- Added by itself, and not with the tags that a file has. -/
def isBare : Addition → Bool
  | record _ => false
  | _ => true

theorem update_of_isBare {a : Addition} (h : a.isBare) (e : Entry) :
    a.update e = { e with geometry := a.geometry, metadata := { e.metadata with incomplete := false } } := by
  cases a with
  | record r => cases h
  | _ => rfl

end Addition

/-- The additions that no later one replaces. -/
def latest : List Addition → List Addition
  | [] => []
  | a :: added => if added.any (·.id = a.id) then latest added else a :: latest added

/-- One more addition replaces those of the same id. -/
theorem latest_concat (added : List Addition) (a : Addition) :
    latest (added ++ [a]) = (latest added).filter (·.id ≠ a.id) ++ [a] := by
  induction added with
  | nil => rfl
  | cons b added ih =>
    rw [List.cons_append, latest, latest, List.any_append, ih]
    by_cases hb : b.id = a.id
    · have hreplaced : [a].any (·.id = b.id) = true := by simp [hb]
      rw [hreplaced, Bool.or_true, if_pos rfl]
      split
      · rfl
      · rw [List.filter_cons_of_neg (by simp [hb])]
    · have hkept : [a].any (·.id = b.id) = false := by simp [Ne.symm hb]
      rw [hkept, Bool.or_false]
      split
      · rfl
      · rw [List.filter_cons_of_pos (by simp [hb])]
        rfl

theorem latest_sublist (added : List Addition) : (latest added).Sublist added := by
  induction added with
  | nil => exact .slnil
  | cons a added ih =>
    rw [latest]
    split
    · exact ih.cons a
    · exact ih.cons_cons a

/-- Of whatever has been added there is a latest addition. -/
theorem exists_mem_latest {added : List Addition} {a : Addition} (ha : a ∈ added) :
    ∃ b ∈ latest added, b.id = a.id := by
  induction added generalizing a with
  | nil => cases ha
  | cons c added ih =>
    have hlater : ∀ {b}, b ∈ added → ∃ e ∈ latest (c :: added), e.id = b.id := fun hb => by
      obtain ⟨e, he, hid⟩ := ih hb
      refine ⟨e, ?_, hid⟩
      rw [latest]
      split
      · exact he
      · exact List.mem_cons_of_mem c he
    rcases List.mem_cons.mp ha with rfl | ha
    · by_cases hany : added.any (·.id = a.id)
      · obtain ⟨b, hb, hid⟩ := List.any_eq_true.mp hany
        rw [← of_decide_eq_true hid]
        exact hlater hb
      · rw [latest, if_neg hany]
        exact ⟨a, List.mem_cons_self, rfl⟩
    · exact hlater ha

/-- Additions that do not replace each other are all left. -/
theorem latest_of_nodup {added : List Addition} (h : (added.map Addition.id).Nodup) :
    latest added = added := by
  induction added with
  | nil => rfl
  | cons a added ih =>
    obtain ⟨hnew, hnodup⟩ := List.nodup_cons.mp h
    have hany : ¬ added.any (·.id = a.id) := fun hany => by
      obtain ⟨b, hb, hid⟩ := List.any_eq_true.mp hany
      exact hnew (of_decide_eq_true hid ▸ List.mem_map_of_mem hb)
    rw [latest, if_neg hany, ih hnodup]

theorem nodup_latest (added : List Addition) : ((latest added).map Addition.id).Nodup := by
  induction added using List.reverseRecOn with
  | nil => exact List.nodup_nil
  | append_singleton added a ih =>
    rw [latest_concat, List.map_append, List.nodup_append]
    refine ⟨ih.sublist (List.filter_sublist.map _), List.nodup_singleton _, fun x hx y hy => ?_⟩
    obtain ⟨b, hb, rfl⟩ := List.mem_map.mp hx
    rw [List.mem_singleton.mp hy]
    exact of_decide_eq_true (List.mem_filter.mp hb).2

/-- Nothing is left to be replaced. -/
theorem latest_latest (added : List Addition) : latest (latest added) = latest added :=
  latest_of_nodup (nodup_latest added)

/-! ### Entries -/

/-- The entry of an id after additions that do not replace each other. -/
def entryFrom (added : List Addition) (x : Id) : Entry where
  tags := .empty
  metadata := { Metadata.blank with incomplete := added.all (·.id ≠ x) }
  geometry := ((added.find? (·.id = x)).map Addition.geometry).getD (.blank x.kind)
  referrers := (added.filter (x ∈ ·.geometry.children)).map Addition.id

theorem addAll_concat (d : DataSet) (added : List Addition) (a : Addition) :
    d.addAll (added ++ [a]) = a.perform (d.addAll added) := by
  rw [addAll, List.foldl_append]
  rfl

/-- What one more addition does to the entry of its own id. -/
theorem content_entryFrom_self {a : Addition} (ha : a.isBare) (added : List Addition) :
    (entryFrom (added.filter (·.id ≠ a.id) ++ [a]) a.id).content =
      a.update (entryFrom added a.id).content := by
  have hfind : (added.filter (·.id ≠ a.id) ++ [a]).find? (·.id = a.id) = some a := by
    rw [List.find?_append, List.find?_eq_none.mpr fun b hb => ?_]
    · simp
    · simpa using (List.mem_filter.mp hb).2
  have hall : (added.filter (·.id ≠ a.id) ++ [a]).all (·.id ≠ a.id) = false := by simp
  rw [Addition.update_of_isBare ha]
  simp only [entryFrom, Entry.content, hfind, hall]
  rfl

/-- What one more addition does to the entry of another id: nothing. -/
theorem content_entryFrom_of_ne {a : Addition} {x : Id} (hx : a.id ≠ x) (added : List Addition) :
    (entryFrom (added.filter (·.id ≠ a.id) ++ [a]) x).content = (entryFrom added x).content := by
  have hfind : (added.filter (·.id ≠ a.id) ++ [a]).find? (·.id = x) = added.find? (·.id = x) := by
    have hlast : [a].find? (·.id = x) = none := by simp [hx]
    rw [List.find?_append, hlast, Option.or_none, List.find?_filter]
    congr 1
    funext b
    by_cases hb : b.id = x <;> simp [hb, Ne.symm hx]
  have hall : (added.filter (·.id ≠ a.id) ++ [a]).all (·.id ≠ x) = added.all (·.id ≠ x) := by
    have hlast : [a].all (·.id ≠ x) = true := by simp [hx]
    rw [List.all_append, hlast, Bool.and_true, List.all_filter]
    congr 1
    funext b
    by_cases hb : b.id = x <;> simp [hb, Ne.symm hx]
  simp only [entryFrom, Entry.content, hfind, hall]

theorem referrers_entryFrom (a : Addition) (added : List Addition) (x : Id) :
    (entryFrom (added.filter (·.id ≠ a.id) ++ [a]) x).referrers =
      (entryFrom added x).referrers.filter (· ≠ a.id) ++ if x ∈ a.geometry.children then [a.id] else [] := by
  have hlast : ([a].filter (x ∈ ·.geometry.children)).map Addition.id =
      if x ∈ a.geometry.children then [a.id] else [] := by
    by_cases hx : x ∈ a.geometry.children <;> simp [hx]
  -- What is dropped from the additions is what is dropped from the referrers.
  simp only [entryFrom, List.filter_append, List.map_append, hlast, List.filter_map, List.filter_filter]
  congr 3
  funext b
  simp [Bool.and_comm]

/-- An entry is known from the latest additions. The induction is on the additions, the last one of which has
been made last. -/
theorem entryOf_addAll {added : List Addition} (h : ∀ a ∈ added, a.isBare) (x : Id) :
    (empty.addAll added).entryOf x = entryFrom (latest added) x := by
  induction added using List.reverseRecOn with
  | nil =>
    show empty.entryOf x = _
    rw [entryOf, get?_empty]
    rfl
  | append_singleton added a ih =>
    have hadded : (empty.addAll added).Consistent := (consistent_of_entries_empty rfl).addAll added
    have ih := ih fun b hb => h b (List.mem_append_left _ hb)
    rw [addAll_concat, latest_concat]
    refine Entry.eq_of_content ?_ ?_
    · rw [a.content_perform, ih]
      split
      · next hx =>
        subst hx
        exact (content_entryFrom_self (h a (by simp)) _).symm
      · next hx => exact (content_entryFrom_of_ne hx _).symm
    · -- Where the old addition has been entered, the new one is entered at the end.
      rw [referrers_entryFrom, ← ih]
      exact a.referrersOf_perform hadded x

/-- A data set has what has been added and whatever that lists. -/
theorem contains_addAll (d : DataSet) (added : List Addition) (x : Id) :
    (d.addAll added).contains x ↔ d.contains x ∨ ∃ a ∈ added, a.id = x ∨ x ∈ a.geometry.children := by
  induction added using List.reverseRecOn with
  | nil => simp [addAll]
  | append_singleton added a ih =>
    rw [addAll_concat, a.contains_perform, ih]
    simp only [List.mem_append, List.mem_singleton, or_and_right, exists_or, exists_eq_left]
    rw [← or_assoc, or_comm, or_assoc]

theorem frame_addAll (d : DataSet) (added : List Addition) : (d.addAll added).frame = d.frame := by
  induction added using List.reverseRecOn with
  | nil => rfl
  | append_singleton added a ih => rw [addAll_concat, a.frame_perform, ih]

/-! ### Queries -/

namespace AgreesOn

variable {d d' : DataSet} {known : Id → Prop} {p : Handle d} {p' : Handle d'}

/-- The search for what is inside a rectangle has fuel enough in both data sets, and more makes no
difference. -/
theorem isInArea_eq (h : AgreesOn known d d') (hd : d.Consistent) (hd' : d'.Consistent)
    (hp : p.SameKnown known p') (area : Area) (all : Bool) (areas : Areas) :
    isInArea area all areas p = isInArea area all areas p' := by
  -- The data sets differ in size, so that the search is run with one fuel that is enough for both.
  have hfuel : d.absent [] + 2 ≤ d.size + d'.size + 3 := by
    have := d.absent_le_size []
    omega
  have hfuel' : d'.absent [] + 2 ≤ d.size + d'.size + 3 := by
    have := d'.absent_le_size []
    omega
  have hrun := h.isCorrespondence.isInside_eq (areas.get? area) all (d.size + d'.size + 3) hp []
  rw [hd.run_isInside_nil area all areas p hfuel, hd'.run_isInside_nil area all areas p' hfuel'] at hrun
  have hholds : (Query.inArea area all areas).holds p = (Query.inArea area all areas).holds p' :=
    congrArg Prod.fst (Option.some.inj hrun)
  rwa [Query.holds_eq_satisfied, Query.holds_eq_satisfied] at hholds

/-- No query tells primitives apart on which consistent data sets agree, unless a condition of the host looks
at what is around a primitive. -/
theorem holds_eq (h : AgreesOn known d d') (hd : d.Consistent) (hd' : d'.Consistent)
    (hp : p.SameKnown known p') {q : Query} (hq : q.IsLocal) : q.holds p = q.holds p' :=
  h.isCorrespondence.holds_eq (fun hp => h.isInArea_eq hd hd' hp) hq hp

end AgreesOn

/-- What a search finds stands in order. -/
theorem ordered_search (d : DataSet) (q : Query) :
    ((d.search q).map Handle.id).Pairwise fun x y => compare x y = .lt := by
  have hids : d.handles.map Handle.id = d.ids := map_id_filterMap_handle? fun x hx => mem_ids.mp hx
  have hsub : ((d.search q).map Handle.id).Sublist d.ids := by
    rw [← hids]
    exact List.filter_sublist.map _
  exact Std.TreeMap.ordered_keys.sublist hsub

theorem mem_map_id_search {d : DataSet} {q : Query} {x : Id} :
    x ∈ (d.search q).map Handle.id ↔ ∃ p : Handle d, q.holds p ∧ p.id = x := by
  have hmem : ∀ p : Handle d, p ∈ d.search q ↔ q.holds p := fun p => by
    rw [search, List.mem_filter]
    exact and_iff_right (mem_handles p)
  simp only [List.mem_map, hmem]

namespace AgreesOn

variable {d d' : DataSet}

/-- A data set that has all of another one, with the same entries. -/
theorem of_entryOf_eq (hd' : d'.Consistent) (hcontains : ∀ x, d'.contains x → d.contains x)
    (hentry : ∀ x, d.entryOf x = d'.entryOf x) (hselected : d.selected = d'.selected) :
    AgreesOn (fun x => d'.contains x) d d' where
  contains x hx := (hcontains x hx).trans hx.symm
  content x _ := by rw [hentry]
  referrers x _ := by rw [referrersOf, hentry, referrersOf]
  selected x _ := by rw [hselected]
  listed x _ y hy := hd'.present hy
  listing x _ y hy := contains_of_mem_childrenOf (hd'.mem_referrersOf.mp hy)

/-- Of the primitives on which the data sets agree a search finds the same ones in the same order. -/
theorem filter_search (h : AgreesOn (fun x => d'.contains x) d d') (hd : d.Consistent) (hd' : d'.Consistent)
    {q : Query} (hq : q.IsLocal) :
    ((d.search q).map Handle.id).filter d'.contains = (d'.search q).map Handle.id := by
  refine eq_of_ordered ((d.ordered_search q).filter _) (d'.ordered_search q) fun x => ?_
  rw [List.mem_filter, mem_map_id_search, mem_map_id_search]
  constructor
  · rintro ⟨⟨p, hp, rfl⟩, hx⟩
    obtain ⟨p', -, hid⟩ := handle?_of_contains hx
    refine ⟨p', ?_, hid⟩
    rwa [← h.holds_eq hd hd' ⟨hid.symm, p'.contains_id⟩ hq]
  · rintro ⟨p', hp', rfl⟩
    have hx := (h.contains p'.id p'.contains_id).trans p'.contains_id
    obtain ⟨p, -, hid⟩ := handle?_of_contains hx
    refine ⟨⟨p, ?_, hid⟩, p'.contains_id⟩
    rwa [h.holds_eq hd hd' ⟨hid, p'.contains_id⟩ hq]

end AgreesOn

/-! ### Additions that replace each other -/

/-- Whatever a data set has that the one of its latest additions has not is listed by an addition. -/
theorem contains_addAll_latest (added : List Addition) (x : Id) :
    (empty.addAll added).contains x ↔
      (empty.addAll (latest added)).contains x ∨ ∃ a ∈ added, x ∈ a.geometry.children := by
  rw [contains_addAll, contains_addAll]
  constructor
  · rintro (hx | ⟨a, ha, rfl | hx⟩)
    · exact .inl (.inl hx)
    · obtain ⟨b, hb, hid⟩ := exists_mem_latest ha
      exact .inl (.inr ⟨b, hb, .inl hid⟩)
    · exact .inr ⟨a, ha, hx⟩
  · rintro ((hx | ⟨a, ha, hx⟩) | ⟨a, ha, hx⟩)
    · exact .inl hx
    · exact .inr ⟨a, (latest_sublist added).subset ha, hx⟩
    · exact .inr ⟨a, ha, .inr hx⟩

/-- Nodes, ways and relations are added to nothing, and some of them again. Every primitive of the data set of
the latest additions is in the data set of all of them, with the same tags, metadata, geometry and referrers.
Whatever else is there is listed by an addition that has been replaced: it stands there as a placeholder, and
nothing lists it. So no query tells the data sets apart on the primitives that both have, unless a condition of
the host looks around, and of these a search finds the same ones in the same order. -/
theorem addAll_latest (added : List Addition) (h : ∀ a ∈ added, a.isBare) :
    let d := empty.addAll added
    let d' := empty.addAll (latest added)
    (∀ x, d.entryOf x = d'.entryOf x) ∧
      (∀ x, d.contains x ↔ d'.contains x ∨ ∃ a ∈ added, x ∈ a.geometry.children) ∧
      (∀ x, ¬ d'.contains x → d.entryOf x = .placeholder x.kind ∧ ∀ y, x ∉ d.childrenOf y) ∧
      d.selected = d'.selected ∧ d.areas = d'.areas ∧
      (∀ q : Query, q.IsLocal → ∀ (p : Handle d) (p' : Handle d'), p.SameId p' → q.holds p = q.holds p') ∧
      ∀ q : Query, q.IsLocal →
        ((d.search q).map Handle.id).filter d'.contains = (d'.search q).map Handle.id := by
  intro d d'
  have hd : d.Consistent := (consistent_of_entries_empty rfl).addAll added
  have hd' : d'.Consistent := (consistent_of_entries_empty rfl).addAll (latest added)
  have hentry : ∀ x, d.entryOf x = d'.entryOf x := fun x => by
    rw [entryOf_addAll h, entryOf_addAll fun a ha => h a ((latest_sublist added).subset ha), latest_latest]
  have hcontains := contains_addAll_latest added
  have hframe : d.frame = d'.frame :=
    (frame_addAll empty added).trans (frame_addAll empty (latest added)).symm
  have hselected : d.selected = d'.selected := congrArg Prod.fst hframe
  have hagrees : AgreesOn (fun x => d'.contains x) d d' :=
    .of_entryOf_eq hd' (fun x hx => (hcontains x).mpr (.inl hx)) hentry hselected
  refine ⟨hentry, hcontains, fun x hx => ⟨?_, fun y hy => ?_⟩, hselected, congrArg Prod.snd hframe, ?_, ?_⟩
  · rw [hentry]
    exact entryOf_of_not_contains hx
  · rw [childrenOf, hentry] at hy
    exact hx (hd'.present hy)
  · intro q hq p p' hid
    exact hagrees.holds_eq hd hd' ⟨hid, p'.contains_id⟩ hq
  · intro q hq
    exact hagrees.filter_search hd hd' hq

/-- A way that is added again, after a relation that lists it: the node that it no longer lists stays, and the
node that it still lists comes to stand behind the relation among the referrers. -/
theorem addAll_latest_relinked :
    let added : List Addition :=
      [.way 1 [5, 6], .relation 2 [⟨⟨.way, 1⟩, "outer"⟩, ⟨⟨.node, 6⟩, ""⟩], .node 6 none, .way 1 [6, 7, 6]]
    let d := empty.addAll added
    let d' := empty.addAll (latest added)
    (∀ a ∈ added, a.isBare) ∧ latest added = added.tail ∧
      d.referrersOf ⟨.node, 6⟩ = [⟨.relation, 2⟩, ⟨.way, 1⟩] ∧
      (∀ x, d.entryOf x = d'.entryOf x) ∧
      d.contains ⟨.node, 5⟩ ∧ d.entryOf ⟨.node, 5⟩ = .placeholder .node ∧
      ((d.search (.state .incomplete)).map Handle.id).filter d'.contains =
        (d'.search (.state .incomplete)).map Handle.id := by
  intro added d d'
  have hbare : ∀ a ∈ added, a.isBare := by decide
  obtain ⟨hentry, hcontains, hleft, -, -, -, hsearch⟩ := addAll_latest added hbare
  have hmissing : ¬ d'.contains ⟨.node, 5⟩ := by decide +kernel
  have hlisted : ∃ a ∈ added, ⟨.node, 5⟩ ∈ a.geometry.children := by decide
  exact ⟨hbare, rfl, by decide +kernel, hentry, (hcontains _).mpr (.inr hlisted), (hleft _ hmissing).1,
    hsearch _ (Query.isLocal_of_conditions_eq_nil rfl)⟩

/-- A way that is added again with another node leaves the first node behind, where a search finds it. So the
data set and the one of its latest additions have not the same primitives, and not the same hits. -/
theorem placeholder_is_left :
    let added : List Addition := [.way 1 [5], .way 1 [6]]
    let d := empty.addAll added
    let d' := empty.addAll (latest added)
    let hits (d : DataSet) := (d.search (.state .incomplete)).map Handle.id
    (∀ a ∈ added, a.isBare) ∧ latest added = [.way 1 [6]] ∧
      d.ids = [⟨.node, 5⟩, ⟨.node, 6⟩, ⟨.way, 1⟩] ∧ d'.ids = [⟨.node, 6⟩, ⟨.way, 1⟩] ∧ d.ids ≠ d'.ids ∧
      hits d = [⟨.node, 5⟩, ⟨.node, 6⟩] ∧ hits d' = [⟨.node, 6⟩] ∧ hits d ≠ hits d' := by
  intro added d d' hits
  have hids : d.ids = [⟨.node, 5⟩, ⟨.node, 6⟩, ⟨.way, 1⟩] := by decide +kernel
  have hids' : d'.ids = [⟨.node, 6⟩, ⟨.way, 1⟩] := by decide +kernel
  have hhits : hits d = [⟨.node, 5⟩, ⟨.node, 6⟩] := by decide +kernel
  have hhits' : hits d' = [⟨.node, 6⟩] := by decide +kernel
  refine ⟨by decide, rfl, hids, hids', ?_, hhits, hhits', ?_⟩
  · rw [hids, hids']
    decide
  · rw [hhits, hhits']
    decide

end DataSet

end MapQuery
