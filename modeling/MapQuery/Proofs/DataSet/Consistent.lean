import MapQuery.DataSet.File
import MapQuery.DataSet.Handle
import MapQuery.Proofs.DataSet.Changes

/-!
# Data sets are consistent

Whatever is done to a data set, what its ways and relations list is there, and the referrers of each
primitive are the ways and relations that list it.

* `DataSet.Consistent` — what holds of the entries.
* `DataSet.Reachable` — the data sets that come of the changes, from nothing or from a file.
* `Consistent.add` — adding a primitive keeps a data set consistent; `Consistent.referrersOf_add` says
  which referrers there are afterwards.
* `Reachable.consistent` — so does any sequence of changes.
* `Consistent.map_id_wayNodes`, `map_memberOf_members`, `map_id_referrers` — no handle is missing.
-/

namespace MapQuery

namespace DataSet

/-- The entries agree with each other. -/
structure Consistent (d : DataSet) : Prop where
  /-- What is listed is there. -/
  present : ∀ {x y : Id}, x ∈ d.childrenOf y → d.contains x
  /-- The referrers are what lists a primitive. -/
  mem_referrersOf : ∀ {x y : Id}, y ∈ d.referrersOf x ↔ x ∈ d.childrenOf y
  /-- No referrer is kept twice. -/
  nodup : ∀ x : Id, (d.referrersOf x).Nodup
  /-- What is kept of a primitive is what its kind has. -/
  kind : ∀ x : Id, (d.entryOf x).geometry.kind = x.kind

/-- The data sets that come of the changes. -/
inductive Reachable : DataSet → Prop where
  | empty : Reachable empty
  | ofFile (f : File) : Reachable (ofFile f)
  | addNode {d : DataSet} (h : Reachable d) (number : Int) (c : Option Coordinate) :
    Reachable (d.addNode number c)
  | addWay {d : DataSet} (h : Reachable d) (number : Int) (nodes : List Int) :
    Reachable (d.addWay number nodes)
  | addRelation {d : DataSet} (h : Reachable d) (number : Int) (members : List Member) :
    Reachable (d.addRelation number members)
  | putTag {d : DataSet} (h : Reachable d) (id : Id) (key value : String) :
    Reachable (d.putTag id key value)
  | setMetadata {d : DataSet} (h : Reachable d) (id : Id) (f : Metadata → Metadata) :
    Reachable (d.setMetadata id f)
  | select {d : DataSet} (h : Reachable d) (id : Id) (on : Bool) : Reachable (d.select id on)
  | withView {d : DataSet} (h : Reachable d) (b : Option Bounds) : Reachable (d.withView b)
  | withDownloaded {d : DataSet} (h : Reachable d) (b : Option Bounds) :
    Reachable (d.withDownloaded b)

theorem Reachable.ofText {s : String} {d : DataSet} (h : ofText s = .ok d) : Reachable d := by
  unfold DataSet.ofText at h
  cases hf : File.shape.read s with
  | error e =>
    rw [hf] at h
    cases h
  | ok f =>
    rw [hf] at h
    cases h
    exact .ofFile f

variable {d : DataSet} {id x y : Id} {g : Geometry}

/-! ### Adding a primitive -/

namespace Consistent

theorem not_mem_referrersOf (hd : d.Consistent) (h : x ∉ d.childrenOf y) : y ∉ d.referrersOf x :=
  mt hd.mem_referrersOf.mp h

/-- A primitive that has been taken away from what it lists is nowhere a referrer. -/
theorem referrersOf_unlink (hd : d.Consistent) (id x : Id) :
    (d.unlink id).referrersOf x = (d.referrersOf x).filter (· ≠ id) := by
  rw [DataSet.referrersOf_unlink]
  split
  · rfl
  · next hx =>
    refine (List.filter_eq_self.mpr fun y hy => decide_eq_true ?_).symm
    rintro rfl
    exact hd.not_mem_referrersOf hx hy

/-- After a primitive has been added, the referrers are the other ones in their order, and the added one
at the end if it lists the primitive. -/
theorem referrersOf_add (hd : d.Consistent) (id x : Id) (g : Geometry) :
    (d.add id g).referrersOf x =
      (d.referrersOf x).filter (· ≠ id) ++ if x ∈ g.children then [id] else [] := by
  have hid : id ∉ (d.referrersOf x).filter (· ≠ id) := by simp
  rw [DataSet.referrersOf_add, hd.referrersOf_unlink]
  by_cases hx : x ∈ g.children
  · rw [if_pos ⟨hx, hid⟩, if_pos hx]
  · rw [if_neg (fun h => hx h.1), if_neg hx, List.append_nil]

/-- Adding a primitive keeps a data set consistent, whatever it lists and whatever it listed before. -/
theorem add (hd : d.Consistent) (hg : g.kind = id.kind) : (d.add id g).Consistent where
  present {x y} h := by
    rw [childrenOf_add] at h
    rw [contains_add]
    split at h
    · exact .inr (.inl h)
    · exact .inr (.inr (hd.present h))
  mem_referrersOf {x y} := by
    rw [hd.referrersOf_add, childrenOf_add, List.mem_append, List.mem_filter]
    by_cases hy : id = y
    · subst hy
      by_cases hx : x ∈ g.children <;> simp [hx]
    · have hne : y ≠ id := Ne.symm hy
      rw [if_neg hy, hd.mem_referrersOf]
      by_cases hx : x ∈ g.children <;> simp [hx, hne]
  nodup x := by
    rw [hd.referrersOf_add]
    refine List.nodup_append.mpr ⟨(hd.nodup x).filter _, ?_, ?_⟩
    · split <;> simp
    · intro y hy z hz
      split at hz
      · rw [List.mem_singleton.mp hz]
        exact of_decide_eq_true (List.mem_filter.mp hy).2
      · cases hz
  kind x := by
    rw [geometry_add]
    split
    · next h => rw [hg, h]
    · exact hd.kind x

/-- A change that touches neither what is listed nor what lists it. -/
theorem congr {d' : DataSet} (hd : d.Consistent) (hcontains : ∀ x, d'.contains x = d.contains x)
    (hgeometry : ∀ x, (d'.entryOf x).geometry = (d.entryOf x).geometry)
    (hreferrers : ∀ x, d'.referrersOf x = d.referrersOf x) : d'.Consistent where
  present {x y} h := by
    rw [childrenOf, hgeometry] at h
    rw [hcontains]
    exact hd.present h
  mem_referrersOf {x y} := by
    rw [hreferrers, childrenOf, hgeometry]
    exact hd.mem_referrersOf
  nodup x := by
    rw [hreferrers]
    exact hd.nodup x
  kind x := by
    rw [hgeometry]
    exact hd.kind x

/-- A change of tags and of what is known about a primitive. -/
theorem modify (hd : d.Consistent) (id : Id) {f : Entry → Entry}
    (hgeometry : ∀ e, (f e).geometry = e.geometry) (hreferrers : ∀ e, (f e).referrers = e.referrers) :
    (d.modify id f).Consistent :=
  hd.congr (fun x => contains_modify d id x f)
    (fun x => entryOf_modify_congr Entry.geometry d id x hgeometry)
    (fun x => entryOf_modify_congr Entry.referrers d id x hreferrers)

/-- A change of the selection or of the rectangles. -/
theorem of_entries_eq {d' : DataSet} (hd : d.Consistent) (h : d'.entries = d.entries) :
    d'.Consistent := by
  have hget : ∀ x, d'.get? x = d.get? x := fun x => by rw [get?, get?, h]
  refine hd.congr (fun x => ?_) (fun x => ?_) (fun x => ?_)
  · rw [contains_eq_isSome, contains_eq_isSome, hget]
  · rw [entryOf, entryOf, hget]
  · rw [referrersOf, referrersOf, entryOf, entryOf, hget]

end Consistent

/-! ### Whole histories -/

theorem consistent_of_entries_empty (h : d.entries = ∅) : d.Consistent := by
  have hentry : ∀ x, d.entryOf x = .placeholder x.kind := fun x => by
    rw [entryOf, get?, h]
    simp
  constructor
  · intro x y hx
    rw [childrenOf, hentry] at hx
    simp [Entry.placeholder] at hx
  · intro x y
    rw [referrersOf, childrenOf, hentry, hentry]
    simp [Entry.placeholder]
  · intro x
    rw [referrersOf, hentry]
    exact List.nodup_nil
  · intro x
    rw [hentry]
    exact Geometry.kind_blank x.kind

theorem Consistent.addRecord (hd : d.Consistent) (r : Record) : (d.addRecord r).Consistent :=
  (hd.add r.agrees).modify r.id (fun _ => rfl) (fun _ => rfl)

theorem Consistent.foldl_addRecord (hd : d.Consistent) (records : List Record) :
    (records.foldl DataSet.addRecord d).Consistent := by
  induction records generalizing d with
  | nil => exact hd
  | cons r records ih => exact ih (hd.addRecord r)

theorem Consistent.foldl_select (hd : d.Consistent) (ids : List Id) :
    (ids.foldl (fun d id => d.select id true) d).Consistent := by
  induction ids generalizing d with
  | nil => exact hd
  | cons id ids ih => exact ih (hd.of_entries_eq rfl)

theorem consistent_ofFile (f : File) : (ofFile f).Consistent :=
  ((consistent_of_entries_empty (d := ⟨∅, ∅, f.areas⟩) rfl).foldl_addRecord _).foldl_select _

/-- Every data set that comes of the changes is consistent. -/
theorem Reachable.consistent (h : d.Reachable) : d.Consistent := by
  induction h with
  | empty => exact consistent_of_entries_empty rfl
  | ofFile f => exact consistent_ofFile f
  | addNode _ number c ih => exact ih.add rfl
  | addWay _ number nodes ih => exact ih.add rfl
  | addRelation _ number members ih => exact ih.add rfl
  | putTag _ id key value ih => exact ih.modify id (fun _ => rfl) (fun _ => rfl)
  | setMetadata _ id f ih => exact ih.modify id (fun _ => rfl) (fun _ => rfl)
  | select _ id on ih => exact ih.of_entries_eq rfl
  | withView _ b ih => exact ih.of_entries_eq rfl
  | withDownloaded _ b ih => exact ih.of_entries_eq rfl

/-! ### Handles -/

namespace Handle

theorem entryOf_id (p : Handle d) : d.entryOf p.id = p.entry :=
  entryOf_of_get? p.found

theorem contains_id (p : Handle d) : d.contains p.id :=
  contains_iff.mpr ⟨p.entry, p.found⟩

/-- There is one handle of an id. -/
theorem eq_of_id_eq {p q : Handle d} (h : p.id = q.id) : p = q := by
  obtain ⟨i, e, he⟩ := p
  obtain ⟨j, f, hf⟩ := q
  cases h
  cases he.symm.trans hf
  rfl

end Handle

theorem handle?_of_contains (h : d.contains x) : ∃ p : Handle d, d.handle? x = some p ∧ p.id = x := by
  obtain ⟨e, he⟩ := contains_iff.mp h
  refine ⟨⟨x, e, he⟩, ?_, rfl⟩
  unfold handle?
  split
  · next e' he' =>
    cases he.symm.trans he'
    rfl
  · next hnone =>
    cases he.symm.trans hnone

theorem handle?_eq_some {p : Handle d} : d.handle? x = some p ↔ p.id = x := by
  constructor
  · intro h
    unfold handle? at h
    split at h
    · cases h
      rfl
    · cases h
  · rintro rfl
    obtain ⟨q, hq, hid⟩ := handle?_of_contains p.contains_id
    rw [hq, Handle.eq_of_id_eq hid]

theorem handle?_eq_none : d.handle? x = none ↔ ¬ d.contains x := by
  rw [Option.eq_none_iff_forall_not_mem]
  constructor
  · intro h hx
    obtain ⟨p, hp, _⟩ := handle?_of_contains hx
    exact h p hp
  · intro h p hp
    exact h (handle?_eq_some.mp hp ▸ p.contains_id)

/-- A primitive can be given one tag after the other. -/
theorem Reachable.exists_putTags {d : DataSet} (hd : d.Reachable) (p : Handle d) (l : List (String × String)) :
    ∃ d' : DataSet, d'.Reachable ∧ ∃ q : Handle d',
      q.entry = { p.entry with tags := l.foldl (fun t (key, value) => t.insert key value) p.entry.tags } := by
  induction l generalizing d p with
  | nil => exact ⟨d, hd, p, rfl⟩
  | cons tag l ih =>
    obtain ⟨key, value⟩ := tag
    have htagged : (d.putTag p.id key value).contains p.id = true :=
      (contains_modify d p.id p.id _).trans p.contains_id
    obtain ⟨q, _, hid⟩ := handle?_of_contains htagged
    have hentry : q.entry = { p.entry with tags := p.entry.tags.insert key value } := by
      rw [← q.entryOf_id, hid, DataSet.putTag, entryOf_modify_of_contains p.contains_id, if_pos rfl, p.entryOf_id]
    obtain ⟨d', hd', q', hq'⟩ := ih (hd.putTag p.id key value) q
    refine ⟨d', hd', q', ?_⟩
    rw [hq', hentry]
    rfl

/-- There is a primitive with the tags of a list, of which nothing else is known. -/
theorem exists_tagged_with (l : List (String × String)) :
    ∃ d : DataSet, d.Reachable ∧ ∃ p : Handle d, p.profile.tags = Tags.ofList l ∧
      p.profile.user = none ∧ p.profile.timestamp = none := by
  have hcontains : (empty.addNode 1 none).contains ⟨.node, 1⟩ = true := by decide +kernel
  obtain ⟨p, _, hid⟩ := handle?_of_contains hcontains
  obtain ⟨d, hd, q, hq⟩ := (Reachable.empty.addNode 1 none).exists_putTags p l
  have hentry : p.entry = (empty.addNode 1 none).entryOf ⟨.node, 1⟩ := by rw [← p.entryOf_id, hid]
  refine ⟨d, hd, q, ?_⟩
  unfold Handle.profile
  rw [hq, hentry]
  exact ⟨rfl, rfl, rfl⟩

/-- There is a primitive with one tag, of which nothing else is known. -/
theorem exists_single (key value : String) :
    ∃ d : DataSet, d.Reachable ∧ ∃ p : Handle d, p.profile.tags = Tags.empty.insert key value ∧
      p.profile.user = none ∧ p.profile.timestamp = none :=
  exists_tagged_with [(key, value)]

/-- Of ids that are there no handle is missing. -/
theorem map_id_filterMap_handle? {ids : List Id} (h : ∀ x ∈ ids, d.contains x) :
    (ids.filterMap d.handle?).map Handle.id = ids := by
  induction ids with
  | nil => rfl
  | cons x ids ih =>
    obtain ⟨p, hp, hid⟩ := handle?_of_contains (h x List.mem_cons_self)
    rw [List.filterMap_cons_some hp, List.map_cons, hid, ih fun y hy => h y (List.mem_cons_of_mem _ hy)]

/-- A member as it is kept, from its role and its handle. -/
def memberOf (m : String × Handle d) : Member :=
  ⟨m.2.id, m.1⟩

/-- Of members that are there none is missing. -/
theorem map_memberOf_filterMap {members : List Member} (h : ∀ m ∈ members, d.contains m.target) :
    (members.filterMap fun m => (d.handle? m.target).map fun p => (m.role, p)).map memberOf =
      members := by
  induction members with
  | nil => rfl
  | cons m members ih =>
    obtain ⟨p, hp, hid⟩ := handle?_of_contains (h m List.mem_cons_self)
    have hrest := ih fun m' hm' => h m' (List.mem_cons_of_mem _ hm')
    rw [List.filterMap_cons, hp, Option.map_some, List.map_cons, hrest, memberOf, hid]

namespace Consistent

theorem contains_of_mem_children (hd : d.Consistent) (p : Handle d)
    (hx : x ∈ p.entry.geometry.children) : d.contains x := by
  rw [← p.entryOf_id] at hx
  exact hd.present hx

theorem kind_eq (hd : d.Consistent) (p : Handle d) : p.entry.geometry.kind = p.id.kind := by
  rw [← p.entryOf_id]
  exact hd.kind p.id

/-- A way has as many nodes as are kept of it, in the same order. -/
theorem map_id_wayNodes (hd : d.Consistent) (p : Handle d) {nodes : List Int}
    (h : p.entry.geometry = .line nodes) : p.wayNodes.map Handle.id = nodes.map (Id.mk .node) := by
  have hchildren : p.entry.geometry.children = nodes.map (Id.mk .node) := by rw [h]; rfl
  unfold Handle.wayNodes
  rw [h]
  show (nodes.filterMap (d.handle? ∘ Id.mk .node)).map Handle.id = _
  rw [← List.filterMap_map]
  refine map_id_filterMap_handle? fun x hx => ?_
  exact hd.contains_of_mem_children p (hchildren ▸ hx)

/-- A relation has as many members as are kept of it, in the same order and with the same roles. -/
theorem map_memberOf_members (hd : d.Consistent) (p : Handle d) {members : List Member}
    (h : p.entry.geometry = .group members) : p.members.map memberOf = members := by
  unfold Handle.members
  rw [h]
  refine map_memberOf_filterMap fun m hm => hd.contains_of_mem_children p ?_
  rw [h]
  exact List.mem_map_of_mem hm

/-- No referrer is dropped. -/
theorem map_id_referrers (hd : d.Consistent) (p : Handle d) :
    p.referrers.map Handle.id = d.referrersOf p.id := by
  rw [referrersOf, p.entryOf_id]
  refine map_id_filterMap_handle? fun x hx => ?_
  have hchild : p.id ∈ d.childrenOf x := by
    rw [← hd.mem_referrersOf, referrersOf, p.entryOf_id]
    exact hx
  exact contains_of_mem_childrenOf hchild

end Consistent

/-! ### The index of a data set -/

/-- In every data set that comes of the changes, what a way or a relation lists is there, the referrers of
a primitive are just what lists it, none of them twice, and what is kept of a primitive is what its kind
has. So no node of a way, no member of a relation and no referrer is missing from the handles. -/
theorem Reachable.index_agrees (h : d.Reachable) :
    (∀ y e, d.get? y = some e → ∀ x ∈ e.geometry.children, d.contains x) ∧
      (∀ x y, y ∈ d.referrersOf x ↔ ∃ e, d.get? y = some e ∧ x ∈ e.geometry.children) ∧
      (∀ x, (d.referrersOf x).Nodup) ∧
      (∀ x e, d.get? x = some e → e.geometry.kind = x.kind) ∧
      ∀ p : Handle d,
        (∀ nodes, p.entry.geometry = .line nodes →
          p.wayNodes.map Handle.id = nodes.map (Id.mk .node)) ∧
        (∀ members, p.entry.geometry = .group members → p.members.map memberOf = members) ∧
        p.referrers.map Handle.id = d.referrersOf p.id := by
  have hd := h.consistent
  refine ⟨fun y e he x hx => ?_, fun x y => ?_, hd.nodup, fun x e he => ?_, fun p => ?_⟩
  · exact hd.contains_of_mem_children ⟨y, e, he⟩ hx
  · rw [hd.mem_referrersOf]
    constructor
    · intro hx
      obtain ⟨e, he⟩ := contains_iff.mp (contains_of_mem_childrenOf hx)
      rw [childrenOf, entryOf_of_get? he] at hx
      exact ⟨e, he, hx⟩
    · rintro ⟨e, he, hx⟩
      rw [childrenOf, entryOf_of_get? he]
      exact hx
  · exact hd.kind_eq ⟨x, e, he⟩
  · exact ⟨fun _ => hd.map_id_wayNodes p, fun _ => hd.map_memberOf_members p, hd.map_id_referrers p⟩

/-- A relation that is a member of itself, with a way that lists a node twice. -/
theorem index_agrees_self :
    let d := (empty.addWay 1 [2, 3, 2]).addRelation 5 [⟨⟨.relation, 5⟩, "self"⟩, ⟨⟨.way, 1⟩, ""⟩]
    d.Reachable ∧ d.referrersOf ⟨.node, 2⟩ = [⟨.way, 1⟩] ∧
      (∀ y, y ∈ d.referrersOf ⟨.relation, 5⟩ ↔
        ∃ e, d.get? y = some e ∧ ⟨.relation, 5⟩ ∈ e.geometry.children) ∧
      ∀ p : Handle d, p.referrers.map Handle.id = d.referrersOf p.id := by
  intro d
  have hd : d.Reachable := (Reachable.empty.addWay 1 _).addRelation 5 _
  have hindex := hd.index_agrees
  exact ⟨hd, by decide +kernel, hindex.2.1 _, fun p => (hindex.2.2.2.2 p).2.2⟩

end DataSet

end MapQuery
