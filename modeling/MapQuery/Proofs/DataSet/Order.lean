import MapQuery.Proofs.DataSet.Content

/-!
# Data sets built in any order

A primitive that is listed before it is added stands in the data set without tags until then, and the
referrers of a primitive are kept in the order in which they came. Neither leaves a trace: where nothing is
added twice, the order of the additions makes no difference to what a data set says.

* `Addition` — a primitive that is added, by itself or as a file has it.
* `Addition.content_perform`, `contains_perform`, `referrersOf_perform` — what an addition does.
* `SameContent.perform` — an addition keeps the same content the same.
* `SameContent.perform_comm` — two additions of different primitives may change places.
* `SameContent.addAll` — so may any number of them.
* `same_in_any_order` — data sets of the same additions, and of the same records of a file.
-/

namespace MapQuery

namespace DataSet

/-! ### Additions -/

/-- A primitive that is added. -/
inductive Addition where
  | node (number : Int) (coordinate : Option Coordinate)
  | way (number : Int) (nodes : List Int)
  | relation (number : Int) (members : List Member)
  /-- A primitive of a file, with all its tags and all that is known about it. -/
  | record (r : Record)

namespace Addition

/-- The id of what is added. -/
def id : Addition → Id
  | node number _ => ⟨.node, number⟩
  | way number _ => ⟨.way, number⟩
  | relation number _ => ⟨.relation, number⟩
  | record r => r.id

/-- Where the added node is, or what the added way or relation lists. -/
def geometry : Addition → Geometry
  | node _ c => .point c
  | way _ nodes => .line nodes
  | relation _ members => .group members
  | record r => r.geometry

/-- Adds it. -/
def perform (d : DataSet) : Addition → DataSet
  | node number c => d.addNode number c
  | way number nodes => d.addWay number nodes
  | relation number members => d.addRelation number members
  | record r => d.addRecord r

/-- An entry without referrers after the addition, from the one before it. -/
def update (a : Addition) (e : Entry) : Entry :=
  match a with
  | record r => { e with tags := r.tags, metadata := r.metadata, geometry := r.geometry }
  | a => { e with geometry := a.geometry, metadata := { e.metadata with incomplete := false } }

variable {d : DataSet}

theorem contains_perform (a : Addition) (d : DataSet) (x : Id) :
    (a.perform d).contains x ↔ a.id = x ∨ x ∈ a.geometry.children ∨ d.contains x := by
  cases a with
  | record r =>
    show ((d.add r.id r.geometry).modify r.id _).contains x = true ↔ _
    rw [contains_modify]
    exact contains_add d r.id x r.geometry
  | _ => exact contains_add d _ x _

theorem content_perform (a : Addition) (d : DataSet) (x : Id) :
    ((a.perform d).entryOf x).content =
      if a.id = x then a.update (d.entryOf x).content else (d.entryOf x).content := by
  cases a with
  | record r =>
    have hadded : (d.add r.id r.geometry).contains r.id := (contains_add d r.id r.id r.geometry).mpr (.inl rfl)
    show (((d.add r.id r.geometry).modify r.id _).entryOf x).content = if r.id = x then _ else _
    rw [entryOf_modify_of_contains hadded]
    split
    · next hx =>
      show Entry.mk r.tags r.metadata ((d.add r.id r.geometry).entryOf x).geometry [] =
        Entry.mk r.tags r.metadata r.geometry []
      rw [geometry_add, if_pos hx]
    · next hx => rw [content_add, if_neg hx]
  | _ => exact content_add d _ x _

theorem referrersOf_perform (hd : d.Consistent) (a : Addition) (x : Id) :
    (a.perform d).referrersOf x =
      (d.referrersOf x).filter (· ≠ a.id) ++ if x ∈ a.geometry.children then [a.id] else [] := by
  cases a with
  | record r =>
    refine Eq.trans ?_ (hd.referrersOf_add r.id x r.geometry)
    exact entryOf_modify_congr Entry.referrers (d.add r.id r.geometry) r.id x fun _ => rfl
  | _ => exact hd.referrersOf_add _ x _

theorem frame_perform (a : Addition) (d : DataSet) : (a.perform d).frame = d.frame := by
  cases a with
  | record r => exact (frame_modify _ _ _).trans (frame_add d r.id r.geometry)
  | _ => exact frame_add d _ _

theorem selected_perform (a : Addition) (d : DataSet) : (a.perform d).selected = d.selected :=
  congrArg Prod.fst (a.frame_perform d)

theorem areas_perform (a : Addition) (d : DataSet) : (a.perform d).areas = d.areas :=
  congrArg Prod.snd (a.frame_perform d)

theorem consistent_perform (hd : d.Consistent) (a : Addition) : (a.perform d).Consistent := by
  cases a with
  | record r => exact hd.addRecord r
  | _ => exact hd.add rfl

end Addition

/-- Adds one primitive after the other. -/
def addAll (d : DataSet) (added : List Addition) : DataSet :=
  added.foldl (fun d a => a.perform d) d

theorem Consistent.addAll {d : DataSet} (hd : d.Consistent) (added : List Addition) :
    (d.addAll added).Consistent := by
  induction added generalizing d with
  | nil => exact hd
  | cons a added ih => exact ih (a.consistent_perform hd)

/-! ### The selection -/

theorem contains_foldl_select (d : DataSet) (ids : List Id) (x : Id) :
    (ids.foldl (fun d id => d.select id true) d).selected.contains x = true ↔
      x ∈ ids ∨ d.selected.contains x = true := by
  induction ids generalizing d with
  | nil => simp
  | cons id ids ih =>
    have hinsert : (d.select id true).selected.contains x = true ↔ id = x ∨ d.selected.contains x = true := by
      show (d.selected.insert id).contains x = true ↔ _
      rw [Std.TreeSet.contains_insert, Bool.or_eq_true, beq_iff_eq, Std.LawfulEqCmp.compare_eq_iff_eq]
    rw [List.foldl_cons, ih, hinsert, List.mem_cons, or_left_comm, or_assoc, @eq_comm _ id]

/-- A selection changes nothing else. -/
theorem foldl_select_eq (d : DataSet) (ids : List Id) :
    ids.foldl (fun d id => d.select id true) d =
      { d with selected := (ids.foldl (fun d id => d.select id true) d).selected } := by
  induction ids generalizing d with
  | nil => rfl
  | cons id ids ih =>
    rw [List.foldl_cons, ih]
    rfl

/-! ### The order of additions -/

namespace SameContent

variable {d d' : DataSet}

/-- An addition keeps the same content the same. -/
theorem perform (h : SameContent d d') (hd : d.Consistent) (hd' : d'.Consistent) (a : Addition) :
    SameContent (a.perform d) (a.perform d') where
  contains x := by
    rw [Bool.eq_iff_iff, a.contains_perform, a.contains_perform, h.contains]
  content x := by
    rw [a.content_perform, a.content_perform, h.content]
  referrers x := by
    rw [a.referrersOf_perform hd, a.referrersOf_perform hd']
    exact ((h.referrers x).filter _).append_right _
  selected x := by
    rw [a.selected_perform, a.selected_perform, h.selected]
  areas := by
    rw [a.areas_perform, a.areas_perform, h.areas]

/-- One that has been entered stays where another one is taken out. -/
theorem filter_ne_entered {x y : Id} (h : x ≠ y) (listed : Prop) [Decidable listed] :
    (if listed then [x] else []).filter (· ≠ y) = if listed then [x] else [] := by
  split
  · exact List.filter_cons_of_pos (decide_eq_true h)
  · rfl

/-- Two additions of different primitives may change places. -/
theorem perform_comm (hd : d.Consistent) {a b : Addition} (hab : a.id ≠ b.id) :
    SameContent (b.perform (a.perform d)) (a.perform (b.perform d)) where
  contains x := by
    rw [Bool.eq_iff_iff, b.contains_perform, a.contains_perform, a.contains_perform, b.contains_perform]
    grind
  content x := by
    rw [b.content_perform, a.content_perform, a.content_perform, b.content_perform]
    by_cases ha : a.id = x
    · have hb : b.id ≠ x := fun hb => hab (ha.trans hb.symm)
      simp only [if_pos ha, if_neg hb]
    · rw [if_neg ha, if_neg ha]
  referrers x := by
    -- Neither addition takes out what the other one has entered, so that both stand at the end.
    rw [b.referrersOf_perform (a.consistent_perform hd), a.referrersOf_perform hd,
      a.referrersOf_perform (b.consistent_perform hd), b.referrersOf_perform hd, List.filter_append,
      List.filter_append, filter_ne_entered hab, filter_ne_entered hab.symm, List.filter_filter,
      List.filter_filter, List.append_assoc, List.append_assoc]
    simp only [Bool.and_comm]
    exact List.perm_append_comm.append_left _
  selected x := by
    rw [b.selected_perform, a.selected_perform, a.selected_perform, b.selected_perform]
  areas := by
    rw [b.areas_perform, a.areas_perform, a.areas_perform, b.areas_perform]

/-- The same additions to data sets of the same content. -/
theorem addAll (h : SameContent d d') (hd : d.Consistent) (hd' : d'.Consistent) (added : List Addition) :
    SameContent (d.addAll added) (d'.addAll added) := by
  induction added generalizing d d' with
  | nil => exact h
  | cons a added ih => exact ih (h.perform hd hd' a) (a.consistent_perform hd) (a.consistent_perform hd')

/-- Additions of different primitives may be made in any order. -/
theorem of_perm {added added' : List Addition} (hperm : added.Perm added')
    (hnodup : (added.map Addition.id).Nodup) (hd : d.Consistent) :
    SameContent (d.addAll added) (d.addAll added') := by
  induction hperm generalizing d with
  | nil => exact .refl d
  | cons a _ ih => exact ih (List.nodup_cons.mp hnodup).2 (a.consistent_perform hd)
  | swap a b added =>
    have hne : a.id ≠ b.id := fun h => (List.nodup_cons.mp hnodup).1 (h ▸ List.mem_cons_self)
    exact (perform_comm hd hne.symm).addAll (a.consistent_perform (b.consistent_perform hd))
      (b.consistent_perform (a.consistent_perform hd)) added
  | trans hperm _ ih ih' =>
    have hnodup' := (hperm.map Addition.id).nodup_iff.mp hnodup
    exact (ih hnodup hd).trans (ih' hnodup' hd)

/-- The same primitives may be selected in any order. -/
theorem select (h : SameContent d d') {ids ids' : List Id} (hids : ∀ x, x ∈ ids ↔ x ∈ ids') :
    SameContent (ids.foldl (fun d id => d.select id true) d)
      (ids'.foldl (fun d id => d.select id true) d') := by
  have hselected : ∀ x, (ids.foldl (fun d id => d.select id true) d).selected.contains x =
      (ids'.foldl (fun d id => d.select id true) d').selected.contains x := fun x => by
    rw [Bool.eq_iff_iff, contains_foldl_select, contains_foldl_select, hids, h.selected]
  rw [foldl_select_eq d ids, foldl_select_eq d' ids']
  exact ⟨h.contains, h.content, h.referrers, hselected, h.areas⟩

end SameContent

/-! ### Files -/

/-- Two files differ in the order of their records and of the selection at most. -/
structure File.Reordered (f f' : File) : Prop where
  areas : f.areas = f'.areas
  selected : f.selected.Perm f'.selected
  nodes : f.nodes.Perm f'.nodes
  ways : f.ways.Perm f'.ways
  relations : f.relations.Perm f'.relations

/-- The records of a file. -/
def File.records (f : File) : List Record :=
  f.nodes ++ f.ways ++ f.relations

/-- The data set of a file comes of its records as additions, and of its selection. -/
theorem ofFile_eq (f : File) :
    ofFile f = f.selected.foldl (fun d id => d.select id true)
      ((⟨∅, ∅, f.areas⟩ : DataSet).addAll (f.records.map .record)) := by
  unfold ofFile addAll
  rw [List.foldl_map]
  rfl

theorem SameContent.ofFile {f f' : File} (h : f.Reordered f') (hnodup : (f.records.map Record.id).Nodup) :
    SameContent (ofFile f) (ofFile f') := by
  have hrecords : f.records.Perm f'.records := (h.nodes.append h.ways).append h.relations
  have hids : ((f.records.map Addition.record).map Addition.id).Nodup := by
    rw [List.map_map]
    exact hnodup
  have hadded := SameContent.of_perm (hrecords.map Addition.record) hids
    (consistent_of_entries_empty (d := ⟨∅, ∅, f.areas⟩) rfl)
  rw [ofFile_eq, ofFile_eq, ← h.areas]
  exact hadded.select fun x => h.selected.mem_iff

/-- Additions to a data set that comes of the changes may be made in any order, if none of them adds what
another one does, and so may the records of a file and its selection stand in any order. The data sets have
the same primitives with the same tags, metadata and geometry, the same selection, and the same referrers but
for their order. No query tells them apart, unless a condition of the host looks at what is around a primitive,
and a search finds the same primitives in the same order. -/
theorem same_in_any_order :
    (∀ (d : DataSet) (added added' : List Addition), d.Reachable → added.Perm added' →
      (added.map Addition.id).Nodup →
        SameContent (d.addAll added) (d.addAll added') ∧
          SameAnswers Query.IsLocal (d.addAll added) (d.addAll added')) ∧
      ∀ f f' : File, f.Reordered f' → (f.records.map Record.id).Nodup →
        SameContent (ofFile f) (ofFile f') ∧ SameAnswers Query.IsLocal (ofFile f) (ofFile f') := by
  constructor
  · intro d added added' hd hperm hnodup
    have hsame := SameContent.of_perm hperm hnodup hd.consistent
    exact ⟨hsame, hsame.sameAnswers⟩
  · intro f f' hreordered hnodup
    have hsame := SameContent.ofFile hreordered hnodup
    exact ⟨hsame, hsame.sameAnswers⟩

/-- A node, a way and a relation, from the node on and from the relation on: the referrers of the node come
in another order, and the answers are the same. So they are where two ways of a file change places. -/
theorem same_in_any_order_backwards :
    let added : List Addition :=
      [.node 1 (some ⟨1.5, 2.5⟩), .way 2 [1, 3, 1], .relation 4 [⟨⟨.node, 1⟩, "stop"⟩, ⟨⟨.way, 2⟩, ""⟩]]
    let ways : List Record :=
      [⟨⟨.way, 2⟩, .line [1, 3], .empty, .blank, rfl⟩, ⟨⟨.way, 5⟩, .line [1], .empty, .blank, rfl⟩]
    let f : File := ⟨.unknown, [⟨.node, 1⟩], [], ways, []⟩
    let f' : File := ⟨.unknown, [⟨.node, 1⟩], [], ways.reverse, []⟩
    (empty.addAll added).referrersOf ⟨.node, 1⟩ = [⟨.way, 2⟩, ⟨.relation, 4⟩] ∧
      (empty.addAll added.reverse).referrersOf ⟨.node, 1⟩ = [⟨.relation, 4⟩, ⟨.way, 2⟩] ∧
      SameAnswers Query.IsLocal (empty.addAll added) (empty.addAll added.reverse) ∧
      SameAnswers Query.IsLocal (ofFile f) (ofFile f') := by
  intro added ways f f'
  have hadded := same_in_any_order.1 empty added added.reverse .empty added.reverse_perm.symm (by decide)
  have hreordered : f.Reordered f' := ⟨rfl, .refl _, .refl _, ways.reverse_perm.symm, .refl _⟩
  have hfile := same_in_any_order.2 f f' hreordered (by decide)
  exact ⟨by decide +kernel, by decide +kernel, hadded.2, hfile.2⟩

end DataSet

end MapQuery
